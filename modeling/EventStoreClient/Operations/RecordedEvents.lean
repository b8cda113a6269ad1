import EventStoreClient.Operations.Parsing
import EventStoreClient.Operations.Requests

/-!
# Recorded events

An event as the user writes it, as it goes to the server, as the server keeps it, and as
the user has it back.
-/

namespace EventStoreClient

open Foundation Operations Wire

/-!
# Ids

`guid` of a pointer copies 16 bytes, whatever there is.
-/

def Wire.Guid.ofBytes? (bytes : Bytes) : Option Guid :=
  if h : 16 ≤ bytes.length then
    some
      { data := bytes.take 16
        size_eq := List.length_take_of_le h }
  else none

theorem Wire.Guid.ofBytes?_data (id : Guid) : Guid.ofBytes? id.data = some id := by
  have hlong : 16 ≤ id.data.length := Nat.le_of_eq id.size_eq.symm
  rw [Guid.ofBytes?, dif_pos hlong]
  congr 1
  cases id with
  | mk data size_eq =>
      congr 1
      exact List.take_of_length_le (Nat.le_of_eq size_eq)

theorem Wire.Guid.data_ofBytes? {bytes : Bytes} {id : Guid} (h : Guid.ofBytes? bytes = some id) :
    id.data = bytes.take 16 := by
  unfold Guid.ofBytes? at h
  split at h
  · cases h
    rfl
  · cases h

namespace Operations

/-!
# `recorded_event`

The accessors of the event, and of a `resolved_event` around it.  A slice has the events
of its response, one for one.
-/

structure RecordedEvent where
  streamId : Bytes
  eventId : Guid
  eventNumber : Int
  eventType : Bytes
  content : Bytes
  metadata : Bytes
  isJson : Bool
  created : Int
  createdEpoch : Int
  deriving DecidableEq

/-- The constructor, which reads past the end of an id that is too short. -/
def RecordedEvent.ofMessage : Messages.eventRecord.Message -> Option RecordedEvent
  | (eventStreamId, eventNumber, eventId, eventType, dataContentType, _, data, metadata, created,
      createdEpoch, _) =>
      (Guid.ofBytes? (read eventId)).map fun id =>
        { streamId := read eventStreamId
          eventId := id
          eventNumber := read (number eventNumber)
          eventType := read eventType
          content := read data
          metadata := read metadata
          isJson := read (number32 dataContentType) = 1
          created := read (number created)
          createdEpoch := read (number createdEpoch) }

structure RecordedResolved where
  event : Option RecordedEvent
  link : Option RecordedEvent
  deriving DecidableEq

namespace RecordedResolved

def record : Option Messages.eventRecord.Message -> Option (Option RecordedEvent)
  | none => some none
  | some m => (RecordedEvent.ofMessage m).map some

def ofMessage : Messages.resolvedIndexedEvent.Message -> Option RecordedResolved
  | (event, link, _) =>
      match record event, record link with
      | some event, some link => some { event := event, link := link }
      | _, _ => none

end RecordedResolved

def sliceRecords : Messages.readStreamEventsCompleted.Message -> Option (List RecordedResolved)
  | (events, _) => List.mapM RecordedResolved.ofMessage events

/-- A `recorded_event` has the fields of the event that it is made from. -/
structure Shows (e : EventRecord) (r : RecordedEvent) : Prop where
  streamId_eq : r.streamId = read e.eventStreamId
  eventNumber_eq : r.eventNumber = read e.eventNumber
  eventId_eq : r.eventId.data = (read e.eventId).take 16
  eventType_eq : r.eventType = read e.eventType
  content_eq : r.content = read e.data
  metadata_eq : r.metadata = read e.metadata

structure ShowsResolved (e : ResolvedIndexedEvent) (r : RecordedResolved) : Prop where
  event : Option.Rel Shows e.event r.event
  link : Option.Rel Shows e.link r.link

theorem shows_ofMessage {m : Messages.eventRecord.Message} {r : RecordedEvent}
    (h : RecordedEvent.ofMessage m = some r) : Shows (EventRecord.ofMessage m) r := by
  rcases Option.map_eq_some_iff.mp h with ⟨id, hid, rfl⟩
  exact
    { streamId_eq := rfl
      eventNumber_eq := rfl
      eventId_eq := Wire.Guid.data_ofBytes? hid
      eventType_eq := rfl
      content_eq := rfl
      metadata_eq := rfl }

theorem shows_record {m : Option Messages.eventRecord.Message} {r : Option RecordedEvent}
    (h : RecordedResolved.record m = some r) :
    Option.Rel Shows (m.map EventRecord.ofMessage) r := by
  cases m with
  | none =>
      cases h
      exact Option.Rel.none
  | some m =>
      rcases Option.map_eq_some_iff.mp h with ⟨r, hr, rfl⟩
      exact Option.Rel.some (shows_ofMessage hr)

theorem showsResolved_ofMessage {m : Messages.resolvedIndexedEvent.Message}
    {r : RecordedResolved} (h : RecordedResolved.ofMessage m = some r) :
    ShowsResolved (ResolvedIndexedEvent.ofMessage m) r := by
  rcases m with ⟨event, link, _⟩
  simp only [RecordedResolved.ofMessage] at h
  cases hevent : RecordedResolved.record event with
  | none =>
      rw [hevent] at h
      cases h
  | some shown =>
      cases hlink : RecordedResolved.record link with
      | none =>
          rw [hevent, hlink] at h
          cases h
      | some linked =>
          rw [hevent, hlink] at h
          cases h
          exact ⟨shows_record hevent, shows_record hlink⟩

theorem showsAll_mapM {events : List Messages.resolvedIndexedEvent.Message}
    {records : List RecordedResolved}
    (h : events.mapM RecordedResolved.ofMessage = some records) :
    List.Forall₂ ShowsResolved (events.map ResolvedIndexedEvent.ofMessage) records := by
  induction events generalizing records with
  | nil =>
      cases h
      exact List.Forall₂.nil
  | cons m events ih =>
      rw [List.mapM_cons] at h
      rcases Option.bind_eq_some_iff.mp h with ⟨r, hr, hrest⟩
      rcases Option.bind_eq_some_iff.mp hrest with ⟨others, hothers, heq⟩
      cases heq
      exact List.Forall₂.cons (showsResolved_ofMessage hr) (ih hothers)

theorem sliceRecords_shows {m : Messages.readStreamEventsCompleted.Message}
    {records : List RecordedResolved} (h : sliceRecords m = some records) :
    List.Forall₂ ShowsResolved (ReadStreamEventsCompleted.ofMessage m).events records :=
  showsAll_mapM h

/-!
# What the server keeps

An answer with one record after another shows the events that were written.
-/

/-- The record of an event that has been written to a stream as its `n`th one. -/
inductive Keeps (stream : Bytes) (n : Nat) :
    Messages.newEvent.Message -> Messages.eventRecord.Message -> Prop where
  | record {eventId eventType data metadata : Option Bytes}
      {dataContentType metadataContentType : Option Int32} {eventNumber : Int64}
      (created createdEpoch : Option Int64) (hnumber : eventNumber.toInt = n) :
      Keeps stream n
        (eventId, eventType, dataContentType, metadataContentType, data, metadata, ())
        (some stream, some eventNumber, eventId, eventType, dataContentType,
          metadataContentType, data, metadata, created, createdEpoch, ())

/-- The user has back what was written.  Whether there was any metadata is not told from
empty one. -/
structure Returned (stream : Bytes) (n : Nat) (e : EventData) (r : RecordedEvent) : Prop where
  streamId_eq : r.streamId = stream
  eventNumber_eq : r.eventNumber = n
  eventId_eq : r.eventId = e.eventId
  eventType_eq : r.eventType = e.type
  content_eq : r.content = e.content
  metadata_eq : r.metadata = e.metadata.getD []
  isJson_eq : r.isJson = e.isJson

theorem contentType_isJson (isJson : Bool) :
    decide (read (number32 (some (contentType isJson))) = 1) = isJson := by
  cases isJson with
  | false => rfl
  | true => rfl

theorem returned_of_keeps {stream : Bytes} {n : Nat} {e : EventData}
    {m : Messages.eventRecord.Message} (h : Keeps stream n (newEvent e) m) :
    exists r, RecordedEvent.ofMessage m = some r ∧ Returned stream n e r := by
  rw [newEvent] at h
  cases h with
  | record created createdEpoch hnumber =>
      refine ⟨_, Option.map_eq_some_iff.mpr ⟨e.eventId, Guid.ofBytes?_data e.eventId, rfl⟩, ?_⟩
      exact
        { streamId_eq := rfl
          eventNumber_eq := hnumber
          eventId_eq := rfl
          eventType_eq := rfl
          content_eq := rfl
          metadata_eq := by cases e.metadata <;> rfl
          isJson_eq := contentType_isJson e.isJson }

abbrev KeepsAll (stream : Bytes) :
    List (Messages.newEvent.Message × Nat) ->
      List Messages.resolvedIndexedEvent.Message -> Prop :=
  List.Forall₂ fun kept resolved =>
    exists record, resolved = (some record, none, ()) ∧ Keeps stream kept.2 kept.1 record

/-- The user has back one event after another, none of which is a link. -/
abbrev ReturnedAll (stream : Bytes) : List (EventData × Nat) -> List RecordedResolved -> Prop :=
  List.Forall₂ fun written resolved =>
    exists r, resolved = { event := some r, link := none } ∧
      Returned stream written.2 written.1 r

theorem returnedAll_of_keepsAll {stream : Bytes} {written : List (EventData × Nat)}
    {events : List Messages.resolvedIndexedEvent.Message}
    (h : KeepsAll stream (written.map fun kept => (newEvent kept.1, kept.2)) events) :
    exists records, events.mapM RecordedResolved.ofMessage = some records ∧
      ReturnedAll stream written records := by
  induction written generalizing events with
  | nil =>
      cases h
      exact ⟨[], rfl, List.Forall₂.nil⟩
  | cons kept rest ih =>
      rw [List.map_cons] at h
      cases h with
      | cons hfirst hrest =>
          rename_i resolved events
          rcases hfirst with ⟨m, heq, hkeeps⟩
          rcases returned_of_keeps hkeeps with ⟨r, hr, hreturned⟩
          rcases ih hrest with ⟨records, hrecords, hall⟩
          refine ⟨{ event := some r, link := none } :: records, ?_, ?_⟩
          · have hresolved : RecordedResolved.ofMessage resolved =
                some { event := some r, link := none } := by
              rw [heq]
              simp only [RecordedResolved.ofMessage, RecordedResolved.record, hr, Option.map_some]
            simp [List.mapM_cons, hresolved, hrecords]
          · exact List.Forall₂.cons ⟨r, rfl, hreturned⟩ hall

/-!
# `system::streams`

`original_stream_of` gives the first two bytes of a name, and not those after them; so the
stream that a metadata stream is for is found for a single one.
-/

def isMetaStream (stream : Bytes) : Bool := [0x24, 0x24].isPrefixOf stream

def originalStreamOf (metaStream : Bytes) : Bytes := metaStream.take 2

theorem metaStreamOf_injective {stream other : Bytes}
    (h : metaStreamOf stream = metaStreamOf other) : stream = other :=
  List.append_cancel_left h

theorem isMetaStream_iff {stream : Bytes} :
    isMetaStream stream = true <-> exists original, stream = metaStreamOf original := by
  rw [isMetaStream, List.isPrefixOf_iff_prefix]
  constructor
  · rintro ⟨original, rfl⟩
    exact ⟨original, rfl⟩
  · rintro ⟨original, rfl⟩
    exact ⟨original, rfl⟩

theorem originalStreamOf_metaStreamOf_iff (stream : Bytes) :
    originalStreamOf (metaStreamOf stream) = stream <-> stream = [0x24, 0x24] :=
  eq_comm

end Operations
end EventStoreClient
