import EventStoreClient.Operations.RecordedEvents
import EventStoreClient.Session.Order
import EventStoreClient.Session.Results

/-!
# Stored events

What the users of a session write, a server that keeps it, and what they read from this
server later.
-/

namespace EventStoreClient

open Connection Foundation Operations Wire

/-!
# Writes

A log has the events of a server, each with its stream, oldest first.  The server has the
events as the user has written them.
-/

namespace Operations

abbrev Log := List (Bytes × Messages.newEvent.Message)

def Log.events (stream : Bytes) (log : Log) : List Messages.newEvent.Message :=
  (log.filter fun kept => kept.1 = stream).map Prod.snd

def eventsOfWrite : Messages.writeEvents.Message -> Log
  | (stream, _, events, _) => List.map (fun e => (Option.getD stream [], e)) events

def ReadRequest.events (q : ReadRequest) : Log :=
  if q.request.command = TcpCommand.writeEvents then
    eventsOfWrite (Messages.writeEvents.parseFromArray q.request.serialized).message
  else []

namespace ClientRequest

def writes : ClientRequest -> List (Bytes × EventData)
  | appendToStream stream events _ => events.map fun e => (stream, e)
  | conditionalAppendToStream stream events _ => events.map fun e => (stream, e)
  | setStreamMetadata eventId stream _ metadata =>
      [(metaStreamOf stream,
        { eventId := eventId
          type := streamMetadataType
          isJson := true
          content := metadata
          metadata := none })]
  | _ => []

def metadataFor (stream : Bytes) : ClientRequest -> Option Bytes
  | setStreamMetadata _ stream' _ metadata => if stream' = stream then some metadata else none
  | _ => none

end ClientRequest

def stored (written : Bytes × EventData) : Bytes × Messages.newEvent.Message :=
  (written.1, newEvent written.2)

theorem events_asyncAppendToStream {connection : ConnectionSettings} {stream : Bytes}
    {events : List EventData} {expectedVersion : Int64}
    (hsize : Messages.writeEvents.byteSizeLong
      (asyncAppendToStream connection stream events expectedVersion).message < 2 ^ 31)
    (key : Guid) (credentials : Option (Bytes × Bytes)) :
    ReadRequest.events
        { correlationId := key
          credentials := credentials
          request := asyncAppendToStream connection stream events expectedVersion } =
      (events.map fun e => (stream, e)).map stored := by
  have hparsed : Messages.writeEvents.parseFromArray
      (asyncAppendToStream connection stream events expectedVersion).serialized =
        { message := (asyncAppendToStream connection stream events expectedVersion).message
          ok := _ } :=
    MessageType.parseFromArray_serialize (MessageType.fits_of_size hsize)
  have hevents := congrArg
    (fun parsed : Merged Messages.writeEvents.Message => eventsOfWrite parsed.message) hparsed
  have hwrite : eventsOfWrite
      (asyncAppendToStream connection stream events expectedVersion).message =
        (events.map fun e => (stream, e)).map stored := by
    rw [List.map_map]
    exact List.map_map
  exact (if_pos rfl).trans (hevents.trans hwrite)

theorem events_readBack {connection : ConnectionSettings} {r : ClientRequest}
    (hsize : r.messageSize connection < 2 ^ 31) (key : Guid) :
    (r.readBack connection key).events = r.writes.map stored := by
  cases r with
  | appendToStream stream events expectedVersion =>
      exact events_asyncAppendToStream hsize key _
  | conditionalAppendToStream stream events expectedVersion =>
      exact events_asyncAppendToStream hsize key _
  | setStreamMetadata eventId stream expectedMetastreamVersion metadata =>
      exact events_asyncAppendToStream hsize key _
  | readStreamEvents stream direction fromEventNumber maxCount resolveLinkTos =>
      cases direction with
      | forward => exact if_neg (of_decide_eq_false rfl)
      | backward => exact if_neg (of_decide_eq_false rfl)
  | readAllEvents direction commitPosition preparePosition maxCount resolveLinkTos =>
      cases direction with
      | forward => exact if_neg (of_decide_eq_false rfl)
      | backward => exact if_neg (of_decide_eq_false rfl)
  | _ => exact if_neg (of_decide_eq_false rfl)

/-!
# A server

What is stored is what was written by the requests that are carried out.  If nobody but
`set_stream_metadata` writes to the metadata stream, its events are the metadata that was
set.
-/

/-- Which requests the server carries out, given what it has stored before. -/
abbrev Store := Log -> ReadRequest -> Bool

namespace Store

def log (v : Store) : Log -> List ReadRequest -> Log
  | kept, [] => kept
  | kept, q :: rest => v.log (if v kept q then kept ++ q.events else kept) rest

def written (done : List ClientRequest) : List (Bytes × EventData) :=
  done.flatMap ClientRequest.writes

def carriedOut (v : Store) (connection : ConnectionSettings) :
    List ClientRequest -> List (Guid × ClientRequest) -> List ClientRequest
  | done, [] => done
  | done, request :: rest =>
      v.carriedOut connection
        (if v ((written done).map stored) (request.2.readBack connection request.1) then
          done ++ [request.2]
        else done) rest

theorem carriedOut_subset (v : Store) (connection : ConnectionSettings)
    (done : List ClientRequest) (requests : List (Guid × ClientRequest)) {r : ClientRequest}
    (hr : r ∈ v.carriedOut connection done requests) :
    r ∈ done ∨ r ∈ requests.map Prod.snd := by
  induction requests generalizing done with
  | nil => exact Or.inl hr
  | cons request rest ih =>
      rw [List.map_cons, List.mem_cons]
      rw [carriedOut] at hr
      rcases ih _ hr with hdone | hrest
      · split at hdone
        · rcases List.mem_append.mp hdone with hold | hnew
          · exact Or.inl hold
          · exact Or.inr (Or.inl (List.mem_singleton.mp hnew))
        · exact Or.inl hdone
      · exact Or.inr (Or.inr hrest)

theorem log_readBack (v : Store) {connection : ConnectionSettings}
    {requests : List (Guid × ClientRequest)}
    (hfits : forall request, request ∈ requests -> request.2.Fits connection)
    (done : List ClientRequest) :
    v.log ((written done).map stored)
        (requests.map fun request => request.2.readBack connection request.1) =
      (written (v.carriedOut connection done requests)).map stored := by
  induction requests generalizing done with
  | nil => rfl
  | cons request rest ih =>
      rw [List.forall_mem_cons] at hfits
      have hsize := (ClientRequest.fits_iff.mp hfits.left).right
      rw [List.map_cons, log, carriedOut]
      split
      · rw [events_readBack hsize, ← List.map_append, ← ih hfits.right, written, written,
          List.flatMap_append, List.flatMap_singleton]
      · exact ih hfits.right done

end Store

def writtenTo (stream : Bytes) (done : List ClientRequest) : List EventData :=
  ((Store.written done).filter fun w => w.1 = stream).map Prod.snd

theorem events_stored (stream : Bytes) (done : List ClientRequest) :
    Log.events stream ((Store.written done).map stored) = (writtenTo stream done).map newEvent := by
  rw [Log.events, writtenTo, List.filter_map, List.map_map, List.map_map]
  rfl

theorem writtenTo_cons (stream : Bytes) (r : ClientRequest) (done : List ClientRequest) :
    writtenTo stream (r :: done) =
      (r.writes.filter fun w => w.1 = stream).map Prod.snd ++ writtenTo stream done := by
  rw [writtenTo, Store.written, List.flatMap_cons, List.filter_append, List.map_append]
  rfl

def OnlySet (stream : Bytes) (done : List ClientRequest) : Prop :=
  forall r, r ∈ done -> r.metadataFor stream = none ->
    metaStreamOf stream ∉ r.writes.map Prod.fst

theorem writtenTo_metaStream {stream : Bytes} {done : List ClientRequest}
    (honly : OnlySet stream done) :
    (writtenTo (metaStreamOf stream) done).map EventData.content =
      done.filterMap (ClientRequest.metadataFor stream) := by
  induction done with
  | nil => rfl
  | cons r rest ih =>
      have hrest : OnlySet stream rest := fun r' hr' => honly r' (List.mem_cons_of_mem r hr')
      rw [writtenTo_cons, List.map_append, ih hrest]
      cases hset : r.metadataFor stream with
      | none =>
          have hother := honly r List.mem_cons_self hset
          have hnone : (r.writes.filter fun w => w.1 = metaStreamOf stream) = [] := by
            rw [List.filter_eq_nil_iff]
            intro w hw heq
            exact hother (of_decide_eq_true heq ▸ List.mem_map_of_mem hw)
          rw [List.filterMap_cons_none hset, hnone]
          rfl
      | some metadata =>
          rw [List.filterMap_cons_some hset]
          cases r with
          | setStreamMetadata eventId stream' expectedMetastreamVersion metadata' =>
              rw [ClientRequest.metadataFor] at hset
              split at hset
              · rename_i heq
                cases hset
                subst heq
                simp [ClientRequest.writes]
              · cases hset
          | _ => cases hset

/-!
# Reads

A reader has the events back that were written.
-/

/-- The answer to a read of a stream, from a number on, of a server that keeps these events
for it. -/
inductive ReadsForward (stream : Bytes) (kept : List Messages.newEvent.Message)
    (start count : Nat) : Messages.readStreamEventsCompleted.Message -> Prop where
  | slice {events : List Messages.resolvedIndexedEvent.Message}
      (nextEventNumber lastEventNumber : Option Int64) (isEndOfStream : Option Bool)
      (lastCommitPosition : Option Int64) (error : Option Bytes)
      (h : KeepsAll stream ((kept.zipIdx.drop start).take count) events) :
      ReadsForward stream kept start count
        (events, some ReadStreamResult.success, nextEventNumber, lastEventNumber,
          isEndOfStream, lastCommitPosition, error, ())

inductive ReadsLast (stream : Bytes) (kept : List Messages.newEvent.Message) :
    Messages.readEventCompleted.Message -> Prop where
  | nothing {result : ReadEventResult}
      (hresult : result = ReadEventResult.noStream ∨ result = ReadEventResult.notFound)
      (event : Option Messages.resolvedIndexedEvent.Message) (error : Option Bytes)
      (h : kept = []) : ReadsLast stream kept (some result, event, error, ())
  | last {before : List Messages.newEvent.Message} {e : Messages.newEvent.Message}
      {record : Messages.eventRecord.Message} (error : Option Bytes)
      (h : kept = before ++ [e]) (hkeeps : Keeps stream before.length e record) :
      ReadsLast stream kept
        (some ReadEventResult.success, some (some record, none, ()), error, ())

theorem zipIdx_newEvent (events : List EventData) (start count : Nat) :
    ((events.map newEvent).zipIdx.drop start).take count =
      ((events.zipIdx.drop start).take count).map fun kept => (newEvent kept.1, kept.2) := by
  rw [List.zipIdx_map, ← List.map_drop, ← List.map_take]
  rfl

theorem records_readsForward {stream : Bytes} {events : List EventData} {start count : Nat}
    {m : Messages.readStreamEventsCompleted.Message}
    (h : ReadsForward stream (events.map newEvent) start count m) :
    exists records, sliceRecords m = some records ∧
      ReturnedAll stream ((events.zipIdx.drop start).take count) records := by
  cases h with
  | slice nextEventNumber lastEventNumber isEndOfStream lastCommitPosition error hkeeps =>
      rw [zipIdx_newEvent] at hkeeps
      exact returnedAll_of_keepsAll hkeeps

/-- What `get_stream_metadata` reports for the last event of the metadata stream. -/
def lastMetadata (stream : Bytes) (contents : List Bytes) : StreamMetadataResultRaw :=
  { stream := stream
    isStreamDeleted := false
    metaStreamVersion := (contents.length : Int) - 1
    streamMetadata := contents.getLast?.getD [] }

def deletedMetadata (stream : Bytes) : StreamMetadataResultRaw :=
  { stream := stream
    isStreamDeleted := true
    metaStreamVersion := int64Max
    streamMetadata := [] }

theorem success_of_verdict {stream : Bytes} {fromEventNumber : Int}
    {direction : ReadDirection} {response : ReadStreamEventsCompleted}
    (hverdict : (readStreamEvents protobuf stream fromEventNumber direction).verdict response =
      Verdict.success) : read response.result = ReadStreamResult.success := by
  unfold readStreamEvents at hverdict
  cases hresult : read response.result with
  | success => rfl
  | _ => simp [hresult, unexpectedResponse] at hverdict

/-- The metadata is told where the last event was found or there is none, and where the
stream was deleted. -/
theorem metadata_cases {stream : Bytes} {response : ReadEventCompleted}
    {call : Call (Option StreamMetadataResultRaw)}
    (hcall : call ∈
      ((ClientOperation.readStreamEvent (metaStreamOf stream) (-1)).told response).flatMap
        (streamMetadata stream))
    (hec : call.ec = none) :
    read response.result ∈
        [ReadEventResult.success, ReadEventResult.notFound, ReadEventResult.noStream] ∨
      call.result = some (deletedMetadata stream) := by
  cases hresult : read response.result with
  | success => exact Or.inl List.mem_cons_self
  | notFound => exact Or.inl (by decide)
  | noStream => exact Or.inl (by decide)
  | streamDeleted =>
      right
      simp only [ClientOperation.told, ClientOperation.responder, readStreamEvent, hresult,
        eventReadStatus] at hcall
      rw [List.mem_singleton.mp hcall]
      rfl
  | error =>
      simp only [ClientOperation.told, ClientOperation.responder, readStreamEvent, hresult,
        eventReadStatus] at hcall
      rw [List.mem_singleton.mp hcall] at hec
      cases hec
  | accessDenied =>
      simp only [ClientOperation.told, ClientOperation.responder, readStreamEvent, hresult,
        eventReadStatus] at hcall
      rw [List.mem_singleton.mp hcall] at hec
      cases hec

theorem told_readsLast {stream : Bytes} {events : List EventData}
    {m : Messages.readEventCompleted.Message}
    (h : ReadsLast (metaStreamOf stream) (events.map newEvent) m) :
    ((ClientOperation.readStreamEvent (metaStreamOf stream) (-1)).told
        (ReadEventCompleted.ofMessage m)).flatMap (streamMetadata stream) =
      [{ ec := none, result := some (lastMetadata stream (events.map EventData.content)) }] := by
  cases h with
  | nothing hresult event error hnone =>
      have hevents : events = [] := List.map_eq_nil_iff.mp hnone
      subst hevents
      rcases hresult with rfl | rfl
      · rfl
      · rfl
  | @last before e record error hlast hkeeps =>
      rcases List.map_eq_append_iff.mp hlast with ⟨first, rest, rfl, rfl, hrest⟩
      rcases List.map_eq_singleton_iff.mp hrest with ⟨written, rfl, rfl⟩
      rw [newEvent] at hkeeps
      cases hkeeps with
      | record created createdEpoch hnumber =>
          rw [List.length_map] at hnumber
          simp [lastMetadata, ← hnumber]
          rfl

end Operations

namespace Session

/-!
# In a session

The server answers from its store, as it is at some time after it has read the request.
-/

/-- An answer that the server makes from what it had stored at some time after it had read
the request. -/
def MadeFrom (w : Setting) (v : Store) (s : State) (key : Guid) (answers : Log -> Prop) :
    Prop :=
  exists n, key ∈ ((s.served w).reduceOption.take n).map ReadRequest.correlationId ∧
    answers (v.log [] ((s.served w).reduceOption.take n))

/-- What the server reads to a user, of a stream or of its metadata, is from its store.  It
may also answer anything else. -/
structure ServesStore (w : Setting) (v : Store) (s : State) : Prop where
  streams : forall p, p ∈ s.replies -> forall stream fromEventNumber maxCount resolveLinkTos,
    (p.correlationId,
      ClientRequest.readStreamEvents stream .forward fromEventNumber maxCount
        resolveLinkTos) ∈ s.requests ->
    p.command = TcpCommand.readStreamEventsForwardCompleted ->
      exists m, Messages.readStreamEventsCompleted.Fits m ∧
        Messages.readStreamEventsCompleted.Carries m p.message ∧
        (read (ReadStreamEventsCompleted.ofMessage m).result = ReadStreamResult.success ->
          MadeFrom w v s p.correlationId fun log =>
            ReadsForward stream (log.events stream) fromEventNumber.toInt.toNat
              maxCount.toInt.toNat m)
  metadata : forall p, p ∈ s.replies -> forall stream,
    (p.correlationId, ClientRequest.getStreamMetadata stream) ∈ s.requests ->
    p.command = TcpCommand.readEventCompleted ->
      exists m, Messages.readEventCompleted.Fits m ∧
        Messages.readEventCompleted.Carries m p.message ∧
        (read (ReadEventCompleted.ofMessage m).result ∈
            [ReadEventResult.success, ReadEventResult.notFound, ReadEventResult.noStream] ->
          MadeFrom w v s p.correlationId fun log =>
            ReadsLast (metaStreamOf stream) (log.events (metaStreamOf stream)) m)

section Storage

variable {w : Setting} {s last : State} {v : Store} {inputs : List Input}

/-- Such an answer is made from what was written by the first requests, up to the one that
is answered or further. -/
theorem MadeFrom.requests (hshort : ShortCredentials w.connection) (h : Consistent w s)
    (horder : InOrder w s)
    (hfits : forall request, request ∈ s.requests -> request.2.Fits w.connection) {key : Guid}
    {answers : Log -> Prop} (hmade : MadeFrom w v s key answers) :
    exists before after, s.requests = before ++ after ∧ key ∈ before.map Prod.fst ∧
      answers ((Store.written (v.carriedOut w.connection [] before)).map stored) := by
  rcases hmade with ⟨n, hkey, hanswers⟩
  have hserved := h.served_start hshort horder
  rw [readable_of_fits hfits] at hserved
  have hstart := (List.take_prefix n _).trans hserved
  obtain ⟨k, htake⟩ : exists k, (s.served w).reduceOption.take n =
      (s.requests.take k).map fun request =>
        request.2.readBack w.connection request.1 := by
    refine ⟨((s.served w).reduceOption.take n).length, ?_⟩
    rw [List.map_take]
    exact List.prefix_iff_eq_take.mp hstart
  rw [htake] at hkey hanswers
  refine ⟨s.requests.take k, s.requests.drop k, (List.take_append_drop k _).symm, ?_, ?_⟩
  · rw [List.map_map] at hkey
    exact hkey
  · have hfirst : forall request, request ∈ s.requests.take k ->
        request.2.Fits w.connection :=
      fun request hrequest => hfits request (List.mem_of_mem_take hrequest)
    rw [← v.log_readBack hfirst []]
    exact hanswers

theorem Consistent.told_reply (h : Consistent w s) {key : Guid} {received : Package}
    (htold : (key, received) ∈ s.told) :
    exists p, p ∈ s.replies ∧ p.correlationId = key ∧ p.received = received := by
  rcases List.mem_map.mp (h.told.told_order.subset htold) with ⟨p, hp, hcall⟩
  cases hcall
  exact ⟨p, List.mem_of_mem_take hp, rfl, rfl⟩

/-- The response of a slice that is told is made from what was written by the first
requests. -/
theorem told_readsForward (hshort : ShortCredentials w.connection)
    (hrun : run (step w) initial inputs = some last)
    (hfits : forall request, request ∈ last.requests -> request.2.Fits w.connection)
    (hserves : ServesStore w v last) {key : Guid} {stream : Bytes} {fromEventNumber : Int64}
    {maxCount : Int32} {resolveLinkTos : Bool}
    (hread : (key, ClientRequest.readStreamEvents stream .forward fromEventNumber maxCount
      resolveLinkTos) ∈ last.requests)
    {p : Package} (htold : (key, p) ∈ last.told)
    (hslice : exists call,
      call ∈ (readStreamEvents protobuf stream fromEventNumber.toInt .forward).respond
        (Answer.package p) ∧ call.ec = none) :
    exists before after m, last.requests = before ++ after ∧ key ∈ before.map Prod.fst ∧
      (Messages.readStreamEventsCompleted.parseFromArray p.message).message = m ∧
      ReadsForward stream
        ((writtenTo stream (v.carriedOut w.connection [] before)).map newEvent)
        fromEventNumber.toInt.toNat maxCount.toInt.toNat m := by
  have h := run_consistent hshort hrun
  rcases h.told_reply htold with ⟨reply, hreply, rfl, rfl⟩
  rcases Responder.respond_success_iff.mp hslice with ⟨_, hpackage, hcommand, hverdict⟩
  cases hpackage
  rcases hserves.streams reply hreply stream fromEventNumber maxCount resolveLinkTos hread
    hcommand with ⟨m, hm, hcarries, hmade⟩
  have hparsed := MessageType.parseFromArray_carries hm hcarries
  have hview : (protobuf.readStreamEventsCompleted reply.received.message).message =
      ReadStreamEventsCompleted.ofMessage m :=
    congrArg (fun parsed : Merged Messages.readStreamEventsCompleted.Message =>
      ReadStreamEventsCompleted.ofMessage parsed.message) hparsed
  have hsuccess : read (ReadStreamEventsCompleted.ofMessage m).result =
      ReadStreamResult.success := by
    rw [← hview]
    exact success_of_verdict hverdict
  rcases (hmade hsuccess).requests hshort h (run_inOrder hshort hrun) hfits with
    ⟨before, after, hrequests, hkey, hanswer⟩
  rw [events_stored] at hanswer
  exact ⟨before, after, m, hrequests, hkey, congrArg Merged.message hparsed, hanswer⟩

/-- Whoever is told a slice of a stream has back, in order, the events that were written to
the stream by the requests that the server has carried out, those before the read among
them: they are what the events of the slice show. -/
theorem run_readsWritten (hshort : ShortCredentials w.connection)
    (hrun : run (step w) initial inputs = some last)
    (hfits : forall request, request ∈ last.requests -> request.2.Fits w.connection)
    (hserves : ServesStore w v last) {key : Guid} {stream : Bytes} {fromEventNumber : Int64}
    {maxCount : Int32} {resolveLinkTos : Bool}
    (hread : (key, ClientRequest.readStreamEvents stream .forward fromEventNumber maxCount
      resolveLinkTos) ∈ last.requests)
    {p : Package} (htold : (key, p) ∈ last.told) {call : Call (Option StreamEventsSlice)}
    (hcall : call ∈ (readStreamEvents protobuf stream fromEventNumber.toInt .forward).respond
      (Answer.package p))
    (hec : call.ec = none) :
    exists before after slice records, last.requests = before ++ after ∧
      key ∈ before.map Prod.fst ∧ call.result = some slice ∧
      sliceRecords (Messages.readStreamEventsCompleted.parseFromArray p.message).message =
        some records ∧
      List.Forall₂ ShowsResolved slice.events records ∧
      ReturnedAll stream
        (((writtenTo stream (v.carriedOut w.connection [] before)).zipIdx.drop
          fromEventNumber.toInt.toNat).take maxCount.toInt.toNat) records := by
  rcases told_readsForward hshort hrun hfits hserves hread htold ⟨call, hcall, hec⟩ with
    ⟨before, after, m, hrequests, hkey, hparsed, hanswer⟩
  rcases records_readsForward hanswer with ⟨records, hrecords, hreturned⟩
  have hslice := (congrArg sliceRecords hparsed).trans hrecords
  exact ⟨before, after, _, records, hrequests, hkey, Responder.respond_success_result hcall hec,
    hslice, sliceRecords_shows hslice, hreturned⟩

/-- Whoever is told the metadata of a stream is told that the stream has been deleted, or has
back what was set last by the requests that the server has carried out, with its
version. -/
theorem run_readsMetadata (hshort : ShortCredentials w.connection)
    (hrun : run (step w) initial inputs = some last)
    (hfits : forall request, request ∈ last.requests -> request.2.Fits w.connection)
    (hserves : ServesStore w v last) {key : Guid} {stream : Bytes}
    (hread : (key, ClientRequest.getStreamMetadata stream) ∈ last.requests)
    (honly : OnlySet stream (last.requests.map Prod.snd)) {p : Package}
    (htold : (key, p) ∈ last.told) {call : Call (Option StreamMetadataResultRaw)}
    (hcall : call ∈ getStreamMetadata protobuf stream (Answer.package p))
    (hec : call.ec = none) :
    call.result = some (deletedMetadata stream) ∨
      exists before after, last.requests = before ++ after ∧ key ∈ before.map Prod.fst ∧
        call.result = some (lastMetadata stream
          ((v.carriedOut w.connection [] before).filterMap
            (ClientRequest.metadataFor stream))) := by
  have h := run_consistent hshort hrun
  rcases h.told_reply htold with ⟨reply, hreply, rfl, rfl⟩
  by_cases hcommand : reply.command = TcpCommand.readEventCompleted
  · rcases hserves.metadata reply hreply stream hread hcommand with ⟨m, hm, hcarries, hmade⟩
    have hrespond := respond_carried
      (ClientOperation.readStreamEvent (metaStreamOf stream) (-1))
      (p := reply.received) hcommand hm hcarries
    have hcalls : call ∈
        ((ClientOperation.readStreamEvent (metaStreamOf stream) (-1)).told
          (ReadEventCompleted.ofMessage m)).flatMap (streamMetadata stream) := by
      have hsame := congrArg (List.flatMap (streamMetadata stream)) hrespond
      exact hsame ▸ hcall
    rcases metadata_cases hcalls hec with hfound | hdeleted
    · right
      rcases (hmade hfound).requests hshort h (run_inOrder hshort hrun) hfits with
        ⟨before, after, hrequests, hkey, hanswer⟩
      have honlyDone : OnlySet stream (v.carriedOut w.connection [] before) := by
        intro r hr
        refine honly r ?_
        rw [hrequests, List.map_append]
        exact List.mem_append_left _
          ((v.carriedOut_subset w.connection [] before hr).resolve_left List.not_mem_nil)
      rw [events_stored] at hanswer
      have htoldLast := told_readsLast hanswer
      rw [writtenTo_metaStream honlyDone] at htoldLast
      rw [htoldLast, List.mem_singleton] at hcalls
      exact ⟨before, after, hrequests, hkey, by rw [hcalls]⟩
    · exact Or.inl hdeleted
  · have hfails : getStreamMetadata protobuf stream (Answer.package reply.received) =
        [{ ec := some (Error.communication .unexpectedResponse), result := none }] := by
      have hother : reply.received.command ≠
          (readStreamEvent protobuf (metaStreamOf stream) (-1)).completed := hcommand
      rw [getStreamMetadata, Responder.respond, if_pos hother]
      rfl
    rw [hfails, List.mem_singleton] at hcall
    rw [hcall] at hec
    cases hec

end Storage

/-!
An event and its stream's metadata are written and read.
-/

def storedEvent : EventData :=
  { eventId := Guid.ofByte 7
    type := [116]
    isJson := false
    content := [100]
    metadata := none }

def storing : List (Guid × ClientRequest) :=
  [(Guid.ofByte 1, .appendToStream [115] [storedEvent] (-2)),
    (Guid.ofByte 2, .setStreamMetadata (Guid.ofByte 8) [115] (-2) [109]),
    (Guid.ofByte 3, .readStreamEvents [115] .forward 0 10 false),
    (Guid.ofByte 4, .getStreamMetadata [115])]

theorem sliceRequest_mem :
    (Guid.ofByte 3, ClientRequest.readStreamEvents [115] .forward 0 10 false) ∈ storing := by
  simp [storing]

theorem metadataRequest_mem :
    (Guid.ofByte 4, ClientRequest.getStreamMetadata [115]) ∈ storing := by
  simp [storing]

def sliceMessage : Messages.readStreamEventsCompleted.Message :=
  ([(some (some [115], some (0 : Int64), some (Guid.ofByte 7).data, some [116],
      some (0 : Int32), some (0 : Int32), some [100], none, none, none, ()), none, ())],
    some ReadStreamResult.success, some (1 : Int64), some (0 : Int64), some true,
    some (5 : Int64), none, ())

def sliceReply : Outgoing :=
  Outgoing.ofServer TcpCommand.readStreamEventsForwardCompleted (Guid.ofByte 3)
    [16, 0, 10, 35, 10, 33, 10, 1, 115, 16, 0, 26, 16, 7, 7, 7, 7, 7, 7, 7, 7, 7, 7, 7, 7, 7,
      7, 7, 7, 34, 1, 116, 40, 0, 48, 0, 58, 1, 100, 24, 1, 32, 0, 40, 1, 48, 5] (by decide)

def metadataMessage : Messages.readEventCompleted.Message :=
  (some ReadEventResult.success,
    some (some (some (metaStreamOf [115]), some (0 : Int64), some (Guid.ofByte 8).data,
      some streamMetadataType, some (1 : Int32), some (0 : Int32), some [109], none, none, none,
      ()), none, ()), none, ())

def metadataReply : Outgoing :=
  Outgoing.ofServer TcpCommand.readEventCompleted (Guid.ofByte 4)
    [8, 0, 18, 45, 10, 43, 10, 3, 36, 36, 115, 16, 0, 26, 16, 8, 8, 8, 8, 8, 8, 8, 8, 8, 8, 8,
      8, 8, 8, 8, 8, 34, 9, 36, 109, 101, 116, 97, 100, 97, 116, 97, 40, 1, 48, 0, 58, 1, 109]
    (by decide)

def storageSetting : Setting :=
  { deletionSetting with
    answers := fun q p =>
      q.request.command = TcpCommand.readStreamEventsForward &&
          p.command = sliceReply.command ||
        q.request.command = TcpCommand.readEvent && p.command = metadataReply.command }

def storageStore : Store := fun _ _ => true

theorem storageSetting_short : ShortCredentials storageSetting.connection :=
  ⟨by decide, by decide⟩

def storagePackages : List Package := storing.map (requestPackage storageSetting.connection)

def storageQueued : List Queued :=
  storagePackages.zipIdx.map fun p =>
    { number := p.2
      package := p.1.sendable }

def storageSent : State :=
  { initial with
    client := Operation.asyncSendAll storagePackages Operation.initial
    sending :=
      { SendState.start with
        sent := storagePackages.map Package.sendable
        ran := storageQueued
        handed := storageQueued
        socketBytes := storagePackages.flatMap Package.bytes }
    toServer :=
      (storagePackages.foldl (fun pipe p => (pipe.write p.bytes).write []) Pipe.empty).arrive 1000
    requests := storing }

def storageReplied : State :=
  { storageSent with
    replies := [sliceReply, metadataReply]
    toClient :=
      ((Pipe.empty.write sliceReply.package.bytes).write metadataReply.package.bytes).arrive 200 }

def storageTold : State :=
  { storageReplied with
    client :=
      Operation.finish [] (Guid.ofByte 3) none (Timer.queued WaitResult.aborted)
        storageReplied.client.counted
    handled := 1
    told := [callOf sliceReply] }

def storageEnd : State :=
  { storageTold with
    client :=
      Operation.finish [] (Guid.ofByte 4) none (Timer.queued WaitResult.aborted)
        storageTold.client.counted
    handled := 2
    told := [callOf sliceReply, callOf metadataReply] }

def storageRequests : List Input :=
  storing.flatMap (fun request => [.request request.1 request.2, .runPosted, .written 0]) ++
    [.arriveAtServer 1000]

def storageReplies : List Input :=
  [.reply sliceReply, .reply metadataReply, .arriveAtClient 200]

theorem storing_fits : forall request, request ∈ storing ->
    request.2.Fits storageSetting.connection := by
  decide

set_option maxRecDepth 4000 in
theorem run_storageSent :
    run (step storageSetting) initial storageRequests = some storageSent := rfl

set_option maxRecDepth 4000 in
theorem storageSent_drained : storageSent.toServer.Drained := rfl

theorem storageSent_answers {p : Outgoing} {request : Guid × ClientRequest}
    (hrequest : request ∈ storing) (hid : p.correlationId = request.1)
    (hanswers : storageSetting.answers
      (request.2.readBack storageSetting.connection request.1) p.received = true) :
    storageSent.Answers storageSetting p :=
  (run_consistent storageSetting_short run_storageSent).answers storageSetting_short
    storing_fits rfl rfl rfl storageSent_drained hrequest
    (show _ ∈ storagePackages from List.mem_map_of_mem hrequest) hid hanswers

theorem run_storageReplied :
    run (step storageSetting) storageSent storageReplies = some storageReplied := by
  have hfirst : step storageSetting storageSent (.reply sliceReply) =
      some (storageSent.reply sliceReply) :=
    if_pos (storageSent_answers sliceRequest_mem rfl rfl)
  have hsecond : step storageSetting (storageSent.reply sliceReply) (.reply metadataReply) =
      some ((storageSent.reply sliceReply).reply metadataReply) :=
    if_pos (storageSent_answers metadataRequest_mem rfl rfl)
  simp only [storageReplies, run, hfirst, hsecond]
  rfl

theorem storageReplied_transport : Transport storageReplied :=
  (run_consistent storageSetting_short (run_append run_storageSent run_storageReplied)).transport

theorem step_storageTold :
    step storageSetting storageReplied (.receive (Guid.ofByte 9) []) = some storageTold := by
  rw [step, if_pos (fun _ h => absurd h List.not_mem_nil),
    storageReplied_transport.receive_eq (show storageReplied.toClient.Drained from rfl)
      (show storageReplied.replies[storageReplied.handled]? = some sliceReply from rfl)]
  rfl

theorem step_storageEnd :
    step storageSetting storageTold (.receive (Guid.ofByte 9) []) = some storageEnd := by
  have htransport : Transport storageTold :=
    ⟨storageReplied_transport.sending, storageReplied_transport.queued,
      storageReplied_transport.toServer_written, storageReplied_transport.toClient_written⟩
  rw [step, if_pos (fun _ h => absurd h List.not_mem_nil),
    htransport.receive_eq (show storageReplied.toClient.Drained from rfl)
      (show storageTold.replies[storageTold.handled]? = some metadataReply from rfl)]
  rfl

def storageReceives : List Input :=
  [.receive (Guid.ofByte 9) [], .receive (Guid.ofByte 9) []]

theorem run_storage :
    run (step storageSetting) initial (storageRequests ++ (storageReplies ++ storageReceives)) =
      some storageEnd := by
  refine run_append run_storageSent (run_append run_storageReplied ?_)
  simp only [storageReceives, run, step_storageTold, step_storageEnd]

theorem storage_madeFrom {request : Guid × ClientRequest} (hrequest : request ∈ storing)
    {answers : Log -> Prop}
    (hanswers : answers ((Store.written (storing.map Prod.snd)).map stored)) :
    MadeFrom storageSetting storageStore storageEnd request.1 answers := by
  have h := run_consistent storageSetting_short run_storage
  have hserved := served_reduce storageSetting
    (h.served_all storageSetting_short storing_fits rfl rfl rfl storageSent_drained)
  rw [run_inOrder storageSetting_short run_storage, readable_of_fits storing_fits] at hserved
  have hall := congrArg (List.take storing.length) hserved
  have htake : (storing.map fun request =>
      request.2.readBack storageSetting.connection request.1).take storing.length =
        storing.map fun request => request.2.readBack storageSetting.connection request.1 :=
    List.take_of_length_le (Nat.le_of_eq (List.length_map _))
  refine ⟨storing.length, ?_, ?_⟩
  · rw [hall.trans htake, List.map_map]
    exact List.mem_map_of_mem hrequest
  · rw [hall.trans htake]
    have hlog := storageStore.log_readBack storing_fits []
    exact hlog ▸ hanswers

theorem sliceMessage_readsForward :
    ReadsForward [115] ((writtenTo [115] (storing.map Prod.snd)).map newEvent) 0 10
      sliceMessage :=
  ReadsForward.slice _ _ _ _ _
    (List.Forall₂.cons ⟨_, rfl, Keeps.record none none rfl⟩ List.Forall₂.nil)

theorem metadataMessage_readsLast :
    ReadsLast (metaStreamOf [115])
      ((writtenTo (metaStreamOf [115]) (storing.map Prod.snd)).map newEvent)
      metadataMessage :=
  @ReadsLast.last _ _ [] _ _ none rfl (Keeps.record none none rfl)

theorem sliceMessage_carried : Messages.readStreamEventsCompleted.Fits sliceMessage ∧
    Messages.readStreamEventsCompleted.Carries sliceMessage sliceReply.message :=
  ⟨MessageType.fits_of_size (by decide),
    { complete := by decide
      fields := by decide }⟩

theorem metadataMessage_carried : Messages.readEventCompleted.Fits metadataMessage ∧
    Messages.readEventCompleted.Carries metadataMessage metadataReply.message :=
  ⟨MessageType.fits_of_size (by decide),
    { complete := by decide
      fields := by decide }⟩

theorem storageEnd_serves : ServesStore storageSetting storageStore storageEnd := by
  constructor
  · intro p hp stream fromEventNumber maxCount resolveLinkTos hread hcommand
    rcases List.mem_cons.mp hp with rfl | hmetadata
    · refine ⟨sliceMessage, sliceMessage_carried.left, sliceMessage_carried.right, fun _ => ?_⟩
      have heq : stream = [115] ∧ fromEventNumber = 0 ∧ maxCount = 10 ∧
          resolveLinkTos = false := by
        simpa [storageEnd, storageTold, storageReplied, storageSent, storing, sliceReply,
          Outgoing.ofServer] using hread
      rcases heq with ⟨rfl, rfl, rfl, rfl⟩
      refine storage_madeFrom sliceRequest_mem ?_
      rw [events_stored]
      exact sliceMessage_readsForward
    · cases List.mem_singleton.mp hmetadata
      cases hcommand
  · intro p hp stream hread hcommand
    rcases List.mem_cons.mp hp with rfl | hmetadata
    · cases hcommand
    · cases List.mem_singleton.mp hmetadata
      refine ⟨metadataMessage, metadataMessage_carried.left, metadataMessage_carried.right,
        fun _ => ?_⟩
      have heq : stream = [115] := by
        simpa [storageEnd, storageTold, storageReplied, storageSent, storing, metadataReply,
          Outgoing.ofServer] using hread
      subst heq
      refine storage_madeFrom metadataRequest_mem ?_
      rw [events_stored]
      exact metadataMessage_readsLast

def storedSlice : StreamEventsSlice :=
  { fromEventNumber := 0
    nextEventNumber := 1
    lastEventNumber := 0
    stream := [115]
    readDirection := .forward
    isEndOfStream := true
    events :=
      [{ event := some
          { eventStreamId := some [115]
            eventNumber := some 0
            eventId := some (Guid.ofByte 7).data
            eventType := some [116]
            data := some [100]
            metadata := none }
         link := none }] }

theorem storedSlice_told :
    (readStreamEvents protobuf [115] 0 .forward).respond (Answer.package sliceReply.received) =
      [{ ec := none, result := some storedSlice }] :=
  respond_carried (ClientOperation.readStreamEvents [115] 0 .forward)
    (p := sliceReply.received) rfl sliceMessage_carried.left sliceMessage_carried.right

theorem storage_readsWritten :
    exists before after slice records, storing = before ++ after ∧
      Guid.ofByte 3 ∈ before.map Prod.fst ∧ some storedSlice = some slice ∧
      sliceRecords
        (Messages.readStreamEventsCompleted.parseFromArray sliceReply.message).message =
          some records ∧
      List.Forall₂ ShowsResolved slice.events records ∧
      ReturnedAll [115]
        (((writtenTo [115]
          (storageStore.carriedOut storageSetting.connection [] before)).zipIdx.drop 0).take 10)
        records := by
  have hcall : ({ ec := none, result := some storedSlice } : Call (Option StreamEventsSlice)) ∈
      (readStreamEvents protobuf [115] 0 .forward).respond
        (Answer.package sliceReply.received) := by
    rw [storedSlice_told]
    exact List.mem_singleton_self _
  exact run_readsWritten storageSetting_short run_storage storing_fits storageEnd_serves
    sliceRequest_mem (p := sliceReply.received) List.mem_cons_self hcall rfl

def storedMetadata : Call (Option StreamMetadataResultRaw) :=
  { ec := none
    result := some (lastMetadata [115] [[109]]) }

theorem storedMetadata_told :
    storedMetadata ∈ getStreamMetadata protobuf [115] (Answer.package metadataReply.received) := by
  have hrespond := respond_carried (ClientOperation.readStreamEvent (metaStreamOf [115]) (-1))
    (p := metadataReply.received) rfl metadataMessage_carried.left
    metadataMessage_carried.right
  have hcalls := (congrArg (List.flatMap (streamMetadata [115])) hrespond).trans
    (told_readsLast metadataMessage_readsLast)
  have hsame : getStreamMetadata protobuf [115] (Answer.package metadataReply.received) =
      [storedMetadata] := hcalls
  rw [hsame]
  exact List.mem_singleton_self _

theorem storing_onlySet : OnlySet [115] (storing.map Prod.snd) := by
  intro r hr hset
  simp only [storing, List.map_cons, List.map_nil, List.mem_cons, List.not_mem_nil,
    or_false] at hr
  rcases hr with rfl | rfl | rfl | rfl
  · decide
  · cases hset
  · decide
  · decide

theorem storage_readsMetadata :
    storedMetadata.result = some (deletedMetadata [115]) ∨
      exists before after, storing = before ++ after ∧ Guid.ofByte 4 ∈ before.map Prod.fst ∧
        storedMetadata.result = some (lastMetadata [115]
          ((storageStore.carriedOut storageSetting.connection [] before).filterMap
            (ClientRequest.metadataFor [115]))) := by
  have htold : (Guid.ofByte 4, metadataReply.received) ∈ storageEnd.told :=
    List.mem_cons_of_mem _ List.mem_cons_self
  exact run_readsMetadata storageSetting_short run_storage storing_fits storageEnd_serves
    metadataRequest_mem storing_onlySet htold storedMetadata_told rfl

end Session
end EventStoreClient
