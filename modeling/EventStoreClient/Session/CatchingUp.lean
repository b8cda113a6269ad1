import EventStoreClient.Session.Storage
import EventStoreClient.Subscription.CatchupPages

/-!
# Catching up in a session

A catch-up subscription whose reads are answered in a session, by a server that keeps what
is written in it.
-/

namespace EventStoreClient

open Connection Foundation Operations Subscription Wire

/-!
# More requests

Later requests take nothing back of what has been carried out.
-/

namespace Operations

theorem Store.carriedOut_append (v : Store) (connection : ConnectionSettings)
    (done : List ClientRequest) (before after : List (Guid × ClientRequest)) :
    v.carriedOut connection done (before ++ after) =
      v.carriedOut connection (v.carriedOut connection done before) after := by
  induction before generalizing done with
  | nil => rfl
  | cons request rest ih => exact ih _

theorem Store.carriedOut_grows (v : Store) (connection : ConnectionSettings)
    (done : List ClientRequest) (requests : List (Guid × ClientRequest)) :
    done <+: v.carriedOut connection done requests := by
  induction requests generalizing done with
  | nil => exact List.prefix_rfl
  | cons request rest ih =>
      rw [carriedOut]
      split
      · exact (List.prefix_append done [request.2]).trans (ih _)
      · exact ih done

theorem writtenTo_grows (stream : Bytes) {done later : List ClientRequest} (h : done <+: later) :
    writtenTo stream done <+: writtenTo stream later := by
  rcases h with ⟨rest, rfl⟩
  have hall : Store.written (done ++ rest) = Store.written done ++ Store.written rest :=
    List.flatMap_append
  rw [writtenTo, writtenTo, hall, List.filter_append, List.map_append]
  exact List.prefix_append _ _

/-!
# What a subscription has of the events

A slice has the first events that the server has from a number on.
-/

def resolvedEvent (stream : Bytes) (e : EventData) (n : Nat) : Resolved :=
  { event := some
      { eventStreamId := some stream
        eventNumber := some n
        eventId := some e.eventId.data
        eventType := some e.type
        data := some e.content
        metadata := e.metadata }
    link := none
    originalPosition := none }

def resolvedEvents (stream : Bytes) (events : List EventData) : List Resolved :=
  events.zipIdx.map fun written => resolvedEvent stream written.1 written.2

theorem resolvedEvents_grows (stream : Bytes) {events later : List EventData}
    (h : events <+: later) : resolvedEvents stream events <+: resolvedEvents stream later := by
  rcases h with ⟨rest, rfl⟩
  rw [resolvedEvents, resolvedEvents, List.zipIdx_append, List.map_append]
  exact List.prefix_append _ _

theorem resolved_of_keeps {stream : Bytes} {e : EventData} {n : Nat}
    {record : Messages.eventRecord.Message} (h : Keeps stream n (newEvent e) record) :
    Resolved.ofResolvedIndexedEvent (ResolvedIndexedEvent.ofMessage (some record, none, ())) =
      resolvedEvent stream e n := by
  rw [newEvent] at h
  cases h with
  | record created createdEpoch hnumber =>
      rw [resolvedEvent, ← hnumber]
      rfl

theorem resolved_of_keepsAll {stream : Bytes} {written : List (EventData × Nat)}
    {events : List Messages.resolvedIndexedEvent.Message}
    (h : KeepsAll stream (written.map fun kept => (newEvent kept.1, kept.2)) events) :
    events.map (fun e => Resolved.ofResolvedIndexedEvent (ResolvedIndexedEvent.ofMessage e)) =
      written.map fun kept => resolvedEvent stream kept.1 kept.2 := by
  induction written generalizing events with
  | nil =>
      cases h
      rfl
  | cons kept rest ih =>
      rw [List.map_cons] at h
      cases h with
      | cons hfirst hrest =>
          rcases hfirst with ⟨record, rfl, hkeeps⟩
          exact congrArg₂ List.cons (resolved_of_keeps hkeeps) (ih hrest)

theorem sliceEvents_readsForward {stream : Bytes} {events : List EventData} {start count : Nat}
    {m : Messages.readStreamEventsCompleted.Message}
    (h : ReadsForward stream (events.map newEvent) start count m) :
    (ReadStreamEventsCompleted.ofMessage m).events.map Resolved.ofResolvedIndexedEvent <+:
      (resolvedEvents stream events).drop start := by
  cases h with
  | slice nextEventNumber lastEventNumber isEndOfStream lastCommitPosition error hkeeps =>
      rw [zipIdx_newEvent] at hkeeps
      have hall := (List.map_map.trans (resolved_of_keepsAll hkeeps) :
        (List.map ResolvedIndexedEvent.ofMessage _).map Resolved.ofResolvedIndexedEvent = _)
      rw [List.map_take, List.map_drop] at hall
      exact hall ▸ List.take_prefix count _

end Operations

namespace Session

open CatchupPages

/-!
# The answers to the reads

A slice comes from what a read of the stream was told in the session, and so has events
that the server has kept: the subscription has the event that was written.
-/

section CatchingUp

variable {w : Setting} {last : State} {v : Store} {inputs : List Input}

def ReadIn (last : State) (stream : Bytes) (s : Paging) :
    Subscription.Input StreamEventsSlice -> Prop
  | .readCompleted j (.ok slice) => forall r, s.client.reads[j]? = some r ->
      exists (key : Guid) (p : Package) (fromEventNumber : Int64) (resolveLinkTos : Bool)
        (call : Call (Option StreamEventsSlice)),
        fromEventNumber.toInt = r.fromPosition ∧
          (key, ClientRequest.readStreamEvents stream .forward fromEventNumber r.maxCount
            resolveLinkTos) ∈ last.requests ∧
          (key, p) ∈ last.told ∧
          call ∈ (readStreamEvents protobuf stream fromEventNumber.toInt .forward).respond
            (Answer.package p) ∧
          call.ec = none ∧ call.result = some slice
  | _ => True

theorem told_slice (hshort : ShortCredentials w.connection)
    (hrun : run (step w) initial inputs = some last)
    (hfits : forall request, request ∈ last.requests -> request.2.Fits w.connection)
    (hserves : ServesStore w v last) {key : Guid} {stream : Bytes} {fromEventNumber : Int64}
    {maxCount : Int32} {resolveLinkTos : Bool}
    (hread : (key, ClientRequest.readStreamEvents stream .forward fromEventNumber maxCount
      resolveLinkTos) ∈ last.requests)
    {p : Package} (htold : (key, p) ∈ last.told) {call : Call (Option StreamEventsSlice)}
    (hcall : call ∈ (readStreamEvents protobuf stream fromEventNumber.toInt .forward).respond
      (Answer.package p))
    (hec : call.ec = none) {slice : StreamEventsSlice} (hslice : call.result = some slice) :
    Catchup.sliceEvents slice <+:
      (resolvedEvents stream
        (writtenTo stream (v.carriedOut w.connection [] last.requests))).drop
          fromEventNumber.toInt.toNat := by
  rcases told_readsForward hshort hrun hfits hserves hread htold ⟨call, hcall, hec⟩ with
    ⟨before, after, m, hrequests, _, hparsed, hanswer⟩
  have hresult := Responder.respond_success_result hcall hec
  rw [hslice] at hresult
  have hevents : slice.events = (ReadStreamEventsCompleted.ofMessage m).events := by
    cases hresult
    exact congrArg (fun m => (ReadStreamEventsCompleted.ofMessage m).events) hparsed
  have hpage := sliceEvents_readsForward hanswer
  rw [← hevents] at hpage
  refine hpage.trans (List.IsPrefix.drop ?_ _)
  rw [hrequests, v.carriedOut_append]
  exact resolvedEvents_grows stream (writtenTo_grows stream (v.carriedOut_grows _ _ after))

theorem pageOf_readIn (hshort : ShortCredentials w.connection)
    (hrun : run (step w) initial inputs = some last)
    (hfits : forall request, request ∈ last.requests -> request.2.Fits w.connection)
    (hserves : ServesStore w v last) {stream : Bytes} {s : Paging}
    {i : Subscription.Input StreamEventsSlice} (hread : ReadIn last stream s i) :
    PageOf
      (resolvedEvents stream (writtenTo stream (v.carriedOut w.connection [] last.requests)))
      s i := by
  cases i with
  | readCompleted j result =>
      cases result with
      | ok slice =>
          intro r hr
          rcases hread r hr with
            ⟨key, p, fromEventNumber, resolveLinkTos, call, hfrom, hrequest, htold, hcall, hec,
              hslice⟩
          rw [← hfrom]
          exact told_slice hshort hrun hfits hserves hrequest htold hcall hec hslice
      | error e => trivial
  | _ => trivial

/-- A catch-up subscription passes on to its user, from the number it starts at on, what the
users of the session have written to the stream: each event once, in order and as it was
written, through the history and what has been missed. -/
theorem run_catchesUp (hshort : ShortCredentials w.connection)
    (hrun : run (step w) initial inputs = some last)
    (hfits : forall request, request ∈ last.requests -> request.2.Fits w.connection)
    (hserves : ServesStore w v last) {stream : Bytes} {key : Guid} {user : User}
    {settings : CatchupSubscriptionSettings} {first : Int} (hfirst : 0 ≤ first)
    {completions : List (Subscription.Input StreamEventsSlice)} {s : Paging}
    (hreads : EveryStep (pagingStep key user settings) (ReadIn last stream)
      (CatchupPages.initial settings first) completions)
    (hcatching : run (pagingStep key user settings) (CatchupPages.initial settings first)
      completions = some s) :
    Paged
      (resolvedEvents stream (writtenTo stream (v.carriedOut w.connection [] last.requests)))
      first s := by
  refine run_paged hfirst ?_ hcatching
  exact everyStep_imp (fun _ => True) (fun _ _ _ => trivial)
    (fun _ h => pageOf_readIn hshort hrun hfits hserves h) trivial hreads

end CatchingUp

theorem storedSlice_readIn :
    ReadIn storageEnd [115] (CatchupPages.initial CatchupSubscriptionSettings.built 0)
      (.readCompleted 0 (.ok storedSlice)) := by
  intro r hr
  cases hr
  refine ⟨Guid.ofByte 3, sliceReply.received, 0, false, { ec := none, result := some storedSlice },
    rfl, ?_, List.mem_cons_self, ?_, rfl, rfl⟩
  · exact List.mem_cons_of_mem _ (List.mem_cons_of_mem _ List.mem_cons_self)
  · exact storedSlice_told ▸ List.mem_singleton_self _

theorem storage_catchesUp :
    exists s, run (pagingStep (Guid.ofByte 5) User.passive CatchupSubscriptionSettings.built)
        (CatchupPages.initial CatchupSubscriptionSettings.built 0)
        [.readCompleted 0 (.ok storedSlice)] = some s ∧
      Paged
        (resolvedEvents [115]
          (writtenTo [115]
            (storageStore.carriedOut storageSetting.connection [] storageEnd.requests)))
        0 s := by
  obtain ⟨s, hs⟩ : exists s,
      run (pagingStep (Guid.ofByte 5) User.passive CatchupSubscriptionSettings.built)
        (CatchupPages.initial CatchupSubscriptionSettings.built 0)
        [.readCompleted 0 (.ok storedSlice)] = some s :=
    ⟨_, rfl⟩
  have hreads : EveryStep
      (pagingStep (Guid.ofByte 5) User.passive CatchupSubscriptionSettings.built)
      (ReadIn storageEnd [115]) (CatchupPages.initial CatchupSubscriptionSettings.built 0)
      [.readCompleted 0 (.ok storedSlice)] :=
    ⟨storedSlice_readIn, trivial⟩
  exact ⟨s, hs, run_catchesUp storageSetting_short run_storage storing_fits storageEnd_serves
    le_rfl hreads hs⟩

end Session
end EventStoreClient
