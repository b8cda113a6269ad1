import EventStoreClient.Subscription.Keeping

/-!
# Acknowledgements

A persistent subscription whose user acknowledges events and fails them, from within
`event_appeared` or at any other time.  What has been done is kept beside the subscription
id, so that it can be compared with the packages that have been sent.
-/

namespace EventStoreClient
namespace Subscription
namespace Acknowledging

open Connection Foundation Operations Wire

/-!
# The calls of the user

What `acknowledge` and `fail` are given.
-/

inductive Item where
  | guid (id : Guid)
  | event (e : Resolved)
  deriving DecidableEq

/-- The public calls of a subscription.  A range is the elements from one iterator to
another. -/
inductive UserCall where
  | unsubscribe
  | acknowledge (item : Item)
  | acknowledgeRange (items : List Item)
  | fail (item : Item) (action : NakEventAction)
  | failRange (items : List Item) (action : NakEventAction)
  deriving DecidableEq

/-- What `event_appeared` does, given the callbacks up to it, and whether `dropped` calls
`unsubscribe()`.  What else `dropped` does comes to the same as calls right after it. -/
structure ActingUser where
  onEvent : List Callback -> List UserCall
  onDropped : List Callback -> Bool

/-!
# The subscription

`processedEventId` are the bytes that are added to `processed_event_ids`; `started` is the
state once `async_start` has been called.
-/

/-- What has been done, where an acknowledgement is not told from one of a range with a
single element. -/
inductive Done where
  | confirmed (subscriptionId : Bytes)
  | appeared (e : Resolved)
  | returned (e : Resolved)
  | autoAcknowledged (e : Resolved)
  | acknowledged (items : List Item)
  | failed (items : List Item) (action : NakEventAction)
  deriving DecidableEq

structure Child where
  subscriptionId : Bytes
  history : List Done
  deriving DecidableEq

abbrev ActingState := State Child Empty

abbrev Acts (result : Type) := Handles Child Empty result

def record (d : Done) (s : ActingState) : ActingState :=
  s.setChild { s.child with history := s.child.history ++ [d] }

def Item.processedEventId : Item -> Acts Bytes
  | guid id => pure id.data
  | event e => do
      let record <- value e.originalEvent
      pure (Persistent.recordedEventId record)

/-- The packages of the four functions, which differ in the message that is encoded. -/
def process (request : Bytes -> List Bytes -> Request) (item : Item) : Acts Unit := do
  let id <- item.processedEventId
  modify (fun s => s.send (request s.child.subscriptionId [id]))

def processRange (request : Bytes -> List Bytes -> Request) (items : List Item) :
    Acts Unit := do
  let ids <- items.mapM Item.processedEventId
  modify (fun s => s.send (request s.child.subscriptionId ids))

def ack : Bytes -> List Bytes -> Request := Request.persistentSubscriptionAckEvents

def nak (action : NakEventAction) (subscriptionId : Bytes) (ids : List Bytes) : Request :=
  Request.persistentSubscriptionNakEvents subscriptionId action ids

def acknowledge (item : Item) : Acts Unit := process ack item

def acknowledgeRange (items : List Item) : Acts Unit := processRange ack items

def fail (item : Item) (action : NakEventAction) : Acts Unit := process (nak action) item

def failRange (items : List Item) (action : NakEventAction) : Acts Unit :=
  processRange (nak action) items

def perform (b : Base Child) : UserCall -> Acts Unit
  | .unsubscribe => b.unsubscribeByKey (Error.subscription .unsubscribed)
  | .acknowledge item => do
      modify (record (Done.acknowledged [item]))
      acknowledge item
  | .acknowledgeRange items => do
      modify (record (Done.acknowledged items))
      acknowledgeRange items
  | .fail item action => do
      modify (record (Done.failed [item] action))
      fail item action
  | .failRange items action => do
      modify (record (Done.failed items action))
      failRange items action

def eventAppeared (b : Base Child) (user : ActingUser) (e : Resolved) (retryCount : Int) :
    Acts Unit := do
  modify (State.called (Callback.eventAppeared e (some retryCount)))
  modify (record (Done.appeared e))
  (user.onEvent (<- get).calls).forM (perform b)
  modify (record (Done.returned e))

def autoAcknowledge (e : Resolved) : Acts Unit := do
  modify (record (Done.autoAcknowledged e))
  acknowledge (Item.event e)

def onPackageReceived (b : Base Child) (user : ActingUser) (autoAck : Bool) :
    ServerMessage -> Acts Bool
  | .persistentSubscriptionConfirmation response => do
      modify (confirm response.lastCommitPosition response.lastEventNumber)
      modify (fun s =>
        s.setChild { s.child with subscriptionId := read response.subscriptionId })
      modify (record (Done.confirmed (read response.subscriptionId)))
      pure true
  | .persistentSubscriptionStreamEventAppeared message => do
      let resolved := Resolved.ofPersistentSubscriptionStreamEventAppeared message
      eventAppeared b user resolved (read message.retryCount)
      if autoAck then autoAcknowledge resolved
      pure true
  | .subscriptionDropped message => do
      b.unsubscribeByKey (Error.subscription (Persistent.dropError (read message.reason)))
      pure true
  | _ => pure false

def base (key : Guid) (user : ActingUser) : Base Child :=
  { key := key
    user :=
      { onEvent := fun _ => false
        onDropped := user.onDropped }
    shutdown := id }

def subscription (key : Guid) (user : ActingUser) (autoAck : Bool) :
    Class Child Empty Empty :=
  { base key user with
    onPackageReceived := onPackageReceived (base key user) user autoAck
    onRead := fun r _ => nomatch r
    readSubscriptionEvents := pure () }

def started : ActingState :=
  (Base.asyncStart (constructed { subscriptionId := [], history := [] })).send
    Request.connectToPersistentSubscription

/-- What can happen: what can happen to any subscription, and a call of the user's. -/
inductive ActingInput where
  | input (i : Input Empty)
  | call (c : UserCall)

def actingStep (c : Class Child Empty Empty) (s : ActingState) :
    ActingInput -> Option ActingState
  | .input i => step c s i
  | .call call => some (settle ((perform c.toBase call).runOn s))

/-!
# The persistent subscription without its history

The subscription that the history is kept beside takes the same steps, with a user who
only unsubscribes in the callbacks.
-/

def forget (s : ActingState) : State Persistent.Child Empty :=
  { lastEventNumber := s.lastEventNumber
    lastCommitPosition := s.lastCommitPosition
    subscribed := s.subscribed
    handleGuard := s.handleGuard
    child := { subscriptionId := s.child.subscriptionId }
    registered := s.registered
    unsubscribing := s.unsubscribing
    deadline := s.deadline
    reads := s.reads
    posted := s.posted
    sent := s.sent
    calls := s.calls
    receiving := s.receiving
    faults := s.faults }

def ActingUser.ofUser (user : User) : ActingUser :=
  { onEvent := fun calls => if user.onEvent calls then [.unsubscribe] else []
    onDropped := user.onDropped }

section Forget

variable {user : User}

theorem forget_unsubscribe (key : Guid) (ec : Error) (s : ActingState) :
    (Persistent.base key user).unsubscribe ec (forget s) =
      forget ((base key (ActingUser.ofUser user)).unsubscribe ec s) := by
  unfold Base.unsubscribe
  split <;> rfl

theorem projects_unsubscribeByKey (key : Guid) (ec : Error) :
    Handler.Projects forget ((base key (ActingUser.ofUser user)).unsubscribeByKey ec)
      ((Persistent.base key user).unsubscribeByKey ec) := by
  apply Handler.projects_get_bind
  intro s
  apply Handler.projects_ite
  · apply Handler.projects_modify
    intro s
    unfold Base.fail
    show (if s.handleGuard = true then _ else _) = forget (if s.handleGuard = true then _ else _)
    split
    · rfl
    · exact forget_unsubscribe key ec s
  · exact Handler.projects_throw _

theorem projects_calls (key : Guid) (calls : List Callback) :
    Handler.Projects forget
      (((ActingUser.ofUser user).onEvent calls).forM (perform (base key (ActingUser.ofUser user))))
      (if user.onEvent calls then
        (Persistent.base key user).unsubscribeByKey (Error.subscription .unsubscribed)
      else pure ()) := by
  cases hcalls : user.onEvent calls with
  | false =>
      simp only [ActingUser.ofUser, hcalls, Bool.false_eq_true, if_false]
      exact Handler.projects_pure _
  | true =>
      have hasked : (ActingUser.ofUser user).onEvent calls = [UserCall.unsubscribe] := if_pos hcalls
      rw [hasked, if_pos rfl]
      exact Handler.projects_forM_singleton
        (projects_unsubscribeByKey key (Error.subscription .unsubscribed))

theorem projects_eventAppeared (key : Guid) (e : Resolved) (retryCount : Int) :
    Handler.Projects forget
      (eventAppeared (base key (ActingUser.ofUser user)) (ActingUser.ofUser user) e retryCount)
      ((Persistent.base key user).eventAppeared e (some retryCount)) := by
  refine Handler.projects_bind (Handler.projects_modify fun _ => rfl) fun _ =>
    Handler.projects_modify_bind (fun _ => rfl) (Handler.projects_get_bind fun s => ?_)
  exact Handler.projects_bind_modify (projects_calls key s.calls) fun _ => rfl

/-- The events, the confirmations and the drops of such a user's subscription are handled
as those of the persistent subscription. -/
theorem projects_onPackageReceived (key : Guid) (autoAck : Bool) (message : ServerMessage) :
    Handler.Projects forget
      (onPackageReceived (base key (ActingUser.ofUser user)) (ActingUser.ofUser user) autoAck
        message)
      (Persistent.onPackageReceived (Persistent.base key user) autoAck message) := by
  cases message with
  | persistentSubscriptionConfirmation response =>
      intro s
      rfl
  | persistentSubscriptionStreamEventAppeared m =>
      refine Handler.projects_bind (projects_eventAppeared key _ _) fun _ => ?_
      cases autoAck with
      | false => exact Handler.projects_pure true
      | true =>
          intro s
          simp only [if_true, autoAcknowledge, acknowledge, process, Item.processedEventId,
            Persistent.acknowledge]
          cases (Resolved.ofPersistentSubscriptionStreamEventAppeared m).originalEvent <;> rfl
  | subscriptionDropped response =>
      exact Handler.projects_bind (projects_unsubscribeByKey key _) fun _ =>
        Handler.projects_pure true
  | _ => exact Handler.projects_pure false

end Forget

/-!
# What should have been sent

The server knows an item by one id: a guid as it is, an event by that of its link or its
own.
-/

/-- The id that the server knows an item by: a guid, or the id of the link if the event has
one, and of the event otherwise. -/
def Item.eventId : Item -> Bytes
  | guid id => id.data
  | event e =>
      match e.link, e.event with
      | some link, _ => read link.eventId
      | none, some record => read record.eventId
      | none, none => []

/-- The event has the record that its id is taken from, and that id is a guid. -/
def Item.WellFormed : Item -> Prop
  | guid _ => True
  | event e => exists record, e.originalEvent = some record ∧ (read record.eventId).length = 16

/-- The packages for what has been done, with the subscription id of the latest
confirmation before it. -/
def packages : Bytes -> List Done -> List Request
  | _, [] => []
  | _, Done.confirmed subscriptionId :: rest => packages subscriptionId rest
  | id, Done.acknowledged items :: rest =>
      ack id (items.map Item.eventId) :: packages id rest
  | id, Done.autoAcknowledged e :: rest =>
      ack id [(Item.event e).eventId] :: packages id rest
  | id, Done.failed items action :: rest =>
      nak action id (items.map Item.eventId) :: packages id rest
  | id, Done.appeared _ :: rest => packages id rest
  | id, Done.returned _ :: rest => packages id rest

def latestId : Bytes -> List Done -> Bytes
  | id, [] => id
  | _, Done.confirmed subscriptionId :: rest => latestId subscriptionId rest
  | id, _ :: rest => latestId id rest

def isProcessed : Request -> Bool
  | .persistentSubscriptionAckEvents _ _ => true
  | .persistentSubscriptionNakEvents _ _ _ => true
  | _ => false

theorem packages_append (id : Bytes) (done later : List Done) :
    packages id (done ++ later) = packages id done ++ packages (latestId id done) later := by
  induction done generalizing id with
  | nil => rfl
  | cons d rest ih => cases d <;> simp [packages, latestId, ih]

theorem latestId_append (id : Bytes) (done later : List Done) :
    latestId id (done ++ later) = latestId (latestId id done) later := by
  induction done generalizing id with
  | nil => rfl
  | cons d rest ih => cases d <;> simp [latestId, ih]

/-!
# Progress

What a step adds: what is recorded and then sent, in one order, by the calls of a callback
one after another and by the deliveries of a package.
-/

/-- From one state to the other this has been done, and the packages for it sent. -/
structure Progress (s next : ActingState) (done : List Done) : Prop where
  history_eq : next.child.history = s.child.history ++ done
  sent_eq : next.sent.filter isProcessed =
    s.sent.filter isProcessed ++ packages s.child.subscriptionId done
  id_eq : next.child.subscriptionId = latestId s.child.subscriptionId done
  registered_eq : next.registered = s.registered

namespace Progress

variable {s mid next : ActingState} {done later : List Done}

theorem of_frame (hchild : next.child = s.child)
    (hsent : next.sent.filter isProcessed = s.sent.filter isProcessed)
    (hregistered : next.registered = s.registered) : Progress s next [] where
  history_eq := by rw [hchild, List.append_nil]
  sent_eq := by rw [hsent, packages, List.append_nil]
  id_eq := by rw [hchild, latestId]
  registered_eq := hregistered

theorem trans (h : Progress s mid done) (hnext : Progress mid next later) :
    Progress s next (done ++ later) where
  history_eq := by rw [hnext.history_eq, h.history_eq, List.append_assoc]
  sent_eq := by
    rw [hnext.sent_eq, h.sent_eq, h.id_eq, packages_append, List.append_assoc]
  id_eq := by rw [hnext.id_eq, h.id_eq, latestId_append]
  registered_eq := hnext.registered_eq.trans h.registered_eq

end Progress

section Calls

variable {b : Base Child} {user : ActingUser} {s : ActingState}

theorem originalEvent_eventId {e : Resolved} {record : EventRecord}
    (h : e.originalEvent = some record) : (Item.event e).eventId = read record.eventId := by
  rcases e with ⟨event, link, _⟩
  cases link with
  | some link =>
      cases h
      rfl
  | none =>
      obtain rfl : event = some record := h
      rfl

theorem processedEventId_run {item : Item} (hitem : item.WellFormed) :
    item.processedEventId.runOn s = (Except.ok item.eventId, s) := by
  cases item with
  | guid id => rfl
  | event e =>
      rcases hitem with ⟨record, hrecord, hlength⟩
      rw [originalEvent_eventId hrecord, ← Persistent.recordedEventId_of_length hlength]
      simp [Item.processedEventId, hrecord, value]

theorem processedEventIds_run {items : List Item}
    (hitems : forall item, item ∈ items -> item.WellFormed) :
    (items.mapM Item.processedEventId).runOn s =
      (Except.ok (items.map Item.eventId), s) := by
  induction items with
  | nil => rfl
  | cons item rest ih =>
      rw [List.mapM_cons]
      simp [processedEventId_run (hitems item List.mem_cons_self),
        ih fun item' hmem => hitems item' (List.mem_cons_of_mem _ hmem)]
      rfl

theorem process_run (request : Bytes -> List Bytes -> Request) {item : Item}
    (hitem : item.WellFormed) :
    (process request item).runOn s =
      (Except.ok (), s.send (request s.child.subscriptionId [item.eventId])) := by
  simp [process, processedEventId_run hitem]

theorem processRange_run (request : Bytes -> List Bytes -> Request) {items : List Item}
    (hitems : forall item, item ∈ items -> item.WellFormed) :
    (processRange request items).runOn s =
      (Except.ok (), s.send (request s.child.subscriptionId (items.map Item.eventId))) := by
  simp [processRange, processedEventIds_run hitems]

theorem progress_send {d : Done} {request : Request} (hprocessed : isProcessed request = true)
    (hrequest : packages s.child.subscriptionId [d] = [request])
    (hid : latestId s.child.subscriptionId [d] = s.child.subscriptionId) :
    Progress s ((record d s).send request) [d] where
  history_eq := rfl
  sent_eq := by
    rw [hrequest]
    simp [State.send, record, State.setChild, hprocessed]
  id_eq := hid.symm
  registered_eq := rfl

theorem progress_unsubscribe (hshutdown : b.shutdown = id) (ec : Error) :
    Progress s (b.unsubscribe ec s) [] := by
  apply Progress.of_frame
  · rw [unsubscribe_child, hshutdown]
    rfl
  · unfold Base.unsubscribe
    split
    · simp [State.send, isProcessed]
    · rfl
  · exact unsubscribe_registered ec

theorem progress_unsubscribeByKey (hshutdown : b.shutdown = id) (ec : Error) :
    exists r next, (b.unsubscribeByKey ec).runOn s = (r, next) ∧ Progress s next [] ∧
      (s.registered = true -> r = Except.ok ()) := by
  cases hregistered : s.registered with
  | true =>
      refine ⟨_, _, unsubscribeByKey_of_registered hregistered ec, ?_, fun _ => rfl⟩
      unfold Base.fail
      split
      · exact Progress.of_frame rfl rfl rfl
      · exact progress_unsubscribe hshutdown ec
  | false =>
      exact ⟨_, _, unsubscribeByKey_of_not_registered hregistered ec,
        Progress.of_frame rfl rfl rfl, fun h => absurd h Bool.false_ne_true⟩

def UserCall.done : UserCall -> List Done
  | .unsubscribe => []
  | .acknowledge item => [Done.acknowledged [item]]
  | .acknowledgeRange items => [Done.acknowledged items]
  | .fail item action => [Done.failed [item] action]
  | .failRange items action => [Done.failed items action]

def UserCall.WellFormed : UserCall -> Prop
  | .unsubscribe => True
  | .acknowledge item => item.WellFormed
  | .acknowledgeRange items => forall item, item ∈ items -> item.WellFormed
  | .fail item _ => item.WellFormed
  | .failRange items _ => forall item, item ∈ items -> item.WellFormed

/-- A call of the user's does what it is for.  Only `unsubscribe()` can be left by a fault,
of a subscription that the connection does not know. -/
theorem perform_run (hshutdown : b.shutdown = id) {call : UserCall} (hcall : call.WellFormed)
    (s : ActingState) :
    exists r next, (perform b call).runOn s = (r, next) ∧ Progress s next call.done ∧
      (s.registered = true -> r = Except.ok ()) := by
  cases call with
  | unsubscribe => exact progress_unsubscribeByKey hshutdown _
  | acknowledge item =>
      refine ⟨Except.ok (), _, ?_, progress_send rfl rfl rfl, fun _ => rfl⟩
      simp only [perform, Handler.runOn_bind, Handler.runOn_modify, acknowledge,
        process_run ack hcall]
      rfl
  | acknowledgeRange items =>
      refine ⟨Except.ok (), _, ?_, progress_send rfl rfl rfl, fun _ => rfl⟩
      simp only [perform, Handler.runOn_bind, Handler.runOn_modify, acknowledgeRange,
        processRange_run ack hcall]
      rfl
  | fail item action =>
      refine ⟨Except.ok (), _, ?_, progress_send rfl rfl rfl, fun _ => rfl⟩
      simp only [perform, Handler.runOn_bind, Handler.runOn_modify, fail,
        process_run (nak action) hcall]
      rfl
  | failRange items action =>
      refine ⟨Except.ok (), _, ?_, progress_send rfl rfl rfl, fun _ => rfl⟩
      simp only [perform, Handler.runOn_bind, Handler.runOn_modify, failRange,
        processRange_run (nak action) hcall]
      rfl

theorem performAll_run (hshutdown : b.shutdown = id) {calls : List UserCall}
    (hcalls : forall call, call ∈ calls -> call.WellFormed) (hregistered : s.registered = true) :
    exists next, (calls.forM (perform b)).runOn s = (Except.ok (), next) ∧
      Progress s next (calls.flatMap UserCall.done) := by
  induction calls generalizing s with
  | nil => exact ⟨s, rfl, Progress.of_frame rfl rfl rfl⟩
  | cons call rest ih =>
      rcases perform_run hshutdown (hcalls call List.mem_cons_self) s with
        ⟨r, mid, hrun, hprogress, hok⟩
      rw [hok hregistered] at hrun
      rcases ih (fun c hc => hcalls c (List.mem_cons_of_mem _ hc))
        (hprogress.registered_eq.trans hregistered) with ⟨next, hrest, hlater⟩
      refine ⟨next, ?_, hprogress.trans hlater⟩
      rw [List.forM_eq_forM, List.forM_cons] at *
      simp [hrun, hrest]

def delivered (autoAck : Bool) (e : Resolved) (calls : List UserCall) : List Done :=
  Done.appeared e :: calls.flatMap UserCall.done ++
    (Done.returned e :: if autoAck then [Done.autoAcknowledged e] else [])

theorem eventAppeared_run (hshutdown : b.shutdown = id) (e : Resolved) (retryCount : Int)
    (hcalls : forall calls call, call ∈ user.onEvent calls -> call.WellFormed)
    (hregistered : s.registered = true) :
    exists (calls : List UserCall) (next : ActingState),
      (eventAppeared b user e retryCount).runOn s = (Except.ok (), next) ∧
      (forall call, call ∈ calls -> call.WellFormed) ∧
      Progress s next
        (Done.appeared e :: calls.flatMap UserCall.done ++ [Done.returned e]) := by
  obtain ⟨called, hcalled⟩ : exists called, called = record (Done.appeared e)
    (s.called (Callback.eventAppeared e (some retryCount))) := ⟨_, rfl⟩
  have happeared : Progress s called [Done.appeared e] := by
    rw [hcalled]
    exact ⟨rfl, by simp [packages, record, State.setChild, State.called], rfl, rfl⟩
  rcases performAll_run hshutdown (hcalls called.calls)
    (happeared.registered_eq.trans hregistered) with ⟨mid, hrun, hperformed⟩
  have hreturned : Progress mid (record (Done.returned e) mid) [Done.returned e] :=
    ⟨rfl, by simp [packages, record, State.setChild], rfl, rfl⟩
  refine ⟨user.onEvent called.calls, record (Done.returned e) mid, ?_, hcalls called.calls,
    (happeared.trans hperformed).trans hreturned⟩
  simp only [eventAppeared, Handler.runOn_bind, Handler.runOn_modify, Handler.runOn_get,
    ← hcalled, hrun]

/-- What a package can bring about: nothing that is recorded, a confirmation or a delivery. -/
inductive Brings (autoAck : Bool) (message : ServerMessage) : List Done -> Prop where
  | nothing : Brings autoAck message []
  | confirmation (id : Bytes) : Brings autoAck message [Done.confirmed id]
  | delivery (m : PersistentSubscriptionStreamEventAppeared) (calls : List UserCall)
      (hmessage : message = .persistentSubscriptionStreamEventAppeared m)
      (hcalls : forall call, call ∈ calls -> call.WellFormed) :
      Brings autoAck message
        (delivered autoAck (Resolved.ofPersistentSubscriptionStreamEventAppeared m) calls)

theorem onPackageReceived_run (hshutdown : b.shutdown = id) (autoAck : Bool)
    {message : ServerMessage}
    (hmessage : forall m, message = .persistentSubscriptionStreamEventAppeared m ->
      (Item.event (Resolved.ofPersistentSubscriptionStreamEventAppeared m)).WellFormed)
    (hcalls : forall calls call, call ∈ user.onEvent calls -> call.WellFormed)
    (hregistered : s.registered = true) :
    exists r next done, (onPackageReceived b user autoAck message).runOn s = (r, next) ∧
      Progress s next done ∧ Brings autoAck message done := by
  cases message with
  | persistentSubscriptionConfirmation response =>
      refine ⟨_, _, [Done.confirmed (read response.subscriptionId)], rfl, ?_,
        Brings.confirmation _⟩
      exact ⟨rfl, by simp [packages, record, State.setChild, confirm], rfl, rfl⟩
  | persistentSubscriptionStreamEventAppeared m =>
      let resolved := Resolved.ofPersistentSubscriptionStreamEventAppeared m
      rcases eventAppeared_run hshutdown resolved (read m.retryCount) hcalls hregistered with
        ⟨calls, next, hrun, hwellFormed, hprogress⟩
      cases autoAck with
      | false =>
          refine ⟨Except.ok true, next, delivered false resolved calls, ?_, hprogress,
            Brings.delivery m calls rfl hwellFormed⟩
          simp only [onPackageReceived, Handler.runOn_bind]
          rw [hrun]
          rfl
      | true =>
          have hprocessed : isProcessed
              (ack next.child.subscriptionId [(Item.event resolved).eventId]) = true := rfl
          have hacknowledged := progress_send (s := next)
            (d := Done.autoAcknowledged resolved) hprocessed rfl rfl
          refine ⟨Except.ok true, (record (Done.autoAcknowledged resolved) next).send
            (ack next.child.subscriptionId [(Item.event resolved).eventId]),
            delivered true resolved calls, ?_, ?_, Brings.delivery m calls rfl hwellFormed⟩
          · simp only [onPackageReceived, Handler.runOn_bind]
            rw [hrun]
            simp only [if_true, autoAcknowledge, Handler.runOn_bind, Handler.runOn_modify,
              acknowledge, process_run ack (hmessage m rfl)]
            rfl
          · have hdone := hprogress.trans hacknowledged
            rw [List.append_assoc] at hdone
            exact hdone
  | subscriptionDropped response =>
      rcases progress_unsubscribeByKey hshutdown
        (Error.subscription (Persistent.dropError (read response.reason))) (s := s) with
        ⟨r, next, hrun, hprogress, hok⟩
      rw [hok hregistered] at hrun
      refine ⟨Except.ok true, next, [], ?_, hprogress, Brings.nothing⟩
      simp only [onPackageReceived, Handler.runOn_bind]
      rw [hrun]
      rfl
  | _ => exact ⟨_, s, [], rfl, Progress.of_frame rfl rfl rfl, Brings.nothing⟩

end Calls

/-!
# Deliveries

An item that a call is for was delivered before; what the user does in a callback is no
delivery.
-/

def deliveries (history : List Done) : List Resolved :=
  history.filterMap fun
    | Done.appeared e => some e
    | _ => none

def autoAcknowledgements (history : List Done) : List Resolved :=
  history.filterMap fun
    | Done.autoAcknowledged e => some e
    | _ => none

/-- Each callback that has returned is followed at once by the acknowledgement of its
event. -/
def AutoAcknowledged : List Done -> Prop
  | [] => True
  | Done.returned e :: rest =>
      rest.head? = some (Done.autoAcknowledged e) ∧ AutoAcknowledged rest
  | _ :: rest => AutoAcknowledged rest

def Done.items : Done -> List Item
  | Done.acknowledged items => items
  | Done.autoAcknowledged e => [Item.event e]
  | Done.failed items _ => items
  | _ => []

/-- Only well-formed items are processed, and an automatic acknowledgement comes for each
delivery. -/
structure Orderly (autoAck : Bool) (done : List Done) : Prop where
  wellFormed : forall d, d ∈ done -> forall item, item ∈ d.items -> item.WellFormed
  auto_eq : autoAcknowledgements done = if autoAck then deliveries done else []
  follows : autoAck = true -> AutoAcknowledged done

namespace Orderly

variable {autoAck : Bool} {done later : List Done}

theorem nil : Orderly autoAck [] :=
  ⟨fun _ hd => absurd hd List.not_mem_nil, by cases autoAck <;> rfl, fun _ => trivial⟩

theorem autoAcknowledged_append (hdone : AutoAcknowledged done)
    (hlater : AutoAcknowledged later) : AutoAcknowledged (done ++ later) := by
  induction done with
  | nil => exact hlater
  | cons d rest ih =>
      cases d with
      | returned e =>
          rcases hdone with ⟨hhead, hrest⟩
          refine ⟨?_, ih hrest⟩
          show (rest ++ later).head? = _
          rw [List.head?_append, hhead]
          rfl
      | _ => exact ih hdone

theorem append (h : Orderly autoAck done) (hlater : Orderly autoAck later) :
    Orderly autoAck (done ++ later) where
  wellFormed := by
    intro d hd
    rcases List.mem_append.mp hd with hd | hd
    · exact h.wellFormed d hd
    · exact hlater.wellFormed d hd
  auto_eq := by
    have hauto := h.auto_eq
    have hauto' := hlater.auto_eq
    simp only [autoAcknowledgements, deliveries, List.filterMap_append] at hauto hauto' ⊢
    rw [hauto, hauto']
    cases autoAck <;> simp
  follows := fun hack => autoAcknowledged_append (h.follows hack) (hlater.follows hack)

theorem singleton {d : Done} (hitems : forall item, item ∈ d.items -> item.WellFormed)
    (hdelivered : deliveries [d] = []) (hauto : autoAcknowledgements [d] = [])
    (hfollows : AutoAcknowledged [d]) : Orderly autoAck [d] where
  wellFormed := by
    intro d' hd
    rw [List.mem_singleton.mp hd]
    exact hitems
  auto_eq := by
    rw [hauto, hdelivered]
    cases autoAck <;> rfl
  follows := fun _ => hfollows

theorem confirmed (id : Bytes) : Orderly autoAck [Done.confirmed id] :=
  singleton (fun _ hitem => absurd hitem List.not_mem_nil) rfl rfl trivial

theorem call {call : UserCall} (hcall : call.WellFormed) : Orderly autoAck call.done := by
  cases call with
  | unsubscribe => exact nil
  | acknowledge item =>
      refine singleton ?_ rfl rfl trivial
      intro item' hitem
      rw [List.mem_singleton.mp hitem]
      exact hcall
  | acknowledgeRange items => exact singleton hcall rfl rfl trivial
  | fail item action =>
      refine singleton ?_ rfl rfl trivial
      intro item' hitem
      rw [List.mem_singleton.mp hitem]
      exact hcall
  | failRange items action => exact singleton hcall rfl rfl trivial

theorem calls {calls : List UserCall} (hcalls : forall call, call ∈ calls -> call.WellFormed) :
    Orderly autoAck (calls.flatMap UserCall.done) := by
  induction calls with
  | nil => exact nil
  | cons c rest ih =>
      rw [List.flatMap_cons]
      exact (call (hcalls c List.mem_cons_self)).append
        (ih fun c' hmem => hcalls c' (List.mem_cons_of_mem _ hmem))

theorem deliveries_calls (calls : List UserCall) :
    deliveries (calls.flatMap UserCall.done) = [] ∧
      autoAcknowledgements (calls.flatMap UserCall.done) = [] := by
  induction calls with
  | nil => exact ⟨rfl, rfl⟩
  | cons c rest ih =>
      simp only [deliveries, autoAcknowledgements, List.flatMap_cons,
        List.filterMap_append] at ih ⊢
      rw [ih.left, ih.right]
      cases c <;> exact ⟨rfl, rfl⟩

theorem delivered {e : Resolved} {calls : List UserCall} (he : (Item.event e).WellFormed)
    (hcalls : forall call, call ∈ calls -> call.WellFormed) :
    Orderly autoAck (delivered autoAck e calls) := by
  have hquiet := deliveries_calls calls
  have hinner : Orderly autoAck (calls.flatMap UserCall.done) := Orderly.calls hcalls
  constructor
  · intro d hd item hitem
    rw [Acknowledging.delivered, List.cons_append, List.mem_cons, List.mem_append,
      List.mem_cons] at hd
    rcases hd with rfl | hd | rfl | hd
    · exact absurd hitem List.not_mem_nil
    · exact hinner.wellFormed d hd item hitem
    · exact absurd hitem List.not_mem_nil
    · cases autoAck with
      | false => exact absurd hd List.not_mem_nil
      | true =>
          rw [List.mem_singleton.mp hd] at hitem
          rw [List.mem_singleton.mp hitem]
          exact he
  · simp only [deliveries, autoAcknowledgements] at hquiet
    simp only [Acknowledging.delivered, deliveries, autoAcknowledgements, List.cons_append,
      List.filterMap_cons, List.filterMap_append, hquiet.left, hquiet.right]
    cases autoAck <;> rfl
  · intro hack
    have hlast : AutoAcknowledged [Done.returned e, Done.autoAcknowledged e] := ⟨rfl, trivial⟩
    subst hack
    exact autoAcknowledged_append (hinner.follows rfl) hlast

end Orderly

/-!
# Runs

What a package brings about is in order, and every other step leaves the history and the
packages alone.
-/

/-- The packages that have been sent are those for what has been done. -/
structure Matched (autoAck : Bool) (s : ActingState) : Prop where
  sent_eq : s.sent.filter isProcessed = packages [] s.child.history
  id_eq : s.child.subscriptionId = latestId [] s.child.history
  orderly : Orderly autoAck s.child.history

/-- The user and what happens hand on nothing but well-formed events. -/
def ActingUser.WellFormed (user : ActingUser) : Prop :=
  forall calls call, call ∈ user.onEvent calls -> call.WellFormed

def ActingInput.WellFormed : ActingInput -> Prop
  | .input (.received (.persistentSubscriptionStreamEventAppeared m)) =>
      (Item.event (Resolved.ofPersistentSubscriptionStreamEventAppeared m)).WellFormed
  | .input _ => True
  | .call c => c.WellFormed

section Runs

variable {key : Guid} {user : ActingUser} {autoAck : Bool} {s next : ActingState}

theorem Matched.progress {done : List Done} (h : Matched autoAck s)
    (hprogress : Progress s next done) (hdone : Orderly autoAck done) :
    Matched autoAck next where
  sent_eq := by
    rw [hprogress.sent_eq, hprogress.history_eq, packages_append, h.sent_eq, h.id_eq]
  id_eq := by rw [hprogress.id_eq, hprogress.history_eq, latestId_append, h.id_eq]
  orderly := by
    rw [hprogress.history_eq]
    exact h.orderly.append hdone

theorem Matched.frame (h : Matched autoAck s) (hchild : next.child = s.child)
    (hsent : next.sent.filter isProcessed = s.sent.filter isProcessed) :
    Matched autoAck next where
  sent_eq := by rw [hsent, hchild, h.sent_eq]
  id_eq := by rw [hchild, h.id_eq]
  orderly := by
    rw [hchild]
    exact h.orderly

theorem matched_started (autoAck : Bool) : Matched autoAck started :=
  ⟨rfl, rfl, Orderly.nil⟩

theorem keepingBase_matched (key : Guid) (user : ActingUser) (autoAck : Bool) :
    KeepingBase (base key user) (Matched autoAck) where
  called := fun _ hs => hs.frame rfl rfl
  unsubscribe := fun ec hs => hs.progress (progress_unsubscribe rfl ec) Orderly.nil
  erase := fun hs => hs.frame rfl rfl
  answered := fun hs => hs.frame rfl rfl
  setDeadline := fun _ hs => hs.frame rfl rfl
  fault := fun _ _ hs => hs.frame rfl rfl

theorem Brings.orderly {message : ServerMessage} {done : List Done}
    (h : Brings autoAck message done)
    (hmessage : forall m, message = .persistentSubscriptionStreamEventAppeared m ->
      (Item.event (Resolved.ofPersistentSubscriptionStreamEventAppeared m)).WellFormed) :
    Orderly autoAck done := by
  cases h with
  | nothing => exact Orderly.nil
  | confirmation id => exact Orderly.confirmed id
  | delivery m calls heq hcalls => exact Orderly.delivered (hmessage m heq) hcalls

theorem matched_step (huser : user.WellFormed) (h : Matched autoAck s) {i : Input Empty}
    (hi : (ActingInput.input i).WellFormed)
    (hstep : step (subscription key user autoAck) s i = some next) :
    Matched autoAck next := by
  apply KeepingBase.step (c := subscription key user autoAck)
    (keepingBase_matched key user autoAck) h ?_ ?_ (fun _ => h.frame rfl rfl)
    (fun _ _ => h.frame rfl rfl) hstep
  · intro j result hread
    rw [hread, step, Option.map_eq_some_iff] at hstep
    rcases hstep with ⟨r, _, _⟩
    cases r
  · intro message hreceived hlistening
    have hmessage : forall m, message = .persistentSubscriptionStreamEventAppeared m ->
        (Item.event (Resolved.ofPersistentSubscriptionStreamEventAppeared m)).WellFormed := by
      intro m hm
      rw [hreceived, hm] at hi
      exact hi
    rcases onPackageReceived_run (b := base key user) rfl autoAck hmessage huser
      hlistening.registered with ⟨r, after, done, hrun, hprogress, hbrings⟩
    show Matched autoAck ((onPackageReceived (base key user) user autoAck message).runOn s).2
    rw [hrun]
    exact h.progress hprogress (hbrings.orderly hmessage)

theorem matched_actingStep (huser : user.WellFormed) (h : Matched autoAck s)
    {i : ActingInput} (hi : i.WellFormed)
    (hstep : actingStep (subscription key user autoAck) s i = some next) :
    Matched autoAck next := by
  cases i with
  | input i => exact matched_step huser h hi hstep
  | call call =>
      cases hstep
      rcases perform_run (b := base key user) rfl hi s with ⟨r, after, hrun, hprogress, _⟩
      apply (keepingBase_matched key user autoAck).settle
      show Matched autoAck ((perform (base key user) call).runOn s).2
      rw [hrun]
      exact h.progress hprogress (Orderly.call hi)

theorem matched_run (huser : user.WellFormed) {inputs : List ActingInput}
    (hinputs : forall i, i ∈ inputs -> i.WellFormed)
    (hrun : run (actingStep (subscription key user autoAck)) started inputs = some s) :
    Matched autoAck s :=
  run_invariant (fun h hi hstep => matched_actingStep huser h hi hstep)
    (matched_started autoAck) (everyStep_of_forall hinputs started) hrun

end Runs

/-!
# The ids that are sent

What the acknowledgements and the negative ones of a run carry, one package after another.
-/

/-- The `processed_event_ids` of the acknowledgements, one package after another. -/
def ackedIds (sent : List Request) : List Bytes :=
  sent.flatMap fun
    | .persistentSubscriptionAckEvents _ ids => ids
    | _ => []

/-- Those of the negative acknowledgements, each with the action of its package. -/
def nakedIds (sent : List Request) : List (NakEventAction × Bytes) :=
  sent.flatMap fun
    | .persistentSubscriptionNakEvents _ action ids => ids.map fun id => (action, id)
    | _ => []

def acknowledgedItems (history : List Done) : List Item :=
  history.flatMap fun
    | Done.acknowledged items => items
    | Done.autoAcknowledged e => [Item.event e]
    | _ => []

def failedItems (history : List Done) : List (NakEventAction × Item) :=
  history.flatMap fun
    | Done.failed items action => items.map fun item => (action, item)
    | _ => []

def subscriptionIdOf : Request -> Option Bytes
  | .persistentSubscriptionAckEvents id _ => some id
  | .persistentSubscriptionNakEvents id _ _ => some id
  | _ => none

theorem Item.WellFormed.length_eventId {item : Item} (h : item.WellFormed) :
    item.eventId.length = 16 := by
  cases item with
  | guid id => exact id.size_eq
  | event e =>
      rcases h with ⟨record, hrecord, hlength⟩
      rw [originalEvent_eventId hrecord]
      exact hlength

theorem ackedIds_filter (sent : List Request) :
    ackedIds (sent.filter isProcessed) = ackedIds sent := by
  induction sent with
  | nil => rfl
  | cons request rest ih =>
      simp only [ackedIds] at ih ⊢
      cases request <;> simp [List.filter_cons, isProcessed, ih]

theorem nakedIds_filter (sent : List Request) :
    nakedIds (sent.filter isProcessed) = nakedIds sent := by
  induction sent with
  | nil => rfl
  | cons request rest ih =>
      simp only [nakedIds] at ih ⊢
      cases request <;> simp [List.filter_cons, isProcessed, ih]

theorem ackedIds_packages (id : Bytes) (history : List Done) :
    ackedIds (packages id history) = (acknowledgedItems history).map Item.eventId := by
  induction history generalizing id with
  | nil => rfl
  | cons d rest ih =>
      simp only [ackedIds, acknowledgedItems] at ih ⊢
      cases d <;> simp [packages, ack, nak, ih]

theorem nakedIds_packages (id : Bytes) (history : List Done) :
    nakedIds (packages id history) =
      (failedItems history).map fun failed => (failed.1, failed.2.eventId) := by
  induction history generalizing id with
  | nil => rfl
  | cons d rest ih =>
      simp only [nakedIds, failedItems] at ih ⊢
      cases d <;> simp [packages, ack, nak, ih]

/-- As long as no other confirmation comes, all packages carry the id of the one before. -/
theorem subscriptionIdOf_packages {id : Bytes} {history : List Done}
    (hunconfirmed : forall other, Done.confirmed other ∉ history) {request : Request}
    (hrequest : request ∈ packages id history) : subscriptionIdOf request = some id := by
  induction history with
  | nil => exact absurd hrequest List.not_mem_nil
  | cons d rest ih =>
      have hrest := ih fun other hmem => hunconfirmed other (List.mem_cons_of_mem _ hmem)
      cases d with
      | confirmed other => exact absurd List.mem_cons_self (hunconfirmed other)
      | appeared e => exact hrest hrequest
      | returned e => exact hrest hrequest
      | autoAcknowledged e =>
          rcases List.mem_cons.mp hrequest with rfl | hmem
          · rfl
          · exact hrest hmem
      | acknowledged items =>
          rcases List.mem_cons.mp hrequest with rfl | hmem
          · rfl
          · exact hrest hmem
      | failed items action =>
          rcases List.mem_cons.mp hrequest with rfl | hmem
          · rfl
          · exact hrest hmem

/-!
# Ranges

The calls for single items send what the call for their range sends, in a package for
each.
-/

/-- The calls for single items, one after another, send what the call for their range
sends, in a package for each. -/
theorem processAll_run (request : Bytes -> List Bytes -> Request) {items : List Item}
    (hitems : forall item, item ∈ items -> item.WellFormed) (s : ActingState) :
    (items.forM (process request)).runOn s =
      (Except.ok (), { s with
        sent := s.sent ++ items.map fun item =>
          request s.child.subscriptionId [item.eventId] }) := by
  induction items generalizing s with
  | nil =>
      show (Except.ok (), s) = _
      simp
  | cons item rest ih =>
      have hrest := ih fun item' hmem => hitems item' (List.mem_cons_of_mem _ hmem)
      show ((process request item) >>= fun _ => rest.forM (process request)).runOn s = _
      rw [Handler.runOn_bind, process_run request (hitems item List.mem_cons_self)]
      simp only
      rw [hrest]
      simp [State.send]

theorem ackedIds_append (sent later : List Request) :
    ackedIds (sent ++ later) = ackedIds sent ++ ackedIds later :=
  List.flatMap_append

theorem nakedIds_append (sent later : List Request) :
    nakedIds (sent ++ later) = nakedIds sent ++ nakedIds later :=
  List.flatMap_append

theorem ackedIds_singles (id : Bytes) (items : List Item) :
    ackedIds (items.map fun item => ack id [item.eventId]) = items.map Item.eventId := by
  induction items with
  | nil => rfl
  | cons item rest ih =>
      rw [List.map_cons, List.map_cons, <- ih]
      rfl

theorem nakedIds_singles (id : Bytes) (action : NakEventAction) (items : List Item) :
    nakedIds (items.map fun item => nak action id [item.eventId]) =
      items.map fun item => (action, item.eventId) := by
  induction items with
  | nil => rfl
  | cons item rest ih =>
      rw [List.map_cons, List.map_cons, <- ih]
      rfl

theorem acknowledgeRange_singles {items : List Item}
    (hitems : forall item, item ∈ items -> item.WellFormed) (s : ActingState) :
    ackedIds ((acknowledgeRange items).runOn s).2.sent =
      ackedIds ((items.forM acknowledge).runOn s).2.sent := by
  have hsingles : items.forM acknowledge = items.forM (process ack) := rfl
  rw [hsingles, processAll_run ack hitems, acknowledgeRange, processRange_run ack hitems]
  show ackedIds (s.sent ++ [_]) = ackedIds (s.sent ++ _)
  rw [ackedIds_append, ackedIds_append, ackedIds_singles]
  exact congrArg _ (List.append_nil _)

theorem failRange_singles {items : List Item} (action : NakEventAction)
    (hitems : forall item, item ∈ items -> item.WellFormed) (s : ActingState) :
    nakedIds ((failRange items action).runOn s).2.sent =
      nakedIds ((items.forM fun item => fail item action).runOn s).2.sent := by
  have hsingles : (items.forM fun item => fail item action) =
      items.forM (process (nak action)) := rfl
  rw [hsingles, processAll_run (nak action) hitems, failRange,
    processRange_run (nak action) hitems]
  show nakedIds (s.sent ++ [_]) = nakedIds (s.sent ++ _)
  rw [nakedIds_append, nakedIds_append, nakedIds_singles]
  refine congrArg _ ((List.append_nil _).trans ?_)
  exact List.map_map

/-!
# The locked guard

Nothing is done with what arrives once the handle guard is locked.
-/

theorem locked_received {key : Guid} {user : ActingUser} {autoAck : Bool}
    {s next : ActingState} {message : ServerMessage} (hlocked : s.handleGuard = true)
    (hstep : step (subscription key user autoAck) s (.received message) = some next) :
    next.child = s.child ∧ next.sent.filter isProcessed = s.sent.filter isProcessed := by
  have hkeeping : KeepingBase (base key user) fun t : ActingState =>
      t.child = s.child ∧ t.sent.filter isProcessed = s.sent.filter isProcessed :=
    { called := fun _ ht => ht
      unsubscribe := by
        intro t ec ht
        have hprogress := progress_unsubscribe (b := base key user) (s := t) rfl ec
        refine ⟨(unsubscribe_child ec).trans ht.left, ?_⟩
        rw [hprogress.sent_eq, packages, List.append_nil, ht.right]
      erase := id
      answered := id
      setDeadline := fun _ ht => ht
      fault := fun _ _ ht => ht }
  apply KeepingBase.step (c := subscription key user autoAck) hkeeping ⟨rfl, rfl⟩ ?_ ?_
    (fun _ => ⟨rfl, rfl⟩) (fun _ _ => ⟨rfl, rfl⟩) hstep
  · intro j result hread
    cases hread
  · intro _ _ hlistening
    have hunlocked := hlistening.unlocked
    rw [hlocked] at hunlocked
    cases hunlocked

/-!
# Acknowledgements match deliveries

If all events come after the confirmation, what is sent matches what was delivered.  A run
with an acknowledgement and then the confirmation is the counterexample.
-/

/-- The acknowledgements that have been sent match the calls of the user and the events
that have been passed on. -/
structure AcknowledgementsMatch (c : Class Child Empty Empty) (autoAck : Bool)
    (s : ActingState) : Prop where
  acknowledged : ackedIds s.sent = (acknowledgedItems s.child.history).map Item.eventId
  failed : nakedIds s.sent =
    (failedItems s.child.history).map fun failed => (failed.1, failed.2.eventId)
  sixteen_bytes : forall d, d ∈ s.child.history -> forall item, item ∈ d.items ->
    item.eventId.length = 16
  -- one package for each call, with the id of the latest confirmation before it
  packages_eq : s.sent.filter isProcessed = packages [] s.child.history
  subscription_id : forall earlier id later,
    s.child.history = earlier ++ Done.confirmed id :: later ->
    (forall other, Done.confirmed other ∉ later) ->
    exists before, s.sent.filter isProcessed = packages [] earlier ++ before ∧
      forall request, request ∈ before -> subscriptionIdOf request = some id
  auto_once : autoAck = true ->
    autoAcknowledgements s.child.history = deliveries s.child.history
  auto_after : autoAck = true -> AutoAcknowledged s.child.history
  locked : forall m next, s.handleGuard = true ->
    step c s (.received (.persistentSubscriptionStreamEventAppeared m)) = some next ->
    next.child.history = s.child.history ∧
      next.sent.filter isProcessed = s.sent.filter isProcessed
  acknowledge_range : forall items, (forall item, item ∈ items -> item.WellFormed) ->
    ackedIds ((acknowledgeRange items).runOn s).2.sent =
      ackedIds ((items.forM acknowledge).runOn s).2.sent
  fail_range : forall items action, (forall item, item ∈ items -> item.WellFormed) ->
    nakedIds ((failRange items action).runOn s).2.sent =
      nakedIds ((items.forM fun item => fail item action).runOn s).2.sent

/-- Whatever the user and the server do: each call of `acknowledge` or `fail` and each
delivery sends its ids once and in order, with the id of the latest confirmation. -/
theorem acknowledgementsMatch {key : Guid} {user : ActingUser} {autoAck : Bool}
    (huser : user.WellFormed) {inputs : List ActingInput}
    (hinputs : forall i, i ∈ inputs -> i.WellFormed) {s : ActingState}
    (hrun : run (actingStep (subscription key user autoAck)) started inputs = some s) :
    AcknowledgementsMatch (subscription key user autoAck) autoAck s := by
  have hmatched := matched_run huser hinputs hrun
  constructor
  · rw [<- ackedIds_filter, hmatched.sent_eq, ackedIds_packages]
  · rw [<- nakedIds_filter, hmatched.sent_eq, nakedIds_packages]
  · intro d hd item hitem
    exact (hmatched.orderly.wellFormed d hd item hitem).length_eventId
  · exact hmatched.sent_eq
  · intro earlier id later hhistory hlater
    refine ⟨packages id later, ?_, fun _ hmem => subscriptionIdOf_packages hlater hmem⟩
    rw [hmatched.sent_eq, hhistory, packages_append, packages]
  · intro hack
    have hauto := hmatched.orderly.auto_eq
    rwa [hack, if_pos rfl] at hauto
  · exact hmatched.orderly.follows
  · intro m next hlocked hstep
    rcases locked_received hlocked hstep with ⟨hchild, hsent⟩
    exact ⟨congrArg Child.history hchild, hsent⟩
  · intro items hitems
    exact acknowledgeRange_singles hitems s
  · intro items action hitems
    exact failRange_singles action hitems s

def quietUser : ActingUser :=
  { onEvent := fun _ => []
    onDropped := fun _ => false }

def linkedEvent : ResolvedIndexedEvent :=
  { event := some { recordedEvent 7 with eventId := some (List.replicate 16 1) }
    link := some { recordedEvent 8 with eventId := some (List.replicate 16 2) } }

/-- The confirmation of a group, an event, and the acknowledgement of a guid. -/
def linkedRun : List ActingInput :=
  [.input (.received (.persistentSubscriptionConfirmation
      { lastCommitPosition := some 0, subscriptionId := some [0x67],
        lastEventNumber := none })),
   .input (.received (.persistentSubscriptionStreamEventAppeared
      { event := some linkedEvent, retryCount := none })),
   .call (.acknowledge (.guid (Guid.ofByte 3)))]

theorem linkedRun_acknowledged :
    exists s, run (actingStep (subscription (Guid.ofByte 9) quietUser true)) started linkedRun =
        some s ∧
      AcknowledgementsMatch (subscription (Guid.ofByte 9) quietUser true) true s ∧
      ackedIds s.sent = [List.replicate 16 2, (Guid.ofByte 3).data] := by
  have huser : quietUser.WellFormed := fun _ _ hcall => absurd hcall List.not_mem_nil
  have hinputs : forall i, i ∈ linkedRun -> i.WellFormed := by
    simp only [linkedRun, List.forall_mem_cons]
    exact ⟨trivial, ⟨_, rfl, rfl⟩, trivial, fun _ hmem => absurd hmem List.not_mem_nil⟩
  cases hrun : run (actingStep (subscription (Guid.ofByte 9) quietUser true)) started
      linkedRun with
  | none => exact absurd hrun (by decide +kernel)
  | some s =>
      refine ⟨s, rfl, acknowledgementsMatch huser hinputs hrun, ?_⟩
      have hids : (run (actingStep (subscription (Guid.ofByte 9) quietUser true)) started
          linkedRun).map (fun s => ackedIds s.sent) =
          some [List.replicate 16 2, (Guid.ofByte 3).data] := by
        decide +kernel
      rw [hrun] at hids
      exact Option.some.inj hids

def ConfirmedFirst (history : List Done) : Prop :=
  forall earlier e later, history = earlier ++ Done.appeared e :: later ->
    exists id, Done.confirmed id ∈ earlier

def earlyRun : List ActingInput :=
  [.call (.acknowledge (.guid (Guid.ofByte 3))),
   .input (.received (.persistentSubscriptionConfirmation
      { lastCommitPosition := some 0, subscriptionId := some [0x67],
        lastEventNumber := none }))]

/-- A guid that is acknowledged before the confirmation has come goes out without a
subscription id. -/
theorem acknowledge_beforeConfirmation :
    ¬ forall inputs s,
      run (actingStep (subscription (Guid.ofByte 9) quietUser true)) started inputs = some s ->
      ConfirmedFirst s.child.history ->
      forall id, Done.confirmed id ∈ s.child.history ->
        forall request, request ∈ s.sent.filter isProcessed ->
          subscriptionIdOf request = some id := by
  intro h
  have hobserved : (run (actingStep (subscription (Guid.ofByte 9) quietUser true)) started
      earlyRun).map (fun s => (s.child.history, s.sent.filter isProcessed)) =
      some ([Done.acknowledged [.guid (Guid.ofByte 3)], Done.confirmed [0x67]],
        [ack [] [(Guid.ofByte 3).data]]) := by
    decide +kernel
  rcases Option.map_eq_some_iff.mp hobserved with ⟨s, hrun, heq⟩
  have hhistory := congrArg Prod.fst heq
  have hsent := congrArg Prod.snd heq
  simp only at hhistory hsent
  have hfirst : ConfirmedFirst s.child.history := by
    intro earlier e later hsplit
    have hmem : Done.appeared e ∈ s.child.history := by
      rw [hsplit]
      exact List.mem_append_right earlier List.mem_cons_self
    rw [hhistory] at hmem
    simp at hmem
  have hid := h earlyRun s hrun hfirst [0x67] (by rw [hhistory]; simp)
    (ack [] [(Guid.ofByte 3).data]) (by rw [hsent]; simp)
  exact absurd hid (by decide)

end Acknowledging
end Subscription
end EventStoreClient
