import EventStoreClient.Subscription.Kinds

/-!
# Draining the buffer

The catch-up subscriptions with a user whose `event_appeared` calls back into the
subscription.  What each `pop_front` found, and what was called while the buffer was being
drained, is kept beside the cursor.
-/

namespace EventStoreClient
namespace Subscription
namespace Draining

open Buffer Connection Foundation Operations Wire

/-!
# The calls of the user

In a callback the user may unsubscribe, start the class again, shut it down, or throw.
-/

/-- What `event_appeared` can do: a public call of its subscription, or it is left by an
exception. -/
inductive Act where
  | unsubscribe
  | asyncStart
  | shutdown
  | throws (fault : Fault)
  deriving DecidableEq

/-- What `event_appeared` does, given the callbacks up to it, and whether `dropped` calls
`unsubscribe()`. -/
structure ActingUser where
  onEvent : List Callback -> List Act
  onDropped : List Callback -> Bool

/-- A callback that `read_subscription_events` has made, with what it met and what it
did. -/
structure DrainCall where
  registered : Bool
  handleGuard : Bool
  acts : List Act
  deriving DecidableEq

/-- The cursor, with a record for each `pop_front` of whether there was an element. -/
structure Watched (cursor : Type) where
  cursor : cursor
  pops : List Bool
  drainCalls : List DrainCall

abbrev Child (cursor : Type) := Buffered (Watched cursor)

variable {cursor pending position batch : Type}

def popFront (s : State (Child cursor) pending) : State (Child cursor) pending :=
  Buffered.popFront (Buffered.setCursor
    (fun w => { w with pops := w.pops ++ [!s.child.eventBuffer.empty] }) s)

def setCursor (f : cursor -> cursor) (s : State (Child cursor) pending) :
    State (Child cursor) pending :=
  Buffered.setCursor (fun w => { w with cursor := f w.cursor }) s

section Callbacks

variable (b : Base (Child cursor)) (user : ActingUser)
  (start : State (Child cursor) pending -> State (Child cursor) pending)

def act : Act -> Handles (Child cursor) pending Unit
  | .unsubscribe => b.unsubscribeByKey (Error.subscription .unsubscribed)
  | .asyncStart => modify start
  | .shutdown => modify (fun s => s.setChild (b.shutdown s.child))
  | .throws fault => throw fault

def eventAppeared (e : Resolved) : Handles (Child cursor) pending Unit := do
  modify (State.called (Callback.eventAppeared e none))
  (user.onEvent (<- get).calls).forM (act b start)

def recordCall (s : State (Child cursor) pending) : State (Child cursor) pending :=
  Buffered.setCursor
    (fun w => { w with
      drainCalls := w.drainCalls ++
        [{ registered := s.registered
           handleGuard := s.handleGuard
           acts := user.onEvent s.calls }] }) s

/-- The user's `event_appeared` is called by `read_subscription_events`. -/
def eventDrained (e : Resolved) : Handles (Child cursor) pending Unit := do
  modify (State.called (Callback.eventAppeared e none))
  modify (recordCall user)
  (user.onEvent (<- get).calls).forM (act b start)

end Callbacks

def base (key : Guid) (user : ActingUser) : Base (Child cursor) :=
  { key := key
    user :=
      { onEvent := fun _ => false
        onDropped := user.onDropped }
    shutdown := Buffered.shutdown }

/-!
# `catchup_subscription`

The class with its records: whether a callback in the loop of `read_subscription_events`
has cleared the buffer, and whether the `pop_front` behind it has found an element.
-/

namespace Catchup

open Buffered (catchUpEvents doAsyncStart emplaceBack front)

abbrev CatchupState := State (Child Int) (Read Int)

def currentEventNumber (s : CatchupState) : Int := s.child.cursor.cursor

def advance (s : CatchupState) : CatchupState := setCursor (fun n => n + 1) s

variable (b : Base (Child Int)) (user : ActingUser) (settings : CatchupSubscriptionSettings)

def asyncStart (s : CatchupState) : CatchupState :=
  catchUpEvents (currentEventNumber s) settings.readBatchSize.toInt ReadHandler.history s

def catchUpMissedEvents (count : Int) (s : CatchupState) : CatchupState :=
  catchUpEvents (currentEventNumber s) count (ReadHandler.missed count) s

def appear (events : List Resolved) : Handles (Child Int) (Read Int) Unit :=
  events.forM fun e => do
    eventAppeared b user (asyncStart settings) e
    modify advance

def deliver (e : Resolved) : Handles (Child Int) (Read Int) Unit := do
  eventDrained b user (asyncStart settings) e
  modify popFront
  modify advance

def readSubscriptionEvents : Handles (Child Int) (Read Int) Unit :=
  Buffered.readSubscriptionEvents (deliver b user settings) settings

def onRead (r : Read Int) (result : Except Error StreamEventsSlice) :
    Handles (Child Int) (Read Int) Unit := do
  match r.handler, result with
  | .history, .ok slice =>
      appear b user settings (Subscription.Catchup.sliceEvents slice)
      if slice.isEndOfStream then modify doAsyncStart
      else modify (asyncStart settings)
  | .history, .error _ =>
      modify (b.unsubscribe (Error.subscription .subscriptionRequestNotSent))
  | .missed count, .ok slice =>
      appear b user settings (Subscription.Catchup.sliceEvents slice)
      let mutableCount := count - slice.events.length
      if 0 < mutableCount then modify (catchUpMissedEvents mutableCount)
      else modify (State.post Posted.readSubscriptionEvents)
  | .missed _, .error e => modify (b.unsubscribe e)

def onPackageReceived : ServerMessage -> Handles (Child Int) (Read Int) Bool
  | .subscriptionConfirmation response => do
      modify (confirm response.lastCommitPosition response.lastEventNumber)
      match response.lastEventNumber with
      | some lastEventNumber =>
          let current := currentEventNumber (<- get)
          if current < lastEventNumber then
            modify (catchUpMissedEvents (lastEventNumber - current))
      | none =>
          modify (b.unsubscribe (Error.subscription .badSubscriptionConfirmation))
      pure true
  | .streamEventAppeared message => do
      modify (emplaceBack (Resolved.ofStreamEventAppeared message))
      let event <- front
      let _ <- value event.event
      let lastEventNumber <- value (<- get).lastEventNumber
      if currentEventNumber (<- get) < lastEventNumber then pure true
      else
        if (<- get).child.eventBuffer.size = 1 then readSubscriptionEvents b user settings
        pure true
  | _ => pure false

def subscription (key : Guid) (user : ActingUser) (settings : CatchupSubscriptionSettings) :
    Class (Child Int) (Read Int) StreamEventsSlice :=
  { base key user with
    onPackageReceived := onPackageReceived (base key user) user settings
    onRead := onRead (base key user) user settings
    readSubscriptionEvents := readSubscriptionEvents (base key user) user settings }

end Catchup

/-!
# `catchup_all_subscription`

The same for the other class.
-/

namespace CatchupAll

open Buffered (catchUpEvents doAsyncStart emplaceBack front)

abbrev Cursor := Subscription.CatchupAll.Cursor

abbrev CatchupState := State (Child Cursor) (Read Position)

def currentPosition (s : CatchupState) : Position := s.child.cursor.cursor.currentPosition

def positionToCatchUpTo (s : CatchupState) : Position :=
  s.child.cursor.cursor.positionToCatchUpTo

def setCurrentPosition (p : Position) (s : CatchupState) : CatchupState :=
  setCursor (fun c => { c with currentPosition := p }) s

def setPositionToCatchUpTo (p : Position) (s : CatchupState) : CatchupState :=
  setCursor (fun c => { c with positionToCatchUpTo := p }) s

variable (b : Base (Child Cursor)) (user : ActingUser)
  (settings : CatchupSubscriptionSettings)

def asyncStart (s : CatchupState) : CatchupState :=
  catchUpEvents (currentPosition s) settings.readBatchSize.toInt ReadHandler.history s

def catchUpMissedEvents (count : Int) (s : CatchupState) : CatchupState :=
  catchUpEvents (currentPosition s) count (ReadHandler.missed count) s

def appear (events : List Resolved) : Handles (Child Cursor) (Read Position) Unit :=
  events.forM fun e => eventAppeared b user (asyncStart settings) e

/-- The loop over a slice of missed events, which returns `continue_next_batch`. -/
def appearMissed : List Resolved -> Handles (Child Cursor) (Read Position) Bool
  | [] => pure true
  | e :: rest => do
      let position <- value e.originalPosition
      modify (setCurrentPosition position)
      if position = positionToCatchUpTo (<- get) then pure false
      else
        eventAppeared b user (asyncStart settings) e
        appearMissed rest

def deliver (e : Resolved) : Handles (Child Cursor) (Read Position) Unit := do
  let position <- value e.originalPosition
  modify (setCurrentPosition position)
  eventDrained b user (asyncStart settings) e
  modify popFront

def readSubscriptionEvents : Handles (Child Cursor) (Read Position) Unit :=
  Buffered.readSubscriptionEvents (deliver b user settings) settings

def onRead (r : Read Position) (result : Except Error AllEventsSlice) :
    Handles (Child Cursor) (Read Position) Unit := do
  match r.handler, result with
  | .history, .ok slice =>
      appear b user settings (Subscription.CatchupAll.sliceEvents slice)
      if slice.isEndOfStream then modify doAsyncStart
      else
        modify (setCurrentPosition slice.nextPosition)
        modify (asyncStart settings)
  | .history, .error _ =>
      modify (b.unsubscribe (Error.subscription .subscriptionRequestNotSent))
  | .missed count, .ok slice =>
      if (<- appearMissed b user settings (Subscription.CatchupAll.sliceEvents slice)) then
        modify (catchUpMissedEvents count)
      else readSubscriptionEvents b user settings
  | .missed _, .error e => modify (b.unsubscribe e)

def onPackageReceived : ServerMessage -> Handles (Child Cursor) (Read Position) Bool
  | .subscriptionConfirmation response => do
      modify (confirm response.lastCommitPosition response.lastEventNumber)
      let target : Position :=
        { commitPosition := read response.lastCommitPosition
          preparePosition := read response.lastCommitPosition }
      modify (setPositionToCatchUpTo target)
      if currentPosition (<- get) < target then
        modify (catchUpMissedEvents settings.readBatchSize.toInt)
      pure true
  | .streamEventAppeared message => do
      modify (emplaceBack (Resolved.ofStreamEventAppeared message))
      let s <- get
      if currentPosition s < positionToCatchUpTo s then pure true
      else
        if s.child.eventBuffer.size = 1 then readSubscriptionEvents b user settings
        pure true
  | _ => pure false

def subscription (key : Guid) (user : ActingUser) (settings : CatchupSubscriptionSettings) :
    Class (Child Cursor) (Read Position) AllEventsSlice :=
  { base key user with
    onPackageReceived := onPackageReceived (base key user) user settings
    onRead := onRead (base key user) user settings
    readSubscriptionEvents := readSubscriptionEvents (base key user) user settings }

end CatchupAll

/-!
# The subscriptions without their records

The subscription that the records are kept beside takes the same steps, with a user who
only unsubscribes in the callbacks.
-/

def forget (s : State (Child cursor) pending) : State (Buffered cursor) pending :=
  { lastEventNumber := s.lastEventNumber
    lastCommitPosition := s.lastCommitPosition
    subscribed := s.subscribed
    handleGuard := s.handleGuard
    child :=
      { cursor := s.child.cursor.cursor
        eventBuffer := s.child.eventBuffer }
    registered := s.registered
    unsubscribing := s.unsubscribing
    deadline := s.deadline
    reads := s.reads
    posted := s.posted
    sent := s.sent
    calls := s.calls
    receiving := s.receiving
    faults := s.faults }

def ActingUser.ofUser (user : User) : ActingUser :=
  { onEvent := fun calls => if user.onEvent calls then [.unsubscribe] else []
    onDropped := user.onDropped }

section Forget

variable {user : User} {plain : Base (Buffered cursor)} {key : Guid}

structure Matches (plain : Base (Buffered cursor)) (key : Guid) (user : User) : Prop where
  key_eq : plain.key = key
  user_eq : plain.user = user
  shutdown_eq : plain.shutdown = Buffered.shutdown

theorem projects_value {alpha : Type} (field : Option alpha) :
    Handler.Projects (forget : State (Child cursor) pending -> State (Buffered cursor) pending)
      (value field) (value field) := by
  cases field with
  | none => exact Handler.projects_throw _
  | some a => exact Handler.projects_pure a

theorem forget_unsubscribe (h : Matches plain key user) (ec : Error)
    (s : State (Child cursor) pending) :
    plain.unsubscribe ec (forget s) =
      forget ((base key (ActingUser.ofUser user)).unsubscribe ec s) := by
  unfold Base.unsubscribe
  rw [h.shutdown_eq]
  split <;> rfl

theorem projects_unsubscribeByKey (h : Matches plain key user) (ec : Error) :
    Handler.Projects (forget : State (Child cursor) pending -> State (Buffered cursor) pending)
      ((base key (ActingUser.ofUser user)).unsubscribeByKey ec) (plain.unsubscribeByKey ec) := by
  apply Handler.projects_get_bind
  intro s
  apply Handler.projects_ite
  · apply Handler.projects_modify
    intro s
    unfold Base.fail
    show (if s.handleGuard = true then _ else _) = forget (if s.handleGuard = true then _ else _)
    split
    · rfl
    · exact forget_unsubscribe h ec s
  · rw [h.key_eq]
    exact Handler.projects_throw _

theorem projects_acts (h : Matches plain key user)
    (start : State (Child cursor) pending -> State (Child cursor) pending)
    (calls : List Callback) :
    Handler.Projects forget
      (((ActingUser.ofUser user).onEvent calls).forM
        (act (base key (ActingUser.ofUser user)) start))
      (if user.onEvent calls then
        plain.unsubscribeByKey (Error.subscription .unsubscribed) else pure ()) := by
  cases hcalls : user.onEvent calls with
  | false =>
      simp only [ActingUser.ofUser, hcalls, Bool.false_eq_true, if_false]
      exact Handler.projects_pure _
  | true =>
      have hasked : (ActingUser.ofUser user).onEvent calls = [Act.unsubscribe] := if_pos hcalls
      rw [hasked, if_pos rfl]
      exact Handler.projects_forM_singleton
        (projects_unsubscribeByKey h (Error.subscription .unsubscribed))

theorem projects_eventAppeared (h : Matches plain key user)
    (start : State (Child cursor) pending -> State (Child cursor) pending) (e : Resolved) :
    Handler.Projects forget
      (eventAppeared (base key (ActingUser.ofUser user)) (ActingUser.ofUser user) start e)
      (plain.eventAppeared e) := by
  refine Handler.projects_bind (Handler.projects_modify fun _ => rfl) fun _ =>
    Handler.projects_get_bind fun s => ?_
  rw [h.user_eq]
  exact projects_acts h start s.calls

theorem projects_eventDrained (h : Matches plain key user)
    (start : State (Child cursor) pending -> State (Child cursor) pending) (e : Resolved) :
    Handler.Projects forget
      (eventDrained (base key (ActingUser.ofUser user)) (ActingUser.ofUser user) start e)
      (plain.eventAppeared e) := by
  refine Handler.projects_bind (Handler.projects_modify fun _ => rfl) fun _ =>
    Handler.projects_modify_bind (fun _ => rfl) (Handler.projects_get_bind fun s => ?_)
  rw [h.user_eq]
  exact projects_acts h start s.calls

theorem projects_front :
    Handler.Projects (forget : State (Child cursor) pending -> State (Buffered cursor) pending)
      Buffered.front Buffered.front := by
  apply Handler.projects_get_bind
  intro s
  have hbuffer : (forget s).child.eventBuffer = s.child.eventBuffer := rfl
  rw [hbuffer]
  cases s.child.eventBuffer.front with
  | none => exact Handler.projects_throw _
  | some e => exact Handler.projects_pure e

theorem projects_readBuffer {deliver : Resolved -> Handles (Child cursor) pending Unit}
    {deliver' : Resolved -> Handles (Buffered cursor) pending Unit}
    (hdeliver : forall e, Handler.Projects forget (deliver e) (deliver' e)) (n : Nat) :
    Handler.Projects forget (Buffered.readBuffer deliver n)
      (Buffered.readBuffer deliver' n) := by
  induction n with
  | zero => exact Handler.projects_pure _
  | succ n ih =>
      refine Handler.projects_get_bind fun s => Handler.projects_ite ?_ ?_
      · exact Handler.projects_pure _
      · exact Handler.projects_bind projects_front fun e =>
          Handler.projects_bind (hdeliver e) fun _ => ih

theorem projects_readSubscriptionEvents
    {deliver : Resolved -> Handles (Child cursor) pending Unit}
    {deliver' : Resolved -> Handles (Buffered cursor) pending Unit}
    (hdeliver : forall e, Handler.Projects forget (deliver e) (deliver' e))
    (settings : CatchupSubscriptionSettings) :
    Handler.Projects forget (Buffered.readSubscriptionEvents deliver settings)
      (Buffered.readSubscriptionEvents deliver' settings) := by
  refine Handler.projects_bind (projects_readBuffer hdeliver _) fun _ =>
    Handler.projects_get_bind fun s => Handler.projects_ite ?_ ?_
  · exact Handler.projects_pure _
  · exact Handler.projects_modify fun _ => rfl

/-!
The base class adds nothing to the records.
-/

theorem projects_dropped (h : Matches plain key user) (ec : Error) :
    Handler.Projects (forget : State (Child cursor) pending -> State (Buffered cursor) pending)
      ((base key (ActingUser.ofUser user)).dropped ec) (plain.dropped ec) := by
  refine Handler.projects_bind (Handler.projects_modify fun _ => rfl) fun _ =>
    Handler.projects_get_bind fun s => ?_
  rw [h.user_eq]
  exact Handler.projects_ite (projects_unsubscribeByKey h _) (Handler.projects_pure _)

theorem projects_unsubscribeAnswered (h : Matches plain key user) :
    Handler.Projects (forget : State (Child cursor) pending -> State (Buffered cursor) pending)
      (base key (ActingUser.ofUser user)).unsubscribeAnswered plain.unsubscribeAnswered :=
  Handler.projects_bind (Handler.projects_modify fun _ => rfl) fun _ =>
    Handler.projects_bind (Handler.projects_modify fun _ => rfl) fun _ =>
      projects_dropped h _

theorem projects_postedDropped (h : Matches plain key user) (ec : Error) :
    Handler.Projects (forget : State (Child cursor) pending -> State (Buffered cursor) pending)
      ((base key (ActingUser.ofUser user)).postedDropped ec) (plain.postedDropped ec) :=
  Handler.projects_bind (Handler.projects_modify fun _ => rfl) fun _ => projects_dropped h ec

theorem projects_completed (h : Matches plain key user) (result : WaitResult) :
    Handler.Projects (forget : State (Child cursor) pending -> State (Buffered cursor) pending)
      ((base key (ActingUser.ofUser user)).completed result) (plain.completed result) := by
  cases result with
  | aborted => exact Handler.projects_pure _
  | expired =>
      refine Handler.projects_get_bind fun s => Handler.projects_ite ?_ ?_
      · refine Handler.projects_bind (Handler.projects_modify fun s => ?_) fun _ =>
          Handler.projects_modify fun _ => rfl
        exact forget_unsubscribe h (Error.connection .operationTimeout)
          (s.setDeadline s.deadline.cancel)
      · rw [h.key_eq]
        exact Handler.projects_throw _

theorem forget_onPackageReceived (h : Matches plain key user) (message : ServerMessage)
    (s : State (Child cursor) pending) :
    plain.onPackageReceived message (forget s) =
      forget ((base key (ActingUser.ofUser user)).onPackageReceived message s) := by
  have hunsubscribe (ec : Error) := forget_unsubscribe h ec s
  unfold Base.onPackageReceived
  split
  · split
    · exact hunsubscribe _
    · exact hunsubscribe _
    · exact hunsubscribe _
    · rfl
    · rfl
  · exact hunsubscribe _
  · exact hunsubscribe _
  · show (if s.subscribed = true then _ else _) = forget (if s.subscribed = true then _ else _)
    split
    · exact hunsubscribe _
    · exact hunsubscribe _
  · exact hunsubscribe _

end Forget

/-- Each handler of the class is the one of the other class with the records added. -/
structure ClassProjects (c : Class (Child cursor) pending batch)
    (c' : Class (Buffered cursor) pending batch) : Prop where
  received : forall message, Handler.Projects forget (c.onPackageReceived message)
    (c'.onPackageReceived message)
  read : forall r result, Handler.Projects forget (c.onRead r result) (c'.onRead r result)
  buffer : Handler.Projects forget c.readSubscriptionEvents c'.readSubscriptionEvents

section Steps

variable {c : Class (Child cursor) pending batch} {c' : Class (Buffered cursor) pending batch}
  {key : Guid} {user : User}

theorem ClassProjects.receive (h : ClassProjects c c') (hmatches : Matches c'.toBase key user)
    (hbase : c.toBase = base key (ActingUser.ofUser user)) (message : ServerMessage) :
    Handler.Projects forget (c.receive message) (c'.receive message) := by
  refine Handler.projects_get_bind fun s => Handler.projects_ite ?_ ?_
  · rw [hbase]
    exact Handler.projects_bind (projects_unsubscribeAnswered hmatches) fun _ =>
      Handler.projects_modify fun _ => rfl
  · refine Handler.projects_get_bind fun s => Handler.projects_ite ?_ (Handler.projects_pure _)
    refine Handler.projects_get_bind fun s => Handler.projects_ite (Handler.projects_pure _) ?_
    refine Handler.projects_bind (h.received message) fun handled =>
      Handler.projects_ite (Handler.projects_pure _) ?_
    rw [hbase]
    exact Handler.projects_modify fun s => forget_onPackageReceived hmatches message s

theorem forget_settle {h : Handles (Child cursor) pending Unit}
    {h' : Handles (Buffered cursor) pending Unit} (hh : Handler.Projects forget h h')
    (s : State (Child cursor) pending) :
    settle (h'.runOn (forget s)) = forget (settle (h.runOn s)) ∧
      settleReceived (h'.runOn (forget s)) = forget (settleReceived (h.runOn s)) := by
  rw [hh s]
  rcases h.runOn s with ⟨r, next⟩
  cases r with
  | ok _ => exact ⟨rfl, rfl⟩
  | error fault => exact ⟨rfl, rfl⟩

theorem forget_settleRead {batch : Type} (result : Except Error batch)
    {h : Handles (Child cursor) pending Unit} {h' : Handles (Buffered cursor) pending Unit}
    (hh : Handler.Projects forget h h') (s : State (Child cursor) pending) :
    settleRead result (h'.runOn (forget s)) = forget (settleRead result (h.runOn s)) := by
  unfold settleRead
  split
  · exact (forget_settle hh s).left
  · exact (forget_settle hh s).right

theorem ClassProjects.step (h : ClassProjects c c') (hmatches : Matches c'.toBase key user)
    (hbase : c.toBase = base key (ActingUser.ofUser user)) (i : Input batch)
    (s : State (Child cursor) pending) :
    step c' (forget s) i = (Subscription.step c s i).map forget := by
  cases i with
  | received message =>
      simp only [Subscription.step]
      rw [(forget_settle (h.receive hmatches hbase message) s).right]
      show (if s.receiving = true then _ else _) = _
      split <;> rfl
  | readCompleted j result =>
      simp only [Subscription.step, Option.map_map]
      apply Option.map_congr
      intro r _
      exact forget_settleRead result (h.read r result) (s.takeRead j)
  | posted j =>
      simp only [Subscription.step, Option.map_map]
      apply Option.map_congr
      intro closure _
      cases closure with
      | dropped ec =>
          have hposted : Handler.Projects forget
              (c.postedDropped ec : Handles (Child cursor) pending Unit)
              (c'.postedDropped ec) := by
            rw [hbase]
            exact projects_postedDropped hmatches ec
          exact (forget_settle hposted (s.takePosted j)).left
      | readSubscriptionEvents =>
              exact (forget_settle h.buffer (s.takePosted j)).left
  | expired =>
      simp only [Subscription.step, Option.map_map]
      rfl
  | completed =>
      simp only [Subscription.step, Option.map_map]
      apply Option.map_congr
      intro result _
      have hcompleted : Handler.Projects forget
          (c.completed result : Handles (Child cursor) pending Unit)
          (c'.completed result) := by
        rw [hbase]
        exact projects_completed hmatches result
      exact (forget_settle hcompleted (s.setDeadline Timer.idle)).left
  | unsubscribe =>
      have hunsubscribe : Handler.Projects forget
          (c.unsubscribeByKey (Error.subscription .unsubscribed) :
            Handles (Child cursor) pending Unit)
          (c'.unsubscribeByKey (Error.subscription .unsubscribed)) := by
        rw [hbase]
        exact projects_unsubscribeByKey hmatches _
      simp only [Subscription.step, Option.map_some]
      rw [(forget_settle hunsubscribe s).left]

end Steps

namespace Catchup

theorem matches_base (key : Guid) (user : User) :
    Matches (Subscription.Catchup.base key user) key user :=
  ⟨rfl, rfl, rfl⟩

variable {key : Guid} {user : User} (settings : CatchupSubscriptionSettings)

theorem projects_appear (events : List Resolved) :
    Handler.Projects forget
      (appear (base key (ActingUser.ofUser user)) (ActingUser.ofUser user) settings events)
      (Subscription.Catchup.appear (Subscription.Catchup.base key user) events) := by
  apply Handler.projects_forM
  intro e
  exact Handler.projects_bind (projects_eventAppeared (matches_base key user) _ e) fun _ =>
    Handler.projects_modify fun _ => rfl

theorem projects_reading :
    Handler.Projects forget
      (readSubscriptionEvents (base key (ActingUser.ofUser user)) (ActingUser.ofUser user)
        settings)
      (Subscription.Catchup.readSubscriptionEvents (Subscription.Catchup.base key user)
        settings) := by
  apply projects_readSubscriptionEvents
  intro e
  exact Handler.projects_bind (projects_eventDrained (matches_base key user) _ e) fun _ =>
    Handler.projects_bind (Handler.projects_modify fun _ => rfl) fun _ =>
      Handler.projects_modify fun _ => rfl

theorem projects_onRead (r : Read Int) (result : Except Error StreamEventsSlice) :
    Handler.Projects forget
      (onRead (base key (ActingUser.ofUser user)) (ActingUser.ofUser user) settings r result)
      (Subscription.Catchup.onRead (Subscription.Catchup.base key user) settings r
        result) := by
  rcases r with ⟨start, maxCount, handler⟩
  cases handler with
  | history =>
      cases result with
      | ok slice =>
          refine Handler.projects_bind (projects_appear settings _) fun _ =>
            Handler.projects_ite ?_ ?_
          · exact Handler.projects_modify fun _ => rfl
          · exact Handler.projects_modify fun _ => rfl
      | error e =>
          exact Handler.projects_modify fun s => forget_unsubscribe (matches_base key user) _ s
  | missed count =>
      cases result with
      | ok slice =>
          refine Handler.projects_bind (projects_appear settings _) fun _ =>
            Handler.projects_ite ?_ ?_
          · exact Handler.projects_modify fun _ => rfl
          · exact Handler.projects_modify fun _ => rfl
      | error e =>
          exact Handler.projects_modify fun s => forget_unsubscribe (matches_base key user) _ s

theorem projects_onPackageReceived (message : ServerMessage) :
    Handler.Projects forget
      (onPackageReceived (base key (ActingUser.ofUser user)) (ActingUser.ofUser user) settings
        message)
      (Subscription.Catchup.onPackageReceived (Subscription.Catchup.base key user) settings
        message) := by
  cases message with
  | subscriptionConfirmation response =>
      refine Handler.projects_bind (Handler.projects_modify fun _ => rfl) fun _ => ?_
      cases response.lastEventNumber with
      | some lastEventNumber =>
          refine Handler.projects_get_bind fun s => Handler.projects_ite ?_ ?_
          · exact Handler.projects_bind (Handler.projects_modify fun _ => rfl) fun _ =>
              Handler.projects_pure true
          · exact Handler.projects_pure true
      | none =>
          exact Handler.projects_bind
            (Handler.projects_modify fun s => forget_unsubscribe (matches_base key user) _ s)
            fun _ => Handler.projects_pure true
  | streamEventAppeared message =>
      refine Handler.projects_bind (Handler.projects_modify fun _ => rfl) fun _ =>
        Handler.projects_bind projects_front fun event =>
        Handler.projects_bind (projects_value _) fun _ =>
        Handler.projects_get_bind fun s =>
        Handler.projects_bind (projects_value s.lastEventNumber) fun lastEventNumber =>
        Handler.projects_get_bind fun s => Handler.projects_ite ?_ ?_
      · exact Handler.projects_pure true
      · refine Handler.projects_get_bind fun s => Handler.projects_ite ?_ ?_
        · exact Handler.projects_bind (projects_reading settings) fun _ =>
            Handler.projects_pure true
        · exact Handler.projects_pure true
  | _ => exact Handler.projects_pure false

theorem projects (key : Guid) (user : User) :
    ClassProjects (subscription key (ActingUser.ofUser user) settings)
      (Subscription.Catchup.subscription key user settings) where
  received := projects_onPackageReceived settings
  read := projects_onRead settings
  buffer := projects_reading settings

end Catchup

namespace CatchupAll

theorem matches_base (key : Guid) (user : User) :
    Matches (Subscription.CatchupAll.base key user) key user :=
  ⟨rfl, rfl, rfl⟩

variable {key : Guid} {user : User} (settings : CatchupSubscriptionSettings)

theorem projects_appear (events : List Resolved) :
    Handler.Projects forget
      (appear (base key (ActingUser.ofUser user)) (ActingUser.ofUser user) settings events)
      (Subscription.CatchupAll.appear (Subscription.CatchupAll.base key user) events) :=
  Handler.projects_forM (fun e => projects_eventAppeared (matches_base key user) _ e) events

theorem projects_appearMissed (events : List Resolved) :
    Handler.Projects forget
      (appearMissed (base key (ActingUser.ofUser user)) (ActingUser.ofUser user) settings
        events)
      (Subscription.CatchupAll.appearMissed (Subscription.CatchupAll.base key user)
        events) := by
  induction events with
  | nil => exact Handler.projects_pure true
  | cons e rest ih =>
      refine Handler.projects_bind (projects_value _) fun position =>
        Handler.projects_bind (Handler.projects_modify fun _ => rfl) fun _ =>
        Handler.projects_get_bind fun s => Handler.projects_ite ?_ ?_
      · exact Handler.projects_pure false
      · exact Handler.projects_bind (projects_eventAppeared (matches_base key user) _ e)
          fun _ => ih

theorem projects_reading :
    Handler.Projects forget
      (readSubscriptionEvents (base key (ActingUser.ofUser user)) (ActingUser.ofUser user)
        settings)
      (Subscription.CatchupAll.readSubscriptionEvents (Subscription.CatchupAll.base key user)
        settings) := by
  apply projects_readSubscriptionEvents
  intro e
  exact Handler.projects_bind (projects_value _) fun position =>
    Handler.projects_bind (Handler.projects_modify fun _ => rfl) fun _ =>
    Handler.projects_bind (projects_eventDrained (matches_base key user) _ e) fun _ =>
      Handler.projects_modify fun _ => rfl

theorem projects_onRead (r : Read Position) (result : Except Error AllEventsSlice) :
    Handler.Projects forget
      (onRead (base key (ActingUser.ofUser user)) (ActingUser.ofUser user) settings r result)
      (Subscription.CatchupAll.onRead (Subscription.CatchupAll.base key user) settings r
        result) := by
  rcases r with ⟨start, maxCount, handler⟩
  cases handler with
  | history =>
      cases result with
      | ok slice =>
          refine Handler.projects_bind (projects_appear settings _) fun _ =>
            Handler.projects_ite ?_ ?_
          · exact Handler.projects_modify fun _ => rfl
          · exact Handler.projects_bind (Handler.projects_modify fun _ => rfl) fun _ =>
              Handler.projects_modify fun _ => rfl
      | error e =>
          exact Handler.projects_modify fun s => forget_unsubscribe (matches_base key user) _ s
  | missed count =>
      cases result with
      | ok slice =>
          refine Handler.projects_bind (projects_appearMissed settings _) fun next =>
            Handler.projects_ite ?_ ?_
          · exact Handler.projects_modify fun _ => rfl
          · exact projects_reading settings
      | error e =>
          exact Handler.projects_modify fun s => forget_unsubscribe (matches_base key user) _ s

theorem projects_onPackageReceived (message : ServerMessage) :
    Handler.Projects forget
      (onPackageReceived (base key (ActingUser.ofUser user)) (ActingUser.ofUser user) settings
        message)
      (Subscription.CatchupAll.onPackageReceived (Subscription.CatchupAll.base key user)
        settings message) := by
  cases message with
  | subscriptionConfirmation response =>
      refine Handler.projects_bind (Handler.projects_modify fun _ => rfl) fun _ =>
        Handler.projects_bind (Handler.projects_modify fun _ => rfl) fun _ =>
        Handler.projects_get_bind fun s => Handler.projects_ite ?_ ?_
      · exact Handler.projects_bind (Handler.projects_modify fun _ => rfl) fun _ =>
          Handler.projects_pure true
      · exact Handler.projects_pure true
  | streamEventAppeared message =>
      refine Handler.projects_bind (Handler.projects_modify fun _ => rfl) fun _ =>
        Handler.projects_get_bind fun s => Handler.projects_ite ?_ (Handler.projects_ite ?_ ?_)
      · exact Handler.projects_pure true
      · exact Handler.projects_bind (projects_reading settings) fun _ =>
          Handler.projects_pure true
      · exact Handler.projects_pure true
  | _ => exact Handler.projects_pure false

theorem projects (key : Guid) (user : User) :
    ClassProjects (subscription key (ActingUser.ofUser user) settings)
      (Subscription.CatchupAll.subscription key user settings) where
  received := projects_onPackageReceived settings
  read := projects_onRead settings
  buffer := projects_reading settings

end CatchupAll

/-!
# Both kinds

A kind without its records is one of the plain kinds.
-/

/-- The catch-up subscriptions with what their constructors are given. -/
inductive CatchupKind : Type -> Type -> Type -> Type where
  | catchup (fromEventNumber : Int) (settings : CatchupSubscriptionSettings) :
      CatchupKind Int Int StreamEventsSlice
  | catchupAll (fromPosition : Position) (settings : CatchupSubscriptionSettings) :
      CatchupKind CatchupAll.Cursor Position AllEventsSlice

namespace CatchupKind

def subscription (key : Guid) (user : ActingUser) :
    CatchupKind cursor position batch -> Class (Child cursor) (Read position) batch
  | catchup _ settings => Catchup.subscription key user settings
  | catchupAll _ settings => CatchupAll.subscription key user settings

def asyncStart : CatchupKind cursor position batch ->
    State (Child cursor) (Read position) -> State (Child cursor) (Read position)
  | catchup _ settings => Catchup.asyncStart settings
  | catchupAll _ settings => CatchupAll.asyncStart settings

def initialCursor : CatchupKind cursor position batch -> cursor
  | catchup fromEventNumber _ => fromEventNumber
  | catchupAll fromPosition _ =>
      { currentPosition := fromPosition
        positionToCatchUpTo := { commitPosition := -1, preparePosition := -1 } }

def plain : CatchupKind cursor position batch -> Kind (Buffered cursor) (Read position) batch
  | catchup fromEventNumber settings => Kind.catchup fromEventNumber settings
  | catchupAll fromPosition settings => Kind.catchupAll fromPosition settings

def constructed (kind : CatchupKind cursor position batch) :
    State (Child cursor) (Read position) :=
  Subscription.constructed
    { cursor := { cursor := kind.initialCursor, pops := [], drainCalls := [] }
      eventBuffer := BufferQueue.new }

end CatchupKind

/-- With a user who only unsubscribes in the callbacks, the runs are those of the kinds of
subscriptions. -/
theorem CatchupKind.step_plain (kind : CatchupKind cursor position batch) (key : Guid)
    (user : User) (i : Input batch) (s : State (Child cursor) (Read position)) :
    step (kind.plain.subscription key user) (forget s) i =
      (step (kind.subscription key (ActingUser.ofUser user)) s i).map forget := by
  cases kind with
  | catchup fromEventNumber settings =>
      exact (Catchup.projects settings key user).step (Catchup.matches_base key user) rfl i s
  | catchupAll fromPosition settings =>
      exact (CatchupAll.projects settings key user).step (CatchupAll.matches_base key user)
        rfl i s

theorem CatchupKind.started_plain (kind : CatchupKind cursor position batch) :
    forget (kind.asyncStart kind.constructed) = kind.plain.started := by
  cases kind <;> rfl

/-- What can happen: what can happen to any subscription, `async_start` however often, and a
call of `shutdown`. -/
inductive DrainInput (batch : Type) where
  | input (i : Input batch)
  | asyncStart
  | shutdown

def drainStep (kind : CatchupKind cursor position batch) (key : Guid) (user : ActingUser)
    (s : State (Child cursor) (Read position)) :
    DrainInput batch -> Option (State (Child cursor) (Read position))
  | .input i => step (kind.subscription key user) s i
  | .asyncStart => some (kind.asyncStart s)
  | .shutdown => some (s.setChild ((kind.subscription key user).shutdown s.child))

end Draining
end Subscription
end EventStoreClient
