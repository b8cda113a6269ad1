import EventStoreClient.Error
import EventStoreClient.Foundation.Runs
import EventStoreClient.Foundation.Timer
import EventStoreClient.Subscription.Messages

/-!
# `subscription_base`

What all kinds of subscriptions do with the packages for their correlation id, with an
unsubscription and with its answer.  The entries that a subscription has in the two maps
of its connection are both under its own correlation id.
-/

namespace EventStoreClient
namespace Subscription

open Connection Foundation Operations Wire

/-!
# The state of a subscription

The fields of all subscription classes, with the reads and the closures that are
outstanding, and what has been called of the user.  `NakEventAction` is `nak_event_action`
in the order of `NakAction`.
-/

/-- A call of one of the user's two callbacks.  Only a persistent subscription passes a
retry count. -/
inductive Callback where
  | eventAppeared (event : Resolved) (retryCount : Option Int)
  | dropped (ec : Error)
  deriving DecidableEq

/-- What the user's callbacks do: whether one, given the calls up to it, calls
`unsubscribe()`. -/
structure User where
  onEvent : List Callback -> Bool
  onDropped : List Callback -> Bool

def User.passive : User :=
  { onEvent := fun _ => false
    onDropped := fun _ => false }

/-- A closure posted to the io context: the end of the subscription, or a step of
reading its buffer. -/
inductive Posted where
  | dropped (ec : Error)
  | readSubscriptionEvents
  deriving DecidableEq

inductive NakEventAction where
  | unknown
  | park
  | retry
  | skip
  | stop
  deriving DecidableEq, Repr

inductive Request where
  | subscribeToStream
  | connectToPersistentSubscription
  | unsubscribeFromStream
  | persistentSubscriptionAckEvents (subscriptionId : Bytes)
      (processedEventIds : List Bytes)
  | persistentSubscriptionNakEvents (subscriptionId : Bytes) (action : NakEventAction)
      (processedEventIds : List Bytes)
  deriving DecidableEq

/-- A subscription and what its connection holds for it.  `child` is the part of the
derived class, and `pending` a read that is under way. -/
structure State (child pending : Type) where
  lastEventNumber : Option Int
  lastCommitPosition : Option Int
  subscribed : Bool
  handleGuard : Bool
  child : child
  -- whether the subscriptions map has its entry
  registered : Bool
  -- whether the operations map has the entry of its unsubscribe request
  unsubscribing : Bool
  -- the timer of that request
  deadline : Timer
  -- the reads whose handlers have not been called, oldest first
  reads : List pending
  posted : List Posted
  sent : List Request
  calls : List Callback
  -- whether the connection still waits for packages
  receiving : Bool
  faults : List Fault

variable {child pending batch : Type}

def constructed (c : child) : State child pending :=
  { lastEventNumber := none
    lastCommitPosition := none
    subscribed := false
    handleGuard := false
    child := c
    registered := false
    unsubscribing := false
    deadline := Timer.idle
    reads := []
    posted := []
    sent := []
    calls := []
    receiving := true
    faults := [] }

abbrev Handles (child pending result : Type) := Handler Fault (State child pending) result

namespace State

def setChild (c : child) (s : State child pending) : State child pending :=
  { s with child := c }

def send (request : Request) (s : State child pending) : State child pending :=
  { s with sent := s.sent ++ [request] }

def post (closure : Posted) (s : State child pending) : State child pending :=
  { s with posted := s.posted ++ [closure] }

def startRead (r : pending) (s : State child pending) : State child pending :=
  { s with reads := s.reads ++ [r] }

def takeRead (i : Nat) (s : State child pending) : State child pending :=
  { s with reads := s.reads.eraseIdx i }

def takePosted (i : Nat) (s : State child pending) : State child pending :=
  { s with posted := s.posted.eraseIdx i }

def setDeadline (t : Timer) (s : State child pending) : State child pending :=
  { s with deadline := t }

def called (c : Callback) (s : State child pending) : State child pending :=
  { s with calls := s.calls ++ [c] }

end State

def value (field : Option alpha) : Handles child pending alpha :=
  match field with
  | some a => pure a
  | none => throw Fault.badOptionalAccess

/-!
# The base class

`Base` is what the base class takes from a subscription: its event handler and its own
packages.  The functions are those of the base under their names, and the closures of its
entries and timers.
-/

structure Base (child : Type) where
  key : Guid
  user : User
  shutdown : child -> child

namespace Base

variable (b : Base child)

def asyncStart (s : State child pending) : State child pending :=
  { s with
    handleGuard := false
    registered := true }

def unsubscribe (ec : Error) (s : State child pending) : State child pending :=
  let s :=
    { s with
      subscribed := false
      handleGuard := true
      child := b.shutdown s.child }
  if ec = Error.subscription .unsubscribed then
    { s.send Request.unsubscribeFromStream with
      unsubscribing := true
      deadline := Timer.waiting }
  else s.post (Posted.dropped ec)

def fail (ec : Error) (s : State child pending) : State child pending :=
  if s.handleGuard then s else b.unsubscribe ec s

/-- `unsubscribe(ec)`, and `unsubscribe()` if the error is `unsubscribed`. -/
def unsubscribeByKey (ec : Error) : Handles child pending Unit := do
  if (<- get).registered then modify (b.fail ec)
  else throw (Fault.outOfRange b.key)

def eventAppeared (event : Resolved) (retryCount : Option Int := none) :
    Handles child pending Unit := do
  modify (State.called (Callback.eventAppeared event retryCount))
  if b.user.onEvent (<- get).calls then
    b.unsubscribeByKey (Error.subscription .unsubscribed)

def dropped (ec : Error) : Handles child pending Unit := do
  modify (State.called (Callback.dropped ec))
  if b.user.onDropped (<- get).calls then
    b.unsubscribeByKey (Error.subscription .unsubscribed)

/-- The switch of the base class, for what the derived class leaves to it. -/
def onPackageReceived (message : ServerMessage) (s : State child pending) :
    State child pending :=
  match message with
  | .subscriptionDropped response =>
      match read response.reason with
      | .unsubscribed => b.unsubscribe (Error.subscription .unsubscribed) s
      | .accessDenied => b.unsubscribe (Error.subscription .accessDenied) s
      | .notFound => b.unsubscribe (Error.subscription .notFound) s
      -- returns with the error set and not passed on
      | .persistentSubscriptionDeleted => s
      | .subscriberMaxCountReached => s
  | .notAuthenticated => b.unsubscribe (Error.subscription .notAuthenticated) s
  | .badRequest => b.unsubscribe (Error.communication .badRequest) s
  | .notHandled _ =>
      if s.subscribed then b.unsubscribe (Error.subscription .unknown) s
      -- no reason is treated apart
      else b.unsubscribe (Error.connection .maxOperationRetries) s
  | _ => b.unsubscribe (Error.communication .serverError) s

/-- The entry in the subscriptions map, called with a package.  `derived` is
`on_package_received` of the derived class. -/
def entry (derived : ServerMessage -> Handles child pending Bool)
    (message : ServerMessage) : Handles child pending Unit := do
  if (<- get).handleGuard then pure ()
  else if (<- derived message) then pure ()
  else modify (b.onPackageReceived message)

/-- The entry of the unsubscribe request, called with a package, whatever it is. -/
def unsubscribeAnswered : Handles child pending Unit := do
  modify (fun s => s.setDeadline s.deadline.cancel)
  modify (fun s => { s with registered := false })
  b.dropped (Error.subscription .unsubscribed)

def unsubscribeFailed (ec : Error) (s : State child pending) : State child pending :=
  b.unsubscribe ec (s.setDeadline s.deadline.cancel)

def postedDropped (ec : Error) : Handles child pending Unit := do
  modify (fun s => { s with registered := false })
  b.dropped ec

def completed (result : WaitResult) : Handles child pending Unit := do
  match result with
  | .expired =>
      if (<- get).unsubscribing then
        modify (b.unsubscribeFailed (Error.connection .operationTimeout))
        modify (fun s => { s with unsubscribing := false })
      else throw (Fault.outOfRange b.key)
  | .aborted => pure ()

end Base

/-!
# Runs of a subscription

A handler leaves its state to the event loop; if it ended with an exception nothing is
received any more.  `Stepped` is what each input needs, and what it leads to.
-/

/-- A subscription class: what it takes over from the base, and what it does itself. -/
structure Class (child pending batch : Type) extends Base child where
  onPackageReceived : ServerMessage -> Handles child pending Bool
  -- the handler of a read, called with its slice or its error
  onRead : pending -> Except Error batch -> Handles child pending Unit
  readSubscriptionEvents : Handles child pending Unit

namespace Class

variable (c : Class child pending batch)

/-- The dispatch of a package for the correlation id of the subscription. -/
def receive (message : ServerMessage) : Handles child pending Unit := do
  if (<- get).unsubscribing then
    c.unsubscribeAnswered
    modify (fun s => { s with unsubscribing := false })
  else if (<- get).registered then c.entry c.onPackageReceived message

def runPosted : Posted -> Handles child pending Unit
  | Posted.dropped ec => c.postedDropped ec
  | Posted.readSubscriptionEvents => c.readSubscriptionEvents

end Class

/-- What can happen to a subscription that has been started: a package for it, the end of
a read, the run of a posted closure, the expiry of the unsubscribe request, the
completion of its timer, and a call of `unsubscribe()`. -/
inductive Input (batch : Type) where
  | received (message : ServerMessage)
  | readCompleted (i : Nat) (result : Except Error batch)
  | posted (i : Nat)
  | expired
  | completed
  | unsubscribe

def settle (after : Except Fault Unit × State child pending) : State child pending :=
  match after with
  | (Except.ok _, s) => s
  | (Except.error fault, s) => { s with faults := s.faults ++ [fault] }

/-- The state the reception of a package leaves, which is awaited again only after
a handler that no fault left. -/
def settleReceived (after : Except Fault Unit × State child pending) : State child pending :=
  match after with
  | (Except.ok _, s) => s
  | (Except.error fault, s) =>
      { s with
        faults := s.faults ++ [fault]
        receiving := false }

/-- So does the package that a read completes with, unless the read has timed out. -/
def settleRead (result : Except Error batch) (after : Except Fault Unit × State child pending) :
    State child pending :=
  match result with
  | Except.error (Error.connection .operationTimeout) => settle after
  | _ => settleReceived after

def step (c : Class child pending batch) (s : State child pending) :
    Input batch -> Option (State child pending)
  | Input.received message =>
      if s.receiving then some (settleReceived ((c.receive message).runOn s)) else none
  | Input.readCompleted i result =>
      s.reads[i]?.map fun r =>
        settleRead result ((c.onRead r result).runOn (s.takeRead i))
  | Input.posted i =>
      s.posted[i]?.map fun closure =>
        settle ((c.runPosted closure).runOn (s.takePosted i))
  | Input.expired => s.deadline.expire?.map fun t => s.setDeadline t
  | Input.completed =>
      s.deadline.result?.map fun result =>
        settle ((c.completed result).runOn (s.setDeadline Timer.idle))
  | Input.unsubscribe =>
      some (settle
        ((c.unsubscribeByKey (Error.subscription .unsubscribed)).runOn s))

theorem settleRead_eq (result : Except Error batch)
    (after : Except Fault Unit × State child pending) :
    settleRead result after = settle after ∨ settleRead result after = settleReceived after := by
  unfold settleRead
  split
  · exact Or.inl rfl
  · exact Or.inr rfl

theorem settleRead_ok (result : Except Error batch) (s : State child pending) :
    settleRead result (Except.ok (), s) = s := by
  rcases settleRead_eq result (Except.ok (), s) with heq | heq
  · exact heq
  · exact heq

inductive Stepped (c : Class child pending batch) (s : State child pending) :
    Input batch -> State child pending -> Prop where
  | received (message : ServerMessage) (hreceiving : s.receiving = true) :
      Stepped c s (Input.received message) (settleReceived ((c.receive message).runOn s))
  | readCompleted (i : Nat) (result : Except Error batch) {r : pending}
      (hread : s.reads[i]? = some r) :
      Stepped c s (Input.readCompleted i result)
        (settleRead result ((c.onRead r result).runOn (s.takeRead i)))
  | posted (i : Nat) {closure : Posted} (hposted : s.posted[i]? = some closure) :
      Stepped c s (Input.posted i) (settle ((c.runPosted closure).runOn (s.takePosted i)))
  | expired {t : Timer} (ht : s.deadline.expire? = some t) :
      Stepped c s Input.expired (s.setDeadline t)
  | completed {result : WaitResult} (hresult : s.deadline.result? = some result) :
      Stepped c s Input.completed
        (settle ((c.completed result).runOn (s.setDeadline Timer.idle)))
  | unsubscribe :
      Stepped c s Input.unsubscribe
        (settle ((c.unsubscribeByKey (Error.subscription .unsubscribed)).runOn s))

theorem stepped_of_step {c : Class child pending batch} {s next : State child pending}
    {i : Input batch} (hstep : step c s i = some next) : Stepped c s i next := by
  cases i with
  | received message =>
      rw [step] at hstep
      split at hstep
      · rename_i hreceiving
        cases hstep
        exact Stepped.received message hreceiving
      · cases hstep
  | readCompleted i result =>
      rw [step, Option.map_eq_some_iff] at hstep
      rcases hstep with ⟨r, hread, rfl⟩
      exact Stepped.readCompleted i result hread
  | posted i =>
      rw [step, Option.map_eq_some_iff] at hstep
      rcases hstep with ⟨closure, hposted, rfl⟩
      exact Stepped.posted i hposted
  | expired =>
      rw [step, Option.map_eq_some_iff] at hstep
      rcases hstep with ⟨t, ht, rfl⟩
      exact Stepped.expired ht
  | completed =>
      rw [step, Option.map_eq_some_iff] at hstep
      rcases hstep with ⟨result, hresult, rfl⟩
      exact Stepped.completed hresult
  | unsubscribe =>
      cases hstep
      exact Stepped.unsubscribe

end Subscription
end EventStoreClient
