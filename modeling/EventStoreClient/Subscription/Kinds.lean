import EventStoreClient.Buffer.BufferQueue
import EventStoreClient.Operations.Responses
import EventStoreClient.Subscription.Base

/-!
# The kinds of subscriptions

`volatile_subscription`, `persistent_subscription`, `catchup_subscription` and
`catchup_all_subscription` over their common base.
-/

namespace EventStoreClient
namespace Subscription

open Buffer Connection Foundation Operations Wire

def confirm (lastCommitPosition lastEventNumber : Option Int) (s : State child pending) :
    State child pending :=
  { s with
    lastCommitPosition := some (read lastCommitPosition)
    subscribed := true
    lastEventNumber := lastEventNumber.orElse fun _ => s.lastEventNumber }

/-!
# `volatile_subscription`

The class handles the confirmation and the events, and leaves everything else to the base.
-/

namespace Volatile

def asyncStart (s : State Unit Empty) : State Unit Empty :=
  (Base.asyncStart s).send Request.subscribeToStream

def onPackageReceived (b : Base Unit) : ServerMessage -> Handles Unit Empty Bool
  | .subscriptionConfirmation response => do
      modify (confirm response.lastCommitPosition response.lastEventNumber)
      pure true
  | .streamEventAppeared message => do
      b.eventAppeared (Resolved.ofStreamEventAppeared message)
      pure true
  | _ => pure false

def base (key : Guid) (user : User) : Base Unit :=
  { key := key
    user := user
    shutdown := id }

def subscription (key : Guid) (user : User) : Class Unit Empty Empty :=
  { base key user with
    onPackageReceived := onPackageReceived (base key user)
    onRead := fun r _ => nomatch r
    readSubscriptionEvents := pure () }

end Volatile

/-!
# `persistent_subscription`

The class handles drops as well, and with `auto_ack_` acknowledges each event behind its
callback.
-/

namespace Persistent

structure Child where
  subscriptionId : Bytes
  deriving DecidableEq

def asyncStart (s : State Child Empty) : State Child Empty :=
  (Base.asyncStart s).send Request.connectToPersistentSubscription

/-- `event_id` of a `recorded_event`, which has copied 16 bytes.  It reads past the end of an
id that is too short, which is kept here as it is. -/
def recordedEventId (record : EventRecord) : Bytes := (read record.eventId).take 16

theorem recordedEventId_of_length {record : EventRecord}
    (h : (read record.eventId).length = 16) : recordedEventId record = read record.eventId :=
  List.take_of_length_le (Nat.le_of_eq h)

def acknowledge (event : Resolved) : Handles Child Empty Unit := do
  let record <- value event.originalEvent
  modify (fun s => s.send (Request.persistentSubscriptionAckEvents
    s.child.subscriptionId [recordedEventId record]))

def dropError : SubscriptionDropReason -> SubscriptionErrors
  | .accessDenied => .accessDenied
  | .notFound => .notFound
  | .persistentSubscriptionDeleted => .persistentSubscriptionDeleted
  | .subscriberMaxCountReached => .subscriberMaxCountReached
  | .unsubscribed => .unsubscribed

def onPackageReceived (b : Base Child) (autoAck : Bool) :
    ServerMessage -> Handles Child Empty Bool
  | .persistentSubscriptionConfirmation response => do
      modify (confirm response.lastCommitPosition response.lastEventNumber)
      modify (State.setChild { subscriptionId := read response.subscriptionId })
      pure true
  | .persistentSubscriptionStreamEventAppeared message => do
      let resolved := Resolved.ofPersistentSubscriptionStreamEventAppeared message
      b.eventAppeared resolved (some (read message.retryCount))
      if autoAck then acknowledge resolved
      pure true
  | .subscriptionDropped message => do
      b.unsubscribeByKey (Error.subscription (dropError (read message.reason)))
      pure true
  | _ => pure false

def base (key : Guid) (user : User) : Base Child :=
  { key := key
    user := user
    shutdown := id }

def subscription (key : Guid) (user : User) (autoAck : Bool) : Class Child Empty Empty :=
  { base key user with
    onPackageReceived := onPackageReceived (base key user) autoAck
    onRead := fun r _ => nomatch r
    readSubscriptionEvents := pure () }

end Persistent

/-!
# What the catch-up subscriptions share

Both read the history before they subscribe, read what they have missed once they are
subscribed, and hold the live events in a buffer until then.
-/

structure CatchupSubscriptionSettings where
  maxLiveQueueSize : Int32
  readBatchSize : Int32

def CatchupSubscriptionSettings.built : CatchupSubscriptionSettings :=
  { maxLiveQueueSize := 500
    readBatchSize := 10 }

/-- Which of the two read loops a read belongs to.  The one of the missed events has
captured its count. -/
inductive ReadHandler where
  | history
  | missed (count : Int)
  deriving DecidableEq

/-- A read that has been issued.  `maxCount` is the count narrowed to an `int`. -/
structure Read (position : Type) where
  fromPosition : position
  maxCount : Int32
  handler : ReadHandler
  deriving DecidableEq

/-- The members of a catch-up subscription: how far it has read, and the events that have
appeared and not been passed on. -/
structure Buffered (cursor : Type) where
  cursor : cursor
  eventBuffer : BufferQueue Resolved 25

namespace Buffered

variable {cursor pending position : Type}

def catchUpEvents (start : position) (count : Int) (handler : ReadHandler)
    (s : State (Buffered cursor) (Read position)) :
    State (Buffered cursor) (Read position) :=
  s.startRead
    { fromPosition := start
      maxCount := Int32.ofInt count
      handler := handler }

def doAsyncStart (s : State (Buffered cursor) pending) : State (Buffered cursor) pending :=
  (Base.asyncStart s).send Request.subscribeToStream

def shutdown (c : Buffered cursor) : Buffered cursor :=
  { c with eventBuffer := c.eventBuffer.clear }

def setCursor (f : cursor -> cursor) (s : State (Buffered cursor) pending) :
    State (Buffered cursor) pending :=
  s.setChild { s.child with cursor := f s.child.cursor }

def emplaceBack (e : Resolved) (s : State (Buffered cursor) pending) :
    State (Buffered cursor) pending :=
  s.setChild { s.child with eventBuffer := s.child.eventBuffer.emplaceBack e }

def popFront (s : State (Buffered cursor) pending) : State (Buffered cursor) pending :=
  s.setChild { s.child with eventBuffer := s.child.eventBuffer.popFront }

def front : Handles (Buffered cursor) pending Resolved := do
  match (<- get).child.eventBuffer.front with
  | some e => pure e
  | none => throw Fault.noObject

/-- The loop of `read_subscription_events`, with `deliver` its body. -/
def readBuffer (deliver : Resolved -> Handles (Buffered cursor) pending Unit) :
    Nat -> Handles (Buffered cursor) pending Unit
  | 0 => pure ()
  | n + 1 => do
      if (<- get).child.eventBuffer.empty then pure ()
      else
        let e <- front
        deliver e
        readBuffer deliver n

def readSubscriptionEvents
    (deliver : Resolved -> Handles (Buffered cursor) pending Unit)
    (settings : CatchupSubscriptionSettings) : Handles (Buffered cursor) pending Unit := do
  readBuffer deliver settings.maxLiveQueueSize.toInt.toNat
  if (<- get).child.eventBuffer.empty then pure ()
  else modify (State.post Posted.readSubscriptionEvents)

end Buffered

/-!
# `catchup_subscription`

The loops over the events of a slice count the events passed on in
`current_event_number_`, and so does the loop of `read_subscription_events`.
-/

namespace Catchup

open Buffered

abbrev Child := Buffered Int

abbrev CatchupState := State Child (Read Int)

def currentEventNumber (s : CatchupState) : Int := s.child.cursor

def advance (s : CatchupState) : CatchupState := setCursor (fun n => n + 1) s

variable (b : Base Child) (settings : CatchupSubscriptionSettings)

def asyncStart (s : CatchupState) : CatchupState :=
  catchUpEvents (currentEventNumber s) settings.readBatchSize.toInt ReadHandler.history s

def catchUpMissedEvents (count : Int) (s : CatchupState) : CatchupState :=
  catchUpEvents (currentEventNumber s) count (ReadHandler.missed count) s

def appear (events : List Resolved) : Handles Child (Read Int) Unit :=
  events.forM fun e => do
    b.eventAppeared e
    modify advance

def deliver (e : Resolved) : Handles Child (Read Int) Unit := do
  b.eventAppeared e
  modify popFront
  modify advance

def readSubscriptionEvents : Handles Child (Read Int) Unit :=
  Buffered.readSubscriptionEvents (deliver b) settings

def sliceEvents (slice : StreamEventsSlice) : List Resolved :=
  slice.events.map Resolved.ofResolvedIndexedEvent

def onRead (r : Read Int) (result : Except Error StreamEventsSlice) :
    Handles Child (Read Int) Unit := do
  match r.handler, result with
  | .history, .ok slice =>
      appear b (sliceEvents slice)
      if slice.isEndOfStream then modify doAsyncStart
      else modify (asyncStart settings)
  | .history, .error _ =>
      modify (b.unsubscribe (Error.subscription .subscriptionRequestNotSent))
  | .missed count, .ok slice =>
      appear b (sliceEvents slice)
      let mutableCount := count - slice.events.length
      if 0 < mutableCount then modify (catchUpMissedEvents mutableCount)
      else modify (State.post Posted.readSubscriptionEvents)
  | .missed _, .error e => modify (b.unsubscribe e)

def onPackageReceived : ServerMessage -> Handles Child (Read Int) Bool
  | .subscriptionConfirmation response => do
      modify (confirm response.lastCommitPosition response.lastEventNumber)
      match response.lastEventNumber with
      | some lastEventNumber =>
          let current := currentEventNumber (<- get)
          if current < lastEventNumber then
            modify (catchUpMissedEvents (lastEventNumber - current))
      | none =>
          modify (b.unsubscribe (Error.subscription .badSubscriptionConfirmation))
      pure true
  | .streamEventAppeared message => do
      modify (emplaceBack (Resolved.ofStreamEventAppeared message))
      -- the number of the event at the front, which is not used
      let event <- front
      let _ <- value event.event
      let lastEventNumber <- value (<- get).lastEventNumber
      -- this would mean we have missed events
      if currentEventNumber (<- get) < lastEventNumber then pure true
      else
        -- the queue was empty before
        if (<- get).child.eventBuffer.size = 1 then readSubscriptionEvents b settings
        pure true
  | _ => pure false

def base (key : Guid) (user : User) : Base Child :=
  { key := key
    user := user
    shutdown := shutdown }

def subscription (key : Guid) (user : User) (settings : CatchupSubscriptionSettings) :
    Class Child (Read Int) StreamEventsSlice :=
  { base key user with
    onPackageReceived := onPackageReceived (base key user) settings
    onRead := onRead (base key user) settings
    readSubscriptionEvents := readSubscriptionEvents (base key user) settings }

end Catchup

/-!
# `catchup_all_subscription`

The same with positions in place of event numbers.
-/

namespace CatchupAll

open Buffered

structure Cursor where
  currentPosition : Position
  positionToCatchUpTo : Position
  deriving DecidableEq

abbrev Child := Buffered Cursor

abbrev CatchupState := State Child (Read Position)

def currentPosition (s : CatchupState) : Position := s.child.cursor.currentPosition

def positionToCatchUpTo (s : CatchupState) : Position :=
  s.child.cursor.positionToCatchUpTo

def setCurrentPosition (p : Position) (s : CatchupState) : CatchupState :=
  setCursor (fun c => { c with currentPosition := p }) s

def setPositionToCatchUpTo (p : Position) (s : CatchupState) : CatchupState :=
  setCursor (fun c => { c with positionToCatchUpTo := p }) s

variable (b : Base Child) (settings : CatchupSubscriptionSettings)

def asyncStart (s : CatchupState) : CatchupState :=
  catchUpEvents (currentPosition s) settings.readBatchSize.toInt ReadHandler.history s

def catchUpMissedEvents (count : Int) (s : CatchupState) : CatchupState :=
  catchUpEvents (currentPosition s) count (ReadHandler.missed count) s

def appear (events : List Resolved) : Handles Child (Read Position) Unit :=
  events.forM fun e => b.eventAppeared e

/-- The loop over a slice of missed events, which returns `continue_next_batch`. -/
def appearMissed : List Resolved -> Handles Child (Read Position) Bool
  | [] => pure true
  | e :: rest => do
      let position <- value e.originalPosition
      modify (setCurrentPosition position)
      -- stop catching up, without passing the event on
      if position = positionToCatchUpTo (<- get) then pure false
      else
        b.eventAppeared e
        appearMissed rest

def deliver (e : Resolved) : Handles Child (Read Position) Unit := do
  let position <- value e.originalPosition
  modify (setCurrentPosition position)
  b.eventAppeared e
  modify popFront

def readSubscriptionEvents : Handles Child (Read Position) Unit :=
  Buffered.readSubscriptionEvents (deliver b) settings

def sliceEvents (slice : AllEventsSlice) : List Resolved :=
  slice.events.map Resolved.ofResolvedEvent

def onRead (r : Read Position) (result : Except Error AllEventsSlice) :
    Handles Child (Read Position) Unit := do
  match r.handler, result with
  | .history, .ok slice =>
      appear b (sliceEvents slice)
      if slice.isEndOfStream then modify doAsyncStart
      else
        modify (setCurrentPosition slice.nextPosition)
        modify (asyncStart settings)
  | .history, .error _ =>
      modify (b.unsubscribe (Error.subscription .subscriptionRequestNotSent))
  | .missed count, .ok slice =>
      if (<- appearMissed b (sliceEvents slice)) then modify (catchUpMissedEvents count)
      else readSubscriptionEvents b settings
  | .missed _, .error e => modify (b.unsubscribe e)

def onPackageReceived : ServerMessage -> Handles Child (Read Position) Bool
  | .subscriptionConfirmation response => do
      modify (confirm response.lastCommitPosition response.lastEventNumber)
      let target : Position :=
        { commitPosition := read response.lastCommitPosition
          preparePosition := read response.lastCommitPosition }
      modify (setPositionToCatchUpTo target)
      if currentPosition (<- get) < target then
        modify (catchUpMissedEvents settings.readBatchSize.toInt)
      pure true
  | .streamEventAppeared message => do
      modify (emplaceBack (Resolved.ofStreamEventAppeared message))
      let s <- get
      -- we are currently catching up
      if currentPosition s < positionToCatchUpTo s then pure true
      else
        if s.child.eventBuffer.size = 1 then readSubscriptionEvents b settings
        pure true
  | _ => pure false

def base (key : Guid) (user : User) : Base Child :=
  { key := key
    user := user
    shutdown := shutdown }

def subscription (key : Guid) (user : User) (settings : CatchupSubscriptionSettings) :
    Class Child (Read Position) AllEventsSlice :=
  { base key user with
    onPackageReceived := onPackageReceived (base key user) settings
    onRead := onRead (base key user) settings
    readSubscriptionEvents := readSubscriptionEvents (base key user) settings }

end CatchupAll

/-!
# All kinds

The kinds with what their constructors are given.
-/

/-- The kinds with what their constructors are given, by the types of their members, of
their reads and of the slices they read. -/
inductive Kind : Type -> Type -> Type -> Type where
  | volatile : Kind Unit Empty Empty
  | persistent (autoAck : Bool) : Kind Persistent.Child Empty Empty
  | catchup (fromEventNumber : Int) (settings : CatchupSubscriptionSettings) :
      Kind Catchup.Child (Read Int) StreamEventsSlice
  | catchupAll (fromPosition : Position) (settings : CatchupSubscriptionSettings) :
      Kind CatchupAll.Child (Read Position) AllEventsSlice

namespace Kind

def subscription (key : Guid) (user : User) :
    Kind child pending batch -> Class child pending batch
  | volatile => Volatile.subscription key user
  | persistent autoAck => Persistent.subscription key user autoAck
  | catchup _ settings => Catchup.subscription key user settings
  | catchupAll _ settings => CatchupAll.subscription key user settings

def started : Kind child pending batch -> State child pending
  | volatile => Volatile.asyncStart (constructed ())
  | persistent _ => Persistent.asyncStart (constructed { subscriptionId := [] })
  | catchup fromEventNumber settings =>
      Catchup.asyncStart settings (constructed
        { cursor := fromEventNumber
          eventBuffer := BufferQueue.new })
  | catchupAll fromPosition settings =>
      CatchupAll.asyncStart settings (constructed
        { cursor :=
            { currentPosition := fromPosition
              positionToCatchUpTo := { commitPosition := -1, preparePosition := -1 } }
          eventBuffer := BufferQueue.new })

end Kind

def recordedEvent (eventNumber : Int) : EventRecord :=
  { eventStreamId := some []
    eventNumber := some eventNumber
    eventId := some []
    eventType := some []
    data := some []
    metadata := none }

end Subscription
end EventStoreClient
