import EventStoreClient.Foundation.SortedLog
import EventStoreClient.Subscription.Callbacks

/-!
# The delivery of the log of all events

`catchup_all_subscription` with the server it reads from and subscribes to.  A subscription
that finds, when it is confirmed, that it has read up to the position to catch up to and
that nothing was missed passes the log on from its first position, in order and once.
-/

namespace EventStoreClient
namespace Subscription
namespace CatchupAllDelivery

open Buffer CatchupAll Connection Foundation Operations Wire

/-!
# The server

The log with the positions of its events, and the side of the connection that the server
has.  Of the packages that are handled none disturbs the delivery.
-/

def position (e : ResolvedEvent) : Position :=
  { commitPosition := read e.commitPosition
    preparePosition := read e.preparePosition }

structure System where
  client : CatchupState
  log : List ResolvedEvent
  -- the next positions of all slices the server has made
  nextPositions : List Position
  -- the slice for the client's read, from when the server has read it
  reply : Option AllEventsSlice
  -- the length of the log at which the subscription took effect
  subscribedAt : Option Nat
  -- the packages for the subscription that have not been handled, oldest first
  outbox : List ServerMessage

def push (e : ResolvedEvent) : ServerMessage :=
  ServerMessage.streamEventAppeared { event := some e }

/-- The slice of the first `count` events from the start of a read. -/
def slice (log : List ResolvedEvent) (r : Read Position) (count : Nat)
    (nextPosition : Position) : AllEventsSlice :=
  let events := (onward position r.fromPosition log).take count
  { fromPosition := r.fromPosition
    nextPosition := nextPosition
    direction := ReadDirection.forward
    isEndOfStream := events.length = 0
    events := events }

/-- What a slice may be for a read: no longer than asked, not empty if there is an event,
and with a next position after its last event and not after the next one. -/
def Answers (log : List ResolvedEvent) (r : Read Position) (count : Nat)
    (nextPosition : Position) : Prop :=
  let events := onward position r.fromPosition log
  (count : Int) ≤ r.maxCount.toInt ∧ (events ≠ [] -> 1 ≤ count) ∧
    (forall e, e ∈ events.take count -> position e < nextPosition) ∧
    (forall e, e ∈ events.drop count -> nextPosition ≤ position e)

instance (log : List ResolvedEvent) (r : Read Position) (count : Nat)
    (nextPosition : Position) : Decidable (Answers log r count nextPosition) :=
  inferInstanceAs (Decidable (_ ∧ _ ∧ (forall e, e ∈ _ -> _) ∧ (forall e, e ∈ _ -> _)))

/-- An event may be appended behind the log and behind every position handed out. -/
def Appends (s : System) (e : ResolvedEvent) : Prop :=
  (forall e', e' ∈ s.log -> position e' < position e) ∧
    (forall p, p ∈ s.nextPositions -> p ≤ position e)

instance (s : System) (e : ResolvedEvent) : Decidable (Appends s e) :=
  inferInstanceAs (Decidable ((forall e', e' ∈ _ -> _) ∧ (forall p, p ∈ _ -> _)))

def confirmation (lastCommitPosition : Int) (lastEventNumber : Option Int) : ServerMessage :=
  ServerMessage.subscriptionConfirmation
    { lastCommitPosition := some lastCommitPosition
      lastEventNumber := lastEventNumber }

/-- The commit position is that of the last event, if there is one. -/
def LastCommit (log : List ResolvedEvent) (lastCommitPosition : Int) : Prop :=
  log.getLast?.all (fun e => decide ((position e).commitPosition = lastCommitPosition)) = true

instance (log : List ResolvedEvent) (lastCommitPosition : Int) :
    Decidable (LastCommit log lastCommitPosition) :=
  inferInstanceAs (Decidable (_ = true))

/-- What can happen: an event is appended, the server reads for the client, the client
handles what it has read, the subscription takes effect, the client handles a package, and
the client runs a posted closure. -/
inductive Input where
  | append (e : ResolvedEvent)
  | answer (count : Nat) (nextPosition : Position)
  | readCompleted
  | subscribe (lastCommitPosition : Int) (lastEventNumber : Option Int)
  | received
  | posted

section System

variable (key : Guid) (settings : CatchupSubscriptionSettings)

def clientStep (s : System) (i : Subscription.Input AllEventsSlice) : Option System :=
  (Subscription.step (CatchupAll.subscription key User.passive settings) s.client i).map
    fun client => { s with client := client }

def step (s : System) : Input -> Option System
  | Input.append e =>
      if Appends s e then
        some
          { s with
            log := s.log ++ [e]
            outbox := if s.subscribedAt.isSome then s.outbox ++ [push e] else s.outbox }
      else none
  | Input.answer count nextPosition =>
      match s.client.reads, s.reply with
      | r :: _, none =>
          if Answers s.log r count nextPosition then
            some
              { s with
                nextPositions := s.nextPositions ++ [nextPosition]
                reply := some (slice s.log r count nextPosition) }
          else none
      | _, _ => none
  | Input.readCompleted =>
      s.reply.bind fun slice =>
        clientStep key settings { s with reply := none }
          (Subscription.Input.readCompleted 0 (Except.ok slice))
  | Input.subscribe lastCommitPosition lastEventNumber =>
      if Request.subscribeToStream ∈ s.client.sent ∧ s.subscribedAt = none ∧
          LastCommit s.log lastCommitPosition then
        some
          { s with
            subscribedAt := some s.log.length
            outbox := [confirmation lastCommitPosition lastEventNumber] }
      else none
  | Input.received =>
      match s.outbox with
      | [] => none
      | message :: rest =>
          clientStep key settings { s with outbox := rest }
            (Subscription.Input.received message)
  | Input.posted => clientStep key settings s (Subscription.Input.posted 0)

/-- The client has called `async_start`, and no event has been appended yet. -/
def initial (fromPosition : Position) : System :=
  { client := (Kind.catchupAll fromPosition settings).started
    log := []
    nextPositions := []
    reply := none
    subscribedAt := none
    outbox := [] }

end System

/-- Nothing is under way: no read, no posted closure, no package and no request. -/
structure Quiet (s : System) : Prop where
  reads_eq : s.client.reads = []
  posted_eq : s.client.posted = []
  outbox_eq : s.outbox = []
  subscribed : Request.subscribeToStream ∈ s.client.sent -> s.subscribedAt.isSome = true

/-- The events of the log from a position on, as the client passes them on. -/
def expected (start : Position) (s : System) : List Resolved :=
  (onward position start s.log).map Resolved.ofResolvedEvent

/-- What should hold in every state of every run: the events passed on are the first ones
of the log from `start` on, and all of them if nothing is under way. -/
structure DeliversInOrder (start : Position) (s : System) : Prop where
  in_order : appeared s.client <+: expected start s
  complete : Quiet s -> appeared s.client = expected start s

def target (response : SubscriptionConfirmation) : Position :=
  { commitPosition := read response.lastCommitPosition
    preparePosition := read response.lastCommitPosition }

/-- A confirmation that makes the client read for missed events, or one of a subscription
that took effect on a log with events from the current position on, and an event from
before the first position. -/
def Disturbs (start : Position) (s : System) : ServerMessage -> Bool
  | ServerMessage.subscriptionConfirmation response =>
      decide (currentPosition s.client < target response) ||
        (s.log.take (s.subscribedAt.getD 0)).any fun e =>
          decide (currentPosition s.client ≤ position e)
  | ServerMessage.streamEventAppeared message =>
      message.event.any fun e => decide (position e < start)
  | _ => false

def Undisturbed (start : Position) (s : System) : Input -> Prop
  | Input.received => s.outbox.head?.any (Disturbs start s) = false
  | _ => True

instance decidableUndisturbed (start : Position) (s : System) :
    (i : Input) -> Decidable (Undisturbed start s i)
  | Input.append _ => inferInstanceAs (Decidable True)
  | Input.answer _ _ => inferInstanceAs (Decidable True)
  | Input.readCompleted => inferInstanceAs (Decidable True)
  | Input.subscribe _ _ => inferInstanceAs (Decidable True)
  | Input.received => inferInstanceAs (Decidable (_ = false))
  | Input.posted => inferInstanceAs (Decidable True)

/-!
# The client

The state once a slice of the history, or an event from the buffer, has been passed on.  A
live event that finds others in the buffer is put behind them.
-/

section Client

variable {b : Base Child} {settings : CatchupSubscriptionSettings} {s : CatchupState}

def historyRead (slice : AllEventsSlice) (s : CatchupState) : CatchupState :=
  (s.takeRead 0).passOn (sliceEvents slice)

theorem step_history (key : Guid) (settings : CatchupSubscriptionSettings)
    {r : Read Position} (hreads : s.reads = [r]) (hhistory : r.handler = ReadHandler.history)
    (slice : AllEventsSlice) :
    Subscription.step (CatchupAll.subscription key User.passive settings) s
        (Subscription.Input.readCompleted 0 (Except.ok slice)) =
      some (if slice.isEndOfStream then Buffered.doAsyncStart (historyRead slice s)
        else asyncStart settings
          (setCurrentPosition slice.nextPosition (historyRead slice s))) := by
  apply step_readCompleted hreads
  exact onRead_history_quiet (b := CatchupAll.base key User.passive) (s := s.takeRead 0)
    settings hhistory (unsubscribesAt_passive _ _)

theorem historyRead_reads {r : Read Position} (hreads : s.reads = [r])
    (slice : AllEventsSlice) : (historyRead slice s).reads = [] :=
  takeRead_reads hreads

theorem appeared_historyRead (slice : AllEventsSlice) (s : CatchupState) :
    appeared (historyRead slice s) = appeared s ++ sliceEvents slice :=
  appeared_passOn (sliceEvents slice) (s.takeRead 0)

theorem asyncStart_reads (hreads : s.reads = []) :
    (asyncStart settings s).reads =
      [{ fromPosition := currentPosition s
         maxCount := Int32.ofInt settings.readBatchSize.toInt
         handler := ReadHandler.history }] := by
  rw [asyncStart, Buffered.catchUpEvents, State.startRead, hreads, List.nil_append]

/-- Passing an event on from the buffer moves the current position to it. -/
def moved (c : Cursor) (e : Resolved) : Cursor :=
  { c with currentPosition := e.originalPosition.getD c.currentPosition }

theorem deliver_run (hpassive : b.user = User.passive) {e : Resolved} {p : Position}
    (hposition : e.originalPosition = some p) (s : CatchupState) :
    (deliver b e).runOn s =
      (Except.ok (), Buffered.delivered moved [e] s.child.eventBuffer.popFront s) := by
  simp only [deliver, value, hposition, Handler.runOn_bind, Handler.runOn_pure,
    Handler.runOn_modify, eventAppeared_passive hpassive]
  simp [Buffered.delivered, Buffered.popFront, setCurrentPosition, Buffered.setCursor, moved,
    hposition, State.setChild, State.passOn]

theorem confirmed_run (b : Base Child) (settings : CatchupSubscriptionSettings)
    {response : SubscriptionConfirmation}
    (hread : ¬ currentPosition s < target response) :
    (onPackageReceived b settings
        (ServerMessage.subscriptionConfirmation response)).runOn s =
      (Except.ok true, setPositionToCatchUpTo (target response)
        (confirm response.lastCommitPosition response.lastEventNumber s)) := by
  have hread' : ¬ currentPosition (setPositionToCatchUpTo (target response)
      (confirm response.lastCommitPosition response.lastEventNumber s)) <
        target response := hread
  rw [target] at hread' ⊢
  simp [onPackageReceived, hread']

/-- The state once events have been passed on from the buffer, and `rest` is left in it. -/
def readOn (events rest : List ResolvedEvent) (q : BufferQueue Resolved 25)
    (s : CatchupState) : CatchupState :=
  (Buffered.delivered moved (events.map Resolved.ofResolvedEvent) q s).postAll
    (if rest = [] then [] else [Posted.readSubscriptionEvents])

theorem readSubscriptionEvents_run (hpassive : b.user = User.passive)
    (settings : CatchupSubscriptionSettings) {waiting : List ResolvedEvent}
    (hbuffer : s.child.eventBuffer.Represents (waiting.map Resolved.ofResolvedEvent)) :
    exists n, exists q : BufferQueue Resolved 25,
      q.Represents ((waiting.drop n).map Resolved.ofResolvedEvent) ∧
        (readSubscriptionEvents b settings).runOn s =
          (Except.ok (), readOn (waiting.take n) (waiting.drop n) q s) := by
  have hdeliver : forall e (s' : CatchupState),
      e ∈ waiting.map Resolved.ofResolvedEvent ->
        (deliver b e).runOn s' =
          (Except.ok (), Buffered.delivered moved [e] s'.child.eventBuffer.popFront s') := by
    intro e s' he
    rcases List.mem_map.mp he with ⟨event, _, rfl⟩
    exact deliver_run hpassive rfl s'
  rcases Buffered.readSubscriptionEvents_run hdeliver hbuffer
    (show settings.maxLiveQueueSize.toInt.toNat = _ from rfl) with ⟨q, hq, hrun⟩
  rw [← List.map_drop] at hq
  rw [← List.map_drop, ← List.map_take] at hrun
  simp only [List.map_eq_nil_iff] at hrun
  exact ⟨_, q, hq, hrun⟩

/-- A live event that comes after the position to catch up to, and finds the buffer empty. -/
theorem appeared_first_run (hpassive : b.user = User.passive)
    (settings : CatchupSubscriptionSettings) (event : ResolvedEvent)
    (hread : ¬ currentPosition s < positionToCatchUpTo s)
    (hbuffer : s.child.eventBuffer.Represents []) :
    exists n, exists q : BufferQueue Resolved 25,
      q.Represents (([event].drop n).map Resolved.ofResolvedEvent) ∧
        (onPackageReceived b settings (push event)).runOn s =
          (Except.ok true, readOn ([event].take n) ([event].drop n) q s) := by
  let held := Buffered.emplaceBack (Resolved.ofResolvedEvent event) s
  have hone : held.child.eventBuffer.Represents ([event].map Resolved.ofResolvedEvent) :=
    hbuffer.emplaceBack (by decide) (Resolved.ofResolvedEvent event)
  have hread' : ¬ currentPosition held < positionToCatchUpTo held := hread
  have hsize : held.child.eventBuffer.size = 1 := hone.size_eq
  rcases readSubscriptionEvents_run hpassive settings hone with ⟨n, q, hq, hrun⟩
  refine ⟨n, q, hq, ?_⟩
  simp only [push, onPackageReceived, Resolved.ofStreamEventAppeared, Option.getD_some,
    Handler.runOn_bind, Handler.runOn_modify, Handler.runOn_get]
  rw [if_neg hread', if_pos hsize, Handler.runOn_bind, hrun]
  rfl

theorem appeared_later_run (b : Base Child) (settings : CatchupSubscriptionSettings)
    (event : ResolvedEvent) {waiting : List Resolved} (hwaiting : waiting ≠ [])
    (hbuffer : s.child.eventBuffer.Represents waiting) :
    (onPackageReceived b settings (push event)).runOn s =
      (Except.ok true, Buffered.emplaceBack (Resolved.ofResolvedEvent event) s) := by
  let held := Buffered.emplaceBack (Resolved.ofResolvedEvent event) s
  have hmore : held.child.eventBuffer.Represents
      (waiting ++ [Resolved.ofResolvedEvent event]) :=
    hbuffer.emplaceBack (by decide) (Resolved.ofResolvedEvent event)
  have hsize : held.child.eventBuffer.size ≠ 1 := by
    rw [hmore.size_eq, List.length_append, List.length_singleton]
    have hpos := List.length_pos_iff.mpr hwaiting
    omega
  simp only [push, onPackageReceived, Resolved.ofStreamEventAppeared, Option.getD_some,
    Handler.runOn_bind, Handler.runOn_modify, Handler.runOn_get]
  by_cases hread : currentPosition held < positionToCatchUpTo held
  · rw [if_pos hread]
    rfl
  · rw [if_neg hread, if_neg hsize]
    rfl

theorem foldl_moved {target : Position} {events : List ResolvedEvent}
    (hevents : forall e, e ∈ events -> target ≤ position e) {c : Cursor}
    (hcursor : target ≤ c.currentPosition) :
    target ≤ ((events.map Resolved.ofResolvedEvent).foldl moved c).currentPosition ∧
      ((events.map Resolved.ofResolvedEvent).foldl moved c).positionToCatchUpTo =
        c.positionToCatchUpTo := by
  induction events generalizing c with
  | nil => exact ⟨hcursor, rfl⟩
  | cons e rest ih =>
      exact ih (c := moved c (Resolved.ofResolvedEvent e))
        (fun e' he' => hevents e' (List.mem_cons_of_mem e he'))
        (hevents e List.mem_cons_self)

end Client

/-!
# The phases of a run

The client reads the history, waits for the confirmation, or is attached and reads no
more.  In each phase what has been passed on, what is in the buffer and what is under way
make up the log.
-/

/-- The guard of the client is not locked, and the log is in order. -/
structure Running (s : System) : Prop where
  unlocked : s.client.handleGuard = false
  unasked : s.client.unsubscribing = false
  sorted : SortedLog position s.log

/-- These events come after every position that has been handed out. -/
def Behind (s : System) (later : List ResolvedEvent) : Prop :=
  forall e, e ∈ later -> forall p, p ∈ s.nextPositions -> p ≤ position e

/-- The client has passed on the events below its current position, which is the first
one or the next position of a slice. -/
structure ReadUpTo (start : Position) (s : System) : Prop where
  start_le : start ≤ currentPosition s.client
  handed : currentPosition s.client = start ∨ currentPosition s.client ∈ s.nextPositions
  appeared_eq : appeared s.client =
    (logSegment position start (currentPosition s.client) s.log).map Resolved.ofResolvedEvent

structure Replied (s : System) (slice : AllEventsSlice) : Prop where
  handed : slice.nextPosition ∈ s.nextPositions
  events_eq : slice.events =
    logSegment position (currentPosition s.client) slice.nextPosition s.log
  isEndOfStream_iff : slice.isEndOfStream = true <-> slice.events = []

/-- These events are in the buffer, and a step of reading it is posted if there are any. -/
structure Holding (waiting : List ResolvedEvent) (s : System) : Prop where
  buffer : s.client.child.eventBuffer.Represents (waiting.map Resolved.ofResolvedEvent)
  posted_eq : s.client.posted = if waiting = [] then [] else [Posted.readSubscriptionEvents]

/-- The client has one read of the history under way, which may have been answered. -/
structure History (start : Position) (s : System) : Prop where
  readUpTo : ReadUpTo start s
  unregistered : s.client.registered = false
  sent_eq : s.client.sent = []
  reads_eq : exists r, s.client.reads = [r] ∧ r.handler = ReadHandler.history ∧
    r.fromPosition = currentPosition s.client
  holding : Holding [] s
  reply_eq : forall slice, s.reply = some slice -> Replied s slice
  unsubscribed : s.subscribedAt = none
  outbox_eq : s.outbox = []

structure Attached (s : System) : Prop where
  registered : s.client.registered = true
  reads_eq : s.client.reads = []
  reply_eq : s.reply = none

structure Requested (start : Position) (s : System) : Prop where
  attached : Attached s
  holding : Holding [] s
  readUpTo : ReadUpTo start s
  sent : Request.subscribeToStream ∈ s.client.sent
  unsubscribed : s.subscribedAt = none
  outbox_eq : s.outbox = []

structure Confirming (start : Position) (before later : List ResolvedEvent) (s : System) :
    Prop where
  attached : Attached s
  holding : Holding [] s
  readUpTo : ReadUpTo start s
  log_eq : s.log = before ++ later
  behind : Behind s later
  subscribedAt_eq : s.subscribedAt = some before.length
  outbox_eq : exists lastCommitPosition lastEventNumber,
    s.outbox = confirmation lastCommitPosition lastEventNumber :: later.map push

/-- The position to catch up to has been reached, and no event to come is below it. -/
structure CaughtUp (start : Position) (s : System) : Prop where
  target_le : positionToCatchUpTo s.client ≤ currentPosition s.client
  handed : positionToCatchUpTo s.client ≤ start ∨
    exists p, p ∈ s.nextPositions ∧ positionToCatchUpTo s.client ≤ p

/-- The events `waiting` have been handled and not been passed on, and the events `later`
have not been handled. -/
structure Live (start : Position) (handled waiting later : List ResolvedEvent)
    (s : System) : Prop where
  attached : Attached s
  caughtUp : CaughtUp start s
  ahead : forall e, e ∈ waiting -> positionToCatchUpTo s.client ≤ position e
  log_eq : s.log = handled ++ later
  behind : Behind s later
  subscribed : s.subscribedAt.isSome = true
  outbox_eq : s.outbox = later.map push
  appeared_eq : appeared s.client ++ waiting.map Resolved.ofResolvedEvent =
    (onward position start handled).map Resolved.ofResolvedEvent

inductive Phase (start : Position) (s : System) : Prop where
  | history (h : History start s)
  | requested (h : Requested start s)
  | confirming {before later : List ResolvedEvent} (h : Confirming start before later s)
  | live {handled waiting later : List ResolvedEvent}
      (h : Live start handled waiting later s) (hholding : Holding waiting s)

/-- What every run of the system keeps, if nothing disturbs the delivery. -/
structure Delivering (start : Position) (s : System) : Prop where
  running : Running s
  phase : Phase start s

section Phases

variable {key : Guid} {settings : CatchupSubscriptionSettings} {start : Position}
  {s next : System}

theorem Holding.eq_nil {waiting : List ResolvedEvent} (h : Holding waiting s)
    (hposted : s.client.posted = []) : waiting = [] := by
  by_contra hwaiting
  have hsome := h.posted_eq
  rw [hposted, if_neg hwaiting] at hsome
  cases hsome

theorem ReadUpTo.in_order (hsorted : SortedLog position s.log) (h : ReadUpTo start s) :
    appeared s.client <+: expected start s := by
  rw [h.appeared_eq, expected]
  exact (logSegment_isPrefix hsorted h.start_le).map Resolved.ofResolvedEvent

theorem Delivering.deliversInOrder (h : Delivering start s) : DeliversInOrder start s := by
  have hsorted := h.running.sorted
  cases h.phase with
  | history h =>
      constructor
      · exact h.readUpTo.in_order hsorted
      · intro hquiet
        rcases h.reads_eq with ⟨r, hreads, _⟩
        rw [hquiet.reads_eq] at hreads
        cases hreads
  | requested h =>
      constructor
      · exact h.readUpTo.in_order hsorted
      · intro hquiet
        have hsubscribed := hquiet.subscribed h.sent
        rw [h.unsubscribed] at hsubscribed
        cases hsubscribed
  | confirming h =>
      constructor
      · exact h.readUpTo.in_order hsorted
      · intro hquiet
        rcases h.outbox_eq with ⟨_, _, houtbox⟩
        rw [hquiet.outbox_eq] at houtbox
        cases houtbox
  | @live handled waiting later h hholding =>
      have hexpected : expected start s =
          appeared s.client ++ (waiting.map Resolved.ofResolvedEvent ++
            (onward position start later).map Resolved.ofResolvedEvent) := by
        rw [expected, h.log_eq, onward_append, List.map_append, ← h.appeared_eq,
          List.append_assoc]
      constructor
      · exact ⟨_, hexpected.symm⟩
      · intro hquiet
        have houtbox := h.outbox_eq
        rw [hquiet.outbox_eq] at houtbox
        rw [hexpected, hholding.eq_nil hquiet.posted_eq, List.map_eq_nil_iff.mp houtbox.symm,
          onward, List.filter_nil, List.map_nil, List.append_nil, List.append_nil]

theorem initial_delivering : Delivering start (initial settings start) := by
  refine ⟨⟨rfl, rfl, List.Pairwise.nil⟩, Phase.history ?_⟩
  exact
    { readUpTo := ⟨le_rfl, Or.inl rfl, rfl⟩
      unregistered := rfl
      sent_eq := rfl
      reads_eq := ⟨_, rfl, rfl, rfl⟩
      holding := ⟨BufferQueue.represents_new, rfl⟩
      reply_eq := fun _ hreply => by cases hreply
      unsubscribed := rfl
      outbox_eq := rfl }

/-!
# Steps

One lemma for each step of the client and of the server.  Two events appended before the
confirmation are the counterexample: one of them is never passed on.
-/

def appended (e : ResolvedEvent) (s : System) : System :=
  { s with
    log := s.log ++ [e]
    outbox := if s.subscribedAt.isSome then s.outbox ++ [push e] else s.outbox }

theorem Running.appended (h : Running s) {e : ResolvedEvent} (hbehind : Appends s e) :
    Running (appended e s) :=
  ⟨h.unlocked, h.unasked, h.sorted.concat hbehind.left⟩

theorem Attached.server (h : Attached s) (hclient : next.client = s.client)
    (hreply : next.reply = s.reply) : Attached next := by
  rcases s
  rcases next
  cases hclient
  cases hreply
  exact ⟨h.registered, h.reads_eq, h.reply_eq⟩

theorem Holding.server {waiting : List ResolvedEvent} (h : Holding waiting s)
    (hclient : next.client = s.client) : Holding waiting next := by
  constructor
  · rw [hclient]
    exact h.buffer
  · rw [hclient]
    exact h.posted_eq

/-- What comes behind the current position does not change what has been passed on. -/
theorem ReadUpTo.logSegment_eq_nil (h : ReadUpTo start s) {later : List ResolvedEvent}
    (hbehind : Behind s later) :
    logSegment position start (currentPosition s.client) later = [] := by
  rcases h.handed with hstart | hmem
  · rw [hstart, logSegment_self]
  · exact Foundation.logSegment_eq_nil fun e he => hbehind e he _ hmem

theorem ReadUpTo.appended (h : ReadUpTo start s) {e : ResolvedEvent}
    (hbehind : Behind s [e]) : ReadUpTo start (appended e s) := by
  refine ⟨h.start_le, h.handed, ?_⟩
  show _ = (logSegment position start (currentPosition s.client) (s.log ++ [e])).map _
  rw [logSegment_append_log, h.logSegment_eq_nil hbehind, List.append_nil]
  exact h.appeared_eq

theorem Appends.behind {e : ResolvedEvent} (h : Appends s e) : Behind s [e] := by
  intro e' he'
  rw [List.mem_singleton.mp he']
  exact h.right

theorem Behind.concat {later : List ResolvedEvent} (h : Behind s later) {e : ResolvedEvent}
    (hbehind : Appends s e) : Behind s (later ++ [e]) := by
  intro e' he'
  rcases List.mem_append.mp he' with hlater | hlast
  · exact h e' hlater
  · exact hbehind.behind e' hlast

theorem step_append {e : ResolvedEvent}
    (hstep : CatchupAllDelivery.step key settings s (Input.append e) = some next) :
    Appends s e ∧ next = appended e s := by
  rw [CatchupAllDelivery.step] at hstep
  split at hstep
  · cases hstep
    exact ⟨by assumption, rfl⟩
  · cases hstep

theorem Attached.step_answer (h : Attached s) (count : Nat) (nextPosition : Position) :
    CatchupAllDelivery.step key settings s (Input.answer count nextPosition) = none := by
  simp only [CatchupAllDelivery.step, h.reads_eq]

theorem Attached.step_readCompleted (h : Attached s) :
    CatchupAllDelivery.step key settings s Input.readCompleted = none := by
  rw [CatchupAllDelivery.step, h.reply_eq, Option.bind_none]

theorem step_posted (hposted : s.client.posted = []) :
    CatchupAllDelivery.step key settings s Input.posted = none := by
  rw [CatchupAllDelivery.step, clientStep, Subscription.step, hposted]
  rfl

theorem step_received_nil (houtbox : s.outbox = []) :
    CatchupAllDelivery.step key settings s Input.received = none := by
  rw [CatchupAllDelivery.step, houtbox]

theorem step_subscribe_subscribed (hsubscribed : s.subscribedAt.isSome = true)
    (lastCommitPosition : Int) (lastEventNumber : Option Int) :
    CatchupAllDelivery.step key settings s
      (Input.subscribe lastCommitPosition lastEventNumber) = none := by
  rw [CatchupAllDelivery.step, if_neg]
  rintro ⟨_, hnone, _⟩
  rw [hnone] at hsubscribed
  cases hsubscribed

theorem Replied.current_le {slice : AllEventsSlice} (h : Replied s slice)
    (hend : slice.isEndOfStream = false) : currentPosition s.client ≤ slice.nextPosition := by
  have hsome : slice.events ≠ [] := by
    intro hnone
    rw [h.isEndOfStream_iff.mpr hnone] at hend
    cases hend
  rcases List.exists_mem_of_ne_nil _ hsome with ⟨e, he⟩
  rw [h.events_eq, logSegment, List.mem_filter, decide_eq_true_eq] at he
  exact he.right.left.trans he.right.right.le

theorem Replied.appended {slice : AllEventsSlice} (h : Replied s slice) {e : ResolvedEvent}
    (hbehind : Appends s e) : Replied (appended e s) slice := by
  refine ⟨h.handed, ?_, h.isEndOfStream_iff⟩
  have hnone : logSegment position (currentPosition s.client) slice.nextPosition [e] = [] :=
    Foundation.logSegment_eq_nil fun e' he' => hbehind.behind e' he' _ h.handed
  show _ = logSegment position (currentPosition s.client) slice.nextPosition (s.log ++ [e])
  rw [logSegment_append_log, hnone, List.append_nil]
  exact h.events_eq

theorem replied_slice {r : Read Position} (hfrom : r.fromPosition = currentPosition s.client)
    {count : Nat} {nextPosition : Position}
    (hanswers : Answers s.log r count nextPosition) :
    Replied
      { s with
        nextPositions := s.nextPositions ++ [nextPosition]
        reply := some (slice s.log r count nextPosition) }
      (slice s.log r count nextPosition) := by
  rcases hanswers with ⟨_, _, hbelow, habove⟩
  refine ⟨List.mem_append_right _ (List.mem_singleton.mpr rfl), ?_, ?_⟩
  · rw [slice, take_onward_eq_logSegment hbelow habove, hfrom]
  · simp [slice, List.length_eq_zero_iff]

theorem ReadUpTo.answered (h : ReadUpTo start s) (nextPosition : Position)
    {reply : Option AllEventsSlice} :
    ReadUpTo start
      { s with
        nextPositions := s.nextPositions ++ [nextPosition]
        reply := reply } :=
  ⟨h.start_le, h.handed.imp_right (List.mem_append_left _), h.appeared_eq⟩

theorem History.readCompleted (hrunning : Running s) (h : History start s)
    {slice : AllEventsSlice} (hreply : s.reply = some slice)
    (hstep : clientStep key settings { s with reply := none }
      (Subscription.Input.readCompleted 0 (Except.ok slice)) = some next) :
    Delivering start next := by
  rcases h.reads_eq with ⟨r, hreads, hhistory, _⟩
  have hreplied := h.reply_eq slice hreply
  have hreads' := historyRead_reads hreads slice
  have happeared := appeared_historyRead slice s.client
  have hnext := step_map hstep (step_history key settings hreads hhistory slice)
  cases hend : slice.isEndOfStream with
  | true =>
      rw [hend, if_pos rfl] at hnext
      subst hnext
      have hevents : slice.events = [] := hreplied.isEndOfStream_iff.mp hend
      rw [sliceEvents, hevents, List.map_nil, List.append_nil] at happeared
      refine ⟨⟨rfl, hrunning.unasked, hrunning.sorted⟩, Phase.requested
        { attached := ⟨rfl, hreads', rfl⟩
          holding := ⟨h.holding.buffer, h.holding.posted_eq⟩
          readUpTo := ⟨h.readUpTo.start_le, h.readUpTo.handed, ?_⟩
          sent := List.mem_append_right _ (List.mem_singleton.mpr rfl)
          unsubscribed := h.unsubscribed
          outbox_eq := h.outbox_eq }⟩
      exact happeared.trans h.readUpTo.appeared_eq
  | false =>
      rw [hend, if_neg Bool.false_ne_true] at hnext
      subst hnext
      have hforward : currentPosition s.client ≤ slice.nextPosition :=
        hreplied.current_le hend
      refine ⟨⟨hrunning.unlocked, hrunning.unasked, hrunning.sorted⟩, Phase.history
        { readUpTo :=
            ⟨h.readUpTo.start_le.trans hforward, Or.inr hreplied.handed, ?_⟩
          unregistered := h.unregistered
          sent_eq := h.sent_eq
          reads_eq := ⟨_, asyncStart_reads hreads', rfl, rfl⟩
          holding := ⟨h.holding.buffer, h.holding.posted_eq⟩
          reply_eq := fun _ hnone => by cases hnone
          unsubscribed := h.unsubscribed
          outbox_eq := h.outbox_eq }⟩
      refine happeared.trans ?_
      rw [h.readUpTo.appeared_eq, sliceEvents, hreplied.events_eq, ← List.map_append,
        logSegment_append hrunning.sorted h.readUpTo.start_le hforward]
      rfl

theorem History.step (hrunning : Running s) (h : History start s) {i : Input}
    (hstep : CatchupAllDelivery.step key settings s i = some next) :
    Delivering start next := by
  cases i with
  | append e =>
      rcases step_append hstep with ⟨hbehind, rfl⟩
      refine ⟨hrunning.appended hbehind, Phase.history
        { h with
          holding := h.holding.server rfl
          readUpTo := h.readUpTo.appended hbehind.behind
          reply_eq := fun slice hreply => (h.reply_eq slice hreply).appended hbehind
          outbox_eq := ?_ }⟩
      show (if s.subscribedAt.isSome then _ else _) = []
      rw [h.unsubscribed]
      exact h.outbox_eq
  | answer count nextPosition =>
      rcases h.reads_eq with ⟨r, hreads, hhistory, hfrom⟩
      simp only [CatchupAllDelivery.step, hreads] at hstep
      split at hstep
      · split at hstep
        · rename_i hr _ hanswers
          cases hr
          cases hstep
          refine ⟨⟨hrunning.unlocked, hrunning.unasked, hrunning.sorted⟩, Phase.history
            { h with
              holding := h.holding.server rfl
              readUpTo := h.readUpTo.answered nextPosition
              reply_eq := ?_ }⟩
          intro slice hreply
          cases hreply
          exact replied_slice hfrom hanswers
        · cases hstep
      · cases hstep
  | readCompleted =>
      rw [CatchupAllDelivery.step, Option.bind_eq_some_iff] at hstep
      rcases hstep with ⟨slice, hreply, hstep⟩
      exact h.readCompleted hrunning hreply hstep
  | subscribe lastCommitPosition lastEventNumber =>
      rw [CatchupAllDelivery.step, h.sent_eq, if_neg (by simp)] at hstep
      cases hstep
  | received =>
      rw [step_received_nil h.outbox_eq] at hstep
      cases hstep
  | posted =>
      rw [step_posted h.holding.posted_eq] at hstep
      cases hstep

theorem Requested.step (hrunning : Running s) (h : Requested start s) {i : Input}
    (hstep : CatchupAllDelivery.step key settings s i = some next) :
    Delivering start next := by
  cases i with
  | append e =>
      rcases step_append hstep with ⟨hbehind, rfl⟩
      refine ⟨hrunning.appended hbehind, Phase.requested
        { h with
          attached := h.attached.server rfl rfl
          holding := h.holding.server rfl
          readUpTo := h.readUpTo.appended hbehind.behind
          outbox_eq := ?_ }⟩
      show (if s.subscribedAt.isSome then _ else _) = []
      rw [h.unsubscribed]
      exact h.outbox_eq
  | answer count nextPosition =>
      rw [h.attached.step_answer] at hstep
      cases hstep
  | readCompleted =>
      rw [h.attached.step_readCompleted] at hstep
      cases hstep
  | subscribe lastCommitPosition lastEventNumber =>
      rw [CatchupAllDelivery.step] at hstep
      split at hstep
      · cases hstep
        exact ⟨⟨hrunning.unlocked, hrunning.unasked, hrunning.sorted⟩, Phase.confirming
          { attached := h.attached.server rfl rfl
            holding := h.holding.server rfl
            readUpTo := ⟨h.readUpTo.start_le, h.readUpTo.handed, h.readUpTo.appeared_eq⟩
            log_eq := (List.append_nil s.log).symm
            behind := fun _ he => by cases he
            subscribedAt_eq := rfl
            outbox_eq := ⟨lastCommitPosition, lastEventNumber, rfl⟩ }⟩
      · cases hstep
  | received =>
      rw [step_received_nil h.outbox_eq] at hstep
      cases hstep
  | posted =>
      rw [step_posted h.holding.posted_eq] at hstep
      cases hstep

/-- A confirmation that disturbs nothing is one of a client that has passed on all events
from before the subscription. -/
theorem Confirming.appeared_eq {before later : List ResolvedEvent}
    (h : Confirming start before later s)
    (hread : forall e, e ∈ before -> position e < currentPosition s.client) :
    appeared s.client = (onward position start before).map Resolved.ofResolvedEvent := by
  rw [h.readUpTo.appeared_eq, h.log_eq, logSegment_append_log,
    h.readUpTo.logSegment_eq_nil h.behind, List.append_nil, logSegment_eq_onward hread]

theorem Confirming.received (hrunning : Running s) {before later : List ResolvedEvent}
    (h : Confirming start before later s)
    (hok : s.outbox.head?.any (Disturbs start s) = false)
    (hstep : CatchupAllDelivery.step key settings s Input.received = some next) :
    Delivering start next := by
  rcases h.outbox_eq with ⟨lastCommitPosition, lastEventNumber, houtbox⟩
  let response : SubscriptionConfirmation :=
    { lastCommitPosition := some lastCommitPosition
      lastEventNumber := lastEventNumber }
  have hbefore : s.log.take (s.subscribedAt.getD 0) = before := by
    rw [h.subscribedAt_eq, h.log_eq, Option.getD_some, List.take_left]
  have hundisturbed : Disturbs start s
      (ServerMessage.subscriptionConfirmation response) = false := by
    rw [houtbox] at hok
    exact hok
  rw [Disturbs, hbefore, Bool.or_eq_false_iff, decide_eq_false_iff_not, List.any_eq_false]
    at hundisturbed
  rcases hundisturbed with ⟨htarget, hread⟩
  have hrun := confirmed_run (CatchupAll.base key User.passive) settings htarget
  simp only [CatchupAllDelivery.step, houtbox] at hstep
  obtain rfl := received_map hstep hrunning.unasked h.attached.registered hrunning.unlocked hrun
  have hreached : target response ≤ currentPosition s.client := le_of_not_gt htarget
  have hall : forall e, e ∈ before -> position e < currentPosition s.client := by
    intro e he
    have hnot := hread e he
    rw [decide_eq_true_eq] at hnot
    exact lt_of_not_ge hnot
  refine ⟨⟨hrunning.unlocked, hrunning.unasked, hrunning.sorted⟩, Phase.live
    { attached := ⟨h.attached.registered, h.attached.reads_eq, h.attached.reply_eq⟩
      caughtUp := ⟨hreached, ?_⟩
      ahead := fun _ he => absurd he List.not_mem_nil
      log_eq := h.log_eq
      behind := h.behind
      subscribed := Option.isSome_iff_exists.mpr ⟨_, h.subscribedAt_eq⟩
      outbox_eq := rfl
      appeared_eq := (List.append_nil _).trans (h.appeared_eq hall) }
    ⟨h.holding.buffer, h.holding.posted_eq⟩⟩
  · rcases h.readUpTo.handed with hstart | hmem
    · exact Or.inl (hstart ▸ hreached)
    · exact Or.inr ⟨_, hmem, hreached⟩

theorem Confirming.step (hrunning : Running s) {before later : List ResolvedEvent}
    (h : Confirming start before later s) {i : Input} (hok : Undisturbed start s i)
    (hstep : CatchupAllDelivery.step key settings s i = some next) :
    Delivering start next := by
  have hsubscribed : s.subscribedAt.isSome = true :=
    Option.isSome_iff_exists.mpr ⟨_, h.subscribedAt_eq⟩
  cases i with
  | append e =>
      rcases step_append hstep with ⟨hbehind, rfl⟩
      rcases h.outbox_eq with ⟨lastCommitPosition, lastEventNumber, houtbox⟩
      refine ⟨hrunning.appended hbehind, Phase.confirming
        { attached := h.attached.server rfl rfl
          holding := h.holding.server rfl
          readUpTo := h.readUpTo.appended hbehind.behind
          log_eq := ?_
          behind := h.behind.concat hbehind
          subscribedAt_eq := h.subscribedAt_eq
          outbox_eq := ⟨lastCommitPosition, lastEventNumber, ?_⟩ }⟩
      · show s.log ++ [e] = before ++ (later ++ [e])
        rw [h.log_eq, List.append_assoc]
      · show (if s.subscribedAt.isSome then _ else _) = _
        rw [if_pos hsubscribed, houtbox, List.map_append, List.cons_append, List.map_singleton]
  | answer count nextPosition =>
      rw [h.attached.step_answer] at hstep
      cases hstep
  | readCompleted =>
      rw [h.attached.step_readCompleted] at hstep
      cases hstep
  | subscribe lastCommitPosition lastEventNumber =>
      rw [step_subscribe_subscribed hsubscribed] at hstep
      cases hstep
  | received => exact h.received hrunning hok hstep
  | posted =>
      rw [step_posted h.holding.posted_eq] at hstep
      cases hstep

theorem Live.readOn {handled waiting later : List ResolvedEvent}
    (h : Live start handled waiting later s) (hposted : s.client.posted = []) (n : Nat)
    {q : BufferQueue Resolved 25}
    (hq : q.Represents ((waiting.drop n).map Resolved.ofResolvedEvent)) :
    let next :=
      { s with client := readOn (waiting.take n) (waiting.drop n) q s.client }
    Live start handled (waiting.drop n) later next ∧ Holding (waiting.drop n) next := by
  have hahead : forall e, e ∈ waiting.take n -> positionToCatchUpTo s.client ≤ position e :=
    fun e he => h.ahead e (List.mem_of_mem_take he)
  have htarget := foldl_moved hahead (c := s.client.child.cursor) h.caughtUp.target_le
  constructor
  · refine
      { attached := ⟨h.attached.registered, h.attached.reads_eq, h.attached.reply_eq⟩
        caughtUp := ⟨?_, ?_⟩
        ahead := ?_
        log_eq := h.log_eq
        behind := h.behind
        subscribed := h.subscribed
        outbox_eq := h.outbox_eq
        appeared_eq := ?_ }
    · exact htarget.right.le.trans htarget.left
    · have hhanded := h.caughtUp.handed
      rw [show positionToCatchUpTo s.client = _ from htarget.right.symm] at hhanded
      exact hhanded
    · intro e he
      exact htarget.right.le.trans (h.ahead e (List.mem_of_mem_drop he))
    · have happeared :=
        appeared_passOn ((waiting.take n).map Resolved.ofResolvedEvent) s.client
      rw [← h.appeared_eq]
      refine (congrArg (fun events => events ++ _) happeared).trans ?_
      rw [List.append_assoc, ← List.map_append, List.take_append_drop]
  · constructor
    · exact hq
    · show s.client.posted ++ _ = _
      rw [hposted, List.nil_append]

/-- An event that the client has taken from its outbox, and not passed on yet. -/
theorem Live.take {handled waiting rest : List ResolvedEvent} {e : ResolvedEvent}
    (h : Live start handled waiting (e :: rest) s) (hstart : start ≤ position e) :
    Live start (handled ++ [e]) (waiting ++ [e]) rest
      { s with outbox := rest.map push } := by
  have htarget : positionToCatchUpTo s.client ≤ position e := by
    rcases h.caughtUp.handed with hfirst | ⟨p, hmem, hp⟩
    · exact hfirst.trans hstart
    · exact hp.trans (h.behind e List.mem_cons_self p hmem)
  refine
    { attached := h.attached.server rfl rfl
      caughtUp := ⟨h.caughtUp.target_le, h.caughtUp.handed⟩
      ahead := ?_
      log_eq := h.log_eq.trans (List.append_cons handled e rest)
      behind := fun e' he' => h.behind e' (List.mem_cons_of_mem e he')
      subscribed := h.subscribed
      outbox_eq := rfl
      appeared_eq := ?_ }
  · intro e' he'
    rcases List.mem_append.mp he' with hwaiting | hlast
    · exact h.ahead e' hwaiting
    · rw [List.mem_singleton.mp hlast]
      exact htarget
  · have hlast : onward position start [e] = [e] := by
      simp [onward, hstart]
    rw [onward_append, hlast, List.map_append, List.map_append, ← h.appeared_eq,
      List.append_assoc]

/-- The client handles an event: it passes it on, or puts it behind those that wait. -/
theorem Live.received (hrunning : Running s) {handled waiting later : List ResolvedEvent}
    (h : Live start handled waiting later s) (hholding : Holding waiting s)
    (hok : s.outbox.head?.any (Disturbs start s) = false)
    (hstep : CatchupAllDelivery.step key settings s Input.received = some next) :
    Delivering start next := by
  cases later with
  | nil =>
      rw [step_received_nil h.outbox_eq] at hstep
      cases hstep
  | cons e rest =>
      have houtbox : s.outbox = push e :: rest.map push := h.outbox_eq
      have hstart : start ≤ position e := by
        rw [houtbox] at hok
        exact le_of_not_gt (of_decide_eq_false hok)
      have htaken := h.take hstart
      simp only [CatchupAllDelivery.step, houtbox] at hstep
      cases waiting with
      | nil =>
          rcases appeared_first_run (b := CatchupAll.base key User.passive) rfl settings e
            (not_lt_of_ge h.caughtUp.target_le) hholding.buffer with ⟨n, q, hq, hrun⟩
          obtain rfl := received_map hstep hrunning.unasked h.attached.registered
            hrunning.unlocked hrun
          rcases htaken.readOn hholding.posted_eq n hq with ⟨hlive, hholding'⟩
          exact ⟨⟨hrunning.unlocked, hrunning.unasked, hrunning.sorted⟩,
            Phase.live hlive hholding'⟩
      | cons first more =>
          have hwaiting : (first :: more).map Resolved.ofResolvedEvent ≠ [] := by simp
          have hrun := appeared_later_run (CatchupAll.base key User.passive) settings e
            hwaiting hholding.buffer
          obtain rfl := received_map hstep hrunning.unasked h.attached.registered
            hrunning.unlocked hrun
          refine ⟨⟨hrunning.unlocked, hrunning.unasked, hrunning.sorted⟩, Phase.live
            { htaken with
              attached := ⟨h.attached.registered, h.attached.reads_eq, h.attached.reply_eq⟩
              caughtUp := ⟨htaken.caughtUp.target_le, htaken.caughtUp.handed⟩ }
            ⟨?_, ?_⟩⟩
          · rw [List.map_append]
            exact hholding.buffer.emplaceBack (by decide) (Resolved.ofResolvedEvent e)
          · exact hholding.posted_eq

theorem Live.posted (hrunning : Running s) {handled waiting later : List ResolvedEvent}
    (h : Live start handled waiting later s) (hholding : Holding waiting s)
    (hstep : CatchupAllDelivery.step key settings s Input.posted = some next) :
    Delivering start next := by
  by_cases hwaiting : waiting = []
  · have hnone := hholding.posted_eq
    rw [if_pos hwaiting] at hnone
    rw [step_posted hnone] at hstep
    cases hstep
  · have hsome := hholding.posted_eq
    rw [if_neg hwaiting] at hsome
    let taken : System := { s with client := s.client.takePosted 0 }
    have htaken : Live start handled waiting later taken :=
      { h with
        attached := ⟨h.attached.registered, h.attached.reads_eq, h.attached.reply_eq⟩
        caughtUp := ⟨h.caughtUp.target_le, h.caughtUp.handed⟩ }
    have hnone : taken.client.posted = [] := by
      show s.client.posted.eraseIdx 0 = []
      rw [hsome]
      rfl
    rcases readSubscriptionEvents_run (b := CatchupAll.base key User.passive)
      (s := taken.client) rfl settings hholding.buffer with ⟨n, q, hq, hrun⟩
    have hclient : Subscription.step (CatchupAll.subscription key User.passive settings)
        s.client (Subscription.Input.posted 0) =
          some (CatchupAllDelivery.readOn (waiting.take n) (waiting.drop n) q
            taken.client) := by
      simp only [Subscription.step, hsome, List.getElem?_cons_zero, Option.map_some,
        Class.runPosted]
      rw [show (CatchupAll.subscription key User.passive settings).readSubscriptionEvents =
        readSubscriptionEvents (CatchupAll.base key User.passive) settings from rfl, hrun]
      rfl
    obtain rfl := step_map hstep hclient
    rcases htaken.readOn hnone n hq with ⟨hlive, hholding'⟩
    exact ⟨⟨hrunning.unlocked, hrunning.unasked, hrunning.sorted⟩,
      Phase.live hlive hholding'⟩

theorem Live.step (hrunning : Running s) {handled waiting later : List ResolvedEvent}
    (h : Live start handled waiting later s) (hholding : Holding waiting s) {i : Input}
    (hok : Undisturbed start s i)
    (hstep : CatchupAllDelivery.step key settings s i = some next) :
    Delivering start next := by
  cases i with
  | append e =>
      rcases step_append hstep with ⟨hbehind, rfl⟩
      refine ⟨hrunning.appended hbehind, Phase.live
        { attached := h.attached.server rfl rfl
          caughtUp := ⟨h.caughtUp.target_le, h.caughtUp.handed⟩
          ahead := h.ahead
          log_eq := ?_
          behind := h.behind.concat hbehind
          subscribed := h.subscribed
          outbox_eq := ?_
          appeared_eq := h.appeared_eq } (hholding.server rfl)⟩
      · show s.log ++ [e] = handled ++ (later ++ [e])
        rw [h.log_eq, List.append_assoc]
      · show (if s.subscribedAt.isSome then _ else _) = _
        rw [if_pos h.subscribed, h.outbox_eq, List.map_append, List.map_singleton]
  | answer count nextPosition =>
      rw [h.attached.step_answer] at hstep
      cases hstep
  | readCompleted =>
      rw [h.attached.step_readCompleted] at hstep
      cases hstep
  | subscribe lastCommitPosition lastEventNumber =>
      rw [step_subscribe_subscribed h.subscribed] at hstep
      cases hstep
  | received => exact h.received hrunning hholding hok hstep
  | posted => exact h.posted hrunning hholding hstep

theorem step_delivering {i : Input} (h : Delivering start s) (hok : Undisturbed start s i)
    (hstep : CatchupAllDelivery.step key settings s i = some next) :
    Delivering start next := by
  cases h.phase with
  | history hphase => exact hphase.step h.running hstep
  | requested hphase => exact hphase.step h.running hstep
  | confirming hphase => exact hphase.step h.running hok hstep
  | live hphase hholding => exact hphase.step h.running hholding hok hstep

end Phases

/-- In a run in which no package disturbs the delivery, the log is passed on from `start` on
in order and once, and all of it in the end. -/
theorem run_deliversAllInOrder (key : Guid) (settings : CatchupSubscriptionSettings)
    (start : Position) {inputs : List Input} {last : System}
    (hok : EveryStep (step key settings) (Undisturbed start) (initial settings start) inputs)
    (hrun : run (step key settings) (initial settings start) inputs = some last) :
    DeliversInOrder start last :=
  (run_invariant step_delivering initial_delivering hok hrun).deliversInOrder

def loggedEvent (commitPosition preparePosition : Int) : ResolvedEvent :=
  { event := some (recordedEvent 0)
    link := none
    commitPosition := some commitPosition
    preparePosition := some preparePosition }

def origin : Position :=
  { commitPosition := 0
    preparePosition := 0 }

/-- Two slices of the history and an empty one, and appends between them, before the
confirmation and after it. -/
def appendedLater : List Input :=
  [Input.append (loggedEvent 1 1), Input.answer 1 ⟨2, 1⟩, Input.readCompleted,
    Input.append (loggedEvent 3 2), Input.answer 1 ⟨3, 3⟩, Input.readCompleted,
    Input.answer 0 ⟨3, 3⟩, Input.readCompleted, Input.subscribe 3 none,
    Input.append (loggedEvent 5 4), Input.received, Input.received,
    Input.append (loggedEvent 7 7), Input.received]

theorem appendedLater_deliversAll :
    exists last, run (step (Guid.ofByte 1) CatchupSubscriptionSettings.built)
        (initial CatchupSubscriptionSettings.built origin) appendedLater = some last ∧
      DeliversInOrder origin last := by
  obtain ⟨last, hlast⟩ : exists last,
      run (step (Guid.ofByte 1) CatchupSubscriptionSettings.built)
        (initial CatchupSubscriptionSettings.built origin) appendedLater = some last :=
    Option.isSome_iff_exists.mp (by decide +kernel)
  exact ⟨last, hlast, run_deliversAllInOrder (Guid.ofByte 1) CatchupSubscriptionSettings.built
    origin (by decide +kernel) hlast⟩

/-- An event is appended between the last read of the history and the subscription, and
another one once the missed events have been read. -/
def appendedBefore : List Input :=
  [Input.append (loggedEvent 1 1), Input.answer 1 ⟨2, 2⟩, Input.readCompleted,
    Input.answer 0 ⟨2, 2⟩, Input.readCompleted, Input.append (loggedEvent 3 3),
    Input.subscribe 3 none, Input.received, Input.answer 1 ⟨4, 4⟩, Input.readCompleted,
    Input.append (loggedEvent 5 5), Input.received]

theorem appendedBefore_losesLast :
    exists last, run (step (Guid.ofByte 1) CatchupSubscriptionSettings.built)
        (initial CatchupSubscriptionSettings.built origin) appendedBefore = some last ∧
      ¬ DeliversInOrder origin last := by
  obtain ⟨last, hlast⟩ : exists last,
      run (step (Guid.ofByte 1) CatchupSubscriptionSettings.built)
        (initial CatchupSubscriptionSettings.built origin) appendedBefore = some last :=
    Option.isSome_iff_exists.mp (by decide +kernel)
  refine ⟨last, hlast, ?_⟩
  intro h
  have hpositions : (run (step (Guid.ofByte 1) CatchupSubscriptionSettings.built)
      (initial CatchupSubscriptionSettings.built origin) appendedBefore).any
        (fun s => decide (appeared s.client <+: expected origin s)) = false := by
    decide +kernel
  rw [hlast, Option.any_some] at hpositions
  exact absurd h.in_order (of_decide_eq_false hpositions)

end CatchupAllDelivery
end Subscription
end EventStoreClient
