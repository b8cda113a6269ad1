import EventStoreClient.Subscription.Callbacks

/-!
# The delivery of a stream

`catchup_subscription` with the server it reads from and subscribes to.  A subscription
that finds, when it is confirmed, that nothing was missed passes the stream on from its
first event number, in order and once.
-/

namespace EventStoreClient
namespace Subscription
namespace CatchupDelivery

open Buffer Catchup Connection Foundation Operations Wire

/-!
# The server

The stream with its numbers, and the side of the connection that the server has.
-/

def originalEventNumber (e : Resolved) : Option Int :=
  e.originalEvent.map fun record => read record.eventNumber

/-- A stream whose events have the numbers 0, 1, 2, and so on: its events as a read returns
them, and as the server pushes them. -/
structure EventStream where
  indexed : Nat -> ResolvedIndexedEvent
  pushed : Nat -> ResolvedEvent
  indexed_number : forall n,
    originalEventNumber (Resolved.ofResolvedIndexedEvent (indexed n)) = some (n : Int)
  pushed_number : forall n,
    originalEventNumber (Resolved.ofResolvedEvent (pushed n)) = some (n : Int)
  -- a required field of the message
  pushed_event : forall n, (pushed n).event.isSome = true

/-- The numbers from `first` up to `next`, which is not one of them. -/
def between (first next : Nat) : List Nat := List.range' first (next - first)

structure System where
  client : CatchupState
  -- how many events the stream has
  length : Nat
  -- the slice for the client's read, from when the server has read it
  reply : Option StreamEventsSlice
  -- the length at which the subscription took effect
  subscribedAt : Option Nat
  -- the packages for the subscription that have not been handled, oldest first
  outbox : List ServerMessage

namespace EventStream

variable (stream : EventStream)

def push (n : Nat) : ServerMessage :=
  ServerMessage.streamEventAppeared { event := some (stream.pushed n) }

def slice (length : Nat) (r : Read Int) (count : Nat) (isEndOfStream : Bool) :
    StreamEventsSlice :=
  { fromEventNumber := r.fromPosition
    nextEventNumber := r.fromPosition + count
    lastEventNumber := (length : Int) - 1
    stream := []
    readDirection := ReadDirection.forward
    isEndOfStream := isEndOfStream
    events := (List.range' r.fromPosition.toNat count).map stream.indexed }

end EventStream

/-- What a slice of `count` events may be for a read: no longer than asked, of existing
events, not empty if there is one, and the end of the stream only if it reaches it. -/
def Answers (length : Nat) (r : Read Int) (count : Nat) (isEndOfStream : Bool) : Prop :=
  0 ≤ r.fromPosition ∧ (count : Int) ≤ r.maxCount.toInt ∧
    (count = 0 ∨ r.fromPosition.toNat + count ≤ length) ∧
    (r.fromPosition.toNat < length -> 1 ≤ count) ∧
    (isEndOfStream = true -> length ≤ r.fromPosition.toNat + count)

instance (length : Nat) (r : Read Int) (count : Nat) (isEndOfStream : Bool) :
    Decidable (Answers length r count isEndOfStream) :=
  inferInstanceAs (Decidable (_ ∧ _ ∧ _ ∧ _ ∧ _))

/-- The confirmation of a subscription that took effect at this length. -/
def confirmation (lastCommitPosition : Int) (length : Nat) : ServerMessage :=
  ServerMessage.subscriptionConfirmation
    { lastCommitPosition := some lastCommitPosition
      lastEventNumber := some ((length : Int) - 1) }

/-- What can happen: an event is appended, the server reads for the client, the client
handles what it has read, the subscription takes effect, the client handles a package, and
the client runs a posted closure. -/
inductive Input where
  | append
  | answer (count : Nat) (isEndOfStream : Bool)
  | readCompleted
  | subscribe (lastCommitPosition : Int)
  | received
  | posted

section System

variable (stream : EventStream) (key : Guid) (settings : CatchupSubscriptionSettings)

def clientStep (s : System) (i : Subscription.Input StreamEventsSlice) : Option System :=
  (Subscription.step (Catchup.subscription key User.passive settings) s.client i).map
    fun client => { s with client := client }

def step (s : System) : Input -> Option System
  | Input.append => some
      { s with
        length := s.length + 1
        outbox :=
          if s.subscribedAt.isSome then s.outbox ++ [stream.push s.length] else s.outbox }
  | Input.answer count isEndOfStream =>
      match s.client.reads, s.reply with
      | r :: _, none =>
          if Answers s.length r count isEndOfStream then
            some { s with reply := some (stream.slice s.length r count isEndOfStream) }
          else none
      | _, _ => none
  | Input.readCompleted =>
      s.reply.bind fun slice =>
        clientStep key settings { s with reply := none }
          (Subscription.Input.readCompleted 0 (Except.ok slice))
  | Input.subscribe lastCommitPosition =>
      if Request.subscribeToStream ∈ s.client.sent ∧ s.subscribedAt = none then
        some
          { s with
            subscribedAt := some s.length
            outbox := [confirmation lastCommitPosition s.length] }
      else none
  | Input.received =>
      match s.outbox with
      | [] => none
      | message :: rest =>
          clientStep key settings { s with outbox := rest }
            (Subscription.Input.received message)
  | Input.posted => clientStep key settings s (Subscription.Input.posted 0)

def initial (fromEventNumber length : Nat) : System :=
  { client := (Kind.catchup fromEventNumber settings).started
    length := length
    reply := none
    subscribedAt := none
    outbox := [] }

end System

/-- Nothing is under way: no read, no posted closure, no package and no request. -/
structure Quiet (s : System) : Prop where
  reads_eq : s.client.reads = []
  posted_eq : s.client.posted = []
  outbox_eq : s.outbox = []
  subscribed : Request.subscribeToStream ∈ s.client.sent -> s.subscribedAt.isSome = true

def numbers (s : System) : List (Option Int) := (appeared s.client).map originalEventNumber

def numbered (first next : Nat) : List (Option Int) :=
  (between first next).map fun n : Nat => some (n : Int)

/-- What should hold in every state of every run: the events passed on are the first ones
of the stream from `first` on, and all of them if nothing is under way. -/
structure DeliversInOrder (first : Nat) (s : System) : Prop where
  in_order : exists next, first ≤ next ∧ next ≤ s.length ∧ numbers s = numbered first next
  complete : Quiet s -> numbers s = numbered first s.length

/-- A confirmation of a subscription to a stream that has events from the current number
on, which the client has not read. -/
def ConfirmsMissed (current : Int) : ServerMessage -> Bool
  | ServerMessage.subscriptionConfirmation response =>
      decide (current ≤ read response.lastEventNumber)
  | _ => false

/-- When the subscription is confirmed, the client has read all the events that existed when
it took effect. -/
def NothingMissed (s : System) : Input -> Prop
  | Input.received =>
      s.outbox.head?.any (ConfirmsMissed (currentEventNumber s.client)) = false
  | _ => True

instance decidableNothingMissed (s : System) : (i : Input) -> Decidable (NothingMissed s i)
  | Input.append => inferInstanceAs (Decidable True)
  | Input.answer _ _ => inferInstanceAs (Decidable True)
  | Input.readCompleted => inferInstanceAs (Decidable True)
  | Input.subscribe _ => inferInstanceAs (Decidable True)
  | Input.received => inferInstanceAs (Decidable (_ = false))
  | Input.posted => inferInstanceAs (Decidable True)

/-!
# Intervals

Numbers from one up to another, one by one.
-/

section Between

variable {first mid next : Nat}

@[simp] theorem between_self (n : Nat) : between n n = [] := by
  rw [between, Nat.sub_self, List.range'_zero]

theorem between_append (hfirst : first ≤ mid) (hnext : mid ≤ next) :
    between first mid ++ between mid next = between first next := by
  have hmid : first + (mid - first) = mid := Nat.add_sub_cancel' hfirst
  have happend := List.range'_append_1 (s := first) (m := mid - first) (n := next - mid)
  rw [hmid] at happend
  rw [between, between, between, happend]
  congr 1
  omega

theorem between_cons (h : first < next) :
    between first next = first :: between (first + 1) next := by
  have hlength : next - first = (next - (first + 1)) + 1 := by omega
  rw [between, hlength, List.range'_succ, between]

theorem between_succ (h : first ≤ next) :
    between first (next + 1) = between first next ++ [next] := by
  rw [← between_append h (Nat.le_succ next), between_cons (Nat.lt_succ_self next),
    between_self]

theorem between_eq_nil_iff : between first next = [] <-> next ≤ first := by
  rw [between, List.range'_eq_nil_iff]
  omega

theorem length_between : (between first next).length = next - first := by
  rw [between, List.length_range']

theorem numbered_append (hfirst : first ≤ mid) (hnext : mid ≤ next) :
    numbered first mid ++ numbered mid next = numbered first next := by
  rw [numbered, numbered, ← List.map_append, between_append hfirst hnext, numbered]

end Between

/-!
# The client

Passing an event on from the buffer counts it, and a confirmation starts to read what has
been missed.
-/

section Client

variable {b : Base Child} {settings : CatchupSubscriptionSettings} {s : CatchupState}

def historyRead (slice : StreamEventsSlice) (s : CatchupState) : CatchupState :=
  Buffered.setCursor (fun n : Int => n + slice.events.length)
    ((s.takeRead 0).passOn (sliceEvents slice))

theorem step_history (key : Guid) (settings : CatchupSubscriptionSettings) {r : Read Int}
    (hreads : s.reads = [r]) (hhistory : r.handler = ReadHandler.history)
    (slice : StreamEventsSlice) :
    Subscription.step (Catchup.subscription key User.passive settings) s
        (Subscription.Input.readCompleted 0 (Except.ok slice)) =
      some (if slice.isEndOfStream then Buffered.doAsyncStart (historyRead slice s)
        else asyncStart settings (historyRead slice s)) := by
  apply step_readCompleted hreads
  exact onRead_history_quiet (b := Catchup.base key User.passive) (s := s.takeRead 0)
    settings hhistory (unsubscribesAt_passive _ _)

theorem historyRead_reads {r : Read Int} (hreads : s.reads = [r])
    (slice : StreamEventsSlice) : (historyRead slice s).reads = [] :=
  takeRead_reads hreads

theorem appeared_historyRead (slice : StreamEventsSlice) (s : CatchupState) :
    appeared (historyRead slice s) = appeared s ++ sliceEvents slice :=
  appeared_passOn (sliceEvents slice) (s.takeRead 0)

theorem asyncStart_reads (hreads : s.reads = []) :
    (asyncStart settings s).reads =
      [{ fromPosition := currentEventNumber s
         maxCount := Int32.ofInt settings.readBatchSize.toInt
         handler := ReadHandler.history }] := by
  rw [asyncStart, Buffered.catchUpEvents, State.startRead, hreads, List.nil_append]

def counted (n : Int) (_ : Resolved) : Int := n + 1

theorem deliver_run (hpassive : b.user = User.passive) (e : Resolved) (s : CatchupState) :
    (deliver b e).runOn s =
      (Except.ok (),
        Buffered.delivered counted [e] s.child.eventBuffer.popFront s) := by
  simp only [deliver, Handler.runOn_bind, eventAppeared_passive hpassive,
    Handler.runOn_modify]
  rfl

theorem onConfirmation_run (b : Base Child) (settings : CatchupSubscriptionSettings)
    (lastCommitPosition : Option Int) (lastEventNumber : Int) :
    (onPackageReceived b settings (ServerMessage.subscriptionConfirmation
        { lastCommitPosition := lastCommitPosition
          lastEventNumber := some lastEventNumber })).runOn s =
      (Except.ok true,
        let confirmed := confirm lastCommitPosition (some lastEventNumber) s
        if currentEventNumber s < lastEventNumber then
          catchUpMissedEvents (lastEventNumber - currentEventNumber s) confirmed
        else confirmed) := by
  have hcurrent : currentEventNumber (confirm lastCommitPosition (some lastEventNumber) s) =
      currentEventNumber s := rfl
  simp only [onPackageReceived, Handler.runOn_bind, Handler.runOn_modify, Handler.runOn_get,
    hcurrent]
  split
  · simp [Except.map]
  · rfl

theorem confirmed_run (b : Base Child) (settings : CatchupSubscriptionSettings)
    (lastCommitPosition : Int) {lastEventNumber : Int}
    (hread : ¬ currentEventNumber s < lastEventNumber) :
    (onPackageReceived b settings (ServerMessage.subscriptionConfirmation
        { lastCommitPosition := some lastCommitPosition
          lastEventNumber := some lastEventNumber })).runOn s =
      (Except.ok true, confirm (some lastCommitPosition) (some lastEventNumber) s) := by
  rw [onConfirmation_run]
  simp only [if_neg hread]

/-- A live event that finds nothing missed and the buffer empty is passed on at once. -/
theorem appeared_run (hpassive : b.user = User.passive)
    (hlive : 1 ≤ settings.maxLiveQueueSize.toInt) {event : ResolvedEvent}
    (hevent : event.event.isSome = true) {last : Int} (hlast : s.lastEventNumber = some last)
    (hread : ¬ currentEventNumber s < last) (hbuffer : s.child.eventBuffer.Represents []) :
    exists q : BufferQueue Resolved 25, q.Represents [] ∧
      (onPackageReceived b settings
          (ServerMessage.streamEventAppeared { event := some event })).runOn s =
        (Except.ok true,
          Buffered.delivered counted [Resolved.ofResolvedEvent event] q s) := by
  obtain ⟨record, hrecord⟩ : exists record,
      (Resolved.ofResolvedEvent event).event = some record :=
    Option.isSome_iff_exists.mp hevent
  obtain ⟨held, hheld⟩ : exists held,
      held = Buffered.emplaceBack (Resolved.ofResolvedEvent event) s := ⟨_, rfl⟩
  have hone : held.child.eventBuffer.Represents [Resolved.ofResolvedEvent event] := by
    rw [hheld]
    exact hbuffer.emplaceBack (by decide) (Resolved.ofResolvedEvent event)
  have hlast' : held.lastEventNumber = some last := by
    rw [hheld]
    exact hlast
  have hread' : ¬ currentEventNumber held < last := by
    rw [hheld]
    exact hread
  obtain ⟨n, hn⟩ : exists n, settings.maxLiveQueueSize.toInt.toNat = n + 1 :=
    Nat.exists_eq_add_of_le' (by omega)
  obtain ⟨q, hq, hrun⟩ := Buffered.readSubscriptionEvents_run
    (fun e s' _ => deliver_run hpassive e s') hone hn
  refine ⟨q, by simpa using hq, ?_⟩
  simp only [onPackageReceived, Resolved.ofStreamEventAppeared, Option.getD_some,
    Handler.runOn_bind, Handler.runOn_modify, ← hheld, Buffered.front, Handler.runOn_get,
    hone.front_eq, Handler.runOn_pure, value, hrecord, hlast', if_neg hread',
    hone.size_eq, List.length_singleton, if_true, readSubscriptionEvents, hrun]
  simp [hheld, Buffered.delivered, Buffered.emplaceBack, State.setChild, State.passOn]

end Client

/-!
# The phases of a run

The client reads the history, waits for the confirmation, or is attached and reads no
more; the events from the current one on have not been handled.
-/

/-- The client has passed on the events up to its current number, and its guard is not
locked. -/
structure PassedOn (first current : Nat) (s : System) : Prop where
  unlocked : s.client.handleGuard = false
  unasked : s.client.unsubscribing = false
  cursor_eq : s.client.child.cursor = (current : Int)
  first_le : first ≤ current
  le_length : current ≤ s.length
  numbers_eq : numbers s = numbered first current

/-- The client has one read of the history under way, which may have been answered. -/
structure History (stream : EventStream) (current : Nat) (s : System) : Prop where
  unregistered : s.client.registered = false
  sent_eq : s.client.sent = []
  reads_eq : exists r, s.client.reads = [r] ∧ r.handler = ReadHandler.history ∧
    r.fromPosition = (current : Int)
  posted_eq : s.client.posted = []
  buffer : s.client.child.eventBuffer.Represents []
  reply_eq : forall slice, s.reply = some slice -> exists next, current ≤ next ∧
    next ≤ s.length ∧ slice.events = (between current next).map stream.indexed
  unsubscribed : s.subscribedAt = none
  outbox_eq : s.outbox = []

structure Attached (s : System) : Prop where
  registered : s.client.registered = true
  reads_eq : s.client.reads = []
  reply_eq : s.reply = none

structure Requested (s : System) : Prop where
  attached : Attached s
  sent : Request.subscribeToStream ∈ s.client.sent
  posted_eq : s.client.posted = []
  buffer : s.client.child.eventBuffer.Represents []
  unsubscribed : s.subscribedAt = none
  outbox_eq : s.outbox = []

def pushes (stream : EventStream) (first next : Nat) : List ServerMessage :=
  (between first next).map stream.push

structure Confirming (stream : EventStream) (current : Nat) (s : System) : Prop where
  attached : Attached s
  posted_eq : s.client.posted = []
  buffer : s.client.child.eventBuffer.Represents []
  outbox_eq : exists lastCommitPosition n, s.subscribedAt = some n ∧ current ≤ n ∧
    n ≤ s.length ∧ s.outbox = confirmation lastCommitPosition n :: pushes stream n s.length

structure Live (stream : EventStream) (current : Nat) (s : System) : Prop where
  attached : Attached s
  subscribed : s.subscribedAt.isSome = true
  confirmed : exists last, s.client.lastEventNumber = some last ∧ last < (current : Int)
  posted_eq : s.client.posted = []
  buffer : s.client.child.eventBuffer.Represents []
  outbox_eq : s.outbox = pushes stream current s.length

inductive Phase (stream : EventStream) (current : Nat) (s : System) : Prop where
  | history (h : History stream current s)
  | requested (h : Requested s)
  | confirming (h : Confirming stream current s)
  | live (h : Live stream current s)

def Delivering (stream : EventStream) (first : Nat) (s : System) : Prop :=
  exists current, PassedOn first current s ∧ Phase stream current s

section Phases

variable {stream : EventStream} {key : Guid} {settings : CatchupSubscriptionSettings}
  {first current : Nat} {s next : System}

theorem Delivering.deliversInOrder (h : Delivering stream first s) :
    DeliversInOrder first s := by
  rcases h with ⟨current, hpassed, hphase⟩
  refine ⟨⟨current, hpassed.first_le, hpassed.le_length, hpassed.numbers_eq⟩, ?_⟩
  intro hquiet
  cases hphase with
  | history h =>
      rcases h.reads_eq with ⟨r, hreads, _⟩
      rw [hquiet.reads_eq] at hreads
      cases hreads
  | requested h =>
      have hsubscribed := hquiet.subscribed h.sent
      rw [h.unsubscribed] at hsubscribed
      cases hsubscribed
  | confirming h =>
      rcases h.outbox_eq with ⟨_, _, _, _, _, houtbox⟩
      rw [hquiet.outbox_eq] at houtbox
      cases houtbox
  | live h =>
      have houtbox := h.outbox_eq
      rw [hquiet.outbox_eq] at houtbox
      have hpushed : s.length ≤ current :=
        between_eq_nil_iff.mp (List.map_eq_nil_iff.mp houtbox.symm)
      rw [hpassed.numbers_eq, Nat.le_antisymm hpushed hpassed.le_length]

theorem numbers_passOn {s : System} {client : CatchupState} {events : List Resolved}
    (happeared : appeared client = appeared s.client ++ events)
    (hnumbers : numbers s = numbered first current) {next : Nat}
    (hfirst : first ≤ current) (hnext : current ≤ next)
    (hevents : events.map originalEventNumber = numbered current next) :
    numbers { s with client := client } = numbered first next := by
  rw [numbers, happeared, List.map_append, hevents]
  unfold numbers at hnumbers
  rw [hnumbers, numbered_append hfirst hnext]

theorem map_indexed (first next : Nat) :
    (((between first next).map stream.indexed).map Resolved.ofResolvedIndexedEvent).map
      originalEventNumber = numbered first next := by
  rw [List.map_map, List.map_map, numbered]
  exact List.map_congr_left fun n _ => stream.indexed_number n

theorem initial_delivering {length : Nat} (hlength : first ≤ length) :
    Delivering stream first (initial settings first length) := by
  refine ⟨first, ⟨rfl, rfl, rfl, le_rfl, hlength, ?_⟩, Phase.history ?_⟩
  · rw [numbered, between_self]
    rfl
  · exact
      { unregistered := rfl
        sent_eq := rfl
        reads_eq := ⟨_, rfl, rfl, rfl⟩
        posted_eq := rfl
        buffer := BufferQueue.represents_new
        reply_eq := fun _ hreply => by cases hreply
        unsubscribed := rfl
        outbox_eq := rfl }

/-!
# Steps

One lemma for each step of the client and of the server.  Two events appended before the
confirmation are the counterexample: the first of them is never passed on.
-/

theorem PassedOn.server (h : PassedOn first current s) (hclient : next.client = s.client)
    (hlength : s.length ≤ next.length) : PassedOn first current next := by
  constructor
  · rw [hclient]
    exact h.unlocked
  · rw [hclient]
    exact h.unasked
  · rw [hclient]
    exact h.cursor_eq
  · exact h.first_le
  · exact h.le_length.trans hlength
  · rw [numbers, hclient]
    exact h.numbers_eq

theorem pushes_succ {last : Nat} (h : first ≤ last) :
    pushes stream first (last + 1) = pushes stream first last ++ [stream.push last] := by
  rw [pushes, between_succ h, List.map_append, List.map_singleton, pushes]

theorem Attached.step_answer (h : Attached s) (count : Nat) (isEndOfStream : Bool) :
    CatchupDelivery.step stream key settings s (Input.answer count isEndOfStream) = none := by
  simp only [CatchupDelivery.step, h.reads_eq]

theorem Attached.step_readCompleted (h : Attached s) :
    CatchupDelivery.step stream key settings s Input.readCompleted = none := by
  rw [CatchupDelivery.step, h.reply_eq, Option.bind_none]

theorem step_posted (hposted : s.client.posted = []) :
    CatchupDelivery.step stream key settings s Input.posted = none := by
  rw [CatchupDelivery.step, clientStep, Subscription.step, hposted]
  rfl

theorem step_received_nil (houtbox : s.outbox = []) :
    CatchupDelivery.step stream key settings s Input.received = none := by
  rw [CatchupDelivery.step, houtbox]

theorem step_subscribe_subscribed (hsubscribed : s.subscribedAt.isSome = true)
    (lastCommitPosition : Int) :
    CatchupDelivery.step stream key settings s (Input.subscribe lastCommitPosition) =
      none := by
  rw [CatchupDelivery.step, if_neg]
  rintro ⟨_, hnone⟩
  rw [hnone] at hsubscribed
  cases hsubscribed

theorem History.readCompleted (hpassed : PassedOn first current s)
    (h : History stream current s) {slice : StreamEventsSlice} (hreply : s.reply = some slice)
    (hstep : clientStep key settings { s with reply := none }
      (Subscription.Input.readCompleted 0 (Except.ok slice)) = some next) :
    Delivering stream first next := by
  rcases h.reads_eq with ⟨r, hreads, hhistory, _⟩
  rcases h.reply_eq slice hreply with ⟨last, hcurrent, hlast, hevents⟩
  have hreads' := historyRead_reads hreads slice
  have hcursor : currentEventNumber (historyRead slice s.client) = (last : Int) := by
    show s.client.child.cursor + (slice.events.length : Int) = _
    rw [hpassed.cursor_eq, hevents, List.length_map, length_between]
    omega
  have happeared := appeared_historyRead slice s.client
  have hnumbers : (sliceEvents slice).map originalEventNumber = numbered current last := by
    rw [sliceEvents, hevents, map_indexed]
  have hnext := step_map hstep (step_history key settings hreads hhistory slice)
  cases hend : slice.isEndOfStream with
  | true =>
      rw [hend, if_pos rfl] at hnext
      subst hnext
      refine ⟨last,
        { unlocked := rfl
          unasked := hpassed.unasked
          cursor_eq := hcursor
          first_le := hpassed.first_le.trans hcurrent
          le_length := hlast
          numbers_eq := numbers_passOn happeared hpassed.numbers_eq hpassed.first_le
            hcurrent hnumbers },
        Phase.requested
          { attached := ⟨rfl, hreads', rfl⟩
            sent := List.mem_append_right _ (List.mem_singleton.mpr rfl)
            posted_eq := h.posted_eq
            buffer := h.buffer
            unsubscribed := h.unsubscribed
            outbox_eq := h.outbox_eq }⟩
  | false =>
      rw [hend, if_neg Bool.false_ne_true] at hnext
      subst hnext
      refine ⟨last,
        { unlocked := hpassed.unlocked
          unasked := hpassed.unasked
          cursor_eq := hcursor
          first_le := hpassed.first_le.trans hcurrent
          le_length := hlast
          numbers_eq := numbers_passOn happeared hpassed.numbers_eq hpassed.first_le
            hcurrent hnumbers },
        Phase.history
          { unregistered := h.unregistered
            sent_eq := h.sent_eq
            reads_eq := ⟨_, asyncStart_reads hreads', rfl, hcursor⟩
            posted_eq := h.posted_eq
            buffer := h.buffer
            reply_eq := fun _ hnone => by cases hnone
            unsubscribed := h.unsubscribed
            outbox_eq := h.outbox_eq }⟩

theorem History.step (hpassed : PassedOn first current s) (h : History stream current s)
    {i : Input} (hstep : CatchupDelivery.step stream key settings s i = some next) :
    Delivering stream first next := by
  cases i with
  | append =>
      cases hstep
      refine ⟨current, hpassed.server rfl (Nat.le_succ _), Phase.history
        { h with
          reply_eq := ?_
          outbox_eq := ?_ }⟩
      · intro slice hreply
        rcases h.reply_eq slice hreply with ⟨last, hcurrent, hlast, hevents⟩
        exact ⟨last, hcurrent, Nat.le_succ_of_le hlast, hevents⟩
      · show (if s.subscribedAt.isSome then _ else _) = []
        rw [h.unsubscribed]
        exact h.outbox_eq
  | answer count isEndOfStream =>
      rcases h.reads_eq with ⟨r, hreads, hhistory, hfrom⟩
      simp only [CatchupDelivery.step, hreads] at hstep
      split at hstep
      · split at hstep
        · rename_i hr _ hanswers
          cases hr
          cases hstep
          refine ⟨current, hpassed.server rfl le_rfl, Phase.history { h with reply_eq := ?_ }⟩
          intro slice hreply
          cases hreply
          rcases hanswers with ⟨_, _, hexisting, _, _⟩
          have hstart : r.fromPosition.toNat = current := by
            rw [hfrom, Int.toNat_natCast]
          have hcurrent := hpassed.le_length
          rw [hstart] at hexisting
          have hlast : current + count ≤ s.length := by omega
          refine ⟨current + count, Nat.le_add_right _ _, hlast, ?_⟩
          rw [EventStream.slice, hstart, between, Nat.add_sub_cancel_left]
        · cases hstep
      · cases hstep
  | readCompleted =>
      rw [CatchupDelivery.step, Option.bind_eq_some_iff] at hstep
      rcases hstep with ⟨slice, hreply, hstep⟩
      exact h.readCompleted hpassed hreply hstep
  | subscribe lastCommitPosition =>
      rw [CatchupDelivery.step, h.sent_eq, if_neg (by simp)] at hstep
      cases hstep
  | received =>
      rw [step_received_nil h.outbox_eq] at hstep
      cases hstep
  | posted =>
      rw [step_posted h.posted_eq] at hstep
      cases hstep

theorem Requested.step (hpassed : PassedOn first current s) (h : Requested s) {i : Input}
    (hstep : CatchupDelivery.step stream key settings s i = some next) :
    Delivering stream first next := by
  cases i with
  | append =>
      cases hstep
      refine ⟨current, hpassed.server rfl (Nat.le_succ _), Phase.requested
        { h with
          attached := ⟨h.attached.registered, h.attached.reads_eq, h.attached.reply_eq⟩
          outbox_eq := ?_ }⟩
      show (if s.subscribedAt.isSome then _ else _) = []
      rw [h.unsubscribed]
      exact h.outbox_eq
  | answer count isEndOfStream =>
      rw [h.attached.step_answer] at hstep
      cases hstep
  | readCompleted =>
      rw [h.attached.step_readCompleted] at hstep
      cases hstep
  | subscribe lastCommitPosition =>
      rw [CatchupDelivery.step, if_pos ⟨h.sent, h.unsubscribed⟩] at hstep
      cases hstep
      refine ⟨current, hpassed.server rfl le_rfl, Phase.confirming
        { attached := ⟨h.attached.registered, h.attached.reads_eq, h.attached.reply_eq⟩
          posted_eq := h.posted_eq
          buffer := h.buffer
          outbox_eq := ⟨lastCommitPosition, s.length, rfl, hpassed.le_length, le_rfl, ?_⟩ }⟩
      rw [pushes, between_self, List.map_nil]
  | received =>
      rw [step_received_nil h.outbox_eq] at hstep
      cases hstep
  | posted =>
      rw [step_posted h.posted_eq] at hstep
      cases hstep

theorem Confirming.received (hpassed : PassedOn first current s)
    (h : Confirming stream current s)
    (hmissed : s.outbox.head?.any (ConfirmsMissed (currentEventNumber s.client)) = false)
    (hstep : CatchupDelivery.step stream key settings s Input.received = some next) :
    Delivering stream first next := by
  rcases h.outbox_eq with ⟨lastCommitPosition, n, hsubscribed, hcurrent, hn, houtbox⟩
  have hcursor : currentEventNumber s.client = (current : Int) := hpassed.cursor_eq
  have hlast : (n : Int) - 1 < (current : Int) := by
    rw [houtbox, hcursor] at hmissed
    exact Int.not_le.mp (of_decide_eq_false hmissed)
  have hrun := confirmed_run (Catchup.base key User.passive) settings lastCommitPosition
    (show ¬ currentEventNumber s.client < (n : Int) - 1 by rw [hcursor]; omega)
  simp only [CatchupDelivery.step, houtbox] at hstep
  obtain rfl := received_map hstep hpassed.unasked h.attached.registered hpassed.unlocked hrun
  refine ⟨current, ⟨hpassed.unlocked, hpassed.unasked, hpassed.cursor_eq, hpassed.first_le,
    hpassed.le_length, hpassed.numbers_eq⟩, Phase.live
    { attached := ⟨h.attached.registered, h.attached.reads_eq, h.attached.reply_eq⟩
      subscribed := by
        show s.subscribedAt.isSome = true
        rw [hsubscribed]
        rfl
      confirmed := ⟨(n : Int) - 1, rfl, hlast⟩
      posted_eq := h.posted_eq
      buffer := h.buffer
      outbox_eq := ?_ }⟩
  rw [show current = n by omega]

theorem Live.received (hpassed : PassedOn first current s) (h : Live stream current s)
    (hlive : 1 ≤ settings.maxLiveQueueSize.toInt)
    (hstep : CatchupDelivery.step stream key settings s Input.received = some next) :
    Delivering stream first next := by
  rcases h.confirmed with ⟨last, hlast, hread⟩
  have houtbox := h.outbox_eq
  have hread' : ¬ currentEventNumber s.client < last := by
    have hcursor : currentEventNumber s.client = (current : Int) := hpassed.cursor_eq
    omega
  by_cases hpushed : current < s.length
  · rw [pushes, between_cons hpushed, List.map_cons] at houtbox
    simp only [CatchupDelivery.step, houtbox] at hstep
    obtain ⟨q, hq, hrun⟩ := appeared_run (b := Catchup.base key User.passive) rfl hlive
      (stream.pushed_event current) hlast hread' h.buffer
    obtain rfl := received_map hstep hpassed.unasked h.attached.registered hpassed.unlocked hrun
    refine ⟨current + 1,
      { unlocked := hpassed.unlocked
        unasked := hpassed.unasked
        cursor_eq := ?_
        first_le := Nat.le_succ_of_le hpassed.first_le
        le_length := hpushed
        numbers_eq := numbers_passOn (appeared_passOn _ s.client) hpassed.numbers_eq
          hpassed.first_le (Nat.le_succ current) ?_ },
      Phase.live
        { attached := ⟨h.attached.registered, h.attached.reads_eq, h.attached.reply_eq⟩
          subscribed := h.subscribed
          confirmed := ⟨last, hlast, by omega⟩
          posted_eq := h.posted_eq
          buffer := hq
          outbox_eq := rfl }⟩
    · show s.client.child.cursor + 1 = _
      rw [hpassed.cursor_eq, Int.natCast_add, Int.natCast_one]
    · rw [List.map_singleton, stream.pushed_number, numbered,
        between_cons (Nat.lt_succ_self current), between_self, List.map_singleton]
  · have hnone : s.outbox = [] := by
      rw [houtbox, pushes, between_eq_nil_iff.mpr (by omega), List.map_nil]
    rw [step_received_nil hnone] at hstep
    cases hstep

theorem Live.step (hpassed : PassedOn first current s) (h : Live stream current s)
    (hlive : 1 ≤ settings.maxLiveQueueSize.toInt) {i : Input}
    (hstep : CatchupDelivery.step stream key settings s i = some next) :
    Delivering stream first next := by
  cases i with
  | append =>
      cases hstep
      refine ⟨current, hpassed.server rfl (Nat.le_succ _), Phase.live
        { h with
          attached := ⟨h.attached.registered, h.attached.reads_eq, h.attached.reply_eq⟩
          outbox_eq := ?_ }⟩
      show (if s.subscribedAt.isSome then _ else _) = pushes stream current (s.length + 1)
      rw [if_pos h.subscribed, h.outbox_eq, pushes_succ hpassed.le_length]
  | answer count isEndOfStream =>
      rw [h.attached.step_answer] at hstep
      cases hstep
  | readCompleted =>
      rw [h.attached.step_readCompleted] at hstep
      cases hstep
  | subscribe lastCommitPosition =>
      rw [step_subscribe_subscribed h.subscribed] at hstep
      cases hstep
  | received => exact h.received hpassed hlive hstep
  | posted =>
      rw [step_posted h.posted_eq] at hstep
      cases hstep

theorem Confirming.step (hpassed : PassedOn first current s)
    (h : Confirming stream current s) {i : Input} (hok : NothingMissed s i)
    (hstep : CatchupDelivery.step stream key settings s i = some next) :
    Delivering stream first next := by
  rcases h.outbox_eq with ⟨lastCommitPosition, n, hsubscribed, hcurrent, hn, houtbox⟩
  cases i with
  | append =>
      cases hstep
      refine ⟨current, hpassed.server rfl (Nat.le_succ _), Phase.confirming
        { attached := ⟨h.attached.registered, h.attached.reads_eq, h.attached.reply_eq⟩
          posted_eq := h.posted_eq
          buffer := h.buffer
          outbox_eq := ⟨lastCommitPosition, n, hsubscribed, hcurrent, Nat.le_succ_of_le hn,
            ?_⟩ }⟩
      show (if s.subscribedAt.isSome then _ else _) = _ :: pushes stream n (s.length + 1)
      rw [hsubscribed, houtbox, pushes_succ hn]
      rfl
  | answer count isEndOfStream =>
      rw [h.attached.step_answer] at hstep
      cases hstep
  | readCompleted =>
      rw [h.attached.step_readCompleted] at hstep
      cases hstep
  | subscribe lastCommitPosition' =>
      rw [step_subscribe_subscribed (Option.isSome_iff_exists.mpr ⟨n, hsubscribed⟩)] at hstep
      cases hstep
  | received => exact h.received hpassed hok hstep
  | posted =>
      rw [step_posted h.posted_eq] at hstep
      cases hstep

theorem step_delivering (hlive : 1 ≤ settings.maxLiveQueueSize.toInt) {i : Input}
    (h : Delivering stream first s) (hok : NothingMissed s i)
    (hstep : CatchupDelivery.step stream key settings s i = some next) :
    Delivering stream first next := by
  rcases h with ⟨current, hpassed, hphase⟩
  cases hphase with
  | history h => exact h.step hpassed hstep
  | requested h => exact h.step hpassed hstep
  | confirming h => exact h.step hpassed hok hstep
  | live h => exact h.step hpassed hlive hstep

end Phases

/-- In a run in which nothing was missed when the subscription was confirmed, the stream is
passed on in order and once, and all of it in the end. -/
theorem run_deliversInOrder (stream : EventStream) (key : Guid)
    (settings : CatchupSubscriptionSettings) {first length : Nat} (hfirst : first ≤ length)
    (hlive : 1 ≤ settings.maxLiveQueueSize.toInt) {inputs : List Input} {last : System}
    (hok : EveryStep (step stream key settings) NothingMissed
      (initial settings first length) inputs)
    (hrun : run (step stream key settings) (initial settings first length) inputs =
      some last) : DeliversInOrder first last :=
  (run_invariant (fun h hi hstep => step_delivering hlive h hi hstep)
    (initial_delivering hfirst) hok hrun).deliversInOrder

def plainStream : EventStream :=
  { indexed := fun n => { event := some (recordedEvent n), link := none }
    pushed := fun n =>
      { event := some (recordedEvent n)
        link := none
        commitPosition := some n
        preparePosition := some n }
    indexed_number := fun _ => rfl
    pushed_number := fun _ => rfl
    pushed_event := fun _ => rfl }

/-- Two slices of the history, an append before the second is read, and two appends once the
subscription has taken effect. -/
def appendedLater : List Input :=
  [Input.answer 1 false, Input.readCompleted, Input.append, Input.answer 2 true,
    Input.readCompleted, Input.subscribe 0, Input.append, Input.received, Input.append,
    Input.received, Input.received]

theorem appendedLater_deliversInOrder :
    exists last, run (step plainStream (Guid.ofByte 1) CatchupSubscriptionSettings.built)
        (initial CatchupSubscriptionSettings.built 0 2) appendedLater = some last ∧
      DeliversInOrder 0 last := by
  obtain ⟨last, hlast⟩ : exists last,
      run (step plainStream (Guid.ofByte 1) CatchupSubscriptionSettings.built)
        (initial CatchupSubscriptionSettings.built 0 2) appendedLater = some last :=
    Option.isSome_iff_exists.mp (by decide +kernel)
  exact ⟨last, hlast, run_deliversInOrder plainStream (Guid.ofByte 1)
    CatchupSubscriptionSettings.built (by decide) (by decide) (by decide +kernel) hlast⟩

/-- An event is appended between the last read of the history and the subscription, and
another one after it. -/
def appendedBefore : List Input :=
  [Input.answer 1 true, Input.readCompleted, Input.append, Input.subscribe 0, Input.received,
    Input.append, Input.received]

theorem appendedBefore_loses :
    exists last, run (step plainStream (Guid.ofByte 1) CatchupSubscriptionSettings.built)
        (initial CatchupSubscriptionSettings.built 0 1) appendedBefore = some last ∧
      ¬ DeliversInOrder 0 last := by
  obtain ⟨last, hlast⟩ : exists last,
      run (step plainStream (Guid.ofByte 1) CatchupSubscriptionSettings.built)
        (initial CatchupSubscriptionSettings.built 0 1) appendedBefore = some last :=
    Option.isSome_iff_exists.mp (by decide +kernel)
  refine ⟨last, hlast, ?_⟩
  intro h
  have hnumbers : (run (step plainStream (Guid.ofByte 1) CatchupSubscriptionSettings.built)
      (initial CatchupSubscriptionSettings.built 0 1) appendedBefore).map numbers =
        some [some 0, some 2] := by
    decide +kernel
  rw [hlast, Option.map_some, Option.some_inj] at hnumbers
  rcases h.in_order with ⟨next, _, _, hinorder⟩
  rw [hnumbers] at hinorder
  have hlength := congrArg List.length hinorder
  rw [numbered, List.length_map, length_between] at hlength
  obtain rfl : next = 2 := by
    simpa using hlength.symm
  exact absurd hinorder (by decide)

end CatchupDelivery
end Subscription
end EventStoreClient
