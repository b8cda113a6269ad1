import EventStoreClient.Subscription.CatchupAllDelivery
import EventStoreClient.Subscription.Keeping

/-!
# Catching up on the log of all events

The reads of `catchup_all_subscription` that follow a confirmation which is ahead of the
current position.  Each starts at the last event of the one before, and they end only at an
event that is exactly at the position to catch up to.
-/

namespace EventStoreClient
namespace Subscription
namespace CatchupAllReading

open Buffer CatchupAll Connection Foundation Operations Wire
open CatchupAllDelivery (position push loggedEvent origin)

/-!
# The server

A slice has the first events of the log from a position on; what else it says is not
looked at.  The starts of all reads are recorded, the one under way included.
-/

def page (log : List ResolvedEvent) (start : Position) (count : Nat) : List ResolvedEvent :=
  (onward position start log).take count

def slice (log : List ResolvedEvent) (r : Read Position) (nextPosition : Position)
    (isEndOfStream : Bool) : AllEventsSlice :=
  { fromPosition := r.fromPosition
    nextPosition := nextPosition
    direction := ReadDirection.forward
    isEndOfStream := isEndOfStream
    events := page log r.fromPosition r.maxCount.toInt.toNat }

structure System where
  client : CatchupState
  log : List ResolvedEvent
  -- the starts of the reads that have been handled, oldest first
  rounds : List Position
  -- the events that they have read
  read : List ResolvedEvent

/-- What can happen: an event is appended, the client handles the slice that it waits for,
an event that comes after the position to catch up to appears, and the client runs a posted
closure. -/
inductive Input where
  | append (e : ResolvedEvent)
  | round (nextPosition : Position) (isEndOfStream : Bool)
  | appeared (e : ResolvedEvent)
  | posted

section System

variable (key : Guid) (settings : CatchupSubscriptionSettings) (target : Position)

def clientStep (s : System) (i : Subscription.Input AllEventsSlice) : Option System :=
  (Subscription.step (CatchupAll.subscription key User.passive settings) s.client i).map
    fun client => { s with client := client }

def handled (r : Read Position) (s : System) (client : CatchupState) : System :=
  { s with
    client := client
    rounds := s.rounds ++ [r.fromPosition]
    read := s.read ++ page s.log r.fromPosition r.maxCount.toInt.toNat }

def step (s : System) : Input -> Option System
  | Input.append e =>
      if target < position e ∧ forall e', e' ∈ s.log -> position e' < position e then
        some { s with log := s.log ++ [e] }
      else none
  | Input.round nextPosition isEndOfStream =>
      match s.client.reads with
      | [] => none
      | r :: _ =>
          (Subscription.step (CatchupAll.subscription key User.passive settings) s.client
            (Subscription.Input.readCompleted 0
              (Except.ok (slice s.log r nextPosition isEndOfStream)))).map (handled r s)
  | Input.appeared e =>
      if target < position e then
        clientStep key settings s (Subscription.Input.received (push e))
      else none
  | Input.posted => clientStep key settings s (Subscription.Input.posted 0)

def initial (log : List ResolvedEvent) (confirmed : CatchupState) : System :=
  { client := confirmed
    log := log
    rounds := []
    read := [] }

end System

def starts (s : System) : List Position :=
  s.rounds ++ s.client.reads.map Read.fromPosition

/-- The buffered events have been passed on, or the next step of this is posted. -/
def Drains (client : CatchupState) : Prop :=
  client.child.eventBuffer.empty = true ∨ Posted.readSubscriptionEvents ∈ client.posted

/-- What should hold in every state: each read starts later than the one before, there are no
more reads than events in the log and one, and once a read has been handled and every event
up to the position to catch up to has been read, the reads have ended and the buffered events
are passed on. -/
structure CatchesUp (first target : Position) (s : System) : Prop where
  later : (starts s).Pairwise fun earlier next => earlier < next
  finite : (starts s).length ≤ s.log.length + 1
  stops : s.rounds ≠ [] ->
    (forall e, e ∈ s.log -> first ≤ position e -> position e ≤ target -> e ∈ s.read) ->
      s.client.reads = [] ∧ Drains s.client

/-- An event is exactly at the position to catch up to, and either more than one event is
read at a time, or this is the first one to be read. -/
structure Catchable (settings : CatchupSubscriptionSettings) (log : List ResolvedEvent)
    (first target : Position) : Prop where
  exact : exists e, e ∈ log ∧ position e = target
  passes : 2 ≤ settings.readBatchSize.toInt ∨
    forall e, e ∈ log -> first ≤ position e -> target ≤ position e

def ReadsHistory (i : Subscription.Input AllEventsSlice) : Prop :=
  exists slice, i = Subscription.Input.readCompleted 0 (Except.ok slice)

def confirmedPosition (lastCommitPosition : Int) : Position :=
  { commitPosition := lastCommitPosition
    preparePosition := lastCommitPosition }

def confirmation (lastCommitPosition : Int) (lastEventNumber : Option Int) :
    Subscription.Input AllEventsSlice :=
  Subscription.Input.received (CatchupAllDelivery.confirmation lastCommitPosition lastEventNumber)

/-!
# The client

What the loop over a slice of missed events leaves.  The event at the position to catch up
to ends it, and is not passed on there.
-/

section Client

variable {b : Base Child} {settings : CatchupSubscriptionSettings} {s : CatchupState}

/-- The position of the last event, or the current one if there is none. -/
def lastRead (current : Position) (events : List ResolvedEvent) : Position :=
  events.foldl (fun _ e => position e) current

def missedRead (events : List ResolvedEvent) (s : CatchupState) : CatchupState :=
  setCurrentPosition (lastRead (currentPosition s) events)
    (s.passOn (events.map Resolved.ofResolvedEvent))

theorem appearMissed_cons_run (hpassive : b.user = User.passive) {e : ResolvedEvent}
    (he : position e ≠ positionToCatchUpTo s) (rest : List Resolved) :
    (appearMissed b (Resolved.ofResolvedEvent e :: rest)).runOn s =
      (appearMissed b rest).runOn (missedRead [e] s) := by
  have hnext : ¬ position e = positionToCatchUpTo (setCurrentPosition (position e) s) := he
  simp only [appearMissed, value, Resolved.ofResolvedEvent, Handler.runOn_bind,
    Handler.runOn_pure, Handler.runOn_modify, Handler.runOn_get]
  rw [show Position.mk (read e.commitPosition) (read e.preparePosition) = position e from rfl,
    if_neg hnext, Handler.runOn_bind, eventAppeared_passive hpassive]
  rfl

theorem appearMissed_passes (hpassive : b.user = User.passive) {events : List ResolvedEvent}
    (hevents : forall e, e ∈ events -> position e ≠ positionToCatchUpTo s) :
    (appearMissed b (events.map Resolved.ofResolvedEvent)).runOn s =
      (Except.ok true, missedRead events s) := by
  induction events generalizing s with
  | nil =>
      simp [appearMissed, missedRead, lastRead, setCurrentPosition, Buffered.setCursor,
        State.setChild, currentPosition]
  | cons e rest ih =>
      have hrest : forall e', e' ∈ rest ->
          position e' ≠ positionToCatchUpTo (missedRead [e] s) :=
        fun e' he' => hevents e' (List.mem_cons_of_mem e he')
      rw [List.map_cons, appearMissed_cons_run hpassive (hevents e List.mem_cons_self),
        ih hrest]
      simp [missedRead, setCurrentPosition, Buffered.setCursor, State.setChild, State.passOn,
        currentPosition, lastRead]

theorem appearMissed_stops (hpassive : b.user = User.passive) {events : List ResolvedEvent}
    {e : ResolvedEvent} (rest : List Resolved)
    (hevents : forall e', e' ∈ events -> position e' ≠ positionToCatchUpTo s)
    (he : position e = positionToCatchUpTo s) :
    (appearMissed b (events.map Resolved.ofResolvedEvent ++
        Resolved.ofResolvedEvent e :: rest)).runOn s =
      (Except.ok false, setCurrentPosition (position e) (missedRead events s)) := by
  induction events generalizing s with
  | nil =>
      have hstop : position e = positionToCatchUpTo (setCurrentPosition (position e) s) := he
      simp only [List.map_nil, List.nil_append, appearMissed, value, Resolved.ofResolvedEvent,
        Handler.runOn_bind, Handler.runOn_pure, Handler.runOn_modify, Handler.runOn_get]
      rw [show Position.mk (read e.commitPosition) (read e.preparePosition) = position e from
        rfl, if_pos hstop]
      simp [missedRead, setCurrentPosition, Buffered.setCursor, State.setChild]
  | cons e' rest' ih =>
      have hrest : forall e'', e'' ∈ rest' ->
          position e'' ≠ positionToCatchUpTo (missedRead [e'] s) :=
        fun e'' he'' => hevents e'' (List.mem_cons_of_mem e' he'')
      rw [List.map_cons, List.cons_append,
        appearMissed_cons_run hpassive (hevents e' List.mem_cons_self),
        ih hrest he]
      simp [missedRead, setCurrentPosition, Buffered.setCursor, State.setChild, State.passOn]

structure Attached (target : Position) (client : CatchupState) : Prop where
  unlocked : client.handleGuard = false
  registered : client.registered = true
  unasked : client.unsubscribing = false
  target_eq : positionToCatchUpTo client = target

def missing (settings : CatchupSubscriptionSettings) (s : CatchupState) : Read Position :=
  { fromPosition := currentPosition s
    maxCount := Int32.ofInt settings.readBatchSize.toInt
    handler := ReadHandler.missed settings.readBatchSize.toInt }

theorem catchUpMissedEvents_reads (hreads : s.reads = []) :
    (catchUpMissedEvents settings.readBatchSize.toInt s).reads = [missing settings s] := by
  rw [catchUpMissedEvents, Buffered.catchUpEvents, State.startRead, hreads, List.nil_append,
    missing]

theorem missing_count (settings : CatchupSubscriptionSettings) (s : CatchupState) :
    (missing settings s).maxCount.toInt = settings.readBatchSize.toInt := by
  simp [missing]

/-- No event of the slice is at the position to catch up to: the next slice is asked for. -/
theorem step_passes (key : Guid) (hreads : s.reads = [missing settings s])
    {slice : AllEventsSlice}
    (hevents : forall e, e ∈ slice.events -> position e ≠ positionToCatchUpTo s) :
    Subscription.step (CatchupAll.subscription key User.passive settings) s
        (Subscription.Input.readCompleted 0 (Except.ok slice)) =
      some (catchUpMissedEvents settings.readBatchSize.toInt
        (missedRead slice.events (s.takeRead 0))) := by
  have hrun : (onRead (CatchupAll.base key User.passive) settings (missing settings s)
      (Except.ok slice)).runOn (s.takeRead 0) =
        (Except.ok (), catchUpMissedEvents settings.readBatchSize.toInt
          (missedRead slice.events (s.takeRead 0))) := by
    simp only [onRead, missing, sliceEvents, Handler.runOn_bind]
    rw [appearMissed_passes rfl (s := s.takeRead 0) hevents]
    rfl
  exact step_readCompleted hreads hrun

/-- The state once the missed events have been passed on, and the position to catch up to
has been found. -/
def caughtUp (events : List ResolvedEvent) (s : CatchupState) : CatchupState :=
  setCurrentPosition (positionToCatchUpTo s) (missedRead events (s.takeRead 0))

theorem caughtUp_position (events : List ResolvedEvent) (s : CatchupState) :
    currentPosition (caughtUp events s) = positionToCatchUpTo s := rfl

/-- An event of the slice is at the position to catch up to: the buffer is read. -/
theorem step_stops (key : Guid) (hreads : s.reads = [missing settings s])
    {slice : AllEventsSlice} {before rest waiting : List ResolvedEvent} {e : ResolvedEvent}
    (hslice : slice.events = before ++ e :: rest)
    (hbefore : forall e', e' ∈ before -> position e' ≠ positionToCatchUpTo s)
    (he : position e = positionToCatchUpTo s)
    (hbuffer : s.child.eventBuffer.Represents (waiting.map Resolved.ofResolvedEvent)) :
    exists n, exists q : BufferQueue Resolved 25,
      q.Represents ((waiting.drop n).map Resolved.ofResolvedEvent) ∧
        Subscription.step (CatchupAll.subscription key User.passive settings) s
            (Subscription.Input.readCompleted 0 (Except.ok slice)) =
          some (CatchupAllDelivery.readOn (waiting.take n) (waiting.drop n) q
            (caughtUp before s)) := by
  have hheld : (caughtUp before s).child.eventBuffer.Represents
      (waiting.map Resolved.ofResolvedEvent) := hbuffer
  rcases CatchupAllDelivery.readSubscriptionEvents_run
    (b := CatchupAll.base key User.passive) rfl settings hheld with ⟨n, q, hq, hread⟩
  refine ⟨n, q, hq, ?_⟩
  have hevents : sliceEvents slice = before.map Resolved.ofResolvedEvent ++
      Resolved.ofResolvedEvent e :: rest.map Resolved.ofResolvedEvent := by
    rw [sliceEvents, hslice, List.map_append, List.map_cons]
  have hrun : (onRead (CatchupAll.base key User.passive) settings (missing settings s)
      (Except.ok slice)).runOn (s.takeRead 0) =
        (Except.ok (), CatchupAllDelivery.readOn (waiting.take n) (waiting.drop n) q
          (caughtUp before s)) := by
    simp only [onRead, missing, Handler.runOn_bind]
    rw [hevents, appearMissed_stops rfl (s := s.takeRead 0) _ hbefore he, he]
    exact hread
  exact step_readCompleted hreads hrun

end Client

/-!
# Pages

Two events are enough for the next read to start later.
-/

section Pages

variable {log : List ResolvedEvent} {first start target : Position} {count : Nat}
  {settings : CatchupSubscriptionSettings}

theorem lastRead_concat (current : Position) (events : List ResolvedEvent)
    (e : ResolvedEvent) : lastRead current (events ++ [e]) = position e := by
  rw [lastRead, List.foldl_append, List.foldl_cons, List.foldl_nil]

theorem mem_page {e : ResolvedEvent} (he : e ∈ page log start count) :
    e ∈ log ∧ start ≤ position e :=
  mem_onward.mp (List.mem_of_mem_take he)

theorem page_sorted (hsorted : SortedLog position log) (start : Position) (count : Nat) :
    SortedLog position (page log start count) :=
  List.Pairwise.take (hsorted.onward_sorted start)

theorem lastRead_later (hsorted : SortedLog position log)
    (htwo : 2 ≤ (page log start count).length) :
    exists e, e ∈ page log start count ∧ lastRead start (page log start count) = position e ∧
      start < position e := by
  obtain ⟨init, last, hpage⟩ : exists init last, page log start count = init ++ [last] := by
    rcases List.eq_nil_or_concat (page log start count) with hnil | ⟨init, last, hpage⟩
    · rw [hnil] at htwo
      cases htwo
    · exact ⟨init, last, hpage.trans List.concat_eq_append⟩
  obtain ⟨e, he⟩ : exists e, e ∈ init := by
    apply List.exists_mem_of_length_pos
    rw [hpage, List.length_append, List.length_singleton] at htwo
    omega
  have hsplit := page_sorted hsorted start count
  rw [hpage, SortedLog, List.pairwise_append] at hsplit
  have hstart : start ≤ position e := by
    have hmem : e ∈ page log start count := by
      rw [hpage]
      exact List.mem_append_left _ he
    exact (mem_page hmem).right
  rw [hpage]
  exact ⟨last, List.mem_append_right _ List.mem_cons_self, lastRead_concat start init last,
    lt_of_le_of_lt hstart (hsplit.right.right e he last List.mem_cons_self)⟩

/-- While the position to catch up to is not found the next read starts later. -/
theorem Catchable.advances (h : Catchable settings log first target)
    (hsorted : SortedLog position log) (hfirst : first ≤ start) (hbehind : start < target)
    (hcount : count = settings.readBatchSize.toInt.toNat)
    (hbatch : 1 ≤ settings.readBatchSize.toInt)
    (hnone : forall e, e ∈ page log start count -> position e ≠ target) :
    (forall e, e ∈ page log start count -> position e < target) ∧
      exists e, e ∈ page log start count ∧
        lastRead start (page log start count) = position e ∧ start < position e := by
  rcases h.exact with ⟨found, hfound, rfl⟩
  have hbefore := hsorted.take_before hfound (le_of_lt hbehind)
    (fun hmem => hnone found hmem rfl)
  constructor
  · exact hbefore.left
  · rcases h.passes with htwo | honly
    · apply lastRead_later hsorted
      rw [page, hbefore.right]
      omega
    · have hlength : 0 < (page log start count).length := by
        rw [page, hbefore.right]
        omega
      rcases List.exists_mem_of_length_pos hlength with ⟨e, he⟩
      rcases mem_page he with ⟨hlog, hstart⟩
      exact absurd (hbefore.left e he) (not_lt_of_ge (honly e hlog (hfirst.trans hstart)))

theorem page_split (hsorted : SortedLog position log)
    {e : ResolvedEvent} (he : e ∈ page log start count) :
    exists before rest, page log start count = before ++ e :: rest ∧
      forall e', e' ∈ before -> position e' ≠ position e := by
  rcases List.append_of_mem he with ⟨before, rest, hpage⟩
  refine ⟨before, rest, hpage, ?_⟩
  have hsplit := page_sorted hsorted start count
  rw [hpage, SortedLog, List.pairwise_append] at hsplit
  exact fun e' he' => ne_of_lt (hsplit.right.right e' he' e List.mem_cons_self)

end Pages

/-!
# What holds in every state

Before the confirmation the history is read; after it missed events are read from the
current position on, until the position to catch up to is found.
-/

/-- The reads start one after another, at the first position and then at events. -/
structure Rounds (first : Position) (s : System) : Prop where
  later : (starts s).Pairwise fun earlier next => earlier < next
  known : forall p, p ∈ starts s -> p = first ∨ exists e, e ∈ s.log ∧ position e = p

theorem Rounds.finite {first : Position} {s : System} (h : Rounds first s) :
    (starts s).length ≤ s.log.length + 1 := by
  have hnodup : (starts s).Nodup := h.later.imp fun hlt => ne_of_lt hlt
  have hsubset : starts s ⊆ first :: s.log.map position := by
    intro p hp
    rcases h.known p hp with rfl | ⟨e, he, rfl⟩
    · exact List.mem_cons_self
    · exact List.mem_cons_of_mem _ (List.mem_map_of_mem he)
  have hlength := (hnodup.subperm hsubset).length_le
  rwa [List.length_cons, List.length_map] at hlength

/-- What waits in the buffer comes after the position to catch up to. -/
def Waiting (target : Position) (waiting : List ResolvedEvent) (client : CatchupState) : Prop :=
  client.child.eventBuffer.Represents (waiting.map Resolved.ofResolvedEvent) ∧
    forall e, e ∈ waiting -> target < position e

structure Catching (settings : CatchupSubscriptionSettings) (first target : Position)
    (s : System) : Prop where
  attached : Attached target s.client
  reads_eq : s.client.reads = [missing settings s.client]
  posted_eq : s.client.posted = []
  buffer : exists waiting, Waiting target waiting s.client
  first_le : first ≤ currentPosition s.client
  behind : currentPosition s.client < target
  read_before : forall e, e ∈ s.read -> position e < target

/-- The position to catch up to has been found, and the buffer is read. -/
structure Draining (target : Position) (client : CatchupState) : Prop where
  attached : Attached target client
  reads_eq : client.reads = []
  caughtUp : target ≤ currentPosition client
  posted_eq : forall closure, closure ∈ client.posted -> closure = Posted.readSubscriptionEvents
  buffer : exists waiting, Waiting target waiting client ∧
    (waiting ≠ [] -> Posted.readSubscriptionEvents ∈ client.posted)

inductive Phase (settings : CatchupSubscriptionSettings) (first target : Position)
    (s : System) : Prop where
  | catching (h : Catching settings first target s)
  | draining (h : Draining target s.client)

structure Running (settings : CatchupSubscriptionSettings) (first target : Position)
    (s : System) : Prop where
  sorted : SortedLog position s.log
  catchable : Catchable settings s.log first target
  rounds : Rounds first s
  phase : Phase settings first target s

section Steps

variable {settings : CatchupSubscriptionSettings} {first target : Position} {s next : System}
  {client : CatchupState} {key : Guid}

theorem Draining.drains (h : Draining target client) : Drains client := by
  rcases h.buffer with ⟨waiting, hwaiting, hposted⟩
  cases waiting with
  | nil => exact Or.inl (hwaiting.left.empty_iff.mpr rfl)
  | cons e rest => exact Or.inr (hposted (List.cons_ne_nil e rest))

theorem Running.catchesUp (h : Running settings first target s) (hahead : first < target) :
    CatchesUp first target s where
  later := h.rounds.later
  finite := h.rounds.finite
  stops := by
    intro _ hall
    cases h.phase with
    | catching hcatching =>
        rcases h.catchable.exact with ⟨e, he, rfl⟩
        have hread := hall e he (le_of_lt hahead) le_rfl
        exact absurd (hcatching.read_before e hread) (lt_irrefl _)
    | draining hdraining => exact ⟨hdraining.reads_eq, hdraining.drains⟩

/-!
# Steps of the server

The log and the reads stay as they are.
-/

theorem Catchable.append {log : List ResolvedEvent} (h : Catchable settings log first target)
    {e : ResolvedEvent} (he : target < position e) :
    Catchable settings (log ++ [e]) first target where
  exact := by
    rcases h.exact with ⟨found, hfound, hposition⟩
    exact ⟨found, List.mem_append_left _ hfound, hposition⟩
  passes := by
    rcases h.passes with htwo | honly
    · exact Or.inl htwo
    · right
      intro e' he' hfirst
      rcases List.mem_append.mp he' with hold | hnew
      · exact honly e' hold hfirst
      · rw [List.mem_singleton.mp hnew]
        exact le_of_lt he

theorem Running.append (h : Running settings first target s) {e : ResolvedEvent}
    (hstep : step key settings target s (Input.append e) = some next) :
    Running settings first target next := by
  rw [step] at hstep
  split at hstep
  case isFalse => cases hstep
  case isTrue hallowed =>
    cases hstep
    constructor
    · exact h.sorted.concat hallowed.right
    · exact h.catchable.append hallowed.left
    · constructor
      · exact h.rounds.later
      · intro p hp
        rcases h.rounds.known p hp with hfirst | ⟨e', he', hposition⟩
        · exact Or.inl hfirst
        · exact Or.inr ⟨e', List.mem_append_left _ he', hposition⟩
    · cases h.phase with
      | catching hcatching =>
          exact Phase.catching ⟨hcatching.attached, hcatching.reads_eq, hcatching.posted_eq,
            hcatching.buffer, hcatching.first_le, hcatching.behind, hcatching.read_before⟩
      | draining hdraining => exact Phase.draining hdraining

theorem Running.frame (h : Running settings first target s)
    (hreads : client.reads = s.client.reads)
    (hphase : Phase settings first target { s with client := client }) :
    Running settings first target { s with client := client } where
  sorted := h.sorted
  catchable := h.catchable
  rounds := by
    have hstarts : starts { s with client := client } = starts s := by
      rw [starts, hreads, starts]
    constructor
    · rw [hstarts]
      exact h.rounds.later
    · rw [hstarts]
      exact h.rounds.known
  phase := hphase

/-!
# Steps that read the buffer

An event that appears while missed events are read waits in the buffer.
-/

/-- A step of reading the buffer, which posts the next one if events are left. -/
theorem draining_readOn (hattached : Attached target client) (hreads : client.reads = [])
    (hcaught : target ≤ currentPosition client)
    (hposted : forall closure, closure ∈ client.posted ->
      closure = Posted.readSubscriptionEvents)
    {waiting : List ResolvedEvent} (hwaiting : forall e, e ∈ waiting -> target < position e)
    {n : Nat} {q : BufferQueue Resolved 25}
    (hq : q.Represents ((waiting.drop n).map Resolved.ofResolvedEvent)) :
    Draining target
      (CatchupAllDelivery.readOn (waiting.take n) (waiting.drop n) q client) := by
  have htaken : forall e, e ∈ waiting.take n -> target ≤ position e :=
    fun e he => le_of_lt (hwaiting e (List.mem_of_mem_take he))
  have hmoved := CatchupAllDelivery.foldl_moved htaken (c := client.child.cursor) hcaught
  constructor
  · exact ⟨hattached.unlocked, hattached.registered, hattached.unasked,
      hmoved.right.trans hattached.target_eq⟩
  · exact hreads
  · exact hmoved.left
  · intro closure hclosure
    rcases List.mem_append.mp hclosure with hold | hnew
    · exact hposted closure hold
    · split at hnew
      · cases hnew
      · exact List.mem_singleton.mp hnew
  · refine ⟨waiting.drop n, ⟨hq, fun e he => hwaiting e (List.mem_of_mem_drop he)⟩, ?_⟩
    intro hleft
    apply List.mem_append_right
    rw [if_neg hleft]
    exact List.mem_cons_self

theorem Attached.received (h : Attached target s.client) {message : ServerMessage}
    {after : CatchupState}
    (hrun : (onPackageReceived (CatchupAll.base key User.passive) settings message).runOn
      s.client = (Except.ok true, after))
    (hstep : clientStep key settings s (Subscription.Input.received message) = some next) :
    next = { s with client := after } := by
  rw [clientStep, Option.map_eq_some_iff] at hstep
  rcases hstep with ⟨received, hclient, rfl⟩
  obtain rfl := received_eq h.unasked h.registered h.unlocked
    (c := CatchupAll.subscription key User.passive settings) hrun hclient
  rfl

theorem appeared_waits_run (b : Base Child) (settings : CatchupSubscriptionSettings)
    (event : ResolvedEvent)
    (hbehind : currentPosition client < positionToCatchUpTo client) :
    (onPackageReceived b settings (push event)).runOn client =
      (Except.ok true, Buffered.emplaceBack (Resolved.ofResolvedEvent event) client) := by
  let held := Buffered.emplaceBack (Resolved.ofResolvedEvent event) client
  have hbehind' : currentPosition held < positionToCatchUpTo held := hbehind
  simp only [push, onPackageReceived, Resolved.ofStreamEventAppeared, Option.getD_some,
    Handler.runOn_bind, Handler.runOn_modify, Handler.runOn_get]
  rw [if_pos hbehind']
  rfl

theorem Waiting.emplaceBack {waiting : List ResolvedEvent} (h : Waiting target waiting client)
    {e : ResolvedEvent} (he : target < position e) :
    Waiting target (waiting ++ [e])
      (Buffered.emplaceBack (Resolved.ofResolvedEvent e) client) := by
  constructor
  · rw [List.map_append]
    exact h.left.emplaceBack (by decide) (Resolved.ofResolvedEvent e)
  · intro e' he'
    rcases List.mem_append.mp he' with hold | hnew
    · exact h.right e' hold
    · rw [List.mem_singleton.mp hnew]
      exact he

theorem Catching.appeared (h : Catching settings first target s) {e : ResolvedEvent}
    (he : target < position e)
    (hstep : clientStep key settings s (Subscription.Input.received (push e)) = some next) :
    exists client, client.reads = s.client.reads ∧ next = { s with client := client } ∧
      Catching settings first target next := by
  have hbehind := h.behind
  rw [← h.attached.target_eq] at hbehind
  obtain rfl := h.attached.received (appeared_waits_run _ settings e hbehind) hstep
  rcases h.buffer with ⟨waiting, hwaiting⟩
  refine ⟨Buffered.emplaceBack (Resolved.ofResolvedEvent e) s.client, rfl, rfl, ?_⟩
  exact
    { attached := ⟨h.attached.unlocked, h.attached.registered, h.attached.unasked,
        h.attached.target_eq⟩
      reads_eq := h.reads_eq
      posted_eq := h.posted_eq
      buffer := ⟨_, hwaiting.emplaceBack he⟩
      first_le := h.first_le
      behind := h.behind
      read_before := h.read_before }

theorem Draining.appeared (h : Draining target s.client) {e : ResolvedEvent}
    (he : target < position e)
    (hstep : clientStep key settings s (Subscription.Input.received (push e)) = some next) :
    exists client, Draining target client ∧ next = { s with client := client } := by
  rcases h.buffer with ⟨waiting, hwaiting, hposted⟩
  have hread : ¬ currentPosition s.client < positionToCatchUpTo s.client := by
    rw [h.attached.target_eq]
    exact not_lt_of_ge h.caughtUp
  cases waiting with
  | nil =>
      rcases CatchupAllDelivery.appeared_first_run (b := CatchupAll.base key User.passive)
        rfl settings e hread hwaiting.left with ⟨n, q, hq, hrun⟩
      have hone : forall e', e' ∈ [e] -> target < position e' := by
        intro e' he'
        rw [List.mem_singleton.mp he']
        exact he
      exact ⟨_, draining_readOn h.attached h.reads_eq h.caughtUp h.posted_eq hone hq,
        h.attached.received hrun hstep⟩
  | cons e' rest =>
      have hmore : (e' :: rest).map Resolved.ofResolvedEvent ≠ [] := List.cons_ne_nil _ _
      refine ⟨_, ?_, h.attached.received
        (CatchupAllDelivery.appeared_later_run _ settings e hmore hwaiting.left) hstep⟩
      exact
        { attached := ⟨h.attached.unlocked, h.attached.registered, h.attached.unasked,
            h.attached.target_eq⟩
          reads_eq := h.reads_eq
          caughtUp := h.caughtUp
          posted_eq := h.posted_eq
          buffer := ⟨_, hwaiting.emplaceBack he,
            fun _ => hposted (List.cons_ne_nil e' rest)⟩ }

theorem Running.appeared (h : Running settings first target s) {e : ResolvedEvent}
    (hstep : step key settings target s (Input.appeared e) = some next) :
    Running settings first target next := by
  rw [step] at hstep
  split at hstep
  case isFalse => cases hstep
  case isTrue he =>
    cases h.phase with
    | catching hcatching =>
        rcases hcatching.appeared he hstep with ⟨client, hreads, rfl, hnext⟩
        exact h.frame hreads (Phase.catching hnext)
    | draining hdraining =>
        rcases hdraining.appeared he hstep with ⟨client, hnext, rfl⟩
        exact h.frame (hnext.reads_eq.trans hdraining.reads_eq.symm) (Phase.draining hnext)

theorem Draining.posted (h : Draining target s.client)
    (hstep : clientStep key settings s (Subscription.Input.posted 0) = some next) :
    exists client, Draining target client ∧ next = { s with client := client } := by
  rw [clientStep, Option.map_eq_some_iff] at hstep
  rcases hstep with ⟨client, hclient, rfl⟩
  refine ⟨client, ?_, rfl⟩
  rw [Subscription.step, Option.map_eq_some_iff] at hclient
  rcases hclient with ⟨closure, hclosure, rfl⟩
  obtain rfl := h.posted_eq closure (List.mem_of_getElem? hclosure)
  rcases h.buffer with ⟨waiting, hwaiting, _⟩
  have hheld : (s.client.takePosted 0).child.eventBuffer.Represents
      (waiting.map Resolved.ofResolvedEvent) := hwaiting.left
  rcases CatchupAllDelivery.readSubscriptionEvents_run
    (b := CatchupAll.base key User.passive) rfl settings hheld with ⟨n, q, hq, hread⟩
  have hrun : ((CatchupAll.subscription key User.passive settings).runPosted
      Posted.readSubscriptionEvents).runOn (s.client.takePosted 0) =
        (Except.ok (), CatchupAllDelivery.readOn (waiting.take n) (waiting.drop n) q
          (s.client.takePosted 0)) := hread
  rw [hrun]
  have hattached : Attached target (s.client.takePosted 0) :=
    ⟨h.attached.unlocked, h.attached.registered, h.attached.unasked, h.attached.target_eq⟩
  exact draining_readOn hattached h.reads_eq h.caughtUp
    (fun closure hclosure => h.posted_eq closure (List.mem_of_mem_eraseIdx hclosure))
    hwaiting.right hq

theorem Running.posted (h : Running settings first target s)
    (hstep : step key settings target s Input.posted = some next) :
    Running settings first target next := by
  rw [step] at hstep
  cases h.phase with
  | catching hcatching =>
      rw [clientStep, Subscription.step, hcatching.posted_eq] at hstep
      cases hstep
  | draining hdraining =>
      rcases hdraining.posted hstep with ⟨client, hnext, rfl⟩
      exact h.frame (hnext.reads_eq.trans hdraining.reads_eq.symm) (Phase.draining hnext)

/-!
# Rounds

A round reads from the current position, and either finds the position to catch up to and is
the last one, or is followed by another one.
-/

theorem starts_handled (r : Read Position) (client : CatchupState) :
    starts (handled r s client) =
      (s.rounds ++ [r.fromPosition]) ++ client.reads.map Read.fromPosition := rfl

theorem starts_catching {r : Read Position} (hreads : s.client.reads = [r]) :
    starts s = s.rounds ++ [r.fromPosition] := by
  rw [starts, hreads]
  rfl

theorem step_round {r : Read Position} (hreads : s.client.reads = [r])
    (nextPosition : Position) (isEndOfStream : Bool)
    (hclient : Subscription.step (CatchupAll.subscription key User.passive settings) s.client
      (Subscription.Input.readCompleted 0
        (Except.ok (slice s.log r nextPosition isEndOfStream))) = some client) :
    step key settings target s (Input.round nextPosition isEndOfStream) =
      some (handled r s client) := by
  rw [step, hreads]
  simp only
  rw [hclient, Option.map_some]

def passedOn (settings : CatchupSubscriptionSettings) (s : System) : System :=
  let r := missing settings s.client
  handled r s (catchUpMissedEvents settings.readBatchSize.toInt
    (missedRead (page s.log r.fromPosition r.maxCount.toInt.toNat) (s.client.takeRead 0)))

theorem step_passedOn (key : Guid) (hattached : Attached target s.client)
    (hreads : s.client.reads = [missing settings s.client])
    (hnone : forall e, e ∈ page s.log (currentPosition s.client)
      settings.readBatchSize.toInt.toNat -> position e ≠ target)
    (nextPosition : Position) (isEndOfStream : Bool) :
    step key settings target s (Input.round nextPosition isEndOfStream) =
      some (passedOn settings s) := by
  apply step_round hreads
  apply step_passes key hreads
  intro e he
  rw [hattached.target_eq]
  apply hnone
  rw [← missing_count settings s.client]
  exact he

theorem passedOn_attached (hattached : Attached target s.client) :
    Attached target (passedOn settings s).client :=
  ⟨hattached.unlocked, hattached.registered, hattached.unasked, hattached.target_eq⟩

theorem passedOn_reads (hreads : s.client.reads = [missing settings s.client]) :
    (passedOn settings s).client.reads = [missing settings (passedOn settings s).client] := by
  have hnone : (missedRead (page s.log (missing settings s.client).fromPosition
      (missing settings s.client).maxCount.toInt.toNat) (s.client.takeRead 0)).reads = [] :=
    takeRead_reads hreads
  exact catchUpMissedEvents_reads hnone

theorem passedOn_position (settings : CatchupSubscriptionSettings) (s : System) :
    currentPosition (passedOn settings s).client =
      lastRead (currentPosition s.client)
        (page s.log (currentPosition s.client) settings.readBatchSize.toInt.toNat) := by
  rw [← missing_count settings s.client]
  rfl

theorem Catching.passes (h : Catching settings first target s)
    (hrunning : Running settings first target s) (hbatch : 1 ≤ settings.readBatchSize.toInt)
    (hnone : forall e, e ∈ page s.log (currentPosition s.client)
      settings.readBatchSize.toInt.toNat -> position e ≠ target) :
    Running settings first target (passedOn settings s) := by
  rcases hrunning.catchable.advances hrunning.sorted h.first_le h.behind rfl hbatch hnone with
    ⟨hbefore, e, he, hlast, hlater⟩
  have hreads := passedOn_reads h.reads_eq
  have hposition := (passedOn_position settings s).trans hlast
  have hstarts : starts (passedOn settings s) = starts s ++ [position e] := by
    rw [starts_catching hreads, starts_catching h.reads_eq, ← hposition]
    rfl
  constructor
  · exact hrunning.sorted
  · exact hrunning.catchable
  · constructor
    · rw [hstarts, List.pairwise_append]
      refine ⟨hrunning.rounds.later, List.pairwise_singleton _ _, ?_⟩
      intro p hp q hq
      rw [List.mem_singleton.mp hq]
      have hbounds := hrunning.rounds.later
      rw [starts_catching h.reads_eq] at hp hbounds
      rcases List.mem_append.mp hp with hold | hnow
      · exact ((List.pairwise_append.mp hbounds).right.right p hold _
          List.mem_cons_self).trans hlater
      · rw [List.mem_singleton.mp hnow]
        exact hlater
    · intro p hp
      rw [hstarts] at hp
      rcases List.mem_append.mp hp with hold | hnew
      · exact hrunning.rounds.known p hold
      · exact Or.inr ⟨e, (mem_page he).left, (List.mem_singleton.mp hnew).symm⟩
  · apply Phase.catching
    constructor
    · exact passedOn_attached h.attached
    · exact hreads
    · exact h.posted_eq
    · exact h.buffer
    · rw [hposition]
      exact h.first_le.trans (le_of_lt hlater)
    · rw [hposition]
      exact hbefore e he
    · intro e' he'
      rcases List.mem_append.mp he' with hold | hnew
      · exact h.read_before e' hold
      · rw [missing_count] at hnew
        exact hbefore e' hnew

theorem Running.drained (h : Running settings first target s) {r : Read Position}
    (hreads : s.client.reads = [r]) (hdraining : Draining target client) :
    Running settings first target (handled r s client) := by
  have hstarts : starts (handled r s client) = starts s := by
    rw [starts_handled, hdraining.reads_eq, starts_catching hreads]
    exact List.append_nil _
  constructor
  · exact h.sorted
  · exact h.catchable
  · constructor
    · rw [hstarts]
      exact h.rounds.later
    · rw [hstarts]
      exact h.rounds.known
  · exact Phase.draining hdraining

theorem Catching.stops (h : Catching settings first target s)
    (hrunning : Running settings first target s) {e : ResolvedEvent}
    (he : e ∈ page s.log (currentPosition s.client) settings.readBatchSize.toInt.toNat)
    (hposition : position e = target) {nextPosition : Position} {isEndOfStream : Bool}
    (hstep : step key settings target s (Input.round nextPosition isEndOfStream) =
      some next) : Running settings first target next := by
  rcases page_split hrunning.sorted he with ⟨before, rest, hpage, hbefore⟩
  rcases h.buffer with ⟨waiting, hwaiting⟩
  have hslice : (slice s.log (missing settings s.client) nextPosition isEndOfStream).events =
      before ++ e :: rest := by
    rw [← hpage, ← missing_count settings s.client]
    rfl
  rw [hposition, ← h.attached.target_eq] at hbefore
  rw [← h.attached.target_eq] at hposition
  rcases step_stops key h.reads_eq hslice hbefore hposition hwaiting.left with
    ⟨n, q, hq, hclient⟩
  rw [step_round h.reads_eq nextPosition isEndOfStream hclient] at hstep
  obtain rfl := Option.some.inj hstep
  have hattached : Attached target (caughtUp before s.client) :=
    ⟨h.attached.unlocked, h.attached.registered, h.attached.unasked, h.attached.target_eq⟩
  have hnone : (caughtUp before s.client).reads = [] := takeRead_reads h.reads_eq
  have hposted : forall closure, closure ∈ (caughtUp before s.client).posted ->
      closure = Posted.readSubscriptionEvents := by
    intro closure hclosure
    have hclosure' : closure ∈ s.client.posted := hclosure
    rw [h.posted_eq] at hclosure'
    cases hclosure'
  have hcaught : target ≤ currentPosition (caughtUp before s.client) := by
    rw [caughtUp_position, h.attached.target_eq]
  have hdraining := draining_readOn hattached hnone hcaught hposted hwaiting.right hq
  exact hrunning.drained h.reads_eq hdraining

theorem Running.round (h : Running settings first target s)
    (hbatch : 1 ≤ settings.readBatchSize.toInt) {nextPosition : Position}
    {isEndOfStream : Bool}
    (hstep : step key settings target s (Input.round nextPosition isEndOfStream) =
      some next) : Running settings first target next := by
  cases h.phase with
  | catching hcatching =>
      by_cases hfound : exists e, e ∈ page s.log (currentPosition s.client)
          settings.readBatchSize.toInt.toNat ∧ position e = target
      · rcases hfound with ⟨e, he, hposition⟩
        exact hcatching.stops h he hposition hstep
      · have hnone : forall e, e ∈ page s.log (currentPosition s.client)
            settings.readBatchSize.toInt.toNat -> position e ≠ target :=
          fun e he hposition => hfound ⟨e, he, hposition⟩
        rw [step_passedOn key hcatching.attached hcatching.reads_eq hnone] at hstep
        obtain rfl := Option.some.inj hstep
        exact hcatching.passes h hbatch hnone
  | draining hdraining =>
      rw [step, hdraining.reads_eq] at hstep
      cases hstep

theorem step_running (hbatch : 1 ≤ settings.readBatchSize.toInt)
    (h : Running settings first target s) {i : Input}
    (hstep : step key settings target s i = some next) :
    Running settings first target next := by
  cases i with
  | append e => exact h.append hstep
  | round nextPosition isEndOfStream => exact h.round hbatch hstep
  | appeared e => exact h.appeared hstep
  | posted => exact h.posted hstep

/-!
# Endless rounds

Without an event at the position to catch up to no position is good.  A read of one event
may find the same one again.  Then there are more rounds than the log has events, and they
do not end.
-/

structure Endless (settings : CatchupSubscriptionSettings) (target : Position)
    (log : List ResolvedEvent) (stuck : Position -> Prop) (n : Nat) (s : System) : Prop where
  attached : Attached target s.client
  reads_eq : s.client.reads = [missing settings s.client]
  log_eq : s.log = log
  length_eq : s.rounds.length = n
  stuck : stuck (currentPosition s.client)

theorem Endless.round {log : List ResolvedEvent} {stuck : Position -> Prop} {n : Nat}
    (hstuck : forall p, stuck p ->
      (forall e, e ∈ page log p settings.readBatchSize.toInt.toNat -> position e ≠ target) ∧
        stuck (lastRead p (page log p settings.readBatchSize.toInt.toNat)))
    (h : Endless settings target log stuck n s) (key : Guid) :
    exists next, step key settings target s (Input.round origin false) = some next ∧
      Endless settings target log stuck (n + 1) next := by
  have hnext := hstuck _ h.stuck
  rw [← h.log_eq] at hnext
  refine ⟨_, step_passedOn key h.attached h.reads_eq hnext.left origin false, ?_⟩
  constructor
  · exact passedOn_attached h.attached
  · exact passedOn_reads h.reads_eq
  · exact h.log_eq
  · show (s.rounds ++ [_]).length = n + 1
    rw [List.length_append, h.length_eq, List.length_singleton]
  · rw [passedOn_position]
    exact hnext.right

theorem Endless.exceeds {log : List ResolvedEvent} {stuck : Position -> Prop}
    (hstuck : forall p, stuck p ->
      (forall e, e ∈ page log p settings.readBatchSize.toInt.toNat -> position e ≠ target) ∧
        stuck (lastRead p (page log p settings.readBatchSize.toInt.toNat)))
    (h : Endless settings target log stuck 0 s) (key : Guid) :
    exists inputs last, run (step key settings target) s inputs = some last ∧
      ¬ CatchesUp first target last := by
  have hprogress : forall {k : Nat} {s : System}, Endless settings target log stuck k s ->
      exists next, step key settings target s (Input.round origin false) = some next ∧
        Endless settings target log stuck (k + 1) next :=
    fun h => Endless.round hstuck h key
  rcases run_replicate hprogress h (log.length + 1) with ⟨last, hlast, hend⟩
  refine ⟨_, last, hlast, ?_⟩
  intro hcatches
  have hfinite := hcatches.finite
  rw [starts_catching hend.reads_eq, List.length_append, hend.length_eq, hend.log_eq,
    List.length_singleton] at hfinite
  omega

theorem stuck_of_not_exact {log : List ResolvedEvent} {start : Position} {count : Nat}
    (hnone : forall e, e ∈ log -> position e ≠ target) :
    (forall e, e ∈ page log start count -> position e ≠ target) ∧ True :=
  ⟨fun e he => hnone e (mem_page he).left, trivial⟩

def Repeats (log : List ResolvedEvent) (target start : Position) : Prop :=
  exists e rest, onward position start log = e :: rest ∧ position e < target

theorem stuck_of_repeats {log : List ResolvedEvent} (hsorted : SortedLog position log)
    {start : Position} (h : Repeats log target start) :
    (forall e, e ∈ page log start 1 -> position e ≠ target) ∧
      Repeats log target (lastRead start (page log start 1)) := by
  rcases h with ⟨e, rest, honward, hbefore⟩
  have hpage : page log start 1 = [e] := by
    rw [page, honward]
    rfl
  rw [hpage]
  constructor
  · intro e' he'
    rw [List.mem_singleton.mp he']
    exact ne_of_lt hbefore
  · exact ⟨e, rest, hsorted.onward_head honward, hbefore⟩

theorem repeats_of_mem {log : List ResolvedEvent} (hsorted : SortedLog position log)
    {e : ResolvedEvent} (he : e ∈ log) (hfirst : first ≤ position e)
    (hbefore : position e < target) : Repeats log target first := by
  have hmem := mem_onward.mpr ⟨he, hfirst⟩
  cases honward : onward position first log with
  | nil =>
      rw [honward] at hmem
      cases hmem
  | cons a rest =>
      refine ⟨a, rest, honward, ?_⟩
      have hpairs := hsorted.onward_sorted first
      rw [honward] at hmem hpairs
      rcases List.mem_cons.mp hmem with rfl | hrest
      · exact hbefore
      · exact ((List.pairwise_cons.mp hpairs).left e hrest).trans hbefore

theorem exceeds_of_not_catchable (hbatch : 1 ≤ settings.readBatchSize.toInt)
    (hsorted : SortedLog position s.log) (hattached : Attached target s.client)
    (hreads : s.client.reads = [missing settings s.client]) (hrounds : s.rounds = [])
    (hnot : ¬ Catchable settings s.log (currentPosition s.client) target) (key : Guid) :
    exists inputs last, run (step key settings target) s inputs = some last ∧
      ¬ CatchesUp first target last := by
  have hlength : s.rounds.length = 0 := by
    rw [hrounds, List.length_nil]
  by_cases hexact : exists e, e ∈ s.log ∧ position e = target
  · have hone : settings.readBatchSize.toInt.toNat = 1 := by
      by_contra hmany
      exact hnot ⟨hexact, Or.inl (by omega)⟩
    obtain ⟨e, he, hfirst, hbefore⟩ : exists e, e ∈ s.log ∧
        currentPosition s.client ≤ position e ∧ position e < target := by
      by_contra hnone
      refine hnot ⟨hexact, Or.inr fun e he hfirst => le_of_not_gt fun hbefore => ?_⟩
      exact hnone ⟨e, he, hfirst, hbefore⟩
    have hendless : Endless settings target s.log (Repeats s.log target) 0 s :=
      ⟨hattached, hreads, rfl, hlength, repeats_of_mem hsorted he hfirst hbefore⟩
    apply hendless.exceeds
    intro p hp
    rw [hone]
    exact stuck_of_repeats hsorted hp
  · have hendless : Endless settings target s.log (fun _ => True) 0 s :=
      ⟨hattached, hreads, rfl, hlength, trivial⟩
    apply hendless.exceeds
    exact fun p _ => stuck_of_not_exact fun e he hposition => hexact ⟨e, he, hposition⟩

end Steps

/-!
# Up to the confirmation

The client is not dropped, and no event has appeared yet.  A confirmation that is ahead of
what was read starts the first round.
-/

section Confirmation

variable {settings : CatchupSubscriptionSettings} {client next : CatchupState} {key : Guid}

structure Fresh (client : CatchupState) : Prop where
  unlocked : client.handleGuard = false
  unasked : client.unsubscribing = false
  posted_eq : client.posted = []
  buffer : client.child.eventBuffer.Represents []

inductive Early (client : CatchupState) : Prop where
  | history {r : Read Position} (hfresh : Fresh client) (hreads : client.reads = [r])
      (hhandler : r.handler = ReadHandler.history) (hregistered : client.registered = false) :
      Early client
  | requested (hfresh : Fresh client) (hreads : client.reads = []) : Early client

theorem Fresh.historyRead (h : Fresh client) (slice : AllEventsSlice) :
    Fresh (CatchupAllDelivery.historyRead slice client) :=
  ⟨h.unlocked, h.unasked, h.posted_eq, h.buffer⟩

theorem step_early (h : Early client) {i : Subscription.Input AllEventsSlice}
    (hinput : ReadsHistory i)
    (hstep : Subscription.step (CatchupAll.subscription key User.passive settings) client i =
      some next) : Early next := by
  rcases hinput with ⟨slice, rfl⟩
  cases h with
  | history hfresh hreads hhandler hregistered =>
      rw [CatchupAllDelivery.step_history key settings hreads hhandler] at hstep
      obtain rfl := Option.some.inj hstep
      have hnone := CatchupAllDelivery.historyRead_reads hreads slice
      have hread := hfresh.historyRead slice
      split
      · exact Early.requested ⟨rfl, hread.unasked, hread.posted_eq, hread.buffer⟩ hnone
      · apply Early.history
        · exact ⟨hread.unlocked, hread.unasked, hread.posted_eq, hread.buffer⟩
        · exact CatchupAllDelivery.asyncStart_reads hnone
        · rfl
        · exact hregistered
  | requested hfresh hreads =>
      rw [Subscription.step, hreads] at hstep
      cases hstep

theorem run_requested (fromPosition : Position)
    {history : List (Subscription.Input AllEventsSlice)}
    (hhistory : forall i, i ∈ history -> ReadsHistory i)
    (hread : run (Subscription.step (CatchupAll.subscription key User.passive settings))
      (Kind.catchupAll fromPosition settings).started history = some client)
    (hregistered : client.registered = true) : Fresh client ∧ client.reads = [] := by
  have hearly : Early client := by
    refine run_invariant (fun h hi hstep => step_early h hi hstep) ?_
      (everyStep_of_forall hhistory _) hread
    exact Early.history ⟨rfl, rfl, rfl, BufferQueue.represents_new⟩ rfl rfl rfl
  cases hearly with
  | history _ _ _ hunregistered =>
      rw [hregistered] at hunregistered
      cases hunregistered
  | requested hfresh hreads => exact ⟨hfresh, hreads⟩

def behind (settings : CatchupSubscriptionSettings) (lastCommitPosition : Int)
    (lastEventNumber : Option Int) (client : CatchupState) : CatchupState :=
  catchUpMissedEvents settings.readBatchSize.toInt
    (setPositionToCatchUpTo (confirmedPosition lastCommitPosition)
      (confirm (some lastCommitPosition) lastEventNumber client))

theorem step_confirmation (hfresh : Fresh client) (hregistered : client.registered = true)
    {lastCommitPosition : Int} {lastEventNumber : Option Int}
    (hahead : currentPosition client < confirmedPosition lastCommitPosition)
    (hstep : Subscription.step (CatchupAll.subscription key User.passive settings) client
      (confirmation lastCommitPosition lastEventNumber) = some next) :
    next = behind settings lastCommitPosition lastEventNumber client := by
  have hahead' : currentPosition (setPositionToCatchUpTo (confirmedPosition lastCommitPosition)
      (confirm (some lastCommitPosition) lastEventNumber client)) <
        confirmedPosition lastCommitPosition := hahead
  have hrun : ((CatchupAll.subscription key User.passive settings).onPackageReceived
      (CatchupAllDelivery.confirmation lastCommitPosition lastEventNumber)).runOn client =
        (Except.ok true, behind settings lastCommitPosition lastEventNumber client) := by
    simp only [CatchupAllDelivery.confirmation, subscription, onPackageReceived,
      Handler.runOn_bind, Handler.runOn_modify, Handler.runOn_get]
    rw [show (Position.mk (read (some lastCommitPosition)) (read (some lastCommitPosition))) =
      confirmedPosition lastCommitPosition from rfl, if_pos hahead']
    rfl
  exact received_eq hfresh.unasked hregistered hfresh.unlocked hrun hstep

end Confirmation

/-!
# Every run

What one step keeps is kept by the run.  In an aligned log commit and prepare positions
are the same.
-/

/-- What follows a confirmation that is ahead of the current position ends as it should, in
every run, if and only if one can catch up. -/
theorem catchesUp_iff_catchable (key : Guid) (settings : CatchupSubscriptionSettings)
    (fromPosition : Position) (hbatch : 1 ≤ settings.readBatchSize.toInt)
    {history : List (Subscription.Input AllEventsSlice)} {before confirmed : CatchupState}
    (hhistory : forall i, i ∈ history -> ReadsHistory i)
    (hread : run (Subscription.step (CatchupAll.subscription key User.passive settings))
      (Kind.catchupAll fromPosition settings).started history = some before)
    (hregistered : before.registered = true) {log : List ResolvedEvent}
    (hsorted : SortedLog position log) {lastCommitPosition : Int}
    {lastEventNumber : Option Int}
    (hahead : currentPosition before < confirmedPosition lastCommitPosition)
    (hconfirmed : Subscription.step (CatchupAll.subscription key User.passive settings) before
      (confirmation lastCommitPosition lastEventNumber) = some confirmed) :
    (forall inputs last,
      run (step key settings (confirmedPosition lastCommitPosition)) (initial log confirmed)
          inputs = some last ->
        CatchesUp (currentPosition before) (confirmedPosition lastCommitPosition) last) <->
      Catchable settings log (currentPosition before)
        (confirmedPosition lastCommitPosition) := by
  rcases run_requested fromPosition hhistory hread hregistered with ⟨hfresh, hnone⟩
  obtain rfl := step_confirmation hfresh hregistered hahead hconfirmed
  have hattached : Attached (confirmedPosition lastCommitPosition)
      (behind settings lastCommitPosition lastEventNumber before) :=
    ⟨hfresh.unlocked, hregistered, hfresh.unasked, rfl⟩
  have hreads : (behind settings lastCommitPosition lastEventNumber before).reads =
      [missing settings (behind settings lastCommitPosition lastEventNumber before)] :=
    catchUpMissedEvents_reads hnone
  constructor
  · intro hcatches
    by_contra hnot
    rcases exceeds_of_not_catchable (s := initial log
      (behind settings lastCommitPosition lastEventNumber before)) hbatch hsorted hattached
      hreads rfl hnot key with ⟨inputs, last, hlast, hfails⟩
    exact hfails (hcatches inputs last hlast)
  · intro hcatchable inputs last hlast
    have hcatching : Catching settings (currentPosition before)
        (confirmedPosition lastCommitPosition)
        (initial log (behind settings lastCommitPosition lastEventNumber before)) :=
      { attached := hattached
        reads_eq := hreads
        posted_eq := hfresh.posted_eq
        buffer := ⟨[], hfresh.buffer, fun _ he => absurd he List.not_mem_nil⟩
        first_le := le_rfl
        behind := hahead
        read_before := fun _ he => absurd he List.not_mem_nil }
    have hrounds : Rounds (currentPosition before)
        (initial log (behind settings lastCommitPosition lastEventNumber before)) := by
      have hstarts := starts_catching (s := initial log
        (behind settings lastCommitPosition lastEventNumber before)) hreads
      constructor
      · rw [hstarts]
        exact List.pairwise_singleton _ _
      · rw [hstarts]
        exact fun p hp => Or.inl (List.mem_singleton.mp hp)
    have hrunning := run_preserves (fun h hstep => step_running hbatch h hstep)
      ⟨hsorted, hcatchable, hrounds, Phase.catching hcatching⟩ hlast
    exact hrunning.catchesUp hahead

def nothingYet : List (Subscription.Input AllEventsSlice) :=
  [Subscription.Input.readCompleted 0 (Except.ok
    { fromPosition := origin
      nextPosition := origin
      direction := ReadDirection.forward
      isEndOfStream := true
      events := [] })]

theorem nothingYet_readsHistory : forall i, i ∈ nothingYet -> ReadsHistory i := by
  intro i hi
  rw [nothingYet, List.mem_singleton] at hi
  exact ⟨_, hi⟩

theorem alignedLog_catchesUp :
    exists before confirmed,
      run (Subscription.step (CatchupAll.subscription (Guid.ofByte 1) User.passive
          CatchupSubscriptionSettings.built))
        (Kind.catchupAll origin CatchupSubscriptionSettings.built).started nothingYet =
          some before ∧
      Subscription.step (CatchupAll.subscription (Guid.ofByte 1) User.passive
          CatchupSubscriptionSettings.built) before (confirmation 5 none) = some confirmed ∧
      forall inputs last,
        run (step (Guid.ofByte 1) CatchupSubscriptionSettings.built (confirmedPosition 5))
            (initial [loggedEvent 3 3, loggedEvent 5 5] confirmed) inputs = some last ->
          CatchesUp (currentPosition before) (confirmedPosition 5) last := by
  let client := Subscription.step (CatchupAll.subscription (Guid.ofByte 1) User.passive
    CatchupSubscriptionSettings.built)
  let start := (Kind.catchupAll origin CatchupSubscriptionSettings.built).started
  obtain ⟨before, hbefore⟩ : exists before, run client start nothingYet = some before :=
    Option.isSome_iff_exists.mp (by decide +kernel)
  have hready : (run client start nothingYet).map (fun s =>
      (s.registered, currentPosition s, (client s (confirmation 5 none)).isSome)) =
        some (true, origin, true) := by
    decide +kernel
  rw [hbefore, Option.map_some, Option.some_inj, Prod.mk.injEq, Prod.mk.injEq] at hready
  rcases hready with ⟨hregistered, hposition, hconfirms⟩
  rcases Option.isSome_iff_exists.mp hconfirms with ⟨confirmed, hconfirmed⟩
  have hahead : currentPosition before < confirmedPosition 5 := by
    rw [hposition]
    decide
  have hsorted : SortedLog position [loggedEvent 3 3, loggedEvent 5 5] := by
    unfold SortedLog
    decide
  refine ⟨before, confirmed, hbefore, hconfirmed, ?_⟩
  exact (catchesUp_iff_catchable (Guid.ofByte 1) CatchupSubscriptionSettings.built origin
    (by decide) nothingYet_readsHistory hbefore hregistered hsorted hahead hconfirmed).mpr
    ⟨⟨loggedEvent 5 5, by decide, by decide⟩, Or.inl (by decide)⟩

/-- The last commit has its prepare position before it.  It is read again and again. -/
theorem unalignedLog_readsAgain :
    exists before confirmed last,
      run (Subscription.step (CatchupAll.subscription (Guid.ofByte 1) User.passive
          CatchupSubscriptionSettings.built))
        (Kind.catchupAll origin CatchupSubscriptionSettings.built).started nothingYet =
          some before ∧
      currentPosition before < confirmedPosition 4 ∧
      Subscription.step (CatchupAll.subscription (Guid.ofByte 1) User.passive
          CatchupSubscriptionSettings.built) before (confirmation 4 none) = some confirmed ∧
      run (step (Guid.ofByte 1) CatchupSubscriptionSettings.built (confirmedPosition 4))
          (initial [loggedEvent 4 3] confirmed)
          [Input.round origin true, Input.round origin true] = some last ∧
      ¬ CatchesUp (currentPosition before) (confirmedPosition 4) last := by
  let client := Subscription.step (CatchupAll.subscription (Guid.ofByte 1) User.passive
    CatchupSubscriptionSettings.built)
  let start := (Kind.catchupAll origin CatchupSubscriptionSettings.built).started
  let system := step (Guid.ofByte 1) CatchupSubscriptionSettings.built (confirmedPosition 4)
  let rounds := [Input.round origin true, Input.round origin true]
  obtain ⟨before, hbefore⟩ : exists before, run client start nothingYet = some before :=
    Option.isSome_iff_exists.mp (by decide +kernel)
  have hruns : (run client start nothingYet).bind (fun before =>
      (client before (confirmation 4 none)).bind fun confirmed =>
        (run system (initial [loggedEvent 4 3] confirmed) rounds).map fun last =>
          (currentPosition before, starts last)) =
        some (origin, [origin, ⟨4, 3⟩, ⟨4, 3⟩]) := by
    decide +kernel
  rw [hbefore, Option.bind_some, Option.bind_eq_some_iff] at hruns
  rcases hruns with ⟨confirmed, hconfirmed, hlast⟩
  rcases Option.map_eq_some_iff.mp hlast with ⟨last, hlast, hends⟩
  rw [Prod.mk.injEq] at hends
  refine ⟨before, confirmed, last, hbefore, ?_, hconfirmed, hlast, ?_⟩
  · rw [hends.left]
    decide
  · intro h
    have hlater := h.later
    rw [hends.right] at hlater
    exact absurd hlater (by decide)

end CatchupAllReading
end Subscription
end EventStoreClient
