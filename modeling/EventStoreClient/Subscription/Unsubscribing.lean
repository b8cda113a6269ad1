import EventStoreClient.Foundation.Histories
import EventStoreClient.Subscription.Callbacks
import EventStoreClient.Subscription.Terminal

/-!
# Calls of `unsubscribe()`

In which phases of a subscription the connection has the entry that `unsubscribe()` looks
up, and what a run in which it is called in no other phase comes to.
-/

namespace EventStoreClient
namespace Subscription

open Buffer Connection Foundation Operations Wire

variable {child pending batch : Type}

namespace Unsubscribing

/-!
# What is claimed

`unsubscribe()` is called by the program, or by a callback depending on the calls up to
it; the request is then to be sent once, and no key looked up that is not there.
-/

def asks (user : User) (calls : List Callback) : Callback -> Bool
  | Callback.eventAppeared _ _ => user.onEvent calls
  | Callback.dropped _ => user.onDropped calls

def AskedIn (user : User) (calls : List Callback) : Prop :=
  exists earlier c later, calls = earlier ++ c :: later ∧ asks user (earlier ++ [c]) c = true

/-- `unsubscribe()` has been called, by the program or in a callback. -/
def Asked (user : User) (inputs : List (Input batch)) (s : State child pending) : Prop :=
  Input.unsubscribe ∈ inputs ∨ AskedIn user s.calls

/-- `dropped` has been called once, or one posted closure is going to call it, or the
unsubscribe request is under way with its timer running. -/
structure OneWay (s : State child pending) : Prop where
  one : drops s + pendingDrops s + s.unsubscribing.toNat = 1
  armed : s.unsubscribing = true -> s.deadline.Armed

/-- The guard is locked for good, and there is one call of `dropped` in total, which has been
made when nothing is left to be run. -/
structure UnsubscribesOnce (user : User) (inputs : List (Input batch))
    (s : State child pending) : Prop where
  once : drops s ≤ 1
  leads : Asked user inputs s -> s.handleGuard = true ∧ OneWay s
  called : Asked user inputs s -> s.posted = [] -> s.deadline = Timer.idle -> drops s = 1

/-- No key has been looked up in the subscriptions map that is not there. -/
def Finds (key : Guid) (s next : State child pending) : Prop :=
  Fault.outOfRange key ∉ next.faults.drop s.faults.length

/-- A step looks up no such key.  The completion of the timer looks into the operations map
only. -/
def FindsKey (c : Class child pending batch) (s : State child pending) (i : Input batch) :
    Prop :=
  forall next, step c s i = some next -> i = Input.completed ∨ Finds c.key s next

theorem OneWay.drops_eq {s : State child pending} (h : OneWay s) (hposted : s.posted = [])
    (hdeadline : s.deadline = Timer.idle) : drops s = 1 := by
  have hone := h.one
  have hpending : pendingDrops s = 0 := by
    rw [pendingDrops, hposted]
    rfl
  cases hunsubscribing : s.unsubscribing with
  | true =>
      have harmed := h.armed hunsubscribing
      rw [hdeadline] at harmed
      exact absurd harmed Timer.not_armed_idle
  | false =>
      rw [hpending, hunsubscribing] at hone
      exact hone

/-!
# The phases in which it holds

The subscription has been requested, and not been dropped.  The history is still being
read before.
-/

def Ongoing (s : State child pending) : Prop :=
  (Request.subscribeToStream ∈ s.sent ∨ Request.connectToPersistentSubscription ∈ s.sent) ∧
    drops s = 0

instance (s : State child pending) : Decidable (Ongoing s) :=
  inferInstanceAs (Decidable ((_ ∨ _) ∧ _))

/-- The missed events that a slice passes on: those before the one to catch up to, and
before one that has no position. -/
def missedBefore (target : Position) (events : List Resolved) : List Resolved :=
  events.takeWhile fun e => e.originalPosition ≠ none ∧ e.originalPosition ≠ some target

def passesOn : Kind child pending batch -> child -> pending -> batch -> List Resolved
  | Kind.volatile, _, r, _ => nomatch r
  | Kind.persistent _, _, r, _ => nomatch r
  | Kind.catchup _ _, _, _, slice => Catchup.sliceEvents slice
  | Kind.catchupAll _ _, members, r, slice =>
      match r.handler with
      | .history => CatchupAll.sliceEvents slice
      | .missed _ =>
          missedBefore members.cursor.positionToCatchUpTo (CatchupAll.sliceEvents slice)

/-- `unsubscribe()` is called only while the subscription is ongoing, also by callbacks,
and no read fails once the guard is locked. -/
def InPhase (kind : Kind child pending batch) (user : User) (s : State child pending) :
    Input batch -> Prop
  | Input.unsubscribe => Ongoing s
  | Input.received _ =>
      s.unsubscribing = true ->
        user.onDropped (s.calls ++ [Callback.dropped (Error.subscription .unsubscribed)]) = false
  | Input.posted i =>
      forall ec, ec ∈ s.posted[i]?.bind Posted.error? ->
        user.onDropped (s.calls ++ [Callback.dropped ec]) = false
  | Input.readCompleted i (Except.ok slice) =>
      forall r, r ∈ s.reads[i]? ->
        Ongoing s ∨ user.unsubscribesAt s.calls (passesOn kind s.child r slice) = false
  | Input.readCompleted _ (Except.error _) => s.handleGuard = false
  | _ => True

instance decidableInPhase (kind : Kind child pending batch) (user : User)
    (s : State child pending) : (i : Input batch) -> Decidable (InPhase kind user s i)
  | Input.unsubscribe => inferInstanceAs (Decidable (Ongoing s))
  | Input.received _ => inferInstanceAs (Decidable (s.unsubscribing = true -> _ = false))
  | Input.posted _ => inferInstanceAs (Decidable (forall ec, ec ∈ _ -> _ = false))
  | Input.readCompleted _ (Except.ok _) =>
      inferInstanceAs (Decidable (forall r, r ∈ _ -> Ongoing s ∨ _ = false))
  | Input.readCompleted _ (Except.error _) => inferInstanceAs (Decidable (_ = false))
  | Input.expired => inferInstanceAs (Decidable True)
  | Input.completed => inferInstanceAs (Decidable True)

/-!
# Callbacks that ask for nothing

A callback that does not call `unsubscribe()` leaves it as it was whether the user has
asked.
-/

section Callbacks

variable {user : User} {calls : List Callback} {b : Base child} {s : State child pending}

theorem not_askedIn_nil : ¬ AskedIn user [] := by
  rintro ⟨earlier, c, later, hsplit, _⟩
  simp at hsplit

theorem askedIn_concat (c : Callback) :
    AskedIn user (calls ++ [c]) <->
      AskedIn user calls ∨ asks user (calls ++ [c]) c = true := by
  constructor
  · rintro ⟨earlier, c', later, hsplit, hasks⟩
    rcases concat_split hsplit with ⟨rfl, rfl⟩ | ⟨rest, hcalls⟩
    · exact Or.inr hasks
    · exact Or.inl ⟨earlier, c', rest, hcalls, hasks⟩
  · rintro (⟨earlier, c', later, hsplit, hasks⟩ | hasks)
    · exact ⟨earlier, c', later ++ [c], by simp [hsplit], hasks⟩
    · exact ⟨calls, c, [], rfl, hasks⟩

theorem not_askedIn_passOn {events : List Resolved} (h : ¬ AskedIn user s.calls)
    (hquiet : user.unsubscribesAt s.calls events = false) :
    ¬ AskedIn user (s.passOn events).calls := by
  induction events generalizing s with
  | nil => rwa [passOn_nil]
  | cons e rest ih =>
      rw [User.unsubscribesAt, Bool.or_eq_false_iff] at hquiet
      have hfirst : ¬ AskedIn user (s.passOn [e]).calls := by
        intro hasked
        rcases (askedIn_concat (Callback.eventAppeared e none)).mp hasked with hold | hasks
        · exact h hold
        · rw [asks, hquiet.left] at hasks
          cases hasks
      have hrest := ih (s := s.passOn [e]) hfirst hquiet.right
      rwa [passOn_append] at hrest

theorem drops_passOn (events : List Resolved) : drops (s.passOn events) = drops s := by
  have hnone : (events.map fun e => Callback.eventAppeared e none).countP
      Callback.isDropped = 0 := by
    rw [List.countP_eq_zero]
    intro c hc
    rcases List.mem_map.mp hc with ⟨e, _, rfl⟩
    exact Bool.false_ne_true
  rw [drops, State.passOn, List.countP_append, hnone, Nat.add_zero, drops]

end Callbacks

/-!
# Phases

What comes after the history throws no lookup of the subscription.  A phase is not about
the closures, the timer and the faults.
-/

structure Reading (p : Profile child pending batch) (user : User) (s : State child pending) :
    Prop where
  registered : s.registered = false
  unsent : ¬ (Request.subscribeToStream ∈ s.sent ∨
    Request.connectToPersistentSubscription ∈ s.sent)
  drops_eq : drops s = 0
  unsubscribing : s.unsubscribing = false
  unasked : ¬ AskedIn user s.calls
  history : forall r, r ∈ s.reads -> p.IsHistory r = true
  idle : p.Idle s.child

/-- The connection knows the subscription.  `old` are the faults of earlier steps. -/
structure Live (user : User) (old : List Fault) (s : State child pending) : Prop where
  registered : s.registered = true
  ongoing : Ongoing s
  armed : s.unsubscribing = true -> s.deadline.Armed
  opened : s.handleGuard = true -> pendingDrops s ≠ 0 ∨ s.unsubscribing = true
  asked : AskedIn user s.calls -> s.handleGuard = true
  faults_eq : s.faults = old

structure Ended (p : Profile child pending batch) (s : State child pending) : Prop where
  registered : s.registered = false
  drops_eq : drops s = 1
  pending : pendingDrops s = 0
  unsubscribing : s.unsubscribing = false
  locked : s.handleGuard = true
  idle : p.Idle s.child
  noHistory : NoHistory p s

section Live

variable {user : User} {old : List Fault} {s : State child pending} {b : Base child}

theorem ongoing_send (h : Ongoing s) (request : Request) : Ongoing (s.send request) :=
  ⟨h.left.imp (List.mem_append_left _) (List.mem_append_left _), h.right⟩

theorem live_unsubscribe (hregistered : s.registered = true) (hongoing : Ongoing s)
    (harmed : s.unsubscribing = true -> s.deadline.Armed) (hfaults : s.faults = old)
    (ec : Error) : Live user old (b.unsubscribe ec s) := by
  unfold Base.unsubscribe
  split
  · exact
      { registered := hregistered
        ongoing := ongoing_send hongoing _
        armed := fun _ => Or.inl rfl
        opened := fun _ => Or.inr rfl
        asked := fun _ => rfl
        faults_eq := hfaults }
  · exact
      { registered := hregistered
        ongoing := hongoing
        armed := harmed
        opened := fun _ => Or.inl (by simp [pendingDrops, State.post, Posted.isDropped])
        asked := fun _ => rfl
        faults_eq := hfaults }

theorem Live.unsubscribe (h : Live user old s) (ec : Error) :
    Live user old (b.unsubscribe ec s) :=
  live_unsubscribe h.registered h.ongoing h.armed h.faults_eq ec

theorem Live.fail (h : Live user old s) (ec : Error) : Live user old (b.fail ec s) := by
  unfold Base.fail
  split
  · exact h
  · exact h.unsubscribe ec

theorem guards_unsubscribeByKey (faults : Fault -> Prop) (ec : Error) :
    Handler.Guards (Live user old : State child pending -> Prop) faults
      (b.unsubscribeByKey ec) := by
  intro s hs
  rw [unsubscribeByKey_of_registered hs.registered]
  refine ⟨hs.fail ec, ?_⟩
  intro e he
  cases he

theorem guards_eventAppeared (faults : Fault -> Prop) (e : Resolved)
    (retryCount : Option Int) :
    Handler.Guards (Live b.user old : State child pending -> Prop) faults
      (b.eventAppeared e retryCount) := by
  intro s hs
  have hongoing : Ongoing (s.called (Callback.eventAppeared e retryCount)) :=
    ⟨hs.ongoing.left, (drops_called_eventAppeared e retryCount).trans hs.ongoing.right⟩
  have hregistered : (s.called (Callback.eventAppeared e retryCount)).registered = true :=
    hs.registered
  have hcalled (hasked : AskedIn b.user (s.called (Callback.eventAppeared e retryCount)).calls ->
      s.handleGuard = true) : Live b.user old (s.called (Callback.eventAppeared e retryCount)) :=
    ⟨hs.registered, hongoing, hs.armed, hs.opened, hasked, hs.faults_eq⟩
  rw [eventAppeared_run]
  split
  · rw [unsubscribeByKey_of_registered hregistered]
    refine ⟨?_, fun fault hfault => by cases hfault⟩
    unfold Base.fail
    split
    · rename_i hlocked
      exact hcalled fun _ => hlocked
    · exact live_unsubscribe (b := b) hregistered hongoing hs.armed hs.faults_eq
        (Error.subscription .unsubscribed)
  · rename_i hquiet
    refine ⟨hcalled ?_, fun fault hfault => by cases hfault⟩
    intro hasked
    rcases (askedIn_concat (Callback.eventAppeared e retryCount)).mp hasked with hold | hasks
    · exact hs.asked hold
    · exact absurd hasks hquiet

theorem live_guarding (b : Base child) (missed : pending -> Prop) (old : List Fault) :
    Guarding b missed (fun fault => fault ≠ Fault.outOfRange b.key) (Live b.user old) where
  badOptionalAccess := fun hfault => by cases hfault
  noObject := fun hfault => by cases hfault
  setChild := fun _ hs =>
    ⟨hs.registered, hs.ongoing, hs.armed, hs.opened, hs.asked, hs.faults_eq⟩
  confirm := fun _ _ hs =>
    ⟨hs.registered, hs.ongoing, hs.armed, hs.opened, hs.asked, hs.faults_eq⟩
  eventAppeared := guards_eventAppeared _
  unsubscribeByKey := guards_unsubscribeByKey _
  unsubscribe := fun ec hs => hs.unsubscribe ec
  postRead := by
    intro s hs
    refine ⟨hs.registered, hs.ongoing, hs.armed, ?_, hs.asked, hs.faults_eq⟩
    rw [pendingDrops_post]
    exact hs.opened
  startRead := fun _ hs =>
    ⟨hs.registered, hs.ongoing, hs.armed, hs.opened, hs.asked, hs.faults_eq⟩

theorem sends_live (user : User) (old : List Fault) :
    Sends (Live user old : State child pending -> Prop) :=
  fun _ hs => ⟨hs.registered, ongoing_send hs.ongoing _, hs.armed, hs.opened, hs.asked,
    hs.faults_eq⟩

end Live

section Reading

variable {p : Profile child pending batch} {user : User} {s : State child pending}
  {b : Base child} {events : List Resolved}

theorem Reading.frame (h : Reading p user s) {posted : List Posted} {deadline : Timer}
    {faults : List Fault} : Reading p user
      { s with posted := posted, deadline := deadline, faults := faults } :=
  ⟨h.registered, h.unsent, h.drops_eq, h.unsubscribing, h.unasked, h.history, h.idle⟩

theorem Reading.takeRead (h : Reading p user s) (i : Nat) : Reading p user (s.takeRead i) where
  registered := h.registered
  unsent := h.unsent
  drops_eq := h.drops_eq
  unsubscribing := h.unsubscribing
  unasked := h.unasked
  history := fun r hr => h.history r (List.mem_of_mem_eraseIdx hr)
  idle := h.idle

theorem Reading.passOn (h : Reading p user s)
    (hquiet : user.unsubscribesAt s.calls events = false) : Reading p user (s.passOn events) where
  registered := h.registered
  unsent := h.unsent
  drops_eq := (drops_passOn events).trans h.drops_eq
  unsubscribing := h.unsubscribing
  unasked := not_askedIn_passOn h.unasked hquiet
  history := h.history
  idle := h.idle

theorem Reading.startRead (h : Reading p user s) {r : pending} (hhistory : p.IsHistory r = true) :
    Reading p user (s.startRead r) where
  registered := h.registered
  unsent := h.unsent
  drops_eq := h.drops_eq
  unsubscribing := h.unsubscribing
  unasked := h.unasked
  history := by
    intro r' hr'
    rcases List.mem_append.mp hr' with hold | hnew
    · exact h.history r' hold
    · rw [List.mem_singleton.mp hnew]
      exact hhistory
  idle := h.idle

/-- A read of the history that fails ends the subscription by a posted closure. -/
theorem Reading.unsubscribe (h : Reading p user s)
    (hidle : forall members, p.Idle (b.shutdown members)) {ec : Error}
    (hec : ec ≠ Error.subscription .unsubscribed) : Reading p user (b.unsubscribe ec s) := by
  unfold Base.unsubscribe
  rw [if_neg hec]
  exact
    { registered := h.registered
      unsent := h.unsent
      drops_eq := h.drops_eq
      unsubscribing := h.unsubscribing
      unasked := h.unasked
      history := h.history
      idle := hidle _ }

theorem Ended.frame (h : Ended p s) {deadline : Timer} {faults : List Fault} :
    Ended p { s with deadline := deadline, faults := faults } :=
  ⟨h.registered, h.drops_eq, h.pending, h.unsubscribing, h.locked, h.idle, h.noHistory⟩

theorem Ended.takeRead (h : Ended p s) (i : Nat) : Ended p (s.takeRead i) where
  registered := h.registered
  drops_eq := h.drops_eq
  pending := h.pending
  unsubscribing := h.unsubscribing
  locked := h.locked
  idle := h.idle
  noHistory := fun r hr => h.noHistory r (List.mem_of_mem_eraseIdx hr)

theorem Ended.passOn (h : Ended p s) (events : List Resolved) : Ended p (s.passOn events) where
  registered := h.registered
  drops_eq := (drops_passOn events).trans h.drops_eq
  pending := h.pending
  unsubscribing := h.unsubscribing
  locked := h.locked
  idle := h.idle
  noHistory := h.noHistory

theorem Ended.startMissed (h : Ended p s) {r : pending} (hmissed : p.IsHistory r = false) :
    Ended p (s.startRead r) where
  registered := h.registered
  drops_eq := h.drops_eq
  pending := h.pending
  unsubscribing := h.unsubscribing
  locked := h.locked
  idle := h.idle
  noHistory := h.noHistory.startRead hmissed

theorem Ended.postRead (h : Ended p s) : Ended p (s.post Posted.readSubscriptionEvents) where
  registered := h.registered
  drops_eq := h.drops_eq
  pending := pendingDrops_post.trans h.pending
  unsubscribing := h.unsubscribing
  locked := h.locked
  idle := h.idle
  noHistory := h.noHistory

end Reading

namespace Buffered

variable {cursor position : Type} {missedEvents : Buffered cursor -> batch -> List Resolved}
  {user : User} {s : State (Buffered cursor) (Read position)}

theorem reading_setCursor (h : Reading (Buffered.profile missedEvents) user s)
    (f : cursor -> cursor) :
    Reading (Buffered.profile missedEvents) user (Buffered.setCursor f s) :=
  ⟨h.registered, h.unsent, h.drops_eq, h.unsubscribing, h.unasked, h.history, h.idle⟩

theorem ended_setCursor (h : Ended (Buffered.profile missedEvents) s) (f : cursor -> cursor) :
    Ended (Buffered.profile missedEvents) (Buffered.setCursor f s) :=
  ⟨h.registered, h.drops_eq, h.pending, h.unsubscribing, h.locked, h.idle, h.noHistory⟩

theorem reading_constructed (start : cursor) :
    Reading (Buffered.profile missedEvents) user
      (constructed { cursor := start, eventBuffer := BufferQueue.new } :
        State (Buffered cursor) (Read position)) where
  registered := rfl
  unsent := by
    rintro (hmem | hmem)
    · cases hmem
    · cases hmem
  drops_eq := rfl
  unsubscribing := rfl
  unasked := not_askedIn_nil
  history := fun r hr => by cases hr
  idle := rfl

theorem live_doAsyncStart (h : Reading (Buffered.profile missedEvents) user s) :
    Live user s.faults (Buffered.doAsyncStart s) where
  registered := rfl
  ongoing := ⟨Or.inl (List.mem_append_right _ (List.mem_singleton_self _)), h.drops_eq⟩
  armed := by
    intro hunsubscribing
    have hnone : s.unsubscribing = true := hunsubscribing
    rw [h.unsubscribing] at hnone
    cases hnone
  opened := fun hlocked => by cases hlocked
  asked := fun hasked => absurd hasked h.unasked
  faults_eq := rfl

end Buffered

/-!
# Handlers

Each handler of the base leads from a phase to a phase.
-/

/-- The handler has been left by no lookup of a key that is not there. -/
structure Found (key : Guid) (s : State child pending)
    (after : Except Fault Unit × State child pending) : Prop where
  faults_eq : after.2.faults = s.faults
  found : forall fault, after.1 = Except.error fault -> fault ≠ Fault.outOfRange key

theorem finds_of_eq {key : Guid} {s next : State child pending} (h : next.faults = s.faults) :
    Finds key s next := by
  rw [Finds, h, List.drop_length]
  exact List.not_mem_nil

theorem Found.settle {key : Guid} {s : State child pending}
    {after : Except Fault Unit × State child pending} (h : Found key s after) :
    Finds key s (settle after) := by
  rcases after with ⟨r, last⟩
  have hfaults : last.faults = s.faults := h.faults_eq
  cases r with
  | ok _ => exact finds_of_eq hfaults
  | error fault =>
      have hadded : (last.faults ++ [fault]).drop s.faults.length = [fault] := by
        rw [hfaults, List.drop_left]
      show Fault.outOfRange key ∉ (last.faults ++ [fault]).drop s.faults.length
      rw [hadded, List.mem_singleton]
      exact (h.found fault rfl).symm

theorem settleReceived_eq (after : Except Fault Unit × State child pending) :
    exists receiving, settleReceived after = { settle after with receiving := receiving } := by
  rcases after with ⟨r, last⟩
  cases r with
  | ok _ => exact ⟨last.receiving, rfl⟩
  | error fault => exact ⟨false, rfl⟩

theorem settleRead_receiving {batch : Type} (result : Except Error batch)
    (after : Except Fault Unit × State child pending) :
    exists receiving, settleRead result after = { settle after with receiving := receiving } := by
  rcases settleRead_eq result after with heq | heq
  · rw [heq]
    exact ⟨(settle after).receiving, rfl⟩
  · rw [heq]
    exact settleReceived_eq after

theorem Found.settleRead {batch : Type} {key : Guid} {s : State child pending}
    {after : Except Fault Unit × State child pending} (h : Found key s after)
    (result : Except Error batch) : Finds key s (Subscription.settleRead result after) := by
  rcases settleRead_receiving result after with ⟨receiving, hsettled⟩
  rw [hsettled]
  exact h.settle

/-!
# Reads

The handler of a read of the history goes on with the next read, or with the request.
-/

def Continues (p : Profile child pending batch) (user : User) (s : State child pending)
    (after : Except Fault Unit × State child pending) : Prop :=
  exists next, after = (Except.ok (), next) ∧ next.faults = s.faults ∧
    (Reading p user next ∨ Live user s.faults next)

/-- The handler is left with the subscription ended, and by no lookup of its key. -/
structure StaysEnded (p : Profile child pending batch) (key : Guid) (s : State child pending)
    (after : Except Fault Unit × State child pending) : Prop extends Found key s after where
  ended : Ended p after.2

namespace Catchup

open Subscription.Catchup

variable {key : Guid} {user : User} {s : CatchupState} {r : Read Int} {slice : StreamEventsSlice}

theorem history_continues (settings : CatchupSubscriptionSettings)
    (hhistory : r.handler = ReadHandler.history) (h : Reading profile user s)
    (hquiet : user.unsubscribesAt s.calls (sliceEvents slice) = false) :
    Continues profile user s
      ((onRead (base key user) settings r (Except.ok slice)).runOn s) := by
  have hpassed := Buffered.reading_setCursor (h.passOn hquiet)
    (fun n : Int => n + slice.events.length)
  have hrun := onRead_history_quiet (b := base key user) settings hhistory hquiet
  rw [hrun]
  split
  · exact ⟨_, rfl, rfl, Or.inr (Buffered.live_doAsyncStart hpassed)⟩
  · exact ⟨_, rfl, rfl, Or.inl (hpassed.startRead rfl)⟩

theorem missed_staysEnded (settings : CatchupSubscriptionSettings) {count : Int}
    (hmissed : r.handler = ReadHandler.missed count) (h : Ended profile s)
    (hquiet : user.unsubscribesAt s.calls (sliceEvents slice) = false) :
    StaysEnded profile key s
      ((onRead (base key user) settings r (Except.ok slice)).runOn s) := by
  rcases r with ⟨start, maxCount, handler⟩
  obtain rfl : handler = ReadHandler.missed count := hmissed
  have hpassed := Buffered.ended_setCursor (h.passOn (sliceEvents slice))
    (fun n : Int => n + (sliceEvents slice).length)
  have happear := appear_quiet (b := base key user) hquiet
  simp only [onRead, Handler.runOn_bind, happear]
  split
  · exact ⟨⟨rfl, fun fault hfault => by cases hfault⟩, hpassed.startMissed rfl⟩
  · exact ⟨⟨rfl, fun fault hfault => by cases hfault⟩, hpassed.postRead⟩

end Catchup

namespace CatchupAll

open Subscription.CatchupAll

variable {key : Guid} {user : User} {s : CatchupState} {r : Read Position}
  {slice : AllEventsSlice} {b : Base Child}

theorem history_continues (settings : CatchupSubscriptionSettings)
    (hhistory : r.handler = ReadHandler.history) (h : Reading profile user s)
    (hquiet : user.unsubscribesAt s.calls (sliceEvents slice) = false) :
    Continues profile user s
      ((onRead (base key user) settings r (Except.ok slice)).runOn s) := by
  have hpassed := h.passOn hquiet
  have hrun := onRead_history_quiet (b := base key user) settings hhistory hquiet
  rw [hrun]
  split
  · exact ⟨_, rfl, rfl, Or.inr (Buffered.live_doAsyncStart hpassed)⟩
  · refine ⟨_, rfl, rfl, Or.inl ?_⟩
    exact Reading.startRead (Buffered.reading_setCursor hpassed _) rfl

/-- The loop stops at the position to catch up to, or is left at an event without one. -/
theorem appearMissed_quiet {events : List Resolved}
    (hquiet : b.user.unsubscribesAt s.calls
      (missedBefore (positionToCatchUpTo s) events) = false) :
    exists (result : Except Fault Bool) (f : Cursor -> Cursor),
      (appearMissed b events).runOn s = (result, Buffered.setCursor f
        (s.passOn (missedBefore (positionToCatchUpTo s) events))) ∧
      forall fault, result = Except.error fault -> fault = Fault.badOptionalAccess := by
  induction events generalizing s with
  | nil => exact ⟨Except.ok true, id, by
      simp [appearMissed, missedBefore, Buffered.setCursor, State.setChild], fun _ h => by cases h⟩
  | cons e rest ih =>
      cases hposition : e.originalPosition with
      | none =>
          refine ⟨Except.error Fault.badOptionalAccess, id, ?_, ?_⟩
          · simp [appearMissed, missedBefore, hposition, value, Buffered.setCursor,
              State.setChild]
          · intro fault hfault
            cases hfault
            rfl
      | some position =>
          by_cases htarget : position = positionToCatchUpTo s
          · have hnone : missedBefore (positionToCatchUpTo s) (e :: rest) = [] := by
              simp [missedBefore, hposition, htarget]
            have hstop : position = positionToCatchUpTo (setCurrentPosition position s) :=
              htarget
            refine ⟨Except.ok false, fun c => { c with currentPosition := position }, ?_, ?_⟩
            · rw [hnone, passOn_nil]
              simp only [appearMissed, hposition, value, Handler.runOn_bind,
                Handler.runOn_pure, Handler.runOn_modify, Handler.runOn_get, if_pos hstop]
              rfl
            · intro fault hfault
              cases hfault
          · have hcons : missedBefore (positionToCatchUpTo s) (e :: rest) =
                e :: missedBefore (positionToCatchUpTo s) rest := by
              simp [missedBefore, hposition, htarget]
            have hgoes : ¬ position = positionToCatchUpTo (setCurrentPosition position s) :=
              htarget
            rw [hcons, User.unsubscribesAt, Bool.or_eq_false_iff] at hquiet
            rcases ih (s := (setCurrentPosition position s).passOn [e]) hquiet.right with
              ⟨result, f, hrun, hfault⟩
            have hfirst : (b.eventAppeared e none).runOn (setCurrentPosition position s) =
                (Except.ok (), (setCurrentPosition position s).passOn [e]) :=
              eventAppeared_quiet hquiet.left
            refine ⟨result, f ∘ fun c => { c with currentPosition := position }, ?_, hfault⟩
            rw [hcons]
            simp only [appearMissed, hposition, value, Handler.runOn_bind, Handler.runOn_pure,
              Handler.runOn_modify, Handler.runOn_get, if_neg hgoes, hfirst, hrun]
            simp [Buffered.setCursor, State.setChild, State.passOn, setCurrentPosition,
              positionToCatchUpTo]

theorem missed_staysEnded (settings : CatchupSubscriptionSettings) {count : Int}
    (hmissed : r.handler = ReadHandler.missed count) (h : Ended profile s)
    (hquiet : user.unsubscribesAt s.calls
      (missedBefore (positionToCatchUpTo s) (sliceEvents slice)) = false) :
    StaysEnded profile key s
      ((onRead (base key user) settings r (Except.ok slice)).runOn s) := by
  rcases r with ⟨start, maxCount, handler⟩
  obtain rfl : handler = ReadHandler.missed count := hmissed
  rcases appearMissed_quiet (b := base key user) hquiet with ⟨result, f, hrun, hfault⟩
  have hpassed := Buffered.ended_setCursor
    (h.passOn (missedBefore (positionToCatchUpTo s) (sliceEvents slice))) f
  simp only [onRead, Handler.runOn_bind, hrun]
  cases result with
  | error fault =>
      refine ⟨⟨rfl, ?_⟩, hpassed⟩
      intro fault' hfault'
      cases hfault'
      rw [hfault fault rfl]
      intro hsame
      cases hsame
  | ok goes =>
      cases goes with
      | true =>
          exact ⟨⟨rfl, fun fault hfault => by cases hfault⟩, hpassed.startMissed rfl⟩
      | false =>
          simp only [Bool.false_eq_true, if_false]
          rw [readSubscriptionEvents, Buffered.readSubscriptionEvents_idle hpassed.idle]
          exact ⟨⟨rfl, fun fault hfault => by cases hfault⟩, hpassed⟩

end CatchupAll

/-!
# The kinds

A read of the history that fails posts the end of the subscription.
-/

section Kinds

variable (kind : Kind child pending batch) (key : Guid) (user : User)
  {s : State child pending} {r : pending} {slice : batch}

theorem subscription_key : (kind.subscription key user).key = key := by
  cases kind <;> rfl

/-- The handlers that come after the history look the subscription up while the connection
knows it. -/
theorem guards_live (old : List Fault) :
    (kind.subscription key user).Guards (fun r => kind.profile.IsHistory r = false)
      (fun fault => fault ≠ Fault.outOfRange key) (Live user old) := by
  have h := live_guarding (kind.subscription key user).toBase
    (fun r => kind.profile.IsHistory r = false) old
  rw [kind.subscription_user, subscription_key] at h
  cases kind with
  | volatile => exact Volatile.guards key user h
  | persistent autoAck => exact Persistent.guards key user autoAck h (sends_live user old)
  | catchup fromEventNumber settings =>
      exact Catchup.guards settings key user h (fun _ _ _ => rfl) fun result hmissed hhistory =>
        absurd (decide_eq_true hhistory) (ne_true_of_eq_false hmissed)
  | catchupAll fromPosition settings =>
      exact CatchupAll.guards settings key user h (fun _ _ _ => rfl) fun result hmissed hhistory =>
        absurd (decide_eq_true hhistory) (ne_true_of_eq_false hmissed)

theorem history_continues (hhistory : kind.profile.IsHistory r = true)
    (h : Reading kind.profile user s)
    (hquiet : user.unsubscribesAt s.calls (passesOn kind s.child r slice) = false) :
    Continues kind.profile user s
      (((kind.subscription key user).onRead r (Except.ok slice)).runOn s) := by
  cases kind with
  | volatile => exact r.elim
  | persistent autoAck => exact r.elim
  | catchup fromEventNumber settings =>
      exact Catchup.history_continues settings (of_decide_eq_true hhistory) h hquiet
  | catchupAll fromPosition settings =>
      have hhandler : r.handler = ReadHandler.history := of_decide_eq_true hhistory
      simp only [passesOn, hhandler] at hquiet
      exact CatchupAll.history_continues settings hhandler h hquiet

theorem history_fails (hhistory : kind.profile.IsHistory r = true)
    (h : Reading kind.profile user s) (e : Error) :
    Continues kind.profile user s
      (((kind.subscription key user).onRead r (Except.error e)).runOn s) := by
  have hends (b : Base child) (hidle : forall members, kind.profile.Idle (b.shutdown members)) :
      Continues kind.profile user s (Except.ok (),
        b.unsubscribe (Error.subscription .subscriptionRequestNotSent) s) :=
    ⟨_, rfl, unsubscribe_faults _, Or.inl (h.unsubscribe hidle (by decide))⟩
  have hidle := (kind.sound key user).shutdown_idle
  cases kind with
  | volatile => exact r.elim
  | persistent autoAck => exact r.elim
  | catchup fromEventNumber settings =>
      rcases r with ⟨start, maxCount, handler⟩
      obtain rfl : handler = ReadHandler.history := of_decide_eq_true hhistory
      exact hends (Catchup.base key user) hidle
  | catchupAll fromPosition settings =>
      rcases r with ⟨start, maxCount, handler⟩
      obtain rfl : handler = ReadHandler.history := of_decide_eq_true hhistory
      exact hends (CatchupAll.base key user) hidle

theorem missed_staysEnded (hmissed : kind.profile.IsHistory r = false)
    (h : Ended kind.profile s)
    (hquiet : user.unsubscribesAt s.calls (passesOn kind s.child r slice) = false) :
    StaysEnded kind.profile key s
      (((kind.subscription key user).onRead r (Except.ok slice)).runOn s) := by
  cases kind with
  | volatile => exact r.elim
  | persistent autoAck => exact r.elim
  | catchup fromEventNumber settings =>
      cases hhandler : r.handler with
      | history => exact absurd (decide_eq_true hhandler) (ne_true_of_eq_false hmissed)
      | missed count => exact Catchup.missed_staysEnded settings hhandler h hquiet
  | catchupAll fromPosition settings =>
      cases hhandler : r.handler with
      | history => exact absurd (decide_eq_true hhandler) (ne_true_of_eq_false hmissed)
      | missed count =>
          simp only [passesOn, hhandler] at hquiet
          exact CatchupAll.missed_staysEnded settings hhandler h hquiet

end Kinds

/-!
# Steps of a subscription that is known

A package, and the completion of the timer of the unsubscribe request, while the
connection knows the subscription.
-/

section Steps

variable {c : Class child pending batch} {p : Profile child pending batch} {b : Base child}
  {user : User} {key : Guid} {old : List Fault} {s s' next : State child pending}

theorem Live.renew (h : Live user old s) : Live user s.faults s :=
  { h with faults_eq := rfl }

/-- The answer or the expiry of an unsubscribe request that has been sent is still to come. -/
theorem Live.awaiting (h : Live user old s) (hunsubscribing : s.unsubscribing = true) :
    Awaiting s :=
  ⟨hunsubscribing, Or.inr (h.armed hunsubscribing)⟩

theorem Live.takeRead (h : Live user old s) (i : Nat) : Live user old (s.takeRead i) :=
  ⟨h.registered, h.ongoing, h.armed, h.opened, h.asked, h.faults_eq⟩

theorem Live.onPackageReceived (h : Live user old s) (message : ServerMessage) :
    Live user old (b.onPackageReceived message s) := by
  by_cases hmessage : Swallowed message
  · rwa [onPackageReceived_swallowed hmessage]
  · rcases onPackageReceived_unsubscribes (b := b) (s := s) hmessage with ⟨ec, _, hrun⟩
    rw [hrun]
    exact h.unsubscribe ec

theorem guards_entry {reads : pending -> Prop} {faults : Fault -> Prop}
    (hguards : c.Guards reads faults (Live user old)) (message : ServerMessage) :
    Handler.Guards (Live user old) faults (c.entry c.onPackageReceived message) := by
  refine Handler.guards_bind Handler.guards_get fun s => ?_
  split
  · exact Handler.guards_pure _
  · refine Handler.guards_bind (hguards.received message) fun handled => ?_
    split
    · exact Handler.guards_pure _
    · exact Handler.guards_modify fun _ hs => hs.onPackageReceived message

/-- A step has looked up no key that is not there, and has left the subscription known. -/
structure StaysLive (user : User) (key : Guid) (s next : State child pending) : Prop where
  finds : Finds key s next
  live : Live user next.faults next

theorem live_settle {after : Except Fault Unit × State child pending}
    (h : Live user old after.2) : Live user (settle after).faults (settle after) := by
  rcases after with ⟨r, last⟩
  cases r with
  | ok _ => exact h.renew
  | error fault => exact ⟨h.registered, h.ongoing, h.armed, h.opened, h.asked, rfl⟩

/-- A handler that is guarded, run on the state with what it handles taken from it. -/
theorem staysLive_settle {h : Handles child pending Unit}
    (hguards : Handler.Guards (Live user s.faults) (fun fault => fault ≠ Fault.outOfRange key) h)
    (hs : Live user s.faults s') : StaysLive user key s (settle (h.runOn s')) := by
  have hafter := hguards s' hs
  have hfound : Found key s (h.runOn s') := ⟨hafter.left.faults_eq, hafter.right⟩
  exact ⟨hfound.settle, live_settle hafter.left⟩

theorem StaysLive.receive (h : StaysLive user key s next) (receiving : Bool) :
    StaysLive user key s { next with receiving := receiving } :=
  ⟨h.finds, h.live.registered, h.live.ongoing, h.live.armed, h.live.opened, h.live.asked, rfl⟩

theorem staysLive_settleRead {batch : Type} (result : Except Error batch)
    {h : Handles child pending Unit}
    (hguards : Handler.Guards (Live user s.faults) (fun fault => fault ≠ Fault.outOfRange key) h)
    (hs : Live user s.faults s') : StaysLive user key s (settleRead result (h.runOn s')) := by
  rcases settleRead_receiving result (h.runOn s') with ⟨receiving, hread⟩
  rw [hread]
  exact (staysLive_settle hguards hs).receive receiving

theorem staysLive_settleReceived {h : Handles child pending Unit}
    (hguards : Handler.Guards (Live user s.faults) (fun fault => fault ≠ Fault.outOfRange key) h)
    (hs : Live user s.faults s) : StaysLive user key s (settleReceived (h.runOn s)) := by
  rcases settleReceived_eq (h.runOn s) with ⟨receiving, hreceived⟩
  rw [hreceived]
  exact (staysLive_settle hguards hs).receive receiving

theorem live_completed (h : Live user old s) {result : WaitResult}
    (hresult : s.deadline = Timer.queued result) :
    Live user old ((b.completed result).runOn (s.setDeadline Timer.idle)).2 := by
  have hidle (hunsubscribing : s.unsubscribing = false) :
      Live user old (s.setDeadline Timer.idle) := by
    refine ⟨h.registered, h.ongoing, ?_, h.opened, h.asked, h.faults_eq⟩
    intro hrequest
    rw [show s.unsubscribing = true from hrequest] at hunsubscribing
    cases hunsubscribing
  cases result with
  | aborted =>
      apply hidle
      rw [← Bool.not_eq_true]
      intro hunsubscribing
      have harmed := h.armed hunsubscribing
      rw [hresult] at harmed
      exact Timer.not_armed_aborted harmed
  | expired =>
      cases hunsubscribing : s.unsubscribing with
      | false =>
          have hnone : (s.setDeadline Timer.idle).unsubscribing = false := hunsubscribing
          simpa [Base.completed, hnone] using hidle hunsubscribing
      | true =>
          have hsome : (s.setDeadline Timer.idle).unsubscribing = true := hunsubscribing
          simp only [Base.completed, Handler.runOn_bind, Handler.runOn_get, hsome, if_true,
            Handler.runOn_modify]
          exact live_unsubscribe (b := b)
            (s := { s with deadline := Timer.idle, unsubscribing := false }) h.registered
            h.ongoing (fun hrequest => by cases hrequest) h.faults_eq
            (Error.connection .operationTimeout)

/-!
# Steps that call `dropped`

A posted closure, the answer to the unsubscribe request, or its timeout; then none of the
others is under way.
-/

theorem ended_postedDropped (h : Routed p s) (hunsubscribing : s.unsubscribing = false)
    {i : Nat} {ec : Error} (hposted : s.posted[i]? = some (Posted.dropped ec)) :
    Ended p ((erased (s.takePosted i)).called (Callback.dropped ec)) := by
  have hone : pendingDrops (s.takePosted i) + 1 = pendingDrops s := pendingDrops_eraseIdx hposted
  have hways := h.one_way
  have hlocked := h.locked_of_pending (by omega)
  exact
    { registered := rfl
      drops_eq := by
        rw [drops_called_dropped]
        show drops s + 1 = 1
        omega
      pending := by
        show pendingDrops (s.takePosted i) = 0
        omega
      unsubscribing := hunsubscribing
      locked := hlocked
      idle := h.locked_idle hlocked
      noHistory := h.noHistory_of_locked hlocked }

theorem ended_answered (h : Routed p s) (hawaiting : Awaiting s) :
    Ended p { (answered s).called (Callback.dropped (Error.subscription .unsubscribed)) with
      unsubscribing := false } := by
  have hways := h.awaiting hawaiting
  have hlocked := h.locked_of_unsubscribing hawaiting.left
  exact
    { registered := rfl
      drops_eq := by
        show drops ((answered s).called _) = 1
        rw [drops_called_dropped]
        show drops s + 1 = 1
        rw [hways.left]
      pending := hways.right
      unsubscribing := rfl
      locked := hlocked
      idle := h.locked_idle hlocked
      noHistory := h.noHistory_of_locked hlocked }

end Steps

/-!
# Steps

Before `dropped` no step that is in phase is disturbed: it looks up no key that is not
there, and leads to a phase.
-/

section Kinds

variable {kind : Kind child pending batch} {key : Guid} {user : User} {i : Input batch}
  {s next : State child pending}

theorem undisturbed_of_inPhase (hdrops : drops s = 0) (hok : InPhase kind user s i) :
    Undisturbed kind.profile user s i := by
  cases i with
  | received message => exact fun hunsubscribing _ => hok hunsubscribing
  | readCompleted j result =>
      cases hread : s.reads[j]? with
      | none => simp only [Undisturbed, hread]
      | some r =>
          simp only [Undisturbed, hread]
          cases result with
          | ok slice =>
              exact Or.inr (Or.inr (Or.inl fun c hc => not_isDropped_of_drops hdrops hc))
          | error e => exact Or.inr (Or.inl hok)
  | posted j => trivial
  | expired => trivial
  | completed => trivial
  | unsubscribe => trivial

structure Advances (key : Guid) (i : Input batch) (s next : State child pending)
    (phase : Prop) : Prop where
  finds : i = Input.completed ∨ Finds key s next
  phase : phase

def LiveOrEnded (p : Profile child pending batch) (user : User) (s : State child pending) :
    Prop :=
  Live user s.faults s ∨ Ended p s

theorem StaysLive.advances (h : StaysLive user key s next) :
    Advances key i s next (LiveOrEnded kind.profile user next) :=
  ⟨Or.inr h.finds, Or.inl h.live⟩

theorem postedDropped_ends (h : Routed kind.profile s) (hunsubscribing : s.unsubscribing = false)
    {j : Nat} {ec : Error} (hposted : s.posted[j]? = some (Posted.dropped ec))
    (hok : InPhase kind user s (Input.posted j))
    (hnext : next = settle (((kind.subscription key user).runPosted (Posted.dropped ec)).runOn
      (s.takePosted j))) :
    Finds key s next ∧ Ended kind.profile next := by
  have hquiet : user.onDropped (s.calls ++ [Callback.dropped ec]) = false := by
    apply hok
    rw [hposted]
    rfl
  have hended := ended_postedDropped h hunsubscribing hposted
  rw [hnext, Class.runPosted, postedDropped_run, kind.subscription_user,
    show (s.takePosted j).calls = s.calls from rfl, hquiet]
  exact ⟨finds_of_eq rfl, hended⟩

theorem completed_unasked (b : Base child) (hunsubscribing : s.unsubscribing = false)
    (result : WaitResult) :
    exists faults, settle ((b.completed result).runOn (s.setDeadline Timer.idle)) =
      { s with deadline := Timer.idle, faults := faults } := by
  have hnone : (s.setDeadline Timer.idle).unsubscribing = false := hunsubscribing
  cases result with
  | aborted => exact ⟨s.faults, rfl⟩
  | expired =>
      refine ⟨s.faults ++ [Fault.outOfRange b.key], ?_⟩
      simp only [Base.completed, Handler.runOn_bind, Handler.runOn_get, hnone]
      rfl

theorem reading_step (h : Reading kind.profile user s) (hrouted : Routed kind.profile s)
    (hok : InPhase kind user s i) (hstep : step (kind.subscription key user) s i = some next) :
    Advances key i s next
      (Reading kind.profile user next ∨ LiveOrEnded kind.profile user next) := by
  cases stepped_of_step hstep with
  | received message _ =>
      rw [receive_unregistered h.unsubscribing h.registered]
      exact ⟨Or.inr (finds_of_eq rfl), Or.inl h⟩
  | @readCompleted j result r hread =>
      have hhistory := h.history r (List.mem_of_getElem? hread)
      have hcontinues : Continues kind.profile user (s.takeRead j)
          (((kind.subscription key user).onRead r result).runOn (s.takeRead j)) := by
        cases result with
        | ok slice =>
            have hquiet := (hok r hread).resolve_left fun hongoing => h.unsent hongoing.left
            exact history_continues kind key user hhistory (h.takeRead j) hquiet
        | error e => exact history_fails kind key user hhistory (h.takeRead j) e
      rcases hcontinues with ⟨after, hafter, hfaults, hphase⟩
      rw [hafter, settleRead_ok]
      refine ⟨Or.inr (finds_of_eq hfaults), ?_⟩
      rcases hphase with hreading | hlive
      · exact Or.inl hreading
      · exact Or.inr (Or.inl hlive.renew)
  | @posted j closure hposted =>
      cases closure with
      | dropped ec =>
          rcases postedDropped_ends hrouted h.unsubscribing hposted hok rfl with
            ⟨hfinds, hended⟩
          exact ⟨Or.inr hfinds, Or.inr (Or.inr hended)⟩
      | readSubscriptionEvents =>
          rw [Class.runPosted, (kind.sound key user).buffer_idle (s := s.takePosted j) h.idle]
          exact ⟨Or.inr (finds_of_eq rfl), Or.inl h.frame⟩
  | expired _ => exact ⟨Or.inr (finds_of_eq rfl), Or.inl h.frame⟩
  | @completed result _ =>
      rcases completed_unasked (kind.subscription key user).toBase h.unsubscribing result with
        ⟨faults, hafter⟩
      rw [hafter]
      exact ⟨Or.inl rfl, Or.inl h.frame⟩
  | unsubscribe => exact absurd (show Ongoing s from hok).left h.unsent

theorem ended_settle {after : Except Fault Unit × State child pending}
    (h : Ended kind.profile after.2) : Ended kind.profile (settle after) := by
  rcases after with ⟨r, last⟩
  cases r with
  | ok _ => exact h
  | error fault => exact h.frame

theorem ended_settleRead {batch : Type} (result : Except Error batch)
    {after : Except Fault Unit × State child pending} (h : Ended kind.profile after.2) :
    Ended kind.profile (settleRead result after) := by
  rcases settleRead_receiving result after with ⟨receiving, hsettled⟩
  have hended := ended_settle h
  rw [hsettled]
  exact ⟨hended.registered, hended.drops_eq, hended.pending, hended.unsubscribing,
    hended.locked, hended.idle, hended.noHistory⟩

/-- Once `dropped` has been called only the answers to reads of missed events still do
something. -/
theorem ended_step (h : Ended kind.profile s) (hok : InPhase kind user s i)
    (hstep : step (kind.subscription key user) s i = some next) :
    Advances key i s next (Ended kind.profile next) := by
  have hover : ¬ Ongoing s := by
    intro hongoing
    have hdrops := h.drops_eq
    rw [hongoing.right] at hdrops
    cases hdrops
  cases stepped_of_step hstep with
  | received message _ =>
      rw [receive_unregistered h.unsubscribing h.registered]
      exact ⟨Or.inr (finds_of_eq rfl), h⟩
  | @readCompleted j result r hread =>
      cases result with
      | error e =>
          have hunlocked : s.handleGuard = false := hok
          rw [h.locked] at hunlocked
          cases hunlocked
      | ok slice =>
          have hmissed := h.noHistory r (List.mem_of_getElem? hread)
          have hquiet := (hok r hread).resolve_left hover
          have hstays := missed_staysEnded kind key user hmissed (h.takeRead j) hquiet
          exact ⟨Or.inr (hstays.toFound.settleRead _), ended_settleRead _ hstays.ended⟩
  | @posted j closure hposted =>
      have hone := pendingDrops_eraseIdx hposted
      cases closure with
      | dropped ec =>
          rw [h.pending] at hone
          cases hone
      | readSubscriptionEvents =>
          rw [Class.runPosted, (kind.sound key user).buffer_idle (s := s.takePosted j) h.idle]
          refine ⟨Or.inr (finds_of_eq rfl), ?_⟩
          exact ⟨h.registered, h.drops_eq, hone.trans h.pending, h.unsubscribing, h.locked,
            h.idle, h.noHistory⟩
  | expired _ => exact ⟨Or.inr (finds_of_eq rfl), h.frame⟩
  | @completed result _ =>
      rcases completed_unasked (kind.subscription key user).toBase h.unsubscribing result with
        ⟨faults, hafter⟩
      rw [hafter]
      exact ⟨Or.inl rfl, h.frame⟩
  | unsubscribe => exact absurd hok hover

theorem live_received (h : Live user s.faults s) (hrouted : Routed kind.profile s)
    {message : ServerMessage} (hok : InPhase kind user s (Input.received message))
    (hnext : next = settleReceived (((kind.subscription key user).receive message).runOn s)) :
    Finds key s next ∧ LiveOrEnded kind.profile user next := by
  subst hnext
  cases hunsubscribing : s.unsubscribing with
  | true =>
      have hended := ended_answered hrouted (h.awaiting hunsubscribing)
      simp only [Class.receive, Handler.runOn_bind, Handler.runOn_get, hunsubscribing, if_true,
        unsubscribeAnswered_run, kind.subscription_user, hok hunsubscribing]
      exact ⟨finds_of_eq rfl, Or.inr hended⟩
  | false =>
      have hentry : ((kind.subscription key user).receive message).runOn s =
          ((kind.subscription key user).entry (kind.subscription key user).onPackageReceived
            message).runOn s := by
        simp [Class.receive, hunsubscribing, h.registered]
      have hguards := guards_entry (guards_live kind key user s.faults) message
      rw [hentry]
      have hstays := staysLive_settleReceived hguards h
      exact ⟨hstays.finds, Or.inl hstays.live⟩

theorem live_step (h : Live user s.faults s) (hrouted : Routed kind.profile s)
    (hok : InPhase kind user s i) (hstep : step (kind.subscription key user) s i = some next) :
    Advances key i s next (LiveOrEnded kind.profile user next) := by
  have hguards := guards_live kind key user s.faults
  cases stepped_of_step hstep with
  | received message _ =>
      rcases live_received h hrouted hok rfl with ⟨hfinds, hphase⟩
      exact ⟨Or.inr hfinds, hphase⟩
  | @readCompleted j result r hread =>
      have hmissed := hrouted.noHistory_of_registered h.registered r (List.mem_of_getElem? hread)
      exact (staysLive_settleRead result (hguards.read result hmissed) (h.takeRead j)).advances
  | @posted j closure hposted =>
      have hone := pendingDrops_eraseIdx hposted
      cases closure with
      | dropped ec =>
          have hnone : s.unsubscribing = false := by
            rw [← Bool.not_eq_true]
            intro hunsubscribing
            rw [(hrouted.awaiting (h.awaiting hunsubscribing)).right] at hone
            cases hone
          rcases postedDropped_ends hrouted hnone hposted hok rfl with ⟨hfinds, hended⟩
          exact ⟨Or.inr hfinds, Or.inr hended⟩
      | readSubscriptionEvents =>
          have hsame : pendingDrops (s.takePosted j) = pendingDrops s := hone
          have htaken : Live user s.faults (s.takePosted j) := by
            refine ⟨h.registered, h.ongoing, h.armed, ?_, h.asked, rfl⟩
            rw [hsame]
            exact h.opened
          exact (staysLive_settle hguards.buffer htaken).advances
  | @expired t ht =>
      have harmed : t.Armed := Or.inr (Timer.expire?_eq_some ht).right
      refine ⟨Or.inr (finds_of_eq rfl), Or.inl ?_⟩
      exact ⟨h.registered, h.ongoing, fun _ => harmed, h.opened, h.asked, rfl⟩
  | completed hresult =>
      have hafter := live_completed (b := (kind.subscription key user).toBase) h
        (Timer.result?_eq_some hresult)
      exact ⟨Or.inl rfl, Or.inl (live_settle hafter)⟩
  | unsubscribe => exact (staysLive_settle (guards_unsubscribeByKey _ _) h).advances

/-!
# Runs

The phase of a run follows from its inputs.  There is exactly one way to `dropped` once it
has been asked for, except where the history of a catch-up subscription is still being
read.
-/

inductive Phase (kind : Kind child pending batch) (user : User) (s : State child pending)
    (inputs : List (Input batch)) : Prop where
  | reading (h : Reading kind.profile user s) (hrouted : Routed kind.profile s)
      (hunasked : Input.unsubscribe ∉ inputs)
  | live (h : Live user s.faults s) (hrouted : Routed kind.profile s)
      (hlocked : Input.unsubscribe ∈ inputs -> s.handleGuard = true)
  | ended (h : Ended kind.profile s)

theorem step_unsubscribe_locked (hregistered : s.registered = true)
    (hstep : step (kind.subscription key user) s Input.unsubscribe = some next) :
    next.handleGuard = true := by
  cases hstep
  rw [unsubscribeByKey_of_registered hregistered]
  show (Base.fail _ _ s).handleGuard = true
  unfold Base.fail
  split
  · rename_i hlocked
    exact hlocked
  · exact unsubscribe_handleGuard _

theorem step_phase {inputs : List (Input batch)} (h : Phase kind user s inputs)
    (hok : InPhase kind user s i) (hstep : step (kind.subscription key user) s i = some next) :
    Advances key i s next (Phase kind user next (inputs ++ [i])) := by
  have hsound := kind.sound key user
  have hnext (hdrops : drops s = 0) (hrouted : Routed kind.profile s) :
      Routed kind.profile next := by
    apply step_routed hsound hrouted ?_ hstep
    rw [kind.subscription_user]
    exact undisturbed_of_inPhase hdrops hok
  cases h with
  | reading h hrouted hunasked =>
      have hadvances := reading_step h hrouted hok hstep
      have hunasked' : Input.unsubscribe ∉ inputs ++ [i] := by
        intro hmem
        rcases List.mem_append.mp hmem with hold | hnew
        · exact hunasked hold
        · rw [← List.mem_singleton.mp hnew] at hok
          exact h.unsent (show Ongoing s from hok).left
      refine ⟨hadvances.finds, ?_⟩
      rcases hadvances.phase with hreading | hlive | hended
      · exact Phase.reading hreading (hnext h.drops_eq hrouted) hunasked'
      · exact Phase.live hlive (hnext h.drops_eq hrouted) fun hmem => absurd hmem hunasked'
      · exact Phase.ended hended
  | live h hrouted hlocked =>
      have hadvances := live_step h hrouted hok hstep
      have hlocked' : Input.unsubscribe ∈ inputs ++ [i] -> next.handleGuard = true := by
        intro hmem
        rcases List.mem_append.mp hmem with hold | hnew
        · have hbefore : Locked kind.profile s :=
            ⟨hlocked hold, hrouted.noHistory_of_locked (hlocked hold)⟩
          exact (step_locked (kind.locks key user) hbefore hstep).locked
        · rw [← List.mem_singleton.mp hnew] at hstep
          exact step_unsubscribe_locked h.registered hstep
      refine ⟨hadvances.finds, ?_⟩
      rcases hadvances.phase with hlive | hended
      · exact Phase.live hlive (hnext h.ongoing.right hrouted) hlocked'
      · exact Phase.ended hended
  | ended h =>
      have hadvances := ended_step h hok hstep
      exact ⟨hadvances.finds, Phase.ended hadvances.phase⟩

theorem started_phase (kind : Kind child pending batch) (user : User) :
    Phase kind user kind.started [] := by
  have hrouted := kind.started_routed
  cases kind with
  | volatile =>
      apply Phase.live ?_ hrouted fun hmem => by cases hmem
      exact
        { registered := rfl
          ongoing := ⟨Or.inl (List.mem_singleton_self _), rfl⟩
          armed := fun hunsubscribing => by cases hunsubscribing
          opened := fun hlocked => by cases hlocked
          asked := fun hasked => absurd hasked not_askedIn_nil
          faults_eq := rfl }
  | persistent autoAck =>
      apply Phase.live ?_ hrouted fun hmem => by cases hmem
      exact
        { registered := rfl
          ongoing := ⟨Or.inr (List.mem_singleton_self _), rfl⟩
          armed := fun hunsubscribing => by cases hunsubscribing
          opened := fun hlocked => by cases hlocked
          asked := fun hasked => absurd hasked not_askedIn_nil
          faults_eq := rfl }
  | catchup fromEventNumber settings =>
      apply Phase.reading ?_ hrouted fun hmem => by cases hmem
      have hconstructed : Reading Catchup.profile user (constructed
          { cursor := fromEventNumber
            eventBuffer := BufferQueue.new }) := Buffered.reading_constructed _
      exact hconstructed.startRead rfl
  | catchupAll fromPosition settings =>
      apply Phase.reading ?_ hrouted fun hmem => by cases hmem
      have hconstructed : Reading CatchupAll.profile user (constructed
          { cursor :=
              { currentPosition := fromPosition
                positionToCatchUpTo := { commitPosition := -1, preparePosition := -1 } }
            eventBuffer := BufferQueue.new }) := Buffered.reading_constructed _
      exact hconstructed.startRead rfl

theorem Phase.unsubscribesOnce {inputs : List (Input batch)} (h : Phase kind user s inputs) :
    UnsubscribesOnce user inputs s := by
  have hleads : Asked user inputs s -> s.handleGuard = true ∧ OneWay s := by
    intro hasked
    cases h with
    | reading h hrouted hunasked =>
        rcases hasked with hinput | hcallback
        · exact absurd hinput hunasked
        · exact absurd hcallback h.unasked
    | live h hrouted hlocked =>
        have hguard : s.handleGuard = true := hasked.elim hlocked h.asked
        refine ⟨hguard, ?_, h.armed⟩
        have hways := hrouted.one_way
        cases hunsubscribing : s.unsubscribing with
        | true =>
            have hnone := hrouted.awaiting (h.awaiting hunsubscribing)
            rw [hnone.left, hnone.right]
            rfl
        | false =>
            have hpending : pendingDrops s ≠ 0 := by
              apply (h.opened hguard).resolve_right
              rw [hunsubscribing]
              exact Bool.false_ne_true
            show drops s + pendingDrops s = 1
            omega
    | ended h =>
        refine ⟨h.locked, ?_, ?_⟩
        · rw [h.drops_eq, h.pending, h.unsubscribing]
          rfl
        · intro hunsubscribing
          rw [h.unsubscribing] at hunsubscribing
          cases hunsubscribing
  refine ⟨?_, hleads, fun hasked => (hleads hasked).right.drops_eq⟩
  cases h with
  | reading h _ _ => exact le_of_eq_of_le h.drops_eq (Nat.zero_le 1)
  | live h _ _ => exact le_of_eq_of_le h.ongoing.right (Nat.zero_le 1)
  | ended h => exact le_of_eq h.drops_eq

end Kinds

/-- In a run in which `unsubscribe()` is called only while the subscription is ongoing and no
read fails once the guard is locked, every call finds the key, and the calls lead to one
invocation of `dropped` in total. -/
theorem run_unsubscribesOnce (kind : Kind child pending batch) (key : Guid) (user : User)
    {inputs : List (Input batch)} {last : State child pending}
    (hok : EveryStep (step (kind.subscription key user)) (InPhase kind user) kind.started inputs)
    (hrun : run (step (kind.subscription key user)) kind.started inputs = some last) :
    EveryStep (step (kind.subscription key user)) (FindsKey (kind.subscription key user))
        kind.started inputs ∧
      UnsubscribesOnce user inputs last := by
  have hstarted := started_phase kind user
  constructor
  · apply everyStep_imp (fun s => exists taken, Phase kind user s taken) ?_ ?_
      ⟨[], hstarted⟩ hok
    · rintro s i next ⟨taken, hphase⟩ hi hstep
      exact ⟨taken ++ [i], (step_phase hphase hi hstep).phase⟩
    · rintro s i ⟨taken, hphase⟩ hi next hstep
      rw [subscription_key]
      exact (step_phase hphase hi hstep).finds
  · have hphase := run_history (Phase kind user) (fun hs hi hstep => (step_phase hs hi hstep).phase)
      hstarted hok hrun
    rw [List.nil_append, historyOf_inputs hrun] at hphase
    exact hphase.unsubscribesOnce

def unsubscribed : ServerMessage :=
  ServerMessage.subscriptionDropped { reason := some .unsubscribed }

/-- The program unsubscribes twice from a live subscription, before the answer comes. -/
def unsubscribedTwice : List (Input StreamEventsSlice) :=
  [Input.readCompleted 0 (Except.ok (streamSlice true [0])), Input.received (confirmation 1),
    Input.unsubscribe, Input.unsubscribe, Input.received unsubscribed, Input.completed]

theorem unsubscribedTwice_unsubscribesOnce :
    exists last, run (step (catchupFromStart.subscription (Guid.ofByte 1) User.passive))
        catchupFromStart.started unsubscribedTwice = some last ∧
      EveryStep (step (catchupFromStart.subscription (Guid.ofByte 1) User.passive))
        (FindsKey (catchupFromStart.subscription (Guid.ofByte 1) User.passive))
        catchupFromStart.started unsubscribedTwice ∧
      UnsubscribesOnce User.passive unsubscribedTwice last := by
  obtain ⟨last, hlast⟩ : exists last,
      run (step (catchupFromStart.subscription (Guid.ofByte 1) User.passive))
        catchupFromStart.started unsubscribedTwice = some last :=
    Option.isSome_iff_exists.mp (by decide)
  exact ⟨last, hlast,
    run_unsubscribesOnce catchupFromStart (Guid.ofByte 1) User.passive (by decide) hlast⟩

theorem unsubscribe_whileReading_throws :
    (run (step (catchupFromStart.subscription (Guid.ofByte 1) User.passive))
        catchupFromStart.started [Input.unsubscribe]).map State.faults =
      some [Fault.outOfRange (Guid.ofByte 1)] ∧
    ¬ EveryStep (step (catchupFromStart.subscription (Guid.ofByte 1) User.passive))
        (FindsKey (catchupFromStart.subscription (Guid.ofByte 1) User.passive))
        catchupFromStart.started [Input.unsubscribe] := by
  have hfaults : (run (step (catchupFromStart.subscription (Guid.ofByte 1) User.passive))
      catchupFromStart.started [Input.unsubscribe]).map State.faults =
        some [Fault.outOfRange (Guid.ofByte 1)] := by
    decide
  refine ⟨hfaults, ?_⟩
  rintro ⟨hfinds, _⟩
  rcases hfinds _ rfl with hinput | hmissing
  · cases hinput
  · exact hmissing (by decide)

end Unsubscribing

end Subscription
end EventStoreClient
