import EventStoreClient.Subscription.Delivery
import EventStoreClient.Subscription.Routes

/-!
# Callbacks of a catch-up subscription

What passing events on leaves of a subscription that reads for them, whatever its user does
in the callbacks.  A callback that unsubscribes changes neither the reads that are under
way nor the cursor, and it is left by a fault if the connection does not know the
subscription.
-/

namespace EventStoreClient
namespace Subscription

open Buffer Connection Foundation Operations Wire

variable {child pending : Type}

def User.unsubscribesAt (user : User) : List Callback -> List Resolved -> Bool
  | _, [] => false
  | calls, e :: rest =>
      let calls := calls ++ [Callback.eventAppeared e none]
      user.onEvent calls || user.unsubscribesAt calls rest

def Interrupts (user : User) (events : List Resolved) (s : State child pending) : Prop :=
  s.registered = false ∧ user.unsubscribesAt s.calls events = true

theorem unsubscribesAt_append (user : User) (calls : List Callback)
    (events more : List Resolved) :
    user.unsubscribesAt calls (events ++ more) =
      (user.unsubscribesAt calls events ||
        user.unsubscribesAt (calls ++ events.map fun e => Callback.eventAppeared e none)
          more) := by
  induction events generalizing calls with
  | nil => simp [User.unsubscribesAt]
  | cons e rest ih => simp [User.unsubscribesAt, ih, Bool.or_assoc]

theorem not_interrupts_nil (user : User) (s : State child pending) :
    ¬ Interrupts user [] s :=
  fun h => absurd h.right Bool.false_ne_true

theorem unsubscribesAt_passive (calls : List Callback) (events : List Resolved) :
    User.passive.unsubscribesAt calls events = false := by
  induction events generalizing calls with
  | nil => rfl
  | cons e rest ih =>
      rw [User.unsubscribesAt, ih, Bool.or_false]
      rfl

theorem eventAppeared_quiet {b : Base child} {s : State child pending} {e : Resolved}
    (hquiet : b.user.onEvent (s.calls ++ [Callback.eventAppeared e none]) = false) :
    (b.eventAppeared e none).runOn s = (Except.ok (), s.passOn [e]) := by
  rw [eventAppeared_run]
  have hcalled : b.user.onEvent (s.called (Callback.eventAppeared e none)).calls = false :=
    hquiet
  rw [hcalled]
  rfl

theorem not_interrupts_of_registered {s : State child pending} (hregistered : s.registered = true)
    (user : User) (events : List Resolved) : ¬ Interrupts user events s := by
  intro h
  have hunregistered := h.left
  rw [hregistered] at hunregistered
  cases hunregistered

namespace Buffered

variable {cursor : Type} {s mid next : State (Buffered cursor) pending}
  {f g : cursor -> cursor} {events more : List Resolved}

/-- Events have been passed on, and the cursor has been moved.  Nothing else has changed,
unless the guard has been locked. -/
structure PassedOn (f : cursor -> cursor) (events : List Resolved)
    (s next : State (Buffered cursor) pending) : Prop where
  cursor_eq : next.child.cursor = f s.child.cursor
  calls_eq : next.calls = (s.passOn events).calls
  reads_eq : next.reads = s.reads
  registered_eq : next.registered = s.registered
  lastEventNumber_eq : next.lastEventNumber = s.lastEventNumber
  faults_eq : next.faults = s.faults
  unread : Posted.readSubscriptionEvents ∈ next.posted ->
    Posted.readSubscriptionEvents ∈ s.posted
  unlocked : next.handleGuard = false -> next = setCursor f (s.passOn events)

namespace PassedOn

theorem refl (s : State (Buffered cursor) pending) : PassedOn id [] s s :=
  ⟨rfl, by simp, rfl, rfl, rfl, rfl, id, fun _ => by simp [setCursor, State.setChild]⟩

theorem setCursor (f : cursor -> cursor) (s : State (Buffered cursor) pending) :
    PassedOn f [] s (setCursor f s) :=
  ⟨rfl, by simp [Buffered.setCursor, State.setChild], rfl, rfl, rfl, rfl, id,
    fun _ => by simp⟩

theorem trans (h : PassedOn f events s mid) (hnext : PassedOn g more mid next) :
    PassedOn (g ∘ f) (events ++ more) s next where
  cursor_eq := by rw [hnext.cursor_eq, h.cursor_eq, Function.comp_apply]
  calls_eq := by
    rw [hnext.calls_eq, ← passOn_append]
    simp only [State.passOn, h.calls_eq]
  reads_eq := hnext.reads_eq.trans h.reads_eq
  registered_eq := hnext.registered_eq.trans h.registered_eq
  lastEventNumber_eq := hnext.lastEventNumber_eq.trans h.lastEventNumber_eq
  faults_eq := hnext.faults_eq.trans h.faults_eq
  unread := fun hmem => h.unread (hnext.unread hmem)
  unlocked := by
    intro hunlocked
    have hlast := hnext.unlocked hunlocked
    have hmid : mid.handleGuard = false := by
      rw [hlast] at hunlocked
      exact hunlocked
    rw [hlast, h.unlocked hmid]
    simp [Buffered.setCursor, State.setChild, State.passOn]

theorem appeared_eq (h : PassedOn f events s next) :
    appeared next = appeared s ++ events := by
  rw [← appeared_passOn, appeared, h.calls_eq, appeared]

theorem interrupts_append (h : PassedOn f events s next) (user : User)
    (more : List Resolved) :
    Interrupts user (events ++ more) s <->
      Interrupts user events s ∨ Interrupts user more next := by
  simp only [Interrupts, unsubscribesAt_append, h.registered_eq, h.calls_eq, State.passOn,
    Bool.or_eq_true]
  exact and_or_left

end PassedOn

theorem eventAppeared_cases {b : Base (Buffered cursor)} (hshutdown : b.shutdown = shutdown)
    (e : Resolved) (s : State (Buffered cursor) pending) :
    (¬ Interrupts b.user [e] s ∧ exists next, PassedOn id [e] s next ∧
      (b.eventAppeared e).runOn s = (Except.ok (), next)) ∨
    (Interrupts b.user [e] s ∧ exists fault next, PassedOn id [e] s next ∧
      (b.eventAppeared e).runOn s = (Except.error fault, next)) := by
  have hpassed : PassedOn id [e] s (s.called (Callback.eventAppeared e none)) :=
    ⟨rfl, rfl, rfl, rfl, rfl, rfl, id,
      fun _ => by simp [setCursor, State.setChild, State.called, State.passOn]⟩
  rw [eventAppeared_run]
  cases hregistered : s.registered with
  | true =>
      left
      refine ⟨not_interrupts_of_registered hregistered _ _, ?_⟩
      have hcalled : (s.called (Callback.eventAppeared e none)).registered = true := hregistered
      rw [unsubscribeByKey_of_registered hcalled, Base.fail]
      split
      · split
        · exact ⟨_, hpassed, rfl⟩
        · refine ⟨_, ?_, rfl⟩
          have hunsubscribed : PassedOn id [] (s.called (Callback.eventAppeared e none))
              (b.unsubscribe (Error.subscription .unsubscribed)
                (s.called (Callback.eventAppeared e none))) := by
            rw [Base.unsubscribe, if_pos rfl]
            refine ⟨?_, by simp [State.send, State.passOn], rfl, rfl, rfl, rfl, id,
              fun hunlocked => absurd hunlocked Bool.true_eq_false.mp⟩
            show (b.shutdown s.child).cursor = s.child.cursor
            rw [hshutdown]
            rfl
          exact hpassed.trans hunsubscribed
      · exact ⟨_, hpassed, rfl⟩
  | false =>
      have hcalled : (s.called (Callback.eventAppeared e none)).registered = false := hregistered
      rw [unsubscribeByKey_of_not_registered hcalled]
      split
      · rename_i hunsubscribes
        right
        refine ⟨⟨hregistered, ?_⟩, _, _, hpassed, rfl⟩
        simpa [User.unsubscribesAt, State.called] using hunsubscribes
      · rename_i hunsubscribes
        left
        refine ⟨?_, _, hpassed, rfl⟩
        intro h
        apply hunsubscribes
        simpa [User.unsubscribesAt, State.called] using h.right

end Buffered

/-!
# The history of a user who does not unsubscribe

The loops over a slice pass all of its events on.
-/

namespace Catchup

variable {b : Base Child} {s : CatchupState}

theorem appear_quiet {events : List Resolved}
    (hquiet : b.user.unsubscribesAt s.calls events = false) :
    (appear b events).runOn s =
      (Except.ok (), Buffered.setCursor (fun n : Int => n + events.length) (s.passOn events)) := by
  induction events generalizing s with
  | nil => simp [appear, Buffered.setCursor, State.setChild]
  | cons e rest ih =>
      rw [User.unsubscribesAt, Bool.or_eq_false_iff] at hquiet
      have hcons : appear b (e :: rest) =
          (do
            b.eventAppeared e
            modify advance) >>= fun _ => appear b rest := rfl
      have hrest := ih (s := advance (s.passOn [e])) hquiet.right
      simp only [hcons, Handler.runOn_bind, eventAppeared_quiet hquiet.left,
        Handler.runOn_modify, hrest]
      simp only [advance, Buffered.setCursor, State.setChild, State.passOn,
        List.append_assoc, List.map_cons, List.map_nil, List.cons_append, List.nil_append,
        List.length_cons, Int.natCast_add, Int.natCast_one]
      rw [Int.add_assoc, Int.add_comm 1]

theorem onRead_history_quiet (settings : CatchupSubscriptionSettings) {r : Read Int}
    (hhistory : r.handler = ReadHandler.history) {slice : StreamEventsSlice}
    (hquiet : b.user.unsubscribesAt s.calls (sliceEvents slice) = false) :
    (onRead b settings r (Except.ok slice)).runOn s =
      (Except.ok (),
        if slice.isEndOfStream then
          Buffered.doAsyncStart (Buffered.setCursor (fun n : Int => n + slice.events.length)
            (s.passOn (sliceEvents slice)))
        else
          asyncStart settings (Buffered.setCursor (fun n : Int => n + slice.events.length)
            (s.passOn (sliceEvents slice)))) := by
  rcases r with ⟨start, maxCount, handler⟩
  obtain rfl : handler = ReadHandler.history := hhistory
  have hlength : (sliceEvents slice).length = slice.events.length := List.length_map _
  simp only [onRead, Handler.runOn_bind, appear_quiet hquiet, hlength]
  split <;> rfl

end Catchup

namespace CatchupAll

variable {b : Base Child} {s : CatchupState}

theorem appear_quiet {events : List Resolved}
    (hquiet : b.user.unsubscribesAt s.calls events = false) :
    (appear b events).runOn s = (Except.ok (), s.passOn events) := by
  induction events generalizing s with
  | nil => simp [appear]
  | cons e rest ih =>
      rw [User.unsubscribesAt, Bool.or_eq_false_iff] at hquiet
      have hcons : appear b (e :: rest) =
          b.eventAppeared e none >>= fun _ => appear b rest := rfl
      have hrest := ih (s := s.passOn [e]) hquiet.right
      simp only [hcons, Handler.runOn_bind, eventAppeared_quiet hquiet.left, hrest,
        passOn_append, List.singleton_append]

theorem onRead_history_quiet (settings : CatchupSubscriptionSettings) {r : Read Position}
    (hhistory : r.handler = ReadHandler.history) {slice : AllEventsSlice}
    (hquiet : b.user.unsubscribesAt s.calls (sliceEvents slice) = false) :
    (onRead b settings r (Except.ok slice)).runOn s =
      (Except.ok (),
        if slice.isEndOfStream then Buffered.doAsyncStart (s.passOn (sliceEvents slice))
        else asyncStart settings
          (setCurrentPosition slice.nextPosition (s.passOn (sliceEvents slice)))) := by
  rcases r with ⟨start, maxCount, handler⟩
  obtain rfl : handler = ReadHandler.history := hhistory
  simp only [onRead, Handler.runOn_bind, appear_quiet hquiet]
  split <;> simp

end CatchupAll

end Subscription
end EventStoreClient
