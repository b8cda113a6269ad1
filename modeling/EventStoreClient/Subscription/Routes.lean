import EventStoreClient.Subscription.Base
import Mathlib.Order.Defs.PartialOrder

/-!
# The ways to `dropped`

A subscription calls `dropped` from a posted closure or from the entry of its unsubscribe
request.  At most one of the two is open at a time, and none before the handle guard is
locked.
-/

namespace EventStoreClient
namespace Subscription

open Connection Foundation Operations Wire

variable {child pending batch : Type}

def Callback.isDropped : Callback -> Bool
  | Callback.eventAppeared _ _ => false
  | Callback.dropped _ => true

def Posted.isDropped : Posted -> Bool
  | Posted.dropped _ => true
  | Posted.readSubscriptionEvents => false

def drops (s : State child pending) : Nat := s.calls.countP Callback.isDropped

def pendingDrops (s : State child pending) : Nat := s.posted.countP Posted.isDropped

/-- The unsubscribe request is still going to be answered or to time out. -/
def Awaiting (s : State child pending) : Prop :=
  s.unsubscribing = true ∧ (s.receiving = true ∨ s.deadline.Armed)

structure StaysDropped (s : State child pending) : Prop where
  once : drops s ≤ 1
  no_event_after : s.calls.Pairwise fun earlier later =>
    earlier.isDropped = true -> later.isDropped = true

/-- What the classes differ in, seen from the handle guard: the reads of the history, the
members that a shut down subscription has, and the events of a slice that the handler of
a missed-events read passes on. -/
structure Profile (child pending batch : Type) where
  IsHistory : pending -> Bool
  Idle : child -> Prop
  missedEvents : child -> batch -> List Resolved

/-!
# The one way to `dropped`

The history is read before the guard is ever locked.  Before the first `dropped` every
callback may come next, and the call of `dropped` itself comes once its way has been
closed.
-/

section Routed

variable {p : Profile child pending batch} {s next : State child pending}

def NoHistory (p : Profile child pending batch) (s : State child pending) : Prop :=
  forall r, r ∈ s.reads -> p.IsHistory r = false

/-- At most one of the ways to `dropped` is open, and none before the guard is locked. -/
structure Routed (p : Profile child pending batch) (s : State child pending) : Prop where
  one_way : drops s + pendingDrops s ≤ 1
  awaiting : Awaiting s -> drops s = 0 ∧ pendingDrops s = 0
  unlocked : s.handleGuard = false ->
    drops s = 0 ∧ pendingDrops s = 0 ∧ s.unsubscribing = false
  no_event_after : s.calls.Pairwise fun earlier later =>
    earlier.isDropped = true -> later.isDropped = true
  locked_idle : s.handleGuard = true -> p.Idle s.child
  history_first : forall r, r ∈ s.reads -> p.IsHistory r = true ->
    s.handleGuard = false ∧ s.registered = false ∧ s.reads = [r]

theorem Routed.staysDropped (h : Routed p s) : StaysDropped s where
  once := le_trans (Nat.le_add_right _ _) h.one_way
  no_event_after := h.no_event_after

theorem Routed.noHistory_of_locked (h : Routed p s) (hlocked : s.handleGuard = true) :
    NoHistory p s := by
  intro r hr
  by_contra hhistory
  rw [Bool.not_eq_false] at hhistory
  have hfirst := h.history_first r hr hhistory
  rw [hlocked] at hfirst
  cases hfirst.left

theorem Routed.noHistory_of_registered (h : Routed p s) (hregistered : s.registered = true) :
    NoHistory p s := by
  intro r hr
  by_contra hhistory
  rw [Bool.not_eq_false] at hhistory
  have hfirst := h.history_first r hr hhistory
  rw [hregistered] at hfirst
  cases hfirst.right.left

/-- The invariant is not about the rest of the state, and an outage of the connection
closes a way. -/
theorem Routed.frame (h : Routed p s) (hcalls : next.calls = s.calls)
    (hposted : pendingDrops next = pendingDrops s)
    (hguard : next.handleGuard = s.handleGuard)
    (hidle : next.handleGuard = true -> p.Idle next.child)
    (hunsubscribing : next.unsubscribing = true -> s.unsubscribing = true)
    (hawaiting : Awaiting next -> Awaiting s)
    (hreads : NoHistory p next ∨
      (next.reads = s.reads ∧ next.registered = s.registered)) : Routed p next := by
  have hdrops : drops next = drops s := by rw [drops, hcalls, drops]
  constructor
  · rw [hdrops, hposted]
    exact h.one_way
  · intro hnext
    rw [hdrops, hposted]
    exact h.awaiting (hawaiting hnext)
  · intro hnext
    have hopen := h.unlocked (hguard ▸ hnext)
    rw [hdrops, hposted]
    refine ⟨hopen.left, hopen.right.left, ?_⟩
    by_contra hrequest
    rw [Bool.not_eq_false] at hrequest
    rw [hunsubscribing hrequest] at hopen
    cases hopen.right.right
  · rw [hcalls]
    exact h.no_event_after
  · exact hidle
  · intro r hr hhistory
    rcases hreads with hnone | ⟨hreads, hregistered⟩
    · rw [hnone r hr] at hhistory
      cases hhistory
    · rw [hguard, hregistered, hreads]
      exact h.history_first r (hreads ▸ hr) hhistory

theorem drops_called_dropped (ec : Error) :
    drops (s.called (Callback.dropped ec)) = drops s + 1 := by
  simp [drops, State.called, Callback.isDropped]

theorem drops_called_eventAppeared (e : Resolved) (retryCount : Option Int) :
    drops (s.called (Callback.eventAppeared e retryCount)) = drops s := by
  simp [drops, State.called, Callback.isDropped]

theorem not_isDropped_of_drops (h : drops s = 0) {c : Callback} (hc : c ∈ s.calls) :
    c.isDropped = false := by
  have hnone := List.countP_eq_zero.mp h c hc
  rwa [Bool.not_eq_true] at hnone

theorem pairwise_called (h : drops s = 0) (c : Callback) :
    (s.called c).calls.Pairwise fun earlier later =>
      earlier.isDropped = true -> later.isDropped = true := by
  rw [State.called, List.pairwise_append]
  refine ⟨?_, List.pairwise_singleton _ _, ?_⟩
  · refine List.Pairwise.imp_of_mem (R := fun _ _ => True) ?_
      (List.pairwise_of_forall fun _ _ => trivial)
    intro earlier later hearlier _ _ hdropped
    rw [not_isDropped_of_drops h hearlier] at hdropped
    cases hdropped
  · intro earlier hearlier later _ hdropped
    rw [not_isDropped_of_drops h hearlier] at hdropped
    cases hdropped

theorem Routed.called_dropped (h : Routed p s) (hdrops : drops s = 0)
    (hpending : pendingDrops s = 0) (hlocked : s.handleGuard = true)
    (hawaiting : ¬ Awaiting s) (ec : Error) :
    Routed p (s.called (Callback.dropped ec)) := by
  have hpending' : pendingDrops (s.called (Callback.dropped ec)) = 0 := hpending
  constructor
  · rw [drops_called_dropped, hdrops, hpending']
  · exact fun hnext => absurd hnext hawaiting
  · intro hguard
    rw [show (s.called (Callback.dropped ec)).handleGuard = s.handleGuard from rfl,
      hlocked] at hguard
    cases hguard
  · exact pairwise_called hdrops _
  · exact h.locked_idle
  · exact h.history_first

/-!
# Before `dropped`

An unsubscription opens one way to `dropped` where there was none.  No handler that passes
events on can have come after it.
-/

structure Undropped (p : Profile child pending batch) (s : State child pending) : Prop where
  routed : Routed p s
  drops_eq : drops s = 0

theorem Routed.undropped (h : Routed p s) (hguard : s.handleGuard = false) :
    Undropped p s :=
  ⟨h, (h.unlocked hguard).left⟩

theorem Undropped.called (h : Undropped p s) (e : Resolved) (retryCount : Option Int) :
    Undropped p (s.called (Callback.eventAppeared e retryCount)) := by
  have hdrops := drops_called_eventAppeared (s := s) e retryCount
  refine ⟨⟨?_, ?_, ?_, pairwise_called h.drops_eq _, h.routed.locked_idle,
    h.routed.history_first⟩, ?_⟩
  · rw [hdrops]
    exact h.routed.one_way
  · intro hawaiting
    rw [hdrops]
    exact h.routed.awaiting hawaiting
  · intro hguard
    rw [hdrops]
    exact h.routed.unlocked hguard
  · rw [hdrops, h.drops_eq]

variable {b : Base child}

@[simp] theorem unsubscribe_calls (ec : Error) :
    (b.unsubscribe ec s).calls = s.calls := by
  unfold Base.unsubscribe
  split <;> rfl

@[simp] theorem unsubscribe_reads (ec : Error) :
    (b.unsubscribe ec s).reads = s.reads := by
  unfold Base.unsubscribe
  split <;> rfl

@[simp] theorem unsubscribe_handleGuard (ec : Error) :
    (b.unsubscribe ec s).handleGuard = true := by
  unfold Base.unsubscribe
  split <;> rfl

@[simp] theorem unsubscribe_child (ec : Error) :
    (b.unsubscribe ec s).child = b.shutdown s.child := by
  unfold Base.unsubscribe
  split <;> rfl

@[simp] theorem unsubscribe_registered (ec : Error) :
    (b.unsubscribe ec s).registered = s.registered := by
  unfold Base.unsubscribe
  split <;> rfl

@[simp] theorem unsubscribe_lastEventNumber (ec : Error) :
    (b.unsubscribe ec s).lastEventNumber = s.lastEventNumber := by
  unfold Base.unsubscribe
  split <;> rfl

@[simp] theorem unsubscribe_faults (ec : Error) :
    (b.unsubscribe ec s).faults = s.faults := by
  unfold Base.unsubscribe
  split <;> rfl

theorem mem_posted_unsubscribe (ec : Error)
    (hread : Posted.readSubscriptionEvents ∈ (b.unsubscribe ec s).posted) :
    Posted.readSubscriptionEvents ∈ s.posted := by
  unfold Base.unsubscribe at hread
  split at hread
  · exact hread
  · rcases List.mem_append.mp hread with hold | hnew
    · exact hold
    · cases List.mem_singleton.mp hnew

theorem Undropped.unsubscribe (h : Undropped p s) (hpending : pendingDrops s = 0)
    (hunsubscribing : s.unsubscribing = false) (hhistory : NoHistory p s)
    (hidle : p.Idle (b.shutdown s.child)) (ec : Error) :
    Undropped p (b.unsubscribe ec s) := by
  have hdrops : drops (b.unsubscribe ec s) = 0 := by
    rw [drops, unsubscribe_calls]
    exact h.drops_eq
  have hways : pendingDrops (b.unsubscribe ec s) ≤ 1 ∧
      (Awaiting (b.unsubscribe ec s) -> pendingDrops (b.unsubscribe ec s) = 0) := by
    unfold Base.unsubscribe
    split
    · exact ⟨le_of_eq_of_le hpending (Nat.zero_le 1), fun _ => hpending⟩
    · constructor
      · have hposted : pendingDrops (s.post (Posted.dropped ec)) = 1 := by
          rw [pendingDrops] at hpending ⊢
          rw [State.post, List.countP_append, hpending]
          rfl
        exact le_of_eq hposted
      · rintro ⟨hnext, _⟩
        rw [show s.unsubscribing = true from hnext] at hunsubscribing
        cases hunsubscribing
  refine ⟨⟨?_, fun hnext => ⟨hdrops, hways.right hnext⟩, ?_, ?_, ?_, ?_⟩, hdrops⟩
  · rw [hdrops, Nat.zero_add]
    exact hways.left
  · intro hguard
    rw [unsubscribe_handleGuard] at hguard
    cases hguard
  · rw [unsubscribe_calls]
    exact h.routed.no_event_after
  · intro _
    rw [unsubscribe_child]
    exact hidle
  · intro r hr hhistory'
    rw [unsubscribe_reads] at hr
    rw [hhistory r hr] at hhistory'
    cases hhistory'

theorem Routed.unsubscribe (h : Routed p s) (hguard : s.handleGuard = false)
    (hhistory : NoHistory p s) (hidle : p.Idle (b.shutdown s.child)) (ec : Error) :
    Undropped p (b.unsubscribe ec s) :=
  (h.undropped hguard).unsubscribe (h.unlocked hguard).right.left
    (h.unlocked hguard).right.right hhistory hidle ec

end Routed

/-!
# Callbacks

A callback starts no read, and while the history is read it cannot unsubscribe.
-/

section Callbacks

variable {b : Base child} {p : Profile child pending batch} {s : State child pending}

theorem unsubscribeByKey_of_registered (h : s.registered = true) (ec : Error) :
    (b.unsubscribeByKey ec).runOn s = (Except.ok (), b.fail ec s) := by
  simp [Base.unsubscribeByKey, h]

theorem unsubscribeByKey_of_not_registered (h : s.registered = false) (ec : Error) :
    (b.unsubscribeByKey ec).runOn s = (Except.error (Fault.outOfRange b.key), s) := by
  simp [Base.unsubscribeByKey, h]

theorem Routed.fail (hshutdown : forall c, p.Idle (b.shutdown c)) (h : Routed p s)
    (hregistered : s.registered = true) (ec : Error) :
    Routed p (b.fail ec s) ∧ drops (b.fail ec s) = drops s := by
  unfold Base.fail
  split
  · exact ⟨h, rfl⟩
  · rename_i hguard
    rw [Bool.not_eq_true] at hguard
    refine ⟨(h.unsubscribe hguard (h.noHistory_of_registered hregistered)
      (hshutdown _) ec).routed, ?_⟩
    rw [drops, unsubscribe_calls, drops]

theorem Undropped.unsubscribeByKey (hshutdown : forall c, p.Idle (b.shutdown c))
    (h : Undropped p s) (ec : Error) :
    Undropped p ((b.unsubscribeByKey ec).runOn s).2 := by
  cases hregistered : s.registered with
  | true =>
      rw [unsubscribeByKey_of_registered hregistered]
      have hfail := h.routed.fail hshutdown hregistered ec
      exact ⟨hfail.left, hfail.right.trans h.drops_eq⟩
  | false =>
      rw [unsubscribeByKey_of_not_registered hregistered]
      exact h

theorem eventAppeared_run (e : Resolved) (retryCount : Option Int) :
    (b.eventAppeared e retryCount).runOn s =
      if b.user.onEvent (s.called (Callback.eventAppeared e retryCount)).calls then
        (b.unsubscribeByKey (Error.subscription .unsubscribed)).runOn
          (s.called (Callback.eventAppeared e retryCount))
      else (Except.ok (), s.called (Callback.eventAppeared e retryCount)) := by
  simp only [Base.eventAppeared, Handler.runOn_bind, Handler.runOn_modify,
    Handler.runOn_get]
  split
  · rfl
  · rfl

theorem keeps_eventAppeared (hshutdown : forall c, p.Idle (b.shutdown c)) (e : Resolved)
    (retryCount : Option Int) : Handler.Keeps (Undropped p) (b.eventAppeared e retryCount) := by
  intro s hs
  rw [eventAppeared_run]
  split
  · exact (hs.called e retryCount).unsubscribeByKey hshutdown _
  · exact hs.called e retryCount

theorem fail_reads (ec : Error) : (b.fail ec s).reads = s.reads := by
  unfold Base.fail
  split
  · rfl
  · exact unsubscribe_reads ec

theorem keeps_eventAppeared_reads (inv : List pending -> Prop) (e : Resolved)
    (retryCount : Option Int) :
    Handler.Keeps (fun s : State child pending => inv s.reads)
      (b.eventAppeared e retryCount) := by
  intro s hs
  rw [eventAppeared_run]
  split
  · cases hregistered : (s.called (Callback.eventAppeared e retryCount)).registered with
    | true =>
        rw [unsubscribeByKey_of_registered hregistered, fail_reads]
        exact hs
    | false =>
        rw [unsubscribeByKey_of_not_registered hregistered]
        exact hs
  · exact hs

theorem keeps_eventAppeared_unregistered (e : Resolved) (retryCount : Option Int) :
    Handler.Keeps (fun s : State child pending =>
      s.handleGuard = false ∧ s.registered = false) (b.eventAppeared e retryCount) := by
  intro s hs
  rw [eventAppeared_run]
  split
  · rw [unsubscribeByKey_of_not_registered
      (show (s.called (Callback.eventAppeared e retryCount)).registered = false from hs.right)]
    exact hs
  · exact hs

/-- When `dropped` is called the entry has been erased, and its callback cannot
unsubscribe. -/
theorem dropped_run (hregistered : s.registered = false) (ec : Error) :
    (b.dropped ec).runOn s =
      (if b.user.onDropped (s.calls ++ [Callback.dropped ec]) then
        Except.error (Fault.outOfRange b.key) else Except.ok (),
        s.called (Callback.dropped ec)) := by
  have hregistered' : (s.called (Callback.dropped ec)).registered = false := hregistered
  simp only [Base.dropped, Handler.runOn_bind, Handler.runOn_modify, Handler.runOn_get]
  split
  · rename_i hcalls
    have hunsubscribes :
        b.user.onDropped (s.calls ++ [Callback.dropped ec]) = true := hcalls
    rw [unsubscribeByKey_of_not_registered hregistered', if_pos hunsubscribes]
  · rename_i hcalls
    have hunsubscribes :
        ¬ b.user.onDropped (s.calls ++ [Callback.dropped ec]) = true := hcalls
    rw [if_neg hunsubscribes]
    rfl

end Callbacks

end Subscription
end EventStoreClient
