import EventStoreClient.Subscription.Kinds
import Mathlib.Tactic.Common

/-!
# Passing events on

What a subscription does for a user who leaves it alone: no callback unsubscribes, and no
handler is left by a fault.
-/

namespace EventStoreClient
namespace Subscription

open Buffer Connection Foundation Operations Wire

variable {child pending batch : Type}

def Callback.event? : Callback -> Option Resolved
  | Callback.eventAppeared e _ => some e
  | Callback.dropped _ => none

def appeared (s : State child pending) : List Resolved := s.calls.filterMap Callback.event?

def State.passOn (events : List Resolved) (s : State child pending) :
    State child pending :=
  { s with calls := s.calls ++ events.map fun e => Callback.eventAppeared e none }

def State.postAll (closures : List Posted) (s : State child pending) : State child pending :=
  { s with posted := s.posted ++ closures }

@[simp] theorem postAll_nil (s : State child pending) : s.postAll [] = s := by
  simp [State.postAll]

theorem appeared_passOn (events : List Resolved) (s : State child pending) :
    appeared (s.passOn events) = appeared s ++ events := by
  have hevents : (events.map fun e => Callback.eventAppeared e none).filterMap
      Callback.event? = events := by
    rw [List.filterMap_map]
    exact List.filterMap_some
  rw [appeared, State.passOn, List.filterMap_append, hevents, appeared]

@[simp] theorem passOn_nil (s : State child pending) : s.passOn [] = s := by
  simp [State.passOn]

theorem passOn_append (events more : List Resolved) (s : State child pending) :
    (s.passOn events).passOn more = s.passOn (events ++ more) := by
  simp [State.passOn, List.append_assoc]

section Passive

variable {b : Base child} {c : Class child pending batch} {s : State child pending}

theorem eventAppeared_passive (hpassive : b.user = User.passive) (e : Resolved) :
    (b.eventAppeared e none).runOn s = (Except.ok (), s.passOn [e]) := by
  simp [Base.eventAppeared, hpassive, User.passive, State.called, State.passOn, Except.map]

/-- A package that comes through the subscriptions map and is handled by the class. -/
theorem receive_handled (hrequest : s.unsubscribing = false) (hregistered : s.registered = true)
    (hguard : s.handleGuard = false) {message : ServerMessage} {next : State child pending}
    (hrun : (c.onPackageReceived message).runOn s = (Except.ok true, next)) :
    (c.receive message).runOn s = (Except.ok (), next) := by
  simp [Class.receive, Base.entry, hrequest, hregistered, hguard, hrun]

theorem received_eq (hrequest : s.unsubscribing = false) (hregistered : s.registered = true)
    (hguard : s.handleGuard = false) {message : ServerMessage}
    {handled next : State child pending}
    (hrun : (c.onPackageReceived message).runOn s = (Except.ok true, handled))
    (hstep : step c s (Input.received message) = some next) : next = handled := by
  cases stepped_of_step hstep with
  | received _ _ =>
      rw [receive_handled hrequest hregistered hguard hrun]
      rfl

/-- A step of the subscription, put back into the system that it is a part of. -/
theorem step_map {system : Type} {f : State child pending -> system}
    {handled : State child pending} {after : system} {i : Input batch}
    (hstep : (step c s i).map f = some after) (hhandled : step c s i = some handled) :
    after = f handled := by
  rw [hhandled, Option.map_some] at hstep
  exact (Option.some.inj hstep).symm

theorem received_map {system : Type} {f : State child pending -> system}
    {handled : State child pending} {after : system} {message : ServerMessage}
    (hstep : (step c s (Input.received message)).map f = some after)
    (hrequest : s.unsubscribing = false) (hregistered : s.registered = true)
    (hguard : s.handleGuard = false)
    (hrun : (c.onPackageReceived message).runOn s = (Except.ok true, handled)) :
    after = f handled := by
  rcases Option.map_eq_some_iff.mp hstep with ⟨next, hnext, rfl⟩
  rw [received_eq hrequest hregistered hguard hrun hnext]

theorem step_readCompleted {r : pending} (hreads : s.reads = [r])
    {result : Except Error batch} {after : State child pending}
    (hrun : (c.onRead r result).runOn (s.takeRead 0) = (Except.ok (), after)) :
    step c s (Input.readCompleted 0 result) = some after := by
  rw [step, hreads, List.getElem?_cons_zero, Option.map_some, hrun, settleRead_ok]

theorem takeRead_reads {r : pending} (hreads : s.reads = [r]) : (s.takeRead 0).reads = [] := by
  rw [State.takeRead, hreads]
  rfl

end Passive

/-!
# The buffer

The events at the front are passed on, unless a callback escapes.
-/

namespace Buffered

variable {cursor : Type} {s : State (Buffered cursor) pending} {xs : List Resolved}
  {deliver : Resolved -> Handles (Buffered cursor) pending Unit}
  {moved : cursor -> Resolved -> cursor}

def delivered (moved : cursor -> Resolved -> cursor) (events : List Resolved)
    (q : BufferQueue Resolved 25) (s : State (Buffered cursor) pending) :
    State (Buffered cursor) pending :=
  (s.passOn events).setChild
    { cursor := events.foldl moved s.child.cursor
      eventBuffer := q }

theorem readBuffer_unless (escape ready : State (Buffered cursor) pending -> Prop)
    (hkeeps : forall n, Handler.Keeps escape (readBuffer deliver n))
    (hready : forall e q s, ready s -> ready (delivered moved [e] q s))
    (hdeliver : forall e s, e ∈ xs -> ready s ->
      Handler.Unless escape (deliver e) s
        (Except.ok (), delivered moved [e] s.child.eventBuffer.popFront s))
    (hs : ready s) (hbuffer : s.child.eventBuffer.Represents xs) (n : Nat) :
    exists q : BufferQueue Resolved 25, q.Represents (xs.drop n) ∧
      Handler.Unless escape (readBuffer deliver n) s
        (Except.ok (), delivered moved (xs.take n) q s) := by
  induction n generalizing s xs with
  | zero =>
      refine ⟨s.child.eventBuffer, by simpa using hbuffer, Handler.unless_of_eq ?_⟩
      simp [readBuffer, delivered, State.setChild]
  | succ n ih =>
      cases xs with
      | nil =>
          have hempty := hbuffer.empty_iff.mpr rfl
          refine ⟨s.child.eventBuffer, by simpa using hbuffer, Handler.unless_of_eq ?_⟩
          simp [readBuffer, hempty, delivered, State.setChild]
      | cons e rest =>
          have hempty : s.child.eventBuffer.empty = false := by
            rw [Bool.eq_false_iff, Ne, hbuffer.empty_iff]
            exact List.cons_ne_nil e rest
          have hpopped : (delivered moved [e] s.child.eventBuffer.popFront
              s).child.eventBuffer.Represents rest := hbuffer.popFront
          obtain ⟨q, hq, hrest⟩ :=
            ih (fun e' s' he' => hdeliver e' s' (List.mem_cons_of_mem e he'))
              (hready e _ s hs) hpopped
          refine ⟨q, hq, ?_⟩
          have hfirst := hdeliver e s List.mem_cons_self hs
          have hboth := hfirst.bind (fun _ => hkeeps n) hrest
          have hunfold : (readBuffer deliver (n + 1)).runOn s =
              (deliver e >>= fun _ => readBuffer deliver n).runOn s := by
            simp only [readBuffer, Handler.runOn_bind, Handler.runOn_get, hempty,
              Bool.false_eq_true, if_false, front, hbuffer.front_eq, Handler.runOn_pure]
          have hmoved : delivered moved (rest.take n) q
              (delivered moved [e] s.child.eventBuffer.popFront s) =
                delivered moved ((e :: rest).take (n + 1)) q s := by
            simp [delivered, State.passOn, State.setChild]
          rw [hmoved] at hboth
          unfold Handler.Unless at hboth ⊢
          rwa [hunfold]

/-- A step of reading the buffer, which posts the next one if events are left. -/
theorem readSubscriptionEvents_unless (escape ready : State (Buffered cursor) pending -> Prop)
    {settings : CatchupSubscriptionSettings}
    (hkeeps : forall n, Handler.Keeps escape (readBuffer deliver n))
    (hpost : forall s, escape s -> escape (s.post Posted.readSubscriptionEvents))
    (hready : forall e q s, ready s -> ready (delivered moved [e] q s))
    (hdeliver : forall e s, e ∈ xs -> ready s ->
      Handler.Unless escape (deliver e) s
        (Except.ok (), delivered moved [e] s.child.eventBuffer.popFront s))
    (hs : ready s) (hbuffer : s.child.eventBuffer.Represents xs) {n : Nat}
    (hn : settings.maxLiveQueueSize.toInt.toNat = n) :
    exists q : BufferQueue Resolved 25, q.Represents (xs.drop n) ∧
      Handler.Unless escape (readSubscriptionEvents deliver settings) s
        (Except.ok (), (delivered moved (xs.take n) q s).postAll
          (if xs.drop n = [] then [] else [Posted.readSubscriptionEvents])) := by
  obtain ⟨q, hq, hread⟩ := readBuffer_unless escape ready hkeeps hready hdeliver hs hbuffer n
  refine ⟨q, hq, ?_⟩
  have hempty : (delivered moved (xs.take n) q s).child.eventBuffer.empty = true <->
      xs.drop n = [] := hq.empty_iff
  rw [← hn] at hread
  apply hread.bind
  · intro _
    refine Handler.keeps_bind Handler.keeps_get fun s' => ?_
    split
    · exact Handler.keeps_pure _
    · exact Handler.keeps_modify hpost
  · apply Handler.unless_of_eq
    rw [hn, Handler.runOn_bind, Handler.runOn_get]
    by_cases hleft : xs.drop n = []
    · simp only [if_pos (hempty.mpr hleft), if_pos hleft, postAll_nil]
      rfl
    · simp only [if_neg (fun h => hleft (hempty.mp h)), if_neg hleft]
      rfl

theorem readSubscriptionEvents_run {settings : CatchupSubscriptionSettings}
    (hdeliver : forall e s, e ∈ xs ->
      (deliver e).runOn s =
        (Except.ok (), delivered moved [e] s.child.eventBuffer.popFront s))
    (hbuffer : s.child.eventBuffer.Represents xs) {n : Nat}
    (hn : settings.maxLiveQueueSize.toInt.toNat = n) :
    exists q : BufferQueue Resolved 25, q.Represents (xs.drop n) ∧
      (readSubscriptionEvents deliver settings).runOn s =
        (Except.ok (), (delivered moved (xs.take n) q s).postAll
          (if xs.drop n = [] then [] else [Posted.readSubscriptionEvents])) := by
  obtain ⟨q, hq, hrun⟩ := readSubscriptionEvents_unless (fun _ => False) (fun _ => True)
    (fun _ _ h => h.elim) (fun _ h => h.elim) (fun _ _ _ h => h)
    (fun e s he _ => Handler.unless_of_eq (hdeliver e s he)) trivial hbuffer hn
  exact ⟨q, hq, hrun.eq⟩

end Buffered

end Subscription
end EventStoreClient
