import EventStoreClient.Subscription.CatchupDelivery
import EventStoreClient.Subscription.Terminal

/-!
# Live events

What a `catchup_subscription` does between its confirmation and its end.  The events that
appear while it still reads what it has missed wait in its buffer, and there is always
something under way that is going to pass them on.
-/

namespace EventStoreClient
namespace Subscription
namespace CatchupLive

open Buffer Catchup Connection Foundation Operations Wire
open CatchupDelivery (counted)

/-!
# Inputs

The live events that a run receives, oldest first.
-/

def Confirms : Input StreamEventsSlice -> Prop
  | .received (.subscriptionConfirmation _) => True
  | _ => False

/-- What can come after the confirmation.  An event has the field that its message
requires. -/
def Live : Input StreamEventsSlice -> Prop
  | .received (.subscriptionConfirmation _) => False
  | .received (.streamEventAppeared message) =>
      exists e, message.event = some e ∧ e.event.isSome = true
  | _ => True

def liveEvent? : Input StreamEventsSlice -> Option Resolved
  | .received (.streamEventAppeared message) => some (Resolved.ofStreamEventAppeared message)
  | _ => none

def liveEvents (inputs : List (Input StreamEventsSlice)) : List Resolved :=
  inputs.filterMap liveEvent?

def readEvents : Input StreamEventsSlice -> List Resolved
  | .readCompleted _ (.ok slice) => sliceEvents slice
  | _ => []

/-- The events of the slices that reads have completed with, oldest first. -/
def missedEvents (inputs : List (Input StreamEventsSlice)) : List Resolved :=
  inputs.flatMap readEvents

/-- What should hold in every state after the confirmation.  `asked` is how many events the
reads of missed events ask for, `missed` what they have completed with, and `received` the
live events. -/
structure StrandsNone (asked : Int) (missed received : List Resolved)
    (confirmed s : CatchupState) : Prop where
  drained : s.child.eventBuffer.empty = false ->
    (exists r count, r ∈ s.reads ∧ r.handler = ReadHandler.missed count) ∨
      Posted.readSubscriptionEvents ∈ s.posted
  in_order : exists live, live <+: received ∧
    appeared s = appeared confirmed ++ missed ++ live ∧
    (live ≠ [] -> asked ≤ missed.length)

/-!
# Handlers

What the handlers come to, unless a callback escapes from them.
-/

section Handlers

variable {key : Guid} {user : User} {b : Base Child} {s : CatchupState}
  {settings : CatchupSubscriptionSettings}

/-- The subscription is known to its connection, and the history has been read. -/
def Attached (s : CatchupState) : Prop := s.registered = true ∧ NoHistory profile s

theorem foldl_counted (events : List Resolved) (n : Int) :
    events.foldl counted n = n + events.length := by
  induction events generalizing n with
  | nil => simp
  | cons e rest ih =>
      rw [List.foldl_cons, ih, counted, List.length_cons, Int.natCast_add, Int.natCast_one]
      omega

theorem deliver_unless (h : Attached s) (e : Resolved) :
    Handler.Unless (Locked profile) (deliver b e) s
      (Except.ok (), Buffered.delivered counted [e] s.child.eventBuffer.popFront s) := by
  have hkeeping := keeping_locked profile b
  apply (eventAppeared_unless h.left h.right e).bind
  · intro _
    exact Handler.keeps_bind (Handler.keeps_modify fun _ hs => hkeeping.setChild _ hs)
      fun _ => Handler.keeps_modify fun _ hs => hkeeping.setChild _ hs
  · exact Handler.unless_of_eq rfl

theorem readSubscriptionEvents_unless (b : Base Child)
    (settings : CatchupSubscriptionSettings) (h : Attached s) {xs : List Resolved}
    (hbuffer : s.child.eventBuffer.Represents xs) {n : Nat}
    (hn : settings.maxLiveQueueSize.toInt.toNat = n) :
    exists q : BufferQueue Resolved 25, q.Represents (xs.drop n) ∧
      Handler.Unless (Locked profile) (readSubscriptionEvents b settings) s
        (Except.ok (), (Buffered.delivered counted (xs.take n) q s).postAll
          (if xs.drop n = [] then [] else [Posted.readSubscriptionEvents])) := by
  have hkeeping := keeping_locked profile b
  exact Buffered.readSubscriptionEvents_unless (Locked profile) Attached
    (fun k => (Buffered.guards_readBuffer trivial (guards_deliver hkeeping.guarding) k).keeps)
    (fun _ hs => hkeeping.postRead hs)
    (fun _ _ _ hs => hs) (fun e _ _ hs => deliver_unless hs e) h hbuffer hn

theorem appear_unless (h : Attached s) (events : List Resolved) :
    Handler.Unless (Locked profile) (appear b events) s
      (Except.ok (),
        Buffered.setCursor (fun n : Int => n + events.length) (s.passOn events)) := by
  have hkeeping := keeping_locked profile b
  induction events generalizing s with
  | nil =>
      apply Handler.unless_of_eq
      simp [appear, Buffered.setCursor, State.setChild]
  | cons e rest ih =>
      have hcons : appear b (e :: rest) =
          (do
            b.eventAppeared e
            modify advance) >>= fun _ => appear b rest := rfl
      have hfirst : Handler.Unless (Locked profile)
          (do
            b.eventAppeared e
            modify advance) s (Except.ok (), advance (s.passOn [e])) := by
        apply (eventAppeared_unless h.left h.right e).bind
        · exact fun _ => Handler.keeps_modify fun _ hs => hkeeping.setChild _ hs
        · exact Handler.unless_of_eq rfl
      have hrest := ih (s := advance (s.passOn [e])) h
      have hboth := hfirst.bind
        (fun _ => (guards_appear hkeeping.guarding rest).keeps) hrest
      rw [hcons]
      convert hboth using 2
      simp only [advance, Buffered.setCursor, State.setChild, State.passOn,
        List.append_assoc, List.map_cons, List.map_nil, List.cons_append, List.nil_append,
        List.length_cons, Int.natCast_add, Int.natCast_one]
      rw [Int.add_assoc, Int.add_comm 1]

/-- The handler of a read of missed events asks for the rest, or starts to read the
buffer. -/
theorem onRead_unless (h : Attached s) {r : Read Int} {count : Int}
    (hmissed : r.handler = ReadHandler.missed count) (slice : StreamEventsSlice) :
    Handler.Unless (Locked profile) (onRead b settings r (Except.ok slice)) s
      (Except.ok (),
        let read := Buffered.setCursor (fun n : Int => n + slice.events.length)
          (s.passOn (sliceEvents slice))
        if 0 < count - slice.events.length then
          catchUpMissedEvents (count - slice.events.length) read
        else read.post Posted.readSubscriptionEvents) := by
  have hkeeping := keeping_locked profile b
  have hlength : (sliceEvents slice).length = slice.events.length := List.length_map _
  rcases r with ⟨start, maxCount, handler⟩
  obtain rfl : handler = ReadHandler.missed count := hmissed
  have happear := appear_unless (b := b) h (sliceEvents slice)
  rw [hlength] at happear
  unfold onRead
  apply happear.bind
  · intro _
    simp only
    split
    · exact Handler.keeps_modify fun _ hs => hkeeping.startRead rfl hs
    · exact Handler.keeps_modify fun _ hs => hkeeping.postRead hs
  · apply Handler.unless_of_eq
    simp only
    split <;> rfl

/-- An event that appears goes to the end of the buffer.  The first one of the buffer is
looked at. -/
theorem onAppeared_run {event : ResolvedEvent} {target : Int}
    (htarget : s.lastEventNumber = some target) {first : Resolved} {rest : List Resolved}
    (hbuffer : (Buffered.emplaceBack (Resolved.ofResolvedEvent event)
      s).child.eventBuffer.Represents (first :: rest)) (hfirst : first.event.isSome = true) :
    (onPackageReceived b settings (.streamEventAppeared { event := some event })).runOn s =
      (do
        if currentEventNumber s < target then pure true
        else
          if rest.length = 0 then readSubscriptionEvents b settings
          pure true : Handles Child (Read Int) Bool).runOn
        (Buffered.emplaceBack (Resolved.ofResolvedEvent event) s) := by
  rcases Option.isSome_iff_exists.mp hfirst with ⟨record, hrecord⟩
  obtain ⟨held, hheld⟩ : exists held,
      held = Buffered.emplaceBack (Resolved.ofResolvedEvent event) s := ⟨_, rfl⟩
  rw [← hheld] at hbuffer
  have htarget' : held.lastEventNumber = some target := by
    rw [hheld]
    exact htarget
  have hcursor : currentEventNumber held = currentEventNumber s := by
    rw [hheld]
    rfl
  have hsize : held.child.eventBuffer.size = 1 <-> rest.length = 0 := by
    rw [hbuffer.size_eq, List.length_cons]
    omega
  simp only [onPackageReceived, Resolved.ofStreamEventAppeared, Option.getD_some,
    Handler.runOn_bind, Handler.runOn_modify, ← hheld, Buffered.front, Handler.runOn_get,
    hbuffer.front_eq, Handler.runOn_pure, value, hrecord, htarget', hcursor]
  split
  · rfl
  · simp only [Handler.runOn_bind, Handler.runOn_get, hsize]

end Handlers

/-!
# Phases

The subscription is confirmed, or has ended, which an unsubscription brings about in every
phase.
-/

structure Confirmed (target : Int) (live : List Resolved) (s : CatchupState) : Prop where
  unlocked : s.handleGuard = false
  registered : s.registered = true
  unasked : s.unsubscribing = false
  target_eq : s.lastEventNumber = some target
  events : forall e, e ∈ live -> e.event.isSome = true

/-- A read of missed events is under way for all that was asked for and has not been read.
The live events wait. -/
structure CatchingUp (confirmed : CatchupState) (target : Int) (missed live : List Resolved)
    (s : CatchupState) : Prop where
  reads_eq : exists r, s.reads = [r] ∧
    r.handler = ReadHandler.missed (target - currentEventNumber s)
  behind : currentEventNumber s < target
  posted_eq : s.posted = []
  buffer : s.child.eventBuffer.Represents live
  cursor_eq : currentEventNumber s = currentEventNumber confirmed + missed.length
  appeared_eq : appeared s = appeared confirmed ++ missed

/-- All that was asked for has been read, and the first live events have been passed on. -/
structure Draining (confirmed : CatchupState) (target : Int)
    (missed passed waiting : List Resolved) (s : CatchupState) : Prop where
  reads_eq : s.reads = []
  posted_eq : forall closure, closure ∈ s.posted -> closure = Posted.readSubscriptionEvents
  buffer : s.child.eventBuffer.Represents waiting
  cursor_eq : currentEventNumber s =
    currentEventNumber confirmed + missed.length + passed.length
  caughtUp : target ≤ currentEventNumber confirmed + missed.length
  appeared_eq : appeared s = appeared confirmed ++ missed ++ passed

inductive Phase (confirmed : CatchupState) (target : Int) (missed live : List Resolved)
    (s : CatchupState) : Prop where
  | catchingUp (hopen : Confirmed target live s)
      (h : CatchingUp confirmed target missed live s) : Phase confirmed target missed live s
  | draining {passed waiting : List Resolved} (hopen : Confirmed target live s)
      (hlive : live = passed ++ waiting)
      (h : Draining confirmed target missed passed waiting s)
      -- a step of reading the buffer is posted while events wait in it
      (hposted : waiting ≠ [] -> s.posted ≠ []) :
      Phase confirmed target missed live s
  | ended (h : Locked profile s) : Phase confirmed target missed live s

section Phases

variable {confirmed : CatchupState} {target : Int} {missed live : List Resolved}
  {s next : CatchupState} {key : Guid} {user : User}
  {settings : CatchupSubscriptionSettings}

theorem Phase.frame (h : Phase confirmed target missed live s) (hchild : next.child = s.child)
    (hguard : next.handleGuard = s.handleGuard) (hregistered : next.registered = s.registered)
    (hunsubscribing : next.unsubscribing = s.unsubscribing)
    (htarget : next.lastEventNumber = s.lastEventNumber) (hreads : next.reads = s.reads)
    (hposted : next.posted = s.posted) (hcalls : next.calls = s.calls) :
    Phase confirmed target missed live next := by
  have hcursor : currentEventNumber next = currentEventNumber s := by
    rw [currentEventNumber, hchild, currentEventNumber]
  have happeared : appeared next = appeared s := by rw [appeared, hcalls, appeared]
  have hconfirmed : Confirmed target live s -> Confirmed target live next := fun hopen =>
    ⟨hguard.trans hopen.unlocked, hregistered.trans hopen.registered,
      hunsubscribing.trans hopen.unasked, htarget.trans hopen.target_eq, hopen.events⟩
  cases h with
  | catchingUp hopen h =>
      apply Phase.catchingUp (hconfirmed hopen)
      constructor
      · rw [hreads, hcursor]
        exact h.reads_eq
      · rw [hcursor]
        exact h.behind
      · rw [hposted]
        exact h.posted_eq
      · rw [hchild]
        exact h.buffer
      · rw [hcursor]
        exact h.cursor_eq
      · rw [happeared]
        exact h.appeared_eq
  | draining hopen hlive h hwaiting =>
      refine Phase.draining (hconfirmed hopen) hlive ?_ (by rwa [hposted])
      constructor
      · rw [hreads]
        exact h.reads_eq
      · rw [hposted]
        exact h.posted_eq
      · rw [hchild]
        exact h.buffer
      · rw [hcursor]
        exact h.cursor_eq
      · exact h.caughtUp
      · rw [happeared]
        exact h.appeared_eq
  | ended h => exact Phase.ended (h.frame hguard hreads)

theorem Phase.settle {after : Except Fault Unit × CatchupState}
    (h : Phase confirmed target missed live after.2) :
    Phase confirmed target missed live (settle after) := by
  rcases after with ⟨r, s⟩
  cases r with
  | ok _ => exact h
  | error fault => exact h.frame rfl rfl rfl rfl rfl rfl rfl rfl

theorem Phase.settleReceived {after : Except Fault Unit × CatchupState}
    (h : Phase confirmed target missed live after.2) :
    Phase confirmed target missed live (settleReceived after) := by
  rcases after with ⟨r, s⟩
  cases r with
  | ok _ => exact h
  | error fault => exact h.frame rfl rfl rfl rfl rfl rfl rfl rfl

theorem Phase.settleRead (result : Except Error StreamEventsSlice)
    {after : Except Fault Unit × CatchupState} (h : Phase confirmed target missed live after.2) :
    Phase confirmed target missed live (Subscription.settleRead result after) := by
  rcases settleRead_eq result after with heq | heq
  · rw [heq]
    exact h.settle
  · rw [heq]
    exact h.settleReceived

theorem Phase.of_unless {result : Type} {handler : Handles Child (Read Int) result}
    {outcome : Except Fault result × CatchupState}
    (hrun : Handler.Unless (Locked profile) handler s outcome)
    (h : Phase confirmed target missed live outcome.2) :
    Phase confirmed target missed live (handler.runOn s).2 := by
  cases hrun with
  | inl hrun =>
      rw [hrun]
      exact h
  | inr hlocked => exact Phase.ended hlocked

theorem CatchingUp.noHistory (h : CatchingUp confirmed target missed live s) :
    NoHistory profile s := by
  rcases h.reads_eq with ⟨r, hreads, hmissed⟩
  intro r' hr'
  rw [hreads, List.mem_singleton] at hr'
  rw [hr']
  show decide (r.handler = ReadHandler.history) = false
  rw [hmissed]
  rfl

theorem Draining.noHistory {passed waiting : List Resolved}
    (h : Draining confirmed target missed passed waiting s) : NoHistory profile s := by
  intro r hr
  rw [h.reads_eq] at hr
  cases hr

theorem Phase.unsubscribe {b : Base Child} (h : Phase confirmed target missed live s)
    (ec : Error) : Phase confirmed target missed live (b.unsubscribe ec s) := by
  apply Phase.ended
  constructor
  · exact unsubscribe_handleGuard ec
  · intro r hr
    rw [unsubscribe_reads] at hr
    cases h with
    | catchingUp _ h => exact h.noHistory r hr
    | draining _ _ h _ => exact h.noHistory r hr
    | ended h => exact h.noHistory r hr

theorem Phase.unsubscribeByKey {b : Base Child} (h : Phase confirmed target missed live s)
    (ec : Error) : Phase confirmed target missed live ((b.unsubscribeByKey ec).runOn s).2 := by
  cases hregistered : s.registered with
  | true =>
      rw [unsubscribeByKey_of_registered hregistered, Base.fail]
      split
      · exact h
      · exact h.unsubscribe ec
  | false =>
      rw [unsubscribeByKey_of_not_registered hregistered]
      exact h

/-!
# Steps

An event that appears while missed events are read waits; one that appears later is passed
on at once, if no other one waits.  Everything else leaves the live events alone.
-/

theorem CatchingUp.readCompleted (hopen : Confirmed target live s)
    (h : CatchingUp confirmed target missed live s) {i : Nat} {r : Read Int}
    (hread : s.reads[i]? = some r) (result : Except Error StreamEventsSlice) :
    Phase confirmed target (missed ++ readEvents (.readCompleted i result)) live
      ((onRead (base key user) settings r result).runOn (s.takeRead i)).2 := by
  rcases h.reads_eq with ⟨r', hreads, hmissed⟩
  rw [hreads, List.getElem?_singleton] at hread
  split at hread
  · rename_i hi
    cases hread
    subst hi
    have hnone : (s.takeRead 0).reads = [] := takeRead_reads hreads
    have hattached : Attached (s.takeRead 0) := by
      constructor
      · exact hopen.registered
      · intro r' hr'
        rw [hnone] at hr'
        cases hr'
    cases result with
    | error e =>
        rcases r with ⟨start, maxCount, handler⟩
        obtain rfl : handler = _ := hmissed
        apply Phase.ended
        constructor
        · exact unsubscribe_handleGuard e
        · intro r' hr'
          rw [show ((onRead (base key user) settings _ (Except.error e)).runOn
            (s.takeRead 0)).2 = (base key user).unsubscribe e (s.takeRead 0) from rfl,
            unsubscribe_reads, hnone] at hr'
          cases hr'
    | ok slice =>
        have hlength : (sliceEvents slice).length = slice.events.length := List.length_map _
        have happeared : appeared ((s.takeRead 0).passOn (sliceEvents slice)) =
            appeared confirmed ++ (missed ++ sliceEvents slice) := by
          rw [appeared_passOn]
          show appeared s ++ _ = _
          rw [h.appeared_eq, List.append_assoc]
        have hcursor : currentEventNumber s + slice.events.length =
            currentEventNumber confirmed + (missed ++ sliceEvents slice).length := by
          rw [h.cursor_eq, List.length_append, hlength, Int.natCast_add, Int.add_assoc]
        apply Phase.of_unless (onRead_unless hattached hmissed slice)
        simp only
        split
        · rename_i hleft
          refine Phase.catchingUp
            ⟨hopen.unlocked, hopen.registered, hopen.unasked, hopen.target_eq, hopen.events⟩ ?_
          constructor
          · refine ⟨_, List.append_eq_singleton_iff.mpr (Or.inl ⟨hnone, rfl⟩), ?_⟩
            show ReadHandler.missed _ = ReadHandler.missed (target -
              (currentEventNumber s + slice.events.length))
            rw [Int.sub_sub]
          · show currentEventNumber s + slice.events.length < target
            omega
          · exact h.posted_eq
          · exact h.buffer
          · exact hcursor
          · exact happeared
        · rename_i hleft
          have hposted : s.posted = [] := h.posted_eq
          refine Phase.draining
            ⟨hopen.unlocked, hopen.registered, hopen.unasked, hopen.target_eq, hopen.events⟩
            (List.nil_append live).symm ?_
            (fun _ => List.append_ne_nil_of_right_ne_nil _ (List.cons_ne_nil _ _))
          constructor
          · exact hnone
          · intro closure hclosure
            have hmem : closure ∈ s.posted ++ [Posted.readSubscriptionEvents] := hclosure
            rw [hposted] at hmem
            exact List.mem_singleton.mp hmem
          · exact h.buffer
          · exact hcursor.trans (Int.add_zero _).symm
          · rw [readEvents, ← hcursor]
            omega
          · rw [List.append_nil]
            exact happeared
  · cases hread

/-- Some of the events that wait are passed on, and the others are going to be. -/
theorem Draining.delivered {passed waiting : List Resolved} (hopen : Confirmed target live s)
    (h : Draining confirmed target missed passed waiting s) (hlive : live = passed ++ waiting)
    {q : BufferQueue Resolved 25} {n : Nat} (hq : q.Represents (waiting.drop n)) :
    Phase confirmed target missed live
      ((Buffered.delivered counted (waiting.take n) q s).postAll
        (if waiting.drop n = [] then [] else [Posted.readSubscriptionEvents])) := by
  have hsplit : live = (passed ++ waiting.take n) ++ waiting.drop n := by
    rw [List.append_assoc, List.take_append_drop, hlive]
  refine Phase.draining
    ⟨hopen.unlocked, hopen.registered, hopen.unasked, hopen.target_eq, hopen.events⟩ hsplit
    ?_ ?_
  · constructor
    · exact h.reads_eq
    · intro closure hclosure
      rcases List.mem_append.mp hclosure with hold | hnew
      · exact h.posted_eq closure hold
      · split at hnew
        · cases hnew
        · exact List.mem_singleton.mp hnew
    · exact hq
    · show (waiting.take n).foldl counted (currentEventNumber s) = _
      rw [foldl_counted, h.cursor_eq, List.length_append, Int.natCast_add, Int.add_assoc]
    · exact h.caughtUp
    · show appeared (s.passOn (waiting.take n)) = _
      rw [appeared_passOn, h.appeared_eq]
      simp only [List.append_assoc]
  · intro hleft
    rw [if_neg hleft]
    exact List.append_ne_nil_of_right_ne_nil _ (List.cons_ne_nil _ _)

theorem Draining.runPosted {passed waiting : List Resolved} (hopen : Confirmed target live s)
    (h : Draining confirmed target missed passed waiting s) (hlive : live = passed ++ waiting)
    {i : Nat} {closure : Posted} (hclosure : s.posted[i]? = some closure) :
    Phase confirmed target missed live
      (((subscription key user settings).runPosted closure).runOn (s.takePosted i)).2 := by
  obtain rfl := h.posted_eq closure (List.mem_of_getElem? hclosure)
  have hattached : Attached (s.takePosted i) := ⟨hopen.registered, h.noHistory⟩
  have hopen' : Confirmed target live (s.takePosted i) :=
    ⟨hopen.unlocked, hopen.registered, hopen.unasked, hopen.target_eq, hopen.events⟩
  have htaken : Draining confirmed target missed passed waiting (s.takePosted i) :=
    ⟨h.reads_eq, fun _ hmem => h.posted_eq _ (List.mem_of_mem_eraseIdx hmem), h.buffer,
      h.cursor_eq, h.caughtUp, h.appeared_eq⟩
  rcases readSubscriptionEvents_unless (base key user) settings hattached
    htaken.buffer rfl with ⟨q, hq, hread⟩
  apply Phase.of_unless hread
  exact htaken.delivered hopen' hlive hq

theorem CatchingUp.received (hopen : Confirmed target live s)
    (h : CatchingUp confirmed target missed live s) {event : ResolvedEvent}
    (hevent : event.event.isSome = true) :
    Phase confirmed target missed (live ++ [Resolved.ofResolvedEvent event])
      ((onPackageReceived (base key user) settings
        (.streamEventAppeared { event := some event })).runOn s).2 := by
  have hbuffer := h.buffer.emplaceBack (by decide) (Resolved.ofResolvedEvent event)
  have hevents : forall e, e ∈ live ++ [Resolved.ofResolvedEvent event] ->
      e.event.isSome = true := by
    intro e he
    rcases List.mem_append.mp he with hold | hnew
    · exact hopen.events e hold
    · rw [List.mem_singleton.mp hnew]
      exact hevent
  rcases List.exists_cons_of_ne_nil (List.append_ne_nil_of_right_ne_nil live
    (List.cons_ne_nil (Resolved.ofResolvedEvent event) [])) with ⟨first, rest, hfirst⟩
  rw [onAppeared_run hopen.target_eq (hfirst ▸ hbuffer)
    (hevents first (hfirst ▸ List.mem_cons_self)), if_pos h.behind]
  exact Phase.catchingUp
    ⟨hopen.unlocked, hopen.registered, hopen.unasked, hopen.target_eq, hevents⟩
    ⟨h.reads_eq, h.behind, h.posted_eq, hbuffer, h.cursor_eq, h.appeared_eq⟩

theorem Draining.received {passed waiting : List Resolved} (hopen : Confirmed target live s)
    (h : Draining confirmed target missed passed waiting s) (hlive : live = passed ++ waiting)
    (hwaiting : waiting ≠ [] -> s.posted ≠ []) {event : ResolvedEvent}
    (hevent : event.event.isSome = true) :
    Phase confirmed target missed (live ++ [Resolved.ofResolvedEvent event])
      ((onPackageReceived (base key user) settings
        (.streamEventAppeared { event := some event })).runOn s).2 := by
  have hbuffer := h.buffer.emplaceBack (by decide) (Resolved.ofResolvedEvent event)
  have hevents : forall e, e ∈ live ++ [Resolved.ofResolvedEvent event] ->
      e.event.isSome = true := by
    intro e he
    rcases List.mem_append.mp he with hold | hnew
    · exact hopen.events e hold
    · rw [List.mem_singleton.mp hnew]
      exact hevent
  have hread : ¬ currentEventNumber s < target := by
    rw [h.cursor_eq]
    have hcaughtUp := h.caughtUp
    omega
  have hsplit : live ++ [Resolved.ofResolvedEvent event] =
      passed ++ (waiting ++ [Resolved.ofResolvedEvent event]) := by
    rw [hlive, List.append_assoc]
  let held := Buffered.emplaceBack (Resolved.ofResolvedEvent event) s
  have hopen' : Confirmed target (live ++ [Resolved.ofResolvedEvent event]) held :=
    ⟨hopen.unlocked, hopen.registered, hopen.unasked, hopen.target_eq, hevents⟩
  have hheld : Draining confirmed target missed passed
      (waiting ++ [Resolved.ofResolvedEvent event]) held :=
    ⟨h.reads_eq, h.posted_eq, hbuffer, h.cursor_eq, h.caughtUp, h.appeared_eq⟩
  cases waiting with
  | nil =>
      rw [onAppeared_run hopen.target_eq hbuffer hevent, if_neg hread]
      simp only [List.length_nil, if_true]
      rcases readSubscriptionEvents_unless (base key user) settings
        (show Attached held from ⟨hopen.registered, h.noHistory⟩) hheld.buffer rfl with
        ⟨q, hq, hdrain⟩
      have hboth := hdrain.bind (f := fun _ => pure true) (fun _ => Handler.keeps_pure true)
        (Handler.unless_of_eq rfl)
      exact Phase.of_unless hboth (hheld.delivered hopen' hsplit hq)
  | cons first rest =>
      have hfirst : first.event.isSome = true := by
        apply hopen.events first
        rw [hlive]
        exact List.mem_append_right _ List.mem_cons_self
      have hmany : ¬ (rest ++ [Resolved.ofResolvedEvent event]).length = 0 := by simp
      rw [onAppeared_run hopen.target_eq (List.cons_append ▸ hbuffer) hfirst, if_neg hread]
      simp only [hmany, if_false]
      exact Phase.draining hopen' hsplit hheld fun _ => hwaiting (List.cons_ne_nil _ _)

theorem Phase.unended (h : Phase confirmed target missed live s)
    (hunlocked : s.handleGuard = false) : Confirmed target live s := by
  cases h with
  | catchingUp hopen _ => exact hopen
  | draining hopen _ _ _ => exact hopen
  | ended h =>
      rw [h.locked] at hunlocked
      cases hunlocked

theorem Phase.receivedEvent (h : Phase confirmed target missed live s)
    (hunlocked : s.handleGuard = false) {event : ResolvedEvent}
    (hevent : event.event.isSome = true) :
    Phase confirmed target missed (live ++ [Resolved.ofResolvedEvent event])
      (((subscription key user settings).receive
        (.streamEventAppeared { event := some event })).runOn s).2 := by
  have hopen := h.unended hunlocked
  have hafter : Phase confirmed target missed (live ++ [Resolved.ofResolvedEvent event])
      ((onPackageReceived (base key user) settings
        (.streamEventAppeared { event := some event })).runOn s).2 := by
    cases h with
    | catchingUp _ h => exact h.received hopen hevent
    | draining _ hlive h hwaiting => exact h.received hopen hlive hwaiting hevent
    | ended h =>
        rw [h.locked] at hunlocked
        cases hunlocked
  simp only [Class.receive, Base.entry, Handler.runOn_bind, Handler.runOn_get, hopen.unasked,
    hopen.registered, hopen.unlocked, Bool.false_eq_true, if_false, if_true, subscription]
  rcases hrun : (onPackageReceived (base key user) settings
    (.streamEventAppeared { event := some event })).runOn s with ⟨r, after⟩
  rw [hrun] at hafter
  cases r with
  | error fault => exact hafter
  | ok handled =>
      cases handled with
      | true => exact hafter
      | false =>
          have hunsubscribed : Phase confirmed target missed
              (live ++ [Resolved.ofResolvedEvent event])
              ((base key user).unsubscribe (Error.communication .serverError) after) :=
            hafter.unsubscribe _
          exact hunsubscribed

theorem Phase.receivedOther (fromEventNumber : Int)
    (h : Phase confirmed target missed live s) (hunlocked : s.handleGuard = false)
    {message : ServerMessage}
    (hends : (Kind.catchup fromEventNumber settings).Ends message) :
    Phase confirmed target missed live
      (((subscription key user settings).receive message).runOn s).2 := by
  have hopen := h.unended hunlocked
  by_cases hswallows : (Kind.catchup fromEventNumber settings).Swallows message
  · have hafter : (((subscription key user settings).receive message).runOn s).2 = s :=
      (Kind.catchup fromEventNumber settings).receive_swallowed key user hopen.unasked
        hopen.registered hunlocked hends hswallows
    rw [hafter]
    exact h
  · rcases (Kind.catchup fromEventNumber settings).receive_ends key user hopen.unasked
      hopen.registered hunlocked hends hswallows with ⟨b, ec, _, hunsubscribed⟩
    have hafter : (((subscription key user settings).receive message).runOn s).2 =
        b.unsubscribe ec s := hunsubscribed
    rw [hafter]
    exact h.unsubscribe ec

theorem Phase.received (h : Phase confirmed target missed live s)
    (hunlocked : s.handleGuard = false) {message : ServerMessage}
    (hlive : Live (.received message)) :
    Phase confirmed target missed (live ++ (liveEvent? (.received message)).toList)
      (((subscription key user settings).receive message).runOn s).2 := by
  cases message with
  | subscriptionConfirmation response => cases hlive
  | streamEventAppeared message =>
      rcases message with ⟨event⟩
      rcases hlive with ⟨e, rfl, he⟩
      exact h.receivedEvent hunlocked he
  | _ =>
      simp only [liveEvent?, Option.toList_none, List.append_nil]
      exact h.receivedOther 0 hunlocked (by trivial)

theorem Phase.completed (h : Phase confirmed target missed live s)
    (hunlocked : s.handleGuard = false) (result : WaitResult) :
    Phase confirmed target missed live
      (((subscription key user settings).completed result).runOn s).2 := by
  have hopen := h.unended hunlocked
  cases result with
  | aborted => exact h
  | expired => simpa [Base.completed, hopen.unasked] using h

theorem Phase.step (h : Phase confirmed target missed live s) {i : Input StreamEventsSlice}
    (hlive : Live i)
    (hstep : Subscription.step (subscription key user settings) s i = some next) :
    Phase confirmed target (missed ++ readEvents i) (live ++ (liveEvent? i).toList) next := by
  cases hguard : s.handleGuard with
  | true =>
      cases h with
      | catchingUp hopen _ =>
          rw [hopen.unlocked] at hguard
          cases hguard
      | draining hopen _ _ _ =>
          rw [hopen.unlocked] at hguard
          cases hguard
      | ended h => exact Phase.ended (step_locked (Catchup.locks settings key user) h hstep)
  | false =>
      cases i with
      | received message =>
          rw [Subscription.step] at hstep
          split at hstep
          · cases hstep
            rw [show missed ++ readEvents (.received message) = missed from
              List.append_nil missed]
            exact (h.received hguard hlive).settleReceived
          · cases hstep
      | readCompleted i result =>
          rw [Subscription.step, Option.map_eq_some_iff] at hstep
          rcases hstep with ⟨r, hread, rfl⟩
          rw [show live ++ (liveEvent? (.readCompleted i result)).toList = live from
            List.append_nil live]
          cases h with
          | catchingUp hopen h => exact (h.readCompleted hopen hread result).settleRead result
          | draining _ _ h _ =>
              rw [h.reads_eq] at hread
              cases hread
          | ended h =>
              rw [h.locked] at hguard
              cases hguard
      | posted i =>
          rw [Subscription.step, Option.map_eq_some_iff] at hstep
          rcases hstep with ⟨closure, hclosure, rfl⟩
          rw [show missed ++ readEvents (.posted i) = missed from List.append_nil missed,
            show live ++ (liveEvent? (.posted i)).toList = live from List.append_nil live]
          cases h with
          | catchingUp _ h =>
              rw [h.posted_eq] at hclosure
              cases hclosure
          | draining hopen hsplit h _ =>
              exact (h.runPosted hopen hsplit hclosure).settle
          | ended h =>
              rw [h.locked] at hguard
              cases hguard
      | expired =>
          rw [Subscription.step, Option.map_eq_some_iff] at hstep
          rcases hstep with ⟨t, _, rfl⟩
          rw [show missed ++ readEvents .expired = missed from List.append_nil missed,
            show live ++ (liveEvent? .expired).toList = live from List.append_nil live]
          exact h.frame rfl rfl rfl rfl rfl rfl rfl rfl
      | completed =>
          rw [Subscription.step, Option.map_eq_some_iff] at hstep
          rcases hstep with ⟨result, _, rfl⟩
          rw [show missed ++ readEvents .completed = missed from List.append_nil missed,
            show live ++ (liveEvent? .completed).toList = live from List.append_nil live]
          have hidle : Phase confirmed target missed live (s.setDeadline Timer.idle) :=
            h.frame rfl rfl rfl rfl rfl rfl rfl rfl
          exact (hidle.completed hguard result).settle
      | unsubscribe =>
          cases hstep
          rw [show missed ++ readEvents .unsubscribe = missed from List.append_nil missed,
            show live ++ (liveEvent? .unsubscribe).toList = live from List.append_nil live]
          exact (h.unsubscribeByKey _).settle

theorem Phase.run (h : Phase confirmed target missed live s)
    {inputs : List (Input StreamEventsSlice)} {last : CatchupState}
    (hlive : forall i, i ∈ inputs -> Live i)
    (hrun : Foundation.run (Subscription.step (subscription key user settings)) s inputs =
      some last) :
    Phase confirmed target (missed ++ missedEvents inputs) (live ++ liveEvents inputs) last := by
  induction inputs generalizing s missed live with
  | nil =>
      cases hrun
      rw [missedEvents, liveEvents, List.flatMap_nil, List.filterMap_nil, List.append_nil,
        List.append_nil]
      exact h
  | cons i rest ih =>
      rcases run_cons hrun with ⟨next, hstep, hrest⟩
      have hnext := ih (h.step (hlive i List.mem_cons_self) hstep)
        (fun i' hi' => hlive i' (List.mem_cons_of_mem i hi')) hrest
      have hlives : (liveEvent? i).toList ++ liveEvents rest = liveEvents (i :: rest) := by
        cases hevent : liveEvent? i with
        | none => simp [liveEvents, hevent]
        | some e => simp [liveEvents, hevent]
      rw [List.append_assoc, List.append_assoc, hlives] at hnext
      exact hnext

end Phases

/-!
# Before the confirmation

Slices of the history are passed on until the confirmation is handled.
-/

/-- The subscription reads its history, or waits for its confirmation. -/
structure Early (s : CatchupState) : Prop where
  history : forall r, r ∈ s.reads -> r.handler = ReadHandler.history
  posted_eq : s.posted = []
  unconfirmed : s.lastEventNumber = none
  buffer : s.receiving = true -> s.child.eventBuffer.Represents []

structure Reading (s : CatchupState) : Prop where
  early : Early s
  reads_eq : s.reads = []
  unregistered : s.registered = false

section Early

variable {s next : CatchupState} {key : Guid} {user : User} {b : Base Child}
  {settings : CatchupSubscriptionSettings}

theorem Early.frame (h : Early s) (hchild : next.child.eventBuffer = s.child.eventBuffer)
    (htarget : next.lastEventNumber = s.lastEventNumber) (hreads : next.reads = s.reads)
    (hposted : next.posted = s.posted)
    (hreceiving : next.receiving = true -> s.receiving = true) : Early next where
  history := by
    rw [hreads]
    exact h.history
  posted_eq := hposted.trans h.posted_eq
  unconfirmed := htarget.trans h.unconfirmed
  buffer := by
    intro hnext
    rw [hchild]
    exact h.buffer (hreceiving hnext)

theorem Early.settle {after : Except Fault Unit × CatchupState} (h : Early after.2) :
    Early (settle after) := by
  rcases after with ⟨r, s⟩
  cases r with
  | ok _ => exact h
  | error fault => exact h.frame rfl rfl rfl rfl id

theorem Early.settleReceived {after : Except Fault Unit × CatchupState} (h : Early after.2) :
    Early (settleReceived after) := by
  rcases after with ⟨r, s⟩
  cases r with
  | ok _ => exact h
  | error fault =>
      exact h.frame rfl rfl rfl rfl (fun hreceiving => absurd hreceiving Bool.false_ne_true)

theorem settle_handleGuard (after : Except Fault Unit × CatchupState) :
    (settle after).handleGuard = after.2.handleGuard := by
  rcases after with ⟨r, s⟩
  cases r <;> rfl

theorem settleReceived_handleGuard (after : Except Fault Unit × CatchupState) :
    (settleReceived after).handleGuard = after.2.handleGuard := by
  rcases after with ⟨r, s⟩
  cases r <;> rfl

theorem settleRead_handleGuard (result : Except Error StreamEventsSlice)
    (after : Except Fault Unit × CatchupState) :
    (settleRead result after).handleGuard = after.2.handleGuard := by
  rcases settleRead_eq result after with heq | heq
  · rw [heq, settle_handleGuard]
  · rw [heq, settleReceived_handleGuard]

theorem keeps_reading_eventAppeared (e : Resolved) :
    Handler.Keeps Reading (b.eventAppeared e) := by
  intro s hs
  have hcalled : Reading (s.called (Callback.eventAppeared e none)) :=
    ⟨hs.early.frame rfl rfl rfl rfl id, hs.reads_eq, hs.unregistered⟩
  rw [eventAppeared_run]
  split
  · rw [unsubscribeByKey_of_not_registered hcalled.unregistered]
    exact hcalled
  · exact hcalled

theorem keeps_reading_appear (events : List Resolved) :
    Handler.Keeps Reading (appear b events) := by
  apply Handler.keeps_forM
  intro e
  exact Handler.keeps_bind (keeps_reading_eventAppeared e) fun _ =>
    Handler.keeps_modify fun s hs =>
      ⟨hs.early.frame rfl rfl rfl rfl id, hs.reads_eq, hs.unregistered⟩

theorem Reading.onRead_history (h : Reading s) {r : Read Int}
    (hhistory : r.handler = ReadHandler.history) (slice : StreamEventsSlice) :
    Early ((onRead b settings r (Except.ok slice)).runOn s).2 := by
  rcases r with ⟨start, maxCount, handler⟩
  obtain rfl : handler = ReadHandler.history := hhistory
  apply Handler.after_bind (keeps_reading_appear (sliceEvents slice)) (fun _ hs => hs.early)
    ?_ h
  intro _ s hs
  split
  · exact hs.early.frame rfl rfl rfl rfl id
  · constructor
    · intro r hr
      rw [show ((modify (asyncStart settings) : Handles Child (Read Int) PUnit).runOn s).2.reads =
        s.reads ++ _ from rfl, hs.reads_eq, List.nil_append, List.mem_singleton] at hr
      rw [hr]
    · exact hs.early.posted_eq
    · exact hs.early.unconfirmed
    · exact hs.early.buffer

/-- An event that appears before the confirmation leaves its handler with a fault. -/
theorem Early.onAppeared_run (h : Early s) (b : Base Child)
    (settings : CatchupSubscriptionSettings) (hreceiving : s.receiving = true)
    (message : StreamEventAppeared) :
    exists fault, (onPackageReceived b settings (.streamEventAppeared message)).runOn s =
      (Except.error fault,
        Buffered.emplaceBack (Resolved.ofStreamEventAppeared message) s) := by
  obtain ⟨held, hheld⟩ : exists held,
      held = Buffered.emplaceBack (Resolved.ofStreamEventAppeared message) s := ⟨_, rfl⟩
  have hbuffer : held.child.eventBuffer.Represents
      [Resolved.ofStreamEventAppeared message] := by
    rw [hheld]
    exact (h.buffer hreceiving).emplaceBack (by decide) _
  have hunconfirmed : held.lastEventNumber = none := by
    rw [hheld]
    exact h.unconfirmed
  rw [← hheld]
  cases hevent : (Resolved.ofStreamEventAppeared message).event with
  | none =>
      exists Fault.badOptionalAccess
      simp [onPackageReceived, ← hheld, Buffered.front, hbuffer.front_eq, value, hevent]
  | some record =>
      exists Fault.badOptionalAccess
      simp [onPackageReceived, ← hheld, Buffered.front, hbuffer.front_eq, value, hevent,
        hunconfirmed]

theorem Early.received (h : Early s) (hrouted : Routed profile s)
    (hguard : s.handleGuard = false) (hreceiving : s.receiving = true)
    {message : ServerMessage} (hconfirms : ¬ Confirms (.received message))
    (hnext : (((subscription key user settings).receive message).runOn s).2.handleGuard =
      false) :
    Early (Subscription.settleReceived
      (((subscription key user settings).receive message).runOn s)) := by
  have hrequest := (hrouted.unlocked hguard).right.right
  cases hregistered : s.registered with
  | false =>
      have hignored : ((subscription key user settings).receive message).runOn s =
          (Except.ok (), s) := by
        simp [Class.receive, hrequest, hregistered]
      rw [hignored]
      exact h
  | true =>
      have hother : (Kind.catchup 0 settings).Ends message ->
          Early (((subscription key user settings).receive message).runOn s).2 := by
        intro hends
        by_cases hswallows : (Kind.catchup 0 settings).Swallows message
        · have hafter : (((subscription key user settings).receive message).runOn s).2 = s :=
            (Kind.catchup 0 settings).receive_swallowed key user hrequest hregistered hguard
              hends hswallows
          rw [hafter]
          exact h
        · rcases (Kind.catchup 0 settings).receive_ends key user hrequest hregistered hguard
            hends hswallows with ⟨b, ec, _, hunsubscribed⟩
          have hafter : (((subscription key user settings).receive message).runOn s).2 =
              b.unsubscribe ec s := hunsubscribed
          rw [hafter, unsubscribe_handleGuard] at hnext
          cases hnext
      cases message with
      | subscriptionConfirmation response => exact absurd trivial hconfirms
      | streamEventAppeared message =>
          rcases h.onAppeared_run (base key user) settings hreceiving message with ⟨fault, hrun⟩
          have hfaulted : ((subscription key user settings).receive
              (.streamEventAppeared message)).runOn s = (Except.error fault,
                Buffered.emplaceBack (Resolved.ofStreamEventAppeared message) s) := by
            simp [Class.receive, Base.entry, hrequest, hregistered, hguard, subscription, hrun]
          rw [hfaulted]
          exact ⟨h.history, h.posted_eq, h.unconfirmed,
            fun hreceiving => absurd hreceiving Bool.false_ne_true⟩
      | _ => exact (hother (by trivial)).settleReceived

/-- What one step before the confirmation keeps, if it does not end the subscription. -/
theorem Early.step (h : Early s) (hrouted : Routed profile s) (hguard : s.handleGuard = false)
    {i : Input StreamEventsSlice} (hconfirms : ¬ Confirms i)
    (hstep : Subscription.step (subscription key user settings) s i = some next)
    (hnext : next.handleGuard = false) : Early next := by
  cases i with
  | received message =>
      rw [Subscription.step] at hstep
      split at hstep
      · rename_i hreceiving
        cases hstep
        rw [settleReceived_handleGuard] at hnext
        exact h.received hrouted hguard hreceiving hconfirms hnext
      · cases hstep
  | readCompleted i result =>
      rw [Subscription.step, Option.map_eq_some_iff] at hstep
      rcases hstep with ⟨r, hread, rfl⟩
      have hhistory := h.history r (List.mem_of_getElem? hread)
      have hfirst := hrouted.history_first r (List.mem_of_getElem? hread)
        (decide_eq_true hhistory)
      have hnone := hrouted.history_alone hread (decide_eq_true hhistory)
      cases result with
      | ok slice =>
          have hreading : Reading (s.takeRead i) := by
            constructor
            · refine ⟨?_, h.posted_eq, h.unconfirmed, h.buffer⟩
              intro r' hr'
              rw [hnone] at hr'
              cases hr'
            · exact hnone
            · exact hfirst.right.left
          exact (hreading.onRead_history hhistory slice).settleReceived
      | error e =>
          rcases r with ⟨start, maxCount, handler⟩
          obtain rfl : handler = ReadHandler.history := hhistory
          rw [settleRead_handleGuard] at hnext
          cases hnext
  | posted i =>
      rw [Subscription.step, h.posted_eq] at hstep
      cases hstep
  | expired =>
      rw [Subscription.step, Option.map_eq_some_iff] at hstep
      rcases hstep with ⟨t, _, rfl⟩
      exact h.frame rfl rfl rfl rfl id
  | completed =>
      rw [Subscription.step, Option.map_eq_some_iff] at hstep
      rcases hstep with ⟨result, _, rfl⟩
      apply Early.settle
      have hrequest := (hrouted.unlocked hguard).right.right
      have hrequest' : (s.setDeadline Timer.idle).unsubscribing = false := hrequest
      have hidle : Early (s.setDeadline Timer.idle) := h.frame rfl rfl rfl rfl id
      cases result with
      | aborted => exact hidle
      | expired => simpa [Base.completed, hrequest'] using hidle
  | unsubscribe =>
      cases hstep
      rw [settle_handleGuard] at hnext
      apply Early.settle
      cases hregistered : s.registered with
      | true =>
          rw [unsubscribeByKey_of_registered hregistered, Base.fail, hguard] at hnext
          rw [if_neg Bool.false_ne_true, unsubscribe_handleGuard] at hnext
          cases hnext
      | false =>
          rw [unsubscribeByKey_of_not_registered hregistered]
          exact h

theorem run_early (key : Guid) (user : User) (fromEventNumber : Int)
    (settings : CatchupSubscriptionSettings) {inputs : List (Input StreamEventsSlice)}
    (hconfirms : forall i, i ∈ inputs -> ¬ Confirms i)
    (hrun : run (step (subscription key user settings))
      (Kind.catchup fromEventNumber settings).started inputs = some s) :
    Watched profile s ∧ (s.handleGuard = false -> Early s) := by
  have hstarted : Early (Kind.catchup fromEventNumber settings).started := by
    constructor
    · intro r hr
      rw [List.mem_singleton.mp (show r ∈ [_] from hr)]
    · rfl
    · rfl
    · exact fun _ => BufferQueue.represents_new
  have hpreserves : forall {s : CatchupState} {i : Input StreamEventsSlice}
      {next : CatchupState}, Watched profile s ∧ (s.handleGuard = false -> Early s) ->
      ¬ Confirms i -> step (subscription key user settings) s i = some next ->
      Watched profile next ∧ (next.handleGuard = false -> Early next) := by
    rintro s i next ⟨hwatched, hearly⟩ hi hstep
    constructor
    · exact step_watched (Catchup.sound settings key user) (Catchup.locks settings key user)
        hwatched hstep
    · intro hnext
      cases hguard : s.handleGuard with
      | false => exact (hearly hguard).step (hwatched.unlocked hguard) hguard hi hstep hnext
      | true =>
          have hlocked := step_locked (Catchup.locks settings key user)
            (hwatched.locked hguard) hstep
          rw [hlocked.locked] at hnext
          cases hnext
  exact run_invariant hpreserves
    ⟨(Kind.catchup fromEventNumber settings).started_routed.watched, fun _ => hstarted⟩
    (everyStep_of_forall hconfirms _) hrun

theorem Early.confirmed (h : Early s) (hrouted : Routed profile s)
    (hguard : s.handleGuard = false) (hregistered : s.registered = true)
    (hreceiving : s.receiving = true) (response : SubscriptionConfirmation) :
    Phase s (read response.lastEventNumber) [] []
      (Subscription.settleReceived (((subscription key user settings).receive
        (.subscriptionConfirmation response)).runOn s)) := by
  have hrequest := (hrouted.unlocked hguard).right.right
  have hhistory := hrouted.noHistory_of_registered hregistered
  have hreads : s.reads = [] := by
    rw [List.eq_nil_iff_forall_not_mem]
    intro r hr
    have hmissed := hhistory r hr
    rw [show profile.IsHistory r = true from decide_eq_true (h.history r hr)] at hmissed
    cases hmissed
  have hhandled : forall after : CatchupState,
      (onPackageReceived (base key user) settings
        (.subscriptionConfirmation response)).runOn s = (Except.ok true, after) ->
      ((subscription key user settings).receive
        (.subscriptionConfirmation response)).runOn s = (Except.ok (), after) :=
    fun _ hrun => receive_handled hrequest hregistered hguard hrun
  cases htarget : response.lastEventNumber with
  | none =>
      have hrun := hhandled ((base key user).unsubscribe
        (Error.subscription .badSubscriptionConfirmation)
        (confirm response.lastCommitPosition response.lastEventNumber s))
        (by simp [onPackageReceived, htarget, Except.map])
      rw [hrun]
      apply Phase.ended
      constructor
      · exact unsubscribe_handleGuard _
      · show NoHistory profile (Base.unsubscribe _ _ _)
        intro r hr
        rw [unsubscribe_reads] at hr
        exact hhistory r hr
  | some target =>
      have hrun := hhandled _ (by
        rw [show response = { lastCommitPosition := response.lastCommitPosition
                              lastEventNumber := some target } by rw [← htarget]]
        exact CatchupDelivery.onConfirmation_run (base key user) settings _ target)
      rw [hrun]
      simp only
      split
      · rename_i hbehind
        refine Phase.catchingUp
          ⟨hguard, hregistered, hrequest, rfl, fun _ he => absurd he List.not_mem_nil⟩ ?_
        constructor
        · exact ⟨_, List.append_eq_singleton_iff.mpr (Or.inl ⟨hreads, rfl⟩), rfl⟩
        · exact hbehind
        · exact h.posted_eq
        · exact h.buffer hreceiving
        · exact (Int.add_zero _).symm
        · exact (List.append_nil _).symm
      · rename_i hbehind
        refine Phase.draining
          ⟨hguard, hregistered, hrequest, rfl, fun _ he => absurd he List.not_mem_nil⟩
          (List.nil_append []).symm ?_ (fun hnone => absurd rfl hnone)
        constructor
        · exact hreads
        · intro closure hclosure
          have hmem : closure ∈ s.posted := hclosure
          rw [h.posted_eq] at hmem
          cases hmem
        · exact h.buffer hreceiving
        · show currentEventNumber s = currentEventNumber s + 0 + 0
          rw [Int.add_zero, Int.add_zero]
        · show target ≤ currentEventNumber s + 0
          rw [Int.add_zero]
          exact Int.not_lt.mp hbehind
        · rw [List.append_nil, List.append_nil]
          rfl

end Early

/-!
# Runs

No live event is left behind in the buffer.
-/

theorem Phase.strandsNone {confirmed s : CatchupState} {target : Int}
    {missed live : List Resolved} (h : Phase confirmed target missed live s)
    (hunlocked : s.handleGuard = false) :
    StrandsNone (target - currentEventNumber confirmed) missed live confirmed s := by
  cases h with
  | catchingUp _ h =>
      constructor
      · intro _
        rcases h.reads_eq with ⟨r, hreads, hmissed⟩
        exact Or.inl ⟨r, _, hreads ▸ List.mem_singleton_self r, hmissed⟩
      · exact ⟨[], List.nil_prefix, by rw [h.appeared_eq, List.append_nil],
          fun hnone => absurd rfl hnone⟩
  | @draining passed waiting _ hlive h hposted =>
      constructor
      · intro hempty
        have hwaiting : waiting ≠ [] := by
          intro hnone
          rw [h.buffer.empty_iff.mpr hnone] at hempty
          cases hempty
        rcases List.exists_mem_of_ne_nil _ (hposted hwaiting) with ⟨closure, hclosure⟩
        have hdrain := h.posted_eq closure hclosure
        exact Or.inr (hdrain ▸ hclosure)
      · refine ⟨passed, ⟨waiting, hlive.symm⟩, h.appeared_eq, fun _ => ?_⟩
        have hcaughtUp := h.caughtUp
        omega
  | ended h =>
      rw [h.locked] at hunlocked
      cases hunlocked

/-- After its confirmation, and until its guard is locked, a subscription to a stream
strands no live event, and passes the live events on in order and once, after the missed
ones. -/
theorem run_strandsNone (key : Guid) (user : User) (fromEventNumber : Int)
    (settings : CatchupSubscriptionSettings) {before after : List (Input StreamEventsSlice)}
    {confirmed last : CatchupState} {response : SubscriptionConfirmation}
    (hbefore : forall i, i ∈ before -> ¬ Confirms i)
    (hconfirmed : run (step (subscription key user settings))
      (Kind.catchup fromEventNumber settings).started before = some confirmed)
    (hregistered : confirmed.registered = true) (hafter : forall i, i ∈ after -> Live i)
    (hlast : run (step (subscription key user settings)) confirmed
      (Input.received (.subscriptionConfirmation response) :: after) = some last)
    (hunlocked : last.handleGuard = false) :
    StrandsNone (read response.lastEventNumber - currentEventNumber confirmed)
      (missedEvents after) (liveEvents after) confirmed last := by
  rcases run_early key user fromEventNumber settings hbefore hconfirmed with
    ⟨hwatched, hearly⟩
  rcases run_cons hlast with ⟨next, hstep, hrest⟩
  have hphase : Phase confirmed (read response.lastEventNumber) [] [] next := by
    cases hguard : confirmed.handleGuard with
    | true => exact Phase.ended (step_locked (Catchup.locks settings key user)
        (hwatched.locked hguard) hstep)
    | false =>
        cases stepped_of_step hstep with
        | received _ hreceiving =>
            exact (hearly hguard).confirmed (hwatched.unlocked hguard) hguard hregistered
              hreceiving response
  have hend := (hphase.run hafter hrest).strandsNone hunlocked
  rwa [List.nil_append, List.nil_append] at hend

def pushed (eventNumber : Int) : Input StreamEventsSlice :=
  Input.received (.streamEventAppeared
    { event := some
        { event := some (recordedEvent eventNumber)
          link := none
          commitPosition := some 0
          preparePosition := some 0 } })

def historyOfOne : List (Input StreamEventsSlice) :=
  [Input.readCompleted 0 (Except.ok (streamSlice true [0]))]

/-- An event appears while another one is still missed, and a second one before the first
has been passed on. -/
def appearedEarly : List (Input StreamEventsSlice) :=
  [pushed 3, Input.readCompleted 0 (Except.ok (streamSlice true [1])), pushed 4,
    Input.posted 0, pushed 5]

theorem appearedEarly_strandsNone :
    exists confirmed last,
      run (step (subscription (Guid.ofByte 1) User.passive CatchupSubscriptionSettings.built))
        catchupFromStart.started historyOfOne = some confirmed ∧
      run (step (subscription (Guid.ofByte 1) User.passive CatchupSubscriptionSettings.built))
        confirmed (Input.received (Subscription.confirmation 2) :: appearedEarly) = some last ∧
      StrandsNone (2 - currentEventNumber confirmed) (missedEvents appearedEarly)
        (liveEvents appearedEarly) confirmed last := by
  let system :=
    step (subscription (Guid.ofByte 1) User.passive CatchupSubscriptionSettings.built)
  obtain ⟨confirmed, hconfirmed⟩ : exists confirmed,
      run system catchupFromStart.started historyOfOne = some confirmed :=
    Option.isSome_iff_exists.mp (by decide +kernel)
  have hregistered : (run system catchupFromStart.started historyOfOne).map
      (fun s => s.registered) = some true := by
    decide +kernel
  have hguard : (run system catchupFromStart.started historyOfOne).bind (fun s =>
      (run system s (Input.received (Subscription.confirmation 2) :: appearedEarly)).map
        fun s => s.handleGuard) = some false := by
    decide +kernel
  rw [hconfirmed, Option.map_some, Option.some_inj] at hregistered
  rw [hconfirmed, Option.bind_some, Option.map_eq_some_iff] at hguard
  rcases hguard with ⟨last, hlast, hunlocked⟩
  refine ⟨confirmed, last, hconfirmed, hlast,
    run_strandsNone (Guid.ofByte 1) User.passive 0 CatchupSubscriptionSettings.built ?_
      hconfirmed hregistered ?_ hlast hunlocked⟩
  · intro i hi hconfirms
    rw [historyOfOne, List.mem_singleton] at hi
    rw [hi] at hconfirms
    cases hconfirms
  · intro i hi
    simp only [appearedEarly, List.mem_cons, List.not_mem_nil, or_false] at hi
    rcases hi with rfl | rfl | rfl | rfl | rfl
    · exact ⟨_, rfl, rfl⟩
    · trivial
    · exact ⟨_, rfl, rfl⟩
    · trivial
    · exact ⟨_, rfl, rfl⟩

end CatchupLive
end Subscription
end EventStoreClient
