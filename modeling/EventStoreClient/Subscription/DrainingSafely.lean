import EventStoreClient.Buffer.Refinement
import EventStoreClient.Subscription.Draining
import EventStoreClient.Subscription.Dropped
import EventStoreClient.Subscription.Keeping

/-!
# Draining safely

When the buffer of a catch-up subscription survives what the callbacks do while it is being
drained.
-/

namespace EventStoreClient
namespace Subscription
namespace Draining

open Buffer Connection Foundation Operations Wire

variable {cursor pending position batch : Type}

/-!
# What draining should keep

Each `pop_front` finds an element, and the buffer goes on behaving as a list.
-/

/-- Every `pop_front` has found an element, the indices of an empty buffer are those of a
new one, and the buffer behaves as a list. -/
structure DrainsSafely (s : State (Child cursor) pending) : Prop where
  pops_full : forall found, found ∈ s.child.cursor.pops -> found = true
  indices_new : s.child.eventBuffer.empty = true ->
    s.child.eventBuffer.frontChunkIdx =
        (BufferQueue.new : BufferQueue Resolved 25).frontChunkIdx ∧
      s.child.eventBuffer.backChunkIdx =
        (BufferQueue.new : BufferQueue Resolved 25).backChunkIdx
  behaves : exists xs, s.child.eventBuffer.Behaves xs

/-- Whether the buffer has been cleared when the calls return, `none` if an exception leaves
them.  An unsubscription throws if the connection does not know the subscription, and does
nothing if the guard is locked. -/
def clearedBy (registered : Bool) : Bool -> List Act -> Option Bool
  | _, [] => some false
  | locked, .unsubscribe :: rest =>
      if !registered then none
      else if locked then clearedBy registered locked rest
      else (clearedBy registered true rest).map fun _ => true
  | locked, .asyncStart :: rest => clearedBy registered locked rest
  | locked, .shutdown :: rest => (clearedBy registered locked rest).map fun _ => true
  | _, .throws _ :: _ => none

def DrainCall.clears (call : DrainCall) : Bool :=
  decide (clearedBy call.registered call.handleGuard call.acts = some true)

/-!
# Callbacks

A start only issues a read.  What goes wrong goes wrong after a call that clears the
buffer.
-/

section Callbacks

variable {b : Base (Child cursor)} {user : ActingUser}
  {start : State (Child cursor) pending -> State (Child cursor) pending}
  {s next : State (Child cursor) pending}

/-- Calls from within a callback leave the records alone, and the buffer as it was or
cleared. -/
structure Frame (s next : State (Child cursor) pending) : Prop where
  cursor_eq : next.child.cursor = s.child.cursor
  registered_eq : next.registered = s.registered
  buffer_eq : next.child.eventBuffer = s.child.eventBuffer ∨
    next.child.eventBuffer = BufferQueue.new

theorem Frame.refl (s : State (Child cursor) pending) : Frame s s :=
  ⟨rfl, rfl, Or.inl rfl⟩

theorem Frame.trans {mid : State (Child cursor) pending} (h : Frame s mid)
    (hnext : Frame mid next) : Frame s next where
  cursor_eq := hnext.cursor_eq.trans h.cursor_eq
  registered_eq := hnext.registered_eq.trans h.registered_eq
  buffer_eq := by
    rcases hnext.buffer_eq with hsame | hnew
    · rw [hsame]
      exact h.buffer_eq
    · exact Or.inr hnew

def OnlyReads (start : State (Child cursor) pending -> State (Child cursor) pending) : Prop :=
  forall s, exists r, start s = s.startRead r

theorem frame_unsubscribe (hshutdown : b.shutdown = Buffered.shutdown) (ec : Error)
    (s : State (Child cursor) pending) :
    Frame s (b.unsubscribe ec s) ∧
      (b.unsubscribe ec s).child.eventBuffer = BufferQueue.new ∧
      (b.unsubscribe ec s).handleGuard = true := by
  have hchild : (b.unsubscribe ec s).child = Buffered.shutdown s.child := by
    unfold Base.unsubscribe
    split <;> simp [State.send, State.post, hshutdown]
  have hregistered : (b.unsubscribe ec s).registered = s.registered := by
    unfold Base.unsubscribe
    split <;> rfl
  have hguard : (b.unsubscribe ec s).handleGuard = true := by
    unfold Base.unsubscribe
    split <;> rfl
  refine ⟨⟨?_, hregistered, Or.inr ?_⟩, ?_, hguard⟩
  · rw [hchild]
    rfl
  · rw [hchild]
    rfl
  · rw [hchild]
    rfl

/-- The calls have been left by an exception, or have returned with the buffer cleared or
still `q`. -/
inductive Ends (q : BufferQueue Resolved 25) :
    Option Bool -> Except Fault Unit -> State (Child cursor) pending -> Prop where
  | thrown (fault : Fault) (next : State (Child cursor) pending) :
      Ends q none (Except.error fault) next
  | returned {next : State (Child cursor) pending} (cleared : Bool)
      (hbuffer : next.child.eventBuffer = if cleared then BufferQueue.new else q) :
      Ends q (some cleared) (Except.ok ()) next

theorem Ends.afterClear {q : BufferQueue Resolved 25} {outcome : Option Bool}
    {r : Except Fault Unit} (h : Ends BufferQueue.new outcome r next) :
    Ends q (outcome.map fun _ => true) r next := by
  cases h with
  | thrown fault => exact Ends.thrown fault next
  | returned cleared hbuffer =>
      apply Ends.returned true
      rw [hbuffer]
      cases cleared <;> rfl

theorem acts_run (hshutdown : b.shutdown = Buffered.shutdown) (hstart : OnlyReads start)
    (acts : List Act) (s : State (Child cursor) pending) :
    exists r next, (acts.forM (act b start)).runOn s = (r, next) ∧ Frame s next ∧
      Ends s.child.eventBuffer (clearedBy s.registered s.handleGuard acts) r next := by
  induction acts generalizing s with
  | nil => exact ⟨_, s, rfl, Frame.refl s, Ends.returned false rfl⟩
  | cons first rest ih =>
      have hcons : ((first :: rest).forM (act b start)).runOn s =
          (act b start first >>= fun _ => rest.forM (act b start)).runOn s := rfl
      rw [hcons, Handler.runOn_bind]
      cases first with
      | throws fault => exact ⟨_, s, rfl, Frame.refl s, Ends.thrown fault s⟩
      | asyncStart =>
          rcases hstart s with ⟨r, hread⟩
          have hframe : Frame s (s.startRead r) := ⟨rfl, rfl, Or.inl rfl⟩
          rcases ih (s.startRead r) with ⟨result, next, hrun, hrest, hends⟩
          refine ⟨result, next, ?_, hframe.trans hrest, hends⟩
          simp only [act, Handler.runOn_modify, hread]
          exact hrun
      | shutdown =>
          have hframe : Frame s (s.setChild (b.shutdown s.child)) := by
            rw [hshutdown]
            exact ⟨rfl, rfl, Or.inr rfl⟩
          rcases ih (s.setChild (b.shutdown s.child)) with ⟨result, next, hrun, hrest, hends⟩
          refine ⟨result, next, hrun, hframe.trans hrest, ?_⟩
          rw [hshutdown] at hends
          exact hends.afterClear
      | unsubscribe =>
          cases hregistered : s.registered with
          | false =>
              simp only [act]
              rw [unsubscribeByKey_of_not_registered hregistered]
              exact ⟨_, s, rfl, Frame.refl s, Ends.thrown _ s⟩
          | true =>
              simp only [act]
              rw [unsubscribeByKey_of_registered hregistered]
              cases hguard : s.handleGuard with
              | true =>
                  rcases ih s with ⟨result, next, hrun, hrest, hends⟩
                  rw [hregistered, hguard] at hends
                  refine ⟨result, next, ?_, hrest, hends⟩
                  simpa [Base.fail, hguard] using hrun
              | false =>
                  rcases frame_unsubscribe hshutdown (Error.subscription .unsubscribed) s with
                    ⟨hframe, hnew, hlocked⟩
                  rcases ih (b.unsubscribe (Error.subscription .unsubscribed) s) with
                    ⟨result, next, hrun, hrest, hends⟩
                  rw [hframe.registered_eq, hregistered, hlocked, hnew] at hends
                  refine ⟨result, next, ?_, hframe.trans hrest, hends.afterClear⟩
                  simpa [Base.fail, hguard] using hrun

/-!
# The invariant

Either nothing has gone wrong, or a callback has cleared the buffer and the `pop_front`
after it has found nothing.
-/

structure Intact (c : Child cursor) : Prop where
  no_clears : forall call, call ∈ c.cursor.drainCalls -> call.clears = false
  pops_full : forall found, found ∈ c.cursor.pops -> found = true
  represents : exists xs, c.eventBuffer.Represents xs

/-- A callback has cleared the buffer, and the `pop_front` after it has found nothing. -/
structure Broken (c : Child cursor) : Prop where
  clears : exists call, call ∈ c.cursor.drainCalls ∧ call.clears = true
  pop_empty : false ∈ c.cursor.pops

def Sound (s : State (Child cursor) pending) : Prop :=
  Intact s.child ∨ Broken s.child

theorem Frame.sound (h : Frame s next) (hsound : Sound s) : Sound next := by
  have hcursor := h.cursor_eq
  rcases hsound with ⟨hclears, hpops, xs, hxs⟩ | ⟨hclears, hpop⟩
  · rw [← hcursor] at hclears hpops
    apply Or.inl
    refine ⟨hclears, hpops, ?_⟩
    rcases h.buffer_eq with hsame | hnew
    · rw [hsame]
      exact ⟨xs, hxs⟩
    · rw [hnew]
      exact ⟨[], BufferQueue.represents_new⟩
  · rw [← hcursor] at hclears hpop
    exact Or.inr ⟨hclears, hpop⟩

theorem keeps_eventAppeared (hshutdown : b.shutdown = Buffered.shutdown)
    (hstart : OnlyReads start) (e : Resolved) :
    Handler.Keeps Sound (eventAppeared b user start e) := by
  intro s hs
  rcases acts_run hshutdown hstart
    (user.onEvent (s.called (Callback.eventAppeared e none)).calls)
    (s.called (Callback.eventAppeared e none)) with ⟨r, next, hrun, hframe, _⟩
  have hsound : Sound (s.called (Callback.eventAppeared e none)) := hs
  simp only [eventAppeared, Handler.runOn_bind, Handler.runOn_modify, Handler.runOn_get, hrun]
  exact hframe.sound hsound

theorem Broken.popFront (h : Broken s.child) : Broken (popFront s).child := by
  rcases h with ⟨hclears, hpop⟩
  exact ⟨hclears, List.mem_append_left _ hpop⟩

theorem Intact.popFront (h : Intact s.child) (hfull : s.child.eventBuffer.empty = false) :
    Intact (popFront s).child := by
  rcases h with ⟨hclears, hpops, xs, hxs⟩
  refine ⟨hclears, ?_, ?_⟩
  · intro found hfound
    rcases List.mem_append.mp hfound with hfound | hfound
    · exact hpops found hfound
    · rw [List.mem_singleton.mp hfound, hfull]
      rfl
  · cases xs with
    | nil =>
        rw [hxs.empty_iff.mpr rfl] at hfull
        cases hfull
    | cons x rest => exact ⟨rest, hxs.popFront⟩

def recordedCall (user : ActingUser) (s : State (Child cursor) pending) : DrainCall :=
  { registered := s.registered
    handleGuard := s.handleGuard
    acts := user.onEvent s.calls }

theorem Intact.recordCall (h : Intact s.child) (hcall : (recordedCall user s).clears = false) :
    Intact (recordCall user s).child := by
  refine ⟨?_, h.pops_full, h.represents⟩
  intro call hmem
  rcases List.mem_append.mp hmem with hmem | hmem
  · exact h.no_clears call hmem
  · rw [List.mem_singleton.mp hmem]
    exact hcall

theorem sound_drained (hshutdown : b.shutdown = Buffered.shutdown)
    (hstart : OnlyReads start) (e : Resolved) (hs : Sound s)
    (hfull : s.child.eventBuffer.empty = false) :
    Sound ((do
      eventDrained b user start e
      modify popFront : Handles (Child cursor) pending Unit).runOn s).2 := by
  obtain ⟨called, hcalled⟩ : exists called,
      called = s.called (Callback.eventAppeared e none) := ⟨_, rfl⟩
  have hchild : called.child = s.child := by
    rw [hcalled]
    rfl
  rcases acts_run hshutdown hstart (user.onEvent called.calls) (recordCall user called) with
    ⟨r, next, hrun, hframe, hends⟩
  have hcursor : next.child.cursor = (recordCall user called).child.cursor := hframe.cursor_eq
  simp only [eventDrained, Handler.runOn_bind, Handler.runOn_modify, Handler.runOn_get,
    ← hcalled]
  have hcalls : (recordCall user called).calls = called.calls := rfl
  rw [hcalls, hrun]
  rcases hs with hintact | hbroken
  · rw [← hchild] at hintact hfull
    have houtcome : clearedBy (recordCall user called).registered
        (recordCall user called).handleGuard (user.onEvent called.calls) =
          clearedBy called.registered called.handleGuard (user.onEvent called.calls) := rfl
    rw [houtcome] at hends
    generalize hcleared : clearedBy called.registered called.handleGuard
      (user.onEvent called.calls) = outcome at hends
    cases hends with
    | thrown fault =>
        have hcall : (recordedCall user called).clears = false := by
          simp [DrainCall.clears, recordedCall, hcleared]
        exact hframe.sound (Or.inl (hintact.recordCall hcall))
    | returned cleared hbuffer =>
        cases cleared with
        | true =>
            have hcall : (recordedCall user called).clears = true := by
              simp [DrainCall.clears, recordedCall, hcleared]
            apply Or.inr
            constructor
            · refine ⟨recordedCall user called, ?_, hcall⟩
              show _ ∈ next.child.cursor.drainCalls
              rw [hcursor]
              exact List.mem_append_right _ (List.mem_singleton_self _)
            · apply List.mem_append_right
              rw [hbuffer]
              exact List.mem_singleton_self _
        | false =>
            have hcall : (recordedCall user called).clears = false := by
              simp [DrainCall.clears, recordedCall, hcleared]
            rcases hframe.sound (Or.inl (hintact.recordCall hcall)) with hnext | hnext
            · apply Or.inl
              apply hnext.popFront
              rw [hbuffer]
              exact hfull
            · exact Or.inr hnext.popFront
  · have hnext : Broken next.child := by
      rcases hbroken with ⟨⟨call, hmem, hclears⟩, hpop⟩
      constructor
      · refine ⟨call, ?_, hclears⟩
        rw [hcursor]
        apply List.mem_append_left
        rw [hchild]
        exact hmem
      · rw [hcursor]
        show false ∈ called.child.cursor.pops
        rw [hchild]
        exact hpop
    cases r with
    | error fault => exact Or.inr hnext
    | ok _ => exact Or.inr hnext.popFront

theorem sound_setCursor (f : cursor -> cursor) (hs : Sound s) : Sound (setCursor f s) := by
  rcases hs with ⟨hclears, hpops, hxs⟩ | ⟨hclears, hpop⟩
  · exact Or.inl ⟨hclears, hpops, hxs⟩
  · exact Or.inr ⟨hclears, hpop⟩

theorem sound_emplaceBack (e : Resolved) (hs : Sound s) :
    Sound (Buffered.emplaceBack e s) := by
  rcases hs with ⟨hclears, hpops, xs, hxs⟩ | ⟨hclears, hpop⟩
  · exact Or.inl ⟨hclears, hpops, xs ++ [e], hxs.emplaceBack (by decide) e⟩
  · exact Or.inr ⟨hclears, hpop⟩

theorem sound_unsubscribe (hshutdown : b.shutdown = Buffered.shutdown) (ec : Error)
    (hs : Sound s) : Sound (b.unsubscribe ec s) :=
  (frame_unsubscribe hshutdown ec s).left.sound hs

theorem keepingBase_sound (hshutdown : b.shutdown = Buffered.shutdown) :
    KeepingBase b (Sound : State (Child cursor) pending -> Prop) where
  called := fun _ hs => hs
  unsubscribe := fun ec hs => sound_unsubscribe hshutdown ec hs
  erase := fun hs => hs
  answered := fun hs => hs
  setDeadline := fun _ hs => hs
  fault := fun _ _ hs => hs

end Callbacks

/-!
# Reading the buffer

The body of the loop is only entered with an element in the buffer.
-/

section Buffer

variable {deliver : Resolved -> Handles (Child cursor) (Read position) Unit}

theorem keeps_readBuffer
    (hdeliver : forall e {s}, Sound s -> s.child.eventBuffer.empty = false ->
      Sound ((deliver e).runOn s).2) (n : Nat) :
    Handler.Keeps Sound (Buffered.readBuffer deliver n) := by
  induction n with
  | zero => exact Handler.keeps_pure _
  | succ n ih =>
      intro s hs
      cases hempty : s.child.eventBuffer.empty with
      | true => simpa [Buffered.readBuffer, hempty] using hs
      | false =>
          simp only [Buffered.readBuffer, Buffered.front, Handler.runOn_bind, Handler.runOn_get,
            hempty, Bool.false_eq_true, if_false]
          cases hfront : s.child.eventBuffer.front with
          | none => exact hs
          | some e =>
              have hdelivered := hdeliver e hs hempty
              simp only [Handler.runOn_pure]
              rcases hrun : (deliver e).runOn s with ⟨r, next⟩
              rw [hrun] at hdelivered
              cases r with
              | error fault => exact hdelivered
              | ok _ => exact ih next hdelivered

theorem keeps_readSubscriptionEvents
    (hdeliver : forall e {s}, Sound s -> s.child.eventBuffer.empty = false ->
      Sound ((deliver e).runOn s).2) (settings : CatchupSubscriptionSettings) :
    Handler.Keeps Sound (Buffered.readSubscriptionEvents deliver settings) := by
  refine Handler.keeps_bind (keeps_readBuffer hdeliver _) fun _ =>
    Handler.keeps_bind Handler.keeps_get fun s => ?_
  split
  · exact Handler.keeps_pure _
  · exact Handler.keeps_modify fun _ hs => hs

/-- A read that fails ends the subscription, so only the slices are left to look at. -/
theorem keeps_read {b : Base (Child cursor)}
    {onRead : Read position -> Except Error batch ->
      Handles (Child cursor) (Read position) Unit}
    (hshutdown : b.shutdown = Buffered.shutdown)
    (herror : forall r e, exists ec, onRead r (Except.error e) = modify (b.unsubscribe ec))
    (hslice : forall r slice, Handler.Keeps Sound (onRead r (Except.ok slice)))
    (r : Read position) (result : Except Error batch) :
    Handler.Keeps Sound (onRead r result) := by
  cases result with
  | ok slice => exact hslice r slice
  | error e =>
      rcases herror r e with ⟨ec, hec⟩
      rw [hec]
      exact Handler.keeps_modify fun _ hs => sound_unsubscribe hshutdown ec hs

end Buffer

/-!
# The kinds

Both classes keep the invariant with each of their handlers.
-/

namespace Catchup

variable {b : Base (Child Int)} {user : ActingUser} (settings : CatchupSubscriptionSettings)

theorem onlyReads_asyncStart : OnlyReads (asyncStart settings) :=
  fun _ => ⟨_, rfl⟩

theorem sound_advance {s : CatchupState} (hs : Sound s) : Sound (advance s) :=
  sound_setCursor _ hs

theorem keeps_appear (hshutdown : b.shutdown = Buffered.shutdown) (events : List Resolved) :
    Handler.Keeps Sound (appear b user settings events) := by
  apply Handler.keeps_forM
  intro e
  exact Handler.keeps_bind (keeps_eventAppeared hshutdown (onlyReads_asyncStart settings) e)
    fun _ => Handler.keeps_modify fun _ hs => sound_advance hs

theorem sound_deliver (hshutdown : b.shutdown = Buffered.shutdown) (e : Resolved)
    {s : CatchupState} (hs : Sound s) (hfull : s.child.eventBuffer.empty = false) :
    Sound ((deliver b user settings e).runOn s).2 := by
  have hdrained : Sound ((do
      eventDrained b user (asyncStart settings) e
      modify popFront : Handles (Child Int) (Read Int) Unit).runOn s).2 :=
    sound_drained hshutdown (onlyReads_asyncStart settings) e hs hfull
  have hsplit : deliver b user settings e =
      (do
        eventDrained b user (asyncStart settings) e
        modify popFront) >>= fun _ => modify advance := by
    simp [deliver]
  rw [hsplit, Handler.runOn_bind]
  rcases hrun : (do
    eventDrained b user (asyncStart settings) e
    modify popFront : Handles (Child Int) (Read Int) Unit).runOn s with ⟨r, next⟩
  rw [hrun] at hdrained
  cases r with
  | error fault => exact hdrained
  | ok _ => exact sound_advance hdrained

theorem keeps_reading (hshutdown : b.shutdown = Buffered.shutdown) :
    Handler.Keeps Sound (readSubscriptionEvents b user settings) :=
  keeps_readSubscriptionEvents
    (fun e _ hs hfull => sound_deliver settings hshutdown e hs hfull) settings

theorem onRead_error (r : Read Int) (e : Error) :
    exists ec, onRead b user settings r (Except.error e) = modify (b.unsubscribe ec) := by
  rcases r with ⟨start, maxCount, handler⟩
  cases handler with
  | history => exact ⟨_, rfl⟩
  | missed count => exact ⟨_, rfl⟩

theorem keeps_slice (hshutdown : b.shutdown = Buffered.shutdown) (r : Read Int)
    (slice : StreamEventsSlice) :
    Handler.Keeps Sound (onRead b user settings r (Except.ok slice)) := by
  rcases r with ⟨start, maxCount, handler⟩
  cases handler with
  | history =>
      refine Handler.keeps_bind (keeps_appear settings hshutdown _) fun _ => ?_
      split
      · exact Handler.keeps_modify fun _ hs => hs
      · exact Handler.keeps_modify fun _ hs => hs
  | missed count =>
      refine Handler.keeps_bind (keeps_appear settings hshutdown _) fun _ => ?_
      simp only
      split
      · exact Handler.keeps_modify fun _ hs => hs
      · exact Handler.keeps_modify fun _ hs => hs

theorem keeps_onPackageReceived (hshutdown : b.shutdown = Buffered.shutdown)
    (message : ServerMessage) :
    Handler.Keeps Sound (onPackageReceived b user settings message) := by
  cases message with
  | subscriptionConfirmation response =>
      refine Handler.keeps_bind (Handler.keeps_modify fun _ hs => hs) fun _ => ?_
      split
      · refine Handler.keeps_bind Handler.keeps_get fun s => ?_
        simp only
        split
        · exact Handler.keeps_bind (Handler.keeps_modify fun _ hs => hs) fun _ =>
            Handler.keeps_pure true
        · exact Handler.keeps_pure true
      · exact Handler.keeps_bind
          (Handler.keeps_modify fun _ hs => sound_unsubscribe hshutdown _ hs) fun _ =>
            Handler.keeps_pure true
  | streamEventAppeared message =>
      refine Handler.keeps_bind (Handler.keeps_modify fun _ hs => sound_emplaceBack _ hs)
        fun _ => Handler.keeps_bind Buffered.keeps_front fun event =>
        Handler.keeps_bind (keeps_value _) fun _ =>
        Handler.keeps_bind Handler.keeps_get fun _ =>
        Handler.keeps_bind (keeps_value _) fun lastEventNumber =>
        Handler.keeps_bind Handler.keeps_get fun s => ?_
      split
      · exact Handler.keeps_pure true
      · refine Handler.keeps_bind Handler.keeps_get fun s => ?_
        split
        · exact Handler.keeps_bind (keeps_reading settings hshutdown) fun _ =>
            Handler.keeps_pure true
        · exact Handler.keeps_pure true
  | _ => exact Handler.keeps_pure false

theorem keeps (key : Guid) (user : ActingUser) :
    (subscription key user settings).Keeps Sound where
  received := keeps_onPackageReceived settings rfl
  read := keeps_read rfl (onRead_error settings) (keeps_slice settings rfl)
  buffer := keeps_reading settings rfl

end Catchup

namespace CatchupAll

variable {b : Base (Child Cursor)} {user : ActingUser}
  (settings : CatchupSubscriptionSettings)

theorem onlyReads_asyncStart : OnlyReads (asyncStart settings) :=
  fun _ => ⟨_, rfl⟩

theorem keeps_appear (hshutdown : b.shutdown = Buffered.shutdown) (events : List Resolved) :
    Handler.Keeps Sound (appear b user settings events) :=
  Handler.keeps_forM
    (fun e => keeps_eventAppeared hshutdown (onlyReads_asyncStart settings) e) events

theorem keeps_appearMissed (hshutdown : b.shutdown = Buffered.shutdown)
    (events : List Resolved) :
    Handler.Keeps Sound (appearMissed b user settings events) := by
  induction events with
  | nil => exact Handler.keeps_pure true
  | cons e rest ih =>
      refine Handler.keeps_bind (keeps_value _) fun position =>
        Handler.keeps_bind (Handler.keeps_modify fun _ hs => sound_setCursor _ hs) fun _ =>
        Handler.keeps_bind Handler.keeps_get fun s => ?_
      split
      · exact Handler.keeps_pure false
      · exact Handler.keeps_bind
          (keeps_eventAppeared hshutdown (onlyReads_asyncStart settings) e) fun _ => ih

theorem sound_deliver (hshutdown : b.shutdown = Buffered.shutdown) (e : Resolved)
    {s : CatchupState} (hs : Sound s) (hfull : s.child.eventBuffer.empty = false) :
    Sound ((deliver b user settings e).runOn s).2 := by
  simp only [deliver]
  cases e.originalPosition with
  | none => exact hs
  | some position =>
      simp only [value, pure_bind]
      exact sound_drained (s := setCurrentPosition position s) hshutdown
        (onlyReads_asyncStart settings) e (sound_setCursor _ hs) hfull

theorem keeps_reading (hshutdown : b.shutdown = Buffered.shutdown) :
    Handler.Keeps Sound (readSubscriptionEvents b user settings) :=
  keeps_readSubscriptionEvents
    (fun e _ hs hfull => sound_deliver settings hshutdown e hs hfull) settings

theorem onRead_error (r : Read Position) (e : Error) :
    exists ec, onRead b user settings r (Except.error e) = modify (b.unsubscribe ec) := by
  rcases r with ⟨start, maxCount, handler⟩
  cases handler with
  | history => exact ⟨_, rfl⟩
  | missed count => exact ⟨_, rfl⟩

theorem keeps_slice (hshutdown : b.shutdown = Buffered.shutdown) (r : Read Position)
    (slice : AllEventsSlice) :
    Handler.Keeps Sound (onRead b user settings r (Except.ok slice)) := by
  rcases r with ⟨start, maxCount, handler⟩
  cases handler with
  | history =>
      refine Handler.keeps_bind (keeps_appear settings hshutdown _) fun _ => ?_
      split
      · exact Handler.keeps_modify fun _ hs => hs
      · exact Handler.keeps_bind (Handler.keeps_modify fun _ hs => sound_setCursor _ hs)
          fun _ => Handler.keeps_modify fun _ hs => hs
  | missed count =>
      refine Handler.keeps_bind (keeps_appearMissed settings hshutdown _) fun next => ?_
      split
      · exact Handler.keeps_modify fun _ hs => hs
      · exact keeps_reading settings hshutdown

theorem keeps_onPackageReceived (hshutdown : b.shutdown = Buffered.shutdown)
    (message : ServerMessage) :
    Handler.Keeps Sound (onPackageReceived b user settings message) := by
  cases message with
  | subscriptionConfirmation response =>
      refine Handler.keeps_bind (Handler.keeps_modify fun _ hs => hs) fun _ =>
        Handler.keeps_bind (Handler.keeps_modify fun _ hs => sound_setCursor _ hs) fun _ =>
        Handler.keeps_bind Handler.keeps_get fun s => ?_
      split
      · exact Handler.keeps_bind (Handler.keeps_modify fun _ hs => hs) fun _ =>
          Handler.keeps_pure true
      · exact Handler.keeps_pure true
  | streamEventAppeared message =>
      refine Handler.keeps_bind (Handler.keeps_modify fun _ hs => sound_emplaceBack _ hs)
        fun _ => Handler.keeps_bind Handler.keeps_get fun s => ?_
      simp only
      split
      · exact Handler.keeps_pure true
      · split
        · exact Handler.keeps_bind (keeps_reading settings hshutdown) fun _ =>
            Handler.keeps_pure true
        · exact Handler.keeps_pure true
  | _ => exact Handler.keeps_pure false

theorem keeps (key : Guid) (user : ActingUser) :
    (subscription key user settings).Keeps Sound where
  received := keeps_onPackageReceived settings rfl
  read := keeps_read rfl (onRead_error settings) (keeps_slice settings rfl)
  buffer := keeps_reading settings rfl

end CatchupAll

/-!
# Runs

A callback that starts the subscription again leaves the buffer alone; one that
unsubscribes clears it.
-/

section Runs

variable {kind : CatchupKind cursor position batch} {key : Guid} {user : ActingUser}
  {s next : State (Child cursor) (Read position)}

theorem CatchupKind.keeps (kind : CatchupKind cursor position batch) (key : Guid)
    (user : ActingUser) : (kind.subscription key user).Keeps Sound := by
  cases kind with
  | catchup fromEventNumber settings => exact Catchup.keeps settings key user
  | catchupAll fromPosition settings => exact CatchupAll.keeps settings key user

theorem CatchupKind.shutdown_eq (kind : CatchupKind cursor position batch) (key : Guid)
    (user : ActingUser) : (kind.subscription key user).shutdown = Buffered.shutdown := by
  cases kind <;> rfl

theorem step_sound (hs : Sound s) {i : Input batch}
    (hstep : step (kind.subscription key user) s i = some next) : Sound next := by
  have hbase : KeepingBase (kind.subscription key user).toBase
      (Sound : State (Child cursor) (Read position) -> Prop) :=
    keepingBase_sound (kind.shutdown_eq key user)
  have hkeeps := kind.keeps key user
  cases i with
  | readCompleted j result =>
      rw [step, Option.map_eq_some_iff] at hstep
      rcases hstep with ⟨r, _, rfl⟩
      exact hbase.settleRead result (hkeeps.read r result _ hs)
  | _ =>
      exact hbase.step hs (fun _ _ hi => by cases hi)
        (fun message _ _ => hkeeps.received message s hs) (fun _ => hs)
        (fun _ _ => hkeeps.buffer _ hs) hstep

theorem drainStep_sound (hs : Sound s) {i : DrainInput batch}
    (hstep : drainStep kind key user s i = some next) : Sound next := by
  cases i with
  | input i => exact step_sound hs hstep
  | asyncStart =>
      cases hstep
      cases kind <;> exact hs
  | shutdown =>
      cases hstep
      rw [kind.shutdown_eq key user]
      have hframe : Frame s (s.setChild (Buffered.shutdown s.child)) :=
        ⟨rfl, rfl, Or.inr rfl⟩
      exact hframe.sound hs

theorem CatchupKind.constructed_sound (kind : CatchupKind cursor position batch) :
    Sound kind.constructed := by
  apply Or.inl
  constructor
  · intro call hcall
    cases hcall
  · intro found hfound
    cases hfound
  · exact ⟨[], BufferQueue.represents_new⟩

theorem Intact.drainsSafely (h : Intact s.child) : DrainsSafely s := by
  rcases h.represents with ⟨xs, hxs⟩
  constructor
  · exact h.pops_full
  · intro hempty
    rcases hxs with ⟨hnew, _⟩ | hfilled
    · rw [hnew]
      exact ⟨rfl, rfl⟩
    · exact absurd (List.isEmpty_iff.mp hempty) hfilled.deque_ne
  · exact ⟨xs, hxs.behaves (by decide)⟩

theorem Broken.not_drainsSafely (h : Broken s.child) : ¬ DrainsSafely s := by
  intro hsafe
  cases hsafe.pops_full false h.pop_empty

/-- In every run, with `async_start` called however often, the buffer is drained safely just
if no callback of `read_subscription_events` has cleared it and returned. -/
theorem run_drainsSafely_iff {inputs : List (DrainInput batch)}
    (hrun : run (drainStep kind key user) kind.constructed inputs = some s) :
    DrainsSafely s <->
      forall call, call ∈ s.child.cursor.drainCalls -> call.clears = false := by
  have hsound : Sound s :=
    run_preserves (fun hs hstep => drainStep_sound hs hstep) kind.constructed_sound hrun
  constructor
  · intro hsafe
    rcases hsound with hintact | hbroken
    · exact hintact.no_clears
    · exact absurd hsafe hbroken.not_drainsSafely
  · intro hclears
    rcases hsound with hintact | hbroken
    · exact hintact.drainsSafely
    · rcases hbroken.clears with ⟨call, hmem, hcall⟩
      rw [hclears call hmem] at hcall
      cases hcall

end Runs

def fromStart : CatchupKind Int Int StreamEventsSlice :=
  CatchupKind.catchup 0 CatchupSubscriptionSettings.built

def pushed (eventNumber : Int) : DrainInput StreamEventsSlice :=
  DrainInput.input (Input.received (.streamEventAppeared
    { event := some
        { event := some (recordedEvent eventNumber)
          link := none
          commitPosition := some 0
          preparePosition := some 0 } }))

def firstEvent (eventNumber : Int) : List (DrainInput StreamEventsSlice) :=
  [DrainInput.asyncStart,
    DrainInput.input (Input.readCompleted 0 (Except.ok (streamSlice true []))),
    DrainInput.input (Input.received (confirmation (eventNumber - 1))), pushed eventNumber]

def always (acts : List Act) : ActingUser :=
  { onEvent := fun _ => acts
    onDropped := fun _ => false }

theorem firstEvent_drainsSafely :
    exists last, run (drainStep fromStart (Guid.ofByte 1) (always [Act.asyncStart]))
        fromStart.constructed (firstEvent 1) = some last ∧ DrainsSafely last := by
  have hcalls : (run (drainStep fromStart (Guid.ofByte 1) (always [Act.asyncStart]))
      fromStart.constructed (firstEvent 1)).map (fun s => s.child.cursor.drainCalls) =
        some [{ registered := true, handleGuard := false, acts := [Act.asyncStart] }] := by
    decide +kernel
  rw [Option.map_eq_some_iff] at hcalls
  rcases hcalls with ⟨last, hlast, hcalls⟩
  refine ⟨last, hlast, (run_drainsSafely_iff hlast).mpr ?_⟩
  rw [hcalls]
  decide

/-- The callback unsubscribes, the request is answered, and the subscription is started
again. -/
def startedAgain : List (DrainInput StreamEventsSlice) :=
  firstEvent 1 ++ DrainInput.input (Input.received accessDenied) :: firstEvent 2

/-- The `pop_front` after the callback finds nothing and moves the index, so that the first
event of the second subscription is looked for in the wrong slot. -/
theorem startedAgain_losesEvent :
    exists last, run (drainStep fromStart (Guid.ofByte 1) (always [Act.unsubscribe]))
        fromStart.constructed startedAgain = some last ∧
      ¬ DrainsSafely last ∧ last.faults = [Fault.noObject] := by
  have hend : (run (drainStep fromStart (Guid.ofByte 1) (always [Act.unsubscribe]))
      fromStart.constructed startedAgain).map
        (fun s => (s.child.cursor.pops, s.faults)) = some ([false], [Fault.noObject]) := by
    decide +kernel
  rw [Option.map_eq_some_iff] at hend
  rcases hend with ⟨last, hlast, hend⟩
  rw [Prod.mk.injEq] at hend
  refine ⟨last, hlast, ?_, hend.right⟩
  intro hsafe
  have hfound := hsafe.pops_full false (by rw [hend.left]; exact List.mem_singleton_self _)
  cases hfound

end Draining
end Subscription
end EventStoreClient
