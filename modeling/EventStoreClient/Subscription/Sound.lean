import EventStoreClient.Subscription.Kinds
import EventStoreClient.Subscription.Routes

/-!
# What the kinds of subscriptions do

Each kind keeps to one way to `dropped` in its packages, its reads and its buffer, if the
handler of a missed-events read is not called when it would pass an event on after
`dropped`, or unsubscribe a second time.
-/

namespace EventStoreClient
namespace Subscription

open Buffer Connection Foundation Operations Wire

variable {child pending batch : Type}

def Settled (p : Profile child pending batch) (s : State child pending) : Prop :=
  Undropped p s ∧ NoHistory p s

structure ReadingHistory (p : Profile child pending batch) (s : State child pending) :
    Prop where
  undropped : Undropped p s
  reads_eq : s.reads = []
  unlocked : s.handleGuard = false
  unregistered : s.registered = false

theorem ReadingHistory.noHistory {p : Profile child pending batch}
    {s : State child pending} (h : ReadingHistory p s) : NoHistory p s := by
  intro r hr
  rw [h.reads_eq] at hr
  cases hr

/-- What a class does so that its runs keep to one way to `dropped`. -/
structure Sound (c : Class child pending batch) (p : Profile child pending batch) :
    Prop where
  shutdown_idle : forall members, p.Idle (c.shutdown members)
  received : forall {s} message, Settled p s -> s.handleGuard = false ->
    Routed p ((c.onPackageReceived message).runOn s).2
  received_false : forall {s message},
    ((c.onPackageReceived message).runOn s).1 = Except.ok false ->
      ((c.onPackageReceived message).runOn s).2 = s
  history : forall {s r} result, p.IsHistory r = true -> ReadingHistory p s ->
    Routed p ((c.onRead r result).runOn s).2
  missed : forall {s r} result, p.IsHistory r = false -> Settled p s ->
    (s.handleGuard = false ∨ exists slice, result = Except.ok slice) ->
      Routed p ((c.onRead r result).runOn s).2
  missed_idle : forall {s r slice}, p.IsHistory r = false -> Routed p s -> NoHistory p s ->
    p.Idle s.child -> p.missedEvents s.child slice = [] ->
      Routed p ((c.onRead r (Except.ok slice)).runOn s).2
  buffer : Handler.Keeps (Undropped p) c.readSubscriptionEvents
  buffer_idle : forall {s}, p.Idle s.child ->
    c.readSubscriptionEvents.runOn s = (Except.ok (), s)

/-!
# Changes that open no way

Reads may be started and closures posted without a way to `dropped`: a read of missed
events at any time after the history, the next read of the history when it is the only
one.
-/

section Changes

variable {p : Profile child pending batch} {s next : State child pending}

theorem Undropped.frame (h : Undropped p s) (hcalls : next.calls = s.calls)
    (hposted : pendingDrops next = pendingDrops s)
    (hguard : next.handleGuard = s.handleGuard)
    (hidle : next.handleGuard = true -> p.Idle next.child)
    (hunsubscribing : next.unsubscribing = true -> s.unsubscribing = true)
    (hawaiting : Awaiting next -> Awaiting s)
    (hreads : NoHistory p next ∨
      (next.reads = s.reads ∧ next.registered = s.registered)) : Undropped p next :=
  ⟨h.routed.frame hcalls hposted hguard hidle hunsubscribing hawaiting hreads,
    by rw [drops, hcalls]; exact h.drops_eq⟩

theorem Undropped.send (h : Undropped p s) (request : Request) :
    Undropped p (s.send request) :=
  h.frame rfl rfl rfl h.routed.locked_idle id id (Or.inr ⟨rfl, rfl⟩)

theorem Undropped.confirm (h : Undropped p s) (lastCommitPosition lastEventNumber : Option Int) :
    Undropped p (confirm lastCommitPosition lastEventNumber s) :=
  h.frame rfl rfl rfl h.routed.locked_idle id id (Or.inr ⟨rfl, rfl⟩)

theorem Undropped.setChild (h : Undropped p s) {members : child}
    (hidle : s.handleGuard = true -> p.Idle members) : Undropped p (s.setChild members) :=
  h.frame rfl rfl rfl hidle id id (Or.inr ⟨rfl, rfl⟩)

theorem pendingDrops_post :
    pendingDrops (s.post Posted.readSubscriptionEvents) = pendingDrops s := by
  simp [pendingDrops, State.post, Posted.isDropped]

theorem Routed.postRead (h : Routed p s) :
    Routed p (s.post Posted.readSubscriptionEvents) :=
  h.frame rfl pendingDrops_post rfl h.locked_idle id id (Or.inr ⟨rfl, rfl⟩)

theorem Undropped.postRead (h : Undropped p s) :
    Undropped p (s.post Posted.readSubscriptionEvents) :=
  ⟨h.routed.postRead, h.drops_eq⟩

theorem NoHistory.startRead (h : NoHistory p s) {r : pending}
    (hmissed : p.IsHistory r = false) : NoHistory p (s.startRead r) := by
  intro r' hr'
  rcases List.mem_append.mp hr' with hold | hnew
  · exact h r' hold
  · rw [List.mem_singleton.mp hnew]
    exact hmissed

theorem Routed.startMissed (h : Routed p s) (hhistory : NoHistory p s) {r : pending}
    (hmissed : p.IsHistory r = false) : Routed p (s.startRead r) :=
  h.frame rfl rfl rfl h.locked_idle id id (Or.inl (hhistory.startRead hmissed))

theorem Routed.startHistory (h : Routed p s) (hguard : s.handleGuard = false)
    (hregistered : s.registered = false) (hreads : s.reads = []) (r : pending) :
    Routed p (s.startRead r) := by
  refine ⟨h.one_way, h.awaiting, h.unlocked, h.no_event_after, h.locked_idle, ?_⟩
  intro r' hr' _
  have honly : (s.startRead r).reads = [r] := by
    show s.reads ++ [r] = [r]
    rw [hreads, List.nil_append]
  rw [honly] at hr' ⊢
  exact ⟨hguard, hregistered, by rw [List.mem_singleton.mp hr']⟩

theorem Routed.baseStart (h : Routed p s) (hguard : s.handleGuard = false)
    (hhistory : NoHistory p s) : Routed p (Base.asyncStart s) :=
  h.frame rfl rfl hguard.symm (fun hlocked => by cases hlocked) id id (Or.inl hhistory)

theorem Settled.startMissed (h : Settled p s) {r : pending}
    (hmissed : p.IsHistory r = false) : Settled p (s.startRead r) :=
  ⟨⟨h.left.routed.startMissed h.right hmissed, h.left.drops_eq⟩,
    h.right.startRead hmissed⟩

/-!
# Callbacks between the changes

What the base class does with the packages left to it.
-/

variable {b : Base child}

theorem keeps_settled_eventAppeared (hidle : forall members, p.Idle (b.shutdown members))
    (e : Resolved) (retryCount : Option Int) :
    Handler.Keeps (Settled p) (b.eventAppeared e retryCount) :=
  Handler.keeps_and (keeps_eventAppeared hidle e retryCount)
    (keeps_eventAppeared_reads (fun reads => forall r, r ∈ reads -> p.IsHistory r = false)
      e retryCount)

theorem keeps_readingHistory_eventAppeared
    (hidle : forall members, p.Idle (b.shutdown members)) (e : Resolved)
    (retryCount : Option Int) :
    Handler.Keeps (ReadingHistory p) (b.eventAppeared e retryCount) := by
  intro s hs
  have hopen := keeps_eventAppeared_unregistered (b := b) e retryCount s
    ⟨hs.unlocked, hs.unregistered⟩
  exact ⟨keeps_eventAppeared hidle e retryCount s hs.undropped,
    keeps_eventAppeared_reads (fun reads => reads = []) e retryCount s hs.reads_eq,
    hopen.left, hopen.right⟩

theorem Routed.onPackageReceived (hidle : forall members, p.Idle (b.shutdown members))
    (h : Routed p s) (hguard : s.handleGuard = false) (hhistory : NoHistory p s)
    (message : ServerMessage) : Routed p (b.onPackageReceived message s) := by
  have hunsubscribe : forall ec, Routed p (b.unsubscribe ec s) :=
    fun ec => (h.unsubscribe hguard hhistory (hidle _) ec).routed
  cases message with
  | subscriptionDropped response =>
      rw [Base.onPackageReceived]
      split
      · exact hunsubscribe _
      · exact hunsubscribe _
      · exact hunsubscribe _
      · exact h
      · exact h
  | notHandled response =>
      rw [Base.onPackageReceived]
      split
      · exact hunsubscribe _
      · exact hunsubscribe _
  | notAuthenticated => exact hunsubscribe (Error.subscription .notAuthenticated)
  | badRequest => exact hunsubscribe (Error.communication .badRequest)
  | subscriptionConfirmation response =>
      exact hunsubscribe (Error.communication .serverError)
  | persistentSubscriptionConfirmation response =>
      exact hunsubscribe (Error.communication .serverError)
  | streamEventAppeared message =>
      exact hunsubscribe (Error.communication .serverError)
  | persistentSubscriptionStreamEventAppeared message =>
      exact hunsubscribe (Error.communication .serverError)
  | other => exact hunsubscribe (Error.communication .serverError)

end Changes

/-!
# Subscriptions without a buffer

Nothing is ever read or buffered, and a class leaves a package to its base only without
having done anything.
-/

def unbuffered (child : Type) : Profile child Empty Empty :=
  { IsHistory := fun r => nomatch r
    Idle := fun _ => True
    missedEvents := fun _ slice => nomatch slice }

theorem unchanged_of_returns {h : Handles child pending Bool} {s : State child pending}
    (hresult : (h.runOn s).1 = Except.ok false)
    (hreturns : Handler.Returns (fun handled => handled = true) h) : (h.runOn s).2 = s :=
  absurd (hreturns s false hresult) Bool.false_ne_true

namespace Volatile

theorem keeps_onPackageReceived (b : Base Unit) (message : ServerMessage) :
    Handler.Keeps (Undropped (unbuffered Unit)) (onPackageReceived b message) := by
  cases message with
  | subscriptionConfirmation response =>
      exact Handler.keeps_bind (Handler.keeps_modify fun s h => h.confirm _ _) fun _ =>
        Handler.keeps_pure true
  | streamEventAppeared message =>
      exact Handler.keeps_bind (keeps_eventAppeared (fun _ => trivial) _ _) fun _ =>
        Handler.keeps_pure true
  | persistentSubscriptionConfirmation response => exact Handler.keeps_pure false
  | persistentSubscriptionStreamEventAppeared message => exact Handler.keeps_pure false
  | subscriptionDropped message => exact Handler.keeps_pure false
  | notAuthenticated => exact Handler.keeps_pure false
  | badRequest => exact Handler.keeps_pure false
  | notHandled response => exact Handler.keeps_pure false
  | other => exact Handler.keeps_pure false

theorem sound (key : Guid) (user : User) :
    Sound (subscription key user) (unbuffered Unit) where
  shutdown_idle := fun _ => trivial
  received := fun {s} message h _ =>
    (keeps_onPackageReceived (base key user) message s h.left).routed
  received_false := by
    intro s message hresult
    cases message with
    | subscriptionConfirmation response => cases hresult
    | streamEventAppeared message =>
        exact unchanged_of_returns hresult
          (Handler.returns_bind fun _ => Handler.returns_pure rfl)
    | persistentSubscriptionConfirmation response => rfl
    | persistentSubscriptionStreamEventAppeared message => rfl
    | subscriptionDropped message => rfl
    | notAuthenticated => rfl
    | badRequest => rfl
    | notHandled response => rfl
    | other => rfl
  history := fun {_ r} => nomatch r
  missed := fun {_ r} => nomatch r
  missed_idle := fun {_ r} => nomatch r
  buffer := Handler.keeps_pure _
  buffer_idle := fun _ => rfl

end Volatile

namespace Persistent

theorem keeps_acknowledge (e : Resolved) :
    Handler.Keeps (Undropped (unbuffered Child)) (acknowledge e) := by
  refine Handler.keeps_bind ?_ fun record => Handler.keeps_modify fun s h => h.send _
  cases e.originalEvent with
  | none => exact Handler.keeps_throw _
  | some record => exact Handler.keeps_pure record

theorem keeps_onPackageReceived (b : Base Child) (autoAck : Bool)
    (message : ServerMessage) :
    Handler.Keeps (Undropped (unbuffered Child)) (onPackageReceived b autoAck message) := by
  cases message with
  | persistentSubscriptionConfirmation response =>
      exact Handler.keeps_bind (Handler.keeps_modify fun s h => h.confirm _ _) fun _ =>
        Handler.keeps_bind (Handler.keeps_modify fun s h => h.setChild fun _ => trivial)
          fun _ => Handler.keeps_pure true
  | persistentSubscriptionStreamEventAppeared message =>
      refine Handler.keeps_bind (keeps_eventAppeared (fun _ => trivial) _ _) fun _ => ?_
      cases autoAck with
      | true =>
          exact Handler.keeps_bind (keeps_acknowledge _) fun _ => Handler.keeps_pure true
      | false => exact Handler.keeps_pure true
  | subscriptionDropped message =>
      exact Handler.keeps_bind
        (fun s h => Undropped.unsubscribeByKey (fun _ => trivial) h _) fun _ =>
          Handler.keeps_pure true
  | subscriptionConfirmation response => exact Handler.keeps_pure false
  | streamEventAppeared message => exact Handler.keeps_pure false
  | notAuthenticated => exact Handler.keeps_pure false
  | badRequest => exact Handler.keeps_pure false
  | notHandled response => exact Handler.keeps_pure false
  | other => exact Handler.keeps_pure false

theorem sound (key : Guid) (user : User) (autoAck : Bool) :
    Sound (subscription key user autoAck) (unbuffered Child) where
  shutdown_idle := fun _ => trivial
  received := fun {s} message h _ =>
    (keeps_onPackageReceived (base key user) autoAck message s h.left).routed
  received_false := by
    intro s message hresult
    cases message with
    | persistentSubscriptionConfirmation response => cases hresult
    | persistentSubscriptionStreamEventAppeared message =>
        refine unchanged_of_returns hresult (Handler.returns_bind fun _ => ?_)
        cases autoAck with
        | true => exact Handler.returns_bind fun _ => Handler.returns_pure rfl
        | false => exact Handler.returns_pure rfl
    | subscriptionDropped message =>
        exact unchanged_of_returns hresult
          (Handler.returns_bind fun _ => Handler.returns_pure rfl)
    | subscriptionConfirmation response => rfl
    | streamEventAppeared message => rfl
    | notAuthenticated => rfl
    | badRequest => rfl
    | notHandled response => rfl
    | other => rfl
  history := fun {_ r} => nomatch r
  missed := fun {_ r} => nomatch r
  missed_idle := fun {_ r} => nomatch r
  buffer := Handler.keeps_pure _
  buffer_idle := fun _ => rfl

end Persistent

/-!
# Subscriptions with a buffer

Events are put into the buffer only while the guard is not locked, and a subscription that
is shut down has an empty buffer.
-/

theorem guards_value {inv : State child pending -> Prop} {faults : Fault -> Prop}
    (hfault : faults Fault.badOptionalAccess) (field : Option alpha) :
    Handler.Guards inv faults (value field : Handles child pending alpha) := by
  cases field with
  | none => exact Handler.guards_throw hfault
  | some a => exact Handler.guards_pure a

theorem keeps_value {inv : State child pending -> Prop} (field : Option alpha) :
    Handler.Keeps inv (value field : Handles child pending alpha) := by
  have hguards : Handler.Guards inv (fun _ => True)
      (value field : Handles child pending alpha) := guards_value trivial field
  exact hguards.keeps

namespace Buffered

variable {cursor position : Type}

def IsHistory (r : Read position) : Bool := decide (r.handler = ReadHandler.history)

def profile (missedEvents : Buffered cursor -> batch -> List Resolved) :
    Profile (Buffered cursor) (Read position) batch :=
  { IsHistory := IsHistory
    Idle := fun members => members.eventBuffer.empty = true
    missedEvents := missedEvents }

variable {missedEvents : Buffered cursor -> batch -> List Resolved}
  {s : State (Buffered cursor) (Read position)}

theorem shutdown_idle (members : Buffered cursor) :
    (profile missedEvents : Profile _ (Read position) _).Idle (shutdown members) := rfl

theorem undropped_setCursor (h : Undropped (profile missedEvents) s)
    (f : cursor -> cursor) : Undropped (profile missedEvents) (setCursor f s) :=
  h.setChild h.routed.locked_idle

theorem settled_setCursor (h : Settled (profile missedEvents) s)
    (f : cursor -> cursor) : Settled (profile missedEvents) (setCursor f s) :=
  ⟨undropped_setCursor h.left f, h.right⟩

theorem readingHistory_setCursor (h : ReadingHistory (profile missedEvents) s)
    (f : cursor -> cursor) : ReadingHistory (profile missedEvents) (setCursor f s) :=
  ⟨undropped_setCursor h.undropped f, h.reads_eq, h.unlocked, h.unregistered⟩

theorem undropped_popFront (h : Undropped (profile missedEvents) s) :
    Undropped (profile missedEvents) (popFront s) :=
  h.setChild fun hlocked => BufferQueue.popFront_empty (h.routed.locked_idle hlocked)

theorem undropped_emplaceBack (h : Undropped (profile missedEvents) s)
    (hguard : s.handleGuard = false) (e : Resolved) :
    Undropped (profile missedEvents) (emplaceBack e s) := by
  refine h.setChild fun hlocked => ?_
  rw [hguard] at hlocked
  cases hlocked

theorem guards_front {inv : State (Buffered cursor) (Read position) -> Prop}
    {faults : Fault -> Prop} (hfault : faults Fault.noObject) :
    Handler.Guards inv faults
      (front : Handles (Buffered cursor) (Read position) Resolved) := by
  refine Handler.guards_bind Handler.guards_get fun s => ?_
  cases s.child.eventBuffer.front with
  | none => exact Handler.guards_throw hfault
  | some e => exact Handler.guards_pure e

theorem keeps_front {inv : State (Buffered cursor) (Read position) -> Prop} :
    Handler.Keeps inv (front : Handles (Buffered cursor) (Read position) Resolved) := by
  have hguards : Handler.Guards inv (fun _ => True)
      (front : Handles (Buffered cursor) (Read position) Resolved) := guards_front trivial
  exact hguards.keeps

variable {deliver : Resolved -> Handles (Buffered cursor) (Read position) Unit}

section Keeps

variable {inv : State (Buffered cursor) (Read position) -> Prop} {faults : Fault -> Prop}

theorem guards_readBuffer (hfault : faults Fault.noObject)
    (hdeliver : forall e, Handler.Guards inv faults (deliver e)) (n : Nat) :
    Handler.Guards inv faults (readBuffer deliver n) := by
  induction n with
  | zero => exact Handler.guards_pure _
  | succ n ih =>
      refine Handler.guards_bind Handler.guards_get fun s => ?_
      split
      · exact Handler.guards_pure _
      · exact Handler.guards_bind (guards_front hfault) fun e =>
          Handler.guards_bind (hdeliver e) fun _ => ih

theorem guards_readSubscriptionEvents (hfault : faults Fault.noObject)
    (hdeliver : forall e, Handler.Guards inv faults (deliver e))
    (hpost : forall s, inv s -> inv (s.post Posted.readSubscriptionEvents))
    (settings : CatchupSubscriptionSettings) :
    Handler.Guards inv faults (readSubscriptionEvents deliver settings) := by
  refine Handler.guards_bind (guards_readBuffer hfault hdeliver _) fun _ =>
    Handler.guards_bind Handler.guards_get fun s => ?_
  split
  · exact Handler.guards_pure _
  · exact Handler.guards_modify hpost

theorem keeps_readSubscriptionEvents (hdeliver : forall e, Handler.Keeps inv (deliver e))
    (hpost : forall s, inv s -> inv (s.post Posted.readSubscriptionEvents))
    (settings : CatchupSubscriptionSettings) :
    Handler.Keeps inv (readSubscriptionEvents deliver settings) := by
  have hguards : Handler.Guards inv (fun _ => True) (readSubscriptionEvents deliver settings) :=
    guards_readSubscriptionEvents trivial (fun e => (hdeliver e).guards) hpost settings
  exact hguards.keeps

end Keeps

theorem readBuffer_idle (hempty : s.child.eventBuffer.empty = true) (n : Nat) :
    (readBuffer deliver n).runOn s = (Except.ok (), s) := by
  cases n with
  | zero => rfl
  | succ n => simp [readBuffer, hempty]

/-- There is nothing to read in the buffer of a subscription that is shut down. -/
theorem readSubscriptionEvents_idle (hempty : s.child.eventBuffer.empty = true)
    (settings : CatchupSubscriptionSettings) :
    (readSubscriptionEvents deliver settings).runOn s = (Except.ok (), s) := by
  simp [readSubscriptionEvents, readBuffer_idle hempty, hempty]

theorem routed_doAsyncStart (h : ReadingHistory (profile missedEvents) s) :
    Routed (profile missedEvents) (doAsyncStart s) := by
  have hstart : Undropped (profile missedEvents) (Base.asyncStart s) :=
    ⟨h.undropped.routed.baseStart h.unlocked h.noHistory, h.undropped.drops_eq⟩
  exact (hstart.send _).routed

theorem routed_catchUpEvents (h : ReadingHistory (profile missedEvents) s)
    (start : position) (count : Int) (handler : ReadHandler) :
    Routed (profile missedEvents) (catchUpEvents start count handler s) :=
  h.undropped.routed.startHistory h.unlocked h.unregistered h.reads_eq _

theorem routed_history_failed {b : Base (Buffered cursor)}
    (h : ReadingHistory (profile missedEvents) s)
    (hidle : forall members,
      (profile missedEvents : Profile _ (Read position) _).Idle (b.shutdown members))
    (ec : Error) : Routed (profile missedEvents) (b.unsubscribe ec s) :=
  (h.undropped.routed.unsubscribe h.unlocked h.noHistory (hidle _) ec).routed

theorem routed_missed_failed {b : Base (Buffered cursor)}
    (h : Settled (profile missedEvents) s) (hguard : s.handleGuard = false)
    (hidle : forall members,
      (profile missedEvents : Profile _ (Read position) _).Idle (b.shutdown members))
    (ec : Error) : Routed (profile missedEvents) (b.unsubscribe ec s) :=
  (h.left.routed.unsubscribe hguard h.right (hidle _) ec).routed

/-- A class with a buffer keeps to one way to `dropped` if its packages, the two handlers
of its reads and what it does with an event of the buffer do. -/
theorem sound {c : Class (Buffered cursor) (Read position) batch}
    {settings : CatchupSubscriptionSettings}
    (hshutdown : c.shutdown = shutdown)
    (hbuffer : c.readSubscriptionEvents = readSubscriptionEvents deliver settings)
    (hdeliver : forall e, Handler.Keeps (Undropped (profile missedEvents)) (deliver e))
    (hreceived : forall {s} message, Settled (profile missedEvents) s ->
      s.handleGuard = false ->
        Routed (profile missedEvents) ((c.onPackageReceived message).runOn s).2)
    (hfalse : forall {s message},
      ((c.onPackageReceived message).runOn s).1 = Except.ok false ->
        ((c.onPackageReceived message).runOn s).2 = s)
    (hhistory : forall {s r} result, r.handler = ReadHandler.history ->
      ReadingHistory (profile missedEvents) s ->
        Routed (profile missedEvents) ((c.onRead r result).runOn s).2)
    (hmissed : forall {s r result count}, r.handler = ReadHandler.missed count ->
      Settled (profile missedEvents) s ->
      (s.handleGuard = false ∨ exists slice, result = Except.ok slice) ->
        Routed (profile missedEvents) ((c.onRead r result).runOn s).2)
    (hnothing : forall {s r slice count}, r.handler = ReadHandler.missed count ->
      Routed (profile missedEvents) s -> NoHistory (profile missedEvents) s ->
      s.child.eventBuffer.empty = true -> missedEvents s.child slice = [] ->
        Routed (profile missedEvents) ((c.onRead r (Except.ok slice)).runOn s).2) :
    Sound c (profile missedEvents) where
  shutdown_idle := by
    intro members
    rw [hshutdown]
    exact shutdown_idle members
  received := hreceived
  received_false := hfalse
  history := fun result hread h => hhistory result (of_decide_eq_true hread) h
  missed := by
    intro s r result hread h hresult
    cases hhandler : r.handler with
    | history => exact absurd (decide_eq_true hhandler) (ne_true_of_eq_false hread)
    | missed count => exact hmissed hhandler h hresult
  missed_idle := by
    intro s r slice hread h hnoHistory hempty hnone
    cases hhandler : r.handler with
    | history => exact absurd (decide_eq_true hhandler) (ne_true_of_eq_false hread)
    | missed count => exact hnothing hhandler h hnoHistory hempty hnone
  buffer := by
    rw [hbuffer]
    exact keeps_readSubscriptionEvents hdeliver (fun _ h => h.postRead) settings
  buffer_idle := by
    intro s hempty
    rw [hbuffer]
    exact readSubscriptionEvents_idle hempty settings

end Buffered

namespace Catchup

open Buffered

abbrev profile : Profile Child (Read Int) StreamEventsSlice :=
  Buffered.profile fun _ slice => sliceEvents slice

theorem settled_catchUpMissedEvents {s : CatchupState} (h : Settled profile s)
    (count : Int) : Settled profile (catchUpMissedEvents count s) :=
  h.startMissed rfl

variable {b : Base Child} (hidle : forall members, profile.Idle (b.shutdown members))
  (settings : CatchupSubscriptionSettings)
include hidle

theorem keeps_settled_appear (events : List Resolved) :
    Handler.Keeps (Settled profile) (appear b events) := by
  refine Handler.keeps_forM (fun e => ?_) events
  exact Handler.keeps_bind (keeps_settled_eventAppeared hidle e none) fun _ =>
    Handler.keeps_modify fun s h => settled_setCursor h _

theorem keeps_readingHistory_appear (events : List Resolved) :
    Handler.Keeps (ReadingHistory profile) (appear b events) := by
  refine Handler.keeps_forM (fun e => ?_) events
  exact Handler.keeps_bind (keeps_readingHistory_eventAppeared hidle e none) fun _ =>
    Handler.keeps_modify fun s h => readingHistory_setCursor h _

theorem keeps_deliver (e : Resolved) :
    Handler.Keeps (Undropped profile) (deliver b e) :=
  Handler.keeps_bind (keeps_eventAppeared hidle e none) fun _ =>
    Handler.keeps_bind (Handler.keeps_modify fun _ h => undropped_popFront h) fun _ =>
      Handler.keeps_modify fun _ h => undropped_setCursor h _

theorem routed_onPackageReceived (message : ServerMessage) {s : CatchupState}
    (h : Settled profile s) (hguard : s.handleGuard = false) :
    Routed profile ((onPackageReceived b settings message).runOn s).2 := by
  cases message with
  | subscriptionConfirmation response =>
      have hconfirm : Settled profile
          (confirm response.lastCommitPosition response.lastEventNumber s) :=
        ⟨h.left.confirm _ _, h.right⟩
      cases hlast : response.lastEventNumber with
      | some lastEventNumber =>
          rw [hlast] at hconfirm
          by_cases hmissed : currentEventNumber
              (confirm response.lastCommitPosition (some lastEventNumber) s) <
                lastEventNumber
          · simpa [onPackageReceived, hlast, hmissed] using
              (settled_catchUpMissedEvents hconfirm _).left.routed
          · simpa [onPackageReceived, hlast, hmissed] using hconfirm.left.routed
      | none =>
          rw [hlast] at hconfirm
          have hdropped := hconfirm.left.routed.unsubscribe (b := b) hguard hconfirm.right
            (hidle _)
            (Error.subscription .badSubscriptionConfirmation)
          simpa [onPackageReceived, hlast] using hdropped.routed
  | streamEventAppeared message =>
      have hbuffered := undropped_emplaceBack h.left hguard
        (Resolved.ofStreamEventAppeared message)
      refine Handler.after_modify (Undropped.routed ?_)
      refine (show Handler.Keeps (Undropped profile) _ from ?_) _ hbuffered
      refine Handler.keeps_bind keeps_front fun event =>
        Handler.keeps_bind (keeps_value _) fun _ =>
        Handler.keeps_bind Handler.keeps_get fun _ =>
        Handler.keeps_bind (keeps_value _) fun lastEventNumber =>
        Handler.keeps_bind Handler.keeps_get fun s' => ?_
      split
      · exact Handler.keeps_pure true
      · refine Handler.keeps_bind Handler.keeps_get fun s'' => ?_
        split
        · exact Handler.keeps_bind
            (keeps_readSubscriptionEvents (keeps_deliver hidle) (fun _ h => h.postRead) _)
            fun _ => Handler.keeps_pure true
        · exact Handler.keeps_pure true
  | persistentSubscriptionConfirmation response => exact h.left.routed
  | persistentSubscriptionStreamEventAppeared message => exact h.left.routed
  | subscriptionDropped message => exact h.left.routed
  | notAuthenticated => exact h.left.routed
  | badRequest => exact h.left.routed
  | notHandled response => exact h.left.routed
  | other => exact h.left.routed

theorem routed_onRead_history {r : Read Int} (result : Except Error StreamEventsSlice)
    (hhistory : r.handler = ReadHandler.history) {s : CatchupState}
    (h : ReadingHistory profile s) :
    Routed profile ((onRead b settings r result).runOn s).2 := by
  rcases r with ⟨start, maxCount, handler⟩
  obtain rfl : handler = ReadHandler.history := hhistory
  cases result with
  | ok slice =>
      refine Handler.after_bind (keeps_readingHistory_appear hidle _)
        (fun _ hs => hs.undropped.routed) (fun _ s hs => ?_) h
      split
      · exact routed_doAsyncStart hs
      · exact routed_catchUpEvents hs _ _ _
  | error e =>
      exact routed_history_failed h hidle (Error.subscription .subscriptionRequestNotSent)

theorem routed_onRead_missed {r : Read Int} {result : Except Error StreamEventsSlice}
    {count : Int} (hmissed : r.handler = ReadHandler.missed count) {s : CatchupState}
    (h : Settled profile s)
    (hresult : s.handleGuard = false ∨ exists slice, result = Except.ok slice) :
    Routed profile ((onRead b settings r result).runOn s).2 := by
  rcases r with ⟨start, maxCount, handler⟩
  obtain rfl : handler = ReadHandler.missed count := hmissed
  cases result with
  | ok slice =>
      refine Handler.after_bind (keeps_settled_appear hidle _)
        (fun _ hs => hs.left.routed) (fun _ s hs => ?_) h
      simp only
      split
      · exact (settled_catchUpMissedEvents hs _).left.routed
      · exact hs.left.routed.postRead
  | error e =>
      rcases hresult with hguard | ⟨slice, hok⟩
      · exact routed_missed_failed h hguard hidle e
      · cases hok

omit hidle in
theorem routed_onRead_nothing {r : Read Int} {slice : StreamEventsSlice} {count : Int}
    (hmissed : r.handler = ReadHandler.missed count) {s : CatchupState}
    (h : Routed profile s) (hhistory : NoHistory profile s)
    (hnothing : sliceEvents slice = []) :
    Routed profile ((onRead b settings r (Except.ok slice)).runOn s).2 := by
  rcases r with ⟨start, maxCount, handler⟩
  obtain rfl : handler = ReadHandler.missed count := hmissed
  have hnone : appear b (sliceEvents slice) = pure () := by
    rw [hnothing]
    rfl
  simp only [onRead, hnone, Handler.runOn_bind, Handler.runOn_pure]
  split
  · exact h.startMissed hhistory rfl
  · exact h.postRead

omit hidle in
theorem onPackageReceived_false {message : ServerMessage} {s : CatchupState}
    (hresult : ((onPackageReceived b settings message).runOn s).1 = Except.ok false) :
    ((onPackageReceived b settings message).runOn s).2 = s := by
  cases message with
  | subscriptionConfirmation response =>
      refine unchanged_of_returns hresult (Handler.returns_bind fun _ => ?_)
      cases response.lastEventNumber with
      | some lastEventNumber =>
          refine Handler.returns_bind fun s' => ?_
          simp only
          split
          · exact Handler.returns_bind fun _ => Handler.returns_pure rfl
          · exact Handler.returns_pure rfl
      | none => exact Handler.returns_bind fun _ => Handler.returns_pure rfl
  | streamEventAppeared message =>
      refine unchanged_of_returns hresult (Handler.returns_bind fun _ =>
        Handler.returns_bind fun _ => Handler.returns_bind fun _ =>
        Handler.returns_bind fun _ => Handler.returns_bind fun _ =>
        Handler.returns_bind fun s' => ?_)
      split
      · exact Handler.returns_pure rfl
      · refine Handler.returns_bind fun s'' => ?_
        split
        · exact Handler.returns_bind fun _ => Handler.returns_pure rfl
        · exact Handler.returns_pure rfl
  | persistentSubscriptionConfirmation response => rfl
  | persistentSubscriptionStreamEventAppeared message => rfl
  | subscriptionDropped message => rfl
  | notAuthenticated => rfl
  | badRequest => rfl
  | notHandled response => rfl
  | other => rfl

omit hidle in
theorem sound (key : Guid) (user : User) :
    Sound (subscription key user settings) profile :=
  Buffered.sound rfl rfl (keeps_deliver shutdown_idle)
    (fun message h hguard => routed_onPackageReceived shutdown_idle settings message h hguard)
    (onPackageReceived_false settings)
    (fun result hhistory h => routed_onRead_history shutdown_idle settings result hhistory h)
    (fun hmissed h hresult => routed_onRead_missed shutdown_idle settings hmissed h hresult)
    (fun hmissed h hhistory _ hnothing =>
      routed_onRead_nothing settings hmissed h hhistory hnothing)

end Catchup

namespace CatchupAll

open Buffered

def missedEvents (members : Child) (slice : AllEventsSlice) : List Resolved :=
  (sliceEvents slice).takeWhile fun e =>
    e.originalPosition ≠ some members.cursor.positionToCatchUpTo

abbrev profile : Profile Child (Read Position) AllEventsSlice :=
  Buffered.profile missedEvents

theorem settled_catchUpMissedEvents {s : CatchupState} (h : Settled profile s)
    (count : Int) : Settled profile (catchUpMissedEvents count s) :=
  h.startMissed rfl

variable {b : Base Child} (hidle : forall members, profile.Idle (b.shutdown members))
  (settings : CatchupSubscriptionSettings)
include hidle

theorem keeps_readingHistory_appear (events : List Resolved) :
    Handler.Keeps (ReadingHistory profile) (appear b events) := by
  exact Handler.keeps_forM (fun e => keeps_readingHistory_eventAppeared hidle e none) events

theorem keeps_settled_appearMissed (events : List Resolved) :
    Handler.Keeps (Settled profile) (appearMissed b events) := by
  induction events with
  | nil => exact Handler.keeps_pure true
  | cons e rest ih =>
      refine Handler.keeps_bind (keeps_value _) fun position =>
        Handler.keeps_bind (Handler.keeps_modify fun s h => settled_setCursor h _) fun _ =>
        Handler.keeps_bind Handler.keeps_get fun s => ?_
      split
      · exact Handler.keeps_pure false
      · exact Handler.keeps_bind (keeps_settled_eventAppeared hidle e none) fun _ => ih

theorem keeps_deliver (e : Resolved) :
    Handler.Keeps (Undropped profile) (deliver b e) :=
  Handler.keeps_bind (keeps_value _) fun _ =>
    Handler.keeps_bind (Handler.keeps_modify fun _ h => undropped_setCursor h _) fun _ =>
    Handler.keeps_bind (keeps_eventAppeared hidle e none) fun _ =>
      Handler.keeps_modify fun _ h => undropped_popFront h

theorem routed_onPackageReceived (message : ServerMessage) {s : CatchupState}
    (h : Settled profile s) (hguard : s.handleGuard = false) :
    Routed profile ((onPackageReceived b settings message).runOn s).2 := by
  cases message with
  | subscriptionConfirmation response =>
      have hconfirm : Handler.Keeps (Settled profile)
          (onPackageReceived b settings (.subscriptionConfirmation response)) := by
        refine Handler.keeps_bind (Handler.keeps_modify fun s h => ⟨h.left.confirm _ _, h.right⟩)
          fun _ => Handler.keeps_bind (Handler.keeps_modify fun s h => settled_setCursor h _)
          fun _ => Handler.keeps_bind Handler.keeps_get fun s => ?_
        simp only
        split
        · exact Handler.keeps_bind
            (Handler.keeps_modify fun s h => settled_catchUpMissedEvents h _) fun _ =>
              Handler.keeps_pure true
        · exact Handler.keeps_pure true
      exact (hconfirm s h).left.routed
  | streamEventAppeared message =>
      have hbuffered := undropped_emplaceBack h.left hguard
        (Resolved.ofStreamEventAppeared message)
      refine Handler.after_modify (Undropped.routed ?_)
      refine (show Handler.Keeps (Undropped profile) _ from ?_) _ hbuffered
      refine Handler.keeps_bind Handler.keeps_get fun s' => ?_
      split
      · exact Handler.keeps_pure true
      · simp only
        split
        · exact Handler.keeps_bind
            (keeps_readSubscriptionEvents (keeps_deliver hidle) (fun _ h => h.postRead) _)
            fun _ => Handler.keeps_pure true
        · exact Handler.keeps_pure true
  | persistentSubscriptionConfirmation response => exact h.left.routed
  | persistentSubscriptionStreamEventAppeared message => exact h.left.routed
  | subscriptionDropped message => exact h.left.routed
  | notAuthenticated => exact h.left.routed
  | badRequest => exact h.left.routed
  | notHandled response => exact h.left.routed
  | other => exact h.left.routed

theorem routed_onRead_history {r : Read Position} (result : Except Error AllEventsSlice)
    (hhistory : r.handler = ReadHandler.history) {s : CatchupState}
    (h : ReadingHistory profile s) :
    Routed profile ((onRead b settings r result).runOn s).2 := by
  rcases r with ⟨start, maxCount, handler⟩
  obtain rfl : handler = ReadHandler.history := hhistory
  cases result with
  | ok slice =>
      refine Handler.after_bind (keeps_readingHistory_appear hidle _)
        (fun _ hs => hs.undropped.routed) (fun _ s hs => ?_) h
      split
      · exact routed_doAsyncStart hs
      · exact routed_catchUpEvents (readingHistory_setCursor hs _) _ _ _
  | error e =>
      exact routed_history_failed h hidle (Error.subscription .subscriptionRequestNotSent)

theorem routed_onRead_missed {r : Read Position} {result : Except Error AllEventsSlice}
    {count : Int} (hmissed : r.handler = ReadHandler.missed count) {s : CatchupState}
    (h : Settled profile s)
    (hresult : s.handleGuard = false ∨ exists slice, result = Except.ok slice) :
    Routed profile ((onRead b settings r result).runOn s).2 := by
  rcases r with ⟨start, maxCount, handler⟩
  obtain rfl : handler = ReadHandler.missed count := hmissed
  cases result with
  | ok slice =>
      refine Handler.after_bind (keeps_settled_appearMissed hidle _)
        (fun _ hs => hs.left.routed) (fun next s hs => ?_) h
      split
      · exact (settled_catchUpMissedEvents hs _).left.routed
      · exact (keeps_readSubscriptionEvents (keeps_deliver hidle) (fun _ h => h.postRead)
          settings s hs.left).routed
  | error e =>
      rcases hresult with hguard | ⟨slice, hok⟩
      · exact routed_missed_failed h hguard hidle e
      · cases hok

omit hidle in
theorem appearMissed_nothing {events : List Resolved} {s : CatchupState}
    (hnothing : events.takeWhile
      (fun e => e.originalPosition ≠ some s.child.cursor.positionToCatchUpTo) = []) :
    exists result f, (appearMissed b events).runOn s = (result, setCursor f s) := by
  cases events with
  | nil => exact ⟨Except.ok true, id, rfl⟩
  | cons e rest =>
      have hfirst : e.originalPosition = some s.child.cursor.positionToCatchUpTo := by
        by_contra hne
        simp [hne] at hnothing
      refine ⟨Except.ok false, fun c =>
        { c with currentPosition := s.child.cursor.positionToCatchUpTo }, ?_⟩
      simp [appearMissed, hfirst, value, setCurrentPosition, positionToCatchUpTo, setCursor,
        State.setChild]

omit hidle in
theorem routed_onRead_nothing {r : Read Position} {slice : AllEventsSlice} {count : Int}
    (hmissed : r.handler = ReadHandler.missed count) {s : CatchupState}
    (h : Routed profile s) (hhistory : NoHistory profile s)
    (hempty : s.child.eventBuffer.empty = true) (hnothing : missedEvents s.child slice = []) :
    Routed profile ((onRead b settings r (Except.ok slice)).runOn s).2 := by
  rcases r with ⟨start, maxCount, handler⟩
  obtain rfl : handler = ReadHandler.missed count := hmissed
  rcases appearMissed_nothing (b := b) hnothing with ⟨result, f, hrun⟩
  have hmoved : Routed profile (setCursor f s) :=
    h.frame rfl rfl rfl h.locked_idle id id (Or.inr ⟨rfl, rfl⟩)
  simp only [onRead, Handler.runOn_bind, hrun]
  cases result with
  | error fault => exact hmoved
  | ok next =>
      simp only
      split
      · exact hmoved.startMissed hhistory rfl
      · rw [readSubscriptionEvents, readSubscriptionEvents_idle (s := setCursor f s) hempty]
        exact hmoved

omit hidle in
theorem onPackageReceived_false {message : ServerMessage} {s : CatchupState}
    (hresult : ((onPackageReceived b settings message).runOn s).1 = Except.ok false) :
    ((onPackageReceived b settings message).runOn s).2 = s := by
  cases message with
  | subscriptionConfirmation response =>
      refine unchanged_of_returns hresult (Handler.returns_bind fun _ =>
        Handler.returns_bind fun _ => Handler.returns_bind fun s' => ?_)
      simp only
      split
      · exact Handler.returns_bind fun _ => Handler.returns_pure rfl
      · exact Handler.returns_pure rfl
  | streamEventAppeared message =>
      refine unchanged_of_returns hresult (Handler.returns_bind fun _ =>
        Handler.returns_bind fun s' => ?_)
      simp only
      split
      · exact Handler.returns_pure rfl
      · split
        · exact Handler.returns_bind fun _ => Handler.returns_pure rfl
        · exact Handler.returns_pure rfl
  | persistentSubscriptionConfirmation response => rfl
  | persistentSubscriptionStreamEventAppeared message => rfl
  | subscriptionDropped message => rfl
  | notAuthenticated => rfl
  | badRequest => rfl
  | notHandled response => rfl
  | other => rfl

omit hidle in
theorem sound (key : Guid) (user : User) :
    Sound (subscription key user settings) profile :=
  Buffered.sound rfl rfl (keeps_deliver shutdown_idle)
    (fun message h hguard => routed_onPackageReceived shutdown_idle settings message h hguard)
    (onPackageReceived_false settings)
    (fun result hhistory h => routed_onRead_history shutdown_idle settings result hhistory h)
    (fun hmissed h hresult => routed_onRead_missed shutdown_idle settings hmissed h hresult)
    (fun hmissed h hhistory hempty hnothing =>
      routed_onRead_nothing settings hmissed h hhistory hempty hnothing)

end CatchupAll

end Subscription
end EventStoreClient
