import EventStoreClient.Subscription.Sound

/-!
# What the handlers of a subscription are made of

The handlers of all kinds are made of a few actions.  An invariant that these keep is kept
by the handlers, however they are left.
-/

namespace EventStoreClient
namespace Subscription

open Buffer Connection Foundation Operations Wire

variable {child pending batch : Type}

/-- The actions of the handlers that come after the history, in which the reads that are
started are those of missed events. -/
structure Keeping (b : Base child) (missed : pending -> Prop)
    (inv : State child pending -> Prop) : Prop where
  setChild : forall {s} members, inv s -> inv (s.setChild members)
  confirm : forall {s} lastCommitPosition lastEventNumber, inv s ->
    inv (Subscription.confirm lastCommitPosition lastEventNumber s)
  called : forall {s} e retryCount, inv s ->
    inv (s.called (Callback.eventAppeared e retryCount))
  unsubscribe : forall {s} ec, inv s -> inv (b.unsubscribe ec s)
  postRead : forall {s}, inv s -> inv (s.post Posted.readSubscriptionEvents)
  startRead : forall {s r}, missed r -> inv s -> inv (s.startRead r)

/-- The actions of all handlers.  An unsubscribe request is sent only by the base class. -/
structure KeepingAll (b : Base child) (inv : State child pending -> Prop) : Prop
    extends Keeping b (fun _ => True) inv where
  start : forall {s}, inv s -> inv (Base.asyncStart s)
  send : forall {s request}, request ≠ Request.unsubscribeFromStream -> inv s ->
    inv (s.send request)

/-- The handlers that a class adds to those of its base keep the invariant. -/
structure Class.Keeps (c : Class child pending batch) (inv : State child pending -> Prop) :
    Prop where
  received : forall message, Handler.Keeps inv (c.onPackageReceived message)
  read : forall r result, Handler.Keeps inv (c.onRead r result)
  buffer : Handler.Keeps inv c.readSubscriptionEvents

/-- What the handlers that come after the history are made of, with the faults that leave
them. -/
structure Guarding (b : Base child) (missed : pending -> Prop) (faults : Fault -> Prop)
    (inv : State child pending -> Prop) : Prop where
  badOptionalAccess : faults Fault.badOptionalAccess
  noObject : faults Fault.noObject
  setChild : forall {s} members, inv s -> inv (s.setChild members)
  confirm : forall {s} lastCommitPosition lastEventNumber, inv s ->
    inv (Subscription.confirm lastCommitPosition lastEventNumber s)
  eventAppeared : forall e retryCount,
    Handler.Guards inv faults (b.eventAppeared e retryCount)
  unsubscribeByKey : forall ec, Handler.Guards inv faults (b.unsubscribeByKey ec)
  unsubscribe : forall {s} ec, inv s -> inv (b.unsubscribe ec s)
  postRead : forall {s}, inv s -> inv (s.post Posted.readSubscriptionEvents)
  startRead : forall {s r}, missed r -> inv s -> inv (s.startRead r)

/-- The requests that only the base class sends are unsubscribe requests. -/
def Sends (inv : State child pending -> Prop) : Prop :=
  forall {s : State child pending} {request : Request},
    request ≠ Request.unsubscribeFromStream -> inv s -> inv (s.send request)

/-- The handlers of a class, those of these reads alone, are guarded. -/
structure Class.Guards (c : Class child pending batch) (reads : pending -> Prop)
    (faults : Fault -> Prop) (inv : State child pending -> Prop) : Prop where
  received : forall message, Handler.Guards inv faults (c.onPackageReceived message)
  read : forall {r} result, reads r -> Handler.Guards inv faults (c.onRead r result)
  buffer : Handler.Guards inv faults c.readSubscriptionEvents

section Callbacks

variable {b : Base child} {missed : pending -> Prop} {inv : State child pending -> Prop}

theorem keeps_unsubscribeByKey
    (hunsubscribe : forall {s} ec, inv s -> inv (b.unsubscribe ec s)) (ec : Error) :
    Handler.Keeps inv (b.unsubscribeByKey ec) := by
  intro s hs
  cases hregistered : s.registered with
  | false =>
      rw [unsubscribeByKey_of_not_registered hregistered]
      exact hs
  | true =>
      rw [unsubscribeByKey_of_registered hregistered]
      unfold Base.fail
      split
      · exact hs
      · exact hunsubscribe ec hs

theorem Keeping.unsubscribeByKey (h : Keeping b missed inv) (ec : Error) :
    Handler.Keeps inv (b.unsubscribeByKey ec) :=
  keeps_unsubscribeByKey h.unsubscribe ec

theorem Keeping.eventAppeared (h : Keeping b missed inv) (e : Resolved)
    (retryCount : Option Int) : Handler.Keeps inv (b.eventAppeared e retryCount) := by
  refine Handler.keeps_bind (Handler.keeps_modify fun _ hs => h.called e retryCount hs)
    fun _ => Handler.keeps_bind Handler.keeps_get fun s => ?_
  split
  · exact h.unsubscribeByKey _
  · exact Handler.keeps_pure _

theorem Keeping.guarding (h : Keeping b missed inv) :
    Guarding b missed (fun _ => True) inv where
  badOptionalAccess := trivial
  noObject := trivial
  setChild := h.setChild
  confirm := h.confirm
  eventAppeared := fun e retryCount => (h.eventAppeared e retryCount).guards
  unsubscribeByKey := fun ec => (h.unsubscribeByKey ec).guards
  unsubscribe := h.unsubscribe
  postRead := h.postRead
  startRead := h.startRead

end Callbacks

/-!
# The kinds

An event that appears starts no read; the handlers that come after the history may start
one of missed events.
-/

namespace Volatile

variable {inv : State Unit Empty -> Prop} {missed : Empty -> Prop} {faults : Fault -> Prop}

theorem guards {reads : Empty -> Prop} (key : Guid) (user : User)
    (h : Guarding (base key user) missed faults inv) :
    (subscription key user).Guards reads faults inv where
  received := by
    intro message
    cases message with
    | subscriptionConfirmation response =>
        exact Handler.guards_bind (Handler.guards_modify fun _ hs => h.confirm _ _ hs)
          fun _ => Handler.guards_pure true
    | streamEventAppeared message =>
        exact Handler.guards_bind (h.eventAppeared _ none) fun _ => Handler.guards_pure true
    | _ => exact Handler.guards_pure false
  read := fun {r} => nomatch r
  buffer := Handler.guards_pure _

end Volatile

namespace Persistent

variable {inv : State Child Empty -> Prop} {missed : Empty -> Prop} {faults : Fault -> Prop}

theorem guards {reads : Empty -> Prop} (key : Guid) (user : User) (autoAck : Bool)
    (h : Guarding (base key user) missed faults inv) (hsend : Sends inv) :
    (subscription key user autoAck).Guards reads faults inv where
  received := by
    intro message
    cases message with
    | persistentSubscriptionConfirmation response =>
        exact Handler.guards_bind (Handler.guards_modify fun _ hs => h.confirm _ _ hs)
          fun _ => Handler.guards_bind (Handler.guards_modify fun _ hs => h.setChild _ hs)
          fun _ => Handler.guards_pure true
    | persistentSubscriptionStreamEventAppeared message =>
        refine Handler.guards_bind (h.eventAppeared _ _) fun _ => ?_
        split
        · refine Handler.guards_bind ?_ fun _ => Handler.guards_pure true
          refine Handler.guards_bind (guards_value h.badOptionalAccess _) fun record => ?_
          exact Handler.guards_modify fun _ hs => hsend (fun hrequest => nomatch hrequest) hs
        · exact Handler.guards_pure true
    | subscriptionDropped message =>
        exact Handler.guards_bind (h.unsubscribeByKey _) fun _ => Handler.guards_pure true
    | _ => exact Handler.guards_pure false
  read := fun {r} => nomatch r
  buffer := Handler.guards_pure _

end Persistent

namespace Buffered

/-- The handler of a read is that of the history or that of missed events. -/
theorem guards_onRead {onRead : Read position -> Except Error batch -> Handles child pending Unit}
    {inv : State child pending -> Prop} {faults : Fault -> Prop} {reads : Read position -> Prop}
    (hhistory : forall {r} result, reads r -> r.handler = ReadHandler.history ->
      Handler.Guards inv faults (onRead r result))
    (hmissed : forall {r count} result, r.handler = ReadHandler.missed count ->
      Handler.Guards inv faults (onRead r result))
    {r : Read position} (result : Except Error batch) (hr : reads r) :
    Handler.Guards inv faults (onRead r result) := by
  cases hhandler : r.handler with
  | history => exact hhistory result hr hhandler
  | missed count => exact hmissed result hhandler

end Buffered

namespace Catchup

variable {b : Base Child} {inv : CatchupState -> Prop} {missed reads : Read Int -> Prop}
  {faults : Fault -> Prop} (settings : CatchupSubscriptionSettings)

theorem guards_appear (h : Guarding b missed faults inv) (events : List Resolved) :
    Handler.Guards inv faults (appear b events) := by
  apply Handler.guards_forM
  intro e
  exact Handler.guards_bind (h.eventAppeared e none) fun _ =>
    Handler.guards_modify fun _ hs => h.setChild _ hs

theorem guards_deliver (h : Guarding b missed faults inv) (e : Resolved) :
    Handler.Guards inv faults (deliver b e) :=
  Handler.guards_bind (h.eventAppeared e none) fun _ =>
    Handler.guards_bind (Handler.guards_modify fun _ hs => h.setChild _ hs) fun _ =>
      Handler.guards_modify fun _ hs => h.setChild _ hs

theorem guards_readSubscriptionEvents (h : Guarding b missed faults inv) :
    Handler.Guards inv faults (readSubscriptionEvents b settings) :=
  Buffered.guards_readSubscriptionEvents h.noObject (guards_deliver h)
    (fun _ hs => h.postRead hs) settings

theorem guards_onRead_missed (h : Guarding b missed faults inv) {r : Read Int} {count : Int}
    (hread : r.handler = ReadHandler.missed count)
    (hmissed : forall start maxCount count,
      missed ⟨start, maxCount, ReadHandler.missed count⟩)
    (result : Except Error StreamEventsSlice) :
    Handler.Guards inv faults (onRead b settings r result) := by
  rcases r with ⟨start, maxCount, handler⟩
  obtain rfl : handler = ReadHandler.missed count := hread
  cases result with
  | ok slice =>
      refine Handler.guards_bind (guards_appear h _) fun _ => ?_
      simp only
      split
      · exact Handler.guards_modify fun _ hs => h.startRead (hmissed _ _ _) hs
      · exact Handler.guards_modify fun _ hs => h.postRead hs
  | error e => exact Handler.guards_modify fun _ hs => h.unsubscribe e hs

theorem guards_onRead_history (h : Guarding b (fun _ => True) faults inv) (hsend : Sends inv)
    (hstart : forall {s}, inv s -> inv (Base.asyncStart s)) {r : Read Int}
    (hread : r.handler = ReadHandler.history) (result : Except Error StreamEventsSlice) :
    Handler.Guards inv faults (onRead b settings r result) := by
  rcases r with ⟨start, maxCount, handler⟩
  obtain rfl : handler = ReadHandler.history := hread
  cases result with
  | ok slice =>
      refine Handler.guards_bind (guards_appear h _) fun _ => ?_
      split
      · exact Handler.guards_modify fun _ hs =>
          hsend (fun hrequest => nomatch hrequest) (hstart hs)
      · exact Handler.guards_modify fun _ hs => h.startRead trivial hs
  | error e => exact Handler.guards_modify fun _ hs => h.unsubscribe _ hs

theorem guards_onAppeared (h : Guarding b missed faults inv) (message : StreamEventAppeared) :
    Handler.Guards inv faults
      (onPackageReceived b settings (.streamEventAppeared message)) := by
  refine Handler.guards_bind (Handler.guards_modify fun _ hs => h.setChild _ hs) fun _ =>
    Handler.guards_bind (Buffered.guards_front h.noObject) fun event =>
    Handler.guards_bind (guards_value h.badOptionalAccess _) fun _ =>
    Handler.guards_bind Handler.guards_get fun _ =>
    Handler.guards_bind (guards_value h.badOptionalAccess _) fun lastEventNumber =>
    Handler.guards_bind Handler.guards_get fun s => ?_
  split
  · exact Handler.guards_pure true
  · refine Handler.guards_bind Handler.guards_get fun s => ?_
    split
    · exact Handler.guards_bind (guards_readSubscriptionEvents settings h) fun _ =>
        Handler.guards_pure true
    · exact Handler.guards_pure true

theorem guards_onPackageReceived (h : Guarding b missed faults inv)
    (hmissed : forall start maxCount count,
      missed ⟨start, maxCount, ReadHandler.missed count⟩) (message : ServerMessage) :
    Handler.Guards inv faults (onPackageReceived b settings message) := by
  cases message with
  | subscriptionConfirmation response =>
      refine Handler.guards_bind (Handler.guards_modify fun _ hs => h.confirm _ _ hs) fun _ => ?_
      split
      · refine Handler.guards_bind Handler.guards_get fun s => ?_
        simp only
        split
        · exact Handler.guards_bind
            (Handler.guards_modify fun _ hs => h.startRead (hmissed _ _ _) hs) fun _ =>
              Handler.guards_pure true
        · exact Handler.guards_pure true
      · exact Handler.guards_bind (Handler.guards_modify fun _ hs => h.unsubscribe _ hs)
          fun _ => Handler.guards_pure true
  | streamEventAppeared message => exact guards_onAppeared settings h message
  | _ => exact Handler.guards_pure false

theorem guards (key : Guid) (user : User) (h : Guarding (base key user) reads faults inv)
    (hmissed : forall start maxCount count, reads ⟨start, maxCount, ReadHandler.missed count⟩)
    (hhistory : forall {r} result, reads r -> r.handler = ReadHandler.history ->
      Handler.Guards inv faults (onRead (base key user) settings r result)) :
    (subscription key user settings).Guards reads faults inv where
  received := guards_onPackageReceived settings h hmissed
  read := Buffered.guards_onRead hhistory fun result hhandler =>
    guards_onRead_missed settings h hhandler hmissed result
  buffer := guards_readSubscriptionEvents settings h

end Catchup

namespace CatchupAll

variable {b : Base Child} {inv : CatchupState -> Prop} {missed reads : Read Position -> Prop}
  {faults : Fault -> Prop} (settings : CatchupSubscriptionSettings)

theorem guards_appear (h : Guarding b missed faults inv) (events : List Resolved) :
    Handler.Guards inv faults (appear b events) :=
  Handler.guards_forM (fun e => h.eventAppeared e none) events

theorem guards_appearMissed (h : Guarding b missed faults inv) (events : List Resolved) :
    Handler.Guards inv faults (appearMissed b events) := by
  induction events with
  | nil => exact Handler.guards_pure true
  | cons e rest ih =>
      refine Handler.guards_bind (guards_value h.badOptionalAccess _) fun position =>
        Handler.guards_bind (Handler.guards_modify fun _ hs => h.setChild _ hs) fun _ =>
        Handler.guards_bind Handler.guards_get fun s => ?_
      split
      · exact Handler.guards_pure false
      · exact Handler.guards_bind (h.eventAppeared e none) fun _ => ih

theorem guards_deliver (h : Guarding b missed faults inv) (e : Resolved) :
    Handler.Guards inv faults (deliver b e) :=
  Handler.guards_bind (guards_value h.badOptionalAccess _) fun _ =>
    Handler.guards_bind (Handler.guards_modify fun _ hs => h.setChild _ hs) fun _ =>
    Handler.guards_bind (h.eventAppeared e none) fun _ =>
      Handler.guards_modify fun _ hs => h.setChild _ hs

theorem guards_readSubscriptionEvents (h : Guarding b missed faults inv) :
    Handler.Guards inv faults (readSubscriptionEvents b settings) :=
  Buffered.guards_readSubscriptionEvents h.noObject (guards_deliver h)
    (fun _ hs => h.postRead hs) settings

theorem guards_onRead_missed (h : Guarding b missed faults inv) {r : Read Position}
    {count : Int} (hread : r.handler = ReadHandler.missed count)
    (hmissed : forall start maxCount count,
      missed ⟨start, maxCount, ReadHandler.missed count⟩)
    (result : Except Error AllEventsSlice) :
    Handler.Guards inv faults (onRead b settings r result) := by
  rcases r with ⟨start, maxCount, handler⟩
  obtain rfl : handler = ReadHandler.missed count := hread
  cases result with
  | ok slice =>
      refine Handler.guards_bind (guards_appearMissed h _) fun next => ?_
      split
      · exact Handler.guards_modify fun _ hs => h.startRead (hmissed _ _ _) hs
      · exact guards_readSubscriptionEvents settings h
  | error e => exact Handler.guards_modify fun _ hs => h.unsubscribe e hs

theorem guards_onRead_history (h : Guarding b (fun _ => True) faults inv) (hsend : Sends inv)
    (hstart : forall {s}, inv s -> inv (Base.asyncStart s)) {r : Read Position}
    (hread : r.handler = ReadHandler.history) (result : Except Error AllEventsSlice) :
    Handler.Guards inv faults (onRead b settings r result) := by
  rcases r with ⟨start, maxCount, handler⟩
  obtain rfl : handler = ReadHandler.history := hread
  cases result with
  | ok slice =>
      refine Handler.guards_bind (guards_appear h _) fun _ => ?_
      split
      · exact Handler.guards_modify fun _ hs =>
          hsend (fun hrequest => nomatch hrequest) (hstart hs)
      · exact Handler.guards_bind (Handler.guards_modify fun _ hs => h.setChild _ hs)
          fun _ => Handler.guards_modify fun _ hs => h.startRead trivial hs
  | error e => exact Handler.guards_modify fun _ hs => h.unsubscribe _ hs

theorem guards_onAppeared (h : Guarding b missed faults inv) (message : StreamEventAppeared) :
    Handler.Guards inv faults
      (onPackageReceived b settings (.streamEventAppeared message)) := by
  refine Handler.guards_bind (Handler.guards_modify fun _ hs => h.setChild _ hs) fun _ =>
    Handler.guards_bind Handler.guards_get fun s => ?_
  simp only
  split
  · exact Handler.guards_pure true
  · split
    · exact Handler.guards_bind (guards_readSubscriptionEvents settings h) fun _ =>
        Handler.guards_pure true
    · exact Handler.guards_pure true

theorem guards_onPackageReceived (h : Guarding b missed faults inv)
    (hmissed : forall start maxCount count,
      missed ⟨start, maxCount, ReadHandler.missed count⟩) (message : ServerMessage) :
    Handler.Guards inv faults (onPackageReceived b settings message) := by
  cases message with
  | subscriptionConfirmation response =>
      refine Handler.guards_bind (Handler.guards_modify fun _ hs => h.confirm _ _ hs) fun _ =>
        Handler.guards_bind (Handler.guards_modify fun _ hs => h.setChild _ hs) fun _ =>
        Handler.guards_bind Handler.guards_get fun s => ?_
      split
      · exact Handler.guards_bind
          (Handler.guards_modify fun _ hs => h.startRead (hmissed _ _ _) hs) fun _ =>
            Handler.guards_pure true
      · exact Handler.guards_pure true
  | streamEventAppeared message => exact guards_onAppeared settings h message
  | _ => exact Handler.guards_pure false

theorem guards (key : Guid) (user : User) (h : Guarding (base key user) reads faults inv)
    (hmissed : forall start maxCount count, reads ⟨start, maxCount, ReadHandler.missed count⟩)
    (hhistory : forall {r} result, reads r -> r.handler = ReadHandler.history ->
      Handler.Guards inv faults (onRead (base key user) settings r result)) :
    (subscription key user settings).Guards reads faults inv where
  received := guards_onPackageReceived settings h hmissed
  read := Buffered.guards_onRead hhistory fun result hhandler =>
    guards_onRead_missed settings h hhandler hmissed result
  buffer := guards_readSubscriptionEvents settings h

end CatchupAll

/-!
# The base class

What the handlers of the base class are made of, the callbacks and the ways to `dropped`
included.  They start no read.
-/

structure KeepingBase (b : Base child) (inv : State child pending -> Prop) : Prop where
  called : forall {s} c, inv s -> inv (s.called c)
  unsubscribe : forall {s} ec, inv s -> inv (b.unsubscribe ec s)
  erase : forall {s}, inv s -> inv { s with registered := false }
  answered : forall {s}, inv s -> inv { s with unsubscribing := false }
  setDeadline : forall {s} t, inv s -> inv (s.setDeadline t)
  fault : forall {s} fault receiving, inv s ->
    inv { s with faults := s.faults ++ [fault], receiving := receiving }

structure Listening (s : State child pending) : Prop where
  unasked : s.unsubscribing = false
  registered : s.registered = true
  unlocked : s.handleGuard = false

namespace KeepingBase

variable {b : Base child} {c : Class child pending batch} {inv : State child pending -> Prop}
  {s next : State child pending}

theorem settle (h : KeepingBase b inv) {after : Except Fault Unit × State child pending}
    (hafter : inv after.2) : inv (settle after) := by
  rcases after with ⟨r, s⟩
  cases r with
  | ok _ => exact hafter
  | error fault => exact h.fault fault s.receiving hafter

theorem settleReceived (h : KeepingBase b inv)
    {after : Except Fault Unit × State child pending} (hafter : inv after.2) :
    inv (settleReceived after) := by
  rcases after with ⟨r, s⟩
  cases r with
  | ok _ => exact hafter
  | error fault => exact h.fault fault false hafter

theorem settleRead (h : KeepingBase b inv) (result : Except Error batch)
    {after : Except Fault Unit × State child pending} (hafter : inv after.2) :
    inv (settleRead result after) := by
  rcases settleRead_eq result after with heq | heq
  · rw [heq]
    exact h.settle hafter
  · rw [heq]
    exact h.settleReceived hafter

theorem dropped (h : KeepingBase b inv) (ec : Error) : Handler.Keeps inv (b.dropped ec) := by
  refine Handler.keeps_bind (Handler.keeps_modify fun _ hs => h.called _ hs) fun _ =>
    Handler.keeps_bind Handler.keeps_get fun s => ?_
  split
  · exact keeps_unsubscribeByKey h.unsubscribe _
  · exact Handler.keeps_pure _

theorem onPackageReceived (h : KeepingBase b inv) (message : ServerMessage) (hs : inv s) :
    inv (b.onPackageReceived message s) := by
  unfold Base.onPackageReceived
  split
  · split
    · exact h.unsubscribe _ hs
    · exact h.unsubscribe _ hs
    · exact h.unsubscribe _ hs
    · exact hs
    · exact hs
  · exact h.unsubscribe _ hs
  · exact h.unsubscribe _ hs
  · split
    · exact h.unsubscribe _ hs
    · exact h.unsubscribe _ hs
  · exact h.unsubscribe _ hs

theorem unsubscribeAnswered (h : KeepingBase b inv) :
    Handler.Keeps inv (b.unsubscribeAnswered : Handles child pending Unit) :=
  Handler.keeps_bind (Handler.keeps_modify fun _ hs => h.setDeadline _ hs) fun _ =>
    Handler.keeps_bind (Handler.keeps_modify fun _ hs => h.erase hs) fun _ => h.dropped _

theorem receive (h : KeepingBase c.toBase inv) {message : ServerMessage}
    (hderived : Listening s -> inv ((c.onPackageReceived message).runOn s).2) (hs : inv s) :
    inv ((c.receive message).runOn s).2 := by
  cases hrequest : s.unsubscribing with
  | true =>
      have hanswered : Handler.Keeps inv (do
          c.unsubscribeAnswered
          modify (fun s => { s with unsubscribing := false })) :=
        Handler.keeps_bind h.unsubscribeAnswered fun _ =>
          Handler.keeps_modify fun _ hs => h.answered hs
      simpa [Class.receive, hrequest] using hanswered s hs
  | false =>
      cases hregistered : s.registered with
      | false => simpa [Class.receive, hrequest, hregistered] using hs
      | true =>
          cases hguard : s.handleGuard with
          | true => simpa [Class.receive, hrequest, hregistered, Base.entry, hguard] using hs
          | false =>
              have hafter := hderived ⟨hrequest, hregistered, hguard⟩
              simp only [Class.receive, Base.entry, Handler.runOn_bind, Handler.runOn_get,
                hrequest, hregistered, hguard, Bool.false_eq_true, if_false, if_true]
              rcases hrun : (c.onPackageReceived message).runOn s with ⟨r, after⟩
              rw [hrun] at hafter
              cases r with
              | error fault => exact hafter
              | ok handled =>
                  cases handled with
                  | true => exact hafter
                  | false => exact h.onPackageReceived message hafter

theorem postedDropped (h : KeepingBase b inv) (ec : Error) :
    Handler.Keeps inv (b.postedDropped ec : Handles child pending Unit) :=
  Handler.keeps_bind (Handler.keeps_modify fun _ hs => h.erase hs) fun _ => h.dropped ec

theorem completed (h : KeepingBase b inv) (result : WaitResult) :
    Handler.Keeps inv (b.completed result : Handles child pending Unit) := by
  cases result with
  | aborted => exact Handler.keeps_pure _
  | expired =>
      refine Handler.keeps_bind Handler.keeps_get fun s => ?_
      split
      · refine Handler.keeps_bind (Handler.keeps_modify fun _ hs => ?_) fun _ =>
          Handler.keeps_modify fun _ hs => h.answered hs
        exact h.unsubscribe _ (h.setDeadline _ hs)
      · exact Handler.keeps_throw _

/-- A step that handles no read, if what the class does with a package and with its buffer
keeps the invariant. -/
theorem step (h : KeepingBase c.toBase inv) (hs : inv s) {i : Input batch}
    (hread : forall j result, i ≠ Input.readCompleted j result)
    (hderived : forall message, i = Input.received message -> Listening s ->
      inv ((c.onPackageReceived message).runOn s).2)
    (htaken : forall j, inv (s.takePosted j))
    (hbuffer : Posted.readSubscriptionEvents ∈ s.posted -> forall j,
      inv (c.readSubscriptionEvents.runOn (s.takePosted j)).2)
    (hstep : Subscription.step c s i = some next) : inv next := by
  cases stepped_of_step hstep with
  | received message _ => exact h.settleReceived (h.receive (hderived message rfl) hs)
  | readCompleted j result _ => exact absurd rfl (hread j result)
  | @posted j closure hclosure =>
      apply h.settle
      cases closure with
      | dropped ec => exact h.postedDropped ec _ (htaken j)
      | readSubscriptionEvents => exact hbuffer (List.mem_of_getElem? hclosure) j
  | expired _ => exact h.setDeadline _ hs
  | @completed result _ => exact h.settle (h.completed result _ (h.setDeadline _ hs))
  | unsubscribe => exact h.settle (keeps_unsubscribeByKey h.unsubscribe _ s hs)

end KeepingBase

theorem Kind.keeps (kind : Kind child pending batch) (key : Guid) (user : User)
    {inv : State child pending -> Prop}
    (h : forall b : Base child, KeepingAll b inv) :
    (kind.subscription key user).Keeps inv := by
  have hguards : (kind.subscription key user).Guards (fun _ => True) (fun _ => True) inv := by
    cases kind with
    | volatile => exact Volatile.guards key user (h (Volatile.base key user)).guarding
    | persistent autoAck =>
        have hall := h (Persistent.base key user)
        exact Persistent.guards key user autoAck hall.guarding hall.send
    | catchup fromEventNumber settings =>
        have hall := h (Catchup.base key user)
        exact Catchup.guards settings key user hall.guarding (fun _ _ _ => trivial)
          fun result _ hhistory =>
            Catchup.guards_onRead_history settings hall.guarding hall.send hall.start hhistory
              result
    | catchupAll fromPosition settings =>
        have hall := h (CatchupAll.base key user)
        exact CatchupAll.guards settings key user hall.guarding (fun _ _ _ => trivial)
          fun result _ hhistory =>
            CatchupAll.guards_onRead_history settings hall.guarding hall.send hall.start hhistory
              result
  exact
    { received := fun message => (hguards.received message).keeps
      read := fun r result => (hguards.read (r := r) result trivial).keeps
      buffer := hguards.buffer.keeps }

end Subscription
end EventStoreClient
