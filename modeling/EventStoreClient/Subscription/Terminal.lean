import EventStoreClient.Subscription.Delivery
import EventStoreClient.Subscription.Dropped
import EventStoreClient.Subscription.Keeping

/-!
# Packages that end a subscription

What a registered subscription whose guard is not locked makes of a package that ends
it: whether it is left with one way to `dropped`.
-/

namespace EventStoreClient
namespace Subscription

open Buffer Connection Foundation Operations Wire

variable {child pending batch : Type}

/-!
# The guard stays locked

Any run may call `dropped` more than once.  But once the guard is locked no handler
unlocks it, and until then the run has not been disturbed.
-/

section Locked

variable {p : Profile child pending batch} {s next : State child pending}

structure Locked (p : Profile child pending batch) (s : State child pending) : Prop where
  locked : s.handleGuard = true
  noHistory : NoHistory p s

structure Watched (p : Profile child pending batch) (s : State child pending) : Prop where
  unlocked : s.handleGuard = false -> Routed p s
  locked : s.handleGuard = true -> Locked p s

theorem Routed.watched (h : Routed p s) : Watched p s where
  unlocked := fun _ => h
  locked := fun hlocked => ⟨hlocked, h.noHistory_of_locked hlocked⟩

theorem Locked.watched (h : Locked p s) : Watched p s where
  unlocked := by
    intro hunlocked
    rw [h.locked] at hunlocked
    cases hunlocked
  locked := fun _ => h

theorem Locked.frame (h : Locked p s) (hguard : next.handleGuard = s.handleGuard)
    (hreads : next.reads = s.reads) : Locked p next where
  locked := hguard.trans h.locked
  noHistory := by
    intro r hr
    rw [hreads] at hr
    exact h.noHistory r hr

theorem Locked.startMissed (h : Locked p s) {r : pending} (hmissed : p.IsHistory r = false) :
    Locked p (s.startRead r) where
  locked := h.locked
  noHistory := h.noHistory.startRead hmissed

variable {b : Base child}

theorem Locked.unsubscribe (h : Locked p s) (ec : Error) : Locked p (b.unsubscribe ec s) where
  locked := unsubscribe_handleGuard ec
  noHistory := by
    intro r hr
    rw [unsubscribe_reads] at hr
    exact h.noHistory r hr

theorem keeping_locked (p : Profile child pending batch) (b : Base child) :
    Keeping b (fun r => p.IsHistory r = false) (Locked p) where
  setChild := fun _ hs => hs.frame rfl rfl
  confirm := fun _ _ hs => hs.frame rfl rfl
  called := fun _ _ hs => hs.frame rfl rfl
  unsubscribe := fun ec hs => hs.unsubscribe ec
  postRead := fun hs => hs.frame rfl rfl
  startRead := fun hmissed hs => hs.startMissed hmissed

/-- A callback passes the event on, or unsubscribes a subscription that is registered. -/
theorem eventAppeared_unless (hregistered : s.registered = true) (hhistory : NoHistory p s)
    (e : Resolved) : Handler.Unless (Locked p) (b.eventAppeared e) s
      (Except.ok (), s.passOn [e]) := by
  unfold Handler.Unless
  rw [eventAppeared_run]
  split
  · right
    rw [unsubscribeByKey_of_registered (show
      (s.called (Callback.eventAppeared e none)).registered = true from hregistered)]
    unfold Base.fail
    split
    · rename_i hlocked
      exact ⟨hlocked, hhistory⟩
    · constructor
      · exact unsubscribe_handleGuard _
      · intro r hr
        rw [unsubscribe_reads] at hr
        exact hhistory r hr
  · exact Or.inl rfl

theorem keepingBase_locked (p : Profile child pending batch) (b : Base child) :
    KeepingBase b (Locked p) where
  called := fun _ hs => hs.frame rfl rfl
  unsubscribe := fun ec hs => hs.unsubscribe ec
  erase := fun hs => hs.frame rfl rfl
  answered := fun hs => hs.frame rfl rfl
  setDeadline := fun _ hs => hs.frame rfl rfl
  fault := fun _ _ hs => hs.frame rfl rfl

end Locked

/-- What a class does so that none of its handlers unlocks the guard. -/
structure Locks (c : Class child pending batch) (p : Profile child pending batch) : Prop where
  missed : forall {r} result, p.IsHistory r = false ->
    Handler.Keeps (Locked p) (c.onRead r result)
  buffer : Handler.Keeps (Locked p) c.readSubscriptionEvents

theorem Catchup.locks (settings : CatchupSubscriptionSettings) (key : Guid) (user : User) :
    Locks (Catchup.subscription key user settings) Catchup.profile where
  missed := by
    intro r result hhistory
    cases hhandler : r.handler with
    | history => exact absurd (decide_eq_true hhandler) (ne_true_of_eq_false hhistory)
    | missed count =>
        exact (Catchup.guards_onRead_missed settings (keeping_locked _ _).guarding hhandler
          (fun _ _ _ => rfl) result).keeps
  buffer := (Catchup.guards_readSubscriptionEvents settings (keeping_locked _ _).guarding).keeps

theorem CatchupAll.locks (settings : CatchupSubscriptionSettings) (key : Guid)
    (user : User) : Locks (CatchupAll.subscription key user settings) CatchupAll.profile where
  missed := by
    intro r result hhistory
    cases hhandler : r.handler with
    | history => exact absurd (decide_eq_true hhandler) (ne_true_of_eq_false hhistory)
    | missed count =>
        exact (CatchupAll.guards_onRead_missed settings (keeping_locked _ _).guarding hhandler
          (fun _ _ _ => rfl) result).keeps
  buffer := (CatchupAll.guards_readSubscriptionEvents settings (keeping_locked _ _).guarding).keeps

theorem Kind.locks (kind : Kind child pending batch) (key : Guid) (user : User) :
    Locks (kind.subscription key user) kind.profile := by
  cases kind with
  | volatile => exact ⟨fun {r} => (nomatch r), Handler.keeps_pure _⟩
  | persistent autoAck => exact ⟨fun {r} => (nomatch r), Handler.keeps_pure _⟩
  | catchup fromEventNumber settings => exact Catchup.locks settings key user
  | catchupAll fromPosition settings => exact CatchupAll.locks settings key user

/-!
# Every run

While the guard is not locked no step disturbs the run.
-/

section Steps

variable {c : Class child pending batch} {p : Profile child pending batch}
  {s next : State child pending}

theorem step_locked (hlocks : Locks c p) (h : Locked p s) {i : Input batch}
    (hstep : step c s i = some next) : Locked p next := by
  have hkeeping := keepingBase_locked p c.toBase
  have hposted : forall j, Locked p (s.takePosted j) := fun _ => h.frame rfl rfl
  by_cases hread : exists j result, i = Input.readCompleted j result
  · rcases hread with ⟨j, result, rfl⟩
    cases stepped_of_step hstep with
    | @readCompleted _ _ r hread =>
        have hmissed := h.noHistory r (List.mem_of_getElem? hread)
        have htaken : Locked p (s.takeRead j) :=
          ⟨h.locked, fun r' hr' => h.noHistory r' (List.mem_of_mem_eraseIdx hr')⟩
        exact hkeeping.settleRead result (hlocks.missed result hmissed _ htaken)
  · push Not at hread
    apply hkeeping.step h hread ?_ hposted (fun _ j => hlocks.buffer _ (hposted j)) hstep
    intro message _ hlistening
    have hunlocked := hlistening.unlocked
    rw [h.locked] at hunlocked
    cases hunlocked

theorem undisturbed_of_unlocked (h : Routed p s) (hunlocked : s.handleGuard = false)
    (user : User) (i : Input batch) : Undisturbed p user s i := by
  cases i with
  | received message =>
      intro hunsubscribing
      rw [(h.unlocked hunlocked).right.right] at hunsubscribing
      cases hunsubscribing
  | readCompleted i result =>
      cases hread : s.reads[i]? with
      | none => simp [Undisturbed, hread]
      | some r => simp [Undisturbed, hread, hunlocked]
  | posted i => trivial
  | expired => trivial
  | completed => trivial
  | unsubscribe => trivial

theorem step_watched (hsound : Sound c p) (hlocks : Locks c p) (h : Watched p s)
    {i : Input batch} (hstep : step c s i = some next) : Watched p next := by
  cases hguard : s.handleGuard with
  | false =>
      have hrouted := h.unlocked hguard
      exact (step_routed hsound hrouted
        (undisturbed_of_unlocked hrouted hguard c.user i) hstep).watched
  | true => exact (step_locked hlocks (h.locked hguard) hstep).watched

end Steps

theorem run_watched (kind : Kind child pending batch) (key : Guid) (user : User)
    {inputs : List (Input batch)} {s : State child pending}
    (hrun : run (step (kind.subscription key user)) kind.started inputs = some s) :
    Watched kind.profile s :=
  run_preserves (fun h hstep => step_watched (kind.sound key user) (kind.locks key user) h hstep)
    kind.started_routed.watched hrun

/-!
# The packages that end a subscription

A drop, a refusal, or a command that the kind does not know.  Where no way is open the
unsubscription that follows opens one.
-/

def Kind.isPersistent : Kind child pending batch -> Bool
  | volatile => false
  | persistent _ => true
  | catchup _ _ => false
  | catchupAll _ _ => false

def Kind.Ends (kind : Kind child pending batch) : ServerMessage -> Prop
  | .subscriptionDropped _ => True
  | .notAuthenticated => True
  | .badRequest => True
  | .notHandled _ => True
  | .other => True
  | .subscriptionConfirmation _ => kind.isPersistent = true
  | .streamEventAppeared _ => kind.isPersistent = true
  | .persistentSubscriptionConfirmation _ => kind.isPersistent = false
  | .persistentSubscriptionStreamEventAppeared _ => kind.isPersistent = false

/-- The drops from which the switch of the base class returns early. -/
def Swallowed : ServerMessage -> Prop
  | .subscriptionDropped response =>
      read response.reason = .persistentSubscriptionDeleted ∨
        read response.reason = .subscriberMaxCountReached
  | _ => False

/-- Only a persistent subscription handles its drops before its base does. -/
def Kind.Swallows (kind : Kind child pending batch) (message : ServerMessage) : Prop :=
  kind.isPersistent = false ∧ Swallowed message

def Posted.error? : Posted -> Option Error
  | Posted.dropped ec => some ec
  | Posted.readSubscriptionEvents => none

/-- The ways to `dropped` that are open, by the errors they are going to report. -/
def routes (s : State child pending) : List Error :=
  s.posted.filterMap Posted.error? ++
    if s.unsubscribing then [Error.subscription .unsubscribed] else []

/-- The subscription has ended, and exactly one way to `dropped` is open. -/
structure EndsOnce (s : State child pending) : Prop where
  locked : s.handleGuard = true
  unsubscribed : s.subscribed = false
  route : exists ec, routes s = [ec] ∧ ec.NonSuccess

section Routes

variable {b : Base child} {s : State child pending} {message : ServerMessage}

theorem no_posted_errors (hpending : pendingDrops s = 0) :
    s.posted.filterMap Posted.error? = [] := by
  rw [List.filterMap_eq_nil_iff]
  intro closure hclosure
  have hnot := List.countP_eq_zero.mp hpending closure hclosure
  cases closure with
  | dropped ec => exact absurd rfl hnot
  | readSubscriptionEvents => rfl

theorem routes_unsubscribe (hpending : pendingDrops s = 0)
    (hunsubscribing : s.unsubscribing = false) (ec : Error) :
    routes (b.unsubscribe ec s) = [ec] := by
  have hnone := no_posted_errors hpending
  by_cases hself : ec = Error.subscription .unsubscribed
  · have hposted : (b.unsubscribe ec s).posted = s.posted := by
      unfold Base.unsubscribe
      rw [if_pos hself]
      rfl
    have hrequest : (b.unsubscribe ec s).unsubscribing = true := by
      unfold Base.unsubscribe
      rw [if_pos hself]
    rw [routes, hposted, hrequest, hnone, hself]
    rfl
  · have hposted : (b.unsubscribe ec s).posted = s.posted ++ [Posted.dropped ec] := by
      unfold Base.unsubscribe
      rw [if_neg hself]
      rfl
    have hrequest : (b.unsubscribe ec s).unsubscribing = false := by
      unfold Base.unsubscribe
      rw [if_neg hself]
      exact hunsubscribing
    rw [routes, hposted, hrequest, List.filterMap_append, hnone]
    rfl

theorem unsubscribe_endsOnce (hpending : pendingDrops s = 0)
    (hunsubscribing : s.unsubscribing = false) {ec : Error} (hec : ec.NonSuccess) :
    EndsOnce (b.unsubscribe ec s) where
  locked := unsubscribe_handleGuard ec
  unsubscribed := by
    unfold Base.unsubscribe
    split <;> rfl
  route := ⟨ec, routes_unsubscribe hpending hunsubscribing ec, hec⟩

theorem onPackageReceived_unsubscribes (hmessage : ¬ Swallowed message) :
    exists ec : Error, ec.NonSuccess ∧
      b.onPackageReceived message s = b.unsubscribe ec s := by
  cases message with
  | subscriptionDropped response =>
      cases hreason : read response.reason with
      | unsubscribed =>
          exists Error.subscription .unsubscribed
          exact ⟨Error.subscription_nonSuccess _, by simp [Base.onPackageReceived, hreason]⟩
      | accessDenied =>
          exists Error.subscription .accessDenied
          exact ⟨Error.subscription_nonSuccess _, by simp [Base.onPackageReceived, hreason]⟩
      | notFound =>
          exists Error.subscription .notFound
          exact ⟨Error.subscription_nonSuccess _, by simp [Base.onPackageReceived, hreason]⟩
      | persistentSubscriptionDeleted => exact absurd (Or.inl hreason) hmessage
      | subscriberMaxCountReached => exact absurd (Or.inr hreason) hmessage
  | notAuthenticated =>
      exact ⟨Error.subscription .notAuthenticated, Error.subscription_nonSuccess _, rfl⟩
  | badRequest => exact ⟨Error.communication .badRequest, Error.communication_nonSuccess _, rfl⟩
  | notHandled response =>
      cases hsubscribed : s.subscribed with
      | true =>
          exists Error.subscription .unknown
          exact ⟨Error.subscription_nonSuccess _, by
            simp [Base.onPackageReceived, hsubscribed]⟩
      | false =>
          exists Error.connection .maxOperationRetries
          exact ⟨Error.connection_nonSuccess _, by
            simp [Base.onPackageReceived, hsubscribed]⟩
  | _ => exact ⟨Error.communication .serverError, Error.communication_nonSuccess _, rfl⟩

theorem onPackageReceived_swallowed (hmessage : Swallowed message) :
    b.onPackageReceived message s = s := by
  cases message with
  | subscriptionDropped response =>
      unfold Base.onPackageReceived
      rcases hmessage with hreason | hreason
      · simp only [hreason]
      · simp only [hreason]
  | _ => cases hmessage

end Routes

/-!
# What a registered subscription makes of them

A package that the class leaves to its base either unsubscribes the subscription or is
swallowed.
-/

section Registered

variable {c : Class child pending batch} {s : State child pending} {message : ServerMessage}

theorem receive_delegated (hrequest : s.unsubscribing = false)
    (hregistered : s.registered = true) (hguard : s.handleGuard = false)
    (hderived : (c.onPackageReceived message).runOn s = (Except.ok false, s)) :
    ((c.receive message).runOn s).2 = c.toBase.onPackageReceived message s := by
  simp [Class.receive, Base.entry, hrequest, hregistered, hguard, hderived]

/-- The kinds leave these packages to their base, but for the drops of a persistent
subscription. -/
theorem Kind.delegates (kind : Kind child pending batch) (key : Guid) (user : User)
    (hends : kind.Ends message)
    (hdrop : forall response, message = .subscriptionDropped response ->
      kind.isPersistent = false) (s : State child pending) :
    ((kind.subscription key user).onPackageReceived message).runOn s =
      (Except.ok false, s) := by
  cases kind with
  | volatile =>
      cases message with
      | subscriptionConfirmation response => cases hends
      | streamEventAppeared response => cases hends
      | _ => rfl
  | persistent autoAck =>
      cases message with
      | persistentSubscriptionConfirmation response => cases hends
      | persistentSubscriptionStreamEventAppeared response => cases hends
      | subscriptionDropped response => cases hdrop response rfl
      | _ => rfl
  | catchup fromEventNumber settings =>
      cases message with
      | subscriptionConfirmation response => cases hends
      | streamEventAppeared response => cases hends
      | _ => rfl
  | catchupAll fromPosition settings =>
      cases message with
      | subscriptionConfirmation response => cases hends
      | streamEventAppeared response => cases hends
      | _ => rfl

/-- A persistent subscription unsubscribes through its entry in the subscriptions map. -/
theorem receive_persistentDrop (key : Guid) (user : User) (autoAck : Bool)
    {s : State Persistent.Child Empty} (hrequest : s.unsubscribing = false)
    (hregistered : s.registered = true) (hguard : s.handleGuard = false)
    (response : SubscriptionDropped) :
    (((Persistent.subscription key user autoAck).receive
        (.subscriptionDropped response)).runOn s).2 =
      (Persistent.base key user).unsubscribe
        (Error.subscription (Persistent.dropError (read response.reason))) s := by
  have hfail : (Persistent.base key user).fail
      (Error.subscription (Persistent.dropError (read response.reason))) s =
        (Persistent.base key user).unsubscribe
          (Error.subscription (Persistent.dropError (read response.reason))) s := by
    rw [Base.fail, hguard]
    rfl
  have hderived : ((Persistent.subscription key user autoAck).onPackageReceived
      (.subscriptionDropped response)).runOn s =
        (Except.ok true, (Persistent.base key user).unsubscribe
          (Error.subscription (Persistent.dropError (read response.reason))) s) := by
    simp only [Persistent.subscription, Persistent.onPackageReceived, Handler.runOn_bind,
      unsubscribeByKey_of_registered hregistered, hfail, Handler.runOn_pure]
  rw [receive_handled hrequest hregistered hguard hderived]

theorem Kind.receive_ends (kind : Kind child pending batch) (key : Guid) (user : User)
    (hrequest : s.unsubscribing = false) (hregistered : s.registered = true)
    (hguard : s.handleGuard = false) (hends : kind.Ends message)
    (hmessage : ¬ kind.Swallows message) :
    exists (b : Base child) (ec : Error), ec.NonSuccess ∧
      (((kind.subscription key user).receive message).runOn s).2 = b.unsubscribe ec s := by
  by_cases hdrop : forall response, message = .subscriptionDropped response ->
      kind.isPersistent = false
  · have hnot : ¬ Swallowed message := by
      intro hswallowed
      cases message with
      | subscriptionDropped response => exact hmessage ⟨hdrop response rfl, hswallowed⟩
      | _ => cases hswallowed
    have hderived := kind.delegates key user hends hdrop s
    rw [receive_delegated hrequest hregistered hguard hderived]
    rcases onPackageReceived_unsubscribes (b := (kind.subscription key user).toBase)
      (s := s) hnot with ⟨ec, hec, hrun⟩
    exact ⟨_, ec, hec, hrun⟩
  · push Not at hdrop
    rcases hdrop with ⟨response, rfl, hpersistent⟩
    cases kind with
    | persistent autoAck =>
        exact ⟨_, _, Error.subscription_nonSuccess _,
          receive_persistentDrop key user autoAck hrequest hregistered hguard response⟩
    | _ => exact absurd rfl hpersistent

theorem Kind.receive_swallowed (kind : Kind child pending batch) (key : Guid) (user : User)
    (hrequest : s.unsubscribing = false) (hregistered : s.registered = true)
    (hguard : s.handleGuard = false) (hends : kind.Ends message)
    (hmessage : kind.Swallows message) :
    (((kind.subscription key user).receive message).runOn s).2 = s := by
  have hderived := kind.delegates key user hends (fun _ _ => hmessage.left) s
  rw [receive_delegated hrequest hregistered hguard hderived]
  exact onPackageReceived_swallowed hmessage.right

/-- In every reachable state in which a subscription is registered and its guard is not
locked, a package that ends it does so with one way to `dropped`, unless the kind swallows
it. -/
theorem receive_endsOnce_iff (kind : Kind child pending batch) (key : Guid) (user : User)
    {inputs : List (Input batch)} {s : State child pending}
    (hrun : run (step (kind.subscription key user)) kind.started inputs = some s)
    (hregistered : s.registered = true) (hguard : s.handleGuard = false)
    {message : ServerMessage} (hends : kind.Ends message) :
    EndsOnce (((kind.subscription key user).receive message).runOn s).2 <->
      ¬ kind.Swallows message := by
  have hopen := ((run_watched kind key user hrun).unlocked hguard).unlocked hguard
  have hpending := hopen.right.left
  have hrequest := hopen.right.right
  constructor
  · intro hended hswallows
    have hlocked := hended.locked
    rw [kind.receive_swallowed key user hrequest hregistered hguard hends hswallows,
      hguard] at hlocked
    cases hlocked
  · intro hmessage
    rcases kind.receive_ends key user hrequest hregistered hguard hends hmessage with
      ⟨b, ec, hec, hafter⟩
    rw [hafter]
    exact unsubscribe_endsOnce hpending hrequest hec

end Registered

theorem accessDenied_endsOnce :
    EndsOnce (((Kind.volatile.subscription (Guid.ofByte 1) User.passive).receive
      accessDenied).runOn Kind.volatile.started).2 := by
  have hrun : run (step (Kind.volatile.subscription (Guid.ofByte 1) User.passive))
      Kind.volatile.started [] = some Kind.volatile.started := rfl
  apply (receive_endsOnce_iff Kind.volatile (Guid.ofByte 1) User.passive hrun rfl rfl
    (show Kind.volatile.Ends accessDenied from trivial)).mpr
  rintro ⟨_, hreason | hreason⟩
  · cases hreason
  · cases hreason

def subscriptionDeleted : ServerMessage :=
  ServerMessage.subscriptionDropped { reason := some .persistentSubscriptionDeleted }

theorem subscriptionDeleted_swallowed :
    Kind.volatile.Ends subscriptionDeleted ∧ Kind.volatile.started.registered = true ∧
      Kind.volatile.started.handleGuard = false ∧
      ¬ EndsOnce (((Kind.volatile.subscription (Guid.ofByte 1) User.passive).receive
        subscriptionDeleted).runOn Kind.volatile.started).2 := by
  refine ⟨trivial, rfl, rfl, ?_⟩
  intro hended
  have hlocked := hended.locked
  cases hlocked

end Subscription
end EventStoreClient
