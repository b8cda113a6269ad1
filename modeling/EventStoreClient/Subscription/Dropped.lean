import EventStoreClient.Subscription.Sound

/-!
# A dropped subscription

The handle guard stops the packages that come through the subscriptions map, but not the
answers to the reads of missed events, whose handlers pass events on and unsubscribe
whatever has happened to the subscription.
-/

namespace EventStoreClient
namespace Subscription

open Buffer Connection Foundation Operations Wire

variable {child pending batch : Type}

/-!
# Steps that are not disturbed

What a read of missed events may complete with once `dropped` has been called, and which
steps leave the run undisturbed.
-/

/-- What a missed-events read completes with passes nothing on to a dropped
subscription. -/
def Harmless (p : Profile child pending batch) (s : State child pending) :
    Except Error batch -> Prop
  | Except.ok slice =>
      (forall c, c ∈ s.calls -> c.isDropped = false) ∨ p.missedEvents s.child slice = []
  | Except.error _ => False

instance (p : Profile child pending batch) (s : State child pending)
    (result : Except Error batch) : Decidable (Harmless p s result) :=
  match result with
  | Except.ok _ => inferInstanceAs (Decidable (_ ∨ _))
  | Except.error _ => inferInstanceAs (Decidable False)

/-- The `dropped` callback leaves the handler of the answer to the unsubscribe request,
if it calls `unsubscribe()`, whose entry has been erased.  The request is then called once
more if its timer had expired before. -/
def AnsweredInTime (user : User) (s : State child pending) : Prop :=
  s.unsubscribing = true -> s.deadline = Timer.queued WaitResult.expired ->
    user.onDropped (s.calls ++ [Callback.dropped (Error.subscription .unsubscribed)]) = false

instance (user : User) (s : State child pending) : Decidable (AnsweredInTime user s) :=
  inferInstanceAs (Decidable (_ -> _ -> _))

/-- A read of missed events completes before the guard is locked, or harmlessly. -/
def Undisturbed (p : Profile child pending batch) (user : User) (s : State child pending) :
    Input batch -> Prop
  | Input.received _ => AnsweredInTime user s
  | Input.readCompleted i result =>
      match s.reads[i]? with
      | none => True
      | some r => p.IsHistory r = true ∨ s.handleGuard = false ∨ Harmless p s result
  | _ => True

instance decidableUndisturbed (p : Profile child pending batch) (user : User)
    (s : State child pending) : (i : Input batch) -> Decidable (Undisturbed p user s i)
  | Input.received _ => inferInstanceAs (Decidable (AnsweredInTime user s))
  | Input.readCompleted i result =>
      match hread : s.reads[i]? with
      | none => isTrue (by simp [Undisturbed, hread])
      | some r =>
          decidable_of_iff
            (p.IsHistory r = true ∨ s.handleGuard = false ∨ Harmless p s result)
            (by simp [Undisturbed, hread])
  | Input.posted _ => inferInstanceAs (Decidable True)
  | Input.expired => inferInstanceAs (Decidable True)
  | Input.completed => inferInstanceAs (Decidable True)
  | Input.unsubscribe => inferInstanceAs (Decidable True)

/-!
# Steps

Each step opens a way to `dropped`, takes the one that is open, or leaves the ways alone:
the answer to the request, its timeout, and the posted closure.
-/

section Steps

variable {c : Class child pending batch} {p : Profile child pending batch}
  {s next : State child pending}

theorem routed_settle {after : Except Fault Unit × State child pending}
    (h : Routed p after.2) : Routed p (settle after) := by
  rcases after with ⟨r, s⟩
  cases r with
  | ok _ => exact h
  | error fault => exact h.frame rfl rfl rfl h.locked_idle id id (Or.inr ⟨rfl, rfl⟩)

theorem routed_settleReceived {after : Except Fault Unit × State child pending}
    (h : Routed p after.2) : Routed p (settleReceived after) := by
  rcases after with ⟨r, s⟩
  cases r with
  | ok _ => exact h
  | error fault =>
      refine h.frame rfl rfl rfl h.locked_idle id ?_ (Or.inr ⟨rfl, rfl⟩)
      rintro ⟨hunsubscribing, hreceiving | harmed⟩
      · cases hreceiving
      · exact ⟨hunsubscribing, Or.inr harmed⟩

theorem routed_entry (hsound : Sound c p) (h : Routed p s) (hregistered : s.registered = true)
    (message : ServerMessage) :
    Routed p ((c.entry c.onPackageReceived message).runOn s).2 := by
  have hhistory := h.noHistory_of_registered hregistered
  cases hguard : s.handleGuard with
  | true => simpa [Base.entry, hguard] using h
  | false =>
      have hreceived := hsound.received message ⟨h.undropped hguard, hhistory⟩ hguard
      simp only [Base.entry, Handler.runOn_bind, Handler.runOn_get, hguard]
      rcases hrun : (c.onPackageReceived message).runOn s with ⟨r, after⟩
      rw [hrun] at hreceived
      cases r with
      | error fault => simpa [hrun] using hreceived
      | ok handled =>
          cases handled with
          | true => simpa [hrun] using hreceived
          | false =>
              have hunchanged : after = s := by
                have hfalse : ((c.onPackageReceived message).runOn s).1 = Except.ok false := by
                  rw [hrun]
                have hsame := hsound.received_false hfalse
                rw [hrun] at hsame
                exact hsame
              subst hunchanged
              simpa [hrun] using
                h.onPackageReceived hsound.shutdown_idle hguard hhistory message

theorem Routed.locked_of_unsubscribing (h : Routed p s)
    (hunsubscribing : s.unsubscribing = true) : s.handleGuard = true := by
  by_contra hguard
  rw [Bool.not_eq_true] at hguard
  rw [(h.unlocked hguard).right.right] at hunsubscribing
  cases hunsubscribing

def answered (s : State child pending) : State child pending :=
  { s with
    deadline := s.deadline.cancel
    registered := false }

theorem unsubscribeAnswered_run (b : Base child) :
    b.unsubscribeAnswered.runOn s =
      (if b.user.onDropped (s.calls ++ [Callback.dropped (Error.subscription .unsubscribed)])
        then Except.error (Fault.outOfRange b.key) else Except.ok (),
        (answered s).called (Callback.dropped (Error.subscription .unsubscribed))) := by
  have hregistered : (answered s).registered = false := rfl
  simp only [Base.unsubscribeAnswered, Handler.runOn_bind, Handler.runOn_modify]
  exact dropped_run hregistered _

def erased (s : State child pending) : State child pending :=
  { s with registered := false }

theorem postedDropped_run (b : Base child) (ec : Error) :
    (b.postedDropped ec).runOn s =
      (if b.user.onDropped (s.calls ++ [Callback.dropped ec]) then
        Except.error (Fault.outOfRange b.key) else Except.ok (),
        (erased s).called (Callback.dropped ec)) := by
  have hregistered : (erased s).registered = false := rfl
  simp only [Base.postedDropped, Handler.runOn_bind, Handler.runOn_modify]
  exact dropped_run hregistered ec

theorem receive_unregistered (hunsubscribing : s.unsubscribing = false)
    (hregistered : s.registered = false) (message : ServerMessage) :
    (c.receive message).runOn s = (Except.ok (), s) := by
  simp [Class.receive, hunsubscribing, hregistered]

theorem routed_answered (h : Routed p s) (hreceiving : s.receiving = true)
    (hunsubscribing : s.unsubscribing = true) (hintime : AnsweredInTime c.user s)
    (message : ServerMessage) :
    Routed p (settleReceived ((c.receive message).runOn s)) := by
  have hways := h.awaiting ⟨hunsubscribing, Or.inl hreceiving⟩
  have hlocked := h.locked_of_unsubscribing hunsubscribing
  have hhistory := h.noHistory_of_locked hlocked
  simp only [Class.receive, Handler.runOn_bind, Handler.runOn_get, hunsubscribing, if_true,
    unsubscribeAnswered_run]
  split
  · rename_i hagain
    split at hagain
    · cases hagain
    · cases hagain
      have hclosed : ¬ Awaiting { answered s with unsubscribing := false } := by
        rintro ⟨hrequest, _⟩
        cases hrequest
      have hframe : Routed p { answered s with unsubscribing := false } :=
        h.frame rfl rfl rfl h.locked_idle (fun hrequest => by cases hrequest)
          (fun hawaiting => absurd hawaiting hclosed) (Or.inl hhistory)
      exact hframe.called_dropped hways.left hways.right hlocked hclosed _
  · rename_i fault after hagain
    split at hagain
    · rename_i hunsubscribes
      cases hagain
      let failed : State child pending :=
        { answered s with
          faults := s.faults ++ [Fault.outOfRange c.key]
          receiving := false }
      have hclosed : ¬ Awaiting failed := by
        rintro ⟨_, hreceives | harmed⟩
        · cases hreceives
        · have hexpired := (Timer.armed_cancel_iff s.deadline).mp harmed
          rw [hintime hunsubscribing hexpired] at hunsubscribes
          cases hunsubscribes
      have hframe : Routed p failed :=
        h.frame rfl rfl rfl h.locked_idle (fun _ => hunsubscribing)
          (fun hawaiting => absurd hawaiting hclosed) (Or.inl hhistory)
      exact hframe.called_dropped hways.left hways.right hlocked hclosed _
    · cases hagain

theorem routed_received (hsound : Sound c p) (h : Routed p s)
    (hreceiving : s.receiving = true) (hintime : AnsweredInTime c.user s)
    (message : ServerMessage) :
    Routed p (settleReceived ((c.receive message).runOn s)) := by
  cases hunsubscribing : s.unsubscribing with
  | true => exact routed_answered h hreceiving hunsubscribing hintime message
  | false =>
      apply routed_settleReceived
      cases hregistered : s.registered with
      | true =>
          simpa [Class.receive, hunsubscribing, hregistered] using
            routed_entry hsound h hregistered message
      | false =>
          rw [receive_unregistered hunsubscribing hregistered]
          exact h

theorem Routed.history_alone (h : Routed p s) {i : Nat} {r : pending}
    (hread : s.reads[i]? = some r) (hhistory : p.IsHistory r = true) :
    (s.takeRead i).reads = [] := by
  have hfirst := h.history_first r (List.mem_of_getElem? hread) hhistory
  rcases List.getElem?_eq_some_iff.mp hread with ⟨hi, _⟩
  rw [hfirst.right.right] at hi
  obtain rfl : i = 0 := Nat.lt_one_iff.mp hi
  rw [State.takeRead, hfirst.right.right]
  rfl

/-- The handler of a read of the history is called with the read taken from the list. -/
theorem routed_history (hsound : Sound c p) (h : Routed p s) {i : Nat} {r : pending}
    (hread : s.reads[i]? = some r) (hhistory : p.IsHistory r = true)
    (result : Except Error batch) :
    Routed p ((c.onRead r result).runOn (s.takeRead i)).2 := by
  have hfirst := h.history_first r (List.mem_of_getElem? hread) hhistory
  have hnone := h.history_alone hread hhistory
  have hrest : NoHistory p (s.takeRead i) := by
    intro r' hr'
    rw [hnone] at hr'
    cases hr'
  have hframe : Routed p (s.takeRead i) :=
    h.frame rfl rfl rfl h.locked_idle id id (Or.inl hrest)
  exact hsound.history result hhistory
    { undropped := hframe.undropped hfirst.left
      reads_eq := hnone
      unlocked := hfirst.left
      unregistered := hfirst.right.left }

theorem Routed.noHistory_of_missed (h : Routed p s) {r : pending} (hmem : r ∈ s.reads)
    (hmissed : p.IsHistory r = false) : NoHistory p s := by
  intro r' hr'
  by_contra hfirst
  rw [Bool.not_eq_false] at hfirst
  have honly := (h.history_first r' hr' hfirst).right.right
  rw [honly, List.mem_singleton] at hmem
  rw [hmem, hfirst] at hmissed
  cases hmissed

/-- The handler of a read of missed events is called while the guard is not locked, or
while it does no harm. -/
theorem routed_missed (hsound : Sound c p) (h : Routed p s) {i : Nat} {r : pending}
    (hread : s.reads[i]? = some r) (hmissed : p.IsHistory r = false)
    (result : Except Error batch) (hok : s.handleGuard = false ∨ Harmless p s result) :
    Routed p ((c.onRead r result).runOn (s.takeRead i)).2 := by
  have hothers := h.noHistory_of_missed (List.mem_of_getElem? hread) hmissed
  have hrest : NoHistory p (s.takeRead i) :=
    fun r' hr' => hothers r' (List.mem_of_mem_eraseIdx hr')
  have hframe : Routed p (s.takeRead i) :=
    h.frame rfl rfl rfl h.locked_idle id id (Or.inl hrest)
  cases hguard : s.handleGuard with
  | false =>
      exact hsound.missed result hmissed ⟨hframe.undropped hguard, hrest⟩ (Or.inl hguard)
  | true =>
      rcases hok with hunlocked | hharmless
      · rw [hunlocked] at hguard
        cases hguard
      · cases result with
        | error e => cases hharmless
        | ok slice =>
            rcases hharmless with hcalls | hnothing
            · have hdrops : drops s = 0 := List.countP_eq_zero.mpr fun call hcall => by
                rw [hcalls call hcall]
                exact Bool.false_ne_true
              exact hsound.missed _ hmissed ⟨⟨hframe, hdrops⟩, hrest⟩ (Or.inr ⟨slice, rfl⟩)
            · exact hsound.missed_idle hmissed hframe hrest (h.locked_idle hguard) hnothing

theorem routed_readCompleted (hsound : Sound c p) (h : Routed p s) {i : Nat} {r : pending}
    (hread : s.reads[i]? = some r) (result : Except Error batch)
    (hok : p.IsHistory r = true ∨ s.handleGuard = false ∨ Harmless p s result) :
    Routed p ((c.onRead r result).runOn (s.takeRead i)).2 := by
  cases hhistory : p.IsHistory r with
  | true => exact routed_history hsound h hread hhistory result
  | false =>
      rcases hok with hfirst | hmissed
      · rw [hfirst] at hhistory
        cases hhistory
      · exact routed_missed hsound h hread hhistory result hmissed

theorem pendingDrops_eraseIdx {i : Nat} {closure : Posted}
    (hposted : s.posted[i]? = some closure) :
    pendingDrops (s.takePosted i) +
      (if closure.isDropped then 1 else 0) = pendingDrops s := by
  rcases List.getElem?_eq_some_iff.mp hposted with ⟨hi, hclosure⟩
  have hsplit : s.posted.take i ++ closure :: s.posted.drop (i + 1) = s.posted := by
    rw [← hclosure, List.getElem_cons_drop, List.take_append_drop]
  have hcount : pendingDrops s =
      (s.posted.take i ++ closure :: s.posted.drop (i + 1)).countP Posted.isDropped := by
    rw [hsplit, pendingDrops]
  rw [hcount, pendingDrops, State.takePosted, List.eraseIdx_eq_take_drop_succ, List.countP_append,
    List.countP_append, List.countP_cons, Nat.add_assoc]

theorem Routed.locked_of_pending (h : Routed p s) (hpending : pendingDrops s ≠ 0) :
    s.handleGuard = true := by
  by_contra hguard
  rw [Bool.not_eq_true] at hguard
  exact hpending (h.unlocked hguard).right.left

theorem routed_postedDropped (h : Routed p s) {i : Nat} {ec : Error}
    (hposted : s.posted[i]? = some (Posted.dropped ec)) :
    Routed p ((c.runPosted (Posted.dropped ec)).runOn (s.takePosted i)).2 := by
  have hone : pendingDrops (s.takePosted i) + 1 = pendingDrops s :=
    pendingDrops_eraseIdx hposted
  have hways := h.one_way
  have hdrops : drops s = 0 := by omega
  have hlocked := h.locked_of_pending (by omega)
  have hclosed : ¬ Awaiting s := by
    intro hawaiting
    have hnone := (h.awaiting hawaiting).right
    omega
  have hpending : pendingDrops (erased (s.takePosted i)) = 0 := by
    have hsame : pendingDrops (erased (s.takePosted i)) = pendingDrops (s.takePosted i) := rfl
    omega
  have hframe : Routed p (erased (s.takePosted i)) := by
    refine ⟨?_, fun hawaiting => absurd hawaiting hclosed, ?_, h.no_event_after,
      h.locked_idle, ?_⟩
    · rw [hpending]
      exact le_trans (Nat.le_add_right _ _) h.one_way
    · intro hguard
      rw [show s.handleGuard = false from hguard] at hlocked
      cases hlocked
    · intro r hr hfirst
      rw [h.noHistory_of_locked hlocked r hr] at hfirst
      cases hfirst
  rw [Class.runPosted, postedDropped_run]
  exact hframe.called_dropped hdrops hpending hlocked hclosed ec

/-- A posted step of reading the buffer finds it empty once the guard is locked. -/
theorem routed_postedRead (hsound : Sound c p) (h : Routed p s) {i : Nat}
    (hposted : s.posted[i]? = some Posted.readSubscriptionEvents) :
    Routed p ((c.runPosted Posted.readSubscriptionEvents).runOn (s.takePosted i)).2 := by
  have hsame : pendingDrops (s.takePosted i) = pendingDrops s :=
    pendingDrops_eraseIdx hposted
  have hframe : Routed p (s.takePosted i) :=
    h.frame rfl hsame rfl h.locked_idle id id (Or.inr ⟨rfl, rfl⟩)
  cases hguard : s.handleGuard with
  | false => exact (hsound.buffer _ (hframe.undropped hguard)).routed
  | true =>
      rw [Class.runPosted, hsound.buffer_idle (s := s.takePosted i) (h.locked_idle hguard)]
      exact hframe

theorem routed_posted (hsound : Sound c p) (h : Routed p s) {i : Nat} {closure : Posted}
    (hposted : s.posted[i]? = some closure) :
    Routed p ((c.runPosted closure).runOn (s.takePosted i)).2 := by
  cases closure with
  | dropped ec => exact routed_postedDropped h hposted
  | readSubscriptionEvents => exact routed_postedRead hsound h hposted

theorem routed_completed (hsound : Sound c p) (h : Routed p s) {result : WaitResult}
    (hdeadline : s.deadline = Timer.queued result) :
    Routed p ((c.completed result).runOn (s.setDeadline Timer.idle)).2 := by
  have hidle : Routed p (s.setDeadline Timer.idle) := by
    refine h.frame rfl rfl rfl h.locked_idle id ?_ (Or.inr ⟨rfl, rfl⟩)
    rintro ⟨hunsubscribing, hreceiving | harmed⟩
    · exact ⟨hunsubscribing, Or.inl hreceiving⟩
    · exact absurd harmed Timer.not_armed_idle
  cases result with
  | aborted => exact hidle
  | expired =>
      cases hunsubscribing : s.unsubscribing with
      | false =>
          have hnone : (s.setDeadline Timer.idle).unsubscribing = false := hunsubscribing
          simpa [Base.completed, hnone] using hidle
      | true =>
          have hways := h.awaiting ⟨hunsubscribing, Or.inr (Or.inr hdeadline)⟩
          have hhistory := h.noHistory_of_locked (h.locked_of_unsubscribing hunsubscribing)
          let expired : State child pending :=
            { s with
              deadline := Timer.idle
              unsubscribing := false }
          have hframe : Undropped p expired :=
            ⟨h.frame rfl rfl rfl h.locked_idle (fun hrequest => by cases hrequest)
              (fun hawaiting => by cases hawaiting.left) (Or.inl hhistory), hways.left⟩
          have hdropped := hframe.unsubscribe (b := c.toBase) hways.right rfl hhistory
            (hsound.shutdown_idle _) (Error.connection .operationTimeout)
          have hsome : (s.setDeadline Timer.idle).unsubscribing = true := hunsubscribing
          simp only [Base.completed, Handler.runOn_bind, Handler.runOn_get, hsome, if_true,
            Handler.runOn_modify]
          exact hdropped.routed

theorem step_routed (hsound : Sound c p) (h : Routed p s) {i : Input batch}
    (hok : Undisturbed p c.user s i) (hstep : step c s i = some next) : Routed p next := by
  cases stepped_of_step hstep with
  | received message hreceiving => exact routed_received hsound h hreceiving hok message
  | readCompleted i result hread =>
      simp only [Undisturbed, hread] at hok
      have hafter := routed_readCompleted hsound h hread result hok
      rcases settleRead_eq result ((c.onRead _ result).runOn (s.takeRead i)) with heq | heq
      · rw [heq]
        exact routed_settle hafter
      · rw [heq]
        exact routed_settleReceived hafter
  | posted i hposted => exact routed_settle (routed_posted hsound h hposted)
  | expired ht =>
      rcases Timer.expire?_eq_some ht with ⟨hwaiting, rfl⟩
      refine h.frame rfl rfl rfl h.locked_idle id ?_ (Or.inr ⟨rfl, rfl⟩)
      rintro ⟨hunsubscribing, _⟩
      exact ⟨hunsubscribing, Or.inr (Or.inl hwaiting)⟩
  | completed hresult =>
      exact routed_settle (routed_completed hsound h (Timer.result?_eq_some hresult))
  | unsubscribe =>
      apply routed_settle
      cases hregistered : s.registered with
      | true =>
          rw [unsubscribeByKey_of_registered hregistered]
          exact (h.fail hsound.shutdown_idle hregistered _).left
      | false =>
          rw [unsubscribeByKey_of_not_registered hregistered]
          exact h

end Steps

/-!
# Runs

In a run in which no step is disturbed nothing comes after `dropped`.
-/

namespace Kind

def profile : Kind child pending batch -> Profile child pending batch
  | volatile => unbuffered Unit
  | persistent _ => unbuffered Persistent.Child
  | catchup _ _ => Catchup.profile
  | catchupAll _ _ => CatchupAll.profile

theorem sound (kind : Kind child pending batch) (key : Guid) (user : User) :
    Sound (kind.subscription key user) kind.profile := by
  cases kind with
  | volatile => exact Volatile.sound key user
  | persistent autoAck => exact Persistent.sound key user autoAck
  | catchup fromEventNumber settings => exact Catchup.sound settings key user
  | catchupAll fromPosition settings => exact CatchupAll.sound settings key user

theorem subscription_user (kind : Kind child pending batch) (key : Guid) (user : User) :
    (kind.subscription key user).user = user := by
  cases kind <;> rfl

end Kind

theorem constructed_undropped (p : Profile child pending batch) (members : child) :
    Undropped p (constructed members) where
  drops_eq := rfl
  routed :=
    { one_way := Nat.zero_le 1
      awaiting := fun _ => ⟨rfl, rfl⟩
      unlocked := fun _ => ⟨rfl, rfl, rfl⟩
      no_event_after := List.Pairwise.nil
      locked_idle := fun hlocked => by cases hlocked
      history_first := fun _ hr => by cases hr }

theorem Kind.started_routed (kind : Kind child pending batch) :
    Routed kind.profile kind.started := by
  have hstart : forall {child pending batch : Type} (p : Profile child pending batch)
      (members : child), Undropped p (Base.asyncStart (constructed members)) :=
    fun p members =>
      ⟨(constructed_undropped p members).routed.baseStart rfl (fun _ hr => by cases hr),
        rfl⟩
  cases kind with
  | volatile => exact ((hstart _ _).send _).routed
  | persistent autoAck => exact ((hstart _ _).send _).routed
  | catchup fromEventNumber settings =>
      exact (constructed_undropped _ _).routed.startHistory rfl rfl rfl _
  | catchupAll fromPosition settings =>
      exact (constructed_undropped _ _).routed.startHistory rfl rfl rfl _

/-- In a run in which every read of missed events completes before the guard is locked, or
harmlessly, and no answer to an unsubscribe request is handled late by a `dropped` callback
that unsubscribes again, `dropped` is called at most once, and no event appears after it. -/
theorem run_staysDropped (kind : Kind child pending batch) (key : Guid) (user : User)
    {inputs : List (Input batch)} {last : State child pending}
    (hok : EveryStep (step (kind.subscription key user)) (Undisturbed kind.profile user)
      kind.started inputs)
    (hrun : run (step (kind.subscription key user)) kind.started inputs = some last) :
    StaysDropped last := by
  have huser := kind.subscription_user key user
  have hrouted : Routed kind.profile last :=
    run_invariant
      (fun hs hi hstep => step_routed (kind.sound key user) hs (by rwa [huser]) hstep)
      kind.started_routed hok hrun
  exact hrouted.staysDropped

def streamSlice (isEndOfStream : Bool) (eventNumbers : List Int) : StreamEventsSlice :=
  { fromEventNumber := 0
    nextEventNumber := 0
    lastEventNumber := 0
    stream := []
    readDirection := ReadDirection.forward
    isEndOfStream := isEndOfStream
    events := eventNumbers.map fun n => { event := some (recordedEvent n), link := none } }

def confirmation (lastEventNumber : Int) : ServerMessage :=
  ServerMessage.subscriptionConfirmation
    { lastCommitPosition := some 0
      lastEventNumber := some lastEventNumber }

def accessDenied : ServerMessage :=
  ServerMessage.subscriptionDropped { reason := some .accessDenied }

def catchupFromStart : Kind Catchup.Child (Read Int) StreamEventsSlice :=
  Kind.catchup 0 CatchupSubscriptionSettings.built

/-- The missed events are read before the server drops the subscription, which the user
has asked for as well. -/
def droppedAfterReading : List (Input StreamEventsSlice) :=
  [Input.readCompleted 0 (Except.ok (streamSlice true [0])),
    Input.received (confirmation 2),
    Input.readCompleted 0 (Except.ok (streamSlice true [1])),
    Input.posted 0, Input.received accessDenied, Input.unsubscribe, Input.posted 0]

theorem droppedAfterReading_staysDropped :
    exists last, run (step (catchupFromStart.subscription (Guid.ofByte 1) User.passive))
        catchupFromStart.started droppedAfterReading = some last ∧ StaysDropped last := by
  obtain ⟨last, hlast⟩ : exists last,
      run (step (catchupFromStart.subscription (Guid.ofByte 1) User.passive))
        catchupFromStart.started droppedAfterReading = some last :=
    Option.isSome_iff_exists.mp (by decide)
  exact ⟨last, hlast,
    run_staysDropped catchupFromStart (Guid.ofByte 1) User.passive (by decide) hlast⟩

/-- The server drops the subscription while the missed events are being read. -/
def droppedWhileReading : List (Input StreamEventsSlice) :=
  [Input.readCompleted 0 (Except.ok (streamSlice true [0])),
    Input.received (confirmation 2), Input.received accessDenied, Input.posted 0,
    Input.readCompleted 0 (Except.ok (streamSlice true [1]))]

theorem droppedWhileReading_appears :
    exists last, run (step (catchupFromStart.subscription (Guid.ofByte 1) User.passive))
        catchupFromStart.started droppedWhileReading = some last ∧ ¬ StaysDropped last := by
  obtain ⟨last, hlast⟩ : exists last,
      run (step (catchupFromStart.subscription (Guid.ofByte 1) User.passive))
        catchupFromStart.started droppedWhileReading = some last :=
    Option.isSome_iff_exists.mp (by decide)
  refine ⟨last, hlast, ?_⟩
  intro h
  have hcalls : (run (step (catchupFromStart.subscription (Guid.ofByte 1) User.passive))
      catchupFromStart.started droppedWhileReading).map
        (fun s => s.calls.map Callback.isDropped) = some [false, true, false] := by
    decide
  rw [hlast, Option.map_some, Option.some_inj] at hcalls
  have hpairwise : (last.calls.map Callback.isDropped).Pairwise
      fun earlier later => earlier = true -> later = true :=
    List.pairwise_map.mpr h.no_event_after
  rw [hcalls] at hpairwise
  exact absurd hpairwise (by decide)

end Subscription
end EventStoreClient
