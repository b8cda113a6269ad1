import EventStoreClient.Subscription.Terminal

/-!
# The answer to an unsubscribe request

The request is registered under the correlation id of its subscription.  While it is, it
takes every package with this id for its answer, and once both entries have been erased a
package with this id is not expected at all.
-/

namespace EventStoreClient
namespace Subscription

open Buffer Connection Foundation Operations Wire

variable {child pending batch : Type}

/-!
# Requests and answers

How many unsubscribe requests have been sent, and which of them were answered.
-/

abbrev unsubscribedError : Error := Error.subscription .unsubscribed

/-- How often `dropped` has been called with the error `unsubscribed`. -/
def unsubscribedCalls (s : State child pending) : Nat :=
  s.calls.count (Callback.dropped unsubscribedError)

def requests (s : State child pending) : Nat := s.sent.count Request.unsubscribeFromStream

def ServerMessage.IsAnswer : ServerMessage -> Prop
  | .subscriptionDropped _ => True
  | _ => False

def ServerMessage.IsEvent : ServerMessage -> Prop
  | .streamEventAppeared _ => True
  | .persistentSubscriptionStreamEventAppeared _ => True
  | _ => False

def Input.IsAnswer : Input batch -> Bool
  | .received (.subscriptionDropped _) => true
  | _ => false

/-- A subscription, and whether it has sent an unsubscribe request after which no
`subscription_dropped` has been received. -/
structure Recorded (child pending : Type) where
  state : State child pending
  awaiting : Bool

def record (r : Recorded child pending) (i : Input batch) (next : State child pending) :
    Recorded child pending :=
  { state := next
    awaiting :=
      if requests r.state < requests next then true
      else if i.IsAnswer then false
      else r.awaiting }

def recordedStep (c : Class child pending batch) (r : Recorded child pending)
    (i : Input batch) : Option (Recorded child pending) :=
  (step c r.state i).map (record r i)

def recorded (s : State child pending) : Recorded child pending :=
  { state := s
    awaiting := false }

/-- What should hold of a step.  A package is expected if one of the two maps has an entry
for it. -/
structure Completion (r : Recorded child pending) (i : Input batch)
    (next : State child pending) : Prop where
  only_answer : unsubscribedCalls r.state < unsubscribedCalls next ->
    i.IsAnswer = true ∧ r.awaiting = true
  own_timeout : i = Input.completed -> r.state.unsubscribing = true ->
    r.state.deadline.result? = some WaitResult.expired ->
    Posted.dropped (Error.connection .operationTimeout) ∈ next.posted
  event_passed_by : forall message, i = Input.received message -> message.IsEvent ->
    r.state.unsubscribing = true -> next.unsubscribing = true
  expected : forall message, i = Input.received message -> r.awaiting = true ->
    i.IsAnswer = false -> r.state.unsubscribing = true ∨ r.state.registered = true

def CompletedByAnswer (c : Class child pending batch) (r : Recorded child pending)
    (i : Input batch) : Prop :=
  forall next, step c r.state i = some next -> Completion r i next

/-- Of the packages after a request the answer comes first, but for those that find the
request timed out and the entry in the subscriptions map not erased. -/
def AnswerFirst (r : Recorded child pending) (i : Input batch) : Prop :=
  forall message, i = Input.received message -> r.state.receiving = true ->
    r.awaiting = true -> i.IsAnswer = true ∨
      (r.state.unsubscribing = false ∧ r.state.registered = true)

/-!
# What the handlers leave as it is

A step completes a request only with a package that finds it registered, and a package
that finds it registered completes it.
-/

/-- Since a state with so many calls and requests, with a request under way or not, and
with packages being awaited or not, nothing has completed a request. -/
structure Uncompleted (calls sent : Nat) (unsubscribing receiving : Bool)
    (s : State child pending) : Prop where
  calls_eq : unsubscribedCalls s = calls
  posted_ne : Posted.dropped unsubscribedError ∉ s.posted
  sent_le : sent ≤ requests s
  request : s.unsubscribing = true -> unsubscribing = true ∨ sent < requests s
  received : s.receiving = true -> receiving = true

section Handlers

variable {s next : State child pending} {calls sent : Nat}
  {unsubscribing receiving : Bool}
  {b : Base child} {c : Class child pending batch}

theorem Uncompleted.frame (h : Uncompleted calls sent unsubscribing receiving s)
    (hcalls : next.calls = s.calls)
    (hposted : forall closure, closure ∈ next.posted -> closure ∈ s.posted)
    (hsent : next.sent = s.sent)
    (hrequest : next.unsubscribing = true -> s.unsubscribing = true)
    (hreceiving : next.receiving = true -> s.receiving = true) :
    Uncompleted calls sent unsubscribing receiving next where
  calls_eq := by
    rw [unsubscribedCalls, hcalls]
    exact h.calls_eq
  posted_ne := fun hmem => h.posted_ne (hposted _ hmem)
  sent_le := by
    rw [requests, hsent]
    exact h.sent_le
  request := by
    intro hnext
    rw [requests, hsent]
    exact h.request (hrequest hnext)
  received := fun hnext => h.received (hreceiving hnext)

theorem Uncompleted.called (h : Uncompleted calls sent unsubscribing receiving s)
    {callback : Callback}
    (hother : callback ≠ Callback.dropped unsubscribedError) :
    Uncompleted calls sent unsubscribing receiving (s.called callback) where
  calls_eq := by
    rw [unsubscribedCalls, State.called, List.count_append, List.count_singleton,
      if_neg (by simpa using hother)]
    exact h.calls_eq
  posted_ne := h.posted_ne
  sent_le := h.sent_le
  request := h.request
  received := h.received

/-- An unsubscription sends a request, or posts the call of `dropped` with another error. -/
theorem Uncompleted.unsubscribe (h : Uncompleted calls sent unsubscribing receiving s)
    (ec : Error) :
    Uncompleted calls sent unsubscribing receiving (b.unsubscribe ec s) := by
  by_cases hself : ec = unsubscribedError
  · rw [Base.unsubscribe, if_pos hself]
    have hrequests : requests s + 1 = (s.sent ++ [Request.unsubscribeFromStream]).count
        Request.unsubscribeFromStream := by
      simp [requests]
    constructor
    · exact h.calls_eq
    · exact h.posted_ne
    · show sent ≤ (s.sent ++ [Request.unsubscribeFromStream]).count _
      rw [← hrequests]
      exact Nat.le_succ_of_le h.sent_le
    · intro _
      right
      show sent < (s.sent ++ [Request.unsubscribeFromStream]).count _
      rw [← hrequests]
      exact Nat.lt_succ_of_le h.sent_le
    · exact h.received
  · rw [Base.unsubscribe, if_neg hself]
    constructor
    · exact h.calls_eq
    · intro hmem
      rcases List.mem_append.mp hmem with hold | hnew
      · exact h.posted_ne hold
      · rw [List.mem_singleton, Posted.dropped.injEq] at hnew
        exact hself hnew.symm
    · exact h.sent_le
    · exact h.request
    · exact h.received

theorem Uncompleted.send (h : Uncompleted calls sent unsubscribing receiving s) {request : Request}
    (hother : request ≠ Request.unsubscribeFromStream) :
    Uncompleted calls sent unsubscribing receiving (s.send request) := by
  have hrequests : requests (s.send request) = requests s := by
    rw [requests, State.send, List.count_append, List.count_singleton,
      if_neg (by simpa using hother), Nat.add_zero, requests]
  constructor
  · exact h.calls_eq
  · exact h.posted_ne
  · rw [hrequests]
    exact h.sent_le
  · rw [hrequests]
    exact h.request
  · exact h.received

theorem Uncompleted.postRead (h : Uncompleted calls sent unsubscribing receiving s) :
    Uncompleted calls sent unsubscribing receiving (s.post Posted.readSubscriptionEvents) where
  calls_eq := h.calls_eq
  posted_ne := by
    intro hmem
    rcases List.mem_append.mp hmem with hold | hnew
    · exact h.posted_ne hold
    · cases List.mem_singleton.mp hnew
  sent_le := h.sent_le
  request := h.request
  received := h.received

theorem keepingAll_uncompleted (b : Base child) (calls sent : Nat)
    (unsubscribing receiving : Bool) :
    KeepingAll b (Uncompleted calls sent unsubscribing receiving :
      State child pending -> Prop) where
  setChild := fun _ hs => hs.frame rfl (fun _ hmem => hmem) rfl id id
  confirm := fun _ _ hs => hs.frame rfl (fun _ hmem => hmem) rfl id id
  called := fun _ _ hs => hs.called (fun hdropped => nomatch hdropped)
  unsubscribe := fun ec hs => hs.unsubscribe ec
  postRead := fun hs => hs.postRead
  startRead := fun _ hs => hs.frame rfl (fun _ hmem => hmem) rfl id id
  start := fun hs => hs.frame rfl (fun _ hmem => hmem) rfl id id
  send := fun hother hs => hs.send hother

theorem keeps_dropped {ec : Error} (hother : ec ≠ unsubscribedError) :
    Handler.Keeps (Uncompleted calls sent unsubscribing receiving : State child pending -> Prop)
      (b.dropped ec) := by
  refine Handler.keeps_bind (Handler.keeps_modify fun s hs => hs.called ?_) fun _ =>
    Handler.keeps_bind Handler.keeps_get fun s => ?_
  · intro hdropped
    cases hdropped
    exact hother rfl
  · split
    · exact (keepingAll_uncompleted b calls sent unsubscribing receiving).unsubscribeByKey _
    · exact Handler.keeps_pure _

theorem Uncompleted.onPackageReceived (h : Uncompleted calls sent unsubscribing receiving s)
    (message : ServerMessage) :
    Uncompleted calls sent unsubscribing receiving (b.onPackageReceived message s) := by
  by_cases hswallowed : Swallowed message
  · rw [onPackageReceived_swallowed hswallowed]
    exact h
  · rcases onPackageReceived_unsubscribes (b := b) (s := s) hswallowed with ⟨ec, _, hrun⟩
    rw [hrun]
    exact h.unsubscribe ec

theorem Uncompleted.receive
    (hkeeps : c.Keeps (Uncompleted calls sent unsubscribing receiving))
    (h : Uncompleted calls sent unsubscribing receiving s) (hrequest : s.unsubscribing = false)
    (message : ServerMessage) :
    Uncompleted calls sent unsubscribing receiving ((c.receive message).runOn s).2 := by
  have hentry : Handler.Keeps (Uncompleted calls sent unsubscribing receiving)
      (c.entry c.onPackageReceived message) := by
    refine Handler.keeps_bind Handler.keeps_get fun s => ?_
    split
    · exact Handler.keeps_pure _
    · refine Handler.keeps_bind (hkeeps.received message) fun handled => ?_
      split
      · exact Handler.keeps_pure _
      · exact Handler.keeps_modify fun s hs => hs.onPackageReceived message
  cases hregistered : s.registered with
  | true => simpa [Class.receive, hrequest, hregistered] using hentry s h
  | false => simpa [Class.receive, hrequest, hregistered] using h

theorem Uncompleted.runPosted (hkeeps : c.Keeps (Uncompleted calls sent unsubscribing receiving))
    (h : Uncompleted calls sent unsubscribing receiving s) {closure : Posted}
    (hother : closure ≠ Posted.dropped unsubscribedError) :
    Uncompleted calls sent unsubscribing receiving ((c.runPosted closure).runOn s).2 := by
  cases closure with
  | dropped ec =>
      have hec : ec ≠ unsubscribedError := by
        intro hself
        exact hother (by rw [hself])
      have hposted : Handler.Keeps (Uncompleted calls sent unsubscribing receiving)
          (c.postedDropped ec : Handles child pending Unit) :=
        Handler.keeps_bind
          (Handler.keeps_modify fun s hs => hs.frame rfl (fun _ hmem => hmem) rfl id id)
          fun _ => keeps_dropped hec
      exact hposted s h
  | readSubscriptionEvents => exact hkeeps.buffer s h

theorem Uncompleted.completed (h : Uncompleted calls sent unsubscribing receiving s)
    (result : WaitResult) :
    Uncompleted calls sent unsubscribing receiving ((b.completed result).runOn s).2 := by
  have hcompleted : Handler.Keeps (Uncompleted calls sent unsubscribing receiving)
      (b.completed result : Handles child pending Unit) := by
    cases result with
    | aborted => exact Handler.keeps_pure _
    | expired =>
        refine Handler.keeps_bind Handler.keeps_get fun s => ?_
        split
        · refine Handler.keeps_bind (Handler.keeps_modify fun s hs => ?_) fun _ => ?_
          · have hcancelled : Uncompleted calls sent unsubscribing receiving
                (s.setDeadline s.deadline.cancel) := hs.frame rfl (fun _ hmem => hmem) rfl id id
            exact hcancelled.unsubscribe _
          · exact Handler.keeps_modify fun s hs =>
              hs.frame rfl (fun _ hmem => hmem) rfl
                (fun hnext => absurd hnext Bool.false_ne_true) id
        · exact Handler.keeps_throw _
  exact hcompleted s h

theorem Uncompleted.settle {after : Except Fault Unit × State child pending}
    (h : Uncompleted calls sent unsubscribing receiving after.2) :
    Uncompleted calls sent unsubscribing receiving (settle after) := by
  rcases after with ⟨r, s⟩
  cases r with
  | ok _ => exact h
  | error fault => exact h.frame rfl (fun _ hmem => hmem) rfl id id

theorem Uncompleted.settleReceived {after : Except Fault Unit × State child pending}
    (h : Uncompleted calls sent unsubscribing receiving after.2) :
    Uncompleted calls sent unsubscribing receiving (settleReceived after) := by
  rcases after with ⟨r, s⟩
  cases r with
  | ok _ => exact h
  | error fault =>
      exact h.frame rfl (fun _ hmem => hmem) rfl id (fun hnext => absurd hnext Bool.false_ne_true)

theorem Uncompleted.step (hkeeps : c.Keeps (Uncompleted calls sent unsubscribing receiving))
    (h : Uncompleted calls sent unsubscribing receiving s) {i : Input batch}
    (hother : forall message, i = Input.received message -> s.unsubscribing = false)
    (hstep : Subscription.step c s i = some next) :
    Uncompleted calls sent unsubscribing receiving next := by
  cases i with
  | received message =>
      rw [Subscription.step] at hstep
      split at hstep
      · cases hstep
        exact (h.receive hkeeps (hother message rfl) message).settleReceived
      · cases hstep
  | readCompleted i result =>
      rw [Subscription.step, Option.map_eq_some_iff] at hstep
      rcases hstep with ⟨r, _, rfl⟩
      have htaken : Uncompleted calls sent unsubscribing receiving (s.takeRead i) :=
        h.frame rfl (fun _ hmem => hmem) rfl id id
      have hafter := hkeeps.read r result _ htaken
      rcases settleRead_eq result ((c.onRead r result).runOn (s.takeRead i)) with heq | heq
      · rw [heq]
        exact Uncompleted.settle hafter
      · rw [heq]
        exact Uncompleted.settleReceived hafter
  | posted i =>
      rw [Subscription.step, Option.map_eq_some_iff] at hstep
      rcases hstep with ⟨closure, hclosure, rfl⟩
      have htaken : Uncompleted calls sent unsubscribing receiving (s.takePosted i) :=
        h.frame rfl (fun _ hmem => List.mem_of_mem_eraseIdx hmem) rfl id id
      apply Uncompleted.settle
      apply htaken.runPosted hkeeps
      intro hself
      exact h.posted_ne (hself ▸ List.mem_of_getElem? hclosure)
  | expired =>
      rw [Subscription.step, Option.map_eq_some_iff] at hstep
      rcases hstep with ⟨t, _, rfl⟩
      exact h.frame rfl (fun _ hmem => hmem) rfl id id
  | completed =>
      rw [Subscription.step, Option.map_eq_some_iff] at hstep
      rcases hstep with ⟨result, _, rfl⟩
      have hidle : Uncompleted calls sent unsubscribing receiving (s.setDeadline Timer.idle) :=
        h.frame rfl (fun _ hmem => hmem) rfl id id
      exact (hidle.completed result).settle
  | unsubscribe =>
      cases hstep
      exact Uncompleted.settle
        ((keepingAll_uncompleted c.toBase calls sent unsubscribing receiving).unsubscribeByKey
          _ s h)

theorem answered_step (hrequest : s.unsubscribing = true) {message : ServerMessage}
    (hstep : Subscription.step c s (.received message) = some next) :
    unsubscribedCalls next = unsubscribedCalls s + 1 ∧ next.posted = s.posted ∧
      next.sent = s.sent ∧ (next.unsubscribing = true -> next.receiving = false) := by
  cases stepped_of_step hstep with
  | received _ _ =>
      have hcalls : (s.calls ++ [Callback.dropped unsubscribedError]).count
          (Callback.dropped unsubscribedError) = unsubscribedCalls s + 1 := by
        simp [unsubscribedCalls]
      simp only [Class.receive, Handler.runOn_bind, Handler.runOn_get, hrequest, if_true,
        unsubscribeAnswered_run]
      split
      · rename_i hrun
        split at hrun
        · cases hrun
        · cases hrun
          exact ⟨hcalls, rfl, rfl, fun hnext => absurd hnext Bool.false_ne_true⟩
      · rename_i hrun
        split at hrun
        · cases hrun
          exact ⟨hcalls, rfl, rfl, fun _ => rfl⟩
        · cases hrun

end Handlers

/-!
# Runs

The request that times out reports its own error.  An event that was in flight when the
user unsubscribed finds the request registered, and completes it.
-/

/-- What holds in every state: a posted call of `dropped` reports another error, and a
request that a package can still complete has not been answered. -/
structure Tracked (r : Recorded child pending) : Prop where
  posted_ne : Posted.dropped unsubscribedError ∉ r.state.posted
  awaiting : r.state.unsubscribing = true -> r.state.receiving = true -> r.awaiting = true

section Steps

variable {c : Class child pending batch} {r next : Recorded child pending}

theorem Tracked.uncompleted (h : Tracked r) :
    Uncompleted (unsubscribedCalls r.state) (requests r.state) r.state.unsubscribing
      r.state.receiving r.state where
  calls_eq := rfl
  posted_ne := h.posted_ne
  sent_le := le_rfl
  request := Or.inl
  received := id

theorem Tracked.step_cases (hkeeps : forall calls sent unsubscribing receiving,
      c.Keeps (Uncompleted calls sent unsubscribing receiving))
    (h : Tracked r) {i : Input batch} {after : State child pending}
    (hstep : step c r.state i = some after) :
    (exists message, i = Input.received message ∧ r.state.unsubscribing = true) ∨
      (forall message, i = Input.received message -> r.state.unsubscribing = false) ∧
        Uncompleted (unsubscribedCalls r.state) (requests r.state) r.state.unsubscribing
          r.state.receiving after := by
  by_cases hanswered : exists message, i = Input.received message ∧
      r.state.unsubscribing = true
  · exact Or.inl hanswered
  · have hother : forall message, i = Input.received message ->
        r.state.unsubscribing = false := by
      intro message hi
      rw [← Bool.not_eq_true]
      exact fun hrequest => hanswered ⟨message, hi, hrequest⟩
    exact Or.inr ⟨hother, h.uncompleted.step (hkeeps _ _ _ _) hother hstep⟩

theorem step_tracked (hkeeps : forall calls sent unsubscribing receiving,
      c.Keeps (Uncompleted calls sent unsubscribing receiving))
    (h : Tracked r) {i : Input batch} (hstep : recordedStep c r i = some next) :
    Tracked next := by
  rw [recordedStep, Option.map_eq_some_iff] at hstep
  rcases hstep with ⟨after, hstep, rfl⟩
  rcases h.step_cases hkeeps hstep with ⟨message, rfl, hrequest⟩ | ⟨hother, hafter⟩
  · rcases answered_step hrequest hstep with ⟨_, hposted, _, hreceiving⟩
    constructor
    · intro hmem
      have hold : Posted.dropped unsubscribedError ∈ after.posted := hmem
      rw [hposted] at hold
      exact h.posted_ne hold
    · intro hnext hreceives
      rw [show (record r (Input.received message) after).state.receiving = after.receiving
        from rfl, hreceiving hnext] at hreceives
      cases hreceives
  · constructor
    · exact hafter.posted_ne
    · intro hnext hreceives
      unfold record
      split
      · rfl
      · rename_i hnone
        rcases hafter.request hnext with hrequest | hsent
        · have hawaiting := h.awaiting hrequest (hafter.received hreceives)
          cases i with
          | received message =>
              rw [hother message rfl] at hrequest
              cases hrequest
          | _ => exact hawaiting
        · exact absurd hsent hnone

theorem completed_timeout {s after : State child pending}
    (hstep : step c s Input.completed = some after) (hrequest : s.unsubscribing = true)
    (hexpired : s.deadline.result? = some WaitResult.expired) :
    Posted.dropped (Error.connection .operationTimeout) ∈ after.posted := by
  have hidle : (s.setDeadline Timer.idle).unsubscribing = true := hrequest
  rw [step, hexpired, Option.map_some] at hstep
  cases hstep
  simp only [Base.completed, Handler.runOn_bind, Handler.runOn_get, hidle, if_true,
    Handler.runOn_modify]
  exact List.mem_append_right _ (List.mem_singleton_self _)

/-- A step completes requests as it should if and only if the answer comes first. -/
theorem Tracked.completedByAnswer_iff (hkeeps : forall calls sent unsubscribing receiving,
      c.Keeps (Uncompleted calls sent unsubscribing receiving))
    (h : Tracked r) (i : Input batch) : CompletedByAnswer c r i <-> AnswerFirst r i := by
  constructor
  · rintro hcompleted message rfl hreceiving hawaiting
    obtain ⟨after, hstep⟩ : exists after,
        step c r.state (.received message) = some after := by
      rw [step, if_pos hreceiving]
      exact ⟨_, rfl⟩
    have hcompletion := hcompleted after hstep
    cases hanswer : (Input.received message : Input batch).IsAnswer with
    | true => exact Or.inl rfl
    | false =>
        right
        have hrequest : r.state.unsubscribing = false := by
          rw [← Bool.not_eq_true]
          intro hrequest
          have hcalls := (answered_step hrequest hstep).left
          have honly := hcompletion.only_answer (by omega)
          rw [hanswer] at honly
          cases honly.left
        rcases hcompletion.expected message rfl hawaiting hanswer with hfound | hfound
        · rw [hrequest] at hfound
          cases hfound
        · exact ⟨hrequest, hfound⟩
  · intro hfirst after hstep
    have hreceiving : forall message, i = Input.received message ->
        r.state.receiving = true := by
      rintro message rfl
      cases stepped_of_step hstep with
      | received _ hreceiving => exact hreceiving
    -- what the request takes is its answer
    have hanswer : forall message, i = Input.received message ->
        r.state.unsubscribing = true -> i.IsAnswer = true ∧ r.awaiting = true := by
      intro message hi hrequest
      have hawaiting := h.awaiting hrequest (hreceiving message hi)
      rcases hfirst message hi (hreceiving message hi) hawaiting with hanswer | ⟨hnone, _⟩
      · exact ⟨hanswer, hawaiting⟩
      · rw [hrequest] at hnone
        cases hnone
    constructor
    · intro hcalls
      rcases h.step_cases hkeeps hstep with ⟨message, hi, hrequest⟩ | ⟨_, hafter⟩
      · exact hanswer message hi hrequest
      · rw [hafter.calls_eq] at hcalls
        exact absurd hcalls (Nat.lt_irrefl _)
    · rintro rfl hrequest hexpired
      exact completed_timeout hstep hrequest hexpired
    · rintro message rfl hevent hrequest
      have hanswered := (hanswer message rfl hrequest).left
      cases message with
      | subscriptionDropped response => cases hevent
      | _ => cases hanswered
    · rintro message rfl hawaiting hother
      rcases hfirst message rfl (hreceiving message rfl) hawaiting with hanswered | ⟨_, hfound⟩
      · rw [hanswered] at hother
        cases hother
      · exact Or.inr hfound

end Steps

theorem Kind.keeps_uncompleted (kind : Kind child pending batch) (key : Guid) (user : User)
    (calls sent : Nat) (unsubscribing receiving : Bool) :
    (kind.subscription key user).Keeps (Uncompleted calls sent unsubscribing receiving) :=
  kind.keeps key user fun b => keepingAll_uncompleted b calls sent unsubscribing receiving

theorem Kind.started_tracked (kind : Kind child pending batch) :
    Tracked (recorded kind.started) where
  posted_ne := by
    cases kind with
    | volatile => exact List.not_mem_nil
    | persistent autoAck => exact List.not_mem_nil
    | catchup fromEventNumber settings => exact List.not_mem_nil
    | catchupAll fromPosition settings => exact List.not_mem_nil
  awaiting := by
    intro hrequest
    cases kind <;> cases hrequest

/-- In a run of a subscription of any kind the requests are completed by their answers, and
the packages before an answer are expected, if and only if the first package after a request
is its answer, or finds the request timed out and the subscription still registered. -/
theorem run_completedByAnswer_iff (kind : Kind child pending batch) (key : Guid)
    (user : User) (inputs : List (Input batch)) :
    EveryStep (recordedStep (kind.subscription key user))
        (CompletedByAnswer (kind.subscription key user)) (recorded kind.started) inputs <->
      EveryStep (recordedStep (kind.subscription key user)) AnswerFirst
        (recorded kind.started) inputs :=
  everyStep_congr
    (fun h _ hstep => step_tracked (kind.keeps_uncompleted key user) h hstep)
    (fun i h => h.completedByAnswer_iff (kind.keeps_uncompleted key user) i)
    kind.started_tracked inputs

def requested : List (Input Empty) :=
  [Input.received (confirmation 0), Input.unsubscribe]

def inFlight : Input Empty :=
  Input.received (.streamEventAppeared
    { event := some
        { event := some (recordedEvent 1)
          link := none
          commitPosition := some 1
          preparePosition := some 1 } })

theorem inFlight_completes :
    ¬ EveryStep (recordedStep (Kind.volatile.subscription (Guid.ofByte 1) User.passive))
      (CompletedByAnswer (Kind.volatile.subscription (Guid.ofByte 1) User.passive))
      (recorded Kind.volatile.started) (requested ++ [inFlight]) := by
  intro h
  obtain ⟨r, hr⟩ : exists r,
      run (recordedStep (Kind.volatile.subscription (Guid.ofByte 1) User.passive))
        (recorded Kind.volatile.started) requested = some r :=
    Option.isSome_iff_exists.mp (by decide +kernel)
  have hcalls : (run (recordedStep (Kind.volatile.subscription (Guid.ofByte 1) User.passive))
      (recorded Kind.volatile.started) requested).bind (fun r =>
        (step (Kind.volatile.subscription (Guid.ofByte 1) User.passive) r.state inFlight).map
          fun next => decide (unsubscribedCalls r.state < unsubscribedCalls next)) =
        some true := by
    decide +kernel
  rw [hr, Option.bind_some, Option.map_eq_some_iff] at hcalls
  rcases hcalls with ⟨next, hstep, hmore⟩
  have honly := ((h.last hr) next hstep).only_answer (of_decide_eq_true hmore)
  cases honly.left

end Subscription
end EventStoreClient
