import EventStoreClient.Session.Steps

/-!
# The connection in a session

What each step of the connection sends, starts and answers.
-/

namespace EventStoreClient
namespace Session

open Connection Foundation Operations Wire

def heartbeatResponse (key : Guid) : Package :=
  { command := TcpCommand.heartbeatResponseCommand
    correlationId := key
    message := [] }

/-- What a step adds to the packages, to the operations started and to the answers. -/
structure Grows (sent : List Package) (started : List Guid)
    (answered : List (Guid × ErrorCode)) (s next : Operation.State) : Prop where
  sent_eq : next.sent = s.sent ++ sent
  started_eq : next.world.started = s.world.started ++ started
  answers_eq : next.world.answers = s.world.answers ++ answered
  subscriptions_eq : next.subscriptions = s.subscriptions

namespace Grows

variable {s next : Operation.State}

theorem of_eq (hsent : next.sent = s.sent) (hstarted : next.world.started = s.world.started)
    (hanswers : next.world.answers = s.world.answers)
    (hsubscriptions : next.subscriptions = s.subscriptions) : Grows [] [] [] s next where
  sent_eq := by rw [hsent, List.append_nil]
  started_eq := by rw [hstarted, List.append_nil]
  answers_eq := by rw [hanswers, List.append_nil]
  subscriptions_eq := hsubscriptions

theorem trans {sent sent' : List Package} {started started' : List Guid}
    {answered answered' : List (Guid × ErrorCode)} {mid : Operation.State}
    (h : Grows sent started answered s mid) (h' : Grows sent' started' answered' mid next) :
    Grows (sent ++ sent') (started ++ started') (answered ++ answered') s next where
  sent_eq := by rw [h'.sent_eq, h.sent_eq, List.append_assoc]
  started_eq := by rw [h'.started_eq, h.started_eq, List.append_assoc]
  answers_eq := by rw [h'.answers_eq, h.answers_eq, List.append_assoc]
  subscriptions_eq := h'.subscriptions_eq.trans h.subscriptions_eq

theorem of_counted {sent : List Package} {started : List Guid}
    {answered : List (Guid × ErrorCode)} (h : Grows sent started answered s.counted next) :
    Grows sent started answered s next :=
  ⟨h.sent_eq, h.started_eq, h.answers_eq, h.subscriptions_eq⟩

theorem append_nil {sent : List Package} {started : List Guid}
    {answered : List (Guid × ErrorCode)} (h : Grows sent started answered s next) :
    Grows (sent ++ []) started answered s next := by
  rwa [List.append_nil]

theorem asyncSendWithHandler (p : Package) (s : Operation.State) :
    Grows [p] [p.correlationId] [] s (Operation.asyncSendWithHandler p s) where
  sent_eq := rfl
  started_eq := rfl
  answers_eq := (List.append_nil _).symm
  subscriptions_eq := rfl

theorem asyncSendAll (packages : List Package) (s : Operation.State) :
    Grows packages (packages.map Package.correlationId) [] s
      (Operation.asyncSendAll packages s) := by
  induction packages generalizing s with
  | nil => exact of_eq rfl rfl rfl rfl
  | cons p packages ih => exact (asyncSendWithHandler p s).trans (ih _)

/-- A call of an entry answers its operation, and starts those of the user's code. -/
theorem finish (nested : List Package) (key : Guid) (ec : ErrorCode) (t : Timer)
    (s : Operation.State) :
    Grows nested (nested.map Package.correlationId) [(key, ec)] s
      (Operation.finish nested key ec t s) := by
  have hanswer : Grows [] [] [(key, ec)] s
      (Operation.answer key ec (Operation.setDeadline key t s)) :=
    { sent_eq := (List.append_nil _).symm
      started_eq := (List.append_nil _).symm
      answers_eq := rfl
      subscriptions_eq := rfl }
  have hnested := hanswer.trans (asyncSendAll nested _)
  exact
    { sent_eq := hnested.sent_eq
      started_eq := hnested.started_eq
      answers_eq := hnested.answers_eq
      subscriptions_eq := hnested.subscriptions_eq }

end Grows

/-!
# One step

For a package that is for no entry at most a heartbeat response is sent.  A completion
calls the entry of its own operation, and no other.
-/

section Steps

variable {s next : Operation.State}

theorem step_asyncSend {p : Package}
    (hstep : Operation.step s (.asyncSend p) = some next) :
    Operation.Fresh [p] s ∧ Grows [p] [p.correlationId] [] s next := by
  rw [Operation.step] at hstep
  split at hstep
  · rename_i hfresh
    cases hstep
    exact ⟨hfresh, Grows.asyncSendWithHandler p s⟩
  · cases hstep

theorem step_unsubscribe {key : Guid}
    (hstep : Operation.step s (.unsubscribe key) = some next) :
    next = { s with subscriptions := s.subscriptions.erase key } := by
  cases hstep
  rfl

theorem step_expired {key : Guid} (hstep : Operation.step s (.expired key) = some next) :
    Grows [] [] [] s next := by
  rw [Operation.step, Option.map_eq_some_iff] at hstep
  rcases hstep with ⟨t, _, rfl⟩
  exact Grows.of_eq rfl rfl rfl rfl

variable {p : Package} {newGuid : Guid} {nested : List Package}

theorem step_received_operation (hbooks : Operation.Books none s)
    (hkey : p.correlationId ∈ s.operations)
    (hstep : Operation.step s (.received p newGuid nested) = some next) :
    Grows nested (nested.map Package.correlationId) [(p.correlationId, none)] s next := by
  rw [Operation.step] at hstep
  split at hstep
  · cases hstep
    rw [Operation.receive_finish hbooks hkey]
    exact (Grows.finish nested p.correlationId none _ s.counted).of_counted
  · cases hstep

theorem step_received_subscription (hbooks : Operation.Books none s)
    (hkey : p.correlationId ∉ s.operations) (hsubscribed : p.correlationId ∈ s.subscriptions)
    (hstep : Operation.step s (.received p newGuid nested) = some next) :
    Grows nested (nested.map Package.correlationId) [] s next := by
  rw [Operation.step] at hstep
  split at hstep
  · cases hstep
    rcases OperationsMap.entry_of_mem hsubscribed with ⟨e, he⟩
    rw [BasicTcpConnection.receive_subscription hkey he, hbooks.subscription_eq he]
    simp only [Operation.call, Handler.runOn_modify]
    exact (Grows.asyncSendAll nested s.counted).of_counted
  · cases hstep

theorem step_received_unregistered (hkey : p.correlationId ∉ s.operations)
    (hsubscribed : p.correlationId ∉ s.subscriptions)
    (hstep : Operation.step s (.received p newGuid nested) = some next) :
    Grows [] [] [] s next ∨ Grows [heartbeatResponse newGuid] [] [] s next := by
  rw [Operation.step] at hstep
  split at hstep
  · cases hstep
    rw [BasicTcpConnection.receive_unregistered _ newGuid hkey hsubscribed]
    split
    · exact Or.inr
        { sent_eq := rfl
          started_eq := (List.append_nil _).symm
          answers_eq := (List.append_nil _).symm
          subscriptions_eq := rfl }
    · exact Or.inl (Grows.of_eq rfl rfl rfl rfl)
  · cases hstep

theorem step_completed_expired (hbooks : Operation.Books none s) {key : Guid}
    (hexpired : s.world.deadline key = Timer.queued WaitResult.expired)
    (hkey : key ∈ s.operations)
    (hstep : Operation.step s (.completed key nested) = some next) :
    Grows nested (nested.map Package.correlationId)
      [(key, some (Error.connection .operationTimeout))] s next := by
  rcases Operation.step_completed hbooks hstep with
    ⟨_, ⟨haborted, _⟩ | ⟨_, _, rfl⟩ | ⟨_, habsent, _⟩⟩
  · rw [hexpired] at haborted
    cases haborted
  · exact Grows.finish nested key _ Timer.idle s
  · exact absurd hkey habsent

theorem step_completed_other (hbooks : Operation.Books none s) {key : Guid}
    (hother : ¬ (s.world.deadline key = Timer.queued WaitResult.expired ∧
      key ∈ s.operations))
    (hstep : Operation.step s (.completed key nested) = some next) :
    Grows [] [] [] s next := by
  rcases Operation.step_completed hbooks hstep with
    ⟨_, ⟨_, rfl⟩ | ⟨hexpired, hkey, _⟩ | ⟨_, _, rfl⟩⟩
  · exact Grows.of_eq rfl rfl rfl rfl
  · exact absurd ⟨hexpired, hkey⟩ hother
  · exact Grows.of_eq rfl rfl rfl rfl

end Steps

end Session
end EventStoreClient
