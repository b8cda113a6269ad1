import EventStoreClient.Connection.Dispatch
import EventStoreClient.Error
import EventStoreClient.Foundation.Runs
import EventStoreClient.Foundation.Timer
import Mathlib.Data.List.Nodup
import Mathlib.Logic.Function.Basic
import Mathlib.Tactic.Tauto

/-!
# The life of an operation

`async_send` with a handler registers an entry and starts a timer.  The answer and the
timeout both call the entry and erase it, and only the cancellation of the timer keeps
them apart.
-/

namespace EventStoreClient
namespace Connection

open Foundation Wire

namespace Operation

/-!
# The program around the connection

`initiate` is `operation_op::initiate` and `completed` its `operator()`, the completion of
the timer; `asyncSendWithHandler` is the `async_send` that takes a handler.
-/

/-- The closures in the two maps.  The one of `operation_op` holds the user's handler and
the deadline of the operation it was made for. -/
inductive Entry where
  | operation (key : Guid)
  | subscription
  deriving DecidableEq

/-- What the closures work on: the operations started so far, their timers, the calls of
their users' handlers, and the faults that left a handler. -/
structure World where
  started : List Guid
  deadline : Guid -> Timer
  answers : List (Guid × ErrorCode)
  faults : List Fault

abbrev State := BasicTcpConnection Entry World

def initial : State :=
  { packageNo := 0
    operations := ∅
    subscriptions := ∅
    sent := []
    world :=
      { started := []
        deadline := fun _ => Timer.idle
        answers := []
        faults := [] } }

def setDeadline (key : Guid) (t : Timer) (s : State) : State :=
  { s with world := { s.world with deadline := Function.update s.world.deadline key t } }

def initiate (key : Guid) (s : State) : State :=
  let s : State :=
    { s with operations := s.operations.registerOp key (Entry.operation key) }
  setDeadline key Timer.waiting
    { s with world := { s.world with started := s.world.started ++ [key] } }

def asyncSendWithHandler (package : Package) (s : State) : State :=
  initiate package.correlationId (s.asyncSend package)

def asyncSendAll (packages : List Package) (s : State) : State :=
  packages.foldl (fun s package => asyncSendWithHandler package s) s

def answer (key : Guid) (ec : ErrorCode) (s : State) : State :=
  { s with world := { s.world with answers := s.world.answers ++ [(key, ec)] } }

/-- Run a closure.  The user's code that it calls starts the operations `nested`. -/
def call (nested : List Package) (ec : ErrorCode) (_ : Guid) :
    Entry -> Handler Fault State Unit
  | Entry.operation key => do
      modify (fun s => setDeadline key (s.world.deadline key).cancel s)
      modify (answer key ec)
      modify (asyncSendAll nested)
  | Entry.subscription =>
      modify (asyncSendAll nested)

def completed (nested : List Package) (key : Guid) (ec : ErrorCode) :
    Handler Fault State Unit := do
  match ec with
  -- operation has timed out
  | none =>
      let e <- BasicTcpConnection.operation key
      call nested (some (Error.connection .operationTimeout)) key e
      modify (BasicTcpConnection.eraseOperation key)
  -- response has been received in time
  | some (Error.asio .operationAborted) => pure ()
  | some ec =>
      if key ∈ (<- get).operations then
        let e <- BasicTcpConnection.operation key
        call nested (some ec) key e
        modify (BasicTcpConnection.eraseOperation key)

/-!
# Runs of a connection

A handler leaves its state to the event loop, which completes a wait with the error code
that its timer gives.  `Lifecycle` should hold in every state of every run.
-/

inductive Input where
  | asyncSend (package : Package)
  | subscribe (key : Guid)
  | unsubscribe (key : Guid)
  | received (package : Package) (newGuid : Guid) (nested : List Package)
  | expired (key : Guid)
  | completed (key : Guid) (nested : List Package)

/-- The correlation ids of new operations are distinct from all earlier ones. -/
def Fresh (packages : List Package) (s : State) : Prop :=
  (packages.map Package.correlationId).Nodup ∧
    forall p, p ∈ packages -> p.correlationId ∉ s.world.started

instance (packages : List Package) (s : State) : Decidable (Fresh packages s) :=
  inferInstanceAs (Decidable (_ ∧ forall p, p ∈ packages -> _))

def settle (after : Except Fault Unit × State) : State :=
  match after with
  | (Except.ok _, s) => s
  | (Except.error fault, s) =>
      { s with world := { s.world with faults := s.world.faults ++ [fault] } }

def waitErrorCode : WaitResult -> ErrorCode
  | WaitResult.expired => none
  | WaitResult.aborted => some (Error.asio .operationAborted)

def step (s : State) : Input -> Option State
  | Input.asyncSend package =>
      if Fresh [package] s then some (asyncSendWithHandler package s) else none
  | Input.subscribe key =>
      some { s with subscriptions := s.subscriptions.registerOp key Entry.subscription }
  | Input.unsubscribe key =>
      some { s with subscriptions := s.subscriptions.erase key }
  | Input.received package newGuid nested =>
      if Fresh nested s then
        some (settle
          ((BasicTcpConnection.receive (call nested none) newGuid package).runOn s))
      else none
  | Input.expired key =>
      (s.world.deadline key).expire?.map fun t => setDeadline key t s
  | Input.completed key nested =>
      match (s.world.deadline key).result? with
      | none => none
      | some result =>
          if Fresh nested s then
            some (settle ((completed nested key (waitErrorCode result)).runOn
              (setDeadline key Timer.idle s)))
          else none

/-- The operations whose handlers have been called, in the order of the calls. -/
def answered (s : State) : List Guid := s.world.answers.map Prod.fst

structure Lifecycle (s : State) : Prop where
  once : forall key, (answered s).count key ≤ 1
  answered_of_erased : forall key, key ∈ s.world.started -> key ∉ s.operations ->
    key ∈ answered s
  no_absent_lookup : s.world.faults = []

/-- The operation's timer has not expired with its completion still queued. -/
def NotQueuedExpired (key : Guid) (s : State) : Prop :=
  s.world.deadline key ≠ Timer.queued WaitResult.expired

instance (key : Guid) (s : State) : Decidable (NotQueuedExpired key s) :=
  inferInstanceAs (Decidable (_ ≠ _))

/-- A package for an operation is not handled between the expiry of the operation's
timer and the completion of the wait. -/
def InTime (s : State) : Input -> Prop
  | Input.received package _ _ => NotQueuedExpired package.correlationId s
  | _ => True

instance decidableInTime (s : State) : (i : Input) -> Decidable (InTime s i)
  | Input.received package _ _ =>
      inferInstanceAs (Decidable (NotQueuedExpired package.correlationId s))
  | Input.asyncSend _ => inferInstanceAs (Decidable True)
  | Input.subscribe _ => inferInstanceAs (Decidable True)
  | Input.unsubscribe _ => inferInstanceAs (Decidable True)
  | Input.expired _ => inferInstanceAs (Decidable True)
  | Input.completed _ _ => inferInstanceAs (Decidable True)

/-!
# The books of a connection

`inCall` is the operation whose entry is being called, which is answered but not erased
until the call returns.
-/

/-- Every operation is registered or answered, and not both outside of its call. -/
structure Books (inCall : Option Guid) (s : State) : Prop where
  entry_eq : forall {key e}, s.operations.lookup key = some e -> e = Entry.operation key
  subscription_eq : forall {key e}, s.subscriptions.lookup key = some e ->
    e = Entry.subscription
  started_iff : forall key,
    key ∈ s.world.started <-> key ∈ s.operations ∨ key ∈ answered s
  not_both : forall {key}, key ∈ s.operations -> key ∈ answered s -> inCall = some key
  inCall_answered : forall {key}, inCall = some key -> key ∈ answered s
  answered_nodup : (answered s).Nodup

theorem initial_books : Books none initial where
  entry_eq := by
    intro key e h
    cases h
  subscription_eq := by
    intro key e h
    cases h
  started_iff := by
    intro key
    simp [initial, answered]
  not_both := by
    intro key _ h
    cases h
  inCall_answered := by
    intro key h
    cases h
  answered_nodup := List.nodup_nil

section Books

variable {inCall : Option Guid} {s : State}

theorem Books.asyncSend (h : Books inCall s) {package : Package}
    (hnew : package.correlationId ∉ s.world.started) :
    Books inCall (asyncSendWithHandler package s) := by
  have hregistered : package.correlationId ∉ s.operations :=
    fun hmem => hnew ((h.started_iff _).mpr (Or.inl hmem))
  have hanswered : package.correlationId ∉ answered s :=
    fun hmem => hnew ((h.started_iff _).mpr (Or.inr hmem))
  constructor
  · intro key e he
    by_cases hkey : key = package.correlationId
    · subst hkey
      have hinsert : (s.operations.registerOp package.correlationId
          (Entry.operation package.correlationId)).lookup package.correlationId =
            some e := he
      rw [OperationsMap.registerOp_of_notMem hregistered, AList.lookup_insert] at hinsert
      cases hinsert
      rfl
    · have hold : (s.operations.registerOp package.correlationId
          (Entry.operation package.correlationId)).lookup key = some e := he
      rw [OperationsMap.lookup_registerOp_ne hkey] at hold
      exact h.entry_eq hold
  · exact h.subscription_eq
  · intro key
    have hold := h.started_iff key
    show key ∈ s.world.started ++ [package.correlationId] <->
      key ∈ s.operations.registerOp _ _ ∨ key ∈ answered s
    rw [List.mem_append, List.mem_singleton, OperationsMap.mem_registerOp, hold]
    tauto
  · intro key hkey hcalled
    rcases OperationsMap.mem_registerOp.mp hkey with rfl | hold
    · exact absurd hcalled hanswered
    · exact h.not_both hold hcalled
  · exact h.inCall_answered
  · exact h.answered_nodup

theorem asyncSendAll_induction {motive : State -> Prop}
    (hstep : forall {s : State} {package : Package},
      package.correlationId ∉ s.world.started -> motive s ->
        motive (asyncSendWithHandler package s))
    {packages : List Package} {s : State} (hfresh : Fresh packages s) (h : motive s) :
    motive (asyncSendAll packages s) := by
  induction packages generalizing s with
  | nil => exact h
  | cons package packages ih =>
      rcases hfresh with ⟨hnodup, hnew⟩
      rw [List.map_cons, List.nodup_cons] at hnodup
      apply ih
      · constructor
        · exact hnodup.right
        · intro p hp hstarted
          rcases List.mem_append.mp hstarted with hold | heq
          · exact hnew p (List.mem_cons_of_mem _ hp) hold
          · apply hnodup.left
            rw [← List.mem_singleton.mp heq]
            exact List.mem_map_of_mem hp
      · exact hstep (hnew package List.mem_cons_self) h

theorem Books.answer (h : Books none s) {key : Guid} (hkey : key ∈ s.operations)
    (t : Timer) (ec : ErrorCode) :
    Books (some key) (Operation.answer key ec (setDeadline key t s)) := by
  have hanswered : answered (Operation.answer key ec (setDeadline key t s)) =
      answered s ++ [key] := by
    simp [answered, Operation.answer, setDeadline]
  have hnew : key ∉ answered s := by
    intro hmem
    cases h.not_both hkey hmem
  constructor
  · exact h.entry_eq
  · exact h.subscription_eq
  · intro key'
    have hold := h.started_iff key'
    rw [hanswered, List.mem_append, List.mem_singleton]
    show key' ∈ s.world.started <-> key' ∈ s.operations ∨ _
    rw [hold]
    constructor
    · tauto
    · rintro (hregistered | hcalled | rfl)
      · exact Or.inl hregistered
      · exact Or.inr hcalled
      · exact Or.inl hkey
  · intro key' hregistered hcalled
    rw [hanswered] at hcalled
    rcases List.mem_append.mp hcalled with hold | heq
    · cases h.not_both hregistered hold
    · rw [List.mem_singleton.mp heq]
  · intro key' hinCall
    cases hinCall
    rw [hanswered]
    exact List.mem_append_right _ (List.mem_singleton.mpr rfl)
  · rw [hanswered]
    exact List.Nodup.append h.answered_nodup (List.nodup_singleton key)
      (List.disjoint_singleton.mpr hnew)

theorem Books.erase {key : Guid} (h : Books (some key) s) :
    Books none (BasicTcpConnection.eraseOperation key s) := by
  have hkey : key ∈ answered s := h.inCall_answered rfl
  have hmem : forall key', key' ∈ (BasicTcpConnection.eraseOperation key s).operations <->
      key' ≠ key ∧ key' ∈ s.operations :=
    fun _ => AList.mem_erase
  constructor
  · intro key' e he
    by_cases heq : key' = key
    · subst heq
      have hnone : (s.operations.erase key').lookup key' = some e := he
      rw [AList.lookup_erase] at hnone
      cases hnone
    · have hold : (s.operations.erase key).lookup key' = some e := he
      rw [AList.lookup_erase_ne heq] at hold
      exact h.entry_eq hold
  · exact h.subscription_eq
  · intro key'
    have hold := h.started_iff key'
    rw [hmem]
    show key' ∈ s.world.started <-> _ ∨ key' ∈ answered s
    rw [hold]
    by_cases heq : key' = key
    · subst heq
      simp [hkey]
    · simp [heq]
  · intro key' hregistered hcalled
    rcases (hmem key').mp hregistered with ⟨hne, hold⟩
    have hinCall := h.not_both hold hcalled
    cases hinCall
    exact absurd rfl hne
  · intro key' hinCall
    cases hinCall
  · exact h.answered_nodup

/-- The books are about the maps, the operations started and the answers alone. -/
theorem Books.of_eq (h : Books inCall s) {next : State}
    (hoperations : next.operations = s.operations)
    (hsubscriptions : next.subscriptions = s.subscriptions)
    (hstarted : next.world.started = s.world.started)
    (hanswers : next.world.answers = s.world.answers) : Books inCall next := by
  constructor
  · intro key e he
    rw [hoperations] at he
    exact h.entry_eq he
  · intro key e he
    rw [hsubscriptions] at he
    exact h.subscription_eq he
  · intro key
    have hold := h.started_iff key
    rw [answered] at hold ⊢
    rw [hoperations, hstarted, hanswers]
    exact hold
  · intro key hregistered hcalled
    rw [hoperations] at hregistered
    rw [answered, hanswers] at hcalled
    exact h.not_both hregistered hcalled
  · intro key hinCall
    rw [answered, hanswers]
    exact h.inCall_answered hinCall
  · rw [answered, hanswers]
    exact h.answered_nodup

end Books

/-!
# The timers of a connection

Exactly the registered operations can still time out: the call of an entry cancels its
timer, unless that has expired.
-/

structure Timely (inCall : Option Guid) (s : State) : Prop where
  armed_iff : forall key,
    (s.world.deadline key).Armed <-> key ∈ s.operations ∧ inCall ≠ some key
  no_faults : s.world.faults = []

theorem initial_timely : Timely none initial where
  armed_iff := by
    intro key
    simp [initial, Timer.not_armed_idle]
  no_faults := rfl

section Timely

variable {inCall : Option Guid} {s : State}

theorem Timely.asyncSend (h : Timely inCall s) (hbooks : Books inCall s)
    {package : Package} (hnew : package.correlationId ∉ s.world.started) :
    Timely inCall (asyncSendWithHandler package s) := by
  constructor
  · intro key
    have hold := h.armed_iff key
    show (Function.update s.world.deadline package.correlationId Timer.waiting key).Armed <->
      key ∈ s.operations.registerOp _ _ ∧ inCall ≠ some key
    rw [OperationsMap.mem_registerOp]
    by_cases hkey : key = package.correlationId
    · subst hkey
      have hinCall : inCall ≠ some package.correlationId := by
        intro heq
        exact hnew ((hbooks.started_iff _).mpr (Or.inr (hbooks.inCall_answered heq)))
      simp [Timer.Armed, hinCall]
    · rw [Function.update_of_ne hkey, hold]
      simp [hkey]
  · exact h.no_faults

theorem Timely.answer (h : Timely none s) {key : Guid} {t : Timer} (ht : ¬ t.Armed)
    (ec : ErrorCode) :
    Timely (some key) (Operation.answer key ec (setDeadline key t s)) := by
  constructor
  · intro key'
    show (Function.update s.world.deadline key t key').Armed <->
      key' ∈ s.operations ∧ some key ≠ some key'
    by_cases hkey : key' = key
    · subst hkey
      simp [ht]
    · rw [Function.update_of_ne hkey, h.armed_iff key']
      simp [Ne.symm hkey]
  · exact h.no_faults

theorem Timely.erase {key : Guid} (h : Timely (some key) s) :
    Timely none (BasicTcpConnection.eraseOperation key s) := by
  constructor
  · intro key'
    have hold := h.armed_iff key'
    show (s.world.deadline key').Armed <-> key' ∈ s.operations.erase key ∧ none ≠ some key'
    rw [hold, AList.mem_erase]
    constructor
    · rintro ⟨hmem, hne⟩
      exact ⟨⟨fun heq => hne (congrArg some heq.symm), hmem⟩, fun heq => by cases heq⟩
    · rintro ⟨⟨hne, hmem⟩, _⟩
      exact ⟨hmem, fun heq => hne (Option.some.inj heq).symm⟩
  · exact h.no_faults

end Timely

/-!
# The call of an entry

What the call leaves: the entry erased, its timer cancelled, and the packages of nested
calls sent.
-/

/-- The state after an operation's entry was called and erased, with its timer left
as `t`. -/
def finish (nested : List Package) (key : Guid) (ec : ErrorCode) (t : Timer)
    (s : State) : State :=
  BasicTcpConnection.eraseOperation key
    (asyncSendAll nested (answer key ec (setDeadline key t s)))

theorem setDeadline_setDeadline (key : Guid) (t t' : Timer) (s : State) :
    setDeadline key t' (setDeadline key t s) = setDeadline key t' s := by
  simp [setDeadline]

section Finish

variable {s : State} {nested : List Package} {key : Guid} {ec : ErrorCode} {t : Timer}

theorem finish_books (h : Books none s) (hkey : key ∈ s.operations)
    (hfresh : Fresh nested s) : Books none (finish nested key ec t s) := by
  apply Books.erase
  refine asyncSendAll_induction (fun hnew hbooks => hbooks.asyncSend hnew) hfresh ?_
  exact h.answer hkey t ec

theorem finish_timely (h : Timely none s) (hbooks : Books none s)
    (hkey : key ∈ s.operations) (hfresh : Fresh nested s)
    (htimer : ¬ t.Armed) : Timely none (finish nested key ec t s) := by
  apply Timely.erase
  have hfresh' : Fresh nested (answer key ec (setDeadline key t s)) := hfresh
  refine (asyncSendAll_induction
    (motive := fun s => Books (some key) s ∧ Timely (some key) s) ?_ hfresh' ?_).right
  · rintro s' package hnew ⟨hbooks', htimely'⟩
    exact ⟨hbooks'.asyncSend hnew, htimely'.asyncSend hbooks' hnew⟩
  · exact ⟨hbooks.answer hkey t ec, h.answer htimer ec⟩

theorem receive_finish {package : Package} {newGuid : Guid}
    (hbooks : Books none s) (hkey : package.correlationId ∈ s.operations) :
    (BasicTcpConnection.receive (call nested none) newGuid package).runOn s =
      (Except.ok (), finish nested package.correlationId none
        (s.world.deadline package.correlationId).cancel s.counted) := by
  rcases OperationsMap.entry_of_mem hkey with ⟨e, he⟩
  rw [BasicTcpConnection.receive_operation he, hbooks.entry_eq he]
  simp only [call, finish, Handler.runOn_bind, Handler.runOn_modify]
  rfl

/-- A package that is not for an operation leaves the operations alone, except for those
that the handler of a subscription starts. -/
theorem receive_elsewhere (nested : List Package) (newGuid : Guid) {package : Package}
    (hbooks : Books none s)
    (hkey : package.correlationId ∉ s.operations) :
    exists sent, (BasicTcpConnection.receive (call nested none) newGuid package).runOn s =
        (Except.ok (), { s.counted with sent := sent }) ∨
      (BasicTcpConnection.receive (call nested none) newGuid package).runOn s =
        (Except.ok (), asyncSendAll nested s.counted) := by
  by_cases hsubscription : package.correlationId ∈ s.subscriptions
  · rcases OperationsMap.entry_of_mem hsubscription with ⟨e, he⟩
    refine ⟨[], Or.inr ?_⟩
    rw [BasicTcpConnection.receive_subscription hkey he, hbooks.subscription_eq he]
    simp [call]
  · rcases BasicTcpConnection.receive_other (call nested none) newGuid hkey
      hsubscription with ⟨sent, hsent⟩
    exact ⟨sent, Or.inl hsent⟩

theorem completed_finish (hbooks : Books none s) (hkey : key ∈ s.operations) :
    (completed nested key none).runOn (setDeadline key Timer.idle s) =
      (Except.ok (),
        finish nested key (some (Error.connection .operationTimeout)) Timer.idle s) := by
  rcases OperationsMap.entry_of_mem hkey with ⟨e, he⟩
  have hentry := BasicTcpConnection.operation_of_lookup
    (c := setDeadline key Timer.idle s) he
  have htimer : (setDeadline key Timer.idle s).world.deadline key = Timer.idle := by
    simp [setDeadline]
  simp [completed, hentry, hbooks.entry_eq he, call, finish, htimer, Timer.cancel,
    setDeadline_setDeadline]

theorem completed_absent (hkey : key ∉ s.operations) :
    (completed nested key none).runOn s =
      (Except.error (Fault.outOfRange key), s) := by
  simp [completed, BasicTcpConnection.operation_of_notMem hkey]

theorem completed_aborted :
    (completed nested key (some (Error.asio .operationAborted))).runOn s =
      (Except.ok (), s) := by
  simp [completed]

end Finish

/-!
# Steps and runs

A step that is in time looks up no absent operation.  The failing run is one in which the
answer arrives while the expiry of the timer is queued.
-/

/-- What a package does: it answers an operation, or starts those of the handler of a
subscription, or nothing. -/
theorem step_received {s next : State} (h : Books none s) {package : Package}
    {newGuid : Guid} {nested : List Package}
    (hstep : step s (Input.received package newGuid nested) = some next) :
    Fresh nested s ∧
      ((package.correlationId ∈ s.operations ∧
          next = finish nested package.correlationId none
            (s.world.deadline package.correlationId).cancel s.counted) ∨
        (exists sent, next = { s.counted with sent := sent }) ∨
        next = asyncSendAll nested s.counted) := by
  rw [step] at hstep
  split at hstep
  · rename_i hfresh
    cases hstep
    constructor
    · exact hfresh
    · by_cases hkey : package.correlationId ∈ s.operations
      · rw [receive_finish h hkey]
        exact Or.inl ⟨hkey, rfl⟩
      · rcases receive_elsewhere nested newGuid h hkey with ⟨sent, hsent | hnested⟩
        · rw [hsent]
          exact Or.inr (Or.inl ⟨sent, rfl⟩)
        · rw [hnested]
          exact Or.inr (Or.inr rfl)
  · cases hstep

/-- What the completion of a timer does: nothing if the wait was cancelled, and otherwise
it finishes the operation or looks up one that is absent. -/
theorem step_completed {s next : State} (h : Books none s) {key : Guid}
    {nested : List Package} (hstep : step s (Input.completed key nested) = some next) :
    Fresh nested s ∧
      ((s.world.deadline key = Timer.queued WaitResult.aborted ∧
          next = setDeadline key Timer.idle s) ∨
        (s.world.deadline key = Timer.queued WaitResult.expired ∧ key ∈ s.operations ∧
          next = finish nested key (some (Error.connection .operationTimeout))
            Timer.idle s) ∨
        (s.world.deadline key = Timer.queued WaitResult.expired ∧ key ∉ s.operations ∧
          next = settle (Except.error (Fault.outOfRange key),
            setDeadline key Timer.idle s))) := by
  rw [step] at hstep
  cases hresult : (s.world.deadline key).result? with
  | none =>
      rw [hresult] at hstep
      cases hstep
  | some result =>
      have hqueued := Timer.result?_eq_some hresult
      rw [hresult] at hstep
      simp only at hstep
      split at hstep
      · rename_i hfresh
        cases hstep
        constructor
        · exact hfresh
        · cases result with
          | aborted =>
              rw [waitErrorCode, completed_aborted]
              exact Or.inl ⟨hqueued, rfl⟩
          | expired =>
              by_cases hkey : key ∈ s.operations
              · rw [waitErrorCode, completed_finish h hkey]
                exact Or.inr (Or.inl ⟨hqueued, hkey, rfl⟩)
              · rw [waitErrorCode, completed_absent (s := setDeadline key Timer.idle s) hkey]
                exact Or.inr (Or.inr ⟨hqueued, hkey, rfl⟩)
      · cases hstep

theorem Books.subscribe {s : State} (h : Books none s) (key : Guid) :
    Books none
      { s with subscriptions := s.subscriptions.registerOp key Entry.subscription } := by
  refine { h with subscription_eq := ?_ }
  intro key' e he
  have hlookup : (s.subscriptions.registerOp key Entry.subscription).lookup key' =
      some e := he
  by_cases hold : key ∈ s.subscriptions
  · rw [OperationsMap.registerOp_of_mem hold] at hlookup
    exact h.subscription_eq hlookup
  · rw [OperationsMap.registerOp_of_notMem hold] at hlookup
    by_cases hkey : key' = key
    · subst hkey
      rw [AList.lookup_insert] at hlookup
      cases hlookup
      rfl
    · rw [AList.lookup_insert_ne hkey] at hlookup
      exact h.subscription_eq hlookup

theorem Books.unsubscribe {s : State} (h : Books none s) (key : Guid) :
    Books none { s with subscriptions := s.subscriptions.erase key } := by
  refine { h with subscription_eq := ?_ }
  intro key' e he
  have hlookup : (s.subscriptions.erase key).lookup key' = some e := he
  by_cases hkey : key' = key
  · subst hkey
    rw [AList.lookup_erase] at hlookup
    cases hlookup
  · rw [AList.lookup_erase_ne hkey] at hlookup
    exact h.subscription_eq hlookup

theorem step_books {s next : State} {i : Input} (h : Books none s)
    (hstep : step s i = some next) : Books none next := by
  cases i with
  | asyncSend package =>
      rw [step] at hstep
      split at hstep
      · rename_i hfresh
        cases hstep
        exact h.asyncSend (hfresh.right package (List.mem_singleton.mpr rfl))
      · cases hstep
  | subscribe key =>
      cases hstep
      exact h.subscribe key
  | unsubscribe key =>
      cases hstep
      exact h.unsubscribe key
  | received package newGuid nested =>
      rcases step_received h hstep with ⟨hfresh, ⟨hkey, rfl⟩ | ⟨sent, rfl⟩ | rfl⟩
      · exact finish_books (h.of_eq rfl rfl rfl rfl) hkey hfresh
      · exact h.of_eq rfl rfl rfl rfl
      · exact asyncSendAll_induction (fun hnew hbooks => hbooks.asyncSend hnew) hfresh
          (h.of_eq rfl rfl rfl rfl)
  | expired key =>
      rw [step, Option.map_eq_some_iff] at hstep
      rcases hstep with ⟨t, _, rfl⟩
      exact h.of_eq rfl rfl rfl rfl
  | completed key nested =>
      have hidle : Books none (setDeadline key Timer.idle s) := h.of_eq rfl rfl rfl rfl
      rcases step_completed h hstep with
        ⟨hfresh, ⟨_, rfl⟩ | ⟨_, hkey, rfl⟩ | ⟨_, _, rfl⟩⟩
      · exact hidle
      · exact finish_books h hkey hfresh
      · exact hidle.of_eq rfl rfl rfl rfl

/-- In every run each handler is called at most once, and before its entry is erased. -/
theorem run_books {inputs : List Input} {last : State}
    (hrun : run step initial inputs = some last) : Books none last :=
  run_preserves step_books initial_books hrun

theorem Timely.setDeadline {s : State} (h : Timely none s) {key : Guid} {t : Timer}
    (harmed : t.Armed <-> (s.world.deadline key).Armed) :
    Timely none (setDeadline key t s) := by
  constructor
  · intro key'
    have hold := h.armed_iff key'
    show (Function.update s.world.deadline key t key').Armed <-> key' ∈ s.operations ∧ _
    rw [← hold]
    by_cases hkey : key' = key
    · subst hkey
      rw [Function.update_self]
      exact harmed
    · rw [Function.update_of_ne hkey]
  · exact h.no_faults

theorem step_timely {s next : State} {i : Input} (hbooks : Books none s)
    (h : Timely none s) (hok : InTime s i) (hstep : step s i = some next) :
    Timely none next := by
  cases i with
  | asyncSend package =>
      rw [step] at hstep
      split at hstep
      · rename_i hfresh
        cases hstep
        exact h.asyncSend hbooks (hfresh.right package (List.mem_singleton.mpr rfl))
      · cases hstep
  | subscribe key =>
      cases hstep
      exact ⟨h.armed_iff, h.no_faults⟩
  | unsubscribe key =>
      cases hstep
      exact ⟨h.armed_iff, h.no_faults⟩
  | received package newGuid nested =>
      have hcounted : Timely none s.counted := ⟨h.armed_iff, h.no_faults⟩
      have hbooks' : Books none s.counted := hbooks.of_eq rfl rfl rfl rfl
      rcases step_received hbooks hstep with ⟨hfresh, ⟨hkey, rfl⟩ | ⟨sent, rfl⟩ | rfl⟩
      · have htimer : ¬ (s.world.deadline package.correlationId).cancel.Armed :=
          fun harmed => hok ((Timer.armed_cancel_iff _).mp harmed)
        exact finish_timely hcounted hbooks' hkey hfresh htimer
      · exact ⟨h.armed_iff, h.no_faults⟩
      · refine (asyncSendAll_induction
          (motive := fun s => Books none s ∧ Timely none s) ?_
          (show Fresh nested s.counted from hfresh) ⟨hbooks', hcounted⟩).right
        rintro s' package' hnew ⟨hbooks'', htimely''⟩
        exact ⟨hbooks''.asyncSend hnew, htimely''.asyncSend hbooks'' hnew⟩
  | expired key =>
      rw [step, Option.map_eq_some_iff] at hstep
      rcases hstep with ⟨t, ht, rfl⟩
      rcases Timer.expire?_eq_some ht with ⟨hwaiting, rfl⟩
      apply h.setDeadline
      simp [Timer.Armed, hwaiting]
  | completed key nested =>
      rcases step_completed hbooks hstep with
        ⟨hfresh, ⟨hqueued, rfl⟩ | ⟨_, hkey, rfl⟩ | ⟨hqueued, habsent, _⟩⟩
      · apply h.setDeadline
        simp [hqueued, Timer.not_armed_idle, Timer.not_armed_aborted]
      · exact finish_timely h hbooks hkey hfresh Timer.not_armed_idle
      · have harmed : (s.world.deadline key).Armed := Or.inr hqueued
        exact absurd ((h.armed_iff key).mp harmed).left habsent

/-- A run in which no package is handled while its operation's timer has expired with
the completion still queued never looks up an absent operation, and answers each one
exactly once before its entry is erased. -/
theorem run_lifecycle {inputs : List Input} {last : State}
    (hok : EveryStep step InTime initial inputs)
    (hrun : run step initial inputs = some last) : Lifecycle last := by
  have hboth : Books none last ∧ Timely none last :=
    run_invariant
      (fun (hs : Books none _ ∧ Timely none _) hok hstep =>
        ⟨step_books hs.left hstep, step_timely hs.left hs.right hok hstep⟩)
      ⟨initial_books, initial_timely⟩ hok hrun
  rcases hboth with ⟨hbooks, htimely⟩
  exact
    { once := List.nodup_iff_count_le_one.mp hbooks.answered_nodup
      answered_of_erased := by
        intro key hstarted herased
        exact ((hbooks.started_iff key).mp hstarted).resolve_left herased
      no_absent_lookup := htimely.no_faults }

def readEvent (b : UInt8) : Package :=
  { command := ⟨0xB0⟩
    correlationId := Guid.ofByte b
    message := [] }

def readEventCompleted (b : UInt8) : Package :=
  { command := TcpCommand.readEventCompleted
    correlationId := Guid.ofByte b
    message := [] }

/-- Two operations, of which the first is answered twice and starts a third, and the
second times out and is answered late. -/
def answeredAndTimedOut : List Input :=
  [Input.asyncSend (readEvent 1), Input.asyncSend (readEvent 2),
    Input.received (readEventCompleted 1) (Guid.ofByte 9) [readEvent 3],
    Input.received (readEventCompleted 1) (Guid.ofByte 9) [],
    Input.expired (Guid.ofByte 2), Input.completed (Guid.ofByte 1) [],
    Input.completed (Guid.ofByte 2) [],
    Input.received (readEventCompleted 2) (Guid.ofByte 9) []]

theorem answeredAndTimedOut_lifecycle :
    exists last, run step initial answeredAndTimedOut = some last ∧ Lifecycle last := by
  obtain ⟨last, hlast⟩ :
      exists last, run step initial answeredAndTimedOut = some last :=
    Option.isSome_iff_exists.mp (by decide)
  exact ⟨last, hlast, run_lifecycle (by decide) hlast⟩

def answeredWhileExpired : List Input :=
  [Input.asyncSend (readEvent 1), Input.expired (Guid.ofByte 1),
    Input.received (readEventCompleted 1) (Guid.ofByte 9) [],
    Input.completed (Guid.ofByte 1) []]

/-- The cancellation does not recall the completion, which looks the erased entry up. -/
theorem answeredWhileExpired_throws :
    exists last, run step initial answeredWhileExpired = some last ∧
      ¬ Lifecycle last := by
  obtain ⟨last, hlast⟩ :
      exists last, run step initial answeredWhileExpired = some last :=
    Option.isSome_iff_exists.mp (by decide)
  refine ⟨last, hlast, ?_⟩
  intro h
  have hfaults : (run step initial answeredWhileExpired).map
      (fun s => s.world.faults) = some [Fault.outOfRange (Guid.ofByte 1)] := by
    decide
  rw [hlast, Option.map_some, h.no_absent_lookup] at hfaults
  exact absurd hfaults (by decide)

end Operation

end Connection
end EventStoreClient
