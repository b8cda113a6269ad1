import EventStoreClient.Operations.Responses

/-!
# What the user is told

Which answers a client operation reports as a success, and which it does not report.
-/

namespace EventStoreClient
namespace Operations

open Connection Foundation Wire

/-!
# The client operations

Each operation has its completed message, the response handler that reads it, and what the
handler of the user gets besides the error code.
-/

def OperationResult.IsTimeout (r : OperationResult) : Prop :=
  r ∈ [OperationResult.prepareTimeout, .commitTimeout, .forwardTimeout]

inductive ClientOperation where
  | appendToStream
  | conditionalAppendToStream
  | deleteStream
  | startTransaction
  | transactionalWrite
  | commitTransaction
  | readStreamEvent (stream : Bytes) (eventNumber : Int)
  | readStreamEvents (stream : Bytes) (fromEventNumber : Int) (direction : ReadDirection)
  | readAllEvents (direction : ReadDirection)
  | createPersistentSubscription
  | updatePersistentSubscription
  | deletePersistentSubscription
  deriving DecidableEq

namespace ClientOperation

def Message : ClientOperation -> Type
  | appendToStream => WriteEventsCompleted
  | conditionalAppendToStream => WriteEventsCompleted
  | deleteStream => DeleteStreamCompleted
  | startTransaction => TransactionStartCompleted
  | transactionalWrite => TransactionWriteCompleted
  | commitTransaction => TransactionCommitCompleted
  | readStreamEvent _ _ => ReadEventCompleted
  | readStreamEvents _ _ _ => ReadStreamEventsCompleted
  | readAllEvents _ => ReadAllEventsCompleted
  | createPersistentSubscription => CreatePersistentSubscriptionCompleted
  | updatePersistentSubscription => UpdatePersistentSubscriptionCompleted
  | deletePersistentSubscription => DeletePersistentSubscriptionCompleted

def Result : ClientOperation -> Type
  | appendToStream => Option WriteResult
  | conditionalAppendToStream => Option WriteResult
  | deleteStream => Option DeleteStreamResult
  | startTransaction => Option Transaction
  | transactionalWrite => Unit
  | commitTransaction => Option WriteResult
  | readStreamEvent _ _ => Option EventReadResult
  | readStreamEvents _ _ _ => Option StreamEventsSlice
  | readAllEvents _ => Option AllEventsSlice
  | createPersistentSubscription => Bytes
  | updatePersistentSubscription => Bytes
  | deletePersistentSubscription => Bytes

def responder (pb : Protobuf) : (op : ClientOperation) -> Responder op.Message op.Result
  | appendToStream => Operations.appendToStream pb
  | conditionalAppendToStream => Operations.conditionalAppendToStream pb
  | deleteStream => Operations.deleteStream pb
  | startTransaction => Operations.startTransaction pb
  | transactionalWrite => Operations.transactionalWrite pb
  | commitTransaction => Operations.commitTransaction pb
  | readStreamEvent stream eventNumber =>
      Operations.readStreamEvent pb stream eventNumber
  | readStreamEvents stream fromEventNumber direction =>
      Operations.readStreamEvents pb stream fromEventNumber direction
  | readAllEvents direction => Operations.readAllEvents pb direction
  | createPersistentSubscription => Operations.createPersistentSubscription pb
  | updatePersistentSubscription => Operations.updatePersistentSubscription pb
  | deletePersistentSubscription => Operations.deletePersistentSubscription pb

/-!
# The protocol

What the result of the server means, without the code: the server has done it, or has
timed out, which only a write can have.  Some of the writes go on when the server has
timed out, the others return.
-/

def completedCommand : ClientOperation -> TcpCommand
  | appendToStream => TcpCommand.writeEventsCompleted
  | conditionalAppendToStream => TcpCommand.writeEventsCompleted
  | deleteStream => TcpCommand.deleteStreamCompleted
  | startTransaction => TcpCommand.transactionStartCompleted
  | transactionalWrite => TcpCommand.transactionWriteCompleted
  | commitTransaction => TcpCommand.transactionCommitCompleted
  | readStreamEvent _ _ => TcpCommand.readEventCompleted
  | readStreamEvents _ _ .forward => TcpCommand.readStreamEventsForwardCompleted
  | readStreamEvents _ _ .backward => TcpCommand.readStreamEventsBackwardCompleted
  | readAllEvents .forward => TcpCommand.readAllEventsForwardCompleted
  | readAllEvents .backward => TcpCommand.readAllEventsBackwardCompleted
  | createPersistentSubscription => TcpCommand.createPersistentSubscriptionCompleted
  | updatePersistentSubscription => TcpCommand.updatePersistentSubscriptionCompleted
  | deletePersistentSubscription => TcpCommand.deletePersistentSubscriptionCompleted

def ServerSuccess : (op : ClientOperation) -> op.Message -> Prop
  | appendToStream, m => read (WriteEventsCompleted.result m) = .success
  | conditionalAppendToStream, m => read (WriteEventsCompleted.result m) = .success
  | deleteStream, m => read (DeleteStreamCompleted.result m) = .success
  | startTransaction, m => read (TransactionStartCompleted.result m) = .success
  | transactionalWrite, m => read (TransactionWriteCompleted.result m) = .success
  | commitTransaction, m => read (TransactionCommitCompleted.result m) = .success
  | readStreamEvent _ _, m =>
      read (ReadEventCompleted.result m) ∈
        [ReadEventResult.success, .notFound, .noStream, .streamDeleted]
  | readStreamEvents _ _ _, m => read (ReadStreamEventsCompleted.result m) = .success
  | readAllEvents _, m => read (ReadAllEventsCompleted.result m) = .success
  | createPersistentSubscription, m =>
      read (CreatePersistentSubscriptionCompleted.result m) = .success
  | updatePersistentSubscription, m =>
      read (UpdatePersistentSubscriptionCompleted.result m) = .success
  | deletePersistentSubscription, m =>
      read (DeletePersistentSubscriptionCompleted.result m) = .success

def ServerTimeout : (op : ClientOperation) -> op.Message -> Prop
  | appendToStream, m => (read (WriteEventsCompleted.result m)).IsTimeout
  | conditionalAppendToStream, m => (read (WriteEventsCompleted.result m)).IsTimeout
  | deleteStream, m => (read (DeleteStreamCompleted.result m)).IsTimeout
  | startTransaction, m => (read (TransactionStartCompleted.result m)).IsTimeout
  | transactionalWrite, m => (read (TransactionWriteCompleted.result m)).IsTimeout
  | commitTransaction, m => (read (TransactionCommitCompleted.result m)).IsTimeout
  | _, _ => False

def GoesOnAfterTimeout (op : ClientOperation) : Prop :=
  op = deleteStream ∨ op = startTransaction ∨ op = transactionalWrite

def ReturnsAfterTimeout (op : ClientOperation) : Prop :=
  op = appendToStream ∨ op = conditionalAppendToStream ∨ op = commitTransaction

theorem responder_completed (pb : Protobuf) (op : ClientOperation) :
    (op.responder pb).completed = op.completedCommand := by
  cases op with
  | readStreamEvents stream fromEventNumber direction => cases direction <;> rfl
  | readAllEvents direction => cases direction <;> rfl
  | _ => rfl

/-!
# The switches

The results at which an operation returns.  A timeout is no success.
-/

theorem operationVerdict_success_iff (timeout : Verdict) (version : StreamErrors)
    (r : OperationResult) :
    operationVerdict timeout version r = Verdict.success <->
      r = .success ∨ timeout = Verdict.success ∧ r.IsTimeout := by
  cases r <;> simp [operationVerdict, OperationResult.IsTimeout]

theorem operationVerdict_retry_iff (timeout : Verdict) (version : StreamErrors)
    (r : OperationResult) :
    operationVerdict timeout version r = Verdict.retry <->
      timeout = Verdict.retry ∧ r.IsTimeout := by
  cases r <;> simp [operationVerdict, OperationResult.IsTimeout]

/-- The switch of `transactional_write` misses three results, which are errors all the
same. -/
theorem transactionalWrite_verdict (pb : Protobuf) (m : TransactionWriteCompleted) :
    ((Operations.transactionalWrite pb).verdict m = Verdict.success <->
        operationVerdict Verdict.success .wrongExpectedVersion (read m.result) =
          Verdict.success) ∧
      (Operations.transactionalWrite pb).verdict m ≠ Verdict.retry := by
  cases hresult : read m.result <;>
    simp [Operations.transactionalWrite, operationVerdict, unexpectedResponse, hresult]

theorem readStreamEvent_verdict (pb : Protobuf) (stream : Bytes) (eventNumber : Int)
    (m : ReadEventCompleted) :
    ((Operations.readStreamEvent pb stream eventNumber).verdict m = Verdict.success <->
        read m.result ∈ [ReadEventResult.success, .notFound, .noStream, .streamDeleted]) ∧
      (Operations.readStreamEvent pb stream eventNumber).verdict m ≠ Verdict.retry := by
  cases hresult : read m.result <;>
    simp [Operations.readStreamEvent, eventReadStatus, hresult]

theorem readStreamEvents_verdict (pb : Protobuf) (stream : Bytes) (fromEventNumber : Int)
    (direction : ReadDirection) (m : ReadStreamEventsCompleted) :
    ((Operations.readStreamEvents pb stream fromEventNumber direction).verdict m =
        Verdict.success <-> read m.result = .success) ∧
      (Operations.readStreamEvents pb stream fromEventNumber direction).verdict m ≠
        Verdict.retry := by
  cases hresult : read m.result <;>
    simp [Operations.readStreamEvents, unexpectedResponse, hresult]

theorem readAllEvents_verdict (pb : Protobuf) (direction : ReadDirection)
    (m : ReadAllEventsCompleted) :
    ((Operations.readAllEvents pb direction).verdict m = Verdict.success <->
        read m.result = .success) ∧
      (Operations.readAllEvents pb direction).verdict m ≠ Verdict.retry := by
  cases hresult : read m.result <;>
    simp [Operations.readAllEvents, unexpectedResponse, hresult]

theorem createPersistentSubscription_verdict (pb : Protobuf)
    (m : CreatePersistentSubscriptionCompleted) :
    ((Operations.createPersistentSubscription pb).verdict m = Verdict.success <->
        read m.result = .success) ∧
      (Operations.createPersistentSubscription pb).verdict m ≠ Verdict.retry := by
  cases hresult : read m.result <;>
    simp [Operations.createPersistentSubscription, persistentSubscription, hresult]

theorem updatePersistentSubscription_verdict (pb : Protobuf)
    (m : UpdatePersistentSubscriptionCompleted) :
    ((Operations.updatePersistentSubscription pb).verdict m = Verdict.success <->
        read m.result = .success) ∧
      (Operations.updatePersistentSubscription pb).verdict m ≠ Verdict.retry := by
  cases hresult : read m.result <;>
    simp [Operations.updatePersistentSubscription, persistentSubscription, hresult]

theorem deletePersistentSubscription_verdict (pb : Protobuf)
    (m : DeletePersistentSubscriptionCompleted) :
    ((Operations.deletePersistentSubscription pb).verdict m = Verdict.success <->
        read m.result = .success) ∧
      (Operations.deletePersistentSubscription pb).verdict m ≠ Verdict.retry := by
  cases hresult : read m.result <;>
    simp [Operations.deletePersistentSubscription, persistentSubscription, hresult]

/-- The results that an operation goes on with: those the server calls a success, and for
three of the writes the timeouts. -/
theorem verdict_success_iff (pb : Protobuf) (op : ClientOperation) (m : op.Message) :
    (op.responder pb).verdict m = Verdict.success <->
      op.ServerSuccess m ∨ op.GoesOnAfterTimeout ∧ op.ServerTimeout m := by
  cases op with
  | appendToStream =>
      refine (operationVerdict_success_iff _ _ _).trans ?_
      simp [ServerSuccess, GoesOnAfterTimeout]
  | conditionalAppendToStream =>
      refine (operationVerdict_success_iff _ _ _).trans ?_
      simp [ServerSuccess, GoesOnAfterTimeout]
  | deleteStream =>
      refine (operationVerdict_success_iff _ _ _).trans ?_
      simp [ServerSuccess, GoesOnAfterTimeout, ServerTimeout]
  | startTransaction =>
      refine (operationVerdict_success_iff _ _ _).trans ?_
      simp [ServerSuccess, GoesOnAfterTimeout, ServerTimeout]
  | transactionalWrite =>
      refine (transactionalWrite_verdict pb m).left.trans ?_
      refine (operationVerdict_success_iff _ _ _).trans ?_
      simp [ServerSuccess, GoesOnAfterTimeout, ServerTimeout]
  | commitTransaction =>
      refine (operationVerdict_success_iff _ _ _).trans ?_
      simp [ServerSuccess, GoesOnAfterTimeout]
  | readStreamEvent stream eventNumber =>
      refine (readStreamEvent_verdict pb stream eventNumber m).left.trans ?_
      simp [ServerSuccess, ServerTimeout]
  | readStreamEvents stream fromEventNumber direction =>
      refine (readStreamEvents_verdict pb stream fromEventNumber direction m).left.trans ?_
      simp [ServerSuccess, ServerTimeout]
  | readAllEvents direction =>
      refine (readAllEvents_verdict pb direction m).left.trans ?_
      simp [ServerSuccess, ServerTimeout]
  | createPersistentSubscription =>
      refine (createPersistentSubscription_verdict pb m).left.trans ?_
      simp [ServerSuccess, ServerTimeout]
  | updatePersistentSubscription =>
      refine (updatePersistentSubscription_verdict pb m).left.trans ?_
      simp [ServerSuccess, ServerTimeout]
  | deletePersistentSubscription =>
      refine (deletePersistentSubscription_verdict pb m).left.trans ?_
      simp [ServerSuccess, ServerTimeout]

theorem verdict_retry_iff (pb : Protobuf) (op : ClientOperation) (m : op.Message) :
    (op.responder pb).verdict m = Verdict.retry <->
      op.ReturnsAfterTimeout ∧ op.ServerTimeout m := by
  cases op with
  | appendToStream =>
      refine (operationVerdict_retry_iff _ _ _).trans ?_
      simp [ReturnsAfterTimeout, ServerTimeout]
  | conditionalAppendToStream =>
      refine (operationVerdict_retry_iff _ _ _).trans ?_
      simp [ReturnsAfterTimeout, ServerTimeout]
  | deleteStream =>
      refine (operationVerdict_retry_iff _ _ _).trans ?_
      simp [ReturnsAfterTimeout]
  | startTransaction =>
      refine (operationVerdict_retry_iff _ _ _).trans ?_
      simp [ReturnsAfterTimeout]
  | transactionalWrite =>
      refine (iff_false_intro (transactionalWrite_verdict pb m).right).trans ?_
      simp [ReturnsAfterTimeout]
  | commitTransaction =>
      refine (operationVerdict_retry_iff _ _ _).trans ?_
      simp [ReturnsAfterTimeout, ServerTimeout]
  | readStreamEvent stream eventNumber =>
      refine (iff_false_intro
        (readStreamEvent_verdict pb stream eventNumber m).right).trans ?_
      simp [ServerTimeout]
  | readStreamEvents stream fromEventNumber direction =>
      refine (iff_false_intro
        (readStreamEvents_verdict pb stream fromEventNumber direction m).right).trans ?_
      simp [ServerTimeout]
  | readAllEvents direction =>
      refine (iff_false_intro (readAllEvents_verdict pb direction m).right).trans ?_
      simp [ServerTimeout]
  | createPersistentSubscription =>
      refine (iff_false_intro (createPersistentSubscription_verdict pb m).right).trans ?_
      simp [ServerTimeout]
  | updatePersistentSubscription =>
      refine (iff_false_intro (updatePersistentSubscription_verdict pb m).right).trans ?_
      simp [ServerTimeout]
  | deletePersistentSubscription =>
      refine (iff_false_intro (deletePersistentSubscription_verdict pb m).right).trans ?_
      simp [ServerTimeout]

theorem not_serverSuccess_of_timeout {op : ClientOperation} {m : op.Message}
    (h : op.ServerTimeout m) : ¬ op.ServerSuccess m := by
  intro hsuccess
  cases op <;>
    first
      | exact h
      | (simp only [ServerTimeout, ServerSuccess] at h hsuccess
         rw [hsuccess] at h
         simp [OperationResult.IsTimeout] at h)

end ClientOperation

/-!
# Reported successes

A success is earned by a result that says the operation has been done.  The delete that
the server gave up on is reported as done.
-/

/-- The handler of `op` calls the user's handler without an error only if the package
completes `op`, parses, and carries a result that the server calls a success. -/
def NoFalseSuccess (pb : Protobuf) (op : ClientOperation) (answer : Answer) : Prop :=
  forall call, call ∈ (op.responder pb).respond answer -> call.ec = none ->
    exists p, answer = Answer.package p ∧ p.command = op.completedCommand ∧
      ((op.responder pb).parse p.message).ok = true ∧
      op.ServerSuccess ((op.responder pb).parse p.message).message

/-- A payload that is taken for a success without being one: it does not parse, but its
result reads as a success, or its result is a timeout that the operation goes on after. -/
def FalseSuccess (pb : Protobuf) (op : ClientOperation) (payload : Bytes) : Prop :=
  (((op.responder pb).parse payload).ok = false ∧
      op.ServerSuccess ((op.responder pb).parse payload).message) ∨
    (op.GoesOnAfterTimeout ∧ op.ServerTimeout ((op.responder pb).parse payload).message)

/-- The operation reports no false success exactly if its completed command does not come
with such a payload. -/
theorem noFalseSuccess_iff (pb : Protobuf) (op : ClientOperation) (answer : Answer) :
    NoFalseSuccess pb op answer <->
      forall p, answer = Answer.package p -> p.command = op.completedCommand ->
        ¬ FalseSuccess pb op p.message := by
  constructor
  · rintro h p rfl hcommand hfalse
    have hverdict : (op.responder pb).verdict
        ((op.responder pb).parse p.message).message = Verdict.success := by
      apply (op.verdict_success_iff pb _).mpr
      rcases hfalse with ⟨_, hsuccess⟩ | htimeout
      · exact Or.inl hsuccess
      · exact Or.inr htimeout
    rcases Responder.respond_success_iff.mpr
      ⟨p, rfl, hcommand.trans (op.responder_completed pb).symm, hverdict⟩ with
        ⟨call, hcall, hec⟩
    rcases h call hcall hec with ⟨p', hp', _, hok, hsuccess⟩
    cases hp'
    rcases hfalse with ⟨hbad, _⟩ | ⟨_, htimeout⟩
    · rw [hbad] at hok
      cases hok
    · exact ClientOperation.not_serverSuccess_of_timeout htimeout hsuccess
  · intro h call hcall hec
    rcases Responder.respond_success_iff.mp ⟨call, hcall, hec⟩ with
      ⟨p, rfl, hcommand, hverdict⟩
    rw [op.responder_completed pb] at hcommand
    have htrue := h p rfl hcommand
    rw [FalseSuccess, not_or] at htrue
    rcases (op.verdict_success_iff pb _).mp hverdict with hsuccess | htimeout
    · refine ⟨p, rfl, hcommand, ?_, hsuccess⟩
      cases hok : ((op.responder pb).parse p.message).ok with
      | true => rfl
      | false => exact absurd ⟨hok, hsuccess⟩ htrue.left
    · exact absurd htimeout htrue.right

/-- A `ParseFromArray` that knows three payloads: `result` alone, as `PrepareTimeout`, and
the same in a complete `WriteEventsCompleted`. -/
def timeoutProtobuf : Protobuf :=
  { writeEventsCompleted := fun payload =>
      if payload = [0x08, 0x01, 0x18, 0x00, 0x20, 0x00] then
        { ok := true
          message :=
            { result := some .prepareTimeout
              lastEventNumber := some 0
              preparePosition := none
              commitPosition := none } }
      else ⟨false, ⟨none, none, none, none⟩⟩
    deleteStreamCompleted := fun payload =>
      if payload = [0x08, 0x01] then
        { ok := true
          message :=
            { result := some .prepareTimeout
              preparePosition := none
              commitPosition := none } }
      else ⟨false, ⟨none, none, none⟩⟩
    transactionStartCompleted := fun _ => ⟨false, ⟨none, none⟩⟩
    transactionWriteCompleted := fun _ => ⟨false, ⟨none⟩⟩
    transactionCommitCompleted := fun _ => ⟨false, ⟨none, none, none, none⟩⟩
    readEventCompleted := fun _ => ⟨false, ⟨none, none⟩⟩
    readStreamEventsCompleted := fun _ => ⟨false, ⟨[], none, none, none, none⟩⟩
    readAllEventsCompleted := fun _ => ⟨false, ⟨none, none, [], none, none, none⟩⟩
    createPersistentSubscriptionCompleted := fun _ => ⟨false, ⟨none, none⟩⟩
    updatePersistentSubscriptionCompleted := fun _ => ⟨false, ⟨none, none⟩⟩
    deletePersistentSubscriptionCompleted := fun _ => ⟨false, ⟨none, none⟩⟩ }

theorem deleteStream_prepareTimeout_succeeds :
    ¬ NoFalseSuccess timeoutProtobuf ClientOperation.deleteStream
      (Answer.package
        { command := TcpCommand.deleteStreamCompleted
          correlationId := Guid.ofByte 1
          message := [0x08, 0x01] }) := by
  intro h
  rcases h _ (List.mem_singleton.mpr rfl) rfl with ⟨p, hp, _, _, hsuccess⟩
  cases hp
  have htimeout : OperationResult.prepareTimeout = OperationResult.success := hsuccess
  cases htimeout

/-!
# Answered callers

How often the handler of the user is called for an answer.  Each result of the read of a
metadata stream becomes one result of `get_stream_metadata`.
-/

/-- The requests a user can make: the client operations, and `get_stream_metadata`, which
is made of one of them. -/
inductive Request where
  | operation (op : ClientOperation)
  | getStreamMetadata (stream : Bytes)
  deriving DecidableEq

def completions (pb : Protobuf) : Request -> Answer -> Nat
  | Request.operation op, answer => ((op.responder pb).respond answer).length
  | Request.getStreamMetadata stream, answer =>
      (getStreamMetadata pb stream answer).length

/-- The payload makes the operation's handler return and wait for a retry. -/
def Unanswered (pb : Protobuf) (op : ClientOperation) (payload : Bytes) : Prop :=
  op.ReturnsAfterTimeout ∧ op.ServerTimeout ((op.responder pb).parse payload).message

theorem streamMetadata_length (stream : Bytes) (call : Call (Option EventReadResult)) :
    (streamMetadata stream call).length = 1 := by
  rcases call with ⟨ec, result⟩
  cases ec with
  | some e => rfl
  | none =>
      cases result with
      | none => rfl
      | some value =>
          rcases value with ⟨status, _, _, event⟩
          cases status with
          | success =>
              cases event with
              | none => rfl
              | some event =>
                  simp only [streamMetadata]
                  cases event.originalEvent <;> rfl
          | notFound => rfl
          | noStream => rfl
          | streamDeleted => rfl

theorem operation_completions (pb : Protobuf) (op : ClientOperation) (answer : Answer) :
    completions pb (Request.operation op) answer = 1 <->
      forall p, answer = Answer.package p -> p.command = op.completedCommand ->
        ¬ Unanswered pb op p.message := by
  rcases Responder.respond_length (op.responder pb) answer with
    ⟨hle, hzero⟩
  rw [op.responder_completed pb] at hzero
  simp only [op.verdict_retry_iff pb] at hzero
  have hone : completions pb (Request.operation op) answer = 1 <->
      ¬ ((op.responder pb).respond answer).length = 0 := by
    show ((op.responder pb).respond answer).length = 1 <-> _
    omega
  rw [hone, hzero]
  constructor
  · intro h p hp hcommand hretry
    exact h ⟨p, hp, hcommand, hretry⟩
  · rintro h ⟨p, hp, hcommand, hretry⟩
    exact h p hp hcommand hretry

theorem getStreamMetadata_completions (pb : Protobuf) (stream : Bytes)
    (answer : Answer) :
    completions pb (Request.getStreamMetadata stream) answer = 1 := by
  have hread : ((readStreamEvent pb (metaStreamOf stream) (-1)).respond answer).length =
      1 := by
    refine (operation_completions pb
      (ClientOperation.readStreamEvent (metaStreamOf stream) (-1)) answer).mpr ?_
    rintro p _ _ ⟨hreturns, _⟩
    simp [ClientOperation.ReturnsAfterTimeout] at hreturns
  rcases List.length_eq_one_iff.mp hread with ⟨call, hcall⟩
  show (List.flatMap (streamMetadata stream) _).length = 1
  rw [hcall, List.flatMap_singleton, streamMetadata_length]

/-!
The connection keeps a request's response handler in `operations_map_`.  The world is the
list of the ids whose user's handler has been called.
-/

def callRequest (pb : Protobuf) (p : Package) (key : Guid) (request : Request) :
    Handler Fault (BasicTcpConnection Request (List Guid)) Unit :=
  modify fun c => { c with
    world := c.world ++
      List.replicate (completions pb request (Answer.package p)) key }

/-- The user's handler is called exactly once, so that no operation is erased without. -/
structure AnsweredOnce (pb : Protobuf) (request : Request) (answer : Answer) : Prop where
  once : completions pb request answer = 1
  not_left : forall (p : Package) (newGuid : Guid)
      (c : BasicTcpConnection Request (List Guid)),
    answer = Answer.package p -> c.operations.lookup p.correlationId = some request ->
      exists next, (BasicTcpConnection.receive (callRequest pb p) newGuid p).runOn c =
          (Except.ok (), next) ∧
        p.correlationId ∉ next.operations ∧
        next.world = c.world ++ [p.correlationId]

/-- A caller is answered exactly once unless the server reports a timeout for one of the
three writes that return to wait for a retry. -/
theorem answeredOnce_iff (pb : Protobuf) (request : Request) (answer : Answer) :
    AnsweredOnce pb request answer <->
      forall op p, request = Request.operation op -> answer = Answer.package p ->
        p.command = op.completedCommand -> ¬ Unanswered pb op p.message := by
  constructor
  · rintro h op p rfl hp hcommand
    exact (operation_completions pb op answer).mp h.once p hp hcommand
  · intro h
    have honce : completions pb request answer = 1 := by
      cases request with
      | operation op =>
          exact (operation_completions pb op answer).mpr fun p => h op p rfl
      | getStreamMetadata stream => exact getStreamMetadata_completions pb stream answer
    constructor
    · exact honce
    · rintro p newGuid c rfl hlookup
      refine ⟨_, BasicTcpConnection.receive_operation hlookup, ?_, ?_⟩
      · exact fun hmem => (AList.mem_erase.mp hmem).left rfl
      · show c.world ++ List.replicate _ p.correlationId = _
        rw [honce]
        rfl

/-- The caller of an append whose prepare timed out at the server waits forever. -/
theorem appendToStream_prepareTimeout_unanswered :
    ¬ AnsweredOnce timeoutProtobuf (Request.operation ClientOperation.appendToStream)
      (Answer.package
        { command := TcpCommand.writeEventsCompleted
          correlationId := Guid.ofByte 1
          message := [0x08, 0x01, 0x18, 0x00, 0x20, 0x00] }) := by
  intro h
  exact absurd h.once (by decide)

end Operations
end EventStoreClient
