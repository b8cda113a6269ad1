import EventStoreClient.Operations.Parsing

/-!
# Payloads of the completed messages

What an operation reports for the bytes behind its completed command: they may have the
fields of the message in any order, and unknown ones between them.
-/

namespace EventStoreClient
namespace Operations

open Connection Foundation Wire

namespace ClientOperation

/-!
# The completed message of an operation

The type of the message on the wire, and what the response handler sees of it.
-/

def type : ClientOperation -> MessageType
  | appendToStream => Messages.writeEventsCompleted
  | conditionalAppendToStream => Messages.writeEventsCompleted
  | deleteStream => Messages.deleteStreamCompleted
  | startTransaction => Messages.transactionStartCompleted
  | transactionalWrite => Messages.transactionWriteCompleted
  | commitTransaction => Messages.transactionCommitCompleted
  | readStreamEvent _ _ => Messages.readEventCompleted
  | readStreamEvents _ _ _ => Messages.readStreamEventsCompleted
  | readAllEvents _ => Messages.readAllEventsCompleted
  | createPersistentSubscription => Messages.createPersistentSubscriptionCompleted
  | updatePersistentSubscription => Messages.updatePersistentSubscriptionCompleted
  | deletePersistentSubscription => Messages.deletePersistentSubscriptionCompleted

def view : (op : ClientOperation) -> op.type.Message -> op.Message
  | appendToStream => WriteEventsCompleted.ofMessage
  | conditionalAppendToStream => WriteEventsCompleted.ofMessage
  | deleteStream => DeleteStreamCompleted.ofMessage
  | startTransaction => TransactionStartCompleted.ofMessage
  | transactionalWrite => TransactionWriteCompleted.ofMessage
  | commitTransaction => TransactionCommitCompleted.ofMessage
  | readStreamEvent _ _ => ReadEventCompleted.ofMessage
  | readStreamEvents _ _ _ => ReadStreamEventsCompleted.ofMessage
  | readAllEvents _ => ReadAllEventsCompleted.ofMessage
  | createPersistentSubscription => CreatePersistentSubscriptionCompleted.ofMessage
  | updatePersistentSubscription => UpdatePersistentSubscriptionCompleted.ofMessage
  | deletePersistentSubscription => DeletePersistentSubscriptionCompleted.ofMessage

theorem responder_parse (op : ClientOperation) (payload : Bytes) :
    (op.responder protobuf).parse payload =
      Parsed.ofMerged op.view (op.type.parseFromArray payload) := by
  cases op with
  | _ => rfl

/-!
# Its result

The enumeration of the results, and `result()` of the message.
-/

@[reducible] def ResultType : ClientOperation -> Type
  | appendToStream => OperationResult
  | conditionalAppendToStream => OperationResult
  | deleteStream => OperationResult
  | startTransaction => OperationResult
  | transactionalWrite => OperationResult
  | commitTransaction => OperationResult
  | readStreamEvent _ _ => ReadEventResult
  | readStreamEvents _ _ _ => ReadStreamResult
  | readAllEvents _ => ReadAllResult
  | createPersistentSubscription => CreatePersistentSubscriptionResult
  | updatePersistentSubscription => UpdatePersistentSubscriptionResult
  | deletePersistentSubscription => DeletePersistentSubscriptionResult

def result : (op : ClientOperation) -> op.Message -> op.ResultType
  | appendToStream, m => (read (WriteEventsCompleted.result m) : OperationResult)
  | conditionalAppendToStream, m => (read (WriteEventsCompleted.result m) : OperationResult)
  | deleteStream, m => (read (DeleteStreamCompleted.result m) : OperationResult)
  | startTransaction, m => (read (TransactionStartCompleted.result m) : OperationResult)
  | transactionalWrite, m => (read (TransactionWriteCompleted.result m) : OperationResult)
  | commitTransaction, m => (read (TransactionCommitCompleted.result m) : OperationResult)
  | readStreamEvent _ _, m => (read (ReadEventCompleted.result m) : ReadEventResult)
  | readStreamEvents _ _ _, m => (read (ReadStreamEventsCompleted.result m) : ReadStreamResult)
  | readAllEvents _, m => (read (ReadAllEventsCompleted.result m) : ReadAllResult)
  | createPersistentSubscription, m =>
      (read (CreatePersistentSubscriptionCompleted.result m) : CreatePersistentSubscriptionResult)
  | updatePersistentSubscription, m =>
      (read (UpdatePersistentSubscriptionCompleted.result m) : UpdatePersistentSubscriptionResult)
  | deletePersistentSubscription, m =>
      (read (DeletePersistentSubscriptionCompleted.result m) : DeletePersistentSubscriptionResult)

/-!
# What is reported

The results that the user is told a success for, those he is told nothing of, and the
package that completes an operation, with any bytes.
-/

def successes : (op : ClientOperation) -> List op.ResultType
  | appendToStream => [OperationResult.success]
  | conditionalAppendToStream => [OperationResult.success]
  | deleteStream =>
      [OperationResult.success, .prepareTimeout, .commitTimeout, .forwardTimeout]
  | startTransaction =>
      [OperationResult.success, .prepareTimeout, .commitTimeout, .forwardTimeout]
  | transactionalWrite =>
      [OperationResult.success, .prepareTimeout, .commitTimeout, .forwardTimeout]
  | commitTransaction => [OperationResult.success]
  | readStreamEvent _ _ =>
      [ReadEventResult.success, .notFound, .noStream, .streamDeleted]
  | readStreamEvents _ _ _ => [ReadStreamResult.success]
  | readAllEvents _ => [ReadAllResult.success]
  | createPersistentSubscription => [CreatePersistentSubscriptionResult.success]
  | updatePersistentSubscription => [UpdatePersistentSubscriptionResult.success]
  | deletePersistentSubscription => [DeletePersistentSubscriptionResult.success]

def silences : (op : ClientOperation) -> List op.ResultType
  | appendToStream => [OperationResult.prepareTimeout, .commitTimeout, .forwardTimeout]
  | conditionalAppendToStream =>
      [OperationResult.prepareTimeout, .commitTimeout, .forwardTimeout]
  | commitTransaction => [OperationResult.prepareTimeout, .commitTimeout, .forwardTimeout]
  | _ => []

theorem mem_successes_iff (op : ClientOperation) (m : op.Message) :
    op.result m ∈ op.successes <->
      op.ServerSuccess m ∨ op.GoesOnAfterTimeout ∧ op.ServerTimeout m := by
  cases op with
  | _ =>
      simp [result, successes, ServerSuccess, GoesOnAfterTimeout, ServerTimeout,
        OperationResult.IsTimeout]

theorem mem_silences_iff (op : ClientOperation) (m : op.Message) :
    op.result m ∈ op.silences <-> op.ReturnsAfterTimeout ∧ op.ServerTimeout m := by
  cases op with
  | _ =>
      simp [result, silences, ReturnsAfterTimeout, ServerTimeout, OperationResult.IsTimeout]

def completion (op : ClientOperation) (corrId : Guid) (payload : Bytes) : Answer :=
  Answer.package
    { command := op.completedCommand
      correlationId := corrId
      message := payload }

/-- The user is told a success for some results, nothing for others, and an error for the
rest. -/
structure ReportedBy (op : ClientOperation) (calls : List (Call op.Result))
    (r : op.ResultType) : Prop where
  success : (exists call, call ∈ calls ∧ call.ec = none) <-> r ∈ op.successes
  silent : calls = [] <-> r ∈ op.silences

theorem parse_carries (op : ClientOperation) {m : op.type.Message} (hfits : op.type.Fits m)
    {payload : Bytes} (hcarries : op.type.Carries m payload) :
    ((op.responder protobuf).parse payload).message = op.view m := by
  rw [responder_parse, MessageType.parseFromArray_carries hfits hcarries]
  rfl

/-- What an operation reports is told by the result in the message that its payload carries:
a success for some, nothing for others, and an error for the rest. -/
theorem completion_reportedBy (op : ClientOperation) (corrId : Guid) {m : op.type.Message}
    (hfits : op.type.Fits m) {payload : Bytes} (hcarries : op.type.Carries m payload) :
    op.ReportedBy ((op.responder protobuf).respond (op.completion corrId payload))
      (op.result (op.view m)) := by
  rw [← op.parse_carries hfits hcarries]
  constructor
  · rw [op.mem_successes_iff, ← op.verdict_success_iff protobuf]
    refine Responder.respond_success_iff.trans ?_
    constructor
    · rintro ⟨p, hp, _, hverdict⟩
      cases hp
      exact hverdict
    · intro hverdict
      exact ⟨_, rfl, (op.responder_completed protobuf).symm, hverdict⟩
  · have hlength := ((op.responder protobuf).respond_length
      (op.completion corrId payload)).right
    rw [List.length_eq_zero_iff] at hlength
    rw [op.mem_silences_iff, ← op.verdict_retry_iff protobuf, hlength]
    constructor
    · rintro ⟨p, hp, _, hverdict⟩
      cases hp
      exact hverdict
    · intro hverdict
      exact ⟨_, rfl, (op.responder_completed protobuf).symm, hverdict⟩

/-!
# The order of the fields

A message of the server comes to the same calls in whatever order its fields are.
-/

def told (op : ClientOperation) (m : op.Message) : List (Call op.Result) :=
  match (op.responder protobuf).verdict m with
  | Verdict.success => [{ ec := none, result := (op.responder protobuf).onSuccess m }]
  | Verdict.failure e => [{ ec := some e, result := (op.responder protobuf).onFailure m }]
  | Verdict.retry => []

theorem respond_completion (op : ClientOperation) (corrId : Guid) (payload : Bytes) :
    (op.responder protobuf).respond (op.completion corrId payload) =
      op.told (op.view (op.type.parseFromArray payload).message) := by
  have hcommand : op.completedCommand = (op.responder protobuf).completed :=
    (op.responder_completed protobuf).symm
  rw [completion, Responder.respond, if_neg (not_not.mpr hcommand)]
  simp only [op.responder_parse payload]
  rfl

/-- An operation tells its user what is in the message of the server, whatever the order in
which the fields of the message come, and whatever unknown fields are between them. -/
theorem respond_carries (op : ClientOperation) (corrId : Guid) {m : op.type.Message}
    (hfits : op.type.Fits m) {payload : Bytes} (hcarries : op.type.Carries m payload) :
    (op.responder protobuf).respond (op.completion corrId payload) = op.told (op.view m) := by
  rw [respond_completion, MessageType.parseFromArray_carries hfits hcarries]

/-!
A deletion with its fields from the last to the first, and an unknown one between them.
-/

def deletedMessage : Messages.deleteStreamCompleted.Message :=
  (some OperationResult.success, none, some (5 : Int64), some (6 : Int64), ())

def deletedPayload : Bytes := [0x20, 6, 0x48, 1, 0x18, 5, 0x08, 0]

theorem deletedMessage_fits : Messages.deleteStreamCompleted.Fits deletedMessage :=
  MessageType.fits_of_size (by decide)

theorem deletedPayload_carries :
    Messages.deleteStreamCompleted.Carries deletedMessage deletedPayload where
  complete := by decide
  fields := by decide

theorem respond_deletedPayload :
    (responder protobuf deleteStream).respond (deleteStream.completion (Guid.ofByte 1)
      deletedPayload) = deleteStream.told (deleteStream.view deletedMessage) :=
  respond_carries deleteStream (Guid.ofByte 1) deletedMessage_fits deletedPayload_carries

theorem deletedPayload_reported :
    deleteStream.ReportedBy ((responder protobuf deleteStream).respond
      (deleteStream.completion (Guid.ofByte 1) deletedPayload)) OperationResult.success :=
  completion_reportedBy deleteStream (Guid.ofByte 1) deletedMessage_fits deletedPayload_carries

end ClientOperation

end Operations
end EventStoreClient
