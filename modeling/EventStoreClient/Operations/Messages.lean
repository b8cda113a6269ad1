import EventStoreClient.Foundation.Bytes
import EventStoreClient.Position

/-!
# Protocol messages

The completed messages as far as the client reads them.  A field is `none` when it is
absent, and an absent enum field reads as its first value.
-/

namespace EventStoreClient
namespace Operations

open Foundation

inductive OperationResult where
  | success
  | prepareTimeout
  | commitTimeout
  | forwardTimeout
  | wrongExpectedVersion
  | streamDeleted
  | invalidTransaction
  | accessDenied
  deriving DecidableEq, Repr

inductive ReadEventResult where
  | success
  | notFound
  | noStream
  | streamDeleted
  | error
  | accessDenied
  deriving DecidableEq, Repr

inductive ReadStreamResult where
  | success
  | noStream
  | streamDeleted
  | notModified
  | error
  | accessDenied
  deriving DecidableEq, Repr

inductive ReadAllResult where
  | success
  | notModified
  | error
  | accessDenied
  deriving DecidableEq, Repr

inductive CreatePersistentSubscriptionResult where
  | success
  | alreadyExists
  | fail
  | accessDenied
  deriving DecidableEq, Repr

inductive UpdatePersistentSubscriptionResult where
  | success
  | doesNotExist
  | fail
  | accessDenied
  deriving DecidableEq, Repr

inductive DeletePersistentSubscriptionResult where
  | success
  | doesNotExist
  | fail
  | accessDenied
  deriving DecidableEq, Repr

/-!
The first value of an enum is what its default instance reads as.
-/

instance : Inhabited OperationResult := ⟨OperationResult.success⟩
instance : Inhabited ReadEventResult := ⟨ReadEventResult.success⟩
instance : Inhabited ReadStreamResult := ⟨ReadStreamResult.success⟩
instance : Inhabited ReadAllResult := ⟨ReadAllResult.success⟩
instance : Inhabited CreatePersistentSubscriptionResult :=
  ⟨CreatePersistentSubscriptionResult.success⟩
instance : Inhabited UpdatePersistentSubscriptionResult :=
  ⟨UpdatePersistentSubscriptionResult.success⟩
instance : Inhabited DeletePersistentSubscriptionResult :=
  ⟨DeletePersistentSubscriptionResult.success⟩

def read [Inhabited alpha] (field : Option alpha) : alpha := field.getD default

structure EventRecord where
  eventStreamId : Option Bytes
  eventNumber : Option Int
  eventId : Option Bytes
  eventType : Option Bytes
  data : Option Bytes
  metadata : Option Bytes
  deriving DecidableEq, Repr

structure ResolvedIndexedEvent where
  event : Option EventRecord
  link : Option EventRecord
  deriving DecidableEq, Repr

structure ResolvedEvent where
  event : Option EventRecord
  link : Option EventRecord
  commitPosition : Option Int
  preparePosition : Option Int
  deriving DecidableEq, Repr

structure WriteEventsCompleted where
  result : Option OperationResult
  lastEventNumber : Option Int
  preparePosition : Option Int
  commitPosition : Option Int

structure DeleteStreamCompleted where
  result : Option OperationResult
  preparePosition : Option Int
  commitPosition : Option Int

structure TransactionStartCompleted where
  transactionId : Option Int
  result : Option OperationResult

structure TransactionWriteCompleted where
  result : Option OperationResult

structure TransactionCommitCompleted where
  result : Option OperationResult
  lastEventNumber : Option Int
  preparePosition : Option Int
  commitPosition : Option Int

structure ReadEventCompleted where
  result : Option ReadEventResult
  event : Option ResolvedIndexedEvent

structure ReadStreamEventsCompleted where
  events : List ResolvedIndexedEvent
  result : Option ReadStreamResult
  nextEventNumber : Option Int
  lastEventNumber : Option Int
  isEndOfStream : Option Bool

structure ReadAllEventsCompleted where
  commitPosition : Option Int
  preparePosition : Option Int
  events : List ResolvedEvent
  nextCommitPosition : Option Int
  nextPreparePosition : Option Int
  result : Option ReadAllResult

structure CreatePersistentSubscriptionCompleted where
  result : Option CreatePersistentSubscriptionResult
  reason : Option Bytes

structure UpdatePersistentSubscriptionCompleted where
  result : Option UpdatePersistentSubscriptionResult
  reason : Option Bytes

structure DeletePersistentSubscriptionCompleted where
  result : Option DeletePersistentSubscriptionResult
  reason : Option Bytes

/-- What `ParseFromArray` returns, and the message it leaves: on malformed or incomplete
input `false`, with the fields that were read up to there. -/
structure Parsed (message : Type) where
  ok : Bool
  message : message

/-- `ParseFromArray` of the messages, which is not part of the client. -/
structure Protobuf where
  writeEventsCompleted : Bytes -> Parsed WriteEventsCompleted
  deleteStreamCompleted : Bytes -> Parsed DeleteStreamCompleted
  transactionStartCompleted : Bytes -> Parsed TransactionStartCompleted
  transactionWriteCompleted : Bytes -> Parsed TransactionWriteCompleted
  transactionCommitCompleted : Bytes -> Parsed TransactionCommitCompleted
  readEventCompleted : Bytes -> Parsed ReadEventCompleted
  readStreamEventsCompleted : Bytes -> Parsed ReadStreamEventsCompleted
  readAllEventsCompleted : Bytes -> Parsed ReadAllEventsCompleted
  createPersistentSubscriptionCompleted :
    Bytes -> Parsed CreatePersistentSubscriptionCompleted
  updatePersistentSubscriptionCompleted :
    Bytes -> Parsed UpdatePersistentSubscriptionCompleted
  deletePersistentSubscriptionCompleted :
    Bytes -> Parsed DeletePersistentSubscriptionCompleted

end Operations
end EventStoreClient
