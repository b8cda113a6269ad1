import EventStoreClient.Messages.Types
import EventStoreClient.Operations.Answers

/-!
# Parsing the completed messages

`ParseFromArray` of the messages that the server sends, with the fields that the client
reads.
-/

namespace EventStoreClient
namespace Operations

open Foundation

/-!
# Fields of the messages

The fields that the client reads, from the slots of the messages as they come off the
wire.
-/

def number (field : Option Int64) : Option Int := field.map Int64.toInt

def number32 (field : Option Int32) : Option Int := field.map Int32.toInt

namespace EventRecord

def ofMessage : Messages.eventRecord.Message -> EventRecord
  | (eventStreamId, eventNumber, eventId, eventType, _, _, data, metadata, _, _, _) =>
      { eventStreamId := eventStreamId
        eventNumber := number eventNumber
        eventId := eventId
        eventType := eventType
        data := data
        metadata := metadata }

end EventRecord

namespace ResolvedIndexedEvent

def ofMessage : Messages.resolvedIndexedEvent.Message -> ResolvedIndexedEvent
  | (event, link, _) =>
      { event := Option.map EventRecord.ofMessage event
        link := Option.map EventRecord.ofMessage link }

end ResolvedIndexedEvent

namespace ResolvedEvent

def ofMessage : Messages.resolvedEvent.Message -> ResolvedEvent
  | (event, link, commitPosition, preparePosition, _) =>
      { event := Option.map EventRecord.ofMessage event
        link := Option.map EventRecord.ofMessage link
        commitPosition := number commitPosition
        preparePosition := number preparePosition }

end ResolvedEvent

namespace WriteEventsCompleted

def ofMessage : Messages.writeEventsCompleted.Message -> WriteEventsCompleted
  | (result, _, _, lastEventNumber, preparePosition, commitPosition, _, _) =>
      { result := result
        lastEventNumber := number lastEventNumber
        preparePosition := number preparePosition
        commitPosition := number commitPosition }

end WriteEventsCompleted

namespace DeleteStreamCompleted

def ofMessage : Messages.deleteStreamCompleted.Message -> DeleteStreamCompleted
  | (result, _, preparePosition, commitPosition, _) =>
      { result := result
        preparePosition := number preparePosition
        commitPosition := number commitPosition }

end DeleteStreamCompleted

namespace TransactionStartCompleted

def ofMessage : Messages.transactionStartCompleted.Message -> TransactionStartCompleted
  | (transactionId, result, _, _) =>
      { transactionId := number transactionId
        result := result }

end TransactionStartCompleted

namespace TransactionWriteCompleted

def ofMessage : Messages.transactionWriteCompleted.Message -> TransactionWriteCompleted
  | (_, result, _, _) => { result := result }

end TransactionWriteCompleted

namespace TransactionCommitCompleted

def ofMessage : Messages.transactionCommitCompleted.Message -> TransactionCommitCompleted
  | (_, result, _, _, lastEventNumber, preparePosition, commitPosition, _) =>
      { result := result
        lastEventNumber := number lastEventNumber
        preparePosition := number preparePosition
        commitPosition := number commitPosition }

end TransactionCommitCompleted

namespace ReadEventCompleted

def ofMessage : Messages.readEventCompleted.Message -> ReadEventCompleted
  | (result, event, _, _) =>
      { result := result
        event := Option.map ResolvedIndexedEvent.ofMessage event }

end ReadEventCompleted

namespace ReadStreamEventsCompleted

def ofMessage : Messages.readStreamEventsCompleted.Message -> ReadStreamEventsCompleted
  | (events, result, nextEventNumber, lastEventNumber, isEndOfStream, _, _, _) =>
      { events := List.map ResolvedIndexedEvent.ofMessage events
        result := result
        nextEventNumber := number nextEventNumber
        lastEventNumber := number lastEventNumber
        isEndOfStream := isEndOfStream }

end ReadStreamEventsCompleted

namespace ReadAllEventsCompleted

def ofMessage : Messages.readAllEventsCompleted.Message -> ReadAllEventsCompleted
  | (commitPosition, preparePosition, events, nextCommitPosition, nextPreparePosition, result,
      _, _) =>
      { commitPosition := number commitPosition
        preparePosition := number preparePosition
        events := List.map ResolvedEvent.ofMessage events
        nextCommitPosition := number nextCommitPosition
        nextPreparePosition := number nextPreparePosition
        result := result }

end ReadAllEventsCompleted

namespace CreatePersistentSubscriptionCompleted

def ofMessage :
    Messages.createPersistentSubscriptionCompleted.Message ->
      CreatePersistentSubscriptionCompleted
  | (result, reason, _) =>
      { result := result
        reason := reason }

end CreatePersistentSubscriptionCompleted

namespace UpdatePersistentSubscriptionCompleted

def ofMessage :
    Messages.updatePersistentSubscriptionCompleted.Message ->
      UpdatePersistentSubscriptionCompleted
  | (result, reason, _) =>
      { result := result
        reason := reason }

end UpdatePersistentSubscriptionCompleted

namespace DeletePersistentSubscriptionCompleted

def ofMessage :
    Messages.deletePersistentSubscriptionCompleted.Message ->
      DeletePersistentSubscriptionCompleted
  | (result, reason, _) =>
      { result := result
        reason := reason }

end DeletePersistentSubscriptionCompleted

/-!
# `ParseFromArray`

The parser reads the bytes of a payload as a message of its type.
-/

def Parsed.ofMerged {alpha message : Type} (view : alpha -> message) (merged : Merged alpha) :
    Parsed message :=
  { ok := merged.ok
    message := view merged.message }

def parse (M : MessageType) {message : Type} (view : M.Message -> message) (payload : Bytes) :
    Parsed message :=
  Parsed.ofMerged view (M.parseFromArray payload)

def protobuf : Protobuf :=
  { writeEventsCompleted := parse Messages.writeEventsCompleted WriteEventsCompleted.ofMessage
    deleteStreamCompleted :=
      parse Messages.deleteStreamCompleted DeleteStreamCompleted.ofMessage
    transactionStartCompleted :=
      parse Messages.transactionStartCompleted TransactionStartCompleted.ofMessage
    transactionWriteCompleted :=
      parse Messages.transactionWriteCompleted TransactionWriteCompleted.ofMessage
    transactionCommitCompleted :=
      parse Messages.transactionCommitCompleted TransactionCommitCompleted.ofMessage
    readEventCompleted := parse Messages.readEventCompleted ReadEventCompleted.ofMessage
    readStreamEventsCompleted :=
      parse Messages.readStreamEventsCompleted ReadStreamEventsCompleted.ofMessage
    readAllEventsCompleted :=
      parse Messages.readAllEventsCompleted ReadAllEventsCompleted.ofMessage
    createPersistentSubscriptionCompleted :=
      parse Messages.createPersistentSubscriptionCompleted
        CreatePersistentSubscriptionCompleted.ofMessage
    updatePersistentSubscriptionCompleted :=
      parse Messages.updatePersistentSubscriptionCompleted
        UpdatePersistentSubscriptionCompleted.ofMessage
    deletePersistentSubscriptionCompleted :=
      parse Messages.deletePersistentSubscriptionCompleted
        DeletePersistentSubscriptionCompleted.ofMessage }

end Operations
end EventStoreClient
