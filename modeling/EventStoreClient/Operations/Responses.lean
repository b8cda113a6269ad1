import EventStoreClient.Connection.Dispatch
import EventStoreClient.Error
import EventStoreClient.Operations.Messages

/-!
# Response handlers

The handlers that the client operations give to `async_send`.  All check the command,
parse the payload without looking at the parse status, and switch over the result.
-/

namespace EventStoreClient
namespace Operations

open Connection Foundation Wire

/-!
# The common handler

All response handlers check the command, parse the message, and leave the rest to a switch
over the result.  The handler of the user is called once, except where the switch returns,
and what it gets with a success is made from the parsed response.
-/

/-- What a response handler is called with: a package, or the error of its operation. -/
inductive Answer where
  | package (p : Package)
  | error (e : Error)
  deriving DecidableEq

structure Call (result : Type) where
  ec : ErrorCode
  result : result

/-- What a case of the switch over the result does: go on without an error, go on with
one, or return. -/
inductive Verdict where
  | success
  | failure (e : Error)
  | retry
  deriving DecidableEq

/-- The parts in which the response handlers differ.  `onError` is passed with an error
found before the payload is parsed, and `onFailure` with one found after. -/
structure Responder (message result : Type) where
  completed : TcpCommand
  parse : Bytes -> Parsed message
  verdict : message -> Verdict
  onError : result
  onSuccess : message -> result
  onFailure : message -> result

namespace Responder

variable {message result : Type}

def respond (r : Responder message result) : Answer -> List (Call result)
  | Answer.error e => [{ ec := some e, result := r.onError }]
  | Answer.package p =>
      if p.command ≠ r.completed then
        [{ ec := some (Error.communication .unexpectedResponse), result := r.onError }]
      else
        let response := (r.parse p.message).message
        match r.verdict response with
        | Verdict.success => [{ ec := none, result := r.onSuccess response }]
        | Verdict.failure e => [{ ec := some e, result := r.onFailure response }]
        | Verdict.retry => []

variable {r : Responder message result} {answer : Answer}

/-- A success is reported for exactly the packages with the completed command and a
result the switch goes on with. -/
theorem respond_success_iff :
    (exists call, call ∈ r.respond answer ∧ call.ec = none) <->
      exists p, answer = Answer.package p ∧ p.command = r.completed ∧
        r.verdict (r.parse p.message).message = Verdict.success := by
  cases answer with
  | error e => simp [respond]
  | package p =>
      by_cases hcommand : p.command = r.completed
      · cases hverdict : r.verdict (r.parse p.message).message <;>
          simp [respond, hcommand, hverdict]
      · simp [respond, hcommand]

theorem respond_success_result {call : Call result} {p : Package}
    (hcall : call ∈ r.respond (Answer.package p)) (hec : call.ec = none) :
    call.result = r.onSuccess (r.parse p.message).message := by
  by_cases hcommand : p.command = r.completed
  · cases hverdict : r.verdict (r.parse p.message).message with
    | success =>
        simp only [respond, hcommand, hverdict, ne_eq, not_true, if_false,
          List.mem_singleton] at hcall
        rw [hcall]
    | failure e =>
        simp only [respond, hcommand, hverdict, ne_eq, not_true, if_false,
          List.mem_singleton] at hcall
        rw [hcall] at hec
        cases hec
    | retry => simp [respond, hcommand, hverdict] at hcall
  · simp only [respond, ne_eq, hcommand, not_false_eq_true, if_true,
      List.mem_singleton] at hcall
    rw [hcall] at hec
    cases hec

theorem respond_length (r : Responder message result) (answer : Answer) :
    (r.respond answer).length ≤ 1 ∧
      ((r.respond answer).length = 0 <->
        exists p, answer = Answer.package p ∧ p.command = r.completed ∧
          r.verdict (r.parse p.message).message = Verdict.retry) := by
  cases answer with
  | error e => simp [respond]
  | package p =>
      by_cases hcommand : p.command = r.completed
      · cases hverdict : r.verdict (r.parse p.message).message <;>
          simp [respond, hcommand, hverdict]
      · simp [respond, hcommand]

end Responder

def unexpectedResponse : Verdict :=
  Verdict.failure (Error.communication .unexpectedResponse)

/-!
# Writes

A `transaction` is kept without its connection.
-/

structure WriteResult where
  nextExpectedVersion : Int
  logPosition : Position
  deriving DecidableEq, Repr

structure DeleteStreamResult where
  logPosition : Position
  deriving DecidableEq, Repr

structure Transaction where
  transactionId : Int
  isRolledBack : Bool
  isCommitted : Bool
  deriving DecidableEq, Repr

/-- The switch of the handlers that distinguish all results.  `timeout` is what the three
timeouts do, and `version` what a wrong expected version is reported as. -/
def operationVerdict (timeout : Verdict) (version : StreamErrors) :
    OperationResult -> Verdict
  | .success => Verdict.success
  | .prepareTimeout => timeout
  | .commitTimeout => timeout
  | .forwardTimeout => timeout
  | .wrongExpectedVersion => Verdict.failure (Error.stream version)
  | .streamDeleted => Verdict.failure (Error.stream .streamDeleted)
  | .invalidTransaction => Verdict.failure (Error.stream .invalidTransaction)
  | .accessDenied => Verdict.failure (Error.stream .accessDenied)

/-- The log position of a write.  The prepare position is put as the commit position,
and vice versa. -/
def logPosition (preparePosition commitPosition : Option Int) : Position :=
  { commitPosition := preparePosition.getD (-1)
    preparePosition := commitPosition.getD (-1) }

/-- `append_to_stream` and `conditional_append_to_stream` differ in `version` alone. -/
def writeEvents (pb : Protobuf) (version : StreamErrors) :
    Responder WriteEventsCompleted (Option WriteResult) :=
  { completed := TcpCommand.writeEventsCompleted
    parse := pb.writeEventsCompleted
    verdict := fun response =>
      operationVerdict Verdict.retry version (read response.result)
    onError := none
    onSuccess := fun response => some
      { nextExpectedVersion := read response.lastEventNumber
        logPosition := logPosition response.preparePosition response.commitPosition }
    onFailure := fun _ => none }

def appendToStream (pb : Protobuf) : Responder WriteEventsCompleted (Option WriteResult) :=
  writeEvents pb StreamErrors.wrongExpectedVersion

def conditionalAppendToStream (pb : Protobuf) :
    Responder WriteEventsCompleted (Option WriteResult) :=
  writeEvents pb StreamErrors.versionMismatch

def deleteStream (pb : Protobuf) :
    Responder DeleteStreamCompleted (Option DeleteStreamResult) :=
  { completed := TcpCommand.deleteStreamCompleted
    parse := pb.deleteStreamCompleted
    -- the timeouts break out of the switch, with no error set
    verdict := fun response =>
      operationVerdict Verdict.success StreamErrors.wrongExpectedVersion
        (read response.result)
    onError := none
    onSuccess := fun response => some
      { logPosition := logPosition response.preparePosition response.commitPosition }
    onFailure := fun _ => none }

def startTransaction (pb : Protobuf) :
    Responder TransactionStartCompleted (Option Transaction) :=
  { completed := TcpCommand.transactionStartCompleted
    parse := pb.transactionStartCompleted
    verdict := fun response =>
      operationVerdict Verdict.success StreamErrors.wrongExpectedVersion
        (read response.result)
    onError := none
    onSuccess := fun response => some
      { transactionId := read response.transactionId
        isRolledBack := false
        isCommitted := false }
    onFailure := fun _ => none }

def transactionalWrite (pb : Protobuf) : Responder TransactionWriteCompleted Unit :=
  { completed := TcpCommand.transactionWriteCompleted
    parse := pb.transactionWriteCompleted
    verdict := fun response =>
      match read response.result with
      | .success => Verdict.success
      | .prepareTimeout => Verdict.success
      | .commitTimeout => Verdict.success
      | .forwardTimeout => Verdict.success
      | .accessDenied => Verdict.failure (Error.stream .accessDenied)
      | _ => unexpectedResponse
    onError := ()
    onSuccess := fun _ => ()
    onFailure := fun _ => () }

def commitTransaction (pb : Protobuf) :
    Responder TransactionCommitCompleted (Option WriteResult) :=
  { completed := TcpCommand.transactionCommitCompleted
    parse := pb.transactionCommitCompleted
    verdict := fun response =>
      operationVerdict Verdict.retry StreamErrors.wrongExpectedVersion
        (read response.result)
    onError := none
    onSuccess := fun response => some
      { nextExpectedVersion := read response.lastEventNumber
        logPosition := logPosition response.preparePosition response.commitPosition }
    onFailure := fun _ => none }

/-!
# Reads

The switch over the result of a read sets the status for some of the results.  The
response handler of `get_stream_metadata` is given the read of the last event of the
metadata stream.
-/

inductive EventReadStatus where
  | success
  | notFound
  | noStream
  | streamDeleted
  deriving DecidableEq, Repr

/-- `event_read_result`; `event` is there if the status is `success`. -/
structure EventReadResult where
  status : EventReadStatus
  stream : Bytes
  eventNumber : Int
  event : Option ResolvedIndexedEvent
  deriving DecidableEq, Repr

inductive ReadDirection where
  | forward
  | backward
  deriving DecidableEq, Repr

structure StreamEventsSlice where
  fromEventNumber : Int
  nextEventNumber : Int
  lastEventNumber : Int
  stream : Bytes
  readDirection : ReadDirection
  isEndOfStream : Bool
  events : List ResolvedIndexedEvent
  deriving DecidableEq, Repr

structure AllEventsSlice where
  fromPosition : Position
  nextPosition : Position
  direction : ReadDirection
  isEndOfStream : Bool
  events : List ResolvedEvent
  deriving DecidableEq, Repr

def eventReadStatus : ReadEventResult -> Except Error EventReadStatus
  | .success => Except.ok EventReadStatus.success
  | .notFound => Except.ok EventReadStatus.notFound
  | .noStream => Except.ok EventReadStatus.noStream
  | .streamDeleted => Except.ok EventReadStatus.streamDeleted
  | .error => Except.error (Error.communication .serverError)
  | .accessDenied => Except.error (Error.stream .accessDenied)

def readStreamEvent (pb : Protobuf) (stream : Bytes) (eventNumber : Int) :
    Responder ReadEventCompleted (Option EventReadResult) :=
  { completed := TcpCommand.readEventCompleted
    parse := pb.readEventCompleted
    verdict := fun response =>
      match eventReadStatus (read response.result) with
      | Except.ok _ => Verdict.success
      | Except.error e => Verdict.failure e
    onError := none
    onSuccess := fun response =>
      match eventReadStatus (read response.result) with
      | Except.ok status => some
          { status := status
            stream := stream
            eventNumber := eventNumber
            -- an absent event reads as the empty one
            event :=
              if status = EventReadStatus.success then
                some (response.event.getD { event := none, link := none })
              else none }
      | Except.error _ => none
    onFailure := fun _ => none }

def readStreamEvents (pb : Protobuf) (stream : Bytes) (fromEventNumber : Int)
    (direction : ReadDirection) :
    Responder ReadStreamEventsCompleted (Option StreamEventsSlice) :=
  { completed :=
      match direction with
      | .forward => TcpCommand.readStreamEventsForwardCompleted
      | .backward => TcpCommand.readStreamEventsBackwardCompleted
    parse := pb.readStreamEventsCompleted
    verdict := fun response =>
      match read response.result with
      | .success => Verdict.success
      | .streamDeleted => Verdict.failure (Error.stream .streamDeleted)
      | .noStream => Verdict.failure (Error.stream .streamNotFound)
      | .error => Verdict.failure (Error.communication .serverError)
      | .accessDenied => Verdict.failure (Error.stream .accessDenied)
      | .notModified => unexpectedResponse
    onError := none
    onSuccess := fun response => some
      { fromEventNumber := fromEventNumber
        nextEventNumber := read response.nextEventNumber
        lastEventNumber := read response.lastEventNumber
        stream := stream
        readDirection := direction
        isEndOfStream := read response.isEndOfStream
        events := response.events }
    onFailure := fun _ => none }

def readAllEvents (pb : Protobuf) (direction : ReadDirection) :
    Responder ReadAllEventsCompleted (Option AllEventsSlice) :=
  { completed :=
      match direction with
      | .forward => TcpCommand.readAllEventsForwardCompleted
      | .backward => TcpCommand.readAllEventsBackwardCompleted
    parse := pb.readAllEventsCompleted
    verdict := fun response =>
      match read response.result with
      | .success => Verdict.success
      | .error => Verdict.failure (Error.communication .serverError)
      | .accessDenied => Verdict.failure (Error.stream .accessDenied)
      | .notModified => unexpectedResponse
    onError := none
    onSuccess := fun response => some
      { fromPosition :=
          { commitPosition := read response.commitPosition
            preparePosition := read response.preparePosition }
        nextPosition :=
          { commitPosition := read response.nextCommitPosition
            preparePosition := read response.nextPreparePosition }
        direction := direction
        isEndOfStream := response.events.length = 0
        events := response.events }
    onFailure := fun _ => none }

structure StreamMetadataResultRaw where
  stream : Bytes
  isStreamDeleted : Bool
  metaStreamVersion : Int
  streamMetadata : Bytes
  deriving DecidableEq, Repr

def ResolvedIndexedEvent.originalEvent (e : ResolvedIndexedEvent) : Option EventRecord :=
  if e.link.isSome then e.link else e.event

def int64Max : Int := 2 ^ 63 - 1

/-- The handler that `get_stream_metadata` gives to `async_read_stream_event`. -/
def streamMetadata (stream : Bytes) (read : Call (Option EventReadResult)) :
    List (Call (Option StreamMetadataResultRaw)) :=
  let noMetadata : StreamMetadataResultRaw :=
    { stream := stream
      isStreamDeleted := false
      metaStreamVersion := -1
      streamMetadata := [] }
  match read.ec, read.result with
  | none, some value =>
      match value.status with
      | .success =>
          match value.event with
          | none => [{ ec := some (Error.communication .unexpectedResponse), result := none }]
          | some event =>
              match event.originalEvent with
              | none => [{ ec := none, result := some noMetadata }]
              | some event =>
                  [{ ec := none
                     result := some
                      { stream := stream
                        isStreamDeleted := false
                        metaStreamVersion := Operations.read event.eventNumber
                        streamMetadata := Operations.read event.data } }]
      | .notFound => [{ ec := none, result := some noMetadata }]
      | .noStream => [{ ec := none, result := some noMetadata }]
      | .streamDeleted =>
          [{ ec := none
             result := some
              { stream := stream
                isStreamDeleted := true
                metaStreamVersion := int64Max
                streamMetadata := [] } }]
  -- a success without a result is never passed on
  | ec, _ => [{ ec := ec, result := none }]

def metaStreamOf (stream : Bytes) : Bytes := [0x24, 0x24] ++ stream

def getStreamMetadata (pb : Protobuf) (stream : Bytes) (answer : Answer) :
    List (Call (Option StreamMetadataResultRaw)) :=
  ((readStreamEvent pb (metaStreamOf stream) (-1)).respond answer).flatMap
    (streamMetadata stream)

/-!
# Persistent subscriptions

The handlers of the three requests pass the reason of the server on with every result.
-/

/-- The handlers of the three requests about persistent subscriptions, which pass the
server's reason on with every result. -/
def persistentSubscription (completed : TcpCommand) (parse : Bytes -> Parsed message)
    (verdict : message -> Verdict) (reason : message -> Option Bytes) :
    Responder message Bytes :=
  { completed := completed
    parse := parse
    verdict := verdict
    onError := []
    onSuccess := fun response => (reason response).getD []
    onFailure := fun response => (reason response).getD [] }

def createPersistentSubscription (pb : Protobuf) :
    Responder CreatePersistentSubscriptionCompleted Bytes :=
  persistentSubscription TcpCommand.createPersistentSubscriptionCompleted
    pb.createPersistentSubscriptionCompleted
    (fun response =>
      match read response.result with
      | .success => Verdict.success
      | .fail => Verdict.failure (Error.subscription .persistentSubscriptionFail)
      | .accessDenied => Verdict.failure (Error.subscription .accessDenied)
      | .alreadyExists =>
          Verdict.failure (Error.subscription .persistentSubscriptionAlreadyExists))
    (fun response => response.reason)

def updatePersistentSubscription (pb : Protobuf) :
    Responder UpdatePersistentSubscriptionCompleted Bytes :=
  persistentSubscription TcpCommand.updatePersistentSubscriptionCompleted
    pb.updatePersistentSubscriptionCompleted
    (fun response =>
      match read response.result with
      | .success => Verdict.success
      | .fail => Verdict.failure (Error.subscription .persistentSubscriptionFail)
      | .accessDenied => Verdict.failure (Error.subscription .accessDenied)
      | .doesNotExist =>
          Verdict.failure (Error.subscription .persistentSubscriptionDoesNotExist))
    (fun response => response.reason)

def deletePersistentSubscription (pb : Protobuf) :
    Responder DeletePersistentSubscriptionCompleted Bytes :=
  persistentSubscription TcpCommand.deletePersistentSubscriptionCompleted
    pb.deletePersistentSubscriptionCompleted
    (fun response =>
      match read response.result with
      | .success => Verdict.success
      | .fail => Verdict.failure (Error.subscription .persistentSubscriptionFail)
      | .accessDenied => Verdict.failure (Error.subscription .accessDenied)
      | .doesNotExist =>
          Verdict.failure (Error.subscription .persistentSubscriptionDoesNotExist))
    (fun response => response.reason)

end Operations
end EventStoreClient
