import EventStoreClient.Messages.Types
import EventStoreClient.Operations.PersistentSubscriptions
import EventStoreClient.Operations.Responses
import EventStoreClient.Subscription.Base

/-!
# Requests

What each operation of the client, and each subscription, puts into the package that it
sends.
-/

namespace EventStoreClient
namespace Operations

open Connection Foundation Subscription Wire

/-!
# Arguments

What a request is made from: events, the settings of the connection, and the default
credentials, if there are any.
-/

structure EventData where
  eventId : Guid
  type : Bytes
  isJson : Bool
  content : Bytes
  metadata : Option Bytes

structure ConnectionSettings extends Connect.Settings where
  requireMaster : Bool

def ConnectionSettings.credentials (connection : ConnectionSettings) : Option (Bytes × Bytes) :=
  if connection.nullCredentials then none else some connection.defaultUserCredentials

def streamMetadataType : Bytes := "$metadata".toUTF8.data.toList

def esClientVersion : Int32 := 1

/-!
# Messages

Each function under its name gives the message that it serializes, with the command of its
package.  The loops of the three writes put the same into a new event.
-/

structure RequestMessage where
  command : TcpCommand
  type : MessageType
  message : type.Message

def contentType (isJson : Bool) : Int32 := if isJson then 1 else 0

def newEvent (e : EventData) : Messages.newEvent.Message :=
  -- the metadata is never said to be json
  (some e.eventId.data, some e.type, some (contentType e.isJson), some (contentType false),
    some e.content, e.metadata, ())

def asyncAppendToStream (connection : ConnectionSettings) (stream : Bytes)
    (events : List EventData) (expectedVersion : Int64) : RequestMessage :=
  { command := TcpCommand.writeEvents
    type := Messages.writeEvents
    message :=
      (some stream, some expectedVersion, events.map newEvent, some connection.requireMaster,
        ()) }

def asyncConditionalAppendToStream (connection : ConnectionSettings) (stream : Bytes)
    (events : List EventData) (expectedVersion : Int64) : RequestMessage :=
  asyncAppendToStream connection stream events expectedVersion

def asyncDeleteStream (connection : ConnectionSettings) (stream : Bytes)
    (expectedVersion : Int64) (hardDelete : Bool) : RequestMessage :=
  { command := TcpCommand.deleteStream
    type := Messages.deleteStream
    message :=
      (some stream, some expectedVersion, some connection.requireMaster, some hardDelete, ()) }

def asyncStartTransaction (connection : ConnectionSettings) (stream : Bytes)
    (expectedVersion : Int64) : RequestMessage :=
  { command := TcpCommand.transactionStart
    type := Messages.transactionStart
    message := (some stream, some expectedVersion, some connection.requireMaster, ()) }

def asyncTransactionalWrite (connection : ConnectionSettings) (transactionId : Int64)
    (events : List EventData) : RequestMessage :=
  { command := TcpCommand.transactionWrite
    type := Messages.transactionWrite
    message := (some transactionId, events.map newEvent, some connection.requireMaster, ()) }

def asyncCommitTransaction (connection : ConnectionSettings) (transactionId : Int64) :
    RequestMessage :=
  { command := TcpCommand.transactionCommit
    type := Messages.transactionCommit
    message := (some transactionId, some connection.requireMaster, ()) }

def asyncReadStreamEvent (connection : ConnectionSettings) (stream : Bytes)
    (eventNumber : Int64) (resolveLinkTos : Bool) : RequestMessage :=
  { command := TcpCommand.readEvent
    type := Messages.readEvent
    message :=
      (some stream, some eventNumber, some resolveLinkTos, some connection.requireMaster, ()) }

def asyncReadStreamEvents (connection : ConnectionSettings) (stream : Bytes)
    (direction : ReadDirection) (fromEventNumber : Int64) (maxCount : Int32)
    (resolveLinkTos : Bool) : RequestMessage :=
  { command :=
      match direction with
      | .forward => TcpCommand.readStreamEventsForward
      | .backward => TcpCommand.readStreamEventsBackward
    type := Messages.readStreamEvents
    message :=
      (some stream, some fromEventNumber, some maxCount, some resolveLinkTos,
        some connection.requireMaster, ()) }

def asyncReadAllEvents (connection : ConnectionSettings) (direction : ReadDirection)
    (commitPosition preparePosition : Int64) (maxCount : Int32) (resolveLinkTos : Bool) :
    RequestMessage :=
  { command :=
      match direction with
      | .forward => TcpCommand.readAllEventsForward
      | .backward => TcpCommand.readAllEventsBackward
    type := Messages.readAllEvents
    message :=
      (some commitPosition, some preparePosition, some maxCount, some resolveLinkTos,
        some connection.requireMaster, ()) }

def asyncSetStreamMetadata (connection : ConnectionSettings) (eventId : Guid) (stream : Bytes)
    (expectedMetastreamVersion : Int64) (metadata : Bytes) : RequestMessage :=
  asyncAppendToStream connection (metaStreamOf stream)
    [{ eventId := eventId
       type := streamMetadataType
       isJson := true
       content := metadata
       metadata := none }]
    expectedMetastreamVersion

def asyncGetStreamMetadata (connection : ConnectionSettings) (stream : Bytes) :
    RequestMessage :=
  asyncReadStreamEvent connection (metaStreamOf stream) (-1) false

/-!
# Persistent subscriptions

`SerializeAsString` of the two requests.
-/

/-- The message of the settings, which the two requests set in the same way. -/
def persistentSubscriptionMessage (r : PersistentSubscriptionRequest) :
    Messages.persistentSubscription.Message :=
  (some r.subscriptionGroupName, some r.eventStreamId, some r.resolveLinkTos,
    some r.startFrom, some r.messageTimeoutMilliseconds, some r.recordStatistics,
    some r.liveBufferSize, some r.readBatchSize, some r.bufferSize, some r.maxRetryCount,
    some r.preferRoundRobin, some r.checkpointAfterTime, some r.checkpointMaxCount,
    some r.checkpointMinCount, some r.subscriberMaxCount, some r.namedConsumerStrategy, ())

def requestProtobuf : RequestProtobuf :=
  { createPersistentSubscription := fun r =>
      Messages.createPersistentSubscription.serializeAsString (persistentSubscriptionMessage r)
    updatePersistentSubscription := fun r =>
      Messages.updatePersistentSubscription.serializeAsString (persistentSubscriptionMessage r) }

def createPersistentSubscriptionMessage (stream group : Bytes)
    (settings : PersistentSubscriptionSettings) : RequestMessage :=
  { command := TcpCommand.createPersistentSubscription
    type := Messages.createPersistentSubscription
    message :=
      persistentSubscriptionMessage
        (createPersistentSubscriptionRequest stream group settings) }

def updatePersistentSubscriptionMessage (stream group : Bytes)
    (settings : PersistentSubscriptionSettings) : RequestMessage :=
  { command := TcpCommand.updatePersistentSubscription
    type := Messages.updatePersistentSubscription
    message :=
      persistentSubscriptionMessage
        (updatePersistentSubscriptionRequest stream group settings) }

def asyncDeletePersistentSubscription (stream group : Bytes) : RequestMessage :=
  { command := TcpCommand.deletePersistentSubscription
    type := Messages.deletePersistentSubscription
    message := (some group, some stream, ()) }

/-!
# Subscriptions

The requests with which a subscription starts, and the one that `identify_op` sends.
-/

def subscribeToStream (stream : Bytes) (resolveLinkTos : Bool) : RequestMessage :=
  { command := TcpCommand.subscribeToStream
    type := Messages.subscribeToStream
    message := (some stream, some resolveLinkTos, ()) }

def connectToPersistentSubscription (stream groupName : Bytes)
    (allowedInFlightMessages : UInt32) : RequestMessage :=
  { command := TcpCommand.connectToPersistentSubscription
    type := Messages.connectToPersistentSubscription
    message := (some groupName, some stream, some allowedInFlightMessages.toInt32, ()) }

def unsubscribeFromStream : RequestMessage :=
  { command := TcpCommand.unsubscribeFromStream
    type := Messages.unsubscribeFromStream
    message := () }

def persistentSubscriptionAckEvents (subscriptionId : Bytes) (processedEventIds : List Bytes) :
    RequestMessage :=
  { command := TcpCommand.persistentSubscriptionAckEvents
    type := Messages.persistentSubscriptionAckEvents
    message := (some subscriptionId, processedEventIds, ()) }

/-- The `static_cast` of `nak_event_action`, which has the numbers of `NakAction`. -/
def nakAction : NakEventAction -> Messages.NakAction
  | .unknown => .unknown
  | .park => .park
  | .retry => .retry
  | .skip => .skip
  | .stop => .stop

def persistentSubscriptionNakEvents (subscriptionId : Bytes) (action : NakEventAction)
    (processedEventIds : List Bytes) : RequestMessage :=
  { command := TcpCommand.persistentSubscriptionNakEvents
    type := Messages.persistentSubscriptionNakEvents
    message := (some subscriptionId, processedEventIds, none, some (nakAction action), ()) }

def identifyClient (connectionName : Bytes) : RequestMessage :=
  { command := TcpCommand.identifyClient
    type := Messages.identifyClient
    message := (some esClientVersion, some connectionName, ()) }

/-!
# Packages

The constructor call for the package of a request.
-/

def RequestMessage.serialized (r : RequestMessage) : Bytes := r.type.serializeAsString r.message

/-- A request that somebody makes on a connection, with its arguments. -/
inductive ClientRequest where
  | appendToStream (stream : Bytes) (events : List EventData) (expectedVersion : Int64)
  | conditionalAppendToStream (stream : Bytes) (events : List EventData)
      (expectedVersion : Int64)
  | deleteStream (stream : Bytes) (expectedVersion : Int64) (hardDelete : Bool)
  | startTransaction (stream : Bytes) (expectedVersion : Int64)
  | transactionalWrite (transactionId : Int64) (events : List EventData)
  | commitTransaction (transactionId : Int64)
  | readStreamEvent (stream : Bytes) (eventNumber : Int64) (resolveLinkTos : Bool)
  | readStreamEvents (stream : Bytes) (direction : ReadDirection) (fromEventNumber : Int64)
      (maxCount : Int32) (resolveLinkTos : Bool)
  | readAllEvents (direction : ReadDirection) (commitPosition preparePosition : Int64)
      (maxCount : Int32) (resolveLinkTos : Bool)
  | setStreamMetadata (eventId : Guid) (stream : Bytes) (expectedMetastreamVersion : Int64)
      (metadata : Bytes)
  | getStreamMetadata (stream : Bytes)
  | createPersistentSubscription (stream group : Bytes)
      (settings : PersistentSubscriptionSettings)
  | updatePersistentSubscription (stream group : Bytes)
      (settings : PersistentSubscriptionSettings)
  | deletePersistentSubscription (stream group : Bytes)
  | subscribeToStream (stream : Bytes) (resolveLinkTos : Bool)
  | connectToPersistentSubscription (stream groupName : Bytes)
      (allowedInFlightMessages : UInt32)
  | unsubscribeFromStream
  | persistentSubscriptionAckEvents (subscriptionId : Bytes) (processedEventIds : List Bytes)
  | persistentSubscriptionNakEvents (subscriptionId : Bytes) (action : NakEventAction)
      (processedEventIds : List Bytes)
  | identifyClient (authenticated : Bool) (connectionName : Bytes)

namespace ClientRequest

def message (connection : ConnectionSettings) : ClientRequest -> RequestMessage
  | appendToStream stream events expectedVersion =>
      asyncAppendToStream connection stream events expectedVersion
  | conditionalAppendToStream stream events expectedVersion =>
      asyncConditionalAppendToStream connection stream events expectedVersion
  | deleteStream stream expectedVersion hardDelete =>
      asyncDeleteStream connection stream expectedVersion hardDelete
  | startTransaction stream expectedVersion =>
      asyncStartTransaction connection stream expectedVersion
  | transactionalWrite transactionId events =>
      asyncTransactionalWrite connection transactionId events
  | commitTransaction transactionId => asyncCommitTransaction connection transactionId
  | readStreamEvent stream eventNumber resolveLinkTos =>
      asyncReadStreamEvent connection stream eventNumber resolveLinkTos
  | readStreamEvents stream direction fromEventNumber maxCount resolveLinkTos =>
      asyncReadStreamEvents connection stream direction fromEventNumber maxCount resolveLinkTos
  | readAllEvents direction commitPosition preparePosition maxCount resolveLinkTos =>
      asyncReadAllEvents connection direction commitPosition preparePosition maxCount
        resolveLinkTos
  | setStreamMetadata eventId stream expectedMetastreamVersion metadata =>
      asyncSetStreamMetadata connection eventId stream expectedMetastreamVersion metadata
  | getStreamMetadata stream => asyncGetStreamMetadata connection stream
  | createPersistentSubscription stream group settings =>
      createPersistentSubscriptionMessage stream group settings
  | updatePersistentSubscription stream group settings =>
      updatePersistentSubscriptionMessage stream group settings
  | deletePersistentSubscription stream group => asyncDeletePersistentSubscription stream group
  | subscribeToStream stream resolveLinkTos =>
      Operations.subscribeToStream stream resolveLinkTos
  | connectToPersistentSubscription stream groupName allowedInFlightMessages =>
      Operations.connectToPersistentSubscription stream groupName allowedInFlightMessages
  | unsubscribeFromStream => Operations.unsubscribeFromStream
  | persistentSubscriptionAckEvents subscriptionId processedEventIds =>
      Operations.persistentSubscriptionAckEvents subscriptionId processedEventIds
  | persistentSubscriptionNakEvents subscriptionId action processedEventIds =>
      Operations.persistentSubscriptionNakEvents subscriptionId action processedEventIds
  | identifyClient _ connectionName => Operations.identifyClient connectionName

/-- The credentials in the package.  An unsubscription never has any, and an identification
has them after an authentication alone. -/
def credentials (connection : ConnectionSettings) : ClientRequest -> Option (Bytes × Bytes)
  | unsubscribeFromStream => none
  | identifyClient authenticated _ =>
      if authenticated then some connection.defaultUserCredentials else none
  | _ => connection.credentials

def package (connection : ConnectionSettings) (corrId : Guid) (r : ClientRequest) :
    Arguments :=
  { command := (r.message connection).command
    flags :=
      if (r.credentials connection).isSome then TcpFlags.authenticated else TcpFlags.none
    correlationId := corrId
    credentials := r.credentials connection
    message := (r.message connection).serialized }

/-- All but two of the requests are sent with the default credentials of the connection. -/
theorem package_of_credentials {connection : ConnectionSettings} {r : ClientRequest}
    (hcredentials : r.credentials connection = connection.credentials) (corrId : Guid) :
    r.package connection corrId =
      requestPackage connection.toSettings (r.message connection).command corrId
        (r.message connection).serialized := by
  rw [package, hcredentials, ConnectionSettings.credentials, requestPackage]
  split
  · rfl
  · rfl

theorem createPersistentSubscriptionMessage_serialized (stream group : Bytes)
    (settings : PersistentSubscriptionSettings) :
    (createPersistentSubscriptionMessage stream group settings).serialized =
      requestProtobuf.createPersistentSubscription
        (createPersistentSubscriptionRequest stream group settings) := by
  simp only [RequestMessage.serialized, createPersistentSubscriptionMessage, requestProtobuf]

theorem package_createPersistentSubscription (connection : ConnectionSettings) (corrId : Guid)
    (stream group : Bytes) (settings : PersistentSubscriptionSettings) :
    (createPersistentSubscription stream group settings).package connection corrId =
      asyncCreatePersistentSubscription requestProtobuf connection.toSettings corrId stream
        group settings := by
  rw [package_of_credentials rfl corrId, asyncCreatePersistentSubscription,
    ← createPersistentSubscriptionMessage_serialized]
  rfl

theorem updatePersistentSubscriptionMessage_serialized (stream group : Bytes)
    (settings : PersistentSubscriptionSettings) :
    (updatePersistentSubscriptionMessage stream group settings).serialized =
      requestProtobuf.updatePersistentSubscription
        (updatePersistentSubscriptionRequest stream group settings) := by
  simp only [RequestMessage.serialized, updatePersistentSubscriptionMessage, requestProtobuf]

theorem package_updatePersistentSubscription (connection : ConnectionSettings) (corrId : Guid)
    (stream group : Bytes) (settings : PersistentSubscriptionSettings) :
    (updatePersistentSubscription stream group settings).package connection corrId =
      asyncUpdatePersistentSubscription requestProtobuf connection.toSettings corrId stream
        group settings := by
  rw [package_of_credentials rfl corrId, asyncUpdatePersistentSubscription,
    ← updatePersistentSubscriptionMessage_serialized]
  rfl

end ClientRequest

end Operations
end EventStoreClient
