import EventStoreClient.Foundation.FieldTypes
import EventStoreClient.Subscription.Messages

/-!
# The messages of the protocol

The messages of `messages.proto` that the client writes or reads, with their fields in the
order of their numbers, which is the order in which they are written.
-/

namespace EventStoreClient
namespace Messages

open Foundation Operations Subscription

/-!
# Enumerations
-/

def operationResult : FieldType.Enumeration OperationResult :=
  FieldType.Enumeration.ofValues .success
    [.prepareTimeout, .commitTimeout, .forwardTimeout, .wrongExpectedVersion, .streamDeleted,
      .invalidTransaction, .accessDenied]
    (fun a => by cases a <;> decide) (by decide)

def readEventResult : FieldType.Enumeration ReadEventResult :=
  FieldType.Enumeration.ofValues .success
    [.notFound, .noStream, .streamDeleted, .error, .accessDenied]
    (fun a => by cases a <;> decide) (by decide)

def readStreamResult : FieldType.Enumeration ReadStreamResult :=
  FieldType.Enumeration.ofValues .success
    [.noStream, .streamDeleted, .notModified, .error, .accessDenied]
    (fun a => by cases a <;> decide) (by decide)

def readAllResult : FieldType.Enumeration ReadAllResult :=
  FieldType.Enumeration.ofValues .success [.notModified, .error, .accessDenied]
    (fun a => by cases a <;> decide) (by decide)

def updatePersistentSubscriptionResult :
    FieldType.Enumeration UpdatePersistentSubscriptionResult :=
  FieldType.Enumeration.ofValues .success [.doesNotExist, .fail, .accessDenied]
    (fun a => by cases a <;> decide) (by decide)

def createPersistentSubscriptionResult :
    FieldType.Enumeration CreatePersistentSubscriptionResult :=
  FieldType.Enumeration.ofValues .success [.alreadyExists, .fail, .accessDenied]
    (fun a => by cases a <;> decide) (by decide)

def deletePersistentSubscriptionResult :
    FieldType.Enumeration DeletePersistentSubscriptionResult :=
  FieldType.Enumeration.ofValues .success [.doesNotExist, .fail, .accessDenied]
    (fun a => by cases a <;> decide) (by decide)

inductive NakAction where
  | unknown
  | park
  | retry
  | skip
  | stop
  deriving DecidableEq, Repr

def nakAction : FieldType.Enumeration NakAction :=
  FieldType.Enumeration.ofValues .unknown [.park, .retry, .skip, .stop]
    (fun a => by cases a <;> decide) (by decide)

def subscriptionDropReason : FieldType.Enumeration SubscriptionDropReason :=
  FieldType.Enumeration.ofValues .unsubscribed
    [.accessDenied, .notFound, .persistentSubscriptionDeleted, .subscriberMaxCountReached]
    (fun a => by cases a <;> decide) (by decide)

def notHandledReason : FieldType.Enumeration NotHandledReason :=
  FieldType.Enumeration.ofValues .notReady [.tooBusy, .notMaster]
    (fun a => by cases a <;> decide) (by decide)

/-!
# Events
-/

open Field FieldType

def newEvent : MessageType :=
  { fields :=
      [ required 1 bytes,       -- event_id
        required 2 bytes,       -- event_type
        required 3 int32,       -- data_content_type
        required 4 int32,       -- metadata_content_type
        required 5 bytes,       -- data
        optional 6 bytes ] }    -- metadata

def eventRecord : MessageType :=
  { fields :=
      [ required 1 bytes,       -- event_stream_id
        required 2 int64,       -- event_number
        required 3 bytes,       -- event_id
        required 4 bytes,       -- event_type
        required 5 int32,       -- data_content_type
        required 6 int32,       -- metadata_content_type
        required 7 bytes,       -- data
        optional 8 bytes,       -- metadata
        optional 9 int64,       -- created
        optional 10 int64 ] }   -- created_epoch

def resolvedIndexedEvent : MessageType :=
  { fields :=
      [ required 1 (message eventRecord),   -- event
        optional 2 (message eventRecord) ] }  -- link

def resolvedEvent : MessageType :=
  { fields :=
      [ required 1 (message eventRecord),   -- event
        optional 2 (message eventRecord),   -- link
        required 3 int64,                   -- commit_position
        required 4 int64 ] }                -- prepare_position

/-!
# Writes
-/

def writeEvents : MessageType :=
  { fields :=
      [ required 1 bytes,                -- event_stream_id
        required 2 int64,                -- expected_version
        repeated 3 (message newEvent),   -- events
        required 4 bool ] }              -- require_master

def writeEventsCompleted : MessageType :=
  { fields :=
      [ required 1 (enumeration operationResult),   -- result
        optional 2 bytes,                           -- message
        required 3 int64,                           -- first_event_number
        required 4 int64,                           -- last_event_number
        optional 5 int64,                           -- prepare_position
        optional 6 int64,                           -- commit_position
        optional 7 int64 ] }                        -- current_version

def deleteStream : MessageType :=
  { fields :=
      [ required 1 bytes,     -- event_stream_id
        required 2 int64,     -- expected_version
        required 3 bool,      -- require_master
        optional 4 bool ] }   -- hard_delete

def deleteStreamCompleted : MessageType :=
  { fields :=
      [ required 1 (enumeration operationResult),   -- result
        optional 2 bytes,                           -- message
        optional 3 int64,                           -- prepare_position
        optional 4 int64 ] }                        -- commit_position

def transactionStart : MessageType :=
  { fields :=
      [ required 1 bytes,     -- event_stream_id
        required 2 int64,     -- expected_version
        required 3 bool ] }   -- require_master

def transactionStartCompleted : MessageType :=
  { fields :=
      [ required 1 int64,                           -- transaction_id
        required 2 (enumeration operationResult),   -- result
        optional 3 bytes ] }                        -- message

def transactionWrite : MessageType :=
  { fields :=
      [ required 1 int64,                -- transaction_id
        repeated 2 (message newEvent),   -- events
        required 3 bool ] }              -- require_master

def transactionWriteCompleted : MessageType :=
  { fields :=
      [ required 1 int64,                           -- transaction_id
        required 2 (enumeration operationResult),   -- result
        optional 3 bytes ] }                        -- message

def transactionCommit : MessageType :=
  { fields :=
      [ required 1 int64,     -- transaction_id
        required 2 bool ] }   -- require_master

def transactionCommitCompleted : MessageType :=
  { fields :=
      [ required 1 int64,                           -- transaction_id
        required 2 (enumeration operationResult),   -- result
        optional 3 bytes,                           -- message
        required 4 int64,                           -- first_event_number
        required 5 int64,                           -- last_event_number
        optional 6 int64,                           -- prepare_position
        optional 7 int64 ] }                        -- commit_position

/-!
# Reads
-/

def readEvent : MessageType :=
  { fields :=
      [ required 1 bytes,     -- event_stream_id
        required 2 int64,     -- event_number
        required 3 bool,      -- resolve_link_tos
        required 4 bool ] }   -- require_master

def readEventCompleted : MessageType :=
  { fields :=
      [ required 1 (enumeration readEventResult),     -- result
        required 2 (message resolvedIndexedEvent),    -- event
        optional 3 bytes ] }                          -- error

def readStreamEvents : MessageType :=
  { fields :=
      [ required 1 bytes,     -- event_stream_id
        required 2 int64,     -- from_event_number
        required 3 int32,     -- max_count
        required 4 bool,      -- resolve_link_tos
        required 5 bool ] }   -- require_master

def readStreamEventsCompleted : MessageType :=
  { fields :=
      [ repeated 1 (message resolvedIndexedEvent),   -- events
        required 2 (enumeration readStreamResult),   -- result
        required 3 int64,                            -- next_event_number
        required 4 int64,                            -- last_event_number
        required 5 bool,                             -- is_end_of_stream
        required 6 int64,                            -- last_commit_position
        optional 7 bytes ] }                         -- error

def readAllEvents : MessageType :=
  { fields :=
      [ required 1 int64,     -- commit_position
        required 2 int64,     -- prepare_position
        required 3 int32,     -- max_count
        required 4 bool,      -- resolve_link_tos
        required 5 bool ] }   -- require_master

def readAllEventsCompleted : MessageType :=
  { fields :=
      [ required 1 int64,                         -- commit_position
        required 2 int64,                         -- prepare_position
        repeated 3 (message resolvedEvent),       -- events
        required 4 int64,                         -- next_commit_position
        required 5 int64,                         -- next_prepare_position
        optional 6 (enumeration readAllResult),   -- result
        optional 7 bytes ] }                      -- error

/-!
# Persistent subscriptions
-/

/-- `CreatePersistentSubscription` and `UpdatePersistentSubscription` have the same
fields. -/
def persistentSubscription : MessageType :=
  { fields :=
      [ required 1 bytes,      -- subscription_group_name
        required 2 bytes,      -- event_stream_id
        required 3 bool,       -- resolve_link_tos
        required 4 int64,      -- start_from
        required 5 int32,      -- message_timeout_milliseconds
        required 6 bool,       -- record_statistics
        required 7 int32,      -- live_buffer_size
        required 8 int32,      -- read_batch_size
        required 9 int32,      -- buffer_size
        required 10 int32,     -- max_retry_count
        required 11 bool,      -- prefer_round_robin
        required 12 int32,     -- checkpoint_after_time
        required 13 int32,     -- checkpoint_max_count
        required 14 int32,     -- checkpoint_min_count
        required 15 int32,     -- subscriber_max_count
        optional 16 bytes ] }  -- named_consumer_strategy

def createPersistentSubscription : MessageType := persistentSubscription

def updatePersistentSubscription : MessageType := persistentSubscription

def deletePersistentSubscription : MessageType :=
  { fields :=
      [ required 1 bytes,       -- subscription_group_name
        required 2 bytes ] }    -- event_stream_id

def createPersistentSubscriptionCompleted : MessageType :=
  { fields :=
      [ required 1 (enumeration createPersistentSubscriptionResult),   -- result
        optional 2 bytes ] }                                           -- reason

def updatePersistentSubscriptionCompleted : MessageType :=
  { fields :=
      [ required 1 (enumeration updatePersistentSubscriptionResult),   -- result
        optional 2 bytes ] }                                           -- reason

def deletePersistentSubscriptionCompleted : MessageType :=
  { fields :=
      [ required 1 (enumeration deletePersistentSubscriptionResult),   -- result
        optional 2 bytes ] }                                           -- reason

def connectToPersistentSubscription : MessageType :=
  { fields :=
      [ required 1 bytes,      -- subscription_id
        required 2 bytes,      -- event_stream_id
        required 3 int32 ] }   -- allowed_in_flight_messages

def persistentSubscriptionAckEvents : MessageType :=
  { fields :=
      [ required 1 bytes,       -- subscription_id
        repeated 2 bytes ] }    -- processed_event_ids

def persistentSubscriptionNakEvents : MessageType :=
  { fields :=
      [ required 1 bytes,                       -- subscription_id
        repeated 2 bytes,                       -- processed_event_ids
        optional 3 bytes,                       -- message
        required 4 (enumeration nakAction) ] }  -- action

def persistentSubscriptionConfirmation : MessageType :=
  { fields :=
      [ required 1 int64,      -- last_commit_position
        required 2 bytes,      -- subscription_id
        optional 3 int64 ] }   -- last_event_number

def persistentSubscriptionStreamEventAppeared : MessageType :=
  { fields :=
      [ required 1 (message resolvedIndexedEvent),   -- event
        optional 2 int32 ] }                         -- retryCount

/-!
# Subscriptions
-/

def subscribeToStream : MessageType :=
  { fields :=
      [ required 1 bytes,     -- event_stream_id
        required 2 bool ] }   -- resolve_link_tos

def subscriptionConfirmation : MessageType :=
  { fields :=
      [ required 1 int64,      -- last_commit_position
        optional 2 int64 ] }   -- last_event_number

def streamEventAppeared : MessageType :=
  { fields :=
      [ required 1 (message resolvedEvent) ] }   -- event

def unsubscribeFromStream : MessageType :=
  { fields := [] }

def subscriptionDropped : MessageType :=
  { fields :=
      [ optional 1 (enumeration subscriptionDropReason) ] }   -- reason

/-!
# The node
-/

def notHandled : MessageType :=
  { fields :=
      [ required 1 (enumeration notHandledReason),   -- reason
        optional 2 bytes ] }                         -- additional_info

def identifyClient : MessageType :=
  { fields :=
      [ required 1 int32,      -- version
        optional 2 bytes ] }   -- connection_name

end Messages
end EventStoreClient
