import EventStoreClient.Connection.Connect
import EventStoreClient.Foundation.Durations
import EventStoreClient.Wire.Arguments

/-!
# Requests for persistent subscriptions

What `async_create_persistent_subscription` and `async_update_persistent_subscription` send,
and which durations get through to the server.
-/

namespace EventStoreClient
namespace Operations

open Connection Foundation Wire

/-!
# `persistent_subscription_settings`

The settings and their builder, whose strategies are `consumer_strategies`.
-/

def dispatchToSingle : Bytes := "DispatchToSingle".toUTF8.data.toList
def roundRobin : Bytes := "RoundRobin".toUTF8.data.toList

structure PersistentSubscriptionSettings where
  resolveLinkTos : Bool
  startFrom : Int64
  extraStatistics : Bool
  messageTimeout : Nanoseconds
  maxRetryCount : Int32
  liveBufferSize : Int32
  historyBufferSize : Int32
  readBatchSize : Int32
  checkpointAfter : Nanoseconds
  minCheckpointCount : Int32
  maxCheckpointCount : Int32
  maxSubscriberCount : Int32
  namedConsumerStrategy : Bytes

structure PersistentSubscriptionSettingsBuilder where
  settings : PersistentSubscriptionSettings

namespace PersistentSubscriptionSettingsBuilder

/-- The member `start_from_` has no initializer, and may be anything. -/
def new (startFrom : Int64) : PersistentSubscriptionSettingsBuilder :=
  { settings :=
      { resolveLinkTos := false
        startFrom := startFrom
        extraStatistics := false
        -- 30 seconds
        messageTimeout := { count := 30000000000 }
        maxRetryCount := 10
        liveBufferSize := 500
        historyBufferSize := 500
        readBatchSize := 20
        -- 2 seconds
        checkpointAfter := { count := 2000000000 }
        minCheckpointCount := 10
        maxCheckpointCount := 1000
        maxSubscriberCount := 0
        namedConsumerStrategy := roundRobin } }

variable (b : PersistentSubscriptionSettingsBuilder)

def resolveLinkTos : PersistentSubscriptionSettingsBuilder :=
  { settings := { b.settings with resolveLinkTos := true } }

def doNotResolveLinkTos : PersistentSubscriptionSettingsBuilder :=
  { settings := { b.settings with resolveLinkTos := false } }

def withExtraStatistics : PersistentSubscriptionSettingsBuilder :=
  { settings := { b.settings with extraStatistics := true } }

def withNamedConsumerStrategy (strategy : Bytes) : PersistentSubscriptionSettingsBuilder :=
  { settings := { b.settings with namedConsumerStrategy := strategy } }

def preferRoundRobin : PersistentSubscriptionSettingsBuilder :=
  b.withNamedConsumerStrategy roundRobin

def preferDispatchToSingle : PersistentSubscriptionSettingsBuilder :=
  b.withNamedConsumerStrategy dispatchToSingle

def startFrom (position : Int64) : PersistentSubscriptionSettingsBuilder :=
  { settings := { b.settings with startFrom := position } }

def startFromBeginning : PersistentSubscriptionSettingsBuilder := b.startFrom 0

def startFromCurrent : PersistentSubscriptionSettingsBuilder := b.startFrom (-1)

def withMessageTimeout (timeout : Nanoseconds) : PersistentSubscriptionSettingsBuilder :=
  { settings := { b.settings with messageTimeout := timeout } }

def dontTimeoutMessages : PersistentSubscriptionSettingsBuilder := b.withMessageTimeout 0

def checkpointAfter (time : Nanoseconds) : PersistentSubscriptionSettingsBuilder :=
  { settings := { b.settings with checkpointAfter := time } }

def minimumCheckpointCountOf (count : Int32) : PersistentSubscriptionSettingsBuilder :=
  { settings := { b.settings with minCheckpointCount := count } }

def maximumCheckpointCountOf (count : Int32) : PersistentSubscriptionSettingsBuilder :=
  { settings := { b.settings with maxCheckpointCount := count } }

def withMaxRetriesOf (count : Int32) : PersistentSubscriptionSettingsBuilder :=
  { settings := { b.settings with maxRetryCount := count } }

def withLiveBufferSizeOf (size : Int32) : PersistentSubscriptionSettingsBuilder :=
  { settings := { b.settings with liveBufferSize := size } }

def withReadBatchSizeOf (size : Int32) : PersistentSubscriptionSettingsBuilder :=
  { settings := { b.settings with readBatchSize := size } }

def withHistoryBufferSizeOf (size : Int32) : PersistentSubscriptionSettingsBuilder :=
  { settings := { b.settings with historyBufferSize := size } }

def withMaxSubscriberCountOf (count : Int32) : PersistentSubscriptionSettingsBuilder :=
  { settings := { b.settings with maxSubscriberCount := count } }

def build : PersistentSubscriptionSettings := b.settings

end PersistentSubscriptionSettingsBuilder

/-!
# The requests

Both functions set the same fields, with `ES_MILLISECONDS` of the durations.  The
constructor of the package takes the flags, and so writes the serialized request.
-/

/-- The fields of `CreatePersistentSubscription` and of `UpdatePersistentSubscription`, which
are the same. -/
structure PersistentSubscriptionRequest where
  subscriptionGroupName : Bytes
  eventStreamId : Bytes
  resolveLinkTos : Bool
  startFrom : Int64
  messageTimeoutMilliseconds : Int32
  recordStatistics : Bool
  liveBufferSize : Int32
  readBatchSize : Int32
  bufferSize : Int32
  maxRetryCount : Int32
  preferRoundRobin : Bool
  checkpointAfterTime : Int32
  checkpointMaxCount : Int32
  checkpointMinCount : Int32
  subscriberMaxCount : Int32
  namedConsumerStrategy : Bytes

abbrev CreatePersistentSubscription := PersistentSubscriptionRequest
abbrev UpdatePersistentSubscription := PersistentSubscriptionRequest

def esMilliseconds (d : Nanoseconds) : Int64 :=
  (d.coarsen 1000000 : Milliseconds).count

def persistentSubscriptionRequest (stream group : Bytes)
    (settings : PersistentSubscriptionSettings) : PersistentSubscriptionRequest :=
  { subscriptionGroupName := group
    eventStreamId := stream
    resolveLinkTos := settings.resolveLinkTos
    startFrom := settings.startFrom
    messageTimeoutMilliseconds := (esMilliseconds settings.messageTimeout).toInt32
    recordStatistics := settings.extraStatistics
    liveBufferSize := settings.liveBufferSize
    readBatchSize := settings.readBatchSize
    bufferSize := settings.historyBufferSize
    maxRetryCount := settings.maxRetryCount
    preferRoundRobin := settings.namedConsumerStrategy = roundRobin
    checkpointAfterTime := (esMilliseconds settings.checkpointAfter).toInt32
    checkpointMaxCount := settings.maxCheckpointCount
    checkpointMinCount := settings.minCheckpointCount
    subscriberMaxCount := settings.maxSubscriberCount
    namedConsumerStrategy := settings.namedConsumerStrategy }

def createPersistentSubscriptionRequest :
    Bytes -> Bytes -> PersistentSubscriptionSettings -> CreatePersistentSubscription :=
  persistentSubscriptionRequest

def updatePersistentSubscriptionRequest :
    Bytes -> Bytes -> PersistentSubscriptionSettings -> UpdatePersistentSubscription :=
  persistentSubscriptionRequest

/-- `SerializeAsString` of the requests, which is not part of the client. -/
structure RequestProtobuf where
  createPersistentSubscription : CreatePersistentSubscription -> Bytes
  updatePersistentSubscription : UpdatePersistentSubscription -> Bytes

/-- The package for a request, with the default credentials of the connection if it has
some. -/
def requestPackage (connection : Connect.Settings) (command : TcpCommand) (corrId : Guid)
    (serialized : Bytes) : Arguments :=
  if connection.nullCredentials then
    { command := command
      flags := TcpFlags.none
      correlationId := corrId
      credentials := none
      message := serialized }
  else
    { command := command
      flags := TcpFlags.authenticated
      correlationId := corrId
      credentials := some connection.defaultUserCredentials
      message := serialized }

/-- The package that `async_create_persistent_subscription` sends, under a new id. -/
def asyncCreatePersistentSubscription (pb : RequestProtobuf) (connection : Connect.Settings)
    (corrId : Guid) (stream group : Bytes) (settings : PersistentSubscriptionSettings) :
    Arguments :=
  requestPackage connection TcpCommand.createPersistentSubscription corrId
    (pb.createPersistentSubscription
      (createPersistentSubscriptionRequest stream group settings))

/-- The package that `async_update_persistent_subscription` sends, under a new id. -/
def asyncUpdatePersistentSubscription (pb : RequestProtobuf) (connection : Connect.Settings)
    (corrId : Guid) (stream group : Bytes) (settings : PersistentSubscriptionSettings) :
    Arguments :=
  requestPackage connection TcpCommand.updatePersistentSubscription corrId
    (pb.updatePersistentSubscription
      (updatePersistentSubscriptionRequest stream group settings))

theorem requestPackage_constructed (connection : Connect.Settings) (command : TcpCommand)
    (corrId : Guid) (serialized : Bytes) :
    (requestPackage connection command corrId serialized).Constructed := by
  unfold requestPackage Arguments.Constructed
  split
  · simp [TcpFlags.none]
  · simp [TcpFlags.authenticated]

/-!
# Which durations get through

2 ^ 31 milliseconds are too many for an `int32`.  The durations that the builder starts
with survive.
-/

def encodedMessageTimeout
    (request : PersistentSubscriptionSettings -> PersistentSubscriptionRequest)
    (b : PersistentSubscriptionSettingsBuilder) (timeout : Nanoseconds) : Int32 :=
  (request (b.withMessageTimeout timeout).build).messageTimeoutMilliseconds

/-- What they carry for the time after which a checkpoint is written. -/
def encodedCheckpointAfter
    (request : PersistentSubscriptionSettings -> PersistentSubscriptionRequest)
    (b : PersistentSubscriptionSettingsBuilder) (time : Nanoseconds) : Int32 :=
  (request (b.checkpointAfter time).build).checkpointAfterTime

/-- Both durations keep their sign, are told from zero, and are in order with all that are
shorter. -/
structure DurationsSurvive
    (request : PersistentSubscriptionSettings -> PersistentSubscriptionRequest)
    (b : PersistentSubscriptionSettingsBuilder) (timeout time : Nanoseconds) : Prop where
  messageTimeout : Faithful (encodedMessageTimeout request b) timeout
  checkpointAfter : Faithful (encodedCheckpointAfter request b) time

def oneMillisecond : Nanoseconds := { count := 1000000 }

def tooManyMilliseconds : Nanoseconds := { count := 2147483648000000 }

/-- A duration that is zero, or at least a millisecond and less than 2 ^ 31 of them. -/
def Representable (d : Nanoseconds) : Prop :=
  d = 0 ∨ (oneMillisecond ≤ d ∧ d < tooManyMilliseconds)

theorem faithful_esMilliseconds_iff {d : Nanoseconds} (hd : 0 ≤ d) :
    Faithful (fun d => (esMilliseconds d).toInt32) d <-> Representable d := by
  have hlong : oneMillisecond ≤ d <-> (1000000 : Int) ≤ d.count.toInt :=
    Int64.le_iff_toInt_le
  have hfits : d < tooManyMilliseconds <-> d.count.toInt < 1000000 * 2 ^ 31 :=
    Int64.lt_iff_toInt_lt
  rw [Representable, hlong, hfits]
  exact Duration.faithful_coarsen_iff 1000000 1000 (by decide) (by decide) hd

/-- The durations get through exactly if they are zero, or at least a millisecond and less
than 2 ^ 31 of them. -/
theorem durationsSurvive_iff (stream group : Bytes) (b : PersistentSubscriptionSettingsBuilder)
    {timeout time : Nanoseconds} (htimeout : 0 ≤ timeout) (htime : 0 ≤ time) :
    DurationsSurvive (createPersistentSubscriptionRequest stream group) b timeout time ∧
        DurationsSurvive (updatePersistentSubscriptionRequest stream group) b timeout time <->
      Representable timeout ∧ Representable time := by
  rw [← faithful_esMilliseconds_iff htimeout, ← faithful_esMilliseconds_iff htime]
  constructor
  · rintro ⟨hcreate, _⟩
    exact ⟨hcreate.messageTimeout, hcreate.checkpointAfter⟩
  · rintro ⟨hmessageTimeout, hcheckpointAfter⟩
    exact ⟨⟨hmessageTimeout, hcheckpointAfter⟩, ⟨hmessageTimeout, hcheckpointAfter⟩⟩

theorem initialDurations_survive :
    DurationsSurvive (createPersistentSubscriptionRequest [] [])
        (PersistentSubscriptionSettingsBuilder.new 0) { count := 30000000000 }
        { count := 2000000000 } ∧
      DurationsSurvive (updatePersistentSubscriptionRequest [] [])
        (PersistentSubscriptionSettingsBuilder.new 0) { count := 30000000000 }
        { count := 2000000000 } :=
  (durationsSurvive_iff [] [] (PersistentSubscriptionSettingsBuilder.new 0) (by decide)
    (by decide)).mpr ⟨Or.inr (by decide), Or.inr (by decide)⟩

/-- Half a millisecond is sent as no timeout, and 2 ^ 31 milliseconds as a negative one. -/
theorem shortAndLong_lost :
    ¬ DurationsSurvive (createPersistentSubscriptionRequest [] [])
        (PersistentSubscriptionSettingsBuilder.new 0) { count := 500000 }
        { count := 2000000000 } ∧
      ¬ DurationsSurvive (createPersistentSubscriptionRequest [] [])
        (PersistentSubscriptionSettingsBuilder.new 0) tooManyMilliseconds
        { count := 2000000000 } := by
  constructor
  · intro h
    have hsent : encodedMessageTimeout (createPersistentSubscriptionRequest [] [])
        (PersistentSubscriptionSettingsBuilder.new 0) { count := 500000 } = 0 := by
      decide
    have hnone := h.messageTimeout.zero_only hsent
    exact absurd hnone (by decide)
  · intro h
    have hsent : encodedMessageTimeout (createPersistentSubscriptionRequest [] [])
        (PersistentSubscriptionSettingsBuilder.new 0) tooManyMilliseconds = -2147483648 := by
      decide
    have hnonneg := h.messageTimeout.nonneg
    rw [hsent] at hnonneg
    exact absurd hnonneg (by decide)

end Operations
end EventStoreClient
