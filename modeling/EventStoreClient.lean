import EventStoreClient.Buffer.Refinement
import EventStoreClient.Cluster.GossipCandidates
import EventStoreClient.Cluster.Service
import EventStoreClient.Connection.Authentication
import EventStoreClient.Connection.Heartbeat
import EventStoreClient.Connection.Operation
import EventStoreClient.Connection.Receive
import EventStoreClient.Connection.Send
import EventStoreClient.Operations.Conversation
import EventStoreClient.Operations.LogPositions
import EventStoreClient.Operations.Payloads
import EventStoreClient.Operations.PersistentSubscriptions
import EventStoreClient.Operations.Transactions
import EventStoreClient.Session.CatchingUp
import EventStoreClient.Session.Deliveries
import EventStoreClient.Session.Results
import EventStoreClient.Subscription.Acknowledging
import EventStoreClient.Subscription.Answered
import EventStoreClient.Subscription.CatchupAllDelivery
import EventStoreClient.Subscription.CatchupAllReading
import EventStoreClient.Subscription.CatchupDelivery
import EventStoreClient.Subscription.CatchupLive
import EventStoreClient.Subscription.CatchupReading
import EventStoreClient.Subscription.Connected
import EventStoreClient.Subscription.DrainingSafely
import EventStoreClient.Subscription.Unsubscribing
import EventStoreClient.Wire.Encoder
import EventStoreClient.Wire.Framing
