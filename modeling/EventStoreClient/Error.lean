/-!
# Error codes

The error categories of the client.  A `boost::system::error_code` that holds no
error is `none`.
-/

namespace EventStoreClient

inductive ConnectionErrors where
  | authenticationFailed
  | identificationFailed
  | operationTimeout
  | heartbeatTimeout
  | maxReconnections
  | maxOperationRetries
  | endpointDiscovery
  | unexpectedResponse
  | connectionClosed
  | authenticationTimeout
  deriving DecidableEq, Repr

inductive CommunicationErrors where
  | badLengthPrefix
  | unexpectedResponse
  | serverError
  | badRequest
  deriving DecidableEq, Repr

inductive StreamErrors where
  | wrongExpectedVersion
  | streamDeleted
  | accessDenied
  | invalidTransaction
  | streamNotFound
  | versionMismatch
  | transactionCommitted
  | transactionRolledBack
  deriving DecidableEq, Repr

inductive SubscriptionErrors where
  | unsubscribed
  | accessDenied
  | notFound
  | unknown
  | notAuthenticated
  | subscriptionRequestNotSent
  | badSubscriptionConfirmation
  | persistentSubscriptionDeleted
  | subscriberMaxCountReached
  | persistentSubscriptionAlreadyExists
  | persistentSubscriptionFail
  | persistentSubscriptionDoesNotExist
  deriving DecidableEq, Repr

/-!
The value 0 is the code of success in every category, so the enumerators start at 1.
-/

def ConnectionErrors.value : ConnectionErrors -> Nat
  | .authenticationFailed => 1
  | .identificationFailed => 2
  | .operationTimeout => 3
  | .heartbeatTimeout => 4
  | .maxReconnections => 5
  | .maxOperationRetries => 6
  | .endpointDiscovery => 7
  | .unexpectedResponse => 8
  | .connectionClosed => 9
  | .authenticationTimeout => 10

def CommunicationErrors.value : CommunicationErrors -> Nat
  | .badLengthPrefix => 1
  | .unexpectedResponse => 2
  | .serverError => 3
  | .badRequest => 4

def StreamErrors.value : StreamErrors -> Nat
  | .wrongExpectedVersion => 1
  | .streamDeleted => 2
  | .accessDenied => 3
  | .invalidTransaction => 4
  | .streamNotFound => 5
  | .versionMismatch => 6
  | .transactionCommitted => 7
  | .transactionRolledBack => 8

def SubscriptionErrors.value : SubscriptionErrors -> Nat
  | .unsubscribed => 1
  | .accessDenied => 2
  | .notFound => 3
  | .unknown => 4
  | .notAuthenticated => 5
  | .subscriptionRequestNotSent => 6
  | .badSubscriptionConfirmation => 7
  | .persistentSubscriptionDeleted => 8
  | .subscriberMaxCountReached => 9
  | .persistentSubscriptionAlreadyExists => 10
  | .persistentSubscriptionFail => 11
  | .persistentSubscriptionDoesNotExist => 12

/-- An error of the transport or of a timer, as the networking library reports it. -/
inductive AsioErrors where
  | operationAborted
  | eof
  | other (value : Nat)
  deriving DecidableEq, Repr

inductive Error where
  | connection (e : ConnectionErrors)
  | communication (e : CommunicationErrors)
  | stream (e : StreamErrors)
  | subscription (e : SubscriptionErrors)
  | asio (e : AsioErrors)
  deriving DecidableEq, Repr

/-- A code of one of the categories of the client that is not the code of success. -/
def Error.NonSuccess : Error -> Prop
  | .connection e => e.value ≠ 0
  | .communication e => e.value ≠ 0
  | .stream e => e.value ≠ 0
  | .subscription e => e.value ≠ 0
  | .asio _ => False

theorem Error.connection_nonSuccess (e : ConnectionErrors) :
    (Error.connection e).NonSuccess := by
  cases e <;> exact Nat.succ_ne_zero _

theorem Error.communication_nonSuccess (e : CommunicationErrors) :
    (Error.communication e).NonSuccess := by
  cases e <;> exact Nat.succ_ne_zero _

theorem Error.subscription_nonSuccess (e : SubscriptionErrors) :
    (Error.subscription e).NonSuccess := by
  cases e <;> exact Nat.succ_ne_zero _

abbrev ErrorCode := Option Error

end EventStoreClient
