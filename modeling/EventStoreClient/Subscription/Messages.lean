import EventStoreClient.Connection.Dispatch
import EventStoreClient.Operations.Messages

/-!
# Messages of a subscription

What the server sends under the correlation id of a subscription, and the events as
the client passes them on.
-/

namespace EventStoreClient
namespace Subscription

open Connection Foundation Operations Wire

inductive SubscriptionDropReason where
  | unsubscribed
  | accessDenied
  | notFound
  | persistentSubscriptionDeleted
  | subscriberMaxCountReached
  deriving DecidableEq, Repr

inductive NotHandledReason where
  | notReady
  | tooBusy
  | notMaster
  deriving DecidableEq, Repr

instance : Inhabited SubscriptionDropReason := ⟨SubscriptionDropReason.unsubscribed⟩
instance : Inhabited NotHandledReason := ⟨NotHandledReason.notReady⟩

structure SubscriptionConfirmation where
  lastCommitPosition : Option Int
  lastEventNumber : Option Int

structure PersistentSubscriptionConfirmation where
  lastCommitPosition : Option Int
  subscriptionId : Option Bytes
  lastEventNumber : Option Int

structure StreamEventAppeared where
  event : Option ResolvedEvent

structure PersistentSubscriptionStreamEventAppeared where
  event : Option ResolvedIndexedEvent
  retryCount : Option Int

structure SubscriptionDropped where
  reason : Option SubscriptionDropReason

structure NotHandled where
  reason : Option NotHandledReason

structure SubscriptionProtobuf where
  subscriptionConfirmation : Bytes -> Parsed SubscriptionConfirmation
  persistentSubscriptionConfirmation : Bytes -> Parsed PersistentSubscriptionConfirmation
  streamEventAppeared : Bytes -> Parsed StreamEventAppeared
  persistentSubscriptionStreamEventAppeared :
    Bytes -> Parsed PersistentSubscriptionStreamEventAppeared
  subscriptionDropped : Bytes -> Parsed SubscriptionDropped
  notHandled : Bytes -> Parsed NotHandled

/-- A package by its command, with the message that parsing its payload leaves.  The
parse status is never looked at. -/
inductive ServerMessage where
  | subscriptionConfirmation (response : SubscriptionConfirmation)
  | persistentSubscriptionConfirmation (response : PersistentSubscriptionConfirmation)
  | streamEventAppeared (message : StreamEventAppeared)
  | persistentSubscriptionStreamEventAppeared
      (message : PersistentSubscriptionStreamEventAppeared)
  | subscriptionDropped (message : SubscriptionDropped)
  | notAuthenticated
  | badRequest
  | notHandled (response : NotHandled)
  | other

def ServerMessage.ofPackage (pb : SubscriptionProtobuf) (p : Package) : ServerMessage :=
  if p.command = TcpCommand.subscriptionConfirmation then
    subscriptionConfirmation (pb.subscriptionConfirmation p.message).message
  else if p.command = TcpCommand.persistentSubscriptionConfirmation then
    persistentSubscriptionConfirmation
      (pb.persistentSubscriptionConfirmation p.message).message
  else if p.command = TcpCommand.streamEventAppeared then
    streamEventAppeared (pb.streamEventAppeared p.message).message
  else if p.command = TcpCommand.persistentSubscriptionStreamEventAppeared then
    persistentSubscriptionStreamEventAppeared
      (pb.persistentSubscriptionStreamEventAppeared p.message).message
  else if p.command = TcpCommand.subscriptionDropped then
    subscriptionDropped (pb.subscriptionDropped p.message).message
  else if p.command = TcpCommand.notAuthenticated then notAuthenticated
  else if p.command = TcpCommand.badRequest then badRequest
  else if p.command = TcpCommand.notHandled then
    notHandled (pb.notHandled p.message).message
  else other

structure Resolved where
  event : Option EventRecord
  link : Option EventRecord
  originalPosition : Option Position
  deriving DecidableEq, Repr

namespace Resolved

def ofResolvedEvent (e : ResolvedEvent) : Resolved :=
  { event := e.event
    link := e.link
    originalPosition := some
      { commitPosition := read e.commitPosition
        preparePosition := read e.preparePosition } }

def ofResolvedIndexedEvent (e : ResolvedIndexedEvent) : Resolved :=
  { event := e.event
    link := e.link
    originalPosition := none }

/-- The event of a message, which `mutable_event` creates where it is absent. -/
def ofStreamEventAppeared (message : StreamEventAppeared) : Resolved :=
  ofResolvedEvent (message.event.getD
    { event := none
      link := none
      commitPosition := none
      preparePosition := none })

def ofPersistentSubscriptionStreamEventAppeared
    (message : PersistentSubscriptionStreamEventAppeared) : Resolved :=
  ofResolvedIndexedEvent (message.event.getD { event := none, link := none })

def originalEvent (e : Resolved) : Option EventRecord :=
  if e.link.isSome then e.link else e.event

end Resolved

end Subscription
end EventStoreClient
