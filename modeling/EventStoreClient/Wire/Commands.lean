/-!
# Commands, flags and correlation ids

The one-byte fields of a package header and the 16-byte correlation id.
-/

namespace EventStoreClient
namespace Wire

/-- `tcp_command`.  The enumeration has the underlying type `std::uint8_t`, and
the client reads it straight from the wire, so every byte is a value of it. -/
structure TcpCommand where
  byte : UInt8
  deriving DecidableEq, Repr

namespace TcpCommand

def heartbeatRequestCommand : TcpCommand := ⟨0x01⟩
def heartbeatResponseCommand : TcpCommand := ⟨0x02⟩

def writeEvents : TcpCommand := ⟨0x82⟩
def writeEventsCompleted : TcpCommand := ⟨0x83⟩
def transactionStart : TcpCommand := ⟨0x84⟩
def transactionStartCompleted : TcpCommand := ⟨0x85⟩
def transactionWrite : TcpCommand := ⟨0x86⟩
def transactionWriteCompleted : TcpCommand := ⟨0x87⟩
def transactionCommit : TcpCommand := ⟨0x88⟩
def transactionCommitCompleted : TcpCommand := ⟨0x89⟩
def deleteStream : TcpCommand := ⟨0x8A⟩
def deleteStreamCompleted : TcpCommand := ⟨0x8B⟩

def readEvent : TcpCommand := ⟨0xB0⟩
def readEventCompleted : TcpCommand := ⟨0xB1⟩
def readStreamEventsForward : TcpCommand := ⟨0xB2⟩
def readStreamEventsForwardCompleted : TcpCommand := ⟨0xB3⟩
def readStreamEventsBackward : TcpCommand := ⟨0xB4⟩
def readStreamEventsBackwardCompleted : TcpCommand := ⟨0xB5⟩
def readAllEventsForward : TcpCommand := ⟨0xB6⟩
def readAllEventsForwardCompleted : TcpCommand := ⟨0xB7⟩
def readAllEventsBackward : TcpCommand := ⟨0xB8⟩
def readAllEventsBackwardCompleted : TcpCommand := ⟨0xB9⟩

def subscribeToStream : TcpCommand := ⟨0xC0⟩
def subscriptionConfirmation : TcpCommand := ⟨0xC1⟩
def streamEventAppeared : TcpCommand := ⟨0xC2⟩
def unsubscribeFromStream : TcpCommand := ⟨0xC3⟩
def subscriptionDropped : TcpCommand := ⟨0xC4⟩
def connectToPersistentSubscription : TcpCommand := ⟨0xC5⟩
def persistentSubscriptionConfirmation : TcpCommand := ⟨0xC6⟩
def persistentSubscriptionStreamEventAppeared : TcpCommand := ⟨0xC7⟩
def createPersistentSubscription : TcpCommand := ⟨0xC8⟩
def createPersistentSubscriptionCompleted : TcpCommand := ⟨0xC9⟩
def deletePersistentSubscription : TcpCommand := ⟨0xCA⟩
def deletePersistentSubscriptionCompleted : TcpCommand := ⟨0xCB⟩
def persistentSubscriptionAckEvents : TcpCommand := ⟨0xCC⟩
def persistentSubscriptionNakEvents : TcpCommand := ⟨0xCD⟩
def updatePersistentSubscription : TcpCommand := ⟨0xCE⟩
def updatePersistentSubscriptionCompleted : TcpCommand := ⟨0xCF⟩

def badRequest : TcpCommand := ⟨0xF0⟩
def notHandled : TcpCommand := ⟨0xF1⟩
def authenticate : TcpCommand := ⟨0xF2⟩
def authenticated : TcpCommand := ⟨0xF3⟩
def notAuthenticated : TcpCommand := ⟨0xF4⟩
def identifyClient : TcpCommand := ⟨0xF5⟩
def clientIdentified : TcpCommand := ⟨0xF6⟩

end TcpCommand

structure TcpFlags where
  byte : UInt8
  deriving DecidableEq, Repr

namespace TcpFlags

def none : TcpFlags := ⟨0x00⟩
def authenticated : TcpFlags := ⟨0x01⟩

end TcpFlags

structure Guid where
  data : List UInt8
  size_eq : data.length = 16
  deriving DecidableEq, Repr

namespace Guid

def ofByte (b : UInt8) : Guid :=
  { data := List.replicate 16 b
    size_eq := List.length_replicate }

end Guid

end Wire
end EventStoreClient
