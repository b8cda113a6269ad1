import EventStoreClient.Connection.Operation
import EventStoreClient.Session.Packages

/-!
# A session

The connection with its operations and subscriptions, its queue of packages, the bytes on
their way in both directions, and a server that answers the requests that it has read.
-/

namespace EventStoreClient
namespace Session

open Connection Foundation Operations Wire

/-!
# The state

The connection, the two pipes between client and server, the server, and what has happened
so far: what was started, read, sent and told.  The generator of the ids does not give the
same one twice.
-/

structure Setting where
  connection : ConnectionSettings
  -- the packages that the server may answer a request with
  answers : ReadRequest -> Package -> Bool
  -- what lies in memory behind a frame
  beyond : Nat -> UInt8

structure State where
  client : Operation.State
  sending : SendState
  toServer : Pipe UInt8
  toClient : Pipe UInt8
  -- the frames that `on_package_received` has been called with
  handled : Nat
  -- the requests of the operations and of the subscriptions, and what the server has sent
  requests : List (Guid × ClientRequest)
  heartbeats : List Guid
  replies : List Outgoing
  -- the packages that the entries have been called with
  told : List (Guid × Package)

def initial : State :=
  { client := Operation.initial
    sending := SendState.start
    toServer := Pipe.empty
    toClient := Pipe.empty
    handled := 0
    requests := []
    heartbeats := []
    replies := []
    told := [] }

def requestPackage (connection : ConnectionSettings) (request : Guid × ClientRequest) :
    Package :=
  { command := (request.2.message connection).command
    correlationId := request.1
    message := (request.2.message connection).serialized
    credentials := request.2.credentials connection }

def heartbeatRequest (key : Guid) : Outgoing :=
  Outgoing.ofServer TcpCommand.heartbeatRequestCommand key [] (by decide)

def socketOf (p : Pipe UInt8) : Socket :=
  { pieces := p.pieces
    failure := AsioErrors.eof }

def framesOf (p : Pipe UInt8) : List Frame :=
  (asyncStartReceive (DynamicBuffer.ofVector []) (socketOf p)).frames

namespace State

variable (w : Setting)

def served (s : State) : List (Option ReadRequest) :=
  readRequests w.beyond (DynamicBuffer.ofVector []) (socketOf s.toServer)

def New (key : Guid) (s : State) : Prop :=
  key ∉ s.requests.map Prod.fst ∧ key ∉ s.heartbeats

instance (key : Guid) (s : State) : Decidable (New key s) :=
  inferInstanceAs (Decidable (_ ∧ _))

def Registered (key : Guid) (s : State) : Prop :=
  key ∈ s.client.operations ∨ key ∈ s.client.subscriptions

instance (key : Guid) (s : State) : Decidable (Registered key s) :=
  inferInstanceAs (Decidable (_ ∨ _))

def TimesOut (key : Guid) (s : State) : Prop :=
  s.client.world.deadline key = Timer.queued WaitResult.expired ∧ key ∈ s.client.operations

instance (key : Guid) (s : State) : Decidable (TimesOut key s) :=
  inferInstanceAs (Decidable (_ ∧ _))

/-!
# What happens to it

The packages that the connection was given go to its queue, the posted closures and the
writes go on, and the server answers a request that it has read.
-/

def adopt (client : Operation.State) (s : State) : Option State :=
  (run sendStep s.sending
    ((client.sent.drop s.client.sent.length).map fun p => SendInput.asyncSend p.sendable)).map
      fun sending => { s with client := client, sending := sending }

def act (i : Operation.Input) (s : State) : Option State :=
  (Operation.step s.client i).bind fun client => s.adopt client

def transmit (i : SendInput) (s : State) : Option State :=
  (sendStep s.sending i).map fun sending =>
    { s with
      sending := sending
      toServer := s.toServer.write (sending.socketBytes.drop s.sending.socketBytes.length) }

/-- The next frame that has arrived is handled.  The user's code that is called makes the
requests `nested`. -/
def receive (newGuid : Guid) (nested : List (Guid × ClientRequest)) (s : State) :
    Option State :=
  match (framesOf s.toClient)[s.handled]? with
  | none => none
  | some frame =>
      match readPackage (frameView w.beyond frame) with
      | none => none
      | some p =>
          if s.Registered p.correlationId then
            { s with
              handled := s.handled + 1
              requests := s.requests ++ nested
              told := s.told ++ [(p.correlationId, p)] }.act
                (.received p newGuid (nested.map (requestPackage w.connection)))
          else if nested = [] then
            { s with handled := s.handled + 1 }.act (.received p newGuid [])
          else none

def Answers (p : Outgoing) (s : State) : Prop :=
  (s.served w).any (fun q =>
    q.any fun q => q.correlationId = p.correlationId && w.answers q p.received) = true

instance (p : Outgoing) (s : State) : Decidable (s.Answers w p) :=
  inferInstanceAs (Decidable (_ = true))

def reply (p : Outgoing) (s : State) : State :=
  { s with
    replies := s.replies ++ [p]
    toClient := s.toClient.write p.package.bytes }

end State

inductive Input where
  | request (key : Guid) (r : ClientRequest)
  | subscribe (key : Guid) (r : ClientRequest)
  -- what a subscription sends later
  | tell (key : Guid) (r : ClientRequest)
  | unsubscribe (key : Guid)
  | runPosted
  | written (i : Nat)
  | writeFailed (i : Nat)
  | arriveAtServer (n : Nat)
  | reply (p : Outgoing)
  | heartbeat (key : Guid)
  | arriveAtClient (n : Nat)
  | receive (newGuid : Guid) (nested : List (Guid × ClientRequest))
  | expired (key : Guid)
  | completed (key : Guid) (nested : List (Guid × ClientRequest))

/-- What one input does.  The ids of new requests and of heartbeats are new. -/
def step (w : Setting) (s : State) : Input -> Option State
  | .request key r =>
      if s.New key then
        { s with requests := s.requests ++ [(key, r)] }.act
          (.asyncSend (requestPackage w.connection (key, r)))
      else none
  | .subscribe key r =>
      if s.New key then
        let registered : State :=
          { s with
            client :=
              { s.client with
                subscriptions :=
                  s.client.subscriptions.registerOp key Operation.Entry.subscription }
            requests := s.requests ++ [(key, r)] }
        registered.adopt (registered.client.asyncSend (requestPackage w.connection (key, r)))
      else none
  | .tell key r =>
      if key ∈ s.requests.map Prod.fst ∧ key ∉ s.client.world.started then
        { s with requests := s.requests ++ [(key, r)] }.adopt
          (s.client.asyncSend (requestPackage w.connection (key, r)))
      else none
  | .unsubscribe key => s.act (.unsubscribe key)
  | .runPosted => s.transmit .runPosted
  | .written i => s.transmit (.written i)
  | .writeFailed i => s.transmit (.writeFailed i)
  | .arriveAtServer n => some { s with toServer := s.toServer.arrive n }
  | .reply p => if s.Answers w p then some (s.reply p) else none
  | .heartbeat key =>
      if s.New key then
        some ({ s with heartbeats := s.heartbeats ++ [key] }.reply (heartbeatRequest key))
      else none
  | .arriveAtClient n => some { s with toClient := s.toClient.arrive n }
  | .receive newGuid nested =>
      if forall request, request ∈ nested -> s.New request.1 then
        s.receive w newGuid nested
      else none
  | .expired key => s.act (.expired key)
  | .completed key nested =>
      if forall request, request ∈ nested -> s.New request.1 then
        if s.TimesOut key ∨ nested = [] then
          { s with requests := s.requests ++ nested }.act
            (.completed key (nested.map (requestPackage w.connection)))
        else none
      else none

end Session
end EventStoreClient
