import EventStoreClient.Connection.OperationsMap
import EventStoreClient.Foundation.Bytes
import EventStoreClient.Foundation.Handler

/-!
# The dispatch of received packages

`basic_tcp_connection` with its two maps, and `on_package_received`, which calls the
entry a package is for.
-/

namespace EventStoreClient
namespace Connection

open Foundation Wire

/-- What can leave a handler: the exception of `at`, a read through the null pointer of
a view, the exception of `value`, or a read of an object that is not there. -/
inductive Fault where
  | outOfRange (key : Guid)
  | nullPackage
  | badOptionalAccess
  | noObject
  deriving DecidableEq

/-- A package as the accessors of a valid view give it.  Login and password are there if
it is flagged authenticated. -/
structure Package where
  command : TcpCommand
  correlationId : Guid
  message : Bytes
  credentials : Option (Bytes × Bytes) := none
  deriving DecidableEq

/-- `basic_tcp_connection`.  The entries of both maps are closures of type `entry`,
which work on the connection and on the rest of the program, `world`. -/
structure BasicTcpConnection (entry world : Type) where
  packageNo : UInt32
  operations : OperationsMap entry
  subscriptions : OperationsMap entry
  -- the packages given to `async_send`, oldest first
  sent : List Package
  world : world

namespace BasicTcpConnection

variable {entry world : Type}

/-- The same connection with the rest of the program seen through `f`. -/
def mapWorld {other : Type} (f : world -> other) (c : BasicTcpConnection entry world) :
    BasicTcpConnection entry other :=
  { packageNo := c.packageNo
    operations := c.operations
    subscriptions := c.subscriptions
    sent := c.sent
    world := f c.world }

def asyncSend (package : Package) (c : BasicTcpConnection entry world) :
    BasicTcpConnection entry world :=
  { c with sent := c.sent ++ [package] }

def operation (key : Guid) : Handler Fault (BasicTcpConnection entry world) entry := do
  match (<- get).operations.lookup key with
  | some entry => pure entry
  | none => throw (Fault.outOfRange key)

def eraseOperation (key : Guid) (c : BasicTcpConnection entry world) :
    BasicTcpConnection entry world :=
  { c with operations := c.operations.erase key }

/-- `on_package_received`.  The correlation id and the command are read from the view
where the code reads them; `call` runs the entry found under an id. -/
def onPackageReceived
    (call : Guid -> entry -> Handler Fault (BasicTcpConnection entry world) Unit)
    (newGuid : Guid)
    (correlationId : Handler Fault (BasicTcpConnection entry world) Guid)
    (command : Handler Fault (BasicTcpConnection entry world) TcpCommand) :
    Handler Fault (BasicTcpConnection entry world) Unit := do
  modify (fun c => { c with packageNo := c.packageNo + 1 })
  let corrId <- correlationId
  let c <- get
  if corrId ∈ c.operations then
    call corrId (<- operation corrId)
    modify (eraseOperation corrId)
  else
    match c.subscriptions.lookup corrId with
    -- don't erase it, subscription operations post their deletion
    | some entry => call corrId entry
    | none =>
        if (<- command) = TcpCommand.heartbeatRequestCommand then
          modify (asyncSend
            { command := TcpCommand.heartbeatResponseCommand
              correlationId := newGuid
              message := [] })
        -- a heartbeat response, a bad request and an unexpected command are only logged

variable {call : Guid -> entry -> Handler Fault (BasicTcpConnection entry world) Unit}
  {newGuid key : Guid} {p : Package} {c : BasicTcpConnection entry world}

theorem operation_of_lookup {e : entry} (h : c.operations.lookup key = some e) :
    (operation key).runOn c = (Except.ok e, c) := by
  simp [operation, h]

theorem operation_of_notMem (h : key ∉ c.operations) :
    (operation key).runOn c = (Except.error (Fault.outOfRange key), c) := by
  simp [operation, AList.lookup_eq_none.mpr h]

def receive (call : Guid -> entry -> Handler Fault (BasicTcpConnection entry world) Unit)
    (newGuid : Guid) (p : Package) : Handler Fault (BasicTcpConnection entry world) Unit :=
  onPackageReceived call newGuid (pure p.correlationId) (pure p.command)

def counted (c : BasicTcpConnection entry world) : BasicTcpConnection entry world :=
  { c with packageNo := c.packageNo + 1 }

theorem receive_operation {e : entry}
    (h : c.operations.lookup p.correlationId = some e) :
    (receive call newGuid p).runOn c =
      match (call p.correlationId e).runOn c.counted with
      | (Except.ok _, next) => (Except.ok (), eraseOperation p.correlationId next)
      | (Except.error f, next) => (Except.error f, next) := by
  have hmem : p.correlationId ∈ c.operations := by
    rw [← AList.lookup_isSome, h]
    rfl
  have hentry : (operation p.correlationId).runOn c.counted =
      (Except.ok e, c.counted) := operation_of_lookup h
  simp only [receive, onPackageReceived, Handler.runOn_bind, Handler.runOn_modify,
    Handler.runOn_pure, Handler.runOn_get, if_pos hmem]
  rw [← counted, hentry]
  simp only
  rcases (call p.correlationId e).runOn c.counted with ⟨r, next⟩
  cases r <;> rfl

theorem receive_subscription {e : entry} (hnone : p.correlationId ∉ c.operations)
    (h : c.subscriptions.lookup p.correlationId = some e) :
    (receive call newGuid p).runOn c = (call p.correlationId e).runOn c.counted := by
  simp only [receive, onPackageReceived, Handler.runOn_bind, Handler.runOn_modify,
    Handler.runOn_pure, Handler.runOn_get, if_neg hnone, h]
  rfl

/-- A package for neither map calls no entry, and only a heartbeat request is answered. -/
theorem receive_unregistered
    (call : Guid -> entry -> Handler Fault (BasicTcpConnection entry world) Unit)
    (newGuid : Guid) (hnone : p.correlationId ∉ c.operations)
    (h : p.correlationId ∉ c.subscriptions) :
    (receive call newGuid p).runOn c =
      (Except.ok (),
        if p.command = TcpCommand.heartbeatRequestCommand then
          c.counted.asyncSend
            { command := TcpCommand.heartbeatResponseCommand
              correlationId := newGuid
              message := [] }
        else c.counted) := by
  simp only [receive, onPackageReceived, Handler.runOn_bind, Handler.runOn_modify,
    Handler.runOn_pure, Handler.runOn_get, if_neg hnone, AList.lookup_eq_none.mpr h]
  split
  · rfl
  · rfl

theorem receive_other
    (call : Guid -> entry -> Handler Fault (BasicTcpConnection entry world) Unit)
    (newGuid : Guid) (hnone : p.correlationId ∉ c.operations)
    (h : p.correlationId ∉ c.subscriptions) :
    exists sent, (receive call newGuid p).runOn c =
      (Except.ok (), { c.counted with sent := sent }) := by
  rw [receive_unregistered call newGuid hnone h]
  split
  · exact ⟨_, rfl⟩
  · exact ⟨c.sent, rfl⟩

/-- An invariant of the world outside the connection is kept by a reception if it is
kept by the accessors and by the entries. -/
theorem keeps_onPackageReceived {inv : world -> Prop}
    {correlationId : Handler Fault (BasicTcpConnection entry world) Guid}
    {command : Handler Fault (BasicTcpConnection entry world) TcpCommand}
    (hcall : forall key e, Handler.Keeps (fun c => inv c.world) (call key e))
    (hcorrelationId : Handler.Keeps (fun c => inv c.world) correlationId)
    (hcommand : Handler.Keeps (fun c => inv c.world) command) :
    Handler.Keeps (fun c => inv c.world)
      (onPackageReceived call newGuid correlationId command) := by
  refine Handler.keeps_bind (Handler.keeps_modify fun _ h => h) fun _ => ?_
  refine Handler.keeps_bind hcorrelationId fun corrId => ?_
  refine Handler.keeps_bind Handler.keeps_get fun c => ?_
  split
  · refine Handler.keeps_bind ?_ fun e => ?_
    · refine Handler.keeps_bind Handler.keeps_get fun c' => ?_
      cases c'.operations.lookup corrId with
      | none => exact Handler.keeps_throw _
      | some e => exact Handler.keeps_pure e
    · exact Handler.keeps_bind (hcall corrId e) fun _ =>
        Handler.keeps_modify fun _ h => h
  · cases c.subscriptions.lookup corrId with
    | some e => exact hcall corrId e
    | none =>
        refine Handler.keeps_bind hcommand fun cmd => ?_
        split
        · exact Handler.keeps_modify fun _ h => h
        · exact Handler.keeps_pure _

/-- Two connections that differ in their world alone are dispatched alike, if their
accessors and entries agree up to a projection of the world. -/
theorem projects_onPackageReceived {other : Type} {f : world -> other}
    {call' : Guid -> entry -> Handler Fault (BasicTcpConnection entry other) Unit}
    {correlationId : Handler Fault (BasicTcpConnection entry world) Guid}
    {correlationId' : Handler Fault (BasicTcpConnection entry other) Guid}
    {command : Handler Fault (BasicTcpConnection entry world) TcpCommand}
    {command' : Handler Fault (BasicTcpConnection entry other) TcpCommand}
    (hcall : forall key e, Handler.Projects (mapWorld f) (call key e) (call' key e))
    (hcorrelationId : Handler.Projects (mapWorld f) correlationId correlationId')
    (hcommand : Handler.Projects (mapWorld f) command command') :
    Handler.Projects (mapWorld f)
      (onPackageReceived call newGuid correlationId command)
      (onPackageReceived call' newGuid correlationId' command') := by
  refine Handler.projects_bind (Handler.projects_modify fun _ => rfl) fun _ => ?_
  refine Handler.projects_bind hcorrelationId fun corrId => ?_
  refine Handler.projects_get_bind fun c => ?_
  by_cases hmem : corrId ∈ c.operations
  · have hmem' : corrId ∈ (c.mapWorld f).operations := hmem
    rw [if_pos hmem, if_pos hmem']
    refine Handler.projects_bind ?_ fun e => ?_
    · refine Handler.projects_get_bind fun c' => ?_
      show Handler.Projects (mapWorld f) (match c'.operations.lookup corrId with
        | some e => pure e
        | none => throw _) (match c'.operations.lookup corrId with
        | some e => pure e
        | none => throw _)
      cases c'.operations.lookup corrId with
      | none => exact Handler.projects_throw _
      | some e => exact Handler.projects_pure e
    · exact Handler.projects_bind (hcall corrId e) fun _ =>
        Handler.projects_modify fun _ => rfl
  · have hmem' : corrId ∉ (c.mapWorld f).operations := hmem
    rw [if_neg hmem, if_neg hmem']
    show Handler.Projects (mapWorld f) (match c.subscriptions.lookup corrId with
      | some e => call corrId e
      | none => _) (match c.subscriptions.lookup corrId with
      | some e => call' corrId e
      | none => _)
    cases c.subscriptions.lookup corrId with
    | some e => exact hcall corrId e
    | none =>
        refine Handler.projects_bind hcommand fun cmd => ?_
        split
        · exact Handler.projects_modify fun _ => rfl
        · exact Handler.projects_pure _

end BasicTcpConnection

end Connection
end EventStoreClient
