import EventStoreClient.Connection.Dispatch
import EventStoreClient.Error
import EventStoreClient.Foundation.Runs
import EventStoreClient.Foundation.Timer
import Mathlib.Logic.Function.Basic

/-!
# `async_connect`

Endpoint discovery, the tcp connect, `authenticate_op` and `identify_op`, chained up to
the one call of the user's handler.
-/

namespace EventStoreClient
namespace Connection

open Foundation Wire

namespace Connect

/-!
# The operations of a connect

`initial` is the state in which `async_connect` has initiated the endpoint discovery.
`register` registers the closure of an operation and starts its timer.
-/

/-- The operation objects that wait on a timer, with what they keep. -/
inductive Op where
  | authenticate
  | identify (authenticated : Bool)
  deriving DecidableEq

/-- The closures the two operations register, each with the id of its operation. -/
structure Entry where
  op : Op
  corrId : Guid
  deriving DecidableEq

inductive Phase where
  | discovering
  | connecting
  | connected
  | failed
  deriving DecidableEq

/-- `connection_settings`, and the serialized `IdentifyClient` message. -/
structure Settings where
  defaultUserCredentials : Bytes × Bytes
  maxReconnections : UInt32
  identifyClient : Bytes

def Settings.nullCredentials (settings : Settings) : Prop :=
  settings.defaultUserCredentials = ([], [])

instance (settings : Settings) : Decidable settings.nullCredentials :=
  inferInstanceAs (Decidable (_ = _))

/-- What the closures work on.  `results` are the calls of the `ConnectionResultHandler`,
and `called` the operations whose entry has been called. -/
structure World where
  settings : Settings
  phase : Phase
  ops : Guid -> Option Op
  deadline : Guid -> Timer
  reconnections : Guid -> UInt32
  called : List Guid
  results : List (ErrorCode × Option Guid)
  faults : List Fault

abbrev State := BasicTcpConnection Entry World

def initial (settings : Settings) : State :=
  { packageNo := 0
    operations := ∅
    subscriptions := ∅
    sent := []
    world :=
      { settings := settings
        phase := Phase.discovering
        ops := fun _ => none
        deadline := fun _ => Timer.idle
        reconnections := fun _ => 0
        called := []
        results := []
        faults := [] } }

def setPhase (phase : Phase) (s : State) : State :=
  { s with world := { s.world with phase := phase } }

def setDeadline (key : Guid) (t : Timer) (s : State) : State :=
  { s with world := { s.world with deadline := Function.update s.world.deadline key t } }

def addResult (ec : ErrorCode) (result : Option Guid) (s : State) : State :=
  { s with world := { s.world with results := s.world.results ++ [(ec, result)] } }

def register (key : Guid) (op : Op) (s : State) : State :=
  let s : State :=
    { s with operations := s.operations.registerOp key { op := op, corrId := key } }
  setDeadline key Timer.waiting
    { s with world := { s.world with ops := Function.update s.world.ops key (some op) } }

def identifyInitiate (key : Guid) (authenticated : Bool) (s : State) : State :=
  register key (Op.identify authenticated)
    (s.asyncSend
      { command := TcpCommand.identifyClient
        correlationId := key
        message := s.world.settings.identifyClient
        credentials :=
          if authenticated then some s.world.settings.defaultUserCredentials else none })

def authenticateInitiate (key : Guid) (s : State) : State :=
  register key Op.authenticate
    (s.asyncSend
      { command := TcpCommand.authenticate
        correlationId := key
        message := []
        credentials := some s.world.settings.defaultUserCredentials })

/-!
# The handlers

Each handler under the name of its class, with the branches of its `operator()`.  The
closure of an entry cancels its deadline when it is called, and `commandOf` is
`view.command()`, where an empty view has no package to read.
-/

def commandOf (view : Option Package) : Handler Fault State TcpCommand :=
  match view with
  | some package => pure package.command
  | none => throw Fault.nullPackage

def identificationPackageReceived (ec : ErrorCode) (view : Option Package)
    (connectionId : Guid) : Handler Fault State Unit := do
  if ec = none ∨ ec = some (Error.connection .authenticationFailed) then
    -- on success, command should be client identified
    if (<- commandOf view) = TcpCommand.clientIdentified then
      modify (addResult ec (some connectionId))
  else
    -- es connection failed
    modify (addResult ec none)

def authenticationHandler (newId : Guid) (ec : ErrorCode) (view : Option Package) :
    Handler Fault State Unit := do
  match ec with
  -- failed to authenticate, can still identify to es
  | some _ => modify (identifyInitiate newId false)
  | none =>
      let command <- commandOf view
      if command = TcpCommand.authenticated then
        modify (identifyInitiate newId true)
      else if command = TcpCommand.notAuthenticated then
        modify (identifyInitiate newId false)
      -- sent authentication request, but got garbage answer

def enterCall (key : Guid) (s : State) : State :=
  setDeadline key (s.world.deadline key).cancel
    { s with world := { s.world with called := s.world.called ++ [key] } }

/-- Run a closure; an identify operation that it makes gets the id `newId`. -/
def call (newId : Guid) (ec : ErrorCode) (view : Option Package) (_ : Guid) (e : Entry) :
    Handler Fault State Unit := do
  modify (enterCall e.corrId)
  match e.op with
  | Op.authenticate => authenticationHandler newId ec view
  | Op.identify authenticated =>
      if authenticated = false ∧ ec = none then
        identificationPackageReceived (some (Error.connection .authenticationFailed))
          view e.corrId
      else
        identificationPackageReceived ec view e.corrId

/-- `operator()` of both operations, which call the entry without erasing it. -/
def completed (newId key : Guid) (op : Op) (ec : ErrorCode) :
    Handler Fault State Unit := do
  match op, ec with
  | Op.authenticate, none =>
      let e <- BasicTcpConnection.operation key
      call newId (some (Error.connection .authenticationTimeout)) none key e
  | Op.identify authenticated, none =>
      -- check retries
      let s <- get
      if 0 < s.world.settings.maxReconnections ∧
          s.world.reconnections key < s.world.settings.maxReconnections then
        modify (fun s => { s with
          world := { s.world with
            reconnections := Function.update s.world.reconnections key
              (s.world.reconnections key + 1) } })
        modify (identifyInitiate key authenticated)
      else
        let e <- BasicTcpConnection.operation key
        call newId (some (Error.connection .operationTimeout)) none key e
  -- the response was received before timing out
  | _, some (Error.asio .operationAborted) => pure ()
  | _, some ec =>
      let e <- BasicTcpConnection.operation key
      call newId (some ec) none key e

def tcpConnected (newId : Guid) (ec : ErrorCode) (s : State) : State :=
  match ec with
  | none =>
      if s.world.settings.nullCredentials then
        setPhase Phase.connected (identifyInitiate newId false s)
      else
        setPhase Phase.connected (authenticateInitiate newId s)
  | some e => setPhase Phase.failed (addResult (some e) none s)

def endpointsDiscovered (ec : ErrorCode) (s : State) : State :=
  match ec with
  | none => setPhase Phase.connecting s
  | some _ =>
      setPhase Phase.failed
        (addResult (some (Error.connection .endpointDiscovery)) none s)

/-!
# Runs

`AnswersOnce` should hold in every state of every run; `Accepts` are the commands with
which the entry of an operation goes on.
-/

/-- What can happen to a connect.  `newId` is the id that `es::guid()` gives an operation
made in the step. -/
inductive Input where
  | discovered (ec : ErrorCode)
  | tcpConnected (ec : ErrorCode) (newId : Guid)
  | received (package : Package) (newGuid newId : Guid)
  | expired (key : Guid)
  | completed (key newId : Guid)

def settle (after : Except Fault Unit × State) : State :=
  match after with
  | (Except.ok _, s) => s
  | (Except.error fault, s) =>
      { s with world := { s.world with faults := s.world.faults ++ [fault] } }

def waitErrorCode : WaitResult -> ErrorCode
  | WaitResult.expired => none
  | WaitResult.aborted => some (Error.asio .operationAborted)

def step (s : State) : Input -> Option State
  | Input.discovered ec =>
      if s.world.phase = Phase.discovering then some (endpointsDiscovered ec s) else none
  | Input.tcpConnected ec newId =>
      if s.world.phase = Phase.connecting ∧ s.world.ops newId = none then
        some (tcpConnected newId ec s)
      else none
  | Input.received package newGuid newId =>
      if s.world.phase = Phase.connected ∧ s.world.ops newId = none then
        some (settle ((BasicTcpConnection.receive (call newId none (some package)) newGuid
          package).runOn s))
      else none
  | Input.expired key =>
      (s.world.deadline key).expire?.map fun t => setDeadline key t s
  | Input.completed key newId =>
      match s.world.ops key, (s.world.deadline key).result? with
      | some op, some result =>
          if s.world.ops newId = none then
            some (settle ((completed newId key op (waitErrorCode result)).runOn
              (setDeadline key Timer.idle s)))
          else none
      | _, _ => none

/-- The operation has been started, and has neither been answered nor timed out. -/
def Live (s : State) (key : Guid) : Prop :=
  s.world.ops key ≠ none ∧ key ∉ s.world.called

/-- Discovery and connect are over, and so is every operation they led to. -/
def Concluded (s : State) : Prop :=
  s.world.phase ≠ Phase.discovering ∧ s.world.phase ≠ Phase.connecting ∧
    forall key, ¬ Live s key

structure AnswersOnce (s : State) : Prop where
  at_most_once : s.world.results.length ≤ 1
  answered : Concluded s -> s.world.results ≠ []

def Accepts (op : Op) (command : TcpCommand) : Prop :=
  match op with
  | Op.authenticate =>
      command = TcpCommand.authenticated ∨ command = TcpCommand.notAuthenticated
  | Op.identify _ => command = TcpCommand.clientIdentified

instance (op : Op) (command : TcpCommand) : Decidable (Accepts op command) := by
  cases op <;> unfold Accepts <;> infer_instance

/-- An operation's first answer carries a command its entry goes on with, and an answer
after its timeout does not. -/
def AnswerInOrder (s : State) (package : Package) : Prop :=
  forall e, e ∈ s.operations.lookup package.correlationId ->
    (Accepts e.op package.command <-> e.corrId ∉ s.world.called)

instance (s : State) (package : Package) : Decidable (AnswerInOrder s package) :=
  inferInstanceAs (Decidable (forall e, e ∈ _ -> _))

/-- An identification with retries left does not time out once its entry is erased. -/
def TimeoutInOrder (s : State) (key : Guid) : Prop :=
  s.world.deadline key = Timer.queued WaitResult.expired ->
    s.world.reconnections key < s.world.settings.maxReconnections ->
      s.world.ops key ≠ some Op.authenticate -> key ∈ s.operations

instance (s : State) (key : Guid) : Decidable (TimeoutInOrder s key) :=
  inferInstanceAs (Decidable (_ -> _ -> _ -> _))

def InOrder (s : State) : Input -> Prop
  | Input.received package _ _ => AnswerInOrder s package
  | Input.completed key _ => TimeoutInOrder s key
  | _ => True

instance decidableInOrder (s : State) : (i : Input) -> Decidable (InOrder s i)
  | Input.discovered _ => inferInstanceAs (Decidable True)
  | Input.tcpConnected _ _ => inferInstanceAs (Decidable True)
  | Input.expired _ => inferInstanceAs (Decidable True)
  | Input.received package _ _ => inferInstanceAs (Decidable (AnswerInOrder s package))
  | Input.completed key _ => inferInstanceAs (Decidable (TimeoutInOrder s key))

/-!
# Registered closures

`inCall` is the operation whose entry is being called.
-/

/-- The registered closures are those of the operations started, and an operation whose
entry has been called does not time out any more. -/
structure Chain (inCall : Option Guid) (s : State) : Prop where
  entry_eq : forall {key e}, s.operations.lookup key = some e ->
    e.corrId = key ∧ s.world.ops key = some e.op
  called_of_erased : forall {key}, s.world.ops key ≠ none -> key ∉ s.operations ->
    key ∈ s.world.called
  started_of_called : forall {key}, key ∈ s.world.called -> s.world.ops key ≠ none
  disarmed : forall {key}, key ∈ s.operations -> key ∈ s.world.called ->
    (s.world.deadline key).Armed -> inCall = some key
  no_subscriptions : forall key, key ∉ s.subscriptions

section Chain

variable {inCall : Option Guid} {s : State} {key newId : Guid}

theorem Chain.notMem (h : Chain inCall s) (hnew : s.world.ops key = none) :
    key ∉ s.operations := by
  intro hmem
  rcases OperationsMap.entry_of_mem hmem with ⟨e, he⟩
  have hop := (h.entry_eq he).right
  rw [hnew] at hop
  cases hop

theorem Chain.register (h : Chain inCall s) (hnew : s.world.ops newId = none) (op : Op) :
    Chain inCall (register newId op s) := by
  have hmem := h.notMem hnew
  have hcalled : newId ∉ s.world.called := fun hcalled => h.started_of_called hcalled hnew
  constructor
  · intro key e he
    have he' : (s.operations.registerOp newId { op := op, corrId := newId }).lookup key =
        some e := he
    show e.corrId = key ∧ Function.update s.world.ops newId (some op) key = some e.op
    by_cases hkey : key = newId
    · subst hkey
      rw [OperationsMap.registerOp_of_notMem hmem, AList.lookup_insert] at he'
      cases he'
      simp
    · rw [OperationsMap.lookup_registerOp_ne hkey] at he'
      rw [Function.update_of_ne hkey]
      exact h.entry_eq he'
  · intro key hstarted herased
    have herased' : ¬ (key = newId ∨ key ∈ s.operations) :=
      fun hor => herased (OperationsMap.mem_registerOp.mpr hor)
    have hkey : key ≠ newId := fun heq => herased' (Or.inl heq)
    have hstarted' : Function.update s.world.ops newId (some op) key ≠ none := hstarted
    rw [Function.update_of_ne hkey] at hstarted'
    exact h.called_of_erased hstarted' fun hold => herased' (Or.inr hold)
  · intro key hkey
    show Function.update s.world.ops newId (some op) key ≠ none
    by_cases heq : key = newId
    · subst heq
      simp
    · rw [Function.update_of_ne heq]
      exact h.started_of_called hkey
  · intro key hregistered hkey harmed
    have hne : key ≠ newId := by
      rintro rfl
      exact hcalled hkey
    have harmed' : (Function.update s.world.deadline newId Timer.waiting key).Armed :=
      harmed
    rw [Function.update_of_ne hne] at harmed'
    exact h.disarmed ((OperationsMap.mem_registerOp.mp hregistered).resolve_left hne)
      hkey harmed'
  · exact h.no_subscriptions

theorem Chain.of_eq (h : Chain inCall s) {next : State}
    (hoperations : next.operations = s.operations)
    (hsubscriptions : next.subscriptions = s.subscriptions)
    (hops : next.world.ops = s.world.ops)
    (hcalled : next.world.called = s.world.called)
    (hdeadline : next.world.deadline = s.world.deadline) : Chain inCall next := by
  constructor
  · intro key e he
    rw [hoperations] at he
    rw [hops]
    exact h.entry_eq he
  · intro key hstarted herased
    rw [hops] at hstarted
    rw [hoperations] at herased
    rw [hcalled]
    exact h.called_of_erased hstarted herased
  · intro key hkey
    rw [hcalled] at hkey
    rw [hops]
    exact h.started_of_called hkey
  · intro key hregistered hkey harmed
    rw [hoperations] at hregistered
    rw [hcalled] at hkey
    rw [hdeadline] at harmed
    exact h.disarmed hregistered hkey harmed
  · rw [hsubscriptions]
    exact h.no_subscriptions

theorem Chain.setDeadline (h : Chain inCall s) {t : Timer}
    (ht : t.Armed -> key ∈ s.world.called -> (s.world.deadline key).Armed) :
    Chain inCall (setDeadline key t s) := by
  constructor
  · exact h.entry_eq
  · exact h.called_of_erased
  · exact h.started_of_called
  · intro key' hregistered hkey harmed
    have harmed' : (Function.update s.world.deadline key t key').Armed := harmed
    by_cases heq : key' = key
    · subst heq
      rw [Function.update_self] at harmed'
      exact h.disarmed hregistered hkey (ht harmed' hkey)
    · rw [Function.update_of_ne heq] at harmed'
      exact h.disarmed hregistered hkey harmed'
  · exact h.no_subscriptions

theorem Chain.enterCall (h : Chain none s) (hkey : key ∈ s.operations) :
    Chain (some key) (enterCall key s) := by
  rcases OperationsMap.entry_of_mem hkey with ⟨e, he⟩
  constructor
  · exact h.entry_eq
  · intro key' hstarted herased
    exact List.mem_append_left _ (h.called_of_erased hstarted herased)
  · intro key' hcalled
    rcases List.mem_append.mp hcalled with hold | hnew
    · exact h.started_of_called hold
    · rw [List.mem_singleton.mp hnew]
      show s.world.ops key ≠ none
      rw [(h.entry_eq he).right]
      exact Option.some_ne_none _
  · intro key' hregistered hcalled harmed
    by_cases heq : key' = key
    · rw [heq]
    · have harmed' :
          (Function.update s.world.deadline key (s.world.deadline key).cancel key').Armed :=
        harmed
      rw [Function.update_of_ne heq] at harmed'
      have hold : key' ∈ s.world.called :=
        (List.mem_append.mp hcalled).resolve_right
          fun hnew => heq (List.mem_singleton.mp hnew)
      cases h.disarmed hregistered hold harmed'
  · exact h.no_subscriptions

theorem Chain.erase (h : Chain (some key) s) (hcalled : key ∈ s.world.called) :
    Chain none (BasicTcpConnection.eraseOperation key s) := by
  constructor
  · intro key' e he
    have he' : (s.operations.erase key).lookup key' = some e := he
    by_cases heq : key' = key
    · subst heq
      rw [AList.lookup_erase] at he'
      cases he'
    · rw [AList.lookup_erase_ne heq] at he'
      exact h.entry_eq he'
  · intro key' hstarted herased
    by_cases heq : key' = key
    · rw [heq]
      exact hcalled
    · exact h.called_of_erased hstarted
        fun hold => herased (AList.mem_erase.mpr ⟨heq, hold⟩)
  · exact h.started_of_called
  · intro key' hregistered hkey' harmed
    rcases AList.mem_erase.mp hregistered with ⟨hne, hold⟩
    cases h.disarmed hold hkey' harmed
    exact absurd rfl hne
  · exact h.no_subscriptions

theorem Chain.disarm (h : Chain (some key) s) (htimer : ¬ (s.world.deadline key).Armed) :
    Chain none s := by
  refine { h with disarmed := ?_ }
  intro key' hregistered hcalled harmed
  cases h.disarmed hregistered hcalled harmed
  exact absurd harmed htimer

end Chain

/-!
# The one answer

Until the user is answered there is one thing under way: the discovery, the connect, or
one live operation.
-/

structure OneAnswer (s : State) : Prop where
  before : s.world.phase = Phase.discovering ∨ s.world.phase = Phase.connecting ->
    s.world.results = [] ∧ forall key, s.world.ops key = none
  failed : s.world.phase = Phase.failed ->
    s.world.results.length = 1 ∧ forall key, s.world.ops key = none
  connected : s.world.phase = Phase.connected ->
    (s.world.results = [] ∧ exists key, forall key', Live s key' <-> key' = key) ∨
      (s.world.results.length = 1 ∧ forall key, ¬ Live s key)

theorem OneAnswer.answersOnce {s : State} (h : OneAnswer s) : AnswersOnce s := by
  cases hphase : s.world.phase with
  | discovering =>
      rcases h.before (Or.inl hphase) with ⟨hnone, _⟩
      exact ⟨by simp [hnone], fun hover => absurd hphase hover.left⟩
  | connecting =>
      rcases h.before (Or.inr hphase) with ⟨hnone, _⟩
      exact ⟨by simp [hnone], fun hover => absurd hphase hover.right.left⟩
  | failed =>
      rcases h.failed hphase with ⟨hone, _⟩
      exact ⟨by omega, fun _ hnil => by simp [hnil] at hone⟩
  | connected =>
      rcases h.connected hphase with ⟨hnone, key, hlive⟩ | ⟨hone, _⟩
      · constructor
        · simp [hnone]
        · intro hover
          exact absurd ((hlive key).mpr rfl) (hover.right.right key)
      · exact ⟨by omega, fun _ hnil => by simp [hnil] at hone⟩

section OneAnswer

variable {s next : State} {key newId : Guid}

theorem OneAnswer.of_eq (h : OneAnswer s) (hphase : next.world.phase = s.world.phase)
    (hops : next.world.ops = s.world.ops)
    (hlive : forall key, Live next key <-> Live s key)
    (hresults : next.world.results = s.world.results) : OneAnswer next := by
  constructor
  · rw [hphase, hresults, hops]
    exact h.before
  · rw [hphase, hresults, hops]
    exact h.failed
  · rw [hphase, hresults]
    simp only [hlive]
    exact h.connected

theorem OneAnswer.of_live (h : OneAnswer s) (hlive : Live s key) :
    s.world.phase = Phase.connected ∧ s.world.results = [] ∧
      forall key', Live s key' <-> key' = key := by
  cases hphase : s.world.phase with
  | discovering => exact absurd ((h.before (Or.inl hphase)).right key) hlive.left
  | connecting => exact absurd ((h.before (Or.inr hphase)).right key) hlive.left
  | failed => exact absurd ((h.failed hphase).right key) hlive.left
  | connected =>
      rcases h.connected hphase with ⟨hnone, key', hunique⟩ | ⟨_, hdead⟩
      · have hkey := (hunique key).mp hlive
        subst hkey
        exact ⟨rfl, hnone, hunique⟩
      · exact absurd hlive (hdead key)

theorem OneAnswer.handOver (h : OneAnswer s) (newId : Guid) (hlive : Live s key)
    (hphase : next.world.phase = s.world.phase)
    (hresults : next.world.results = s.world.results)
    (hnext : forall key', Live next key' <-> key' = newId ∨ Live s key' ∧ key' ≠ key) :
    OneAnswer next := by
  rcases h.of_live hlive with ⟨hconnected, hnone, hunique⟩
  rw [hconnected] at hphase
  rw [hnone] at hresults
  refine ⟨by simp [hphase], by simp [hphase], fun _ => Or.inl ⟨hresults, newId, ?_⟩⟩
  intro key'
  rw [hnext, hunique]
  simp

theorem OneAnswer.answer (h : OneAnswer s) (hlive : Live s key)
    (hphase : next.world.phase = s.world.phase) (result : ErrorCode × Option Guid)
    (hresults : next.world.results = s.world.results ++ [result])
    (hnext : forall key', Live next key' <-> Live s key' ∧ key' ≠ key) :
    OneAnswer next := by
  rcases h.of_live hlive with ⟨hconnected, hnone, hunique⟩
  rw [hconnected] at hphase
  rw [hnone, List.nil_append] at hresults
  refine ⟨by simp [hphase], by simp [hphase], fun _ => Or.inr ⟨by simp [hresults], ?_⟩⟩
  intro key' hlive'
  rcases (hnext key').mp hlive' with ⟨hold, hne⟩
  exact hne ((hunique key').mp hold)

end OneAnswer

/-!
# The effect of a call

An entry that is called answers, or goes on with the next operation; a timeout of the
identification goes on as well.
-/

/-- The entry of an operation goes on: with the identification, or to the user. -/
def GoesOn (op : Op) (newId : Guid) (s next : State) : Prop :=
  match op with
  | Op.authenticate => exists authenticated, next = identifyInitiate newId authenticated s
  | Op.identify _ => exists ec result, next = addResult ec result s

section Calls

variable {s : State} {key newId : Guid} {package : Package} {e : Entry}

theorem call_accepts (newId key : Guid) (haccepts : Accepts e.op package.command) :
    exists next, GoesOn e.op newId (enterCall e.corrId s) next ∧
      (call newId none (some package) key e).runOn s = (Except.ok (), next) := by
  rcases e with ⟨op, corrId⟩
  cases op with
  | authenticate =>
      rcases haccepts with hcommand | hcommand
      · refine ⟨_, ⟨true, rfl⟩, ?_⟩
        simp [call, authenticationHandler, commandOf, hcommand]
      · have hne : TcpCommand.notAuthenticated ≠ TcpCommand.authenticated := by decide
        refine ⟨_, ⟨false, rfl⟩, ?_⟩
        simp [call, authenticationHandler, commandOf, hcommand, hne]
  | identify authenticated =>
      have hcommand : package.command = TcpCommand.clientIdentified := haccepts
      cases authenticated with
      | false =>
          refine ⟨_, ⟨some (Error.connection .authenticationFailed), some corrId, rfl⟩, ?_⟩
          simp [call, identificationPackageReceived, commandOf, hcommand]
      | true =>
          refine ⟨_, ⟨none, some corrId, rfl⟩, ?_⟩
          simp [call, identificationPackageReceived, commandOf, hcommand]

theorem call_rejects (hrejects : ¬ Accepts e.op package.command) :
    (call newId none (some package) key e).runOn s =
      (Except.ok (), enterCall e.corrId s) := by
  rcases e with ⟨op, corrId⟩
  cases op with
  | authenticate =>
      rcases not_or.mp hrejects with ⟨hne, hne'⟩
      simp [call, authenticationHandler, commandOf, hne, hne']
  | identify authenticated =>
      have hne : package.command ≠ TcpCommand.clientIdentified := hrejects
      cases authenticated <;>
        simp [call, identificationPackageReceived, commandOf, hne]

theorem call_timeout (newId key : Guid) {ec : Error}
    (hec : ec ≠ Error.connection .authenticationFailed) :
    exists next, GoesOn e.op newId (enterCall e.corrId s) next ∧
      (call newId (some ec) none key e).runOn s = (Except.ok (), next) := by
  rcases e with ⟨op, corrId⟩
  cases op with
  | authenticate =>
      refine ⟨_, ⟨false, rfl⟩, ?_⟩
      simp [call, authenticationHandler]
  | identify authenticated =>
      refine ⟨_, ⟨some ec, none, rfl⟩, ?_⟩
      simp [call, identificationPackageReceived, hec]

end Calls

section GoesOn

variable {inCall : Option Guid} {s next : State} {key newId : Guid} {op : Op}

theorem live_register (op : Op) (hnew : newId ∉ s.world.called) (key' : Guid) :
    Live (register newId op s) key' <-> key' = newId ∨ Live s key' := by
  show Function.update s.world.ops newId (some op) key' ≠ none ∧ key' ∉ s.world.called <->
    _
  by_cases hkey : key' = newId
  · subst hkey
    simp [hnew]
  · rw [Function.update_of_ne hkey]
    simp [hkey, Live]

theorem live_enterCall (key' : Guid) :
    Live (enterCall key s) key' <-> Live s key' ∧ key' ≠ key := by
  show s.world.ops key' ≠ none ∧ key' ∉ s.world.called ++ [key] <-> _
  rw [List.mem_append, List.mem_singleton, not_or, ← and_assoc]
  rfl

theorem GoesOn.chain (h : GoesOn op newId s next) (hchain : Chain inCall s)
    (hnew : s.world.ops newId = none) : Chain inCall next := by
  cases op with
  | authenticate =>
      rcases h with ⟨authenticated, rfl⟩
      exact Chain.register (s := s.asyncSend _) (hchain.of_eq rfl rfl rfl rfl rfl) hnew _
  | identify authenticated =>
      rcases h with ⟨ec, result, rfl⟩
      exact hchain.of_eq rfl rfl rfl rfl rfl

theorem GoesOn.called_eq (h : GoesOn op newId s next) :
    next.world.called = s.world.called := by
  cases op with
  | authenticate =>
      rcases h with ⟨authenticated, rfl⟩
      rfl
  | identify authenticated =>
      rcases h with ⟨ec, result, rfl⟩
      rfl

theorem GoesOn.deadline_eq (h : GoesOn op newId s next) (hkey : key ≠ newId) :
    next.world.deadline key = s.world.deadline key := by
  cases op with
  | authenticate =>
      rcases h with ⟨authenticated, rfl⟩
      exact Function.update_of_ne hkey _ _
  | identify authenticated =>
      rcases h with ⟨ec, result, rfl⟩
      rfl

/-- Whichever way the entry of the live operation goes on, one thing stays under way. -/
theorem GoesOn.oneAnswer (h : GoesOn op newId (enterCall key s) next)
    (hone : OneAnswer s) (hchain : Chain none s) (hlive : Live s key)
    (hnew : s.world.ops newId = none) : OneAnswer next := by
  have hcalled : newId ∉ (enterCall key s).world.called := by
    intro hmem
    rcases List.mem_append.mp hmem with hold | heq
    · exact hchain.started_of_called hold hnew
    · rw [List.mem_singleton.mp heq] at hnew
      exact hlive.left hnew
  cases op with
  | authenticate =>
      rcases h with ⟨authenticated, rfl⟩
      refine hone.handOver newId hlive rfl rfl ?_
      intro key'
      rw [← live_enterCall]
      exact live_register _ (s := (enterCall key s).asyncSend _) hcalled key'
  | identify authenticated =>
      rcases h with ⟨ec, result, rfl⟩
      refine hone.answer hlive rfl (ec, result) rfl ?_
      intro key'
      exact live_enterCall (s := s) key'

end GoesOn

/-!
# Steps and runs

The last timeout of an operation and its answer may both find it: in order the first one
goes on and a late one is dropped.  A retry finds its entry registered, and only starts
the timer again.
-/

theorem initial_chain (settings : Settings) : Chain none (initial settings) where
  entry_eq := by
    intro key e he
    cases he
  called_of_erased := by
    intro key hstarted
    exact absurd rfl hstarted
  started_of_called := by
    intro key hcalled
    cases hcalled
  disarmed := by
    intro key _ hcalled
    cases hcalled
  no_subscriptions := AList.notMem_empty

theorem initial_oneAnswer (settings : Settings) : OneAnswer (initial settings) where
  before := fun _ => ⟨rfl, fun _ => rfl⟩
  failed := by simp [initial]
  connected := by simp [initial]

section Steps

variable {s : State} {key newId newGuid : Guid}

theorem endpointsDiscovered_oneAnswer (h : OneAnswer s)
    (hphase : s.world.phase = Phase.discovering) (ec : ErrorCode) :
    OneAnswer (endpointsDiscovered ec s) := by
  rcases h.before (Or.inl hphase) with ⟨hresults, hops⟩
  cases ec with
  | none =>
      exact ⟨fun _ => ⟨hresults, hops⟩, by simp [endpointsDiscovered, setPhase],
        by simp [endpointsDiscovered, setPhase]⟩
  | some e =>
      refine ⟨by simp [endpointsDiscovered, setPhase], fun _ => ⟨?_, hops⟩,
        by simp [endpointsDiscovered, setPhase]⟩
      simp [endpointsDiscovered, setPhase, addResult, hresults]

theorem tcpConnected_oneAnswer (h : OneAnswer s) (hchain : Chain none s)
    (hphase : s.world.phase = Phase.connecting) (ec : ErrorCode) :
    OneAnswer (tcpConnected newId ec s) := by
  rcases h.before (Or.inr hphase) with ⟨hresults, hops⟩
  have hnew : newId ∉ s.world.called :=
    fun hcalled => hchain.started_of_called hcalled (hops newId)
  have hstart : forall (op : Op) (package : Package),
      OneAnswer (setPhase Phase.connected (register newId op (s.asyncSend package))) := by
    intro op package
    refine ⟨by simp [setPhase], by simp [setPhase],
      fun _ => Or.inl ⟨hresults, newId, ?_⟩⟩
    intro key'
    have hlive := live_register op (s := s.asyncSend package) hnew key'
    refine hlive.trans ⟨?_, Or.inl⟩
    rintro (heq | hold)
    · exact heq
    · exact absurd (hops key') hold.left
  cases ec with
  | none =>
      rw [tcpConnected]
      split
      · exact hstart _ _
      · exact hstart _ _
  | some e =>
      refine ⟨by simp [tcpConnected, setPhase], fun _ => ⟨?_, hops⟩,
        by simp [tcpConnected, setPhase]⟩
      simp [tcpConnected, setPhase, addResult, hresults]

theorem tcpConnected_chain (hchain : Chain none s) (hnew : s.world.ops newId = none)
    (ec : ErrorCode) : Chain none (tcpConnected newId ec s) := by
  have hstart : forall (op : Op) (package : Package),
      Chain none (setPhase Phase.connected (register newId op (s.asyncSend package))) := by
    intro op package
    have hregister := Chain.register (s := s.asyncSend package)
      (hchain.of_eq rfl rfl rfl rfl rfl) hnew op
    exact hregister.of_eq rfl rfl rfl rfl rfl
  cases ec with
  | none =>
      rw [tcpConnected]
      split
      · exact hstart _ _
      · exact hstart _ _
  | some e => exact hchain.of_eq rfl rfl rfl rfl rfl

theorem received_both (hchain : Chain none s) (hone : OneAnswer s)
    (hnew : s.world.ops newId = none) {package : Package}
    (hok : AnswerInOrder s package) :
    let next := settle ((BasicTcpConnection.receive (call newId none (some package)) newGuid
      package).runOn s)
    Chain none next ∧ OneAnswer next := by
  have hcounted : Chain none s.counted := hchain.of_eq rfl rfl rfl rfl rfl
  have hone' : OneAnswer s.counted := hone.of_eq rfl rfl (fun _ => Iff.rfl) rfl
  by_cases hkey : package.correlationId ∈ s.operations
  · rcases OperationsMap.entry_of_mem hkey with ⟨e, he⟩
    rcases hchain.entry_eq he with ⟨hid, hop⟩
    have hok' := hok e he
    rw [BasicTcpConnection.receive_operation he]
    rw [← hid] at hkey hop ⊢
    have hcall : Chain (some e.corrId) (enterCall e.corrId s.counted) :=
      hcounted.enterCall hkey
    have hcalled : e.corrId ∈ (enterCall e.corrId s.counted).world.called :=
      List.mem_append_right _ (List.mem_singleton.mpr rfl)
    by_cases hfirst : e.corrId ∈ s.world.called
    · have hrejects : ¬ Accepts e.op package.command := by
        intro haccepts
        exact hok'.mp haccepts hfirst
      rw [call_rejects hrejects]
      constructor
      · exact hcall.erase hcalled
      · refine hone'.of_eq rfl rfl ?_ rfl
        intro key'
        refine (live_enterCall key').trans ⟨And.left, fun hlive => ⟨hlive, ?_⟩⟩
        rintro rfl
        exact hlive.right hfirst
    · have hlive : Live s.counted e.corrId := by
        constructor
        · show s.world.ops e.corrId ≠ none
          rw [hop]
          exact Option.some_ne_none _
        · exact hfirst
      rcases call_accepts (s := s.counted) newId e.corrId (hok'.mpr hfirst) with
        ⟨next, hgoes, hrun⟩
      rw [hrun]
      constructor
      · apply (hgoes.chain hcall hnew).erase
        rw [hgoes.called_eq]
        exact hcalled
      · have hnext := hgoes.oneAnswer hone' hcounted hlive hnew
        exact hnext.of_eq rfl rfl (fun _ => Iff.rfl) rfl
  · rcases BasicTcpConnection.receive_other (call newId none (some package)) newGuid
      hkey (hchain.no_subscriptions _) with ⟨sent, hsent⟩
    rw [hsent]
    exact ⟨hchain.of_eq rfl rfl rfl rfl rfl,
      hone.of_eq rfl rfl (fun _ => Iff.rfl) rfl⟩

theorem timeout_both (hchain : Chain none s) (hone : OneAnswer s)
    (hnew : s.world.ops newId = none)
    (hqueued : s.world.deadline key = Timer.queued WaitResult.expired)
    {ec : Error} (hec : ec ≠ Error.connection .authenticationFailed) :
    let next := settle ((do
      let e <- BasicTcpConnection.operation key
      call newId (some ec) none key e).runOn (setDeadline key Timer.idle s))
    Chain none next ∧ OneAnswer next := by
  have hidle : Chain none (setDeadline key Timer.idle s) :=
    hchain.setDeadline fun harmed => absurd harmed Timer.not_armed_idle
  have hone' : OneAnswer (setDeadline key Timer.idle s) :=
    hone.of_eq rfl rfl (fun _ => Iff.rfl) rfl
  by_cases hkey : key ∈ s.operations
  · rcases OperationsMap.entry_of_mem hkey with ⟨e, he⟩
    rcases hchain.entry_eq he with ⟨hid, hop⟩
    have hlive : Live (setDeadline key Timer.idle s) e.corrId := by
      constructor
      · show s.world.ops e.corrId ≠ none
        rw [hid, hop]
        exact Option.some_ne_none _
      · intro hcalled
        rw [hid] at hcalled
        have harmed : (s.world.deadline key).Armed := Or.inr hqueued
        cases hchain.disarmed hkey hcalled harmed
    have hentry := BasicTcpConnection.operation_of_lookup
      (c := setDeadline key Timer.idle s) he
    rcases call_timeout (s := setDeadline key Timer.idle s) (e := e) newId key hec with
      ⟨next, hgoes, hrun⟩
    have hne : key ≠ newId := by
      rintro rfl
      rw [hop] at hnew
      cases hnew
    have hcall : Chain (some key) (enterCall key (setDeadline key Timer.idle s)) :=
      hidle.enterCall hkey
    rw [hid] at hgoes hlive
    have htimer : ¬ (next.world.deadline key).Armed := by
      rw [hgoes.deadline_eq hne]
      simp [enterCall, setDeadline, Timer.cancel, Timer.not_armed_idle]
    simp only [Handler.runOn_bind, hentry, hrun, settle]
    exact ⟨(hgoes.chain hcall hnew).disarm htimer, hgoes.oneAnswer hone' hidle hlive hnew⟩
  · have hthrow := BasicTcpConnection.operation_of_notMem
      (c := setDeadline key Timer.idle s) hkey
    simp only [Handler.runOn_bind, hthrow, settle]
    exact ⟨hidle.of_eq rfl rfl rfl rfl rfl,
      hone'.of_eq rfl rfl (fun _ => Iff.rfl) rfl⟩

theorem register_again {op : Op} (hkey : key ∈ s.operations)
    (hop : s.world.ops key = some op) :
    register key op s = setDeadline key Timer.waiting s := by
  have hops : Function.update s.world.ops key (some op) = s.world.ops := by
    rw [← hop, Function.update_eq_self]
  simp [register, OperationsMap.registerOp_of_mem hkey, hops]

theorem retry_both (hchain : Chain none s) (hone : OneAnswer s)
    (hqueued : s.world.deadline key = Timer.queued WaitResult.expired)
    (hkey : key ∈ s.operations) {authenticated : Bool}
    (hop : s.world.ops key = some (Op.identify authenticated))
    (reconnections : Guid -> UInt32) :
    let retried : State :=
      { setDeadline key Timer.idle s with
        world := { (setDeadline key Timer.idle s).world with
          reconnections := reconnections } }
    Chain none (identifyInitiate key authenticated retried) ∧
      OneAnswer (identifyInitiate key authenticated retried) := by
  intro retried
  have hwaiting : Chain none (setDeadline key Timer.waiting s) := by
    apply hchain.setDeadline
    intro _ _
    rw [hqueued]
    exact Or.inr rfl
  have hagain : identifyInitiate key authenticated retried =
      setDeadline key Timer.waiting (retried.asyncSend _) :=
    register_again (s := retried.asyncSend _) hkey hop
  rw [hagain]
  constructor
  · refine hwaiting.of_eq rfl rfl rfl rfl ?_
    show Function.update (Function.update s.world.deadline key _) key _ =
      Function.update s.world.deadline key _
    rw [Function.update_idem]
  · exact hone.of_eq rfl rfl (fun _ => Iff.rfl) rfl

theorem completed_retry (key : Guid) (authenticated : Bool)
    (hretry : 0 < s.world.settings.maxReconnections ∧
      s.world.reconnections key < s.world.settings.maxReconnections) :
    (completed newId key (Op.identify authenticated)
        (waitErrorCode WaitResult.expired)).runOn s =
      (Except.ok (), identifyInitiate key authenticated
        { s with
          world :=
            { s.world with
              reconnections := Function.update s.world.reconnections key
                (s.world.reconnections key + 1) } }) := by
  simp only [completed, waitErrorCode, Handler.runOn_bind, Handler.runOn_get,
    if_pos hretry, Handler.runOn_modify]

theorem completed_last (key : Guid) (authenticated : Bool)
    (hlast : ¬ (0 < s.world.settings.maxReconnections ∧
      s.world.reconnections key < s.world.settings.maxReconnections)) :
    (completed newId key (Op.identify authenticated)
        (waitErrorCode WaitResult.expired)).runOn s =
      (do
        let e <- BasicTcpConnection.operation key
        call newId (some (Error.connection .operationTimeout)) none key e).runOn s := by
  simp only [completed, waitErrorCode, Handler.runOn_bind, Handler.runOn_get,
    if_neg hlast]

theorem completed_both (hchain : Chain none s) (hone : OneAnswer s)
    (hnew : s.world.ops newId = none) {op : Op} (hop : s.world.ops key = some op)
    {result : WaitResult} (hqueued : s.world.deadline key = Timer.queued result)
    (hok : TimeoutInOrder s key) :
    let next := settle ((completed newId key op (waitErrorCode result)).runOn
      (setDeadline key Timer.idle s))
    Chain none next ∧ OneAnswer next := by
  cases result with
  | aborted =>
      have hdone : (completed newId key op (waitErrorCode WaitResult.aborted)).runOn
          (setDeadline key Timer.idle s) =
            (Except.ok (), setDeadline key Timer.idle s) := by
        cases op <;> simp [completed, waitErrorCode]
      rw [hdone]
      exact ⟨hchain.setDeadline fun harmed => absurd harmed Timer.not_armed_idle,
        hone.of_eq rfl rfl (fun _ => Iff.rfl) rfl⟩
  | expired =>
      cases op with
      | authenticate =>
          exact timeout_both hchain hone hnew hqueued
            (show Error.connection .authenticationTimeout ≠ _ by decide)
      | identify authenticated =>
          by_cases hretry : 0 < s.world.settings.maxReconnections ∧
              s.world.reconnections key < s.world.settings.maxReconnections
          · have hkey : key ∈ s.operations :=
              hok hqueued hretry.right (by rw [hop]; simp)
            rw [completed_retry (s := setDeadline key Timer.idle s) key authenticated hretry]
            exact retry_both hchain hone hqueued hkey hop _
          · rw [completed_last (s := setDeadline key Timer.idle s) key authenticated hretry]
            exact timeout_both hchain hone hnew hqueued
              (show Error.connection .operationTimeout ≠ _ by decide)

end Steps

theorem step_both {s next : State} {i : Input} (hchain : Chain none s) (hone : OneAnswer s)
    (hok : InOrder s i) (hstep : step s i = some next) :
    Chain none next ∧ OneAnswer next := by
  cases i with
  | discovered ec =>
      rw [step] at hstep
      split at hstep
      · rename_i hphase
        cases hstep
        constructor
        · cases ec <;> exact hchain.of_eq rfl rfl rfl rfl rfl
        · exact endpointsDiscovered_oneAnswer hone hphase ec
      · cases hstep
  | tcpConnected ec newId =>
      rw [step] at hstep
      split at hstep
      · rename_i henabled
        cases hstep
        exact ⟨tcpConnected_chain hchain henabled.right ec,
          tcpConnected_oneAnswer hone hchain henabled.left ec⟩
      · cases hstep
  | received package newGuid newId =>
      rw [step] at hstep
      split at hstep
      · rename_i henabled
        cases hstep
        exact received_both hchain hone henabled.right hok
      · cases hstep
  | expired key =>
      rw [step, Option.map_eq_some_iff] at hstep
      rcases hstep with ⟨t, ht, rfl⟩
      rcases Timer.expire?_eq_some ht with ⟨hwaiting, rfl⟩
      constructor
      · apply hchain.setDeadline
        intro _ _
        rw [hwaiting]
        exact Or.inl rfl
      · exact hone.of_eq rfl rfl (fun _ => Iff.rfl) rfl
  | completed key newId =>
      rw [step] at hstep
      cases hop : s.world.ops key with
      | none =>
          rw [hop] at hstep
          cases hstep
      | some op =>
          cases hresult : (s.world.deadline key).result? with
          | none =>
              rw [hop, hresult] at hstep
              cases hstep
          | some result =>
              rw [hop, hresult] at hstep
              simp only at hstep
              split at hstep
              · rename_i hnew
                cases hstep
                exact completed_both hchain hone hnew hop (Timer.result?_eq_some hresult) hok
              · cases hstep

/-- In a run whose answers and timeouts come in order, the user is answered at most once,
and has been answered when nothing is under way any more. -/
theorem run_answersOnce {settings : Settings} {inputs : List Input} {last : State}
    (hok : EveryStep step InOrder (initial settings) inputs)
    (hrun : run step (initial settings) inputs = some last) : AnswersOnce last := by
  have hboth : Chain none last ∧ OneAnswer last :=
    run_invariant
      (fun (hs : Chain none _ ∧ OneAnswer _) hok hstep => step_both hs.left hs.right hok hstep)
      ⟨initial_chain settings, initial_oneAnswer settings⟩ hok hrun
  exact hboth.right.answersOnce

def reply (command : TcpCommand) (b : UInt8) : Package :=
  { command := command
    correlationId := Guid.ofByte b
    message := [] }

/-- With credentials and one reconnection: the authentication is granted, and the
identification is answered after its retry, twice. -/
def identifiedAfterRetry : List Input :=
  [Input.discovered none, Input.tcpConnected none (Guid.ofByte 1),
    Input.received (reply TcpCommand.authenticated 1) (Guid.ofByte 9) (Guid.ofByte 2),
    Input.completed (Guid.ofByte 1) (Guid.ofByte 3),
    Input.expired (Guid.ofByte 2), Input.completed (Guid.ofByte 2) (Guid.ofByte 3),
    Input.received (reply TcpCommand.clientIdentified 2) (Guid.ofByte 9) (Guid.ofByte 3),
    Input.received (reply TcpCommand.clientIdentified 2) (Guid.ofByte 9) (Guid.ofByte 3)]

def withCredentials : Settings :=
  { defaultUserCredentials := ([97], [98])
    maxReconnections := 1
    identifyClient := [8, 1] }

theorem identifiedAfterRetry_answersOnce :
    exists last, run step (initial withCredentials) identifiedAfterRetry = some last ∧
      AnswersOnce last := by
  obtain ⟨last, hlast⟩ :
      exists last, run step (initial withCredentials) identifiedAfterRetry = some last :=
    Option.isSome_iff_exists.mp (by decide)
  exact ⟨last, hlast, run_answersOnce (by decide) hlast⟩

/-- Without credentials and reconnections: the identification times out, and its answer
arrives late. -/
def identifiedLate : List Input :=
  [Input.discovered none, Input.tcpConnected none (Guid.ofByte 1),
    Input.expired (Guid.ofByte 1), Input.completed (Guid.ofByte 1) (Guid.ofByte 2),
    Input.received (reply TcpCommand.clientIdentified 1) (Guid.ofByte 9) (Guid.ofByte 2)]

def withoutCredentials : Settings :=
  { defaultUserCredentials := ([], [])
    maxReconnections := 0
    identifyClient := [8, 1] }

/-- The timeout leaves the entry in the map, and the late answer calls it again. -/
theorem identifiedLate_answers_twice :
    exists last, run step (initial withoutCredentials) identifiedLate = some last ∧
      ¬ AnswersOnce last := by
  obtain ⟨last, hlast⟩ :
      exists last, run step (initial withoutCredentials) identifiedLate = some last :=
    Option.isSome_iff_exists.mp (by decide)
  refine ⟨last, hlast, ?_⟩
  intro h
  have htwice : (run step (initial withoutCredentials) identifiedLate).map
      (fun s => s.world.results) =
        some [(some (Error.connection .operationTimeout), none),
          (some (Error.connection .authenticationFailed), some (Guid.ofByte 1))] := by
    decide
  rw [hlast, Option.map_some, Option.some.injEq] at htwice
  have hone := h.at_most_once
  rw [htwice] at hone
  exact absurd hone (by decide)

end Connect

end Connection
end EventStoreClient
