import EventStoreClient.Connection.Connect
import EventStoreClient.Foundation.Histories

/-!
# Authentication

What stands behind a success of `async_connect`: a request for authentication, its grant,
and the identification that follows.
-/

namespace EventStoreClient
namespace Connection

open Foundation Wire

namespace Authentication

open Connect

/-!
# What a run shows

A step shows what it handles, and then what it sends and reports.  A success has to be
earned by the answer to the identification; anything else is reported with an error code.
-/

/-- The packages that are sent and received, the timeouts of authentication requests, and
the calls of the `ConnectionResultHandler`. -/
inductive Event where
  | sent (package : Package)
  | received (package : Package)
  | timedOut (key : Guid)
  | reported (ec : ErrorCode) (result : Option Guid)
  deriving DecidableEq

def handled (s : State) : Input -> List Event
  | Input.received package _ _ => [Event.received package]
  | Input.completed key _ =>
      if s.world.ops key = some Op.authenticate ∧
          s.world.deadline key = Timer.queued WaitResult.expired then
        [Event.timedOut key]
      else []
  | _ => []

def reported (results : List (ErrorCode × Option Guid)) : List Event :=
  results.map fun result => Event.reported result.1 result.2

def shown (s : State) (i : Input) (next : State) : List Event :=
  handled s i ++ ((next.sent.drop s.sent.length).map Event.sent ++
    reported (next.world.results.drop s.world.results.length))

/-- The package that grants the authentication requested under an id. -/
def Event.grants (key : Guid) : Event -> Bool
  | received package =>
      decide (package.command = TcpCommand.authenticated ∧ package.correlationId = key)
  | _ => false

/-- A refusal of the authentication requested under an id, or its timeout. -/
def Event.fails (key : Guid) : Event -> Bool
  | received package =>
      decide (package.command = TcpCommand.notAuthenticated ∧ package.correlationId = key)
  | timedOut key' => decide (key' = key)
  | _ => false

def Event.decides (key : Guid) (e : Event) : Bool := e.grants key || e.fails key

/-- The authentication was refused or timed out before it was granted. -/
def Failed (key : Guid) (history : List Event) : Prop :=
  exists e, history.find? (Event.decides key) = some e ∧ e.fails key = true

/-- An authentication was requested and granted, and then an identification was requested
under this id. -/
def Granted (key : Guid) (history : List Event) : Prop :=
  exists request grant identify : Package,
    request.command = TcpCommand.authenticate ∧
      (grant.command = TcpCommand.authenticated ∧
        grant.correlationId = request.correlationId) ∧
      (identify.command = TcpCommand.identifyClient ∧ identify.correlationId = key) ∧
      [Event.sent request, Event.received grant, Event.sent identify].Sublist history

def Earned (history : List Event) : Prop :=
  exists request grant identify answer : Package,
    request.command = TcpCommand.authenticate ∧
      (grant.command = TcpCommand.authenticated ∧
        grant.correlationId = request.correlationId) ∧
      identify.command = TcpCommand.identifyClient ∧
      (answer.command = TcpCommand.clientIdentified ∧
        answer.correlationId = identify.correlationId) ∧
      [Event.sent request, Event.received grant, Event.sent identify,
        Event.received answer].Sublist history

def Event.IsSuccess (e : Event) : Prop :=
  exists result, e = Event.reported none result

def OnlyErrors (history : List Event) : Prop :=
  forall ec result, Event.reported ec result ∈ history -> ec ≠ none

structure NoFalseAuthentication (settings : Settings) (history : List Event) : Prop where
  earned : Preceded Event.IsSuccess Earned history
  failed : forall request, Event.sent request ∈ history ->
    request.command = TcpCommand.authenticate ->
      Failed request.correlationId history -> OnlyErrors history
  anonymous : settings.nullCredentials -> OnlyErrors history

/-- The authentication is not granted once its timeout has called the entry, which stays
registered. -/
def GrantedInTime (s : State) : Input -> Prop
  | Input.received package _ _ =>
      package.command = TcpCommand.authenticated ->
        forall e, e ∈ s.operations.lookup package.correlationId ->
          e.op = Op.authenticate -> e.corrId ∉ s.world.called
  | _ => True

instance decidableGrantedInTime (s : State) : (i : Input) -> Decidable (GrantedInTime s i)
  | Input.received package _ _ =>
      inferInstanceAs (Decidable (package.command = _ -> forall e, e ∈ _ -> _ -> _))
  | Input.discovered _ => inferInstanceAs (Decidable True)
  | Input.tcpConnected _ _ => inferInstanceAs (Decidable True)
  | Input.expired _ => inferInstanceAs (Decidable True)
  | Input.completed _ _ => inferInstanceAs (Decidable True)

/-!
# What a step does

Most steps leave the registered operations as they are, or erase an entry; the others
start an operation, or start it again.  A move says why a step does it.
-/

def Early (s : State) : Prop :=
  s.world.phase = Phase.discovering ∨ s.world.phase = Phase.connecting

/-- What changes in a step: the entry `made`, the packages `sent`, and the `results`. -/
structure Does (s next : State) (made : Option Entry) (sent : List Package)
    (results : List (ErrorCode × Option Guid)) : Prop where
  sent_eq : next.sent = s.sent ++ sent
  results_eq : next.world.results = s.world.results ++ results
  settings_eq : next.world.settings = s.world.settings
  subscriptions_eq : next.subscriptions = s.subscriptions
  ops_eq : next.world.ops =
    made.elim s.world.ops fun e => Function.update s.world.ops e.corrId (some e.op)
  entry : forall {key e}, next.operations.lookup key = some e ->
    s.operations.lookup key = some e ∨ made = some e ∧ e.corrId = key
  called : forall {key}, key ∈ s.world.called -> key ∈ next.world.called
  early : Early next -> Early s ∧ made = none

section Does

variable {s mid next : State} {made : Option Entry} {sent : List Package}
  {results : List (ErrorCode × Option Guid)} {key : Guid}

theorem Does.after (h : Does s mid none [] []) (hnext : Does mid next made sent results) :
    Does s next made sent results where
  sent_eq := by rw [hnext.sent_eq, h.sent_eq, List.append_nil]
  results_eq := by rw [hnext.results_eq, h.results_eq, List.append_nil]
  settings_eq := hnext.settings_eq.trans h.settings_eq
  subscriptions_eq := hnext.subscriptions_eq.trans h.subscriptions_eq
  ops_eq := by rw [hnext.ops_eq, h.ops_eq]; rfl
  entry := by
    intro key e he
    rcases hnext.entry he with hmid | hmade
    · rcases h.entry hmid with hold | ⟨hnone, _⟩
      · exact Or.inl hold
      · cases hnone
    · exact Or.inr hmade
  called := fun hkey => hnext.called (h.called hkey)
  early := fun hearly => ⟨(h.early (hnext.early hearly).left).left, (hnext.early hearly).right⟩

theorem Does.before (h : Does s mid made sent results) (hnext : Does mid next none [] []) :
    Does s next made sent results where
  sent_eq := by rw [hnext.sent_eq, h.sent_eq, List.append_nil]
  results_eq := by rw [hnext.results_eq, h.results_eq, List.append_nil]
  settings_eq := hnext.settings_eq.trans h.settings_eq
  subscriptions_eq := hnext.subscriptions_eq.trans h.subscriptions_eq
  ops_eq := by rw [hnext.ops_eq]; exact h.ops_eq
  entry := by
    intro key e he
    rcases hnext.entry he with hmid | ⟨hnone, _⟩
    · exact h.entry hmid
    · cases hnone
  called := fun hkey => hnext.called (h.called hkey)
  early := fun hearly => h.early (hnext.early hearly).left

theorem does_nothing (hsent : next.sent = s.sent)
    (hresults : next.world.results = s.world.results)
    (hsettings : next.world.settings = s.world.settings)
    (hsubscriptions : next.subscriptions = s.subscriptions)
    (hops : next.world.ops = s.world.ops)
    (hentry : forall {key e}, next.operations.lookup key = some e ->
      s.operations.lookup key = some e)
    (hcalled : forall {key}, key ∈ s.world.called -> key ∈ next.world.called)
    (hearly : Early next -> Early s) : Does s next none [] [] where
  sent_eq := by rw [hsent, List.append_nil]
  results_eq := by rw [hresults, List.append_nil]
  settings_eq := hsettings
  subscriptions_eq := hsubscriptions
  ops_eq := hops
  entry := fun he => Or.inl (hentry he)
  called := hcalled
  early := fun h => ⟨hearly h, rfl⟩

theorem does_enterCall (key : Guid) : Does s (enterCall key s) none [] [] :=
  does_nothing rfl rfl rfl rfl rfl id (List.mem_append_left _) id

theorem does_counted : Does s s.counted none [] [] :=
  does_nothing rfl rfl rfl rfl rfl id id id

theorem does_setDeadline (key : Guid) (t : Timer) :
    Does s (setDeadline key t s) none [] [] :=
  does_nothing rfl rfl rfl rfl rfl id id id

theorem does_eraseOperation (key : Guid) :
    Does s (BasicTcpConnection.eraseOperation key s) none [] [] := by
  have hentry {key' : Guid} {e : Entry}
      (he : (s.operations.erase key).lookup key' = some e) :
      s.operations.lookup key' = some e := by
    by_cases heq : key' = key
    · rw [heq, AList.lookup_erase] at he
      cases he
    · rwa [AList.lookup_erase_ne heq] at he
  exact does_nothing rfl rfl rfl rfl rfl hentry id id

theorem does_settle (outcome : Except Fault Unit) :
    Does s (settle (outcome, s)) none [] [] := by
  cases outcome with
  | ok _ => exact does_nothing rfl rfl rfl rfl rfl id id id
  | error fault => exact does_nothing rfl rfl rfl rfl rfl id id id

theorem does_addResult (ec : ErrorCode) (result : Option Guid) :
    Does s (addResult ec result s) none [] [(ec, result)] where
  sent_eq := (List.append_nil _).symm
  results_eq := rfl
  settings_eq := rfl
  subscriptions_eq := rfl
  ops_eq := rfl
  entry := Or.inl
  called := id
  early := fun h => ⟨h, rfl⟩

theorem does_register (phase : Phase) (op : Op) (package : Package)
    (hphase : phase ≠ Phase.discovering ∧ phase ≠ Phase.connecting) :
    Does s (setPhase phase (register key op (s.asyncSend package)))
      (some { op := op, corrId := key }) [package] [] where
  sent_eq := rfl
  results_eq := (List.append_nil _).symm
  settings_eq := rfl
  subscriptions_eq := rfl
  ops_eq := rfl
  entry := by
    intro key' e he
    have he' : (s.operations.registerOp key { op := op, corrId := key }).lookup key' =
        some e := he
    by_cases heq : key' = key
    · by_cases hkey : key ∈ s.operations
      · rw [OperationsMap.registerOp_of_mem hkey] at he'
        exact Or.inl he'
      · rw [heq, OperationsMap.registerOp_of_notMem hkey, AList.lookup_insert] at he'
        cases he'
        exact Or.inr ⟨rfl, heq.symm⟩
    · rw [OperationsMap.lookup_registerOp_ne heq] at he'
      exact Or.inl he'
  called := id
  early := by
    rintro (hdiscovering | hconnecting)
    · exact absurd hdiscovering hphase.left
    · exact absurd hconnecting hphase.right

end Does

inductive Move (s : State) :
    Input -> Option Entry -> List Package -> List (ErrorCode × Option Guid) -> Prop where
  | nothing {i : Input} : Move s i none [] []
  | heartbeat {i : Input} (newGuid : Guid) :
      Move s i none
        [{ command := TcpCommand.heartbeatResponseCommand
           correlationId := newGuid
           message := [] }] []
  | error {i : Input} (ec : Error) (result : Option Guid) : Move s i none [] [(some ec, result)]
  | authenticate {ec : ErrorCode} {newId : Guid} {package : Package} (hearly : Early s)
      (hcredentials : ¬ s.world.settings.nullCredentials)
      (hcommand : package.command = TcpCommand.authenticate)
      (hid : package.correlationId = newId) :
      Move s (Input.tcpConnected ec newId) (some { op := Op.authenticate, corrId := newId })
        [package] []
  | identify {i : Input} {newId : Guid} {package : Package} (hnew : s.world.ops newId = none)
      (hcommand : package.command = TcpCommand.identifyClient) :
      Move s i (some { op := Op.identify false, corrId := newId }) [package] []
  | again {i : Input} {key : Guid} {authenticated : Bool} {package : Package}
      (hop : s.world.ops key = some (Op.identify authenticated))
      (hcommand : package.command = TcpCommand.identifyClient) :
      Move s i (some { op := Op.identify authenticated, corrId := key }) [package] []
  | granted {p package : Package} {newGuid newId : Guid} (hnew : s.world.ops newId = none)
      (hgrant : p.command = TcpCommand.authenticated) (hkey : p.correlationId ∈ s.operations)
      (hop : s.world.ops p.correlationId = some Op.authenticate)
      (hcommand : package.command = TcpCommand.identifyClient)
      (hid : package.correlationId = newId) :
      Move s (Input.received p newGuid newId)
        (some { op := Op.identify true, corrId := newId }) [package] []
  | identified {p : Package} {newGuid newId : Guid}
      (hanswer : p.command = TcpCommand.clientIdentified)
      (hop : s.world.ops p.correlationId = some (Op.identify true)) (result : Option Guid) :
      Move s (Input.received p newGuid newId) none [] [(none, result)]

/-!
# Steps

Each step is explained by a move.  A package erases the entry it is for, and the last
timeout of an operation calls its entry, if that is still there.
-/

/-- The registered closures are those of operations that have been started. -/
structure Tracked (s : State) : Prop where
  entry_eq : forall {key e}, s.operations.lookup key = some e ->
    e.corrId = key ∧ s.world.ops key = some e.op
  no_subscriptions : forall key, key ∉ s.subscriptions
  early : Early s -> forall key, s.world.ops key = none

def Moves (s : State) (i : Input) (next : State) : Prop :=
  exists made sent results, Does s next made sent results ∧ Move s i made sent results

def Closed (key : Guid) (s : State) : Prop :=
  key ∈ s.operations -> key ∈ s.world.called

section Steps

variable {s next : State} {i : Input} {key newId : Guid} {p : Package} {e : Entry}

theorem does_identifyInitiate (hlate : ¬ Early s) (key : Guid) (authenticated : Bool) :
    exists package : Package, package.command = TcpCommand.identifyClient ∧
      package.correlationId = key ∧
        Does s (identifyInitiate key authenticated s)
          (some { op := Op.identify authenticated, corrId := key }) [package] [] :=
  ⟨_, rfl, rfl, does_register s.world.phase _ _ (not_or.mp hlate)⟩

theorem call_moves (newGuid : Guid) (hlate : ¬ Early s) (hkey : p.correlationId ∈ s.operations)
    (hid : e.corrId = p.correlationId) (hop : s.world.ops p.correlationId = some e.op)
    (hnew : s.world.ops newId = none) :
    exists next, (call newId none (some p) key e).runOn s.counted = (Except.ok (), next) ∧
      Moves s (Input.received p newGuid newId) next := by
  have henter : Does s (enterCall e.corrId s.counted) none [] [] :=
    does_counted.after (does_enterCall e.corrId)
  have hlate' : ¬ Early (enterCall e.corrId s.counted) := hlate
  by_cases haccepts : Accepts e.op p.command
  · rcases e with ⟨op, corrId⟩
    cases op with
    | authenticate =>
        rcases haccepts with hcommand | hcommand
        · rcases does_identifyInitiate hlate' newId true with
            ⟨package, hidentify, hcorr, hdoes⟩
          refine ⟨_, ?_, _, _, _, henter.after hdoes,
            Move.granted hnew hcommand hkey hop hidentify hcorr⟩
          simp [call, authenticationHandler, commandOf, hcommand]
        · rcases does_identifyInitiate hlate' newId false with ⟨package, hidentify, _, hdoes⟩
          have hne : TcpCommand.notAuthenticated ≠ TcpCommand.authenticated := by decide
          refine ⟨_, ?_, _, _, _, henter.after hdoes, Move.identify hnew hidentify⟩
          simp [call, authenticationHandler, commandOf, hcommand, hne]
    | identify authenticated =>
        have hcommand : p.command = TcpCommand.clientIdentified := haccepts
        cases authenticated with
        | false =>
            refine ⟨_, ?_, _, _, _, henter.after (does_addResult
              (some (Error.connection .authenticationFailed)) (some corrId)), Move.error _ _⟩
            simp [call, identificationPackageReceived, commandOf, hcommand]
        | true =>
            refine ⟨_, ?_, _, _, _, henter.after (does_addResult none (some corrId)),
              Move.identified hcommand hop _⟩
            simp [call, identificationPackageReceived, commandOf, hcommand]
  · exact ⟨_, call_rejects haccepts, _, _, _, henter, Move.nothing⟩

theorem received_moves (h : Tracked s) (hlate : ¬ Early s) (hnew : s.world.ops newId = none)
    (newGuid : Guid) (p : Package) :
    let next := settle ((BasicTcpConnection.receive (call newId none (some p)) newGuid
      p).runOn s)
    Moves s (Input.received p newGuid newId) next ∧ p.correlationId ∉ next.operations := by
  by_cases hkey : p.correlationId ∈ s.operations
  · rcases OperationsMap.entry_of_mem hkey with ⟨e, he⟩
    rcases h.entry_eq he with ⟨hid, hop⟩
    rcases call_moves newGuid hlate hkey hid hop hnew with
      ⟨next, hrun, made, sent, results, hdoes, hmove⟩
    rw [BasicTcpConnection.receive_operation he, hrun]
    constructor
    · exact ⟨made, sent, results, hdoes.before (does_eraseOperation p.correlationId), hmove⟩
    · intro hmem
      exact (AList.mem_erase.mp hmem).left rfl
  · rw [BasicTcpConnection.receive_unregistered _ newGuid hkey (h.no_subscriptions _)]
    split
    · refine ⟨⟨_, _, _, does_counted.after ?_, Move.heartbeat newGuid⟩, hkey⟩
      exact
        { sent_eq := rfl
          results_eq := (List.append_nil _).symm
          settings_eq := rfl
          subscriptions_eq := rfl
          ops_eq := rfl
          entry := Or.inl
          called := id
          early := fun hearly => ⟨hearly, rfl⟩ }
    · exact ⟨⟨_, _, _, does_counted, Move.nothing⟩, hkey⟩

theorem lastTimeout_moves (h : Tracked s) (hlate : ¬ Early s) (hnew : s.world.ops newId = none)
    (key : Guid) (i : Input) {ec : Error}
    (hec : ec ≠ Error.connection .authenticationFailed) :
    let next := settle ((do
      let e <- BasicTcpConnection.operation key
      call newId (some ec) none key e).runOn (setDeadline key Timer.idle s))
    Moves s i next ∧ Closed key next := by
  have hidle : Does s (setDeadline key Timer.idle s) none [] [] :=
    does_setDeadline key Timer.idle
  by_cases hkey : key ∈ s.operations
  · rcases OperationsMap.entry_of_mem hkey with ⟨⟨op, corrId⟩, he⟩
    have hid : corrId = key := (h.entry_eq he).left
    subst hid
    have hentry := BasicTcpConnection.operation_of_lookup
      (c := setDeadline corrId Timer.idle s) he
    have henter := hidle.after (does_enterCall corrId)
    have hcalled : corrId ∈ (enterCall corrId (setDeadline corrId Timer.idle s)).world.called :=
      List.mem_append_right _ (List.mem_singleton_self corrId)
    simp only [Handler.runOn_bind, hentry]
    cases op with
    | authenticate =>
        have hrun : (call newId (some ec) none corrId ⟨Op.authenticate, corrId⟩).runOn
            (setDeadline corrId Timer.idle s) =
              (Except.ok (), identifyInitiate newId false
                (enterCall corrId (setDeadline corrId Timer.idle s))) := by
          simp [call, authenticationHandler]
        have hlate' : ¬ Early (enterCall corrId (setDeadline corrId Timer.idle s)) := hlate
        rcases does_identifyInitiate hlate' newId false with ⟨package, hcommand, _, hdoes⟩
        rw [hrun]
        exact ⟨⟨_, _, _, henter.after hdoes, Move.identify hnew hcommand⟩, fun _ => hcalled⟩
    | identify authenticated =>
        have hrun : (call newId (some ec) none corrId ⟨Op.identify authenticated, corrId⟩).runOn
            (setDeadline corrId Timer.idle s) =
              (Except.ok (), addResult (some ec) none
                (enterCall corrId (setDeadline corrId Timer.idle s))) := by
          simp [call, identificationPackageReceived, hec]
        rw [hrun]
        exact ⟨⟨_, _, _, henter.after (does_addResult (some ec) none), Move.error ec none⟩,
          fun _ => hcalled⟩
  · have hthrow := BasicTcpConnection.operation_of_notMem
      (c := setDeadline key Timer.idle s) hkey
    simp only [Handler.runOn_bind, hthrow]
    exact ⟨⟨_, _, _, hidle.before (does_settle _), Move.nothing⟩, fun hmem => absurd hmem hkey⟩

theorem completed_moves (h : Tracked s) (hnew : s.world.ops newId = none) {op : Op}
    (hop : s.world.ops key = some op) (result : WaitResult) (i : Input) :
    let next := settle ((completed newId key op (waitErrorCode result)).runOn
      (setDeadline key Timer.idle s))
    Moves s i next ∧ (op = Op.authenticate -> result = WaitResult.expired -> Closed key next) := by
  have hlate : ¬ Early s := by
    intro hearly
    rw [h.early hearly key] at hop
    cases hop
  have hidle : Does s (setDeadline key Timer.idle s) none [] [] :=
    does_setDeadline key Timer.idle
  cases result with
  | aborted =>
      have hdone : (completed newId key op (waitErrorCode WaitResult.aborted)).runOn
          (setDeadline key Timer.idle s) =
            (Except.ok (), setDeadline key Timer.idle s) := by
        cases op <;> simp [completed, waitErrorCode]
      rw [hdone]
      constructor
      · exact ⟨_, _, _, hidle, Move.nothing⟩
      · intro _ haborted
        cases haborted
  | expired =>
      cases op with
      | authenticate =>
          rcases lastTimeout_moves h hlate hnew key i
            (show Error.connection .authenticationTimeout ≠ _ by decide) with ⟨hmoves, hclosed⟩
          exact ⟨hmoves, fun _ _ => hclosed⟩
      | identify authenticated =>
          refine ⟨?_, fun hauthenticate => by cases hauthenticate⟩
          by_cases hretry : 0 < s.world.settings.maxReconnections ∧
              s.world.reconnections key < s.world.settings.maxReconnections
          · rw [completed_retry (s := setDeadline key Timer.idle s) key authenticated hretry]
            obtain ⟨retried, hretried⟩ : exists retried, retried =
              { setDeadline key Timer.idle s with
                world := { (setDeadline key Timer.idle s).world with
                  reconnections := Function.update s.world.reconnections key
                    (s.world.reconnections key + 1) } } := ⟨_, rfl⟩
            have hquiet : Does s retried none [] [] := by
              rw [hretried]
              exact does_nothing rfl rfl rfl rfl rfl id id id
            have hlate' : ¬ Early retried := by
              rw [hretried]
              exact hlate
            rcases does_identifyInitiate hlate' key authenticated with
              ⟨package, hcommand, _, hdoes⟩
            have hmoves : Moves s i (identifyInitiate key authenticated retried) :=
              ⟨_, _, _, hquiet.after hdoes, Move.again hop hcommand⟩
            rw [hretried] at hmoves
            exact hmoves
          · rw [completed_last (s := setDeadline key Timer.idle s) key authenticated hretry]
            exact (lastTimeout_moves h hlate hnew key i
              (show Error.connection .operationTimeout ≠ _ by decide)).left

theorem tcpConnected_moves (hphase : s.world.phase = Phase.connecting)
    (hnew : s.world.ops newId = none) (ec : ErrorCode) :
    Moves s (Input.tcpConnected ec newId) (tcpConnected newId ec s) := by
  have hconnected : Phase.connected ≠ Phase.discovering ∧
      Phase.connected ≠ Phase.connecting := by decide
  cases ec with
  | none =>
      rw [tcpConnected]
      split
      · exact ⟨_, _, _, does_register _ _ _ hconnected, Move.identify hnew rfl⟩
      · rename_i hcredentials
        exact ⟨_, _, _, does_register _ _ _ hconnected,
          Move.authenticate (Or.inr hphase) hcredentials rfl rfl⟩
  | some e =>
      refine ⟨_, _, _, (does_addResult (some e) none).before ?_, Move.error e none⟩
      exact does_nothing rfl rfl rfl rfl rfl id id fun _ => Or.inr hphase

theorem endpointsDiscovered_moves (hphase : s.world.phase = Phase.discovering) (ec : ErrorCode)
    (i : Input) : Moves s i (endpointsDiscovered ec s) := by
  cases ec with
  | none =>
      exact ⟨_, _, _, does_nothing rfl rfl rfl rfl rfl id id fun _ => Or.inl hphase,
        Move.nothing⟩
  | some e =>
      refine ⟨_, _, _, (does_addResult (some (Error.connection .endpointDiscovery)) none).before
        ?_, Move.error _ none⟩
      exact does_nothing rfl rfl rfl rfl rfl id id fun _ => Or.inl hphase

/-- Every step is explained, and one that fails an authentication leaves its entry closed. -/
theorem step_moves (h : Tracked s) (hstep : step s i = some next) :
    Moves s i next ∧ forall key d, s.world.ops key = some Op.authenticate -> d ∈ handled s i ->
      d.fails key = true -> Closed key next := by
  cases i with
  | discovered ec =>
      rw [step] at hstep
      split at hstep
      · rename_i hphase
        cases hstep
        refine ⟨endpointsDiscovered_moves hphase ec _, ?_⟩
        intro key d _ hd
        cases hd
      · cases hstep
  | tcpConnected ec newId =>
      rw [step] at hstep
      split at hstep
      · rename_i henabled
        cases hstep
        refine ⟨tcpConnected_moves henabled.left henabled.right ec, ?_⟩
        intro key d _ hd
        cases hd
      · cases hstep
  | received package newGuid newId =>
      rw [step] at hstep
      split at hstep
      · rename_i henabled
        cases hstep
        have hlate : ¬ Early s := by
          rw [Early, henabled.left]
          decide
        rcases received_moves h hlate henabled.right newGuid package with ⟨hmoves, herased⟩
        refine ⟨hmoves, ?_⟩
        intro key d _ hd hfails
        cases List.mem_singleton.mp hd
        rw [Event.fails, decide_eq_true_eq] at hfails
        rw [← hfails.right]
        exact fun hkey => absurd hkey herased
      · cases hstep
  | expired key =>
      rw [step, Option.map_eq_some_iff] at hstep
      rcases hstep with ⟨t, _, rfl⟩
      refine ⟨⟨_, _, _, does_setDeadline key t, Move.nothing⟩, ?_⟩
      intro key d _ hd
      cases hd
  | completed key newId =>
      rw [step] at hstep
      cases hop : s.world.ops key with
      | none =>
          rw [hop] at hstep
          cases hstep
      | some op =>
          cases hresult : (s.world.deadline key).result? with
          | none =>
              rw [hop, hresult] at hstep
              cases hstep
          | some result =>
              rw [hop, hresult] at hstep
              simp only at hstep
              split at hstep
              · rename_i hnew
                cases hstep
                rcases completed_moves h hnew hop result (Input.completed key newId) with
                  ⟨hmoves, hclosed⟩
                refine ⟨hmoves, ?_⟩
                intro key' d _ hd hfails
                rw [handled] at hd
                split at hd
                · rename_i hexpired
                  cases List.mem_singleton.mp hd
                  rw [Event.fails, decide_eq_true_eq] at hfails
                  subst hfails
                  rw [hop, Option.some.injEq] at hexpired
                  rw [hexpired.right] at hresult
                  cases hresult
                  exact hclosed hexpired.left rfl
                · cases hd
              · cases hstep

end Steps

/-!
# What the history records of the state

Only what a step handles decides about an authentication, an authentication that failed
can be granted no more, and no id is given to two operations.  So in every run a success
has been earned; that it may have been granted too late is the counterexample.
-/

structure Recorded (settings : Settings) (s : State) (history : List Event) : Prop where
  tracked : Tracked s
  settings_eq : s.world.settings = settings
  undecided : Early s -> forall d, d ∈ history -> forall key, d.decides key = false
  asked : forall key, s.world.ops key = some Op.authenticate ->
    exists request : Package, request.command = TcpCommand.authenticate ∧
      request.correlationId = key ∧ Event.sent request ∈ history
  request : forall package : Package, Event.sent package ∈ history ->
    package.command = TcpCommand.authenticate -> ¬ settings.nullCredentials ∧
      forall key, s.world.ops key = some Op.authenticate <-> key = package.correlationId
  granted : forall key, s.world.ops key = some (Op.identify true) -> Granted key history
  success : forall d, d ∈ history -> d.IsSuccess ->
    exists key, s.world.ops key = some (Op.identify true)
  earned : Preceded Event.IsSuccess Earned history

def FailsForGood (s : State) (history : List Event) : Prop :=
  forall request : Package, Event.sent request ∈ history ->
    request.command = TcpCommand.authenticate -> Failed request.correlationId history ->
      Closed request.correlationId s ∧ forall key, s.world.ops key ≠ some (Op.identify true)

theorem initial_recorded (settings : Settings) : Recorded settings (initial settings) [] where
  tracked :=
    { entry_eq := fun he => by cases he
      no_subscriptions := AList.notMem_empty
      early := fun _ _ => rfl }
  settings_eq := rfl
  undecided := by
    intro _ d hd
    cases hd
  asked := by
    intro key hop
    cases hop
  request := by
    intro package hsent
    cases hsent
  granted := by
    intro key hop
    cases hop
  success := by
    intro d hd
    cases hd
  earned := preceded_nil

theorem initial_failsForGood (settings : Settings) : FailsForGood (initial settings) [] := by
  intro request hsent
  cases hsent

section Recorded

variable {settings : Settings} {s next : State} {i : Input} {history : List Event}
  {made : Option Entry} {sent : List Package} {results : List (ErrorCode × Option Guid)}
  {key : Guid} {d : Event}

theorem Does.shown_eq (h : Does s next made sent results) (i : Input) :
    shown s i next = handled s i ++ (sent.map Event.sent ++ reported results) := by
  simp [shown, h.sent_eq, h.results_eq]

theorem handled_cases (hd : d ∈ handled s i) :
    (exists package newGuid newId, i = Input.received package newGuid newId ∧
      d = Event.received package) ∨ exists key, d = Event.timedOut key := by
  cases i with
  | received package newGuid newId =>
      exact Or.inl ⟨package, newGuid, newId, rfl, List.mem_singleton.mp hd⟩
  | completed key newId =>
      rw [handled] at hd
      split at hd
      · exact Or.inr ⟨key, List.mem_singleton.mp hd⟩
      · cases hd
  | discovered ec => cases hd
  | tcpConnected ec newId => cases hd
  | expired key => cases hd

theorem mem_handled_of_decides (hd : d ∈ handled s i ++ (sent.map Event.sent ++ reported results))
    (hdecides : d.decides key = true) : d ∈ handled s i := by
  rcases List.mem_append.mp hd with hd | hd
  · exact hd
  · rcases List.mem_append.mp hd with hd | hd
    · rcases List.mem_map.mp hd with ⟨package, _, rfl⟩
      cases hdecides
    · rcases List.mem_map.mp hd with ⟨result, _, rfl⟩
      cases hdecides

theorem sent_of_mem_shown {package : Package}
    (hd : Event.sent package ∈ handled s i ++ (sent.map Event.sent ++ reported results)) :
    package ∈ sent := by
  rcases List.mem_append.mp hd with hd | hd
  · rcases handled_cases hd with ⟨_, _, _, _, hd⟩ | ⟨_, hd⟩
    · cases hd
    · cases hd
  · rcases List.mem_append.mp hd with hd | hd
    · rcases List.mem_map.mp hd with ⟨package', hmem, heq⟩
      cases heq
      exact hmem
    · rcases List.mem_map.mp hd with ⟨result, _, heq⟩
      cases heq

theorem reported_of_mem_shown {ec : ErrorCode} {result : Option Guid}
    (hd : Event.reported ec result ∈
      handled s i ++ (sent.map Event.sent ++ reported results)) : (ec, result) ∈ results := by
  rcases List.mem_append.mp hd with hd | hd
  · rcases handled_cases hd with ⟨_, _, _, _, hd⟩ | ⟨_, hd⟩
    · cases hd
    · cases hd
  · rcases List.mem_append.mp hd with hd | hd
    · rcases List.mem_map.mp hd with ⟨package, _, heq⟩
      cases heq
    · rcases List.mem_map.mp hd with ⟨⟨ec', result'⟩, hmem, heq⟩
      cases heq
      exact hmem

theorem Does.ops_cases (h : Does s next made sent results) {op : Op}
    (hop : next.world.ops key = some op) :
    s.world.ops key = some op ∨ made = some { op := op, corrId := key } := by
  rw [h.ops_eq] at hop
  cases made with
  | none => exact Or.inl hop
  | some e =>
      have hop' : Function.update s.world.ops e.corrId (some e.op) key = some op := hop
      by_cases hkey : key = e.corrId
      · rw [hkey, Function.update_self, Option.some.injEq] at hop'
        rw [hkey, ← hop']
        exact Or.inr rfl
      · rw [Function.update_of_ne hkey] at hop'
        exact Or.inl hop'

theorem Move.fresh (h : Move s i made sent results) (htracked : Tracked s) {e : Entry}
    (he : made = some e) :
    s.world.ops e.corrId = none ∨ s.world.ops e.corrId = some e.op := by
  cases h with
  | nothing => cases he
  | heartbeat newGuid => cases he
  | error ec result => cases he
  | authenticate hearly _ _ _ =>
      cases he
      exact Or.inl (htracked.early hearly _)
  | identify hnew _ =>
      cases he
      exact Or.inl hnew
  | again hop _ =>
      cases he
      exact Or.inr hop
  | granted hnew _ _ _ _ _ =>
      cases he
      exact Or.inl hnew
  | identified _ _ _ => cases he

theorem Does.ops_mono (h : Does s next made sent results) (hmove : Move s i made sent results)
    (htracked : Tracked s) {op : Op} (hop : s.world.ops key = some op) :
    next.world.ops key = some op := by
  rw [h.ops_eq]
  cases made with
  | none => exact hop
  | some e =>
      show Function.update s.world.ops e.corrId (some e.op) key = some op
      by_cases hkey : key = e.corrId
      · rw [hkey] at hop ⊢
        rcases hmove.fresh htracked rfl with hnone | hsame
        · rw [hnone] at hop
          cases hop
        · rw [Function.update_self, ← hsame, hop]
      · rwa [Function.update_of_ne hkey]

theorem tracked_step (h : Does s next made sent results) (hmove : Move s i made sent results)
    (htracked : Tracked s) : Tracked next where
  entry_eq := by
    intro key e he
    rcases h.entry he with hold | ⟨hmade, hkey⟩
    · rcases htracked.entry_eq hold with ⟨hid, hop⟩
      exact ⟨hid, h.ops_mono hmove htracked hop⟩
    · constructor
      · exact hkey
      · rw [h.ops_eq, hmade, ← hkey]
        exact Function.update_self _ _ _
  no_subscriptions := by
    rw [h.subscriptions_eq]
    exact htracked.no_subscriptions
  early := by
    intro hearly key
    rcases h.early hearly with ⟨hbefore, hnone⟩
    rw [h.ops_eq, hnone]
    exact htracked.early hbefore key

theorem handled_of_early (htracked : Tracked s) (hearly : Early s)
    (hstep : step s i = some next) : handled s i = [] := by
  cases i with
  | received package newGuid newId =>
      rw [step] at hstep
      split at hstep
      · rename_i henabled
        rw [Early, henabled.left] at hearly
        rcases hearly with h | h
        · cases h
        · cases h
      · cases hstep
  | completed key newId => simp [handled, htracked.early hearly key]
  | discovered ec => rfl
  | tcpConnected ec newId => rfl
  | expired key => rfl

theorem Granted.append {more : List Event} (h : Granted key history) :
    Granted key (history ++ more) := by
  rcases h with ⟨request, grant, identify, hrequest, hgrant, hidentify, hsub⟩
  exact ⟨request, grant, identify, hrequest, hgrant, hidentify,
    hsub.trans (List.sublist_append_left history more)⟩

theorem Granted.earned {answer : Package} (h : Granted key history)
    (hcommand : answer.command = TcpCommand.clientIdentified)
    (hid : answer.correlationId = key) : Earned (history ++ [Event.received answer]) := by
  rcases h with ⟨request, grant, identify, hrequest, hgrant, ⟨hidentify, hkey⟩, hsub⟩
  refine ⟨request, grant, identify, answer, hrequest, hgrant, hidentify,
    ⟨hcommand, hid.trans hkey.symm⟩, ?_⟩
  exact hsub.append (List.Sublist.refl [Event.received answer])

theorem granted_received {request grant identify : Package}
    (hrequest : request.command = TcpCommand.authenticate)
    (hsent : Event.sent request ∈ history)
    (hgrant : grant.command = TcpCommand.authenticated)
    (hsame : grant.correlationId = request.correlationId)
    (hidentify : identify.command = TcpCommand.identifyClient) :
    Granted identify.correlationId
      (history ++ [Event.received grant, Event.sent identify]) :=
  ⟨request, grant, identify, hrequest, ⟨hgrant, hsame⟩, ⟨hidentify, rfl⟩,
    (List.singleton_sublist.mpr hsent).append (List.Sublist.refl _)⟩

theorem Move.of_authenticate
    (h : Move s i (some { op := Op.authenticate, corrId := key }) sent results) :
    Early s ∧ exists package : Package, sent = [package] ∧
      package.command = TcpCommand.authenticate ∧ package.correlationId = key := by
  cases h with
  | authenticate hearly _ hcommand hid => exact ⟨hearly, _, rfl, hcommand, hid⟩

theorem Move.of_identify
    (h : Move s i (some { op := Op.identify true, corrId := key }) sent results) :
    s.world.ops key = some (Op.identify true) ∨
      exists grant package newGuid, i = Input.received grant newGuid key ∧
        grant.command = TcpCommand.authenticated ∧ grant.correlationId ∈ s.operations ∧
        s.world.ops grant.correlationId = some Op.authenticate ∧ sent = [package] ∧
        package.command = TcpCommand.identifyClient ∧ package.correlationId = key ∧
        results = [] := by
  cases h with
  | again hop _ => exact Or.inl hop
  | granted hnew hgrant hkey hop hcommand hid =>
      exact Or.inr ⟨_, _, _, rfl, hgrant, hkey, hop, rfl, hcommand, hid, rfl⟩

theorem Move.of_sent {package : Package} (h : Move s i made sent results)
    (hsent : package ∈ sent) (hcommand : package.command = TcpCommand.authenticate) :
    Early s ∧ ¬ s.world.settings.nullCredentials ∧
      made = some { op := Op.authenticate, corrId := package.correlationId } := by
  have hidentify : TcpCommand.identifyClient ≠ TcpCommand.authenticate := by decide
  cases h with
  | nothing => cases hsent
  | heartbeat newGuid =>
      cases List.mem_singleton.mp hsent
      cases hcommand
  | error ec result => cases hsent
  | authenticate hearly hcredentials _ hid =>
      cases List.mem_singleton.mp hsent
      rw [hid]
      exact ⟨hearly, hcredentials, rfl⟩
  | identify _ hother =>
      cases List.mem_singleton.mp hsent
      exact absurd (hother.symm.trans hcommand) hidentify
  | again _ hother =>
      cases List.mem_singleton.mp hsent
      exact absurd (hother.symm.trans hcommand) hidentify
  | granted _ _ _ _ hother _ =>
      cases List.mem_singleton.mp hsent
      exact absurd (hother.symm.trans hcommand) hidentify
  | identified _ _ _ => cases hsent

/-- Only the answer to an authenticated identification is reported as a success. -/
theorem Move.of_success {result : Option Guid} (h : Move s i made sent results)
    (hmem : (none, result) ∈ results) :
    exists answer newGuid newId, i = Input.received answer newGuid newId ∧
      answer.command = TcpCommand.clientIdentified ∧
      s.world.ops answer.correlationId = some (Op.identify true) ∧ sent = [] ∧
      results = [(none, result)] := by
  cases h with
  | error ec result' =>
      cases List.mem_singleton.mp hmem
  | identified hanswer hop result' =>
      cases List.mem_singleton.mp hmem
      exact ⟨_, _, _, rfl, hanswer, hop, rfl, rfl⟩
  | nothing => cases hmem
  | heartbeat _ => cases hmem
  | authenticate _ _ _ _ => cases hmem
  | identify _ _ => cases hmem
  | again _ _ => cases hmem
  | granted _ _ _ _ _ _ => cases hmem

/-- What is sent in a step, where it is a request, is the only one of the run. -/
theorem request_step (h : Recorded settings s history) (hdoes : Does s next made sent results)
    (hmove : Move s i made sent results) {package : Package}
    (hsent : Event.sent package ∈
      history ++ (handled s i ++ (sent.map Event.sent ++ reported results)))
    (hcommand : package.command = TcpCommand.authenticate) :
    ¬ settings.nullCredentials ∧
      forall key, next.world.ops key = some Op.authenticate <-> key = package.correlationId := by
  rcases List.mem_append.mp hsent with hold | hnew
  · rcases h.request package hold hcommand with ⟨hcredentials, honly⟩
    refine ⟨hcredentials, fun key => ⟨?_, ?_⟩⟩
    · intro hop
      rcases hdoes.ops_cases hop with hbefore | hmade
      · exact (honly key).mp hbefore
      · rw [hmade] at hmove
        have hnone := h.tracked.early hmove.of_authenticate.left package.correlationId
        rw [(honly package.correlationId).mpr rfl] at hnone
        cases hnone
    · intro hkey
      exact hdoes.ops_mono hmove h.tracked ((honly key).mpr hkey)
  · rcases hmove.of_sent (sent_of_mem_shown hnew) hcommand with ⟨hearly, hcredentials, hmade⟩
    rw [h.settings_eq] at hcredentials
    refine ⟨hcredentials, fun key => ⟨?_, ?_⟩⟩
    · intro hop
      rcases hdoes.ops_cases hop with hbefore | hmade'
      · rw [h.tracked.early hearly key] at hbefore
        cases hbefore
      · rw [hmade] at hmade'
        injection hmade' with hentry
        injection hentry with _ hkey
        exact hkey.symm
    · rintro rfl
      rw [hdoes.ops_eq, hmade]
      exact Function.update_self _ _ _

theorem recorded_step (h : Recorded settings s history) (hstep : step s i = some next) :
    Recorded settings next (history ++ shown s i next) := by
  rcases (step_moves h.tracked hstep).left with ⟨made, sent, results, hdoes, hmove⟩
  rw [hdoes.shown_eq]
  constructor
  · exact tracked_step hdoes hmove h.tracked
  · rw [hdoes.settings_eq, h.settings_eq]
  · intro hearly d hd key
    have hbefore := (hdoes.early hearly).left
    rcases List.mem_append.mp hd with hold | hnew
    · exact h.undecided hbefore d hold key
    · rw [← Bool.not_eq_true]
      intro hdecides
      have hhandled := mem_handled_of_decides hnew hdecides
      rw [handled_of_early h.tracked hbefore hstep] at hhandled
      cases hhandled
  · intro key hop
    rcases hdoes.ops_cases hop with hold | hmade
    · rcases h.asked key hold with ⟨request, hcommand, hid, hsent⟩
      exact ⟨request, hcommand, hid, List.mem_append_left _ hsent⟩
    · rw [hmade] at hmove
      rcases hmove.of_authenticate with ⟨_, package, rfl, hcommand, hid⟩
      exact ⟨package, hcommand, hid, by simp⟩
  · exact fun package hsent hcommand => request_step h hdoes hmove hsent hcommand
  · intro key hop
    rcases hdoes.ops_cases hop with hold | hmade
    · exact (h.granted key hold).append
    · rw [hmade] at hmove
      rcases hmove.of_identify with hold |
        ⟨grant, package, newGuid, rfl, hgrant, _, hasked, rfl, hcommand, rfl, rfl⟩
      · exact (h.granted key hold).append
      · rcases h.asked _ hasked with ⟨request, hrequest, hid, hsent⟩
        exact granted_received hrequest hsent hgrant hid.symm hcommand
  · rintro d hd ⟨result, rfl⟩
    rcases List.mem_append.mp hd with hold | hnew
    · rcases h.success _ hold ⟨result, rfl⟩ with ⟨key, hop⟩
      exact ⟨key, hdoes.ops_mono hmove h.tracked hop⟩
    · rcases hmove.of_success (reported_of_mem_shown hnew) with ⟨answer, _, _, _, _, hop, _⟩
      exact ⟨answer.correlationId, hdoes.ops_mono hmove h.tracked hop⟩
  · by_cases hsuccess : exists result, (none, result) ∈ results
    · rcases hsuccess with ⟨result, hmem⟩
      rcases hmove.of_success hmem with ⟨answer, newGuid, newId, rfl, hcommand, hop, rfl, rfl⟩
      have hearned := (h.granted _ hop).earned hcommand rfl
      have hreceived : Preceded Event.IsSuccess Earned (history ++ [Event.received answer]) := by
        apply preceded_concat h.earned
        rintro ⟨_, hreported⟩
        cases hreported
      have hboth := preceded_concat (e := Event.reported none result) hreceived
        fun _ => hearned
      rwa [List.append_assoc] at hboth
    · apply preceded_append h.earned
      rintro d hd ⟨result, rfl⟩
      exact hsuccess ⟨result, reported_of_mem_shown hd⟩

/-- Before anything decides about the authentication, no identification is authenticated. -/
theorem Recorded.not_granted (h : Recorded settings s history) {request : Package}
    (hsent : Event.sent request ∈ history)
    (hcommand : request.command = TcpCommand.authenticate)
    (hundecided : history.find? (Event.decides request.correlationId) = none) (key : Guid) :
    s.world.ops key ≠ some (Op.identify true) := by
  intro hop
  rcases h.granted key hop with ⟨request', grant, identify, hcommand', ⟨hgrant, hsame⟩, _, hsub⟩
  have hsent' : Event.sent request' ∈ history := hsub.mem List.mem_cons_self
  have hreceived : Event.received grant ∈ history :=
    hsub.mem (List.mem_cons_of_mem _ List.mem_cons_self)
  have hkey : request'.correlationId = request.correlationId :=
    ((h.request request hsent hcommand).right _).mp
      (((h.request request' hsent' hcommand').right _).mpr rfl)
  have hdecides : (Event.received grant).decides request.correlationId = true := by
    simp [Event.decides, Event.grants, hgrant, hsame, hkey]
  exact List.find?_eq_none.mp hundecided _ hreceived hdecides

theorem closed_step (h : Recorded settings s history) (hdoes : Does s next made sent results)
    (hmove : Move s i made sent results) (hop : s.world.ops key = some Op.authenticate)
    (hclosed : Closed key s) : Closed key next := by
  intro hkey
  rcases OperationsMap.entry_of_mem hkey with ⟨⟨op, corrId⟩, he⟩
  rcases hdoes.entry he with hold | ⟨hmade, hid⟩
  · have hmem : key ∈ s.operations := by
      rw [← AList.lookup_isSome, hold]
      rfl
    exact hdoes.called (hclosed hmem)
  · have hid' : corrId = key := hid
    rw [hid'] at hmade
    rcases hmove.fresh h.tracked hmade with hnone | hsame
    · rw [hop] at hnone
      cases hnone
    · rw [hop, Option.some.injEq] at hsame
      have hsame' : Op.authenticate = op := hsame
      rw [hmade, ← hsame'] at hmove
      rw [h.tracked.early hmove.of_authenticate.left key] at hop
      cases hop

theorem failsForGood_step (h : Recorded settings s history) (hfails : FailsForGood s history)
    (hok : GrantedInTime s i) (hstep : step s i = some next) :
    FailsForGood next (history ++ shown s i next) := by
  rcases step_moves h.tracked hstep with ⟨⟨made, sent, results, hdoes, hmove⟩, hcloses⟩
  rw [hdoes.shown_eq]
  rintro request hsent hcommand ⟨d, hfind, hd⟩
  rw [List.find?_append] at hfind
  have hdecides : d.decides request.correlationId = true := by
    rw [Event.decides, hd, Bool.or_true]
  rcases List.mem_append.mp hsent with hold | hnew
  · have hop : s.world.ops request.correlationId = some Op.authenticate :=
      ((h.request request hold hcommand).right _).mpr rfl
    cases hfirst : history.find? (Event.decides request.correlationId) with
    | some d' =>
        -- it had failed before
        rw [hfirst] at hfind
        cases hfind
        rcases hfails request hold hcommand ⟨d, hfirst, hd⟩ with ⟨hclosed, hnone⟩
        refine ⟨closed_step h hdoes hmove hop hclosed, ?_⟩
        intro key hidentify
        rcases hdoes.ops_cases hidentify with hbefore | hmade
        · exact hnone key hbefore
        · rw [hmade] at hmove
          rcases hmove.of_identify with hbefore |
            ⟨grant, package, newGuid, rfl, hgrant, hmem, hasked, _⟩
          · exact hnone key hbefore
          · have hid := ((h.request request hold hcommand).right _).mp hasked
            rcases OperationsMap.entry_of_mem hmem with ⟨e, he⟩
            rcases h.tracked.entry_eq he with ⟨hcorr, hentry⟩
            rw [hasked, Option.some.injEq] at hentry
            apply hok hgrant e he hentry.symm
            rw [hcorr, hid]
            rw [hid] at hmem
            exact hclosed hmem
    | none =>
        -- it fails in this step
        rw [hfirst, Option.none_or] at hfind
        have hhandled := mem_handled_of_decides (List.mem_of_find?_eq_some hfind) hdecides
        refine ⟨hcloses request.correlationId d hop hhandled hd, ?_⟩
        intro key hidentify
        have hnone := h.not_granted hold hcommand hfirst key
        rcases hdoes.ops_cases hidentify with hbefore | hmade
        · exact hnone hbefore
        · rw [hmade] at hmove
          rcases hmove.of_identify with hbefore |
            ⟨grant, package, newGuid, rfl, hgrant, _⟩
          · exact hnone hbefore
          · cases List.mem_singleton.mp hhandled
            have hrefusal := of_decide_eq_true hd
            rw [hgrant] at hrefusal
            exact absurd hrefusal.left (by decide)
  · -- nothing was handled before the request
    rcases hmove.of_sent (sent_of_mem_shown hnew) hcommand with ⟨hearly, _⟩
    have hnone : history.find? (Event.decides request.correlationId) = none := by
      rw [List.find?_eq_none]
      intro d' hd' hdecides'
      rw [h.undecided hearly d' hd'] at hdecides'
      cases hdecides'
    rw [hnone, Option.none_or] at hfind
    have hhandled := mem_handled_of_decides (List.mem_of_find?_eq_some hfind) hdecides
    rw [handled_of_early h.tracked hearly hstep] at hhandled
    cases hhandled

theorem Recorded.noFalseAuthentication (h : Recorded settings s history)
    (hfails : FailsForGood s history) : NoFalseAuthentication settings history where
  earned := h.earned
  failed := by
    rintro request hsent hcommand hfailed ec result hreported rfl
    rcases h.success _ hreported ⟨result, rfl⟩ with ⟨key, hop⟩
    exact (hfails request hsent hcommand hfailed).right key hop
  anonymous := by
    rintro hnull ec result hreported rfl
    rcases h.success _ hreported ⟨result, rfl⟩ with ⟨key, hop⟩
    rcases h.granted key hop with ⟨request, _, _, hcommand, _, _, hsub⟩
    exact (h.request request (hsub.mem List.mem_cons_self) hcommand).left hnull

theorem run_earned {inputs : List Input} {last : State}
    (hrun : run step (initial settings) inputs = some last) :
    Preceded Event.IsSuccess Earned (historyOf step shown (initial settings) inputs) := by
  have hrecorded : Recorded settings last
      ([] ++ historyOf step shown (initial settings) inputs) := by
    apply run_history (Recorded settings) _ (initial_recorded settings)
      (everyStep_true _ inputs) hrun
    intro s earlier i next h _ hstep
    exact recorded_step h hstep
  exact hrecorded.earned

/-- In every run in which no grant comes after the timeout of its request, a success has
been earned, and an authentication that failed or was not requested is reported with an
error. -/
theorem run_noFalseAuthentication {inputs : List Input} {last : State}
    (hok : EveryStep step GrantedInTime (initial settings) inputs)
    (hrun : run step (initial settings) inputs = some last) :
    NoFalseAuthentication settings (historyOf step shown (initial settings) inputs) := by
  have hboth : Recorded settings last
      ([] ++ historyOf step shown (initial settings) inputs) ∧
        FailsForGood last ([] ++ historyOf step shown (initial settings) inputs) := by
    apply run_history (fun s history => Recorded settings s history ∧ FailsForGood s history) _
      ⟨initial_recorded settings, initial_failsForGood settings⟩ hok hrun
    intro s earlier i next h hgranted hstep
    exact ⟨recorded_step h.left hstep, failsForGood_step h.left h.right hgranted hstep⟩
  exact hboth.left.noFalseAuthentication hboth.right

end Recorded

theorem identifiedAfterRetry_noFalseAuthentication :
    Event.reported none (some (Guid.ofByte 2)) ∈
        historyOf step shown (initial withCredentials) identifiedAfterRetry ∧
      NoFalseAuthentication withCredentials
        (historyOf step shown (initial withCredentials) identifiedAfterRetry) := by
  obtain ⟨last, hlast⟩ :
      exists last, run step (initial withCredentials) identifiedAfterRetry = some last :=
    Option.isSome_iff_exists.mp (by decide)
  exact ⟨by decide, run_noFalseAuthentication (by decide) hlast⟩

def grantedLate : List Input :=
  [Input.discovered none, Input.tcpConnected none (Guid.ofByte 1),
    Input.expired (Guid.ofByte 1), Input.completed (Guid.ofByte 1) (Guid.ofByte 2),
    Input.received (reply TcpCommand.authenticated 1) (Guid.ofByte 9) (Guid.ofByte 3),
    Input.received (reply TcpCommand.clientIdentified 3) (Guid.ofByte 9) (Guid.ofByte 4)]

/-- The timeout leaves the entry of the authentication in the map, and the late grant calls
it again. -/
theorem grantedLate_reports_success :
    (run step (initial withCredentials) grantedLate).isSome = true ∧
      ¬ NoFalseAuthentication withCredentials
        (historyOf step shown (initial withCredentials) grantedLate) := by
  constructor
  · decide
  · intro h
    have hrequest : exists request : Package, request.command = TcpCommand.authenticate ∧
        request.correlationId = Guid.ofByte 1 ∧ Event.sent request ∈
          historyOf step shown (initial withCredentials) grantedLate :=
      ⟨{ command := TcpCommand.authenticate
         correlationId := Guid.ofByte 1
         message := []
         credentials := some ([97], [98]) }, rfl, rfl, by decide⟩
    rcases hrequest with ⟨request, hcommand, hid, hsent⟩
    have hfailed : Failed request.correlationId
        (historyOf step shown (initial withCredentials) grantedLate) := by
      rw [hid]
      exact ⟨Event.timedOut (Guid.ofByte 1), by decide, by decide⟩
    have hreported : Event.reported none (some (Guid.ofByte 3)) ∈
        historyOf step shown (initial withCredentials) grantedLate := by decide
    exact h.failed request hsent hcommand hfailed none _ hreported rfl

end Authentication

end Connection
end EventStoreClient
