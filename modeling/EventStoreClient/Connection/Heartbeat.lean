import EventStoreClient.Connection.Dispatch
import EventStoreClient.Error
import EventStoreClient.Foundation.Histories
import EventStoreClient.Foundation.Runs
import EventStoreClient.Foundation.Timer

/-!
# Heartbeats

`heartbeat_op`: a chain of timer waits that closes the connection of a silent peer.
-/

namespace EventStoreClient
namespace Connection

open Foundation Wire

namespace Heartbeat

structure Info where
  lastPackageNo : Int32
  isIntervalStage : Bool
  deriving DecidableEq

inductive Delay where
  | heartbeatInterval
  | heartbeatTimeout
  deriving DecidableEq

structure Wait where
  info : Info
  expiresAfter : Delay
  deriving DecidableEq

/-- What the operation does, and the packages processed meanwhile.  A tick is a call of
`initiate`, and the chain has stopped when no wait follows. -/
inductive Done where
  | tick
  | queued (package : Package)
  | processed
  | stopped (ec : Error)
  deriving DecidableEq

/-- What a handler can see of the connection from outside: whether its last owner is gone,
its socket, and the rest of the program. -/
structure Shared (world : Type) where
  expired : Bool
  socketOpen : Bool
  rest : world

variable {entry world : Type}

structure State (entry world : Type) where
  connection : BasicTcpConnection entry (Shared world)
  waits : List Wait
  history : List Done

namespace State

def IsOpen (s : State entry world) : Prop :=
  s.connection.world.expired = false ∧ s.connection.world.socketOpen = true

instance (s : State entry world) : Decidable s.IsOpen :=
  inferInstanceAs (Decidable (_ ∧ _))

def record (d : Done) (s : State entry world) : State entry world :=
  { s with history := s.history ++ [d] }

def asyncSend (package : Package) (s : State entry world) : State entry world :=
  record (Done.queued package) { s with connection := s.connection.asyncSend package }

/-- `expires_after` and `async_wait`, which moves the operation into the wait. -/
def asyncWait (info : Info) (delay : Delay) (s : State entry world) : State entry world :=
  { s with waits := s.waits ++ [{ info := info, expiresAfter := delay }] }

def close (s : State entry world) : State entry world :=
  { s with
    connection :=
      { s.connection with world := { s.connection.world with socketOpen := false } } }

end State

/-!
# The operation

`failed` are the branches of `operator()` that an error code takes.
-/

def failed (ec : Error) (s : State entry world) : State entry world :=
  let s := s.record (Done.stopped ec)
  if ec = Error.asio .operationAborted then s
  else if ec = Error.connection .connectionClosed then s
  else if s.connection.world.expired then s
  else s.close

/-- `initiate`.  The `int` that was recorded is compared as an `unsigned int`. -/
def initiate (info : Info) (newGuid : Guid) (s : State entry world) : State entry world :=
  let s := s.record Done.tick
  if s.connection.world.expired then
    failed (Error.connection .connectionClosed) s
  else if !s.connection.world.socketOpen then
    failed (Error.connection .connectionClosed) s
  else if info.lastPackageNo.toUInt32 ≠ s.connection.packageNo then
    s.asyncWait
      { lastPackageNo := s.connection.packageNo.toInt32, isIntervalStage := true }
      Delay.heartbeatInterval
  else if info.isIntervalStage then
    (s.asyncSend
      { command := TcpCommand.heartbeatRequestCommand
        correlationId := newGuid
        message := [] }).asyncWait
      { info with isIntervalStage := false } Delay.heartbeatTimeout
  else failed (Error.connection .heartbeatTimeout) s

def operator (info : Info) (ec : ErrorCode) (newGuid : Guid) (s : State entry world) :
    State entry world :=
  match ec with
  | none => initiate info newGuid s
  | some ec => failed ec s

def construct (c : BasicTcpConnection entry (Shared world)) : Info :=
  { lastPackageNo := c.packageNo.toInt32, isIntervalStage := true }

/-- `tcp_connected_handler` has constructed the operation and initiated it. -/
def start (c : BasicTcpConnection entry (Shared world)) (newGuid : Guid) :
    State entry world :=
  initiate (construct c) newGuid { connection := c, waits := [], history := [] }

/-!
# Runs

A package is processed, a wait completes, or other code runs, which may close the socket
and let go of the connection.
-/

/-- Code outside the connection.  The number of packages is private, and only
`on_package_received` writes it. -/
structure Code (entry world : Type) where
  run : Handler Fault (BasicTcpConnection entry (Shared world)) Unit
  keepsPackageNo : forall n, Handler.Keeps (fun c => c.packageNo = n) run

/-- What happens next: a package is processed, a wait completes, or other code runs, which
may close the socket and let go of the connection. -/
inductive Input (entry world : Type) where
  | received (package : Package) (newGuid : Guid)
  | completed (i : Nat) (result : WaitResult) (newGuid : Guid)
  | other (code : Code entry world)

def waitErrorCode : WaitResult -> ErrorCode
  | WaitResult.expired => none
  | WaitResult.aborted => some (Error.asio .operationAborted)

/-- One handler runs.  Exceptions of the entries leave the connection as it is. -/
def step (call : Guid -> entry -> Code entry world) (s : State entry world) :
    Input entry world -> Option (State entry world)
  | .received package newGuid =>
      if s.connection.world.expired then none
      else some (State.record Done.processed
        { s with
          connection := ((BasicTcpConnection.receive
            (fun key e => (call key e).run) newGuid package).runOn s.connection).2 })
  | .completed i result newGuid =>
      match s.waits[i]? with
      | some wait =>
          some (operator wait.info (waitErrorCode result) newGuid
            { s with waits := s.waits.eraseIdx i })
      | none => none
  | .other code => some { s with connection := (code.run.runOn s.connection).2 }

/-!
# What the history shows

Each step records what it queued, and when it closed the connection.
-/

def Done.isTick : Done -> Bool
  | tick => true
  | _ => false

def Done.isRequest : Done -> Bool
  | queued package => decide (package.command = TcpCommand.heartbeatRequestCommand)
  | _ => false

def Done.isProcessed : Done -> Bool
  | processed => true
  | _ => false

def Done.isStopped : Done -> Bool
  | stopped _ => true
  | _ => false

/-- The last tick queued a heartbeat request, and no package has been processed since. -/
def Silent (history : List Done) : Prop :=
  (exists d, d ∈ since Done.isTick history ∧ d.isRequest = true) ∧
    Done.processed ∉ since Done.isTick history

instance (history : List Done) : Decidable (Silent history) :=
  inferInstanceAs (Decidable ((exists d, d ∈ _ ∧ _) ∧ _))

/-- Fewer than 2^32 packages have been processed since the last tick. -/
def FewPackages (history : List Done) : Prop :=
  (since Done.isTick history).count Done.processed < 4294967296

instance (history : List Done) : Decidable (FewPackages history) :=
  inferInstanceAs (Decidable (_ < _))

/-- What a tick queues: a heartbeat request if no package has been processed since the last
one, and that one queued none. -/
def requestsDue (history : List Done) (newGuid : Guid) : List Package :=
  if Done.processed ∈ since Done.isTick history ∨ Silent history then []
  else
    [{ command := TcpCommand.heartbeatRequestCommand
       correlationId := newGuid
       message := [] }]

/-- A call of the operation has added `requests` to the packages sent, and queued just these
in the history.  It waits again, or it has stopped. -/
def Called (sent : List Package) (history : List Done) (next : State entry world) : Prop :=
  exists requests stops,
    next.connection.sent = sent ++ requests ∧
    next.history = history ++ (requests.map Done.queued ++ stops) ∧
    ((stops = [] ∧ next.waits ≠ []) ∨ exists ec, stops = [Done.stopped ec] ∧ next.waits = [])

def Records (s next : State entry world) : Input entry world -> Prop
  | .received _ _ => next.history = s.history ++ [Done.processed]
  | .completed _ WaitResult.expired _ =>
      Called s.connection.sent (s.history ++ [Done.tick]) next
  | .completed _ WaitResult.aborted _ => Called s.connection.sent s.history next
  | .other _ => next.history = s.history

/-- One wait is under way until the chain stops, and then there is none, and the operation
does nothing any more. -/
structure OneWait (s : State entry world) : Prop where
  going : (forall ec, Done.stopped ec ∉ s.history) -> exists wait, s.waits = [wait]
  afterStop : forall {before ec after}, s.history = before ++ Done.stopped ec :: after ->
    s.waits = [] ∧ forall d, d ∈ after -> d = Done.processed

/-!
# The count of packages

Fewer than 2^32 packages change the counter, even where it wraps.
-/

section

variable {s next : State entry world} {call : Guid -> entry -> Code entry world}

theorem receive_packageNo (newGuid : Guid) (p : Package)
    (c : BasicTcpConnection entry (Shared world)) :
    ((BasicTcpConnection.receive (fun key e => (call key e).run) newGuid p).runOn
      c).2.packageNo = c.packageNo + 1 := by
  cases hoperation : c.operations.lookup p.correlationId with
  | some e =>
      have hkept := (call p.correlationId e).keepsPackageNo (c.packageNo + 1) c.counted rfl
      rw [BasicTcpConnection.receive_operation hoperation]
      rcases hrun : (call p.correlationId e).run.runOn c.counted with ⟨r, after⟩
      rw [hrun] at hkept
      cases r with
      | ok _ => exact hkept
      | error fault => exact hkept
  | none =>
      have hnone : p.correlationId ∉ c.operations := AList.lookup_eq_none.mp hoperation
      cases hsubscription : c.subscriptions.lookup p.correlationId with
      | some e =>
          rw [BasicTcpConnection.receive_subscription hnone hsubscription]
          exact (call p.correlationId e).keepsPackageNo (c.packageNo + 1) c.counted rfl
      | none =>
          rcases BasicTcpConnection.receive_other (fun key e => (call key e).run) newGuid
            hnone (AList.lookup_eq_none.mp hsubscription) with ⟨sent, hrun⟩
          rw [hrun]
          rfl

theorem add_ofNat_eq_iff (n : UInt32) {k : Nat} (hk : k < 4294967296) :
    n + UInt32.ofNat k = n <-> k = 0 := by
  rw [UInt32.add_eq_left]
  constructor
  · intro h
    have hvalue := congrArg UInt32.toNat h
    rwa [UInt32.toNat_ofNat_of_lt' hk] at hvalue
  · rintro rfl
    rfl

/-!
# The chain

A tick goes on with one more wait, or stops the chain.  Only a heartbeat request has to
wait for a package; a package, or a tick in the interval stage, leaves no request pending.
-/

/-- In the interval stage the last tick queued nothing, and no request is pending; else it
queued a heartbeat request. -/
inductive Stage (info : Info) (earlier : List Done) : List Done -> Prop where
  | interval (hstage : info.isIntervalStage = true)
      (hpending : ¬ Pending Done.isRequest Done.isProcessed earlier) : Stage info earlier []
  | timeout (hstage : info.isIntervalStage = false) (request : Package)
      (hrequest : (Done.queued request).isRequest = true) :
      Stage info earlier [Done.queued request]

/-- The chain goes on.  `earlier` came before the last tick, which queued `requests`, and
`k` packages have been processed since. -/
structure Beating (s : State entry world) (wait : Wait) (earlier requests : List Done)
    (k : Nat) : Prop where
  waits_eq : s.waits = [wait]
  history_eq : s.history =
    earlier ++ Done.tick :: (requests ++ List.replicate k Done.processed)
  packageNo_eq : s.connection.packageNo =
    wait.info.lastPackageNo.toUInt32 + UInt32.ofNat k
  stage : Stage wait.info earlier requests
  not_stopped : forall ec, Done.stopped ec ∉ s.history

/-- The chain has stopped, and `k` packages have been processed since. -/
structure Stopped (s : State entry world) (earlier : List Done) (ec : Error) (k : Nat) :
    Prop where
  waits_eq : s.waits = []
  history_eq : s.history = earlier ++ Done.stopped ec :: List.replicate k Done.processed
  first : forall ec', Done.stopped ec' ∉ earlier

def Beats (s : State entry world) : Prop :=
  exists wait earlier requests k, Beating s wait earlier requests k

def HasStopped (s : State entry world) : Prop :=
  exists earlier ec k, Stopped s earlier ec k

structure Chained (s : State entry world) : Prop where
  separated : Separated Done.isRequest Done.isProcessed s.history
  chain : Beats s ∨ HasStopped s

theorem isRequest_isProcessed (d : Done) (h : d.isRequest = true) : d.isProcessed = false := by
  cases d with
  | queued package => rfl
  | tick => cases h
  | processed => cases h
  | stopped ec => cases h

theorem separated_record {d : Done} (h : Separated Done.isRequest Done.isProcessed s.history)
    (hd : d.isRequest = true -> ¬ Pending Done.isRequest Done.isProcessed s.history) :
    Separated Done.isRequest Done.isProcessed (s.record d).history :=
  separated_concat isRequest_isProcessed h hd

theorem failed_history (ec : Error) (s : State entry world) :
    (failed ec s).history = s.history ++ [Done.stopped ec] ∧ (failed ec s).waits = s.waits := by
  simp only [failed]
  split_ifs <;> exact ⟨rfl, rfl⟩

theorem failed_sent (ec : Error) (s : State entry world) :
    (failed ec s).connection.sent = s.connection.sent := by
  simp only [failed]
  split_ifs <;> rfl

theorem chained_failed (ec : Error) (hwaits : s.waits = [])
    (hseparated : Separated Done.isRequest Done.isProcessed s.history)
    (hfirst : forall ec', Done.stopped ec' ∉ s.history) : Chained (failed ec s) := by
  rcases failed_history ec s with ⟨hhistory, hsame⟩
  constructor
  · rw [hhistory]
    apply separated_concat isRequest_isProcessed hseparated
    intro h
    cases h
  · apply Or.inr
    exists s.history, ec, 0
    exact ⟨hsame.trans hwaits, hhistory, hfirst⟩

/-- The operation when its wait is over: `k` packages have been processed since the last
tick, and a request may be queued unless that tick queued one and `k` is 0. -/
structure Due (s : State entry world) (info : Info) (k : Nat) : Prop where
  waits_eq : s.waits = []
  separated : Separated Done.isRequest Done.isProcessed s.history
  not_stopped : forall ec, Done.stopped ec ∉ s.history
  packageNo_eq : s.connection.packageNo = info.lastPackageNo.toUInt32 + UInt32.ofNat k
  not_pending : k ≠ 0 ∨ info.isIntervalStage = true ->
    ¬ Pending Done.isRequest Done.isProcessed s.history

theorem pending_tick_iff (history : List Done) :
    Pending Done.isRequest Done.isProcessed (history ++ [Done.tick]) <->
      Pending Done.isRequest Done.isProcessed history :=
  pending_concat_iff rfl rfl

theorem beats_asyncWait {info : Info} {earlier requests : List Done} (delay : Delay)
    (hwaits : s.waits = []) (hhistory : s.history = earlier ++ Done.tick :: requests)
    (hnumber : s.connection.packageNo = info.lastPackageNo.toUInt32)
    (hstage : Stage info earlier requests)
    (hnot : forall ec, Done.stopped ec ∉ s.history) : Beats (s.asyncWait info delay) := by
  exists { info := info, expiresAfter := delay }, earlier, requests, 0
  constructor
  · simp [State.asyncWait, hwaits]
  · simpa [State.asyncWait] using hhistory
  · simpa [State.asyncWait] using hnumber
  · exact hstage
  · exact hnot

theorem not_stopped_record {d : Done} (hd : forall ec, d ≠ Done.stopped ec)
    (hnot : forall ec, Done.stopped ec ∉ s.history) (ec : Error) :
    Done.stopped ec ∉ (s.record d).history := by
  intro h
  rcases List.mem_append.mp h with h | h
  · exact hnot ec h
  · exact hd ec (List.mem_singleton.mp h).symm

theorem chained_initiate {info : Info} {k : Nat} (hdue : Due s info k) (newGuid : Guid) :
    Chained (initiate info newGuid s) := by
  have hseparated : Separated Done.isRequest Done.isProcessed (s.record Done.tick).history := by
    apply separated_record hdue.separated
    intro h
    cases h
  have hfirst : forall ec, Done.stopped ec ∉ (s.record Done.tick).history :=
    not_stopped_record (fun _ h => by cases h) hdue.not_stopped
  have hstops (ec : Error) : Chained (failed ec (s.record Done.tick)) :=
    chained_failed ec hdue.waits_eq hseparated hfirst
  unfold initiate
  simp only
  split_ifs with hexpired hclosed hnumber hstage
  · exact hstops _
  · exact hstops _
  · have hk : k ≠ 0 := by
      rintro rfl
      apply hnumber
      have hsame := hdue.packageNo_eq
      exact (hsame.trans (UInt32.add_zero _)).symm
    constructor
    · exact hseparated
    · apply Or.inl
      apply beats_asyncWait (s := s.record Done.tick) _ hdue.waits_eq rfl
      · exact (UInt32.toUInt32_toInt32 _).symm
      · exact Stage.interval rfl (hdue.not_pending (Or.inl hk))
      · exact hfirst
  · have hpending := hdue.not_pending (Or.inr hstage)
    constructor
    · apply separated_record hseparated
      intro _
      exact fun h => hpending ((pending_tick_iff s.history).mp h)
    · apply Or.inl
      apply beats_asyncWait (s := (s.record Done.tick).asyncSend _) _ hdue.waits_eq
        (List.append_assoc _ _ _)
      · exact (not_ne_iff.mp hnumber).symm
      · exact Stage.timeout rfl _ rfl
      · exact not_stopped_record (fun _ h => by cases h) hfirst
  · exact hstops _

/-- A tick of an open connection closes it if the number is the one recorded, and the last
tick queued a request. -/
theorem initiate_closes_iff (hopen : s.IsOpen) (info : Info) (newGuid : Guid) :
    ¬ (initiate info newGuid s).IsOpen <->
      info.lastPackageNo.toUInt32 = s.connection.packageNo ∧ info.isIntervalStage = false := by
  rcases hopen with ⟨hexpired, hsocket⟩
  by_cases hnumber : info.lastPackageNo.toUInt32 = s.connection.packageNo
  · cases hstage : info.isIntervalStage with
    | true =>
        simp [initiate, State.record, State.asyncWait, State.asyncSend,
          BasicTcpConnection.asyncSend, State.IsOpen, hexpired, hsocket, hnumber, hstage]
    | false =>
        simp [initiate, failed, State.record, State.close, State.IsOpen, hexpired, hsocket,
          hnumber, hstage]
  · simp [initiate, State.record, State.asyncWait, State.IsOpen, hexpired, hsocket, hnumber]

/-- A tick of an open connection sends a request if the number is the one recorded, and the
last tick queued none. -/
theorem initiate_sent (hopen : s.IsOpen) (info : Info) (newGuid : Guid) :
    (initiate info newGuid s).connection.sent =
      s.connection.sent ++
        if info.lastPackageNo.toUInt32 = s.connection.packageNo ∧ info.isIntervalStage = true
        then
          [{ command := TcpCommand.heartbeatRequestCommand
             correlationId := newGuid
             message := [] }]
        else [] := by
  rcases hopen with ⟨hexpired, hsocket⟩
  by_cases hnumber : info.lastPackageNo.toUInt32 = s.connection.packageNo
  · cases hstage : info.isIntervalStage with
    | true =>
        simp [initiate, State.record, State.asyncWait, State.asyncSend,
          BasicTcpConnection.asyncSend, hexpired, hsocket, hnumber, hstage]
    | false =>
        rw [if_neg fun h => Bool.noConfusion h.right, List.append_nil]
        simp only [initiate, State.record, hexpired, hsocket, hnumber, hstage, ne_eq,
          not_true_eq_false, Bool.not_true, Bool.false_eq_true, if_false]
        exact failed_sent _ _
  · rw [if_neg fun h => hnumber h.left, List.append_nil]
    simp [initiate, State.record, State.asyncWait, hexpired, hsocket, hnumber]

theorem Stage.not_tick {info : Info} {earlier requests : List Done}
    (h : Stage info earlier requests) (d : Done) (hd : d ∈ requests) : d.isTick = false := by
  cases h with
  | interval => cases hd
  | timeout _ request _ =>
      cases List.mem_singleton.mp hd
      rfl

theorem Beating.since_eq {wait : Wait} {earlier requests : List Done} {k : Nat}
    (h : Beating s wait earlier requests k) :
    since Done.isTick s.history = requests ++ List.replicate k Done.processed := by
  rw [h.history_eq]
  apply since_append_cons rfl
  intro d hd
  rcases List.mem_append.mp hd with hd | hd
  · exact h.stage.not_tick d hd
  · rw [List.eq_of_mem_replicate hd]
    rfl

theorem Beating.few {wait : Wait} {earlier requests : List Done} {k : Nat}
    (h : Beating s wait earlier requests k) (hfew : FewPackages s.history) :
    k < 4294967296 := by
  unfold FewPackages at hfew
  rw [h.since_eq, List.count_append, List.count_replicate_self] at hfew
  exact Nat.lt_of_le_of_lt (Nat.le_add_left k _) hfew

/-- The last tick queued a request exactly when the chain is out of the interval stage. -/
theorem Beating.silent_iff {wait : Wait} {earlier requests : List Done} {k : Nat}
    (h : Beating s wait earlier requests k) :
    Silent s.history <-> wait.info.isIntervalStage = false ∧ k = 0 := by
  unfold Silent
  rw [h.since_eq]
  cases h.stage with
  | interval hstage _ =>
      rw [hstage]
      constructor
      · rintro ⟨⟨d, hd, hrequest⟩, _⟩
        rw [List.eq_of_mem_replicate hd] at hrequest
        cases hrequest
      · rintro ⟨hfalse, _⟩
        cases hfalse
  | timeout hstage request hrequest =>
      rw [hstage]
      constructor
      · rintro ⟨_, hnone⟩
        cases k with
        | zero => exact ⟨rfl, rfl⟩
        | succ n =>
            exact absurd (List.mem_append_right _ (List.mem_replicate.mpr
              ⟨Nat.succ_ne_zero n, rfl⟩)) hnone
      · rintro ⟨_, rfl⟩
        constructor
        · exact ⟨Done.queued request, List.mem_cons_self, hrequest⟩
        · intro hmem
          cases List.mem_singleton.mp hmem

/-- Packages processed since the last tick, or a request queued by it, leave nothing due. -/
theorem Beating.requestsDue_eq {wait : Wait} {earlier requests : List Done} {k : Nat}
    (h : Beating s wait earlier requests k) (newGuid : Guid) :
    requestsDue s.history newGuid =
      if k = 0 ∧ wait.info.isIntervalStage = true then
        [{ command := TcpCommand.heartbeatRequestCommand
           correlationId := newGuid
           message := [] }]
      else [] := by
  have hprocessed : Done.processed ∈ since Done.isTick s.history <-> k ≠ 0 := by
    rw [h.since_eq]
    constructor
    · intro hmem
      rcases List.mem_append.mp hmem with hmem | hmem
      · cases h.stage with
        | interval => cases hmem
        | timeout => cases List.mem_singleton.mp hmem
      · exact (List.mem_replicate.mp hmem).left
    · intro hne
      exact List.mem_append_right _ (List.mem_replicate.mpr ⟨hne, rfl⟩)
  unfold requestsDue
  simp only [h.silent_iff, hprocessed]
  by_cases hk : k = 0
  · cases hstage : wait.info.isIntervalStage <;> simp [hk]
  · simp [hk]

theorem Beating.not_pending {wait : Wait} {earlier requests : List Done} {k : Nat}
    (h : Beating s wait earlier requests k)
    (hanswered : k ≠ 0 ∨ wait.info.isIntervalStage = true) :
    ¬ Pending Done.isRequest Done.isProcessed s.history := by
  cases k with
  | succ n =>
      have hlast : s.history = (earlier ++ Done.tick ::
          (requests ++ List.replicate n Done.processed)) ++ Done.processed :: [] := by
        rw [h.history_eq, List.replicate_succ']
        simp
      rw [hlast]
      apply not_pending_append_cons rfl
      intro d hd
      cases hd
  | zero =>
      have hstage : wait.info.isIntervalStage = true := by
        rcases hanswered with hne | hstage
        · exact absurd rfl hne
        · exact hstage
      rw [h.history_eq]
      cases h.stage with
      | interval _ hpending => exact fun hp => hpending ((pending_tick_iff earlier).mp hp)
      | timeout hfalse _ _ =>
          rw [hfalse] at hstage
          cases hstage

theorem Beating.due {wait : Wait} {earlier requests : List Done} {k : Nat}
    (h : Beating s wait earlier requests k)
    (hseparated : Separated Done.isRequest Done.isProcessed s.history) :
    Due { s with waits := [] } wait.info k where
  waits_eq := rfl
  separated := hseparated
  not_stopped := h.not_stopped
  packageNo_eq := h.packageNo_eq
  not_pending := h.not_pending

/-!
# Steps

A wait that completes is the only one, and leaves none.
-/

theorem chained_received {c : BasicTcpConnection entry (Shared world)}
    (hc : c.packageNo = s.connection.packageNo + 1) (h : Chained s) :
    Chained (State.record Done.processed { s with connection := c }) := by
  constructor
  · apply separated_record h.separated
    intro hrequest
    cases hrequest
  · rcases h.chain with ⟨wait, earlier, requests, k, hbeating⟩ | ⟨earlier, ec, k, hstopped⟩
    · refine Or.inl ⟨wait, earlier, requests, k + 1, ?_⟩
      constructor
      · exact hbeating.waits_eq
      · simp [State.record, hbeating.history_eq, List.replicate_succ']
      · show c.packageNo = _
        rw [hc, hbeating.packageNo_eq, UInt32.ofNat_add, ← UInt32.add_assoc]
        rfl
      · exact hbeating.stage
      · exact not_stopped_record (s := { s with connection := c }) (fun _ hd => by cases hd)
          hbeating.not_stopped
    · refine Or.inr ⟨earlier, ec, k + 1, ?_⟩
      constructor
      · exact hstopped.waits_eq
      · simp [State.record, hstopped.history_eq, List.replicate_succ']
      · exact hstopped.first

theorem chained_other {c : BasicTcpConnection entry (Shared world)}
    (hc : c.packageNo = s.connection.packageNo) (h : Chained s) :
    Chained { s with connection := c } := by
  constructor
  · exact h.separated
  · rcases h.chain with ⟨wait, earlier, requests, k, hbeating⟩ | ⟨earlier, ec, k, hstopped⟩
    · refine Or.inl ⟨wait, earlier, requests, k, ?_⟩
      exact
        { waits_eq := hbeating.waits_eq
          history_eq := hbeating.history_eq
          packageNo_eq := hc.trans hbeating.packageNo_eq
          stage := hbeating.stage
          not_stopped := hbeating.not_stopped }
    · refine Or.inr ⟨earlier, ec, k, ?_⟩
      exact
        { waits_eq := hstopped.waits_eq
          history_eq := hstopped.history_eq
          first := hstopped.first }

theorem completed_beating {wait : Wait} {i : Nat} (h : Chained s)
    (hwait : s.waits[i]? = some wait) :
    s.waits.eraseIdx i = [] ∧
      exists earlier requests k, Beating s wait earlier requests k := by
  rcases h.chain with ⟨wait', earlier, requests, k, hbeating⟩ | ⟨earlier, ec, k, hstopped⟩
  · rw [hbeating.waits_eq] at hwait ⊢
    cases i with
    | zero =>
        cases hwait
        exact ⟨rfl, earlier, requests, k, hbeating⟩
    | succ n => cases hwait
  · rw [hstopped.waits_eq] at hwait
    cases hwait

theorem chained_step {i : Input entry world} (h : Chained s)
    (hstep : step call s i = some next) : Chained next := by
  cases i with
  | received package newGuid =>
      simp only [step] at hstep
      split_ifs at hstep
      cases hstep
      exact chained_received (receive_packageNo newGuid package s.connection) h
  | completed i result newGuid =>
      simp only [step] at hstep
      cases hwait : s.waits[i]? with
      | none =>
          rw [hwait] at hstep
          cases hstep
      | some wait =>
          rw [hwait] at hstep
          cases hstep
          rcases completed_beating h hwait with ⟨hnone, earlier, requests, k, hbeating⟩
          rw [hnone]
          have hdue := hbeating.due h.separated
          cases result with
          | expired => exact chained_initiate hdue newGuid
          | aborted =>
              exact chained_failed (s := { s with waits := [] })
                (Error.asio .operationAborted) rfl h.separated hbeating.not_stopped
  | other code =>
      cases hstep
      exact chained_other (code.keepsPackageNo _ s.connection rfl) h

/-!
The history is what the operation does: each call of it adds to the packages sent of the
connection what it says to have queued.
-/

theorem called_failed (ec : Error) (hwaits : s.waits = []) :
    Called s.connection.sent s.history (failed ec s) := by
  rcases failed_history ec s with ⟨hhistory, hsame⟩
  refine ⟨[], [Done.stopped ec], ?_, hhistory, Or.inr ⟨ec, rfl, hsame.trans hwaits⟩⟩
  rw [failed_sent, List.append_nil]

theorem called_asyncWait (info : Info) (delay : Delay) {requests : List Package}
    {sent : List Package} {history : List Done}
    (hsent : s.connection.sent = sent ++ requests)
    (hhistory : s.history = history ++ requests.map Done.queued) :
    Called sent history (s.asyncWait info delay) := by
  refine ⟨requests, [], hsent, ?_, Or.inl ⟨rfl, ?_⟩⟩
  · rw [List.append_nil]
    exact hhistory
  · exact List.append_ne_nil_of_right_ne_nil _ (List.cons_ne_nil _ _)

theorem called_initiate (info : Info) (newGuid : Guid) (hwaits : s.waits = []) :
    Called s.connection.sent (s.history ++ [Done.tick]) (initiate info newGuid s) := by
  have hstops (ec : Error) :
      Called s.connection.sent (s.history ++ [Done.tick]) (failed ec (s.record Done.tick)) :=
    called_failed ec hwaits
  unfold initiate
  simp only
  split_ifs
  · exact hstops _
  · exact hstops _
  · exact called_asyncWait _ _ (List.append_nil _).symm (List.append_nil _).symm
  · exact called_asyncWait _ _ rfl rfl
  · exact hstops _

theorem step_records {i : Input entry world} (h : Chained s)
    (hstep : step call s i = some next) : Records s next i := by
  cases i with
  | received package newGuid =>
      simp only [step] at hstep
      split_ifs at hstep
      cases hstep
      rfl
  | completed i result newGuid =>
      simp only [step] at hstep
      cases hwait : s.waits[i]? with
      | none =>
          rw [hwait] at hstep
          cases hstep
      | some wait =>
          rw [hwait] at hstep
          cases hstep
          have hnone := (completed_beating h hwait).left
          cases result with
          | expired =>
              exact called_initiate (s := { s with waits := s.waits.eraseIdx i }) wait.info
                newGuid hnone
          | aborted =>
              exact called_failed (s := { s with waits := s.waits.eraseIdx i })
                (Error.asio .operationAborted) hnone
  | other code =>
      cases hstep
      rfl

theorem chained_start (c : BasicTcpConnection entry (Shared world)) (newGuid : Guid) :
    Chained (start c newGuid) := by
  have hdue : Due { connection := c, waits := [], history := [] } (construct c) 0 :=
    { waits_eq := rfl
      separated := separated_nil
      not_stopped := fun _ h => by cases h
      packageNo_eq := by simp [construct]
      not_pending := fun _ => not_pending_nil }
  exact chained_initiate hdue newGuid

theorem isStopped_of_first {earlier : List Done}
    (hfirst : forall ec, Done.stopped ec ∉ earlier) {d : Done} (hd : d ∈ earlier) :
    d.isStopped = false := by
  cases d with
  | stopped ec => exact absurd hd (hfirst ec)
  | tick => rfl
  | queued package => rfl
  | processed => rfl

theorem Chained.oneWait (h : Chained s) : OneWait s := by
  constructor
  · intro hnone
    rcases h.chain with ⟨wait, earlier, requests, k, hbeating⟩ | ⟨earlier, ec, k, hstopped⟩
    · exact ⟨wait, hbeating.waits_eq⟩
    · have hmem : Done.stopped ec ∈ s.history := by
        rw [hstopped.history_eq]
        exact List.mem_append_right _ List.mem_cons_self
      exact absurd hmem (hnone ec)
  · intro before ec after hsplit
    rcases h.chain with ⟨wait, earlier, requests, k, hbeating⟩ | ⟨earlier, ec', k, hstopped⟩
    · have hmem : Done.stopped ec ∈ s.history := by
        rw [hsplit]
        exact List.mem_append_right _ List.mem_cons_self
      exact absurd hmem (hbeating.not_stopped ec)
    · constructor
      · exact hstopped.waits_eq
      · rw [hstopped.history_eq] at hsplit
        have hearlier : forall d, d ∈ earlier -> d.isStopped = false :=
          fun d hd => isStopped_of_first hstopped.first hd
        have hlater : forall d, d ∈ List.replicate k Done.processed -> d.isStopped = false := by
          intro d hd
          rw [List.eq_of_mem_replicate hd]
          rfl
        have hunique := append_cons_unique hearlier hlater rfl hsplit
        rw [← hunique.right.right]
        exact fun d hd => List.eq_of_mem_replicate hd

theorem tick_closes_iff {i : Nat} {guid : Guid} (hchained : Chained s)
    (hfew : FewPackages s.history) (hopen : s.IsOpen)
    (hstep : step call s (.completed i WaitResult.expired guid) = some next) :
    (¬ next.IsOpen <-> Silent s.history) ∧
      next.connection.sent = s.connection.sent ++ requestsDue s.history guid := by
  simp only [step] at hstep
  cases hwait : s.waits[i]? with
  | none =>
      rw [hwait] at hstep
      cases hstep
  | some wait =>
      rw [hwait] at hstep
      cases hstep
      rcases completed_beating hchained hwait with ⟨_, earlier, requests, k, hbeating⟩
      have hnumber : wait.info.lastPackageNo.toUInt32 = s.connection.packageNo <-> k = 0 := by
        rw [hbeating.packageNo_eq, eq_comm]
        exact add_ofNat_eq_iff _ (hbeating.few hfew)
      constructor
      · rw [hbeating.silent_iff, and_comm, ← hnumber]
        exact initiate_closes_iff (s := { s with waits := s.waits.eraseIdx i }) hopen wait.info
          guid
      · have hsent := initiate_sent (s := { s with waits := s.waits.eraseIdx i }) hopen
          wait.info guid
        simp only [hbeating.requestsDue_eq, ← hnumber]
        exact hsent

end

def aboutToWrap : BasicTcpConnection Empty (Shared Unit) :=
  { packageNo := 4294967295
    operations := ∅
    subscriptions := ∅
    sent := []
    world := { expired := false, socketOpen := true, rest := () } }

def secondUnanswered : List (Input Empty Unit) :=
  [Input.received
      { command := TcpCommand.heartbeatResponseCommand
        correlationId := Guid.ofByte 1
        message := [] } (Guid.ofByte 2),
    Input.completed 0 WaitResult.expired (Guid.ofByte 3),
    Input.completed 0 WaitResult.expired (Guid.ofByte 4)]

def silentStep : State Empty Unit -> Input Empty Unit -> Option (State Empty Unit) :=
  step (fun _ e => e.elim)

end Heartbeat

end Connection
end EventStoreClient
