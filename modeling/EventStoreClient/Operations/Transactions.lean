import EventStoreClient.Foundation.Runs
import EventStoreClient.Operations.Requests
import Mathlib.Data.List.Perm.Subperm
import Mathlib.Data.List.Range

/-!
# `transaction`

What the objects of a transaction send, however they are moved and called.
-/

namespace EventStoreClient
namespace Operations

open Connection Foundation Wire

/-!
# The objects

A transaction object keeps a state and its connection; `refusal` is the error of
`async_commit` and of `async_write`.
-/

/-- `transaction`.  A move takes its connection away, and leaves the rest. -/
structure TransactionObject where
  transactionId : Int64
  isRolledBack : Bool
  isCommitted : Bool
  hasConnection : Bool
  deriving DecidableEq

namespace TransactionObject

/-- The constructor that the handler of `async_start_transaction` calls. -/
def new (transactionId : Int64) : TransactionObject :=
  { transactionId := transactionId
    isRolledBack := false
    isCommitted := false
    hasConnection := true }

def refusal (o : TransactionObject) : Option StreamErrors :=
  let ec := if o.isRolledBack then some StreamErrors.transactionRolledBack else none
  if o.isCommitted then some StreamErrors.transactionCommitted else ec

def write (events : List EventData) (o : TransactionObject) :
    ClientRequest × TransactionObject :=
  (ClientRequest.transactionalWrite o.transactionId events, o)

def commit (o : TransactionObject) : ClientRequest × TransactionObject :=
  (ClientRequest.commitTransaction o.transactionId, { o with isCommitted := true })

def rollback (o : TransactionObject) : Option StreamErrors × TransactionObject :=
  if o.isCommitted then (some StreamErrors.transactionCommitted, o)
  else (none, { o with isRolledBack := true })

def movedFrom (o : TransactionObject) : TransactionObject := { o with hasConnection := false }

end TransactionObject

/-!
# The program around them

The user calls and moves objects.  The holders of an id are the objects that can still be
called, and the server gives every transaction an id of its own.
-/

/-- The objects of all transactions, and what has come of the calls of `async_write` and
`async_commit`, which are counted. -/
structure Transactions where
  objects : List TransactionObject
  -- the ids that the server has given
  started : List Int64
  calls : Nat
  sent : List (Nat × ClientRequest)
  -- the closures with an error that have not run
  posted : List (Nat × StreamErrors)
  reported : List (Nat × StreamErrors)

inductive TransactionInput where
  | started (transactionId : Int64)
  | write (place : Nat) (events : List EventData)
  | commit (place : Nat)
  | rollback (place : Nat)
  | moveConstruct (source : Nat)
  | moveAssign (target source : Nat)
  -- the io_context runs the oldest closure
  | runPosted

namespace Transactions

def none : Transactions :=
  { objects := []
    started := []
    calls := 0
    sent := []
    posted := []
    reported := [] }

/-- A call of `async_write` or of `async_commit`.  An object without a connection has
nothing to post the error to, and nothing to send on. -/
def call (action : TransactionObject -> ClientRequest × TransactionObject) (place : Nat)
    (s : Transactions) : Option Transactions :=
  match s.objects[place]? with
  | some o =>
      if o.hasConnection then
        match o.refusal with
        | some e =>
            some { s with
              calls := s.calls + 1
              posted := s.posted ++ [(s.calls, e)] }
        | Option.none =>
            some { s with
              objects := s.objects.set place (action o).2
              calls := s.calls + 1
              sent := s.sent ++ [(s.calls, (action o).1)] }
      else Option.none
  | Option.none => Option.none

def step (s : Transactions) : TransactionInput -> Option Transactions
  | .started transactionId =>
      some { s with
        objects := s.objects ++ [TransactionObject.new transactionId]
        started := transactionId :: s.started }
  | .write place events => s.call (TransactionObject.write events) place
  | .commit place => s.call TransactionObject.commit place
  | .rollback place =>
      s.objects[place]?.map fun o =>
        { s with objects := s.objects.set place o.rollback.2 }
  | .moveConstruct source =>
      s.objects[source]?.map fun o =>
        { s with objects := s.objects.set source o.movedFrom ++ [o] }
  | .moveAssign target source =>
      if target = source then some s
      else if target < s.objects.length then
        s.objects[source]?.map fun o =>
          { s with objects := (s.objects.set source o.movedFrom).set target o }
      else Option.none
  | .runPosted =>
      match s.posted with
      | [] => Option.none
      | closure :: posted =>
          some { s with
            posted := posted
            reported := s.reported ++ [closure] }

def OwnId (s : Transactions) : TransactionInput -> Prop
  | .started transactionId => transactionId ∉ s.started
  | _ => True

instance (s : Transactions) : (i : TransactionInput) -> Decidable (s.OwnId i)
  | .started transactionId => inferInstanceAs (Decidable (transactionId ∉ s.started))
  | .write _ _ => inferInstanceAs (Decidable True)
  | .commit _ => inferInstanceAs (Decidable True)
  | .rollback _ => inferInstanceAs (Decidable True)
  | .moveConstruct _ => inferInstanceAs (Decidable True)
  | .moveAssign _ _ => inferInstanceAs (Decidable True)
  | .runPosted => inferInstanceAs (Decidable True)

def holders (s : Transactions) : List TransactionObject :=
  s.objects.filter TransactionObject.hasConnection

def requests (s : Transactions) : List ClientRequest := s.sent.map Prod.snd

end Transactions

def ClientRequest.transaction : ClientRequest -> Option Int64
  | .transactionalWrite transactionId _ => some transactionId
  | .commitTransaction transactionId => some transactionId
  | _ => none

def requestsFor (transactionId : Int64) (requests : List ClientRequest) : List ClientRequest :=
  requests.filter fun r => r.transaction = some transactionId

def IsTransaction (transactionId : Int64) (requests : List ClientRequest) : Prop :=
  exists batches : List (List EventData),
    requests = batches.map (ClientRequest.transactionalWrite transactionId) ∨
      requests = batches.map (ClientRequest.transactionalWrite transactionId) ++
        [ClientRequest.commitTransaction transactionId]

/-!
# What one step does to the holders

Without its connection an object is no holder.
-/

namespace Transactions

variable {s next : Transactions}

theorem holders_set {objects : List TransactionObject} {place : Nat} {o : TransactionObject}
    (ho : objects[place]? = some o) (o' : TransactionObject) :
    exists before behind : List TransactionObject,
      objects.filter TransactionObject.hasConnection =
          before ++ [o].filter TransactionObject.hasConnection ++ behind ∧
        (objects.set place o').filter TransactionObject.hasConnection =
          before ++ [o'].filter TransactionObject.hasConnection ++ behind := by
  rcases List.getElem?_eq_some_iff.mp ho with ⟨hplace, rfl⟩
  refine ⟨(objects.take place).filter TransactionObject.hasConnection,
    (objects.drop (place + 1)).filter TransactionObject.hasConnection, ?_, ?_⟩
  · rw [← List.filter_append, ← List.filter_append, List.append_assoc, List.singleton_append,
      ← List.drop_eq_getElem_cons hplace, List.take_append_drop]
  · rw [← List.filter_append, ← List.filter_append, List.append_assoc, List.singleton_append,
      List.set_eq_take_append_cons_drop, if_pos hplace]

theorem keep_holder {o : TransactionObject} (hconnection : o.hasConnection = true) :
    [o].filter TransactionObject.hasConnection = [o] :=
  List.filter_cons_of_pos hconnection

theorem drop_movedFrom {o : TransactionObject} (hconnection : o.hasConnection = false) :
    [o].filter TransactionObject.hasConnection = [] :=
  List.filter_cons_of_neg (Bool.not_eq_true _ ▸ hconnection)

theorem holders_set_holder {objects : List TransactionObject} {place : Nat}
    {o o' : TransactionObject} (ho : objects[place]? = some o)
    (hconnection : o.hasConnection = true) (hconnection' : o'.hasConnection = true) :
    exists before behind : List TransactionObject,
      objects.filter TransactionObject.hasConnection = before ++ o :: behind ∧
        (objects.set place o').filter TransactionObject.hasConnection =
          before ++ o' :: behind := by
  rcases holders_set ho o' with ⟨before, behind, hbefore, hafter⟩
  rw [keep_holder hconnection, List.append_assoc, List.singleton_append] at hbefore
  rw [keep_holder hconnection', List.append_assoc, List.singleton_append] at hafter
  exact ⟨before, behind, hbefore, hafter⟩

theorem holders_set_movedFrom {objects : List TransactionObject} {place : Nat}
    {o o' : TransactionObject} (ho : objects[place]? = some o)
    (hconnection : o.hasConnection = false) (hconnection' : o'.hasConnection = false) :
    (objects.set place o').filter TransactionObject.hasConnection =
      objects.filter TransactionObject.hasConnection := by
  rcases holders_set ho o' with ⟨before, behind, hbefore, hafter⟩
  rw [drop_movedFrom hconnection] at hbefore
  rw [drop_movedFrom hconnection'] at hafter
  exact hafter.trans hbefore.symm

/-- What a step does to the objects that have a connection, and to what is sent. -/
inductive Change (s next : Transactions) : Prop where
  | started (transactionId : Int64) (hown : transactionId ∉ s.started)
      (hstarted : next.started = transactionId :: s.started)
      (hholders : next.holders = s.holders ++ [TransactionObject.new transactionId])
      (hrequests : next.requests = s.requests)
  | wrote {o : TransactionObject} (events : List EventData) (ho : o ∈ s.holders)
      (hopen : o.refusal = Option.none)
      (hstarted : next.started = s.started)
      (hholders : next.holders = s.holders)
      (hrequests : next.requests =
        s.requests ++ [ClientRequest.transactionalWrite o.transactionId events])
  | committed {o : TransactionObject} {before behind : List TransactionObject}
      (hopen : o.refusal = Option.none)
      (hstarted : next.started = s.started)
      (hbefore : s.holders = before ++ o :: behind)
      (hholders : next.holders = before ++ { o with isCommitted := true } :: behind)
      (hrequests : next.requests =
        s.requests ++ [ClientRequest.commitTransaction o.transactionId])
  | rolledBack {o : TransactionObject} {before behind : List TransactionObject}
      (hopen : o.isCommitted = false)
      (hstarted : next.started = s.started)
      (hbefore : s.holders = before ++ o :: behind)
      (hholders : next.holders = before ++ { o with isRolledBack := true } :: behind)
      (hrequests : next.requests = s.requests)
  | moved (hstarted : next.started = s.started) (hholders : next.holders.Subperm s.holders)
      (hrequests : next.requests = s.requests)

theorem call_cases {action : TransactionObject -> ClientRequest × TransactionObject}
    {place : Nat} (hcall : s.call action place = some next) :
    exists o, s.objects[place]? = some o ∧ o.hasConnection = true ∧
      ((exists e, o.refusal = some e ∧
          next = { s with
            calls := s.calls + 1
            posted := s.posted ++ [(s.calls, e)] }) ∨
        (o.refusal = Option.none ∧
          next = { s with
            objects := s.objects.set place (action o).2
            calls := s.calls + 1
            sent := s.sent ++ [(s.calls, (action o).1)] })) := by
  unfold call at hcall
  cases ho : s.objects[place]? with
  | none =>
      rw [ho] at hcall
      cases hcall
  | some o =>
      rw [ho] at hcall
      cases hconnection : o.hasConnection with
      | false => simp [hconnection] at hcall
      | true =>
          refine ⟨o, rfl, hconnection, ?_⟩
          simp only [hconnection, if_true] at hcall
          cases hrefusal : o.refusal with
          | some e =>
              rw [hrefusal] at hcall
              exact Or.inl ⟨e, rfl, (Option.some.inj hcall).symm⟩
          | none =>
              rw [hrefusal] at hcall
              exact Or.inr ⟨rfl, (Option.some.inj hcall).symm⟩

theorem Change.of_same (hstarted : next.started = s.started)
    (hholders : next.holders = s.holders) (hrequests : next.requests = s.requests) :
    Change s next :=
  Change.moved hstarted (hholders ▸ List.Subperm.refl _) hrequests

theorem requests_append (call : Nat) (r : ClientRequest) (sent : List (Nat × ClientRequest)) :
    (sent ++ [(call, r)]).map Prod.snd = sent.map Prod.snd ++ [r] := by
  rw [List.map_append]
  rfl

theorem change_write {place : Nat} {events : List EventData}
    (hcall : s.call (TransactionObject.write events) place = some next) : Change s next := by
  rcases call_cases hcall with ⟨o, ho, hconnection, ⟨e, _, rfl⟩ | ⟨hopen, rfl⟩⟩
  · exact Change.of_same rfl rfl rfl
  · have hobjects : s.objects.set place o = s.objects := by
      rcases List.getElem?_eq_some_iff.mp ho with ⟨hplace, rfl⟩
      exact List.set_getElem_self hplace
    have hholder : o ∈ s.holders :=
      List.mem_filter.mpr ⟨List.mem_of_getElem? ho, hconnection⟩
    exact Change.wrote events hholder hopen rfl (congrArg (List.filter _) hobjects)
      (requests_append _ _ _)

theorem change_commit {place : Nat} (hcall : s.call TransactionObject.commit place = some next) :
    Change s next := by
  rcases call_cases hcall with ⟨o, ho, hconnection, ⟨e, _, rfl⟩ | ⟨hopen, rfl⟩⟩
  · exact Change.of_same rfl rfl rfl
  · have hconnection' : { o with isCommitted := true }.hasConnection = true := hconnection
    rcases holders_set_holder ho hconnection hconnection' with ⟨before, behind, hbefore, hafter⟩
    exact Change.committed hopen rfl hbefore hafter (requests_append _ _ _)

theorem change_rollback {place : Nat} {o : TransactionObject} (ho : s.objects[place]? = some o) :
    Change s { s with objects := s.objects.set place o.rollback.2 } := by
  rcases Bool.eq_false_or_eq_true o.isCommitted with hcommitted | hopen
  · have hobjects : s.objects.set place o = s.objects := by
      rcases List.getElem?_eq_some_iff.mp ho with ⟨hplace, rfl⟩
      exact List.set_getElem_self hplace
    rw [TransactionObject.rollback, if_pos hcommitted]
    exact Change.of_same rfl (congrArg (List.filter _) hobjects) rfl
  · rw [TransactionObject.rollback, if_neg (by rw [hopen]; exact Bool.false_ne_true)]
    rcases Bool.eq_false_or_eq_true o.hasConnection with hconnection | hconnection
    · have hconnection' : { o with isRolledBack := true }.hasConnection = true := hconnection
      rcases holders_set_holder ho hconnection hconnection' with
        ⟨before, behind, hbefore, hafter⟩
      exact Change.rolledBack hopen rfl hbefore hafter rfl
    · exact Change.of_same rfl (holders_set_movedFrom ho hconnection hconnection) rfl

theorem holders_movedFrom {objects : List TransactionObject} {place : Nat}
    {o : TransactionObject} (ho : objects[place]? = some o) :
    List.Perm ([o].filter TransactionObject.hasConnection ++
        (objects.set place o.movedFrom).filter TransactionObject.hasConnection)
      (objects.filter TransactionObject.hasConnection) := by
  rcases holders_set ho o.movedFrom with ⟨before, behind, hbefore, hafter⟩
  rw [drop_movedFrom (o := o.movedFrom) rfl, List.append_nil] at hafter
  rw [hbefore, hafter, ← List.append_assoc]
  exact List.perm_append_comm.append_right behind

theorem change_moveConstruct {source : Nat} {o : TransactionObject}
    (ho : s.objects[source]? = some o) :
    Change s { s with objects := s.objects.set source o.movedFrom ++ [o] } := by
  refine Change.moved rfl (List.Perm.subperm ?_) rfl
  show List.Perm ((s.objects.set source o.movedFrom ++ [o]).filter _) _
  rw [List.filter_append]
  exact List.perm_append_comm.trans (holders_movedFrom ho)

theorem change_moveAssign {target source : Nat} {o : TransactionObject}
    (htarget : target < s.objects.length) (ho : s.objects[source]? = some o) :
    Change s { s with objects := (s.objects.set source o.movedFrom).set target o } := by
  have hplace : target < (s.objects.set source o.movedFrom).length := by
    rw [List.length_set]
    exact htarget
  rcases holders_set (List.getElem?_eq_getElem hplace) o with ⟨before, behind, hbefore, hafter⟩
  refine Change.moved rfl ?_ rfl
  have hmoved := holders_movedFrom ho
  rw [hbefore] at hmoved
  refine List.Subperm.trans ?_ hmoved.subperm
  show List.Subperm (((s.objects.set source o.movedFrom).set target o).filter _) _
  rw [hafter, List.append_assoc, List.append_assoc]
  have hfront : List.Perm (before ++ ([o].filter TransactionObject.hasConnection ++ behind))
      ([o].filter TransactionObject.hasConnection ++ (before ++ behind)) :=
    List.perm_append_comm_assoc _ _ _
  refine hfront.subperm.trans (List.Sublist.subperm ?_)
  exact (List.append_sublist_append_left _).mpr
    ((List.append_sublist_append_left _).mpr (List.sublist_append_right _ _))

theorem step_change {i : TransactionInput} (hown : s.OwnId i) (hstep : s.step i = some next) :
    Change s next := by
  cases i with
  | started transactionId =>
      cases hstep
      exact Change.started transactionId hown rfl (List.filter_append _ _) rfl
  | write place events => exact change_write hstep
  | commit place => exact change_commit hstep
  | rollback place =>
      rcases Option.map_eq_some_iff.mp hstep with ⟨o, ho, rfl⟩
      exact change_rollback ho
  | moveConstruct source =>
      rcases Option.map_eq_some_iff.mp hstep with ⟨o, ho, rfl⟩
      exact change_moveConstruct ho
  | moveAssign target source =>
      simp only [step] at hstep
      split at hstep
      · cases hstep
        exact Change.of_same rfl rfl rfl
      · split at hstep
        · rcases Option.map_eq_some_iff.mp hstep with ⟨o, ho, rfl⟩
          exact change_moveAssign ‹_› ho
        · cases hstep
  | runPosted =>
      simp only [step] at hstep
      cases hposted : s.posted with
      | nil =>
          rw [hposted] at hstep
          cases hstep
      | cons closure posted =>
          rw [hposted] at hstep
          cases hstep
          exact Change.of_same rfl rfl rfl

end Transactions

/-!
# The requests of one transaction

Before its commit a transaction has writes alone.
-/

theorem requestsFor_append_self {r : ClientRequest} {transactionId : Int64}
    (h : r.transaction = some transactionId) (requests : List ClientRequest) :
    requestsFor transactionId (requests ++ [r]) = requestsFor transactionId requests ++ [r] := by
  rw [requestsFor, List.filter_append, List.filter_cons_of_pos (by simpa using h)]
  rfl

theorem requestsFor_append_other {r : ClientRequest} {transactionId : Int64}
    (h : r.transaction ≠ some transactionId) (requests : List ClientRequest) :
    requestsFor transactionId (requests ++ [r]) = requestsFor transactionId requests := by
  rw [requestsFor, List.filter_append, List.filter_cons_of_neg (by simpa using h)]
  exact List.append_nil _

theorem IsTransaction.writes {transactionId : Int64} {requests : List ClientRequest}
    (h : IsTransaction transactionId (requestsFor transactionId requests))
    (hopen : ClientRequest.commitTransaction transactionId ∉ requests) :
    exists batches : List (List EventData),
      requestsFor transactionId requests =
        batches.map (ClientRequest.transactionalWrite transactionId) := by
  rcases h with ⟨batches, hwrites | hcommitted⟩
  · exact ⟨batches, hwrites⟩
  · have hlast : ClientRequest.commitTransaction transactionId ∈
        requestsFor transactionId requests := by
      rw [hcommitted]
      exact List.mem_append_right _ (List.mem_singleton_self _)
    exact absurd (List.mem_filter.mp hlast).left hopen

theorem TransactionObject.open_of_refusal {o : TransactionObject} (h : o.refusal = none) :
    o.isRolledBack = false ∧ o.isCommitted = false := by
  unfold TransactionObject.refusal at h
  cases hcommitted : o.isCommitted with
  | true => simp [hcommitted] at h
  | false =>
      cases hrolledBack : o.isRolledBack with
      | true => simp [hcommitted, hrolledBack] at h
      | false => exact ⟨rfl, rfl⟩

namespace Transactions

variable {s next : Transactions}

/-- No two objects hold the same transaction, and before its commit is sent a transaction
has been sent writes alone. -/
structure Kept (s : Transactions) : Prop where
  single : (s.holders.map TransactionObject.transactionId).Nodup
  holder_started : forall o, o ∈ s.holders -> o.transactionId ∈ s.started
  request_started : forall r, r ∈ s.requests -> forall transactionId,
    r.transaction = some transactionId -> transactionId ∈ s.started
  shape : forall transactionId, IsTransaction transactionId (requestsFor transactionId s.requests)
  uncommitted : forall o, o ∈ s.holders -> o.isCommitted = false ->
    ClientRequest.commitTransaction o.transactionId ∉ s.requests

theorem none_kept : Kept none where
  single := List.nodup_nil
  holder_started := fun o ho => by cases ho
  request_started := fun r hr => by cases hr
  shape := fun _ => ⟨[], Or.inl rfl⟩
  uncommitted := fun o ho => by cases ho

theorem Kept.started {transactionId : Int64} (h : Kept s) (hown : transactionId ∉ s.started)
    (hstarted : next.started = transactionId :: s.started)
    (hholders : next.holders = s.holders ++ [TransactionObject.new transactionId])
    (hrequests : next.requests = s.requests) : Kept next where
  single := by
    rw [hholders, List.map_append]
    refine List.Nodup.append h.single (List.nodup_singleton _) ?_
    intro t ht hnew
    rcases List.mem_map.mp ht with ⟨o, ho, rfl⟩
    have hid : o.transactionId = transactionId := List.mem_singleton.mp hnew
    exact hown (hid ▸ h.holder_started o ho)
  holder_started := by
    rw [hholders, hstarted]
    intro o ho
    rcases List.mem_append.mp ho with hbefore | hnew
    · exact List.mem_cons_of_mem _ (h.holder_started o hbefore)
    · rw [List.mem_singleton.mp hnew]
      exact List.mem_cons_self
  request_started := by
    rw [hrequests, hstarted]
    intro r hr t ht
    exact List.mem_cons_of_mem _ (h.request_started r hr t ht)
  shape := by
    rw [hrequests]
    exact h.shape
  uncommitted := by
    rw [hholders, hrequests]
    intro o ho hopen
    rcases List.mem_append.mp ho with hbefore | hnew
    · exact h.uncommitted o hbefore hopen
    · rw [List.mem_singleton.mp hnew]
      intro hcommit
      exact hown (h.request_started _ hcommit transactionId rfl)

theorem Kept.wrote {o : TransactionObject} (h : Kept s) (events : List EventData)
    (ho : o ∈ s.holders) (hopen : o.isCommitted = false)
    (hstarted : next.started = s.started) (hholders : next.holders = s.holders)
    (hrequests : next.requests =
      s.requests ++ [ClientRequest.transactionalWrite o.transactionId events]) : Kept next where
  single := by
    rw [hholders]
    exact h.single
  holder_started := by
    rw [hholders, hstarted]
    exact h.holder_started
  request_started := by
    rw [hrequests, hstarted]
    intro r hr t ht
    rcases List.mem_append.mp hr with hbefore | hnew
    · exact h.request_started r hbefore t ht
    · rw [List.mem_singleton.mp hnew] at ht
      cases ht
      exact h.holder_started o ho
  shape := by
    intro t
    rw [hrequests]
    by_cases ht : o.transactionId = t
    · subst ht
      rcases (h.shape o.transactionId).writes (h.uncommitted o ho hopen) with
        ⟨batches, hwrites⟩
      rw [requestsFor_append_self rfl, hwrites]
      refine ⟨batches ++ [events], Or.inl ?_⟩
      rw [List.map_append]
      rfl
    · rw [requestsFor_append_other (r := .transactionalWrite o.transactionId events)
        fun heq => ht (Option.some.inj heq)]
      exact h.shape t
  uncommitted := by
    rw [hholders, hrequests]
    intro p hp hpopen hcommit
    rcases List.mem_append.mp hcommit with hbefore | hnew
    · exact h.uncommitted p hp hpopen hbefore
    · cases List.mem_singleton.mp hnew

/-- What a call of one holder leaves: the holder as the call has changed it, and the
others, which are for other transactions. -/
structure Replaced (o o' : TransactionObject) (s next : Transactions) : Prop where
  holder : o ∈ s.holders
  ids : next.holders.map TransactionObject.transactionId =
    s.holders.map TransactionObject.transactionId
  others : forall p, p ∈ next.holders ->
    p = o' ∨ p ∈ s.holders ∧ p.transactionId ≠ o.transactionId

theorem Kept.replaced {o o' : TransactionObject} {before behind : List TransactionObject}
    (h : Kept s) (hid : o'.transactionId = o.transactionId)
    (hbefore : s.holders = before ++ o :: behind)
    (hholders : next.holders = before ++ o' :: behind) : Replaced o o' s next where
  holder := by
    rw [hbefore]
    exact List.mem_append_right _ List.mem_cons_self
  ids := by
    rw [hholders, hbefore, List.map_append, List.map_append, List.map_cons, List.map_cons, hid]
  others := by
    -- another object with this id would be a second holder
    have hothers : forall p, p ∈ before ++ behind -> p.transactionId ≠ o.transactionId := by
      have hsingle := h.single
      rw [hbefore, List.map_append, List.map_cons] at hsingle
      have hfirst := List.nodup_middle.mp hsingle
      rw [List.nodup_cons, ← List.map_append] at hfirst
      intro p hp heq
      exact hfirst.left (heq ▸ List.mem_map_of_mem hp)
    rw [hholders, hbefore]
    intro p hp
    rcases List.mem_append.mp hp with hfront | hrest
    · exact Or.inr ⟨List.mem_append_left _ hfront,
        hothers p (List.mem_append_left _ hfront)⟩
    · rcases List.mem_cons.mp hrest with hself | hback
      · exact Or.inl hself
      · exact Or.inr ⟨List.mem_append_right _ (List.mem_cons_of_mem _ hback),
          hothers p (List.mem_append_right _ hback)⟩

theorem Kept.committed {o o' : TransactionObject} (h : Kept s) (hopen : o.isCommitted = false)
    (hid : o'.transactionId = o.transactionId) (hcommitted : o'.isCommitted = true)
    (hstarted : next.started = s.started) (hreplaced : Replaced o o' s next)
    (hrequests : next.requests =
      s.requests ++ [ClientRequest.commitTransaction o.transactionId]) : Kept next where
  single := by
    rw [hreplaced.ids]
    exact h.single
  holder_started := by
    rw [hstarted]
    intro p hp
    rcases hreplaced.others p hp with rfl | ⟨hold, _⟩
    · rw [hid]
      exact h.holder_started o hreplaced.holder
    · exact h.holder_started p hold
  request_started := by
    rw [hrequests, hstarted]
    intro r hr t ht
    rcases List.mem_append.mp hr with hsent | hnew
    · exact h.request_started r hsent t ht
    · rw [List.mem_singleton.mp hnew] at ht
      cases ht
      exact h.holder_started o hreplaced.holder
  shape := by
    intro t
    rw [hrequests]
    by_cases ht : o.transactionId = t
    · subst ht
      rcases (h.shape o.transactionId).writes (h.uncommitted o hreplaced.holder hopen) with
        ⟨batches, hwrites⟩
      rw [requestsFor_append_self rfl, hwrites]
      exact ⟨batches, Or.inr rfl⟩
    · rw [requestsFor_append_other (r := .commitTransaction o.transactionId)
        fun heq => ht (Option.some.inj heq)]
      exact h.shape t
  uncommitted := by
    rw [hrequests]
    intro p hp hpopen hcommit
    rcases hreplaced.others p hp with rfl | ⟨hold, hother⟩
    · rw [hcommitted] at hpopen
      cases hpopen
    · rcases List.mem_append.mp hcommit with hsent | hnew
      · exact h.uncommitted p hold hpopen hsent
      · exact hother (ClientRequest.commitTransaction.inj (List.mem_singleton.mp hnew))

theorem Kept.rolledBack {o o' : TransactionObject} (h : Kept s) (hopen : o.isCommitted = false)
    (hid : o'.transactionId = o.transactionId) (hstarted : next.started = s.started)
    (hreplaced : Replaced o o' s next) (hrequests : next.requests = s.requests) :
    Kept next where
  single := by
    rw [hreplaced.ids]
    exact h.single
  holder_started := by
    rw [hstarted]
    intro p hp
    rcases hreplaced.others p hp with rfl | ⟨hold, _⟩
    · rw [hid]
      exact h.holder_started o hreplaced.holder
    · exact h.holder_started p hold
  request_started := by
    rw [hrequests, hstarted]
    exact h.request_started
  shape := by
    rw [hrequests]
    exact h.shape
  uncommitted := by
    rw [hrequests]
    intro p hp hpopen
    rcases hreplaced.others p hp with rfl | ⟨hold, _⟩
    · rw [hid]
      exact h.uncommitted o hreplaced.holder hopen
    · exact h.uncommitted p hold hpopen

theorem Kept.moved (h : Kept s) (hstarted : next.started = s.started)
    (hholders : next.holders.Subperm s.holders) (hrequests : next.requests = s.requests) :
    Kept next where
  single := by
    rcases hholders with ⟨kept, hperm, hsub⟩
    exact (hperm.map _).nodup_iff.mp (h.single.sublist (hsub.map _))
  holder_started := by
    rw [hstarted]
    exact fun o ho => h.holder_started o (hholders.subset ho)
  request_started := by
    rw [hrequests, hstarted]
    exact h.request_started
  shape := by
    rw [hrequests]
    exact h.shape
  uncommitted := by
    rw [hrequests]
    exact fun o ho => h.uncommitted o (hholders.subset ho)

theorem step_kept {i : TransactionInput} (h : Kept s) (hown : s.OwnId i)
    (hstep : s.step i = some next) : Kept next := by
  cases step_change hown hstep with
  | started transactionId hown hstarted hholders hrequests =>
      exact h.started hown hstarted hholders hrequests
  | wrote events ho hopen hstarted hholders hrequests =>
      exact h.wrote events ho (TransactionObject.open_of_refusal hopen).right hstarted hholders
        hrequests
  | committed hopen hstarted hbefore hholders hrequests =>
      have hreplaced := h.replaced (by rfl) hbefore hholders
      exact h.committed (TransactionObject.open_of_refusal hopen).right (by rfl) (by rfl)
        hstarted hreplaced hrequests
  | rolledBack hopen hstarted hbefore hholders hrequests =>
      have hreplaced := h.replaced (by rfl) hbefore hholders
      exact h.rolledBack hopen (by rfl) hstarted hreplaced hrequests
  | moved hstarted hholders hrequests => exact h.moved hstarted hholders hrequests

theorem run_kept {inputs : List TransactionInput} {last : Transactions} (h : Kept s)
    (hown : EveryStep step OwnId s inputs) (hrun : run step s inputs = some last) : Kept last :=
  run_invariant step_kept h hown hrun

/-!
# Calls that are answered

Every call has been sent, waits with its error, or has been told it.
-/

/-- Every call has been passed on, or waits with its error, or has been told it. -/
def Answered (s : Transactions) : Prop :=
  List.Perm (s.sent.map Prod.fst ++ (s.posted.map Prod.fst ++ s.reported.map Prod.fst))
    (List.range s.calls)

theorem perm_insert {a : alpha} {front back others : List alpha}
    (h : List.Perm (front ++ back) others) :
    List.Perm (front ++ a :: back) (others ++ [a]) :=
  List.perm_middle.trans ((h.cons a).trans (List.perm_append_singleton a others).symm)

theorem call_answered {action : TransactionObject -> ClientRequest × TransactionObject}
    {place : Nat} (h : Answered s) (hcall : s.call action place = some next) :
    Answered next := by
  unfold Answered at h
  rcases call_cases hcall with ⟨o, _, _, ⟨e, _, rfl⟩ | ⟨_, rfl⟩⟩
  · rw [← List.append_assoc] at h
    show List.Perm (s.sent.map Prod.fst ++ ((s.posted ++ [(s.calls, e)]).map Prod.fst ++
      s.reported.map Prod.fst)) (List.range (s.calls + 1))
    rw [List.range_succ, List.map_append, List.map_singleton, List.append_assoc,
      List.singleton_append, ← List.append_assoc]
    exact perm_insert h
  · show List.Perm ((s.sent ++ [(s.calls, (action o).1)]).map Prod.fst ++
      (s.posted.map Prod.fst ++ s.reported.map Prod.fst)) (List.range (s.calls + 1))
    rw [List.range_succ, List.map_append, List.map_singleton, List.append_assoc,
      List.singleton_append]
    exact perm_insert h

theorem step_answered {i : TransactionInput} (h : Answered s)
    (hstep : s.step i = some next) : Answered next := by
  cases i with
  | started transactionId =>
      cases hstep
      exact h
  | write place events => exact call_answered h hstep
  | commit place => exact call_answered h hstep
  | rollback place =>
      rcases Option.map_eq_some_iff.mp hstep with ⟨o, _, rfl⟩
      exact h
  | moveConstruct source =>
      rcases Option.map_eq_some_iff.mp hstep with ⟨o, _, rfl⟩
      exact h
  | moveAssign target source =>
      simp only [step] at hstep
      split at hstep
      · cases hstep
        exact h
      · split at hstep
        · rcases Option.map_eq_some_iff.mp hstep with ⟨o, _, rfl⟩
          exact h
        · cases hstep
  | runPosted =>
      simp only [step] at hstep
      unfold Answered at h
      cases hposted : s.posted with
      | nil =>
          rw [hposted] at hstep
          cases hstep
      | cons closure posted =>
          rw [hposted] at hstep h
          cases hstep
          refine List.Perm.trans (List.Perm.append_left _ ?_) h
          show List.Perm (posted.map Prod.fst ++ (s.reported ++ [closure]).map Prod.fst)
            (closure.1 :: (posted.map Prod.fst ++ s.reported.map Prod.fst))
          rw [List.map_append, List.map_singleton, ← List.append_assoc]
          exact List.perm_append_singleton closure.1 _

/-!
# Runs

Nothing more is sent for a transaction that is closed.
-/

/-- A transaction that has been started, and whose holder, if there still is one, has been
committed or rolled back. -/
structure Closed (transactionId : Int64) (s : Transactions) : Prop where
  started : transactionId ∈ s.started
  refused : forall o, o ∈ s.holders -> o.transactionId = transactionId -> o.refusal ≠ Option.none

theorem step_closed {transactionId : Int64} {i : TransactionInput} (hkept : Kept s)
    (h : Closed transactionId s) (hown : s.OwnId i) (hstep : s.step i = some next) :
    Closed transactionId next ∧
      requestsFor transactionId next.requests = requestsFor transactionId s.requests := by
  cases step_change hown hstep with
  | started other hown hstarted hholders hrequests =>
      rw [hrequests]
      refine ⟨⟨hstarted ▸ List.mem_cons_of_mem _ h.started, ?_⟩, rfl⟩
      rw [hholders]
      intro o ho hid
      rcases List.mem_append.mp ho with hbefore | hnew
      · exact h.refused o hbefore hid
      · rw [List.mem_singleton.mp hnew] at hid
        have hsame : other = transactionId := hid
        exact absurd (hsame ▸ h.started) hown
  | @wrote o events ho hopen hstarted hholders hrequests =>
      have hother : o.transactionId ≠ transactionId := fun hid => h.refused o ho hid hopen
      rw [hrequests, requestsFor_append_other (r := .transactionalWrite o.transactionId events)
        fun heq => hother (Option.some.inj heq)]
      refine ⟨⟨hstarted ▸ h.started, ?_⟩, rfl⟩
      rw [hholders]
      exact h.refused
  | @committed o before behind hopen hstarted hbefore hholders hrequests =>
      have hreplaced := hkept.replaced (by rfl) hbefore hholders
      have hother : o.transactionId ≠ transactionId :=
        fun hid => h.refused o hreplaced.holder hid hopen
      rw [hrequests, requestsFor_append_other (r := .commitTransaction o.transactionId)
        fun heq => hother (Option.some.inj heq)]
      refine ⟨⟨hstarted ▸ h.started, ?_⟩, rfl⟩
      intro p hp hid
      rcases hreplaced.others p hp with rfl | ⟨hold, _⟩
      · exact absurd hid hother
      · exact h.refused p hold hid
  | @rolledBack o before behind hopen hstarted hbefore hholders hrequests =>
      have hreplaced := hkept.replaced (by rfl) hbefore hholders
      rw [hrequests]
      refine ⟨⟨hstarted ▸ h.started, ?_⟩, rfl⟩
      intro p hp hid
      rcases hreplaced.others p hp with rfl | ⟨hold, _⟩
      · simp [TransactionObject.refusal, hopen]
      · exact h.refused p hold hid
  | moved hstarted hholders hrequests =>
      rw [hrequests]
      exact ⟨⟨hstarted ▸ h.started, fun o ho => h.refused o (hholders.subset ho)⟩, rfl⟩

theorem run_closed {transactionId : Int64} {inputs : List TransactionInput}
    {last : Transactions} (hkept : Kept s) (h : Closed transactionId s)
    (hown : EveryStep step OwnId s inputs) (hrun : run step s inputs = some last) :
    Closed transactionId last ∧
      requestsFor transactionId last.requests = requestsFor transactionId s.requests := by
  induction inputs generalizing s with
  | nil =>
      cases hrun
      exact ⟨h, rfl⟩
  | cons i rest ih =>
      rcases run_cons hrun with ⟨next, hstep, hrest⟩
      rcases hown with ⟨hfirst, hlater⟩
      rw [hstep] at hlater
      rcases step_closed hkept h hfirst hstep with ⟨hclosed, hsame⟩
      rcases ih (step_kept hkept hfirst hstep) hclosed hlater hrest with ⟨hlast, hrest⟩
      exact ⟨hlast, hrest.trans hsame⟩

/-- A call comes to nothing but an error of the transaction, posted to its handler. -/
def PostsError (s : Transactions) (i : TransactionInput) : Prop :=
  exists e, (e = StreamErrors.transactionRolledBack ∨ e = StreamErrors.transactionCommitted) ∧
    s.step i =
      some { s with
        calls := s.calls + 1
        posted := s.posted ++ [(s.calls, e)] }

/-- Neither call of an object of the transaction sends anything.  One that has been moved
from has no connection, not even to post the error on. -/
def Refuses (transactionId : Int64) (s : Transactions) : Prop :=
  forall place o, s.objects[place]? = some o -> o.transactionId = transactionId ->
    if o.hasConnection then
      (forall events, s.PostsError (.write place events)) ∧ s.PostsError (.commit place)
    else (forall events, s.step (.write place events) = Option.none) ∧
      s.step (.commit place) = Option.none

theorem TransactionObject.refusal_cases {o : TransactionObject} (h : o.refusal ≠ Option.none) :
    exists e, o.refusal = some e ∧
      (e = StreamErrors.transactionRolledBack ∨ e = StreamErrors.transactionCommitted) := by
  cases hcommitted : o.isCommitted with
  | true =>
      exact ⟨_, by simp [TransactionObject.refusal, hcommitted], Or.inr rfl⟩
  | false =>
      cases hrolledBack : o.isRolledBack with
      | true =>
          exact ⟨_, by simp [TransactionObject.refusal, hcommitted, hrolledBack], Or.inl rfl⟩
      | false =>
          exact absurd (by simp [TransactionObject.refusal, hcommitted, hrolledBack]) h

theorem call_refused {action : TransactionObject -> ClientRequest × TransactionObject}
    {place : Nat} {o : TransactionObject} (ho : s.objects[place]? = some o)
    (hconnection : o.hasConnection = true) {e : StreamErrors} (hrefusal : o.refusal = some e) :
    s.call action place =
      some { s with
        calls := s.calls + 1
        posted := s.posted ++ [(s.calls, e)] } := by
  simp only [call, ho, hconnection, hrefusal, if_true]

theorem call_movedFrom {action : TransactionObject -> ClientRequest × TransactionObject}
    {place : Nat} {o : TransactionObject} (ho : s.objects[place]? = some o)
    (hconnection : ¬ o.hasConnection = true) : s.call action place = Option.none := by
  simp only [call, ho, if_neg hconnection]

theorem Closed.refuses {transactionId : Int64} (h : Closed transactionId s) :
    Refuses transactionId s := by
  intro place o ho hid
  by_cases hconnection : o.hasConnection = true
  · rw [if_pos hconnection]
    have hholder : o ∈ s.holders :=
      List.mem_filter.mpr ⟨List.mem_of_getElem? ho, hconnection⟩
    rcases TransactionObject.refusal_cases (h.refused o hholder hid) with ⟨e, hrefusal, he⟩
    exact ⟨fun events => ⟨e, he, call_refused ho hconnection hrefusal⟩,
      e, he, call_refused ho hconnection hrefusal⟩
  · rw [if_neg hconnection]
    exact ⟨fun events => call_movedFrom ho hconnection, call_movedFrom ho hconnection⟩

/-- What is true of all transactions of a program: each is sent writes and then one commit
at most, no commit has been sent for it while the object that holds it has not been
committed, and every call of `async_write` or of `async_commit` is either passed on or told
an error, and only once. -/
structure Orderly (s : Transactions) : Prop where
  transactions : forall transactionId,
    IsTransaction transactionId (requestsFor transactionId s.requests)
  uncommitted : forall o, o ∈ s.holders -> o.isCommitted = false ->
    ClientRequest.commitTransaction o.transactionId ∉ s.requests
  answered : Answered s

/-- However the objects are moved and called. -/
theorem run_orderly {inputs : List TransactionInput} {last : Transactions}
    (hown : EveryStep step OwnId none inputs) (hrun : run step none inputs = some last) :
    Orderly last where
  transactions := (run_kept none_kept hown hrun).shape
  uncommitted := (run_kept none_kept hown hrun).uncommitted
  answered :=
    have hnone : Answered none := List.Perm.refl []
    run_preserves step_answered hnone hrun

/-- A write, and a commit after the transaction has been moved to a second object, where the
object is committed once more. -/
def movedAndCommitted : List TransactionInput :=
  [.started 7, .write 0 [], .moveConstruct 0, .commit 1, .commit 1, .runPosted]

theorem movedAndCommitted_orderly :
    exists last, run step none movedAndCommitted = some last ∧ Orderly last := by
  have hown : EveryStep step OwnId none movedAndCommitted := by decide
  exact ⟨_, rfl, run_orderly hown rfl⟩

/-- Once its holder has been committed, or has been rolled back, a transaction is sent
nothing more in any run, at the end of which its objects still refuse every call. -/
theorem run_closesTransaction {inputs more : List TransactionInput} {last : Transactions}
    (hown : EveryStep step OwnId none inputs) (hrun : run step none inputs = some s)
    {o : TransactionObject} (ho : o ∈ s.holders) (hrefused : o.refusal ≠ Option.none)
    (hmore : EveryStep step OwnId s more) (hlast : run step s more = some last) :
    requestsFor o.transactionId last.requests = requestsFor o.transactionId s.requests ∧
      Refuses o.transactionId last := by
  have hkept := run_kept none_kept hown hrun
  have hclosed : Closed o.transactionId s := by
    refine ⟨hkept.holder_started o ho, ?_⟩
    intro p hp hid
    -- the holder of a transaction is the only one
    have hsame : p = o := List.inj_on_of_nodup_map hkept.single hp ho hid
    rw [hsame]
    exact hrefused
  rcases run_closed hkept hclosed hmore hlast with ⟨hend, hsame⟩
  exact ⟨hsame, hend.refuses⟩

/-- A transaction that is rolled back after a write, and its object moved and called then. -/
def writtenAndRolledBack : List TransactionInput := [.started 7, .write 0 [], .rollback 0]

def rolledBackObject : TransactionObject := { TransactionObject.new 7 with isRolledBack := true }

def rolledBackState : Transactions :=
  { none with
    objects := [rolledBackObject]
    started := [7]
    calls := 1
    sent := [(0, ClientRequest.transactionalWrite 7 [])] }

def movedThen : List TransactionInput := [.moveConstruct 0, .write 1 [], .commit 1]

theorem writtenAndRolledBack_closed :
    exists last, run step rolledBackState movedThen = some last ∧
      requestsFor 7 last.requests = requestsFor 7 rolledBackState.requests ∧
        Refuses 7 last := by
  have hown : EveryStep step OwnId none writtenAndRolledBack := by decide
  have hrun : run step none writtenAndRolledBack = some rolledBackState := rfl
  have ho : rolledBackObject ∈ rolledBackState.holders := by decide
  have hmore : EveryStep step OwnId rolledBackState movedThen := by decide
  exact ⟨_, rfl, run_closesTransaction hown hrun ho (by decide) hmore rfl⟩

end Transactions

end Operations
end EventStoreClient
