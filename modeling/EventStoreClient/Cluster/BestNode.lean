import EventStoreClient.Cluster.Messages
import EventStoreClient.Foundation.Ranges

/-!
# The best node

`try_determine_best_node`, and for which gossip it chooses a usable member under every
outcome of the sort and the shuffles.
-/

namespace EventStoreClient
namespace Cluster

open Foundation

inductive NodePreference where
  | master
  | slave
  | random
  deriving DecidableEq, Repr

structure Endpoint where
  address : AddressV4
  port : UInt16
  deriving DecidableEq, Repr

def portOf (port : Int) : UInt16 :=
  UInt16.ofNat (port % 0x10000).toNat

abbrev NodeEndpoints := Endpoint × Endpoint

namespace MemberInfo

def stateAbove (info1 info2 : MemberInfo) : Bool :=
  decide (info2.state.value < info1.state.value)

structure Outcome where
  sort : Sorting stateAbove
  shuffle : Shuffling MemberInfo

def isSlave (info : MemberInfo) : Bool :=
  decide (info.state = .slave)

end MemberInfo

open MemberInfo (Outcome)

def unallowedStates : List VirtualNodeState := [.manager, .shuttingDown, .shutdown]

def unusable (info : MemberInfo) : Bool :=
  !info.isAlive || unallowedStates.any (fun state => decide (info.state = state))

def remainingNodes (members : List MemberInfo) : List MemberInfo :=
  let removed := removeIf unusable MemberInfo.movedFrom members
  if removed.2 ≠ removed.1.length then removed.1.eraseIdx removed.2 else removed.1

/-- The nodes after the sort and the shuffle that the preference of the settings asks
for. -/
def arrangedNodes (outcome : Outcome) (settings : NodePreference)
    (nodes : List MemberInfo) : List MemberInfo :=
  let nodes := outcome.sort.run nodes
  let nodes :=
    if settings = .random then shuffleFirst outcome.shuffle nodes.length nodes
    else nodes
  if settings = .slave then
    -- put all non-slaves in front
    let nodes := stablePartition (fun info => !info.isSlave) nodes
    shuffleFirst outcome.shuffle (nodes.countP MemberInfo.isSlave) nodes
  else
    nodes

def externalEndpoints (lib : Library) (bestNode : MemberInfo) : Result NodeEndpoints := do
  let first : Endpoint :=
    { address := <- lib.address bestNode.externalTcpIp
      port := portOf bestNode.externalTcpPort }
  let second : Endpoint :=
    { address := <- lib.address bestNode.externalTcpIp
      port := portOf bestNode.externalSecureTcpPort }
  return (first, second)

def endpointsOf (lib : Library) (bestNode : MemberInfo) :
    Result (Option NodeEndpoints) := do
  -- if node had no info, return nullopt
  if bestNode = MemberInfo.null then
    return none
  return some (<- externalEndpoints lib bestNode)

/-- `try_determine_best_node`.  The preference it is passed is not read; the caller
passes that of the settings. -/
def tryDetermineBestNode (lib : Library) (outcome : Outcome) (settings : NodePreference)
    (members : List MemberInfo) (_preference : NodePreference) :
    Result (Option NodeEndpoints) :=
  match arrangedNodes outcome settings (remainingNodes members) with
  | [] => .error .undefinedBehaviour
  | bestNode :: _ => endpointsOf lib bestNode

/-!
# What selection is for

The members the preference may end up with, whatever the sort and the shuffle do.
-/

structure RightMember (preference : NodePreference) (members : List MemberInfo)
    (m : MemberInfo) : Prop where
  mem : m ∈ members
  usable : unusable m = false
  highest : preference = .master -> forall other, other ∈ members ->
    unusable other = false -> other.state.value ≤ m.state.value
  slave : preference = .slave ->
    (exists other, other ∈ members ∧ unusable other = false ∧ other.isSlave = true) ->
      m.isSlave = true

/-- The result of a selection: nothing when no member is usable, and otherwise the
endpoints of a right member. -/
def Selected (lib : Library) (preference : NodePreference) (members : List MemberInfo)
    (result : Result (Option NodeEndpoints)) : Prop :=
  if members.all unusable = true then
    result = .ok none
  else
    exists m endpoints, RightMember preference members m ∧
      externalEndpoints lib m = .ok endpoints ∧ result = .ok (some endpoints)

/-!
# Which node can come first

The first node is drawn from a window at the front of the ordered nodes: those few that
are shuffled.  What an outcome can put first is what few enough nodes come before.
-/

/-- The members that the erasure of a single element leaves behind the usable ones. -/
def leftBehind (members : List MemberInfo) : List MemberInfo :=
  (members.drop ((wanted unusable members).length + 1)).map
    (remains unusable MemberInfo.movedFrom)

theorem remainingNodes_eq (members : List MemberInfo) :
    remainingNodes members = wanted unusable members ++ leftBehind members := by
  unfold remainingNodes leftBehind
  rw [removeIf_eq]
  generalize hkept : wanted unusable members = kept
  cases htail : members.drop kept.length with
  | nil =>
      have hshort : members.length ≤ kept.length := List.drop_eq_nil_iff.mp htail
      have hnext : members.drop (kept.length + 1) = [] :=
        List.drop_of_length_le (by omega)
      simp [hnext]
  | cons first rest =>
      have hnext : members.drop (kept.length + 1) = rest := by
        rw [← List.tail_drop, htail, List.tail_cons]
      rw [hnext, if_pos (by simp)]
      simp [List.eraseIdx_append_of_length_le]

/-- The order that the sort, and for slaves the partition, leave the nodes in. -/
def comesBefore (preference : NodePreference) (info1 info2 : MemberInfo) : Bool :=
  match preference with
  | .slave =>
      (!info1.isSlave && info2.isSlave) ||
        ((info1.isSlave == info2.isSlave) && info1.stateAbove info2)
  | _ => info1.stateAbove info2

def window (preference : NodePreference) (nodes : List MemberInfo) : Nat :=
  match preference with
  | .master => 1
  | .slave => max 1 (nodes.countP MemberInfo.isSlave)
  | .random => nodes.length

def CanComeFirst (preference : NodePreference) (nodes : List MemberInfo)
    (x : MemberInfo) : Prop :=
  x ∈ nodes ∧
    nodes.countP (fun info => comesBefore preference info x) < window preference nodes

def orderedNodes (sort : Sorting MemberInfo.stateAbove) (preference : NodePreference)
    (nodes : List MemberInfo) : List MemberInfo :=
  if preference = .slave then
    stablePartition (fun info => !info.isSlave) (sort.run nodes)
  else
    sort.run nodes

def shuffledCount (preference : NodePreference) (nodes : List MemberInfo) : Nat :=
  match preference with
  | .master => 0
  | .slave => nodes.countP MemberInfo.isSlave
  | .random => nodes.length

theorem orderedNodes_perm (sort : Sorting MemberInfo.stateAbove)
    (preference : NodePreference) (nodes : List MemberInfo) :
    (orderedNodes sort preference nodes).Perm nodes := by
  unfold orderedNodes
  split
  · exact (stablePartition_perm _ _).trans (sort.perm nodes)
  · exact sort.perm nodes

theorem shuffleFirst_zero {alpha : Type} (shuffle : Shuffling alpha) (xs : List alpha) :
    shuffleFirst shuffle 0 xs = xs := by
  have hnil : shuffle.run [] = [] := (shuffle.perm []).eq_nil
  simp [shuffleFirst, hnil]

theorem arrangedNodes_eq (outcome : Outcome) (preference : NodePreference)
    (nodes : List MemberInfo) :
    arrangedNodes outcome preference nodes =
      shuffleFirst outcome.shuffle (shuffledCount preference nodes)
        (orderedNodes outcome.sort preference nodes) := by
  have hperm := orderedNodes_perm outcome.sort preference nodes
  unfold orderedNodes at hperm
  cases preference with
  | master =>
      simp [arrangedNodes, orderedNodes, shuffledCount, shuffleFirst_zero]
  | slave =>
      have hcount := hperm.countP_eq MemberInfo.isSlave
      rw [if_pos rfl] at hcount
      simp [arrangedNodes, orderedNodes, shuffledCount, hcount]
  | random =>
      have hlength := hperm.length_eq
      rw [if_neg (by decide)] at hlength
      simp [arrangedNodes, orderedNodes, shuffledCount, hlength]

theorem comesBefore_irrefl (preference : NodePreference) (info : MemberInfo) :
    comesBefore preference info info = false := by
  cases preference <;> simp [comesBefore, MemberInfo.stateAbove]

theorem orderedNodes_sorted (sort : Sorting MemberInfo.stateAbove)
    (preference : NodePreference) (nodes : List MemberInfo) :
    (orderedNodes sort preference nodes).Pairwise
      (fun y z => comesBefore preference z y = false) := by
  have hsorted := sort.sorted nodes
  cases preference with
  | master => exact hsorted
  | random => exact hsorted
  | slave =>
      unfold orderedNodes stablePartition
      rw [if_pos rfl, List.pairwise_append]
      constructor
      · apply (hsorted.filter _).imp_of_mem
        intro y z hy hz hyz
        simp [List.mem_filter] at hy hz
        simp [comesBefore, hy.right, hz.right, hyz]
      constructor
      · apply (hsorted.filter _).imp_of_mem
        intro y z hy hz hyz
        simp [List.mem_filter] at hy hz
        simp [comesBefore, hy.right, hz.right, hyz]
      · intro y hy z hz
        simp [List.mem_filter] at hy hz
        simp [comesBefore, hy.right, hz.right]

/-- The sort that puts `x` in front of the other nodes with its state. -/
def preferringSort (x : MemberInfo) : Sorting MemberInfo.stateAbove :=
  Sorting.preferring (fun info : MemberInfo => info.state.value) x

instance : Inhabited Outcome :=
  ⟨{ sort := preferringSort MemberInfo.null
     shuffle := Shuffling.bring MemberInfo.null }⟩

theorem orderedNodes_preferring (preference : NodePreference) (nodes : List MemberInfo)
    (x : MemberInfo) :
    (orderedNodes (preferringSort x) preference nodes).Pairwise
      (fun y z => z = x -> y = x ∨ comesBefore preference y x = true) := by
  have hpreferred : ((preferringSort x).run nodes).Pairwise
      (fun y z => z = x -> y = x ∨ y.stateAbove x = true) := by
    apply (pairwise_preferring (fun info : MemberInfo => info.state.value) x nodes).imp
    intro y z hyz hz
    rw [hz] at hyz
    simp [preferredLe] at hyz
    rcases hyz with habove | ⟨_, hy⟩
    · exact Or.inr (by simpa [MemberInfo.stateAbove] using habove)
    · exact Or.inl hy
  cases preference with
  | master => exact hpreferred
  | random => exact hpreferred
  | slave =>
      unfold orderedNodes stablePartition
      rw [if_pos rfl, List.pairwise_append]
      constructor
      · apply (hpreferred.filter _).imp_of_mem
        intro y z hy hz hyz hzx
        simp [List.mem_filter] at hy hz
        rw [hzx] at hz
        rcases hyz hzx with hyx | habove
        · exact Or.inl hyx
        · exact Or.inr (by simp [comesBefore, hy.right, hz.right, habove])
      constructor
      · apply (hpreferred.filter _).imp_of_mem
        intro y z hy hz hyz hzx
        simp [List.mem_filter] at hy hz
        rw [hzx] at hz
        rcases hyz hzx with hyx | habove
        · exact Or.inl hyx
        · exact Or.inr (by simp [comesBefore, hy.right, hz.right, habove])
      · intro y hy z hz hzx
        simp [List.mem_filter] at hy hz
        rw [hzx] at hz
        exact Or.inr (by simp [comesBefore, hy.right, hz.right])

theorem window_eq {preference : NodePreference} {nodes : List MemberInfo} {x : MemberInfo}
    (hmem : x ∈ nodes) :
    window preference nodes = max 1 (shuffledCount preference nodes) := by
  cases preference with
  | master => rfl
  | slave => rfl
  | random =>
      have hpos := List.length_pos_of_mem hmem
      simp [window, shuffledCount]
      omega

theorem canComeFirst_iff (preference : NodePreference) (nodes : List MemberInfo)
    (x : MemberInfo) :
    CanComeFirst preference nodes x <->
      exists outcome, (arrangedNodes outcome preference nodes).head? = some x := by
  constructor
  · rintro ⟨hmem, hcount⟩
    rw [window_eq hmem] at hcount
    have hperm := orderedNodes_perm (preferringSort x) preference nodes
    have hpreferring := orderedNodes_preferring preference nodes x
    rcases List.eq_append_cons_of_mem (hperm.mem_iff.mpr hmem) with
      ⟨front, back, hsplit, hnot⟩
    rw [← hperm.countP_eq, hsplit] at hcount
    have hfront : forall y, y ∈ front -> comesBefore preference y x = true := by
      intro y hy
      have hpairwise : (front ++ x :: back).Pairwise
          (fun y z => z = x -> y = x ∨ comesBefore preference y x = true) := by
        rw [← hsplit]
        exact hpreferring
      rcases (List.pairwise_append.mp hpairwise).right.right y hy x
        List.mem_cons_self rfl with hyx | hbefore
      · rw [hyx] at hy
        exact absurd hy hnot
      · exact hbefore
    exists { sort := preferringSort x, shuffle := Shuffling.bring x }
    rw [arrangedNodes_eq]
    apply head?_shuffleFirst_bring
    rw [hsplit]
    exact mem_take_of_countP_lt hfront hcount
  · rintro ⟨outcome, hhead⟩
    rw [arrangedNodes_eq] at hhead
    have hperm := orderedNodes_perm outcome.sort preference nodes
    have htake := mem_take_of_head?_shuffleFirst hhead
    have hmem : x ∈ nodes := hperm.mem_iff.mp (List.mem_of_mem_take htake)
    constructor
    · exact hmem
    · rw [window_eq hmem, ← hperm.countP_eq]
      exact countP_lt_of_mem_take (comesBefore_irrefl preference x)
        (orderedNodes_sorted outcome.sort preference nodes) htake

theorem arrangedNodes_perm (outcome : Outcome) (preference : NodePreference)
    (nodes : List MemberInfo) : (arrangedNodes outcome preference nodes).Perm nodes := by
  rw [arrangedNodes_eq]
  exact (shuffleFirst_perm _ _ _).trans (orderedNodes_perm _ _ _)

/-!
# When the selection is right

A node that can come first decides a selection, so a property of every selection is one of
every node that can come first.
-/

/-- A node whose endpoints are those of a right member, or the empty one when there is
no member to choose. -/
def RightNode (lib : Library) (preference : NodePreference) (members : List MemberInfo)
    (x : MemberInfo) : Prop :=
  if members.all unusable = true then
    x = MemberInfo.null
  else
    x ≠ MemberInfo.null ∧
      exists m endpoints, RightMember preference members m ∧
        externalEndpoints lib m = .ok endpoints ∧ externalEndpoints lib x = .ok endpoints

/-- The nodes that selection goes on with: the usable members and what the erasure of a
single element leaves behind them. -/
def consideredNodes (members : List MemberInfo) : List MemberInfo :=
  wanted unusable members ++ leftBehind members

/-- There is a node to consider, and whichever can come first is right. -/
def Selectable (lib : Library) (preference : NodePreference)
    (members : List MemberInfo) : Prop :=
  consideredNodes members ≠ [] ∧
    forall x, CanComeFirst preference (consideredNodes members) x ->
      RightNode lib preference members x

theorem selected_endpointsOf_iff (lib : Library) (preference : NodePreference)
    (members : List MemberInfo) (x : MemberInfo) :
    Selected lib preference members (endpointsOf lib x) <->
      RightNode lib preference members x := by
  unfold Selected RightNode endpointsOf
  by_cases hnull : x = MemberInfo.null
  · simp [hnull, pure, Except.pure]
  · cases hx : externalEndpoints lib x with
    | error fault => simp [hnull, Bind.bind, Except.bind]
    | ok endpoints =>
        simp [hnull, Bind.bind, Except.bind, pure, Except.pure]

theorem arrangedNodes_of_nil {outcome : Outcome} {preference : NodePreference}
    {members : List MemberInfo} (hnil : consideredNodes members = []) :
    arrangedNodes outcome preference (remainingNodes members) = [] := by
  have hremaining : remainingNodes members = [] :=
    (remainingNodes_eq members).trans hnil
  rw [hremaining]
  exact (arrangedNodes_perm outcome preference []).eq_nil

theorem exists_selection (lib : Library) {preference : NodePreference}
    {members : List MemberInfo} {x : MemberInfo}
    (h : CanComeFirst preference (consideredNodes members) x) :
    exists outcome, tryDetermineBestNode lib outcome preference members preference =
      endpointsOf lib x := by
  rcases (canComeFirst_iff preference (consideredNodes members) x).mp h with
    ⟨outcome, hhead⟩
  exists outcome
  rcases List.head?_eq_some_iff.mp hhead with ⟨rest, harranged⟩
  have hremaining : remainingNodes members = consideredNodes members :=
    remainingNodes_eq members
  rw [tryDetermineBestNode, hremaining, harranged]

/-- Every selection is decided by a node that can come first, if there is any node. -/
theorem selection_of_ne_nil (lib : Library) (outcome : Outcome)
    (preference : NodePreference) {members : List MemberInfo}
    (h : consideredNodes members ≠ []) :
    exists x, CanComeFirst preference (consideredNodes members) x ∧
      tryDetermineBestNode lib outcome preference members preference =
        endpointsOf lib x := by
  have hremaining : remainingNodes members = consideredNodes members :=
    remainingNodes_eq members
  have hperm := arrangedNodes_perm outcome preference (consideredNodes members)
  unfold tryDetermineBestNode
  rw [hremaining]
  cases harranged : arrangedNodes outcome preference (consideredNodes members) with
  | nil =>
      rw [harranged] at hperm
      exact absurd hperm.nil_eq.symm h
  | cons x rest =>
      exists x
      constructor
      · apply (canComeFirst_iff preference (consideredNodes members) x).mpr
        exists outcome
        rw [harranged]
        rfl
      · rfl

theorem forall_selection_iff {lib : Library} {preference : NodePreference}
    {members : List MemberInfo} {P : Result (Option NodeEndpoints) -> Prop}
    (hfault : ¬ P (.error .undefinedBehaviour)) :
    (forall outcome, P (tryDetermineBestNode lib outcome preference members preference)) <->
      consideredNodes members ≠ [] ∧
        forall x, CanComeFirst preference (consideredNodes members) x ->
          P (endpointsOf lib x) := by
  constructor
  · intro h
    constructor
    · intro hnil
      have hundefined := h default
      rw [tryDetermineBestNode, arrangedNodes_of_nil hnil] at hundefined
      exact hfault hundefined
    · intro x hx
      rcases exists_selection lib hx with ⟨outcome, hresult⟩
      rw [← hresult]
      exact h outcome
  · rintro ⟨hne, hfirst⟩ outcome
    rcases selection_of_ne_nil lib outcome preference hne with ⟨x, hx, hresult⟩
    rw [hresult]
    exact hfirst x hx

/-- Whatever the sort and the shuffles do, the selection is right, exactly when the
gossip is selectable. -/
theorem tryDetermineBestNode_selected_iff (lib : Library) (preference : NodePreference)
    (members : List MemberInfo) :
    (forall outcome, Selected lib preference members
        (tryDetermineBestNode lib outcome preference members preference)) <->
      Selectable lib preference members := by
  have hfault : ¬ Selected lib preference members (.error .undefinedBehaviour) := by
    simp [Selected]
  rw [forall_selection_iff hfault]
  simp only [selected_endpointsOf_iff]
  rfl

/-!
# Gossip with at most one unusable member

The erasure then leaves nothing behind, and only the preference for slaves, which puts
the other nodes in front, still goes wrong when slaves and others are mixed.
-/

theorem wanted_length_add (members : List MemberInfo) :
    (wanted unusable members).length + members.countP unusable = members.length := by
  have h := List.length_eq_countP_add_countP unusable (l := members)
  have hwanted : (wanted unusable members).length =
      members.countP (fun info => decide (¬ unusable info = true)) := by
    rw [List.countP_eq_length_filter]
    simp [wanted]
  omega

theorem leftBehind_of_oneUnusable {members : List MemberInfo}
    (hone : members.countP unusable ≤ 1) : leftBehind members = [] := by
  have hlength := wanted_length_add members
  rw [leftBehind, List.drop_of_length_le (by omega), List.map_nil]

theorem mem_wanted_iff {members : List MemberInfo} {m : MemberInfo} :
    m ∈ wanted unusable members <-> m ∈ members ∧ unusable m = false := by
  simp [wanted, List.mem_filter]

theorem null_unusable : unusable MemberInfo.null = true := rfl

theorem selectable_of_oneUnusable {lib : Library} {preference : NodePreference}
    {members : List MemberInfo} (hone : members.countP unusable ≤ 1)
    (husable : exists m, m ∈ members ∧ unusable m = false)
    (hip : forall m, m ∈ members -> unusable m = false ->
      exists endpoints, externalEndpoints lib m = .ok endpoints)
    (hslaves : preference = .slave -> forall m other, m ∈ members -> other ∈ members ->
      unusable m = false -> unusable other = false -> m.isSlave = other.isSlave) :
    Selectable lib preference members := by
  rcases husable with ⟨m, hm, hmusable⟩
  have hconsidered : consideredNodes members = wanted unusable members := by
    rw [consideredNodes, leftBehind_of_oneUnusable hone, List.append_nil]
  have hall : ¬ members.all unusable = true := by
    intro h
    rw [List.all_eq_true.mp h m hm] at hmusable
    cases hmusable
  constructor
  · rw [hconsidered]
    exact List.ne_nil_of_mem (mem_wanted_iff.mpr ⟨hm, hmusable⟩)
  · rw [hconsidered]
    rintro x ⟨hx, hcount⟩
    rcases mem_wanted_iff.mp hx with ⟨hxmem, hxusable⟩
    rcases hip x hxmem hxusable with ⟨endpoints, hendpoints⟩
    unfold RightNode
    rw [if_neg hall]
    constructor
    · intro hnull
      rw [hnull, null_unusable] at hxusable
      cases hxusable
    · refine ⟨x, endpoints, ⟨hxmem, hxusable, ?_, ?_⟩, hendpoints, hendpoints⟩
      · intro hmaster other hother hotherUsable
        rw [hmaster] at hcount
        have hzero := Nat.lt_one_iff.mp hcount
        have hnot := List.countP_eq_zero.mp hzero other
          (mem_wanted_iff.mpr ⟨hother, hotherUsable⟩)
        simpa [comesBefore, MemberInfo.stateAbove] using hnot
      · rintro hslave ⟨other, hother, hotherUsable, hotherSlave⟩
        rw [hslaves hslave x other hxmem hother hxusable hotherUsable]
        exact hotherSlave

/-!
# Two managers

No usable member at all leaves nothing to take the first of; and a slave may be there
while the master has been put in front of it.
-/

/-- An address library that knows one address, as the real one does. -/
def loopback : Library :=
  { parse := fun _ => none
    stringGenerator := fun _ => none
    makeAddressV4 := fun str => if str = "127.0.0.1" then some 0x7F000001 else none
    fresh := MemberInfo.null }

def memberAt (state : VirtualNodeState) (port : Int) : MemberInfo :=
  { MemberInfo.null with
    state := state
    isAlive := true
    externalTcpIp := "127.0.0.1"
    externalTcpPort := port }

/-- One usable member and two managers, of which one survives the erasure and sorts
above the usable member. -/
def slaveAndManagers : List MemberInfo :=
  [memberAt .slave 1112, memberAt .manager 2112, memberAt .manager 3112]

def oneManager : List MemberInfo := [memberAt .manager 2112]

def slaveAndMaster : List MemberInfo :=
  [memberAt .slave 1112, memberAt .master 2112]

theorem not_selected_of_canComeFirst {lib : Library} {preference : NodePreference}
    {members : List MemberInfo} {x : MemberInfo}
    (hfirst : CanComeFirst preference (consideredNodes members) x)
    (hwrong : ¬ RightNode lib preference members x) :
    ¬ forall outcome, Selected lib preference members
        (tryDetermineBestNode lib outcome preference members preference) := by
  intro h
  rcases exists_selection lib hfirst with ⟨outcome, hresult⟩
  have hselected := h outcome
  rw [hresult] at hselected
  exact hwrong ((selected_endpointsOf_iff lib preference members x).mp hselected)

theorem manager_wrong :
    ¬ RightNode loopback .master slaveAndManagers (memberAt .manager 3112) := by
  unfold RightNode
  rw [if_neg (by decide)]
  rintro ⟨_, m, endpoints, hright, hm, hx⟩
  have hmem := hright.mem
  have husable := hright.usable
  simp only [slaveAndManagers, List.mem_cons, List.not_mem_nil, or_false] at hmem
  rcases hmem with rfl | rfl | rfl
  · rw [← hx] at hm
    exact absurd hm (by decide)
  · exact absurd husable (by decide)
  · exact absurd husable (by decide)

theorem master_wrong :
    ¬ RightNode loopback .slave slaveAndMaster (memberAt .master 2112) := by
  unfold RightNode
  rw [if_neg (by decide)]
  rintro ⟨_, m, endpoints, hright, hm, hx⟩
  have hmem := hright.mem
  have hslave := hright.slave rfl ⟨memberAt .slave 1112, by decide, by decide, by decide⟩
  simp only [slaveAndMaster, List.mem_cons, List.not_mem_nil, or_false] at hmem
  rcases hmem with rfl | rfl
  · rw [← hx] at hm
    exact absurd hm (by decide)
  · exact absurd hslave (by decide)

theorem slaveAndManagers_notSelected :
    (¬ forall outcome, Selected loopback .master slaveAndManagers
        (tryDetermineBestNode loopback outcome .master slaveAndManagers .master)) ∧
      (forall outcome, tryDetermineBestNode loopback outcome .master oneManager .master =
        .error .undefinedBehaviour) ∧
      ¬ forall outcome, Selected loopback .slave slaveAndMaster
        (tryDetermineBestNode loopback outcome .slave slaveAndMaster .slave) := by
  constructor
  · exact not_selected_of_canComeFirst ⟨by decide +kernel, by decide +kernel⟩ manager_wrong
  constructor
  · intro outcome
    rw [tryDetermineBestNode, arrangedNodes_of_nil (by decide +kernel)]
  · exact not_selected_of_canComeFirst ⟨by decide +kernel, by decide +kernel⟩ master_wrong

end Cluster
end EventStoreClient
