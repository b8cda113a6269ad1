import EventStoreClient.Cluster.Discovery

/-!
# Gossip candidates

`arrange_gossip_candidates` fills a raw storage from both ends, which works out for any
members.  What is made of the storage then does not.
-/

namespace EventStoreClient
namespace Cluster

open Foundation

def httpSeed (lib : Library) (m : MemberInfo) : GossipSeed :=
  { endpoint :=
      { address := (lib.makeAddressV4 m.externalHttpIp).getD 0
        port := portOf m.externalHttpPort }
    hostHeader := "" }

def ValidAddress (lib : Library) (m : MemberInfo) : Prop :=
  (lib.makeAddressV4 m.externalHttpIp).isSome

def isManager (m : MemberInfo) : Bool :=
  decide (m.state = .manager)

/-!
# The storage

A manager goes in front of those from the back, any other member behind those from the
front.
-/

/-- The slots with `n` of them still free between the seeds from the two ends. -/
def filledSlots (front : List GossipSeed) (n : Nat) (back : List GossipSeed) : Slots :=
  { i := (front.length : Int) - 1
    j := front.length + n
    buffer := front.map some ++ (List.replicate n none ++ back.map some) }

section Storage

variable {lib : Library} {front back : List GossipSeed} {n : Nat} {m : MemberInfo}

theorem set_behind_front (seed : GossipSeed) :
    (filledSlots front (n + 1) back).buffer.set front.length (some seed) =
      (filledSlots (front ++ [seed]) n back).buffer := by
  have hlength : front.length = (front.map some).length := (List.length_map _).symm
  show (front.map some ++ _).set front.length (some seed) = _
  rw [List.set_append_right _ _ (Nat.le_of_eq hlength.symm), hlength, Nat.sub_self,
    List.replicate_succ, List.cons_append, List.set_cons_zero]
  simp [filledSlots]

theorem set_before_back (seed : GossipSeed) :
    (filledSlots front (n + 1) back).buffer.set (front.length + n) (some seed) =
      (filledSlots front n (seed :: back)).buffer := by
  have hlength : (front.map some).length = front.length := List.length_map _
  have hfree : (List.replicate n (none : Option GossipSeed)).length = n :=
    List.length_replicate
  show (front.map some ++ _).set (front.length + n) (some seed) = _
  rw [List.set_append_right _ _ (by omega), hlength, Nat.add_sub_cancel_left,
    List.replicate_succ', List.append_assoc, List.set_append_right _ _ (by omega), hfree,
    Nat.sub_self, List.singleton_append, List.set_cons_zero]
  rfl

theorem address_of_valid (hvalid : ValidAddress lib m) :
    lib.address m.externalHttpIp = .ok (httpSeed lib m).endpoint.address := by
  rcases Option.isSome_iff_exists.mp hvalid with ⟨address, haddress⟩
  simp only [Library.address, httpSeed, haddress, Option.getD_some]

theorem arrangeMember_other (hvalid : ValidAddress lib m) (hother : isManager m = false) :
    arrangeMember lib (filledSlots front (n + 1) back) m =
      .ok (filledSlots (front ++ [httpSeed lib m]) n back) := by
  have hstate : m.state ≠ .manager := of_decide_eq_false hother
  have hi : (filledSlots front (n + 1) back).i + 1 = (front.length : Int) :=
    Int.sub_add_cancel _ _
  have hj : (filledSlots front (n + 1) back).j =
      (filledSlots (front ++ [httpSeed lib m]) n back).j := by
    simp only [filledSlots, List.length_append, List.length_singleton]
    omega
  unfold arrangeMember
  rw [address_of_valid hvalid]
  simp only [bind, Except.bind, if_neg hstate, pure, Except.pure, hi, Int.toNat_natCast]
  show Except.ok (Slots.mk (front.length : Int) (filledSlots front (n + 1) back).j
    ((filledSlots front (n + 1) back).buffer.set front.length
      (some (httpSeed lib m)))) = _
  rw [set_behind_front, hj]
  simp [filledSlots]

theorem arrangeMember_manager (hvalid : ValidAddress lib m) (hmanager : isManager m = true) :
    arrangeMember lib (filledSlots front (n + 1) back) m =
      .ok (filledSlots front n (httpSeed lib m :: back)) := by
  have hstate : m.state = .manager := of_decide_eq_true hmanager
  have hj : (filledSlots front (n + 1) back).j - 1 = ((front.length + n : Nat) : Int) := by
    simp only [filledSlots]
    omega
  unfold arrangeMember
  rw [address_of_valid hvalid]
  simp only [bind, Except.bind, if_pos hstate, pure, Except.pure, hj, Int.toNat_natCast]
  show Except.ok (Slots.mk (filledSlots front (n + 1) back).i ((front.length + n : Nat) : Int)
    ((filledSlots front (n + 1) back).buffer.set (front.length + n)
      (some (httpSeed lib m)))) = _
  rw [set_before_back]
  simp [filledSlots]

/-- The loop keeps the free slots between the two ends, one for each member that is left,
so that every write is inside the storage. -/
theorem arrangeMembers_filled (front back : List GossipSeed) (n : Nat)
    {members : List MemberInfo} (hvalid : forall m, m ∈ members -> ValidAddress lib m) :
    members.foldlM (arrangeMember lib) (filledSlots front (members.length + n) back) =
      .ok (filledSlots
        (front ++ (members.filter fun m => !isManager m).map (httpSeed lib)) n
        (((members.filter isManager).map (httpSeed lib)).reverse ++ back)) := by
  induction members generalizing front back with
  | nil =>
      simp only [List.length_nil, Nat.zero_add, List.filter_nil, List.map_nil,
        List.append_nil, List.reverse_nil, List.nil_append]
      rfl
  | cons m rest ih =>
      have hm := hvalid m List.mem_cons_self
      have hrest : forall m, m ∈ rest -> ValidAddress lib m :=
        fun m hmem => hvalid m (List.mem_cons_of_mem _ hmem)
      have hfree : (m :: rest).length + n = rest.length + n + 1 := by
        rw [List.length_cons]
        omega
      rw [List.foldlM_cons, hfree]
      cases hmanager : isManager m with
      | false =>
          rw [arrangeMember_other hm hmanager]
          show rest.foldlM (arrangeMember lib) _ = _
          rw [ih _ _ hrest]
          simp [hmanager]
      | true =>
          rw [arrangeMember_manager hm hmanager]
          show rest.foldlM (arrangeMember lib) _ = _
          rw [ih _ _ hrest]
          simp [hmanager]

end Storage

/-- The storage that the loop leaves: the members that are no managers in their order,
and behind them the managers in reverse. -/
theorem arrangeMembers_eq {lib : Library} {members : List MemberInfo}
    (hvalid : forall m, m ∈ members -> ValidAddress lib m) :
    members.foldlM (arrangeMember lib)
        { i := -1, j := members.length, buffer := List.replicate members.length none } =
      .ok (filledSlots ((members.filter fun m => !isManager m).map (httpSeed lib)) 0
        ((members.filter isManager).map (httpSeed lib)).reverse) := by
  have hfilled := arrangeMembers_filled [] [] 0 hvalid
  have hempty : filledSlots [] (members.length + 0) [] =
      { i := -1, j := members.length, buffer := List.replicate members.length none } := by
    simp [filledSlots]
  rw [hempty] at hfilled
  rw [hfilled, List.nil_append, List.append_nil]

/-!
# The candidates

What the storage holds is read back, the others first.  A single slave with a valid
address is lost.
-/

/-- The candidates are the endpoints of all members, one for each, with those of the
managers last. -/
def ArrangedWithoutLoss (lib : Library) (call : Call) (members : List MemberInfo) : Prop :=
  exists others managers,
    arrangeGossipCandidates lib call members = .ok (others ++ managers) ∧
      others.Perm ((members.filter fun m => !isManager m).map (httpSeed lib)) ∧
      managers.Perm ((members.filter isManager).map (httpSeed lib))

theorem mapM_id_some {alpha : Type} (xs : List alpha) : (xs.map some).mapM id = some xs := by
  induction xs with
  | nil => rfl
  | cons x rest ih =>
      rw [List.map_cons, List.mapM_cons, ih]
      rfl

theorem readSlots_filled (front back : List GossipSeed) :
    readSlots (filledSlots front 0 back).buffer = .ok (front ++ back) := by
  have hbuffer : (filledSlots front 0 back).buffer = (front ++ back).map some := by
    simp [filledSlots]
  unfold readSlots
  rw [hbuffer, mapM_id_some]

/-- Without members the storage has been copied, but the first shuffle is of a range that
ends before it begins. -/
theorem arrangeGossipCandidates_nil (lib : Library) (call : Call) :
    arrangeGossipCandidates lib call [] = .error .undefinedBehaviour :=
  rfl

/-- With valid addresses the copy is reached, and writes behind the end of the vector. -/
theorem arrangeGossipCandidates_undefined {lib : Library} (call : Call)
    {members : List MemberInfo} (hvalid : forall m, m ∈ members -> ValidAddress lib m) :
    arrangeGossipCandidates lib call members = .error .undefinedBehaviour := by
  cases members with
  | nil => exact arrangeGossipCandidates_nil lib call
  | cons m rest =>
      have hlength : ((m :: rest).filter fun m => !isManager m).length +
          ((m :: rest).filter isManager).length = rest.length + 1 := by
        rw [Nat.add_comm, <- List.length_eq_length_filter_add]
        rfl
      unfold arrangeGossipCandidates
      rw [arrangeMembers_eq hvalid]
      simp only [bind, Except.bind]
      rw [readSlots_filled]
      simp only [copyRange]
      rw [if_neg]
      rw [List.length_append, List.length_reverse, List.length_map, List.length_map, hlength]
      exact Nat.not_succ_le_zero rest.length

/-- No members are arranged without loss, whatever the shuffles do. -/
theorem arrangeGossipCandidates_lossy (lib : Library) (call : Call)
    (members : List MemberInfo) : ¬ ArrangedWithoutLoss lib call members := by
  rintro ⟨others, managers, harranged, _⟩
  cases members with
  | nil =>
      rw [arrangeGossipCandidates_nil] at harranged
      cases harranged
  | cons m rest =>
      rcases arrangeGossipCandidates_fault lib call (List.cons_ne_nil m rest) with
        ⟨fault, hfault⟩
      rw [hfault] at harranged
      cases harranged

/-- A call in which the resolver fails, no candidate answers and no shuffle changes
anything. -/
def idleCall : Call :=
  { resolved := none
    shuffle := default
    answer := fun _ _ => .notConnected
    outcome := fun _ _ => default }

theorem oneSlave_lossy : ¬ ArrangedWithoutLoss slaveLibrary idleCall [slaveMember] := by
  rintro ⟨others, managers, harranged, _⟩
  have hundefined : arrangeGossipCandidates slaveLibrary idleCall [slaveMember] =
      .error .undefinedBehaviour :=
    arrangeGossipCandidates_undefined idleCall (by
      intro m hm
      rw [List.mem_singleton.mp hm]
      rfl)
  rw [hundefined] at harranged
  cases harranged

end Cluster
end EventStoreClient
