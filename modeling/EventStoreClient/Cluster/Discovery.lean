import EventStoreClient.Cluster.BestNode

/-!
# Discovery

`discover_endpoints` of the cluster discovery service: the candidates it asks, what it
makes of their answers, and the gossip it remembers for the next time.
-/

namespace EventStoreClient
namespace Cluster

open Foundation
open Wire (Guid)
open MemberInfo (Outcome)

structure GossipSeed where
  endpoint : Endpoint
  hostHeader : String
  deriving DecidableEq, Repr

structure ClusterSettings where
  gossipSeeds : List GossipSeed
  nodePreference : NodePreference
  deriving DecidableEq, Repr

structure ClusterDiscoveryService where
  settings : ClusterSettings
  oldGossip : List MemberInfo
  deriving DecidableEq, Repr

inductive Exchange where
  | notConnected
  | notWritten
  | notRead
  | notShutDown
  | response (status : Nat) (body : String)
  deriving DecidableEq, Repr

/-- What the environment does in one call: what the resolver finds, what the generators
make the shuffles do, and what the candidates answer. -/
structure Call where
  resolved : Option (List Endpoint)
  shuffle : Shuffling GossipSeed
  answer : Nat -> GossipSeed -> Exchange
  outcome : Nat -> GossipSeed -> Outcome

/-!
# The candidates

The seeds are copied into a storage that has no elements yet, `copyRange` being
`std::copy` to its `begin()`, and are then read back from its slots.
-/

def getDnsCandidates (settings : ClusterSettings) (call : Call) : List GossipSeed :=
  if settings.gossipSeeds ≠ [] then
    call.shuffle.run settings.gossipSeeds
  else
    match call.resolved with
    | none => []
    | some endpoints =>
        call.shuffle.run (endpoints.map fun endpoint =>
          { endpoint := endpoint, hostHeader := "" })

/-- The two indices of `arrange_gossip_candidates` and the storage it fills from both
ends. -/
structure Slots where
  i : Int
  j : Int
  buffer : List (Option GossipSeed)

def arrangeMember (lib : Library) (slots : Slots) (m : MemberInfo) : Result Slots := do
  let endpoint : Endpoint :=
    { address := <- lib.address m.externalHttpIp
      port := portOf m.externalHttpPort }
  let seed : GossipSeed := { endpoint := endpoint, hostHeader := "" }
  if m.state = .manager then
    let j := slots.j - 1
    return { slots with j := j, buffer := slots.buffer.set j.toNat (some seed) }
  else
    let i := slots.i + 1
    return { slots with i := i, buffer := slots.buffer.set i.toNat (some seed) }

def readSlots (buffer : List (Option GossipSeed)) : Result (List GossipSeed) :=
  match buffer.mapM id with
  | some seeds => .ok seeds
  | none => .error .undefinedBehaviour

def copyRange {alpha : Type} (source destination : List alpha) : Result (List alpha) :=
  if source.length ≤ destination.length then
    .ok (source ++ destination.drop source.length)
  else
    .error .undefinedBehaviour

def arrangeGossipCandidates (lib : Library) (call : Call) (members : List MemberInfo) :
    Result (List GossipSeed) := do
  let slots <- members.foldlM (arrangeMember lib)
    { i := -1, j := members.length, buffer := List.replicate members.length none }
  -- the vector that the seeds are copied into has just been default constructed
  let result <- copyRange (<- readSlots slots.buffer) []
  if slots.i < 0 then
    throw .undefinedBehaviour
  let result := shuffleFirst call.shuffle slots.i.toNat result
  return result.take slots.j.toNat ++ call.shuffle.run (result.drop slots.j.toNat)

def getCandidates (lib : Library) (call : Call) (oldGossip : List MemberInfo) :
    Result (List GossipSeed) :=
  arrangeGossipCandidates lib call oldGossip

/-!
# The answers

`try_get_gossip_from` for one candidate, and `discover_endpoints` with the service it
leaves.
-/

def tryGetGossipFrom (lib : Library) (exchange : Exchange) :
    Result (Option ClusterInfo) :=
  match exchange with
  | .response status body => do
      if status ≠ 200 then
        return none
      let json <- lib.parseJson body
      return some (<- ClusterInfo.fromJson lib json)
  | _ => .ok none

/-- One turn of the loop of `discover_endpoints`: the endpoints and the members they
come from, or nothing, and the loop goes on. -/
def tryCandidate (lib : Library) (preference : NodePreference) (exchange : Exchange)
    (outcome : Outcome) : Result (Option (NodeEndpoints × List MemberInfo)) := do
  match <- tryGetGossipFrom lib exchange with
  | none => return none
  | some gossip =>
      if gossip.members = [] then
        return none
      match <- tryDetermineBestNode lib outcome preference gossip.members preference with
      | none => return none
      | some endpoints => return some (endpoints, gossip.members)

def tryCandidates (lib : Library) (preference : NodePreference) (call : Call) :
    Nat -> List GossipSeed -> Result (Option (NodeEndpoints × List MemberInfo))
  | _, [] => .ok none
  | i, seed :: rest => do
      match <- tryCandidate lib preference (call.answer i seed) (call.outcome i seed) with
      | none => tryCandidates lib preference call (i + 1) rest
      | some found => return some found

def discoverEndpoints (lib : Library) (call : Call) (service : ClusterDiscoveryService) :
    Result (Option NodeEndpoints × ClusterDiscoveryService) := do
  let candidates <-
    if service.oldGossip = [] then pure (getDnsCandidates service.settings call)
    else getCandidates lib call service.oldGossip
  match <- tryCandidates lib service.settings.nodePreference call 0 candidates with
  | none => return (none, service)
  | some (bestNode, members) =>
      return (some bestNode, { service with oldGossip := members })

/-!
# What discovery is for

An environment says what each candidate may answer to a request.
-/

structure Environment where
  answers : GossipSeed -> Exchange -> Prop
  answered : forall seed, exists exchange, answers seed exchange

/-- The calls in which every candidate answers as the environment allows. -/
def Call.Possible (call : Call) (env : Environment) : Prop :=
  forall i seed, env.answers seed (call.answer i seed)

/-- Two calls one after the other find an endpoint, and nothing is thrown on the way. -/
def Finds (lib : Library) (env : Environment) (service : ClusterDiscoveryService) : Prop :=
  forall call1 call2 : Call, call1.Possible env -> call2.Possible env ->
    match discoverEndpoints lib call1 service with
    | .error _ => False
    | .ok (some _, _) => True
    | .ok (none, service') =>
        match discoverEndpoints lib call2 service' with
        | .ok (some _, _) => True
        | _ => False

/-- An answer that does not end the discovery with a fault: nothing is thrown reading
it, and whichever of its members can come first has endpoints, or is the empty one. -/
def Harmless (lib : Library) (preference : NodePreference) (exchange : Exchange) : Prop :=
  exists gossip, tryGetGossipFrom lib exchange = .ok gossip ∧
    forall info, info ∈ gossip -> info.members ≠ [] ->
      consideredNodes info.members ≠ [] ∧
        forall x, CanComeFirst preference (consideredNodes info.members) x ->
          x = MemberInfo.null ∨ exists endpoints, externalEndpoints lib x = .ok endpoints

/-- An answer with members of which whichever can come first has endpoints. -/
def Yields (lib : Library) (preference : NodePreference) (exchange : Exchange) : Prop :=
  exists info, tryGetGossipFrom lib exchange = .ok (some info) ∧
    consideredNodes info.members ≠ [] ∧
      forall x, CanComeFirst preference (consideredNodes info.members) x ->
        x ≠ MemberInfo.null ∧ exists endpoints, externalEndpoints lib x = .ok endpoints

/-- Nothing is remembered, no configured seed can answer with something that ends the
discovery, and one of them always yields an endpoint. -/
structure Findable (lib : Library) (env : Environment)
    (service : ClusterDiscoveryService) : Prop where
  forgotten : service.oldGossip = []
  harmless : forall seed, seed ∈ service.settings.gossipSeeds ->
    forall exchange, env.answers seed exchange ->
      Harmless lib service.settings.nodePreference exchange
  yields : exists seed, seed ∈ service.settings.gossipSeeds ∧
    forall exchange, env.answers seed exchange ->
      Yields lib service.settings.nodePreference exchange

/-!
# One candidate

The turn of a candidate ends with endpoints, with the next candidate, or with an
exception.
-/

theorem endpointsOf_ok_iff (lib : Library) (x : MemberInfo) :
    (exists r, endpointsOf lib x = .ok r) <->
      x = MemberInfo.null ∨ exists endpoints, externalEndpoints lib x = .ok endpoints := by
  unfold endpointsOf
  by_cases hnull : x = MemberInfo.null
  · simp [hnull, pure, Except.pure]
  · cases hx : externalEndpoints lib x <;>
      simp [hnull, Bind.bind, Except.bind, pure, Except.pure]

theorem endpointsOf_some_iff (lib : Library) (x : MemberInfo) :
    (exists r, endpointsOf lib x = .ok (some r)) <->
      x ≠ MemberInfo.null ∧ exists endpoints, externalEndpoints lib x = .ok endpoints := by
  unfold endpointsOf
  by_cases hnull : x = MemberInfo.null
  · simp [hnull, pure, Except.pure]
  · cases hx : externalEndpoints lib x <;>
      simp [hnull, Bind.bind, Except.bind, pure, Except.pure]

theorem tryCandidate_of_members {lib : Library} {preference : NodePreference}
    {exchange : Exchange} {outcome : Outcome} {info : ClusterInfo}
    (hgossip : tryGetGossipFrom lib exchange = .ok (some info)) (hne : info.members ≠ []) :
    tryCandidate lib preference exchange outcome =
      (tryDetermineBestNode lib outcome preference info.members preference).map
        (fun bestNode => bestNode.map (fun endpoints => (endpoints, info.members))) := by
  unfold tryCandidate
  rw [hgossip]
  cases hbest : tryDetermineBestNode lib outcome preference info.members preference with
  | error fault =>
      simp [hne, hbest, Bind.bind, Except.bind, Except.map]
  | ok bestNode =>
      cases bestNode <;>
        simp [hne, hbest, Bind.bind, Except.bind, Except.map, pure, Except.pure]

theorem tryCandidate_of_nil {lib : Library} {preference : NodePreference}
    {exchange : Exchange} {outcome : Outcome} {gossip : Option ClusterInfo}
    (hgossip : tryGetGossipFrom lib exchange = .ok gossip)
    (hnil : forall info, info ∈ gossip -> info.members = []) :
    tryCandidate lib preference exchange outcome = .ok none := by
  unfold tryCandidate
  rw [hgossip]
  cases gossip with
  | none => rfl
  | some info =>
      simp [hnil info rfl, Bind.bind, Except.bind, pure, Except.pure]

theorem tryCandidate_of_fault {lib : Library} {preference : NodePreference}
    {exchange : Exchange} {outcome : Outcome} {fault : Fault}
    (hgossip : tryGetGossipFrom lib exchange = .error fault) :
    tryCandidate lib preference exchange outcome = .error fault := by
  unfold tryCandidate
  rw [hgossip]
  rfl

theorem harmless_iff (lib : Library) (preference : NodePreference) (exchange : Exchange) :
    Harmless lib preference exchange <->
      forall outcome, exists r, tryCandidate lib preference exchange outcome = .ok r := by
  unfold Harmless
  cases hgossip : tryGetGossipFrom lib exchange with
  | error fault =>
      simp [tryCandidate_of_fault hgossip]
  | ok gossip =>
      by_cases hnil : forall info, info ∈ gossip -> info.members = []
      · constructor
        · intro _ outcome
          exact ⟨none, tryCandidate_of_nil hgossip hnil⟩
        · intro _
          refine ⟨gossip, rfl, ?_⟩
          intro info hinfo hne
          exact absurd (hnil info hinfo) hne
      · push Not at hnil
        rcases hnil with ⟨info, hinfo, hne⟩
        have hsome : gossip = some info := hinfo
        subst hsome
        have hturn : (forall outcome, exists r,
            tryCandidate lib preference exchange outcome = .ok r) <->
            forall outcome, exists r,
              tryDetermineBestNode lib outcome preference info.members preference = .ok r := by
          apply forall_congr'
          intro outcome
          rw [tryCandidate_of_members hgossip hne]
          cases tryDetermineBestNode lib outcome preference info.members preference <;>
            simp [Except.map]
        rw [hturn, forall_selection_iff (P := fun r => exists e, r = .ok e) (by simp)]
        simp only [endpointsOf_ok_iff]
        constructor
        · rintro ⟨gossip, hgossip', h⟩
          cases hgossip'
          exact h info rfl hne
        · intro h
          refine ⟨some info, rfl, ?_⟩
          intro info' hinfo' _
          cases hinfo'
          exact h

theorem yields_iff (lib : Library) (preference : NodePreference) (exchange : Exchange) :
    Yields lib preference exchange <->
      forall outcome, exists found,
        tryCandidate lib preference exchange outcome = .ok (some found) := by
  unfold Yields
  cases hgossip : tryGetGossipFrom lib exchange with
  | error fault =>
      simp [tryCandidate_of_fault hgossip]
  | ok gossip =>
      by_cases hnil : forall info, info ∈ gossip -> info.members = []
      · have hnone : forall outcome,
            tryCandidate lib preference exchange outcome = .ok none :=
          fun outcome => tryCandidate_of_nil hgossip hnil
        simp only [hnone]
        constructor
        · rintro ⟨info, hinfo, hne, _⟩
          cases hinfo
          rw [hnil info rfl] at hne
          exact absurd rfl hne
        · intro h
          rcases h default with ⟨found, hfound⟩
          cases hfound
      · push Not at hnil
        rcases hnil with ⟨info, hinfo, hne⟩
        have hsome : gossip = some info := hinfo
        subst hsome
        have hturn : (forall outcome, exists found,
            tryCandidate lib preference exchange outcome = .ok (some found)) <->
            forall outcome, exists endpoints,
              tryDetermineBestNode lib outcome preference info.members preference =
                .ok (some endpoints) := by
          apply forall_congr'
          intro outcome
          rw [tryCandidate_of_members hgossip hne]
          cases tryDetermineBestNode lib outcome preference info.members preference with
          | error fault => simp [Except.map]
          | ok bestNode => cases bestNode <;> simp [Except.map]
        rw [hturn, forall_selection_iff (P := fun r => exists e, r = .ok (some e)) (by simp)]
        simp only [endpointsOf_some_iff]
        constructor
        · rintro ⟨info', hinfo', h⟩
          cases hinfo'
          exact h
        · intro h
          exact ⟨info, rfl, h⟩

/-!
# The loop

There is a call in which the turn of each candidate ends in a way it can end.
-/

/-- What one turn can come to, from a candidate that answers as allowed. -/
def TurnEnds (lib : Library) (env : Environment) (preference : NodePreference)
    (seed : GossipSeed) (r : Result (Option (NodeEndpoints × List MemberInfo))) : Prop :=
  exists exchange outcome, env.answers seed exchange ∧
    tryCandidate lib preference exchange outcome = r

theorem tryCandidates_found {lib : Library} {env : Environment}
    {preference : NodePreference} {call : Call} (hpossible : call.Possible env)
    {seeds : List GossipSeed}
    (hharmless : forall seed, seed ∈ seeds -> forall exchange,
      env.answers seed exchange -> Harmless lib preference exchange)
    (hyields : exists seed, seed ∈ seeds ∧ forall exchange,
      env.answers seed exchange -> Yields lib preference exchange) (i : Nat) :
    exists found, tryCandidates lib preference call i seeds = .ok (some found) := by
  induction seeds generalizing i with
  | nil =>
      rcases hyields with ⟨seed, hseed, _⟩
      cases hseed
  | cons seed rest ih =>
      have hseed := hharmless seed List.mem_cons_self (call.answer i seed) (hpossible i seed)
      rcases (harmless_iff lib preference _).mp hseed (call.outcome i seed) with ⟨r, hr⟩
      unfold tryCandidates
      rw [hr]
      cases r with
      | some found => exact ⟨found, rfl⟩
      | none =>
          apply ih
          · intro other hother
            exact hharmless other (List.mem_cons_of_mem seed hother)
          · rcases hyields with ⟨good, hgood, hanswers⟩
            rcases List.mem_cons.mp hgood with hhead | hrest
            · rw [hhead] at hanswers
              have hyield := hanswers (call.answer i seed) (hpossible i seed)
              rcases (yields_iff lib preference _).mp hyield (call.outcome i seed) with
                ⟨found, hfound⟩
              rw [hr] at hfound
              cases hfound
            · exact ⟨good, hrest, hanswers⟩

theorem tryCandidates_none {lib : Library} {preference : NodePreference} {call : Call}
    {seeds : List GossipSeed}
    (hnone : forall i seed, seed ∈ seeds ->
      tryCandidate lib preference (call.answer i seed) (call.outcome i seed) = .ok none)
    (i : Nat) : tryCandidates lib preference call i seeds = .ok none := by
  induction seeds generalizing i with
  | nil => rfl
  | cons seed rest ih =>
      unfold tryCandidates
      rw [hnone i seed List.mem_cons_self]
      apply ih
      intro i other hother
      exact hnone i other (List.mem_cons_of_mem seed hother)

theorem exists_call (lib : Library) (env : Environment) (preference : NodePreference)
    (shuffle : Shuffling GossipSeed)
    (r : GossipSeed -> Result (Option (NodeEndpoints × List MemberInfo)))
    (ends : GossipSeed -> Prop)
    (hends : forall seed, ends seed -> TurnEnds lib env preference seed (r seed)) :
    exists call : Call, call.Possible env ∧ call.shuffle = shuffle ∧
      forall i seed, ends seed ->
        tryCandidate lib preference (call.answer i seed) (call.outcome i seed) = r seed := by
  classical
  have hturn : forall seed, exists turn : Exchange × Outcome, env.answers seed turn.1 ∧
      (ends seed -> tryCandidate lib preference turn.1 turn.2 = r seed) := by
    intro seed
    by_cases hseed : ends seed
    · rcases hends seed hseed with ⟨exchange, outcome, hanswers, hresult⟩
      exact ⟨(exchange, outcome), hanswers, fun _ => hresult⟩
    · rcases env.answered seed with ⟨exchange, hanswers⟩
      exact ⟨(exchange, default), hanswers, fun h => absurd h hseed⟩
  choose turn hturn using hturn
  refine ⟨{ resolved := none
            shuffle := shuffle
            answer := fun _ seed => (turn seed).1
            outcome := fun _ seed => (turn seed).2 }, ?_, rfl, ?_⟩
  · intro i seed
    exact (hturn seed).left
  · intro i seed hseed
    exact (hturn seed).right hseed

/-!
# The remembered gossip

Arranging the members leaves the number of slots as it is, so with a gossip remembered the
copy into an empty vector is reached.
-/

theorem bind_eq_ok {alpha beta : Type} {x : Result alpha} {f : alpha -> Result beta}
    {b : beta} (h : x >>= f = .ok b) : exists a, x = .ok a ∧ f a = .ok b := by
  cases x with
  | error fault => cases h
  | ok a => exact ⟨a, rfl, h⟩

theorem arrangeMember_length {lib : Library} {slots slots' : Slots} {m : MemberInfo}
    (h : arrangeMember lib slots m = .ok slots') :
    slots'.buffer.length = slots.buffer.length := by
  unfold arrangeMember at h
  rcases bind_eq_ok h with ⟨address, _, h⟩
  split at h
  · cases h
    exact List.length_set
  · cases h
    exact List.length_set

theorem arrangeMembers_length {lib : Library} {members : List MemberInfo}
    {slots slots' : Slots} (h : members.foldlM (arrangeMember lib) slots = .ok slots') :
    slots'.buffer.length = slots.buffer.length := by
  induction members generalizing slots with
  | nil =>
      cases h
      rfl
  | cons m rest ih =>
      rw [List.foldlM_cons] at h
      rcases bind_eq_ok h with ⟨next, hnext, hrest⟩
      rw [ih hrest, arrangeMember_length hnext]

theorem mapM_id_length {alpha : Type} {xs : List (Option alpha)} {ys : List alpha}
    (h : xs.mapM id = some ys) : ys.length = xs.length := by
  induction xs generalizing ys with
  | nil =>
      cases h
      rfl
  | cons x xs ih =>
      rw [List.mapM_cons] at h
      rcases Option.bind_eq_some_iff.mp h with ⟨y, _, h⟩
      rcases Option.bind_eq_some_iff.mp h with ⟨rest, hrest, h⟩
      cases h
      rw [List.length_cons, List.length_cons, ih hrest]

/-- The copy writes past the end of an empty vector, if the addresses let it come to
that. -/
theorem arrangeGossipCandidates_fault (lib : Library) (call : Call)
    {members : List MemberInfo} (hne : members ≠ []) :
    exists fault, arrangeGossipCandidates lib call members = .error fault := by
  cases harranged : arrangeGossipCandidates lib call members with
  | error fault => exact ⟨fault, rfl⟩
  | ok seeds =>
      unfold arrangeGossipCandidates at harranged
      rcases bind_eq_ok harranged with ⟨slots, hslots, h⟩
      rcases bind_eq_ok h with ⟨read, hread, h⟩
      rcases bind_eq_ok h with ⟨result, hcopied, _⟩
      have hlength := arrangeMembers_length hslots
      rw [List.length_replicate] at hlength
      have hreadLength : read.length = members.length := by
        unfold readSlots at hread
        split at hread
        · rename_i seeds' hseeds
          cases hread
          rw [mapM_id_length hseeds, hlength]
        · cases hread
      have hpos := List.length_pos_of_ne_nil hne
      unfold copyRange at hcopied
      rw [if_neg (by rw [hreadLength, List.length_nil]; omega)] at hcopied
      cases hcopied

theorem discoverEndpoints_remembering (lib : Library) (call : Call)
    {service : ClusterDiscoveryService} (hne : service.oldGossip ≠ []) :
    exists fault, discoverEndpoints lib call service = .error fault := by
  rcases arrangeGossipCandidates_fault lib call hne with ⟨fault, hfault⟩
  exists fault
  simp [discoverEndpoints, getCandidates, hne, hfault, Bind.bind, Except.bind]

/-!
# Two calls

With nothing remembered the candidates are the shuffled seeds.
-/

section TwoCalls

variable {lib : Library} {env : Environment} {service : ClusterDiscoveryService}

theorem discoverEndpoints_forgotten {call : Call} (hforgotten : service.oldGossip = [])
    (hseeds : service.settings.gossipSeeds ≠ []) :
    discoverEndpoints lib call service =
      (tryCandidates lib service.settings.nodePreference call 0
        (call.shuffle.run service.settings.gossipSeeds)).map
        (fun found => match found with
          | none => (none, service)
          | some (bestNode, members) =>
              (some bestNode, { service with oldGossip := members })) := by
  unfold discoverEndpoints
  rw [if_pos hforgotten]
  simp only [getDnsCandidates, if_pos hseeds, pure_bind]
  cases tryCandidates lib service.settings.nodePreference call 0
      (call.shuffle.run service.settings.gossipSeeds) with
  | error fault => rfl
  | ok found =>
      cases found <;> rfl

theorem finds_of_findable (hseeds : service.settings.gossipSeeds ≠ [])
    (h : Findable lib env service) : Finds lib env service := by
  intro call1 call2 hpossible _
  have hperm := call1.shuffle.perm service.settings.gossipSeeds
  have hharmless : forall seed, seed ∈ call1.shuffle.run service.settings.gossipSeeds ->
      forall exchange, env.answers seed exchange ->
        Harmless lib service.settings.nodePreference exchange :=
    fun seed hseed => h.harmless seed (hperm.mem_iff.mp hseed)
  have hyields : exists seed, seed ∈ call1.shuffle.run service.settings.gossipSeeds ∧
      forall exchange, env.answers seed exchange ->
        Yields lib service.settings.nodePreference exchange := by
    rcases h.yields with ⟨seed, hseed, hanswers⟩
    exact ⟨seed, hperm.mem_iff.mpr hseed, hanswers⟩
  rcases tryCandidates_found hpossible hharmless hyields 0 with ⟨found, hfound⟩
  rw [discoverEndpoints_forgotten h.forgotten hseeds, hfound]
  trivial

theorem forgotten_of_finds (h : Finds lib env service) : service.oldGossip = [] := by
  apply Classical.byContradiction
  intro hne
  rcases exists_call lib env service.settings.nodePreference default
    (fun _ => .ok none) (fun _ => False) (fun _ hfalse => hfalse.elim) with
    ⟨call, hpossible, _, _⟩
  have hfinds := h call call hpossible hpossible
  rcases discoverEndpoints_remembering lib call hne with ⟨fault, hfault⟩
  rw [hfault] at hfinds
  exact hfinds

/-- A candidate that can end the discovery with a fault does so when it is asked first. -/
theorem harmless_of_finds (h : Finds lib env service) {seed : GossipSeed}
    (hseed : seed ∈ service.settings.gossipSeeds) {exchange : Exchange}
    (hanswers : env.answers seed exchange) :
    Harmless lib service.settings.nodePreference exchange := by
  apply (harmless_iff lib service.settings.nodePreference exchange).mpr
  intro outcome
  cases hturn : tryCandidate lib service.settings.nodePreference exchange outcome with
  | ok found => exact ⟨found, rfl⟩
  | error fault =>
      rcases exists_call lib env service.settings.nodePreference (Shuffling.bring seed)
        (fun _ => .error fault) (fun other => other = seed) (by
          rintro other rfl
          exact ⟨exchange, outcome, hanswers, hturn⟩) with
        ⟨call, hpossible, hshuffle, hends⟩
      have hfinds := h call call hpossible hpossible
      have hcandidates : call.shuffle.run service.settings.gossipSeeds =
          seed :: service.settings.gossipSeeds.erase seed := by
        rw [hshuffle]
        exact if_pos hseed
      have hfault : tryCandidates lib service.settings.nodePreference call 0
          (seed :: service.settings.gossipSeeds.erase seed) = .error fault := by
        unfold tryCandidates
        rw [hends 0 seed rfl]
        rfl
      rw [discoverEndpoints_forgotten (forgotten_of_finds h) (List.ne_nil_of_mem hseed),
        hcandidates, hfault] at hfinds
      exact hfinds.elim

/-- If every seed can end its turn with nothing, two calls in a row can come to nothing. -/
theorem yields_of_finds (hseeds : service.settings.gossipSeeds ≠ [])
    (h : Finds lib env service) :
    exists seed, seed ∈ service.settings.gossipSeeds ∧
      forall exchange, env.answers seed exchange ->
        Yields lib service.settings.nodePreference exchange := by
  apply Classical.byContradiction
  intro hnot
  rcases exists_call lib env service.settings.nodePreference default
    (fun _ => .ok none) (fun seed => seed ∈ service.settings.gossipSeeds) (by
      intro seed hseed
      apply Classical.byContradiction
      intro hends
      apply hnot
      refine ⟨seed, hseed, ?_⟩
      intro exchange hanswers
      apply (yields_iff lib service.settings.nodePreference exchange).mpr
      intro outcome
      rcases (harmless_iff lib service.settings.nodePreference exchange).mp
        (harmless_of_finds h hseed hanswers) outcome with ⟨found, hfound⟩
      cases found with
      | none => exact absurd ⟨exchange, outcome, hanswers, hfound⟩ hends
      | some found => exact ⟨found, hfound⟩) with
    ⟨call, hpossible, _, hends⟩
  have hperm := call.shuffle.perm service.settings.gossipSeeds
  have hnone : tryCandidates lib service.settings.nodePreference call 0
      (call.shuffle.run service.settings.gossipSeeds) = .ok none :=
    tryCandidates_none (fun i seed hseed => hends i seed (hperm.mem_iff.mp hseed)) 0
  have hfinds := h call call hpossible hpossible
  have hcall : discoverEndpoints lib call service = .ok (none, service) := by
    rw [discoverEndpoints_forgotten (forgotten_of_finds h) hseeds, hnone]
    rfl
  rw [hcall] at hfinds
  simp only [hcall] at hfinds

end TwoCalls

/-- Two calls find an endpoint whatever the candidates answer and the generators do
exactly when nothing is remembered, no seed can spoil the discovery and one always
yields. -/
theorem discoverEndpoints_finds_iff (lib : Library) (env : Environment)
    (service : ClusterDiscoveryService) (hseeds : service.settings.gossipSeeds ≠ []) :
    Finds lib env service <-> Findable lib env service := by
  constructor
  · intro h
    constructor
    · exact forgotten_of_finds h
    · intro seed hseed exchange hanswers
      exact harmless_of_finds h hseed hanswers
    · exact yields_of_finds hseeds h
  · exact finds_of_findable hseeds

/-!
# A cluster of one slave

A first discovery at the slave finds it, and remembers its gossip; the second one reads
it.
-/

/-- An answer with well-formed gossip of a cluster that has a usable member. -/
def WellFormedGossip (lib : Library) (exchange : Exchange) : Prop :=
  exists info, tryGetGossipFrom lib exchange = .ok (some info) ∧
    (exists m, m ∈ info.members ∧ unusable m = false) ∧
      forall m, m ∈ info.members ->
        (lib.makeAddressV4 m.externalTcpIp).isSome = true ∧
          (lib.makeAddressV4 m.externalHttpIp).isSome = true

def slaveId : Guid :=
  { data := [0x97, 0xa8, 0xae, 0x2c, 0x1b, 0xd4, 0x4b, 0xab,
      0xa1, 0x17, 0xfc, 0x2c, 0xa1, 0x34, 0xe5, 0xb9]
    size_eq := rfl }

def slaveGossip : String :=
  "\x7b\"members\":[\x7b\"instanceId\":\"97a8ae2c-1bd4-4bab-a117-fc2ca134e5b9\"," ++
  "\"timeStamp\":\"2019-09-05T19:12:37.8141961Z\",\"state\":\"Slave\",\"isAlive\":true," ++
  "\"internalTcpIp\":\"127.0.0.1\",\"internalTcpPort\":5111,\"internalSecureTcpPort\":0," ++
  "\"externalTcpIp\":\"127.0.0.1\",\"externalTcpPort\":5112,\"externalSecureTcpPort\":0," ++
  "\"internalHttpIp\":\"127.0.0.1\",\"internalHttpPort\":5113," ++
  "\"externalHttpIp\":\"127.0.0.1\",\"externalHttpPort\":5114," ++
  "\"lastCommitPosition\":67611,\"writerCheckpoint\":85117,\"chaserCheckpoint\":85117," ++
  "\"epochPosition\":1963,\"epochNumber\":1," ++
  "\"epochId\":\"97a8ae2c-1bd4-4bab-a117-fc2ca134e5b9\",\"nodePriority\":0\x7d]\x7d"

def slaveJson : Json :=
  .object [("members", .array [.object
    [("instanceId", .string "97a8ae2c-1bd4-4bab-a117-fc2ca134e5b9"),
     ("timeStamp", .string "2019-09-05T19:12:37.8141961Z"),
     ("state", .string "Slave"), ("isAlive", .boolean true),
     ("internalTcpIp", .string "127.0.0.1"), ("internalTcpPort", .integer 5111),
     ("internalSecureTcpPort", .integer 0),
     ("externalTcpIp", .string "127.0.0.1"), ("externalTcpPort", .integer 5112),
     ("externalSecureTcpPort", .integer 0),
     ("internalHttpIp", .string "127.0.0.1"), ("internalHttpPort", .integer 5113),
     ("externalHttpIp", .string "127.0.0.1"), ("externalHttpPort", .integer 5114),
     ("lastCommitPosition", .integer 67611), ("writerCheckpoint", .integer 85117),
     ("chaserCheckpoint", .integer 85117), ("epochPosition", .integer 1963),
     ("epochNumber", .integer 1),
     ("epochId", .string "97a8ae2c-1bd4-4bab-a117-fc2ca134e5b9"),
     ("nodePriority", .integer 0)]])]

def slaveLibrary : Library :=
  { parse := fun body => if body = slaveGossip then some slaveJson else none
    stringGenerator := fun str =>
      if str = "97a8ae2c-1bd4-4bab-a117-fc2ca134e5b9" then some slaveId else none
    makeAddressV4 := fun str => if str = "127.0.0.1" then some 0x7F000001 else none
    fresh := MemberInfo.null }

def slaveMember : MemberInfo :=
  { instanceId := slaveId
    dateTime := "2019-09-05T19:12:37.8141961Z"
    state := .slave
    isAlive := true
    internalTcpIp := "127.0.0.1"
    internalTcpPort := 5111
    internalSecureTcpPort := 0
    externalTcpIp := "127.0.0.1"
    externalTcpPort := 5112
    externalSecureTcpPort := 0
    internalHttpIp := "127.0.0.1"
    internalHttpPort := 5113
    externalHttpIp := "127.0.0.1"
    externalHttpPort := 5114
    lastCommitPosition := 67611
    writerCheckpoint := 85117
    chaserCheckpoint := 85117
    epochPosition := 1963
    epochNumber := 1
    epochId := slaveId
    nodePriority := 0 }

def slaveSeed : GossipSeed :=
  { endpoint := { address := 0x7F000001, port := 5114 }, hostHeader := "" }

/-- A seed behind which something else answers, with a page that is not JSON. -/
def pageSeed : GossipSeed :=
  { endpoint := { address := 0x7F000001, port := 80 }, hostHeader := "" }

def slaveAnswers : Environment :=
  { answers := fun seed exchange =>
      exchange = if seed = slaveSeed then .response 200 slaveGossip
        else .response 200 "It works!"
    answered := fun _ => ⟨_, rfl⟩ }

def serviceFor (gossipSeeds : List GossipSeed) (oldGossip : List MemberInfo) :
    ClusterDiscoveryService :=
  { settings := { gossipSeeds := gossipSeeds, nodePreference := .master }
    oldGossip := oldGossip }

theorem slaveAnswer {exchange : Exchange}
    (h : slaveAnswers.answers slaveSeed exchange) :
    tryGetGossipFrom slaveLibrary exchange = .ok (some { members := [slaveMember] }) := by
  have hexchange : exchange = .response 200 slaveGossip := h
  rw [hexchange]
  decide +kernel

theorem pageAnswer {exchange : Exchange} (h : slaveAnswers.answers pageSeed exchange) :
    tryGetGossipFrom slaveLibrary exchange = .error (.exception .parseError) := by
  have hexchange : exchange = .response 200 "It works!" := h
  rw [hexchange]
  decide +kernel

theorem slave_first {preference : NodePreference} {x : MemberInfo}
    (h : CanComeFirst preference (consideredNodes [slaveMember]) x) : x = slaveMember := by
  have hnodes : consideredNodes [slaveMember] = [slaveMember] := by
    decide +kernel
  have hmem := h.left
  rw [hnodes] at hmem
  exact List.mem_singleton.mp hmem

theorem slave_endpoints :
    externalEndpoints slaveLibrary slaveMember =
      .ok ({ address := 0x7F000001, port := 5112 },
        { address := 0x7F000001, port := 0 }) := by
  decide +kernel

theorem slave_yields {preference : NodePreference} {exchange : Exchange}
    (h : slaveAnswers.answers slaveSeed exchange) :
    Yields slaveLibrary preference exchange := by
  refine ⟨_, slaveAnswer h, by decide +kernel, ?_⟩
  intro x hx
  rw [slave_first hx]
  exact ⟨by decide +kernel, _, slave_endpoints⟩

theorem harmless_of_yields {lib : Library} {preference : NodePreference}
    {exchange : Exchange} (h : Yields lib preference exchange) :
    Harmless lib preference exchange := by
  apply (harmless_iff lib preference exchange).mpr
  intro outcome
  rcases (yields_iff lib preference exchange).mp h outcome with ⟨found, hfound⟩
  exact ⟨some found, hfound⟩

theorem slaveSeed_remembered {call : Call} (hpossible : call.Possible slaveAnswers) :
    exists endpoints, discoverEndpoints slaveLibrary call (serviceFor [slaveSeed] []) =
      .ok (some endpoints, serviceFor [slaveSeed] [slaveMember]) := by
  have hanswer := slaveAnswer (hpossible 0 slaveSeed)
  have hcandidates : call.shuffle.run [slaveSeed] = [slaveSeed] :=
    List.perm_singleton.mp (call.shuffle.perm [slaveSeed])
  rcases selection_of_ne_nil slaveLibrary (call.outcome 0 slaveSeed) .master
    (show consideredNodes [slaveMember] ≠ [] by decide +kernel) with ⟨x, hx, hselected⟩
  rw [slave_first hx] at hselected
  have hendpoints : endpointsOf slaveLibrary slaveMember =
      .ok (some ({ address := 0x7F000001, port := 5112 },
        { address := 0x7F000001, port := 0 })) := by
    decide +kernel
  have hturn : tryCandidate slaveLibrary .master (call.answer 0 slaveSeed)
      (call.outcome 0 slaveSeed) = _ :=
    tryCandidate_of_members hanswer (List.cons_ne_nil slaveMember [])
  rw [hselected, hendpoints] at hturn
  exists ({ address := 0x7F000001, port := 5112 }, { address := 0x7F000001, port := 0 })
  rw [discoverEndpoints_forgotten rfl (by decide)]
  simp only [serviceFor, hcandidates]
  unfold tryCandidates
  rw [hturn]
  rfl

theorem oneSlave_finds :
    Finds slaveLibrary slaveAnswers (serviceFor [slaveSeed] []) := by
  apply (discoverEndpoints_finds_iff slaveLibrary slaveAnswers (serviceFor [slaveSeed] [])
    (by decide)).mpr
  constructor
  · rfl
  · intro seed hseed exchange hanswers
    rw [List.mem_singleton.mp hseed] at hanswers
    exact harmless_of_yields (slave_yields hanswers)
  · refine ⟨slaveSeed, List.mem_singleton.mpr rfl, ?_⟩
    intro exchange hanswers
    exact slave_yields hanswers

/-- The slave always answers well, and the first discovery finds it; the second one,
which remembers it, does not, nor does a first one that may ask the page instead. -/
theorem secondDiscovery_faults :
    (forall exchange, slaveAnswers.answers slaveSeed exchange ->
        WellFormedGossip slaveLibrary exchange) ∧
      (exists call endpoints, call.Possible slaveAnswers ∧
        discoverEndpoints slaveLibrary call (serviceFor [slaveSeed] []) =
          .ok (some endpoints, serviceFor [slaveSeed] [slaveMember])) ∧
      ¬ Finds slaveLibrary slaveAnswers (serviceFor [slaveSeed] [slaveMember]) ∧
      ¬ Finds slaveLibrary slaveAnswers (serviceFor [slaveSeed, pageSeed] []) := by
  constructor
  · intro exchange hanswers
    refine ⟨_, slaveAnswer hanswers, ⟨slaveMember, by decide, by decide⟩, ?_⟩
    intro m hm
    rw [List.mem_singleton.mp hm]
    decide +kernel
  constructor
  · rcases exists_call slaveLibrary slaveAnswers .master default
      (fun _ => .ok none) (fun _ => False) (fun _ hfalse => hfalse.elim) with
      ⟨call, hpossible, _, _⟩
    rcases slaveSeed_remembered hpossible with ⟨endpoints, hfound⟩
    exact ⟨call, endpoints, hpossible, hfound⟩
  constructor
  · intro hfinds
    have hforgotten := forgotten_of_finds hfinds
    cases hforgotten
  · intro hfinds
    have hanswers : slaveAnswers.answers pageSeed (.response 200 "It works!") := rfl
    rcases harmless_of_finds hfinds (List.mem_cons_of_mem slaveSeed
      (List.mem_singleton.mpr rfl)) hanswers with ⟨gossip, hgossip, _⟩
    rw [pageAnswer hanswers] at hgossip
    cases hgossip

end Cluster
end EventStoreClient
