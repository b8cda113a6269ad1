import EventStoreClient.Cluster.Attempts
import EventStoreClient.Cluster.Encoding

/-!
# Discovery in a cluster

The attempts of `async_discover_node_endpoints` with what each of them asks and remembers,
against nodes that write their gossip with `to_json`.
-/

namespace EventStoreClient
namespace Cluster

open Foundation
open Wire (Guid)
open MemberInfo (Outcome)

/-!
# Nodes

A node may answer with the gossip, and may have a usable member to tell of.
-/

structure Tells (lib : Library) (uuidText : Guid -> String) (info : ClusterInfo)
    (exchange : Exchange) : Prop where
  answer : exists body j, exchange = .response 200 body ∧ lib.parse body = some j ∧
    j.Dumps uuidText info
  members : forall m, m ∈ info.members -> m.InRange ∧ m.Recovers lib uuidText

/-- The node has no gossip, or has one of which any selection is right. -/
inductive Speaks (lib : Library) (uuidText : Guid -> String) (preference : NodePreference)
    (exchange : Exchange) : Prop where
  | silent (h : forall body, exchange ≠ .response 200 body)
  | gossip {info : ClusterInfo} (h : Tells lib uuidText info exchange)
      (hselectable : info.members = [] ∨ Selectable lib preference info.members)

def Offers (lib : Library) (uuidText : Guid -> String) (exchange : Exchange) : Prop :=
  exists info, Tells lib uuidText info exchange ∧ ¬ info.members.all unusable = true

/-- The endpoints are those of a right member of the gossip that the node tells. -/
def FoundIn (lib : Library) (uuidText : Guid -> String) (preference : NodePreference)
    (exchange : Exchange) (endpoints : NodeEndpoints) : Prop :=
  exists info m, Tells lib uuidText info exchange ∧ RightMember preference info.members m ∧
    externalEndpoints lib m = .ok endpoints

section Nodes

variable {lib : Library} {uuidText : Guid -> String} {preference : NodePreference}
  {exchange : Exchange} {info : ClusterInfo}

theorem Tells.gossip (h : Tells lib uuidText info exchange) :
    tryGetGossipFrom lib exchange = .ok (some info) := by
  rcases h.answer with ⟨body, j, rfl, hparsed, hdumps⟩
  have hread := ClusterInfo.fromJson_toJson hdumps h.members
  simp only [tryGetGossipFrom, Library.parseJson, hparsed, ok_bind, hread, ne_eq,
    not_true_eq_false, if_false]
  rfl

theorem silent_gossip (h : forall body, exchange ≠ .response 200 body) :
    tryGetGossipFrom lib exchange = .ok none := by
  cases exchange with
  | response status body =>
      have hstatus : status ≠ 200 := fun heq => h body (heq ▸ rfl)
      exact if_pos hstatus
  | _ => rfl

theorem Selectable.selected {members : List MemberInfo}
    (h : Selectable lib preference members) (outcome : Outcome) :
    Selected lib preference members
      (tryDetermineBestNode lib outcome preference members preference) := by
  have hfault : ¬ Selected lib preference members (.error .undefinedBehaviour) := by
    simp [Selected]
  refine (forall_selection_iff hfault).mpr ⟨h.left, fun x hx => ?_⟩ outcome
  exact (selected_endpointsOf_iff lib preference members x).mpr (h.right x hx)

/-- A turn finds the endpoints of a right member, or goes on behind a node that has no
usable member to tell of. -/
theorem tryCandidate_speaks (h : Speaks lib uuidText preference exchange)
    (outcome : Outcome) :
    (tryCandidate lib preference exchange outcome = .ok none ∧
        ¬ Offers lib uuidText exchange) ∨
      exists endpoints members,
        tryCandidate lib preference exchange outcome = .ok (some (endpoints, members)) ∧
          FoundIn lib uuidText preference exchange endpoints := by
  cases h with
  | silent hsilent =>
      left
      refine ⟨tryCandidate_of_nil (silent_gossip hsilent) (fun _ hinfo => by cases hinfo), ?_⟩
      rintro ⟨info, htells, _⟩
      rcases htells.answer with ⟨body, _, heq, _⟩
      exact hsilent body heq
  | @gossip info htells hselectable =>
      have hgossip := htells.gossip
      have honly : forall info', Tells lib uuidText info' exchange -> info' = info := by
        intro info' htells'
        have hsame := htells'.gossip
        rw [hgossip] at hsame
        cases hsame
        rfl
      rcases hselectable with hnil | hselectable
      · left
        refine ⟨tryCandidate_of_nil hgossip fun info' hinfo' => ?_, ?_⟩
        · cases hinfo'
          exact hnil
        · rintro ⟨info', htells', husable⟩
          rw [honly info' htells', hnil] at husable
          exact husable rfl
      · have hne : info.members ≠ [] := by
          intro hnil
          have hconsidered := hselectable.left
          rw [hnil] at hconsidered
          exact hconsidered rfl
        have hselected := hselectable.selected outcome
        rw [tryCandidate_of_members hgossip hne]
        unfold Selected at hselected
        split at hselected
        · rename_i hall
          left
          rw [hselected]
          refine ⟨rfl, ?_⟩
          rintro ⟨info', htells', husable⟩
          rw [honly info' htells'] at husable
          exact husable hall
        · rcases hselected with ⟨m, endpoints, hright, hendpoints, hresult⟩
          right
          rw [hresult]
          exact ⟨endpoints, info.members, rfl, info, m, htells, hright, hendpoints⟩

theorem tryCandidates_speaks {env : Environment} {call : Call} (hpossible : call.Possible env)
    {seeds : List GossipSeed}
    (hspeaks : forall seed, seed ∈ seeds -> forall exchange, env.answers seed exchange ->
      Speaks lib uuidText preference exchange) (i : Nat) :
    (tryCandidates lib preference call i seeds = .ok none ∧
        forall seed, seed ∈ seeds -> exists exchange, env.answers seed exchange ∧
          ¬ Offers lib uuidText exchange) ∨
      exists endpoints members,
        tryCandidates lib preference call i seeds = .ok (some (endpoints, members)) ∧
          exists seed, seed ∈ seeds ∧ exists exchange, env.answers seed exchange ∧
            FoundIn lib uuidText preference exchange endpoints := by
  induction seeds generalizing i with
  | nil => exact Or.inl ⟨rfl, fun _ hseed => absurd hseed List.not_mem_nil⟩
  | cons seed rest ih =>
      rw [List.forall_mem_cons] at hspeaks
      have hanswer := hpossible i seed
      rw [tryCandidates]
      rcases tryCandidate_speaks (hspeaks.left _ hanswer) (call.outcome i seed) with
        ⟨hturn, hoffers⟩ | ⟨endpoints, members, hturn, hfound⟩
      · rw [hturn, ok_bind]
        rcases ih hspeaks.right (i + 1) with ⟨hrest, hnone⟩ | ⟨endpoints, members, hrest, hfound⟩
        · refine Or.inl ⟨hrest, ?_⟩
          rw [List.forall_mem_cons]
          exact ⟨⟨_, hanswer, hoffers⟩, hnone⟩
        · rcases hfound with ⟨other, hother, hfound⟩
          exact Or.inr ⟨endpoints, members, hrest, other, List.mem_cons_of_mem _ hother, hfound⟩
      · rw [hturn, ok_bind]
        exact Or.inr ⟨endpoints, members, rfl, seed, List.mem_cons_self, _, hanswer, hfound⟩

end Nodes

/-!
# The service

In a state of a run so far no attempt has ended with an exception.  With nothing
remembered the seeds are asked, or what the resolver finds; the first attempt with a node
that can be reached is the last one, and behind the last link the run is over.
-/

/-- The service with the chain of one `async_discover_node_endpoints`, and the exception
that has left the closure. -/
structure ServiceState where
  service : ClusterDiscoveryService
  chain : Discovering
  fault : Option Fault

/-- What the event loop runs: the closure, in which the candidates answer as in the call, or
the completion of the timer. -/
inductive ServiceInput where
  | closure (call : Call)
  | timer (ec : ErrorCode)

/-- The closure of an attempt, which calls `discover_endpoints` if there is one left. -/
def runAttempt (lib : Library) (maxDiscoverAttempts attempt : Int) (call : Call)
    (s : ServiceState) : ServiceState :=
  if attempt ≤ maxDiscoverAttempts then
    match discoverEndpoints lib call s.service with
    | .ok (outcome, service) =>
        { s with
          service := service
          chain := runPosted maxDiscoverAttempts outcome attempt s.chain }
    | .error fault =>
        { s with
          chain := { s.chain with next := none }
          fault := some fault }
  else { s with chain := runPosted maxDiscoverAttempts none attempt s.chain }

def serviceStep (lib : Library) (maxDiscoverAttempts : Int) (s : ServiceState) :
    ServiceInput -> Option ServiceState
  | .closure call =>
      match s.chain.next with
      | some (Link.posted attempt) => some (runAttempt lib maxDiscoverAttempts attempt call s)
      | _ => none
  | .timer ec =>
      (discoveryStep maxDiscoverAttempts s.chain (.timer ec)).map fun chain =>
        { s with chain := chain }

def startDiscovery (service : ClusterDiscoveryService) : ServiceState :=
  { service := service
    chain := asyncDiscoverNodeEndpoints
    fault := none }

/-- What the chain is told in a run: the outcome of each call of `discover_endpoints`, which
leaves the service to the next one. -/
def chainInputs (lib : Library) : ClusterDiscoveryService -> List ServiceInput ->
    List DiscoveryInput
  | _, [] => []
  | service, .timer ec :: rest => .timer ec :: chainInputs lib service rest
  | service, .closure call :: rest =>
      match discoverEndpoints lib call service with
      | .ok (outcome, service) => .closure outcome :: chainInputs lib service rest
      | .error _ => []

def ServiceInput.Possible (env : Environment) : ServiceInput -> Prop
  | closure call => call.Possible env
  | timer _ => True

/-- Without configured seeds it is for the resolver to say who is asked. -/
def IsCandidate (settings : ClusterSettings) (seed : GossipSeed) : Prop :=
  settings.gossipSeeds = [] ∨ seed ∈ settings.gossipSeeds

/-- The endpoints are in the gossip that one of the candidates tells. -/
def Found (lib : Library) (uuidText : Guid -> String) (env : Environment)
    (settings : ClusterSettings) (endpoints : NodeEndpoints) : Prop :=
  exists seed exchange, IsCandidate settings seed ∧ env.answers seed exchange ∧
    FoundIn lib uuidText settings.nodePreference exchange endpoints

/-- One of the configured seeds always has a usable member to tell of. -/
def Reachable (lib : Library) (uuidText : Guid -> String) (env : Environment)
    (settings : ClusterSettings) : Prop :=
  exists seed, seed ∈ settings.gossipSeeds ∧ forall exchange, env.answers seed exchange ->
    Offers lib uuidText exchange

structure Searching (lib : Library) (uuidText : Guid -> String) (env : Environment)
    (settings : ClusterSettings) (s : ServiceState) : Prop where
  no_fault : s.fault = none
  settings_eq : s.service.settings = settings
  forgotten : s.chain.next ≠ none -> s.service.oldGossip = []
  found : forall endpoint, Action.callback none endpoint ∈ s.chain.log ->
    exists endpoints, Found lib uuidText env settings endpoints ∧ endpoint = endpoints.1

/-- The user is called back once, with the first endpoint that a call of `discover_endpoints`
has found, which is one that a node tells, or because the attempts are used up.  If a node
with a usable member can be reached, the first attempt finds one. -/
structure Discovered (lib : Library) (uuidText : Guid -> String) (env : Environment)
    (service : ClusterDiscoveryService) (maxDiscoverAttempts : Int)
    (inputs : List ServiceInput) (s : ServiceState) : Prop where
  once : AnswersOnce maxDiscoverAttempts (outcomes (chainInputs lib service inputs)) s.chain
  no_fault : s.fault = none
  found : forall endpoint, Action.callback none endpoint ∈ s.chain.log ->
    exists endpoints, Found lib uuidText env service.settings endpoints ∧
      endpoint = endpoints.1
  reached : Reachable lib uuidText env service.settings -> 1 ≤ maxDiscoverAttempts ->
    inputs = [] ∨ exists endpoints, Found lib uuidText env service.settings endpoints ∧
      s.chain.log = [Action.discoverEndpoints (some endpoints),
        Action.callback none endpoints.1]

section Service

variable {lib : Library} {uuidText : Guid -> String} {env : Environment}
  {settings : ClusterSettings} {maxDiscoverAttempts : Int}

theorem getDnsCandidates_candidate (call : Call) {seed : GossipSeed}
    (h : seed ∈ getDnsCandidates settings call) : IsCandidate settings seed := by
  by_cases hseeds : settings.gossipSeeds = []
  · exact Or.inl hseeds
  · rw [getDnsCandidates, if_pos hseeds] at h
    exact Or.inr ((call.shuffle.perm _).mem_iff.mp h)

theorem mem_getDnsCandidates (call : Call) {seed : GossipSeed}
    (h : seed ∈ settings.gossipSeeds) : seed ∈ getDnsCandidates settings call := by
  rw [getDnsCandidates, if_pos (List.ne_nil_of_mem h)]
  exact (call.shuffle.perm _).mem_iff.mpr h

theorem discoverEndpoints_fresh {service : ClusterDiscoveryService} (call : Call)
    (hforgotten : service.oldGossip = []) :
    discoverEndpoints lib call service =
      (tryCandidates lib service.settings.nodePreference call 0
        (getDnsCandidates service.settings call)).map
        (fun found => match found with
          | none => (none, service)
          | some (bestNode, members) =>
              (some bestNode, { service with oldGossip := members })) := by
  unfold discoverEndpoints
  simp only [if_pos hforgotten, pure_bind]
  cases tryCandidates lib service.settings.nodePreference call 0
      (getDnsCandidates service.settings call) with
  | error fault => rfl
  | ok found => cases found <;> rfl

/-- Then a call finds a right member, or nobody asked has a usable one to tell of. -/
theorem discoverEndpoints_speaks {service : ClusterDiscoveryService} {call : Call}
    (hforgotten : service.oldGossip = [])
    (hspeaks : forall seed, IsCandidate service.settings seed -> forall exchange,
      env.answers seed exchange ->
        Speaks lib uuidText service.settings.nodePreference exchange)
    (hpossible : call.Possible env) :
    (discoverEndpoints lib call service = .ok (none, service) ∧
        ¬ Reachable lib uuidText env service.settings) ∨
      exists endpoints members,
        discoverEndpoints lib call service =
            .ok (some endpoints, { service with oldGossip := members }) ∧
          Found lib uuidText env service.settings endpoints := by
  have hasked := tryCandidates_speaks hpossible
    (fun seed hseed => hspeaks seed (getDnsCandidates_candidate call hseed)) 0
  rw [discoverEndpoints_fresh call hforgotten]
  rcases hasked with ⟨hnone, hoffers⟩ | ⟨endpoints, members, hfound, seed, hseed, exchange, h⟩
  · left
    rw [hnone]
    refine ⟨rfl, ?_⟩
    rintro ⟨seed, hseed, hall⟩
    rcases hoffers seed (mem_getDnsCandidates call hseed) with ⟨exchange, hanswer, hno⟩
    exact hno (hall exchange hanswer)
  · right
    rw [hfound]
    exact ⟨endpoints, members, rfl, seed, exchange, getDnsCandidates_candidate call hseed, h⟩

theorem start_searching {service : ClusterDiscoveryService}
    (hforgotten : service.oldGossip = []) :
    Searching lib uuidText env service.settings (startDiscovery service) where
  no_fault := rfl
  settings_eq := rfl
  forgotten := fun _ => hforgotten
  found := fun _ h => absurd h List.not_mem_nil

/-- What is added to the log: an endpoint is handed over if the outcome is one. -/
theorem runPosted_log (outcome : Option NodeEndpoints) (attempt : Int) (d : Discovering) :
    exists actions,
      (runPosted maxDiscoverAttempts outcome attempt d).log = d.log ++ actions ∧
        forall endpoint, Action.callback none endpoint ∈ actions ->
          exists endpoints, outcome = some endpoints ∧ endpoint = endpoints.1 := by
  unfold runPosted doDiscoverNodeEndpoints
  by_cases hleft : attempt ≤ maxDiscoverAttempts
  · simp only [if_pos hleft]
    cases outcome with
    | none =>
        refine ⟨_, List.append_assoc _ _ _, fun endpoint h => ?_⟩
        simp at h
    | some endpoints =>
        refine ⟨_, rfl, fun endpoint h => ⟨endpoints, rfl, ?_⟩⟩
        simpa using h
  · simp only [if_neg hleft]
    refine ⟨_, rfl, fun endpoint h => ?_⟩
    simp at h

theorem runPosted_found {attempt : Int} (hleft : attempt ≤ maxDiscoverAttempts)
    (endpoints : NodeEndpoints) (d : Discovering) :
    runPosted maxDiscoverAttempts (some endpoints) attempt d =
      { next := none
        log := d.log ++ [Action.discoverEndpoints (some endpoints),
          Action.callback none endpoints.1] } := by
  simp only [runPosted, doDiscoverNodeEndpoints, if_pos hleft]

theorem Searching.posted {s : ServiceState}
    (h : Searching lib uuidText env settings s) {attempt : Int} {outcome : Option NodeEndpoints}
    {service : ClusterDiscoveryService} (hsettings : service.settings = settings)
    (hforgotten : (runPosted maxDiscoverAttempts outcome attempt s.chain).next ≠ none ->
      service.oldGossip = [])
    (hfound : forall endpoints, outcome = some endpoints ->
      Found lib uuidText env settings endpoints) :
    Searching lib uuidText env settings
      { s with
        service := service
        chain := runPosted maxDiscoverAttempts outcome attempt s.chain } := by
  rcases @runPosted_log maxDiscoverAttempts outcome attempt s.chain with
    ⟨actions, hlog, hactions⟩
  constructor
  · exact h.no_fault
  · exact hsettings
  · exact hforgotten
  · intro endpoint hendpoint
    rw [hlog] at hendpoint
    rcases List.mem_append.mp hendpoint with hold | hnew
    · exact h.found endpoint hold
    · rcases hactions endpoint hnew with ⟨endpoints, houtcome, heq⟩
      exact ⟨endpoints, hfound endpoints houtcome, heq⟩

theorem runAttempt_searching
    (hspeaks : forall seed, IsCandidate settings seed -> forall exchange,
      env.answers seed exchange -> Speaks lib uuidText settings.nodePreference exchange)
    {s : ServiceState} (h : Searching lib uuidText env settings s)
    {attempt : Int} (hnext : s.chain.next = some (Link.posted attempt)) {call : Call}
    (hpossible : call.Possible env) :
    Searching lib uuidText env settings
      (runAttempt lib maxDiscoverAttempts attempt call s) := by
  have hforgotten : s.service.oldGossip = [] := by
    refine h.forgotten ?_
    rw [hnext]
    exact Option.some_ne_none _
  have hsettings := h.settings_eq
  unfold runAttempt
  by_cases hleft : attempt ≤ maxDiscoverAttempts
  · rw [if_pos hleft]
    subst hsettings
    rcases discoverEndpoints_speaks hforgotten hspeaks hpossible with
      ⟨hnone, _⟩ | ⟨endpoints, members, hendpoints, hfound⟩
    · simp only [hnone]
      exact h.posted rfl (fun _ => hforgotten) (fun _ heq => by cases heq)
    · simp only [hendpoints]
      refine h.posted rfl (fun hgoesOn => ?_) (fun _ heq => ?_)
      · rw [runPosted_found hleft] at hgoesOn
        exact absurd rfl hgoesOn
      · cases heq
        exact hfound
  · rw [if_neg hleft]
    exact h.posted hsettings (fun _ => hforgotten) (fun _ heq => by cases heq)

theorem discoveryStep_timer {d next : Discovering} {ec : ErrorCode}
    (hstep : discoveryStep maxDiscoverAttempts d (.timer ec) = some next) :
    exists attempt, d.next = some (Link.waiting attempt) ∧
      next = performDiscovery attempt d := by
  unfold discoveryStep at hstep
  cases hnext : d.next with
  | none =>
      rw [hnext] at hstep
      cases hstep
  | some link =>
      rw [hnext] at hstep
      cases link with
      | posted attempt => cases hstep
      | waiting attempt =>
          cases hstep
          exact ⟨attempt, rfl, rfl⟩

theorem serviceStep_searching
    (hspeaks : forall seed, IsCandidate settings seed -> forall exchange,
      env.answers seed exchange -> Speaks lib uuidText settings.nodePreference exchange)
    {s next : ServiceState} (h : Searching lib uuidText env settings s)
    {i : ServiceInput} (hpossible : i.Possible env)
    (hstep : serviceStep lib maxDiscoverAttempts s i = some next) :
    Searching lib uuidText env settings next := by
  cases i with
  | closure call =>
      rw [serviceStep] at hstep
      split at hstep
      · rename_i attempt hnext
        cases hstep
        exact runAttempt_searching hspeaks h hnext hpossible
      · cases hstep
  | timer ec =>
      rcases Option.map_eq_some_iff.mp hstep with ⟨chain, hchain, rfl⟩
      rcases discoveryStep_timer hchain with ⟨attempt, hnext, rfl⟩
      have hgoesOn : s.chain.next ≠ none := by
        rw [hnext]
        exact Option.some_ne_none _
      constructor
      · exact h.no_fault
      · exact h.settings_eq
      · exact fun _ => h.forgotten hgoesOn
      · exact h.found

theorem run_searching
    {service : ClusterDiscoveryService} (hforgotten : service.oldGossip = [])
    (hspeaks : forall seed, IsCandidate service.settings seed -> forall exchange,
      env.answers seed exchange ->
        Speaks lib uuidText service.settings.nodePreference exchange)
    {inputs : List ServiceInput} (hpossible : forall i, i ∈ inputs -> i.Possible env)
    {s : ServiceState}
    (hrun : run (serviceStep lib maxDiscoverAttempts) (startDiscovery service) inputs =
      some s) :
    Searching lib uuidText env service.settings s := by
  have hok : EveryStep (serviceStep lib maxDiscoverAttempts)
      (fun _ i => ServiceInput.Possible env i) (startDiscovery service) inputs :=
    everyStep_of_forall hpossible _
  exact run_invariant
    (fun h hpossible hstep => serviceStep_searching hspeaks h hpossible hstep)
    (start_searching hforgotten) hok hrun

theorem runPosted_usedUp {attempt : Int} (hused : ¬ attempt ≤ maxDiscoverAttempts)
    (outcome : Option NodeEndpoints) (d : Discovering) :
    runPosted maxDiscoverAttempts outcome attempt d =
      runPosted maxDiscoverAttempts none attempt d := by
  simp only [runPosted, doDiscoverNodeEndpoints, if_neg hused]

theorem runPosted_usedUp_next {attempt : Int} (hused : ¬ attempt ≤ maxDiscoverAttempts)
    (outcome : Option NodeEndpoints) (d : Discovering) :
    (runPosted maxDiscoverAttempts outcome attempt d).next = none := by
  simp only [runPosted, doDiscoverNodeEndpoints, if_neg hused]

theorem run_nil_of_stopped {s last : ServiceState} (hstopped : s.chain.next = none)
    {inputs : List ServiceInput}
    (hrun : run (serviceStep lib maxDiscoverAttempts) s inputs = some last) :
    inputs = [] ∧ last = s := by
  cases inputs with
  | nil => exact ⟨rfl, (Option.some.inj hrun).symm⟩
  | cons i rest =>
      rcases run_cons hrun with ⟨next, hstep, _⟩
      cases i with
      | closure call => simp [serviceStep, hstopped] at hstep
      | timer ec => simp [serviceStep, discoveryStep, hstopped] at hstep

/-- The chain of a run of the service is one of the chain alone, with what the calls of
`discover_endpoints` come to. -/
theorem run_chain
    (hspeaks : forall seed, IsCandidate settings seed -> forall exchange,
      env.answers seed exchange -> Speaks lib uuidText settings.nodePreference exchange)
    {s last : ServiceState} (h : Searching lib uuidText env settings s)
    {inputs : List ServiceInput} (hpossible : forall i, i ∈ inputs -> i.Possible env)
    (hrun : run (serviceStep lib maxDiscoverAttempts) s inputs = some last) :
    run (discoveryStep maxDiscoverAttempts) s.chain (chainInputs lib s.service inputs) =
      some last.chain := by
  induction inputs generalizing s with
  | nil =>
      cases hrun
      rfl
  | cons i rest ih =>
      rcases run_cons hrun with ⟨next, hstep, hrest⟩
      rw [List.forall_mem_cons] at hpossible
      have hnext := serviceStep_searching hspeaks h hpossible.left hstep
      cases i with
      | timer ec =>
          rcases Option.map_eq_some_iff.mp hstep with ⟨chain, hchain, rfl⟩
          rw [chainInputs, run, hchain]
          exact ih hnext hpossible.right hrest
      | closure call =>
          rw [serviceStep] at hstep
          split at hstep
          · rename_i attempt hposted
            cases hstep
            have hforgotten : s.service.oldGossip = [] := by
              refine h.forgotten ?_
              rw [hposted]
              exact Option.some_ne_none _
            have hsettings := h.settings_eq
            subst hsettings
            have hcall : exists outcome service,
                discoverEndpoints lib call s.service = .ok (outcome, service) := by
              rcases discoverEndpoints_speaks hforgotten hspeaks hpossible.left with
                ⟨hnone, _⟩ | ⟨endpoints, members, hendpoints, _⟩
              · exact ⟨_, _, hnone⟩
              · exact ⟨_, _, hendpoints⟩
            rcases hcall with ⟨outcome, service, hcall⟩
            have hchain : discoveryStep maxDiscoverAttempts s.chain (.closure outcome) =
                some (runPosted maxDiscoverAttempts outcome attempt s.chain) := by
              simp only [discoveryStep, hposted]
            have hinputs : chainInputs lib s.service (.closure call :: rest) =
                .closure outcome :: chainInputs lib service rest := by
              rw [chainInputs, hcall]
            rw [hinputs, run, hchain]
            by_cases hleft : attempt ≤ maxDiscoverAttempts
            · rw [runAttempt, if_pos hleft] at hnext hrest
              simp only [hcall] at hnext hrest
              exact ih hnext hpossible.right hrest
            · -- the last closure makes no call, and nothing comes after it
              rw [runAttempt, if_neg hleft] at hrest
              rcases run_nil_of_stopped (runPosted_usedUp_next hleft none s.chain) hrest with
                ⟨rfl, rfl⟩
              rw [runPosted_usedUp hleft]
              rfl
          · cases hstep

theorem run_reached {service : ClusterDiscoveryService} (hforgotten : service.oldGossip = [])
    (hspeaks : forall seed, IsCandidate service.settings seed -> forall exchange,
      env.answers seed exchange ->
        Speaks lib uuidText service.settings.nodePreference exchange)
    (hreachable : Reachable lib uuidText env service.settings)
    (hpositive : 1 ≤ maxDiscoverAttempts) {i : ServiceInput} {rest : List ServiceInput}
    (hpossible : i.Possible env) {s : ServiceState}
    (hrun : run (serviceStep lib maxDiscoverAttempts) (startDiscovery service) (i :: rest) =
      some s) :
    exists endpoints, Found lib uuidText env service.settings endpoints ∧
      s.chain.log = [Action.discoverEndpoints (some endpoints),
        Action.callback none endpoints.1] := by
  rcases run_cons hrun with ⟨next, hstep, hrest⟩
  cases i with
  | timer ec => cases hstep
  | closure call =>
      rcases discoverEndpoints_speaks hforgotten hspeaks hpossible with
        ⟨_, hunreachable⟩ | ⟨endpoints, members, hendpoints, hfound⟩
      · exact absurd hreachable hunreachable
      · have hnext : next.chain =
            { next := none
              log := [Action.discoverEndpoints (some endpoints),
                Action.callback none endpoints.1] } := by
          have hattempt : runAttempt lib maxDiscoverAttempts 1 call (startDiscovery service) =
              next := Option.some.inj hstep
          rw [← hattempt, runAttempt, if_pos hpositive]
          simp only [startDiscovery, hendpoints]
          exact runPosted_found hpositive endpoints asyncDiscoverNodeEndpoints
        refine ⟨endpoints, hfound, ?_⟩
        have hstopped : next.chain.next = none := by
          rw [hnext]
        rw [(run_nil_of_stopped hstopped hrest).right, hnext]

/-- In a cluster whose nodes write their gossip with `to_json`, nothing is thrown, and the
discovery ends with one call of its callback: with an endpoint of a right member that one of
the candidates has told of, in the first attempt if one of them always can, and otherwise
with the error. -/
theorem run_discovered (hmax : maxDiscoverAttempts < 0x7FFFFFFF)
    {service : ClusterDiscoveryService} (hforgotten : service.oldGossip = [])
    (hspeaks : forall seed, IsCandidate service.settings seed -> forall exchange,
      env.answers seed exchange ->
        Speaks lib uuidText service.settings.nodePreference exchange)
    {inputs : List ServiceInput} (hpossible : forall i, i ∈ inputs -> i.Possible env)
    {s : ServiceState}
    (hrun : run (serviceStep lib maxDiscoverAttempts) (startDiscovery service) inputs =
      some s) :
    Discovered lib uuidText env service maxDiscoverAttempts inputs s := by
  have h := run_searching hforgotten hspeaks hpossible hrun
  have hchain := run_chain hspeaks (start_searching hforgotten) hpossible hrun
  constructor
  · exact (attempting_run hmax attempting_start hchain).left.answersOnce
  · exact h.no_fault
  · exact h.found
  · intro hreachable hpositive
    cases inputs with
    | nil => exact Or.inl rfl
    | cons i rest =>
        exact Or.inr (run_reached hforgotten hspeaks hreachable hpositive
          (hpossible i List.mem_cons_self) hrun)

end Service

/-!
Two seeds, of which one is down and the other one tells of itself.
-/

def closedSeed : GossipSeed :=
  { endpoint := { address := 0x7F000001, port := 5115 }, hostHeader := "" }

def slaveCluster : ClusterInfo := { members := [slaveMember] }

def closedAnswers : Environment :=
  { answers := fun seed exchange =>
      exchange = if seed = slaveSeed then .response 200 slaveGossip else .notConnected
    answered := fun _ => ⟨_, rfl⟩ }

def closedCall : Call :=
  { resolved := none
    shuffle := default
    answer := fun _ seed => if seed = slaveSeed then .response 200 slaveGossip else .notConnected
    outcome := fun _ _ => default }

theorem slaveJson_eq : slaveJson = slaveCluster.toJson slaveUuidText := rfl

theorem slaveMember_recovers : slaveMember.Recovers slaveLibrary slaveUuidText :=
  ⟨rfl, rfl⟩

theorem slaveLibrary_parse : slaveLibrary.parse slaveGossip = some slaveJson := by
  simp [slaveLibrary]

theorem slaveCluster_told :
    Tells slaveLibrary slaveUuidText slaveCluster (.response 200 slaveGossip) where
  answer := by
    refine ⟨slaveGossip, slaveJson, rfl, slaveLibrary_parse, ?_⟩
    rw [slaveJson_eq]
    exact dumps_toJson slaveUuidText slaveCluster
  members := by
    intro m hm
    rw [List.mem_singleton.mp hm]
    exact ⟨⟨by decide, by decide⟩, slaveMember_recovers⟩

theorem slaveCluster_selectable : Selectable slaveLibrary .master slaveCluster.members := by
  refine selectable_of_oneUnusable (by decide) ⟨slaveMember, by decide, by decide⟩ ?_ ?_
  · intro m hm _
    rw [List.mem_singleton.mp hm]
    exact ⟨_, slave_endpoints⟩
  · intro hslave
    cases hslave

theorem closedAnswers_speaks {seed : GossipSeed} {exchange : Exchange}
    (hanswers : closedAnswers.answers seed exchange) :
    Speaks slaveLibrary slaveUuidText .master exchange := by
  have hexchange : exchange =
      if seed = slaveSeed then .response 200 slaveGossip else .notConnected := hanswers
  by_cases hseed : seed = slaveSeed
  · rw [hexchange, if_pos hseed]
    exact Speaks.gossip slaveCluster_told (Or.inr slaveCluster_selectable)
  · rw [hexchange, if_neg hseed]
    exact Speaks.silent fun _ h => by cases h

theorem slaveCluster_discovered :
    Discovered slaveLibrary slaveUuidText closedAnswers
      (serviceFor [closedSeed, slaveSeed] []) 3 [.closure closedCall]
      (runAttempt slaveLibrary 3 1 closedCall
        (startDiscovery (serviceFor [closedSeed, slaveSeed] []))) := by
  refine run_discovered (by decide) rfl (fun _ _ _ hanswers => closedAnswers_speaks hanswers)
    (fun i hi => ?_) rfl
  rw [List.mem_singleton.mp hi]
  exact fun _ _ => rfl

end Cluster
end EventStoreClient
