import EventStoreClient.Cluster.BestNode
import EventStoreClient.Error
import EventStoreClient.Foundation.Runs

/-!
# Repeated attempts

`async_discover_node_endpoints`: a chain of posted closures and timer waits that calls
`discover_endpoints` until it finds an endpoint or the attempts are used up.
-/

namespace EventStoreClient
namespace Cluster

open Foundation

/-!
# The chain

`perform_discovery` posts a closure, `runPosted`, which makes one attempt and then either
answers or waits for the next one.  An overflow of an `int` is taken to wrap around.
-/

inductive Action where
  | discoverEndpoints (outcome : Option NodeEndpoints)
  | asyncWait
  | callback (ec : ErrorCode) (endpoint : Endpoint)
  deriving DecidableEq

/-- The closure or the timer completion that goes on with an attempt. -/
inductive Link where
  | posted (attempt : Int)
  | waiting (attempt : Int)
  deriving DecidableEq

structure Discovering where
  next : Option Link
  log : List Action
  deriving DecidableEq

def wrapInt (n : Int) : Int := n.bmod 0x100000000

/-- `do_discover_node_endpoints`: what it does, and whether the chain is done. -/
def doDiscoverNodeEndpoints (maxDiscoverAttempts : Int) (outcome : Option NodeEndpoints)
    (attempt : Int) : List Action × Bool :=
  if attempt ≤ maxDiscoverAttempts then
    match outcome with
    | some endpoints =>
        ([Action.discoverEndpoints outcome, Action.callback none endpoints.1], true)
    | none => ([Action.discoverEndpoints outcome], false)
  else
    ([Action.callback (some (Error.connection .endpointDiscovery))
      { address := 0, port := 0 }], true)

def performDiscovery (attempt : Int) (d : Discovering) : Discovering :=
  { d with next := some (Link.posted attempt) }

def runPosted (maxDiscoverAttempts : Int) (outcome : Option NodeEndpoints) (attempt : Int)
    (d : Discovering) : Discovering :=
  match doDiscoverNodeEndpoints maxDiscoverAttempts outcome attempt with
  | (actions, true) => { next := none, log := d.log ++ actions }
  | (actions, false) =>
      { next := some (Link.waiting (wrapInt (attempt + 1)))
        log := d.log ++ actions ++ [Action.asyncWait] }

/-- What the event loop runs: the posted closure, with the outcome of the call of
`discover_endpoints` if it comes to one, or the completion of the timer. -/
inductive DiscoveryInput where
  | closure (outcome : Option NodeEndpoints)
  | timer (ec : ErrorCode)
  deriving DecidableEq

def discoveryStep (maxDiscoverAttempts : Int) (d : Discovering) (i : DiscoveryInput) :
    Option Discovering :=
  match d.next, i with
  | some (Link.posted attempt), .closure outcome =>
      some (runPosted maxDiscoverAttempts outcome attempt d)
  -- the error code is not looked at
  | some (Link.waiting attempt), .timer _ => some (performDiscovery attempt d)
  | _, _ => none

def asyncDiscoverNodeEndpoints : Discovering :=
  performDiscovery 1 { next := none, log := [] }

/-!
# The answer

A failed attempt adds the wait behind it.  A run is no longer than the links that are
left.
-/

def failedAttempts (n : Nat) : List Action :=
  (List.replicate n [Action.discoverEndpoints none, Action.asyncWait]).flatten

/-- The outcomes that the calls of `discover_endpoints` would have in the closures, in the
order in which these run. -/
def outcomes (inputs : List DiscoveryInput) : List (Option NodeEndpoints) :=
  inputs.filterMap fun
    | .closure outcome => some outcome
    | .timer _ => none

/-- All that a chain has done in the end, by the outcomes it has met: the first endpoint found
is handed to the callback, or the error once the attempts are used up.  The closure that hands
over the error makes no call, and its outcome goes unused. -/
inductive Answered (maxDiscoverAttempts : Int) :
    List (Option NodeEndpoints) -> List Action -> Prop where
  | found {k : Nat} (endpoints : NodeEndpoints) (hk : k + 1 ≤ maxDiscoverAttempts) :
      Answered maxDiscoverAttempts (List.replicate k none ++ [some endpoints])
        (failedAttempts k ++
          [Action.discoverEndpoints (some endpoints), Action.callback none endpoints.1])
  | notFound (unused : Option NodeEndpoints) :
      Answered maxDiscoverAttempts
        (List.replicate maxDiscoverAttempts.toNat none ++ [unused])
        (failedAttempts maxDiscoverAttempts.toNat ++
          [Action.callback (some (Error.connection .endpointDiscovery))
            { address := 0, port := 0 }])

theorem outcomes_cons (i : DiscoveryInput) (rest : List DiscoveryInput) :
    outcomes (i :: rest) = outcomes [i] ++ outcomes rest :=
  List.filterMap_append (l := [i])

theorem failedAttempts_succ (n : Nat) :
    failedAttempts (n + 1) =
      failedAttempts n ++ [Action.discoverEndpoints none, Action.asyncWait] := by
  simp [failedAttempts, List.replicate_succ']

theorem wrapInt_of_lt {n : Int} (hlow : 0 ≤ n) (hhigh : n < 0x80000000) : wrapInt n = n :=
  Int.bmod_eq_of_le (by omega) (by omega)

/-- The attempts so far, which have found nothing, and the next one, or the answer. -/
inductive Attempting (maxDiscoverAttempts : Int) :
    List (Option NodeEndpoints) -> Discovering -> Prop where
  | posted {k : Nat} (hk : k ≤ maxDiscoverAttempts.toNat) :
      Attempting maxDiscoverAttempts (List.replicate k none)
        { next := some (Link.posted (k + 1)), log := failedAttempts k }
  | waiting {k : Nat} (hk : k + 1 ≤ maxDiscoverAttempts.toNat) :
      Attempting maxDiscoverAttempts (List.replicate (k + 1) none)
        { next := some (Link.waiting (k + 2)), log := failedAttempts (k + 1) }
  | answered {met : List (Option NodeEndpoints)} {log : List Action}
      (h : Answered maxDiscoverAttempts met log) :
      Attempting maxDiscoverAttempts met { next := none, log := log }

def linksLeft (maxDiscoverAttempts : Int) : Option Link -> Nat
  | some (Link.posted attempt) => 2 * (maxDiscoverAttempts.toNat + 1 - attempt.toNat) + 1
  | some (Link.waiting attempt) => 2 * (maxDiscoverAttempts.toNat + 1 - attempt.toNat) + 2
  | none => 0

section Chain

variable {maxDiscoverAttempts : Int} {d next : Discovering} {i : DiscoveryInput}
  {met : List (Option NodeEndpoints)}

theorem attempting_start : Attempting maxDiscoverAttempts [] asyncDiscoverNodeEndpoints :=
  Attempting.posted (k := 0) (Nat.zero_le _)

/-- The posted closure ends the chain with the answer, or has made one more attempt in
vain. -/
theorem runPosted_cases {k : Nat} (hmax : maxDiscoverAttempts < 0x7FFFFFFF)
    (hk : k ≤ maxDiscoverAttempts.toNat) (outcome : Option NodeEndpoints) (link : Option Link) :
    (exists log, runPosted maxDiscoverAttempts outcome (k + 1)
        { next := link, log := failedAttempts k } = { next := none, log := log } ∧
      Answered maxDiscoverAttempts (List.replicate k none ++ [outcome]) log) ∨
    (k + 1 ≤ maxDiscoverAttempts.toNat ∧ outcome = none ∧
      runPosted maxDiscoverAttempts outcome (k + 1)
        { next := link, log := failedAttempts k } =
      { next := some (Link.waiting (k + 2)), log := failedAttempts (k + 1) }) := by
  by_cases hleft : (k : Int) + 1 ≤ maxDiscoverAttempts
  · cases outcome with
    | some endpoints =>
        left
        simp only [runPosted, doDiscoverNodeEndpoints, if_pos hleft]
        exact ⟨_, rfl, Answered.found endpoints hleft⟩
    | none =>
        right
        have hwrap : wrapInt ((k : Int) + 1 + 1) = k + 2 := by
          rw [wrapInt_of_lt (by omega) (by omega)]
          omega
        refine ⟨by omega, rfl, ?_⟩
        simp only [runPosted, doDiscoverNodeEndpoints, if_pos hleft, hwrap]
        rw [List.append_assoc, List.singleton_append, <- failedAttempts_succ]
  · left
    have hlast : k = maxDiscoverAttempts.toNat := by
      omega
    simp only [runPosted, doDiscoverNodeEndpoints, if_neg hleft]
    rw [hlast]
    exact ⟨_, rfl, Answered.notFound outcome⟩

/-- One link of the chain: an attempt, a wait, or the answer.  It leaves fewer links. -/
theorem attempting_step (hmax : maxDiscoverAttempts < 0x7FFFFFFF)
    (hd : Attempting maxDiscoverAttempts met d)
    (hstep : discoveryStep maxDiscoverAttempts d i = some next) :
    Attempting maxDiscoverAttempts (met ++ outcomes [i]) next ∧
      linksLeft maxDiscoverAttempts next.next < linksLeft maxDiscoverAttempts d.next := by
  cases hd with
  | @posted k hk =>
      cases i with
      | closure outcome =>
          cases hstep
          rcases runPosted_cases hmax hk outcome (some (Link.posted (k + 1))) with
            ⟨log, heq, hanswered⟩ | ⟨hleft, rfl, heq⟩
          · rw [heq]
            exact ⟨Attempting.answered hanswered, Nat.succ_pos _⟩
          · rw [heq]
            have hmet : List.replicate k none ++ outcomes [.closure none] =
                List.replicate (k + 1) none := List.replicate_succ'.symm
            rw [hmet]
            refine ⟨Attempting.waiting hleft, ?_⟩
            simp only [linksLeft]
            omega
      | timer ec => cases hstep
  | @waiting k hk =>
      cases i with
      | closure outcome => cases hstep
      | timer ec =>
          cases hstep
          have hattempt : ((k : Int) + 2) = ((k + 1 : Nat) : Int) + 1 := by
            omega
          have hmet : List.replicate (k + 1) none ++ outcomes [.timer ec] =
              List.replicate (k + 1) none := List.append_nil _
          rw [hmet]
          simp only [performDiscovery, hattempt, linksLeft]
          exact ⟨Attempting.posted hk, Nat.lt_succ_self _⟩
  | answered h => cases hstep

theorem attempting_run (hmax : maxDiscoverAttempts < 0x7FFFFFFF)
    {inputs : List DiscoveryInput} (hd : Attempting maxDiscoverAttempts met d)
    (hrun : run (discoveryStep maxDiscoverAttempts) d inputs = some next) :
    Attempting maxDiscoverAttempts (met ++ outcomes inputs) next ∧
      inputs.length ≤ linksLeft maxDiscoverAttempts d.next := by
  induction inputs generalizing d met with
  | nil =>
      cases hrun
      have hmet : met ++ outcomes [] = met := List.append_nil met
      rw [hmet]
      exact ⟨hd, Nat.zero_le _⟩
  | cons i rest ih =>
      rcases run_cons hrun with ⟨mid, hstep, hrest⟩
      rcases attempting_step hmax hd hstep with ⟨hmid, hless⟩
      rcases ih hmid hrest with ⟨hnext, hlength⟩
      rw [outcomes_cons, ← List.append_assoc]
      refine ⟨hnext, ?_⟩
      rw [List.length_cons]
      omega

/-- The chain has given its answer to the outcomes it has met and stopped, or all of them
were attempts in vain and it goes on, whatever comes of the next attempt or of the wait. -/
inductive AnswersOnce (maxDiscoverAttempts : Int) (met : List (Option NodeEndpoints))
    (d : Discovering) : Prop where
  | answered (hanswered : Answered maxDiscoverAttempts met d.log)
      (hstopped : forall i, discoveryStep maxDiscoverAttempts d i = none)
  | attempting {k : Nat} (hk : k ≤ maxDiscoverAttempts.toNat)
      (hmet : met = List.replicate k none) (hlog : d.log = failedAttempts k)
      (hgoesOn : (forall outcome,
          (discoveryStep maxDiscoverAttempts d (.closure outcome)).isSome) ∨
        (forall ec, (discoveryStep maxDiscoverAttempts d (.timer ec)).isSome))

theorem Attempting.answersOnce (hd : Attempting maxDiscoverAttempts met d) :
    AnswersOnce maxDiscoverAttempts met d := by
  cases hd with
  | posted hk => exact AnswersOnce.attempting hk rfl rfl (Or.inl fun _ => rfl)
  | waiting hk => exact AnswersOnce.attempting hk rfl rfl (Or.inr fun _ => rfl)
  | answered h => exact AnswersOnce.answered h fun _ => rfl

end Chain

/-- Whatever the attempts and the waits come to, the chain ends, and its callback is called
once, as the last thing it does: with the first endpoint among the outcomes of the run, or
with the error behind as many outcomes without one as there are attempts. -/
theorem asyncDiscoverNodeEndpoints_answersOnce {maxDiscoverAttempts : Int}
    (hmax : maxDiscoverAttempts < 0x7FFFFFFF) {inputs : List DiscoveryInput}
    {d : Discovering}
    (hrun : run (discoveryStep maxDiscoverAttempts) asyncDiscoverNodeEndpoints inputs =
      some d) :
    AnswersOnce maxDiscoverAttempts (outcomes inputs) d ∧
      inputs.length ≤ 2 * maxDiscoverAttempts.toNat + 1 := by
  rcases attempting_run hmax attempting_start hrun with ⟨hd, hlength⟩
  refine ⟨hd.answersOnce, Nat.le_trans hlength (Nat.le_of_eq ?_)⟩
  simp only [asyncDiscoverNodeEndpoints, performDiscovery, linksLeft]
  omega

/-- The first attempt finds nothing, and the second one finds this endpoint. -/
def secondEndpoint : Endpoint := { address := 0x7F000001, port := 1113 }

def secondAttempt : List DiscoveryInput :=
  [.closure none, .timer none, .closure (some (secondEndpoint, secondEndpoint))]

theorem secondAttempt_answersOnce :
    exists d,
      run (discoveryStep 3) asyncDiscoverNodeEndpoints secondAttempt = some d ∧
        AnswersOnce 3 [none, some (secondEndpoint, secondEndpoint)] d ∧
          d.log = [Action.discoverEndpoints none, Action.asyncWait,
            Action.discoverEndpoints (some (secondEndpoint, secondEndpoint)),
            Action.callback none secondEndpoint] := by
  have hrun : run (discoveryStep 3) asyncDiscoverNodeEndpoints secondAttempt =
      some
        { next := none
          log := [Action.discoverEndpoints none, Action.asyncWait,
            Action.discoverEndpoints (some (secondEndpoint, secondEndpoint)),
            Action.callback none secondEndpoint] } := by
    decide +kernel
  exact ⟨_, hrun, (asyncDiscoverNodeEndpoints_answersOnce (by decide) hrun).left, rfl⟩

end Cluster
end EventStoreClient
