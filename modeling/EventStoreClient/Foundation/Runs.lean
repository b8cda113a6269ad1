/-!
# Runs of a partial step

A system is given by what one input does to its state.  An input that is not possible
in a state does nothing at all, and a run is a list of inputs each of which was
possible when it came.
-/

namespace EventStoreClient
namespace Foundation

variable {state input : Type}

def run (step : state -> input -> Option state) : state -> List input -> Option state
  | s, [] => some s
  | s, i :: rest =>
      match step s i with
      | none => none
      | some next => run step next rest

def EveryStep (step : state -> input -> Option state) (ok : state -> input -> Prop) :
    state -> List input -> Prop
  | _, [] => True
  | s, i :: rest =>
      ok s i ∧
        match step s i with
        | none => True
        | some next => EveryStep step ok next rest

variable {step : state -> input -> Option state} {ok : state -> input -> Prop}

instance decidableEveryStep [forall s i, Decidable (ok s i)] (s : state)
    (inputs : List input) : Decidable (EveryStep step ok s inputs) :=
  match inputs with
  | [] => inferInstanceAs (Decidable True)
  | i :: rest =>
      have : Decidable
          (match step s i with
          | none => True
          | some next => EveryStep step ok next rest) :=
        match step s i with
        | none => inferInstanceAs (Decidable True)
        | some next => decidableEveryStep next rest
      inferInstanceAs (Decidable (_ ∧ _))

theorem run_cons {s : state} {i : input} {rest : List input} {last : state}
    (h : run step s (i :: rest) = some last) :
    exists next, step s i = some next ∧ run step next rest = some last := by
  unfold run at h
  cases hstep : step s i with
  | none =>
      rw [hstep] at h
      cases h
  | some next =>
      rw [hstep] at h
      exact ⟨next, rfl, h⟩

theorem run_append {s mid last : state} {first second : List input}
    (hfirst : run step s first = some mid) (hsecond : run step mid second = some last) :
    run step s (first ++ second) = some last := by
  induction first generalizing s with
  | nil =>
      cases hfirst
      exact hsecond
  | cons i first ih =>
      rcases run_cons hfirst with ⟨next, hstep, hrest⟩
      rw [List.cons_append, run, hstep]
      exact ih hrest

theorem run_invariant {inv : state -> Prop}
    (hpreserves : forall {s : state} {i : input} {next : state},
      inv s -> ok s i -> step s i = some next -> inv next)
    {s last : state} {inputs : List input} (hinv : inv s)
    (hok : EveryStep step ok s inputs) (hrun : run step s inputs = some last) :
    inv last := by
  induction inputs generalizing s with
  | nil =>
      cases hrun
      exact hinv
  | cons i rest ih =>
      rcases run_cons hrun with ⟨next, hstep, hrest⟩
      rcases hok with ⟨hfirst, hlater⟩
      rw [hstep] at hlater
      exact ih (hpreserves hinv hfirst hstep) hlater hrest

theorem everyStep_of_forall {good : input -> Prop} {inputs : List input}
    (h : forall i, i ∈ inputs -> good i) (s : state) :
    EveryStep step (fun _ i => good i) s inputs := by
  induction inputs generalizing s with
  | nil => trivial
  | cons i rest ih =>
      constructor
      · exact h i List.mem_cons_self
      · cases hstep : step s i with
        | none => trivial
        | some next => exact ih (fun i' hi' => h i' (List.mem_cons_of_mem i hi')) next

theorem everyStep_true (s : state) (inputs : List input) :
    EveryStep step (fun _ _ => True) s inputs :=
  everyStep_of_forall (fun _ _ => trivial) s

theorem run_preserves {inv : state -> Prop}
    (hpreserves : forall {s : state} {i : input} {next : state},
      inv s -> step s i = some next -> inv next)
    {s last : state} {inputs : List input} (hinv : inv s)
    (hrun : run step s inputs = some last) : inv last :=
  run_invariant (fun hs _ hstep => hpreserves hs hstep) hinv
    (everyStep_true s inputs) hrun

/-- A condition on steps that follows from another one wherever an invariant holds follows
on runs. -/
theorem everyStep_imp (inv : state -> Prop) {ok' : state -> input -> Prop}
    (hpreserves : forall {s : state} {i : input} {next : state},
      inv s -> ok s i -> step s i = some next -> inv next)
    (himp : forall {s : state} {i : input}, inv s -> ok s i -> ok' s i)
    {s : state} {inputs : List input} (hinv : inv s) (hok : EveryStep step ok s inputs) :
    EveryStep step ok' s inputs := by
  induction inputs generalizing s with
  | nil => trivial
  | cons i rest ih =>
      rcases hok with ⟨hfirst, hlater⟩
      refine ⟨himp hinv hfirst, ?_⟩
      cases hstep : step s i with
      | none => trivial
      | some next =>
          rw [hstep] at hlater
          exact ih (hpreserves hinv hfirst hstep) hlater

/-- Two conditions on steps that agree wherever an invariant holds agree on runs. -/
theorem everyStep_congr {inv : state -> Prop} {ok' : state -> input -> Prop}
    (hpreserves : forall {s : state} {i : input} {next : state},
      inv s -> ok' s i -> step s i = some next -> inv next)
    (hiff : forall {s : state} (i : input), inv s -> (ok s i <-> ok' s i))
    {s : state} (hinv : inv s) (inputs : List input) :
    EveryStep step ok s inputs <-> EveryStep step ok' s inputs := by
  constructor
  · apply everyStep_imp inv ?_ (fun hs hok => (hiff _ hs).mp hok) hinv
    exact fun hs hok hstep => hpreserves hs ((hiff _ hs).mp hok) hstep
  · exact everyStep_imp inv hpreserves (fun hs hok => (hiff _ hs).mpr hok) hinv

theorem EveryStep.last {s next : state} {i : input} {inputs : List input}
    (h : EveryStep step ok s (inputs ++ [i])) (hrun : run step s inputs = some next) :
    ok next i := by
  induction inputs generalizing s with
  | nil =>
      cases hrun
      exact h.left
  | cons i' rest ih =>
      rcases run_cons hrun with ⟨mid, hstep, hrest⟩
      have hlater := h.right
      simp only [List.append_eq, hstep] at hlater
      exact ih hlater hrest

/-- A run goes on for as long as one likes if every step of it makes the next one possible.
The invariant may count the steps. -/
theorem run_replicate {inv : Nat -> state -> Prop} {i : input}
    (hprogress : forall {k : Nat} {s : state}, inv k s ->
      exists next, step s i = some next ∧ inv (k + 1) next)
    {k : Nat} {s : state} (hinv : inv k s) (n : Nat) :
    exists last, run step s (List.replicate n i) = some last ∧ inv (k + n) last := by
  induction n generalizing k s with
  | zero => exact ⟨s, rfl, hinv⟩
  | succ n ih =>
      rcases hprogress hinv with ⟨next, hstep, hnext⟩
      rcases ih hnext with ⟨last, hlast, hinv'⟩
      refine ⟨last, ?_, ?_⟩
      · rw [List.replicate_succ, run, hstep]
        exact hlast
      · rwa [Nat.add_comm n 1, ← Nat.add_assoc]

/-!
# Two systems side by side

Two systems whose steps are possible together, and then keep a relation between their
states, run together.
-/

theorem rel_imp {alpha beta : Type} {r r' : alpha -> beta -> Prop} {a : Option alpha}
    {b : Option beta} (h : Option.Rel r a b) (himp : forall a b, r a b -> r' a b) :
    Option.Rel r' a b := by
  cases h with
  | none => exact Option.Rel.none
  | some hr => exact Option.Rel.some (himp _ _ hr)

/-- Two systems whose steps are possible together, and then keep a relation between
their states, run together. -/
theorem run_rel {other : Type} {step' : other -> input -> Option other}
    {rel : state -> other -> Prop}
    (hstep : forall {s : state} {t : other} (i : input), rel s t ->
      Option.Rel rel (step s i) (step' t i))
    {s : state} {t : other} (hrel : rel s t) (inputs : List input) :
    Option.Rel rel (run step s inputs) (run step' t inputs) := by
  induction inputs generalizing s t with
  | nil => exact Option.Rel.some hrel
  | cons i rest ih =>
      have hfirst := hstep i hrel
      unfold run
      cases hs : step s i with
      | none =>
          rw [hs] at hfirst
          cases ht : step' t i with
          | none => exact Option.Rel.none
          | some next =>
              rw [ht] at hfirst
              cases hfirst
      | some next =>
          rw [hs] at hfirst
          cases ht : step' t i with
          | none =>
              rw [ht] at hfirst
              cases hfirst
          | some next' =>
              rw [ht] at hfirst
              cases hfirst with
              | some hnext => exact ih hnext

end Foundation
end EventStoreClient
