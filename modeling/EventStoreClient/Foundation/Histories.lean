import EventStoreClient.Foundation.Runs
import Mathlib.Data.List.DropRight

/-!
# Histories

What a system has done, oldest event first.  Read from its end, it says what came since the
last event of a kind, and which requests are still without an answer.  The history of a run
is what its steps show.
-/

namespace EventStoreClient
namespace Foundation

variable {event : Type} {mark request answer : event -> Bool} {history : List event}

/-- What came after the last event that `mark` holds of, or all of it if there is none. -/
def since (mark : event -> Bool) (history : List event) : List event :=
  history.rtakeWhile fun e => !mark e

def Pending (request answer : event -> Bool) (history : List event) : Prop :=
  exists e, e ∈ since answer history ∧ request e = true

def Separated (request answer : event -> Bool) (history : List event) : Prop :=
  forall before first middle second after,
    history = before ++ first :: (middle ++ second :: after) ->
      request first = true -> request second = true ->
        exists e, e ∈ middle ∧ answer e = true

theorem since_concat_mark {e : event} (h : mark e = true) :
    since mark (history ++ [e]) = [] := by
  simp [since, h]

theorem since_concat {e : event} (h : mark e = false) :
    since mark (history ++ [e]) = since mark history ++ [e] := by
  simp [since, h]

theorem since_append {later : List event}
    (h : forall e, e ∈ later -> mark e = false) :
    since mark (history ++ later) = since mark history ++ later := by
  induction later using List.reverseRecOn with
  | nil => simp
  | append_singleton rest e ih =>
      have hrest := ih fun e' he' => h e' (List.mem_append_left _ he')
      have hlast : mark e = false := h e (List.mem_append_right _ (List.mem_singleton_self e))
      rw [← List.append_assoc, since_concat hlast, hrest, List.append_assoc]

theorem since_append_cons {e : event} {later : List event} (he : mark e = true)
    (h : forall e', e' ∈ later -> mark e' = false) :
    since mark (history ++ e :: later) = later := by
  have happend : history ++ e :: later = (history ++ [e]) ++ later := by simp
  rw [happend, since_append h, since_concat_mark he, List.nil_append]

theorem not_pending_nil : ¬ Pending request answer [] := by
  simp [Pending, since]

theorem not_pending_append_cons {e : event} {later : List event} (he : answer e = true)
    (h : forall e', e' ∈ later -> answer e' = false ∧ request e' = false) :
    ¬ Pending request answer (history ++ e :: later) := by
  rintro ⟨pending, hmem, hrequest⟩
  rw [since_append_cons he fun e' he' => (h e' he').left] at hmem
  rw [(h pending hmem).right] at hrequest
  cases hrequest

theorem pending_concat_iff {e : event} (hanswer : answer e = false)
    (hrequest : request e = false) :
    Pending request answer (history ++ [e]) <-> Pending request answer history := by
  unfold Pending
  rw [since_concat hanswer]
  simp [hrequest]

/-- An event of a history that has grown is the last one, or was there before. -/
theorem concat_split {earlier later : List event} {e e' : event}
    (h : history ++ [e] = earlier ++ e' :: later) :
    (history = earlier ∧ e' = e) ∨ exists rest, history = earlier ++ e' :: rest := by
  rcases List.eq_nil_or_concat later with rfl | ⟨rest, last, rfl⟩
  · rcases List.append_inj' h rfl with ⟨hhistory, hlast⟩
    cases hlast
    exact Or.inl ⟨hhistory, rfl⟩
  · have hconcat : history ++ [e] = (earlier ++ e' :: rest) ++ [last] := by
      simp [h]
    exact Or.inr ⟨rest, (List.append_inj' hconcat rfl).left⟩

theorem separated_nil : Separated request answer [] := by
  intro before first middle second after h
  simp at h

theorem separated_concat {e : event} (hkinds : forall e', request e' = true -> answer e' = false)
    (h : Separated request answer history)
    (he : request e = true -> ¬ Pending request answer history) :
    Separated request answer (history ++ [e]) := by
  intro before first middle second after hsplit hfirst hsecond
  have hconcat : history ++ [e] = (before ++ first :: middle) ++ second :: after := by
    simp [hsplit]
  rcases concat_split hconcat with ⟨hhistory, rfl⟩ | ⟨rest, hhistory⟩
  · by_contra hnone
    have hmiddle : forall e', e' ∈ middle -> answer e' = false := by
      intro e' he'
      rw [← Bool.not_eq_true]
      exact fun hanswer => hnone ⟨e', he', hanswer⟩
    have hcons : forall e', e' ∈ first :: middle -> answer e' = false := by
      intro e' he'
      rcases List.mem_cons.mp he' with rfl | he'
      · exact hkinds e' hfirst
      · exact hmiddle e' he'
    apply he hsecond
    refine ⟨first, ?_, hfirst⟩
    rw [hhistory, since_append hcons]
    exact List.mem_append_right _ List.mem_cons_self
  · rw [List.append_assoc, List.cons_append] at hhistory
    exact h _ _ _ _ _ hhistory hfirst hsecond

theorem append_cons_unique {earlier later before after : List event} {e e' : event}
    (hearlier : forall d, d ∈ earlier -> mark d = false)
    (hlater : forall d, d ∈ later -> mark d = false) (he' : mark e' = true)
    (h : earlier ++ e :: later = before ++ e' :: after) :
    earlier = before ∧ e = e' ∧ later = after := by
  induction earlier generalizing before with
  | nil =>
      cases before with
      | nil =>
          injection h with hfirst hrest
          exact ⟨rfl, hfirst, hrest⟩
      | cons first rest =>
          injection h with _ hrest
          have hmem : e' ∈ later := by
            rw [hrest]
            exact List.mem_append_right _ List.mem_cons_self
          rw [hlater e' hmem] at he'
          cases he'
  | cons first rest ih =>
      cases before with
      | nil =>
          injection h with hfirst _
          rw [← hfirst, hearlier first List.mem_cons_self] at he'
          cases he'
      | cons first' rest' =>
          injection h with hfirst hrest
          rcases ih (fun d hd => hearlier d (List.mem_cons_of_mem first hd)) hrest with
            ⟨hbefore, hevent, hafter⟩
          rw [hfirst, hbefore]
          exact ⟨rfl, hevent, hafter⟩

def Preceded (kind : event -> Prop) (cause : List event -> Prop) (history : List event) : Prop :=
  forall earlier e later, history = earlier ++ e :: later -> kind e -> cause earlier

section

variable {kind : event -> Prop} {cause : List event -> Prop}

theorem preceded_nil : Preceded kind cause [] := by
  intro earlier e later h
  simp at h

theorem preceded_concat {e : event} (h : Preceded kind cause history)
    (he : kind e -> cause history) : Preceded kind cause (history ++ [e]) := by
  intro earlier e' later hsplit hkind
  rcases concat_split hsplit with ⟨rfl, rfl⟩ | ⟨rest, hhistory⟩
  · exact he hkind
  · exact h earlier e' rest hhistory hkind

theorem preceded_append {later : List event} (h : Preceded kind cause history)
    (hother : forall e, e ∈ later -> ¬ kind e) : Preceded kind cause (history ++ later) := by
  induction later using List.reverseRecOn with
  | nil => rwa [List.append_nil]
  | append_singleton rest e ih =>
      rw [← List.append_assoc]
      apply preceded_concat (ih fun e' he' => hother e' (List.mem_append_left _ he'))
      intro hkind
      exact absurd hkind (hother e (List.mem_append_right _ (List.mem_singleton_self e)))

end

/-!
# Histories of runs

What the steps of a run show, one after another.  The inputs of a run are shown by its
steps.
-/

section

variable {state input : Type} {step : state -> input -> Option state}
  {ok : state -> input -> Prop} {shown : state -> input -> state -> List event}

def historyOf (step : state -> input -> Option state)
    (shown : state -> input -> state -> List event) : state -> List input -> List event
  | _, [] => []
  | s, i :: rest =>
      match step s i with
      | none => []
      | some next => shown s i next ++ historyOf step shown next rest

/-- An invariant of states and the histories that lead to them, kept by every good step,
holds at the end of a run of good steps. -/
theorem run_history (inv : state -> List event -> Prop)
    (hpreserves : forall {s : state} {earlier : List event} {i : input} {next : state},
      inv s earlier -> ok s i -> step s i = some next -> inv next (earlier ++ shown s i next))
    {s last : state} {earlier : List event} {inputs : List input} (hinv : inv s earlier)
    (hok : EveryStep step ok s inputs) (hrun : run step s inputs = some last) :
    inv last (earlier ++ historyOf step shown s inputs) := by
  induction inputs generalizing s earlier with
  | nil =>
      cases hrun
      rw [historyOf, List.append_nil]
      exact hinv
  | cons i rest ih =>
      rcases run_cons hrun with ⟨next, hstep, hrest⟩
      rcases hok with ⟨hfirst, hlater⟩
      rw [hstep] at hlater
      have hnext := ih (hpreserves hinv hfirst hstep) hlater hrest
      rw [historyOf, hstep]
      rwa [List.append_assoc] at hnext

theorem historyOf_inputs {step : state -> event -> Option state} {s last : state}
    {inputs : List event} (hrun : run step s inputs = some last) :
    historyOf step (fun _ i _ => [i]) s inputs = inputs := by
  induction inputs generalizing s with
  | nil => rfl
  | cons i rest ih =>
      rcases run_cons hrun with ⟨next, hstep, hrest⟩
      simp only [historyOf, hstep, ih hrest, List.singleton_append]

end

end Foundation
end EventStoreClient
