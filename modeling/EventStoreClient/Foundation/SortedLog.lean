import Mathlib.Data.Int.Interval
import Mathlib.Order.Lattice

/-!
# Sorted logs

A list whose entries are in the order of their keys, and the parts of it that lie between
two keys.
-/

namespace EventStoreClient
namespace Foundation

variable {entry order : Type} [LinearOrder order]

def onward (key : entry -> order) (lo : order) (log : List entry) : List entry :=
  log.filter fun a => decide (lo ≤ key a)

def logSegment (key : entry -> order) (lo hi : order) (log : List entry) : List entry :=
  log.filter fun a => decide (lo ≤ key a ∧ key a < hi)

def SortedLog (key : entry -> order) (log : List entry) : Prop :=
  log.Pairwise fun a b => key a < key b

variable {key : entry -> order} {lo mid hi : order} {log more : List entry}

theorem SortedLog.concat (hsorted : SortedLog key log) {a : entry}
    (habove : forall b, b ∈ log -> key b < key a) : SortedLog key (log ++ [a]) := by
  rw [SortedLog, List.pairwise_append]
  refine ⟨hsorted, List.pairwise_singleton _ a, ?_⟩
  intro b hb c hc
  rw [List.mem_singleton.mp hc]
  exact habove b hb

theorem onward_append (key : entry -> order) (lo : order) (log more : List entry) :
    onward key lo (log ++ more) = onward key lo log ++ onward key lo more := by
  rw [onward, List.filter_append, onward, onward]

theorem logSegment_append_log (key : entry -> order) (lo hi : order) (log more : List entry) :
    logSegment key lo hi (log ++ more) = logSegment key lo hi log ++ logSegment key lo hi more := by
  rw [logSegment, List.filter_append, logSegment, logSegment]

theorem logSegment_self (key : entry -> order) (lo : order) (log : List entry) :
    logSegment key lo lo log = [] := by
  rw [logSegment, List.filter_eq_nil_iff]
  intro a _
  simp only [decide_eq_true_eq]
  rintro ⟨hle, hlt⟩
  exact absurd hle (not_le_of_gt hlt)

theorem logSegment_eq_nil (h : forall a, a ∈ log -> hi ≤ key a) :
    logSegment key lo hi log = [] := by
  rw [logSegment, List.filter_eq_nil_iff]
  intro a ha
  simp only [decide_eq_true_eq]
  rintro ⟨_, hlt⟩
  exact absurd (h a ha) (not_le_of_gt hlt)

theorem logSegment_eq_onward (h : forall a, a ∈ log -> key a < hi) :
    logSegment key lo hi log = onward key lo log := by
  rw [logSegment, onward]
  refine List.filter_congr fun a ha => ?_
  simp [h a ha]

theorem logSegment_eq_filter_onward (key : entry -> order) (lo hi : order) (log : List entry) :
    logSegment key lo hi log = (onward key lo log).filter fun a => decide (key a < hi) := by
  rw [onward, List.filter_filter, logSegment]
  refine List.filter_congr fun a _ => ?_
  simp [Bool.and_comm]

theorem take_onward_eq_logSegment {n : Nat}
    (hbelow : forall a, a ∈ (onward key lo log).take n -> key a < hi)
    (habove : forall a, a ∈ (onward key lo log).drop n -> hi ≤ key a) :
    (onward key lo log).take n = logSegment key lo hi log := by
  have hfirst : ((onward key lo log).take n).filter (fun a => decide (key a < hi)) =
      (onward key lo log).take n :=
    List.filter_eq_self.mpr fun a ha => decide_eq_true (hbelow a ha)
  have hrest : ((onward key lo log).drop n).filter (fun a => decide (key a < hi)) = [] := by
    rw [List.filter_eq_nil_iff]
    intro a ha
    rw [decide_eq_true_eq]
    exact not_lt_of_ge (habove a ha)
  rw [logSegment_eq_filter_onward, ← List.take_append_drop n (onward key lo log),
    List.filter_append, List.take_append_drop, hfirst, hrest, List.append_nil]

theorem logSegment_append_onward (hsorted : SortedLog key log) (hmid : lo ≤ mid) :
    logSegment key lo mid log ++ onward key mid log = onward key lo log := by
  induction log with
  | nil => rfl
  | cons a rest ih =>
      rcases List.pairwise_cons.mp hsorted with ⟨hfirst, hrest⟩
      rcases lt_or_ge (key a) mid with hbelow | habove
      · have hnot : ¬ mid ≤ key a := not_le_of_gt hbelow
        by_cases hlo : lo ≤ key a
        · have ha : logSegment key lo mid (a :: rest) = a :: logSegment key lo mid rest := by
            rw [logSegment, List.filter_cons_of_pos (by simp [hlo, hbelow]), logSegment]
          have ha' : onward key mid (a :: rest) = onward key mid rest := by
            rw [onward, List.filter_cons_of_neg (by simp [hnot]), onward]
          rw [ha, ha', List.cons_append, ih hrest, onward, onward,
            List.filter_cons_of_pos (by simp [hlo])]
        · have ha : logSegment key lo mid (a :: rest) = logSegment key lo mid rest := by
            rw [logSegment, List.filter_cons_of_neg (by simp [hlo]), logSegment]
          have ha' : onward key mid (a :: rest) = onward key mid rest := by
            rw [onward, List.filter_cons_of_neg (by simp [hnot]), onward]
          rw [ha, ha', ih hrest, onward, onward, List.filter_cons_of_neg (by simp [hlo])]
      · have hall : forall b, b ∈ a :: rest -> mid ≤ key b := by
          intro b hb
          rcases List.mem_cons.mp hb with rfl | hb
          · exact habove
          · exact le_trans habove (le_of_lt (hfirst b hb))
        have hall' : forall b, b ∈ a :: rest -> lo ≤ key b :=
          fun b hb => le_trans hmid (hall b hb)
        rw [logSegment_eq_nil hall, List.nil_append, onward, onward,
          List.filter_eq_self.mpr fun b hb => decide_eq_true (hall b hb),
          List.filter_eq_self.mpr fun b hb => decide_eq_true (hall' b hb)]

theorem logSegment_append (hsorted : SortedLog key log) (hmid : lo ≤ mid) (hhi : mid ≤ hi) :
    logSegment key lo mid log ++ logSegment key mid hi log = logSegment key lo hi log := by
  have hbelow : (logSegment key lo mid log).filter (fun a => decide (key a < hi)) =
      logSegment key lo mid log := by
    rw [List.filter_eq_self]
    intro a ha
    have hmem := (List.mem_filter.mp ha).right
    rw [decide_eq_true_eq] at hmem
    exact decide_eq_true (lt_of_lt_of_le hmem.right hhi)
  rw [logSegment_eq_filter_onward key lo hi, ← logSegment_append_onward hsorted hmid,
    List.filter_append, hbelow, ← logSegment_eq_filter_onward]

theorem logSegment_isPrefix (hsorted : SortedLog key log) (hle : lo ≤ hi) :
    logSegment key lo hi log <+: onward key lo log :=
  ⟨onward key hi log, logSegment_append_onward hsorted hle⟩

theorem mem_onward {a : entry} : a ∈ onward key lo log <-> a ∈ log ∧ lo ≤ key a := by
  rw [onward, List.mem_filter, decide_eq_true_eq]

theorem SortedLog.onward_sorted (hsorted : SortedLog key log) (lo : order) :
    SortedLog key (onward key lo log) :=
  List.Pairwise.filter _ hsorted

theorem SortedLog.onward_head (hsorted : SortedLog key log) {a : entry} {rest : List entry}
    (h : onward key lo log = a :: rest) : onward key (key a) log = a :: rest := by
  have ha : lo ≤ key a := (mem_onward.mp (h ▸ List.mem_cons_self)).right
  have hrest := (List.pairwise_cons.mp (h ▸ hsorted.onward_sorted lo)).left
  have hall : (a :: rest).filter (fun b => decide (key a ≤ key b)) = a :: rest := by
    rw [List.filter_eq_self]
    intro b hb
    rcases List.mem_cons.mp hb with rfl | hb
    · exact decide_eq_true le_rfl
    · exact decide_eq_true (le_of_lt (hrest b hb))
  rw [← hall, ← h, onward, onward, List.filter_filter]
  refine List.filter_congr fun b _ => ?_
  rw [eq_comm, Bool.and_eq_left_iff_imp]
  intro hb
  exact decide_eq_true (ha.trans (of_decide_eq_true hb))

/-- An entry that is not among the first ones comes after them all, and then there are as
many as were asked for. -/
theorem SortedLog.take_before (hsorted : SortedLog key log) {a : entry} (ha : a ∈ log)
    (hlo : lo ≤ key a) {n : Nat} (hnot : a ∉ (onward key lo log).take n) :
    (forall b, b ∈ (onward key lo log).take n -> key b < key a) ∧
      ((onward key lo log).take n).length = n := by
  have hrest : a ∈ (onward key lo log).drop n := by
    have hmem := mem_onward.mpr ⟨ha, hlo⟩
    rw [← List.take_append_drop n (onward key lo log)] at hmem
    exact (List.mem_append.mp hmem).resolve_left hnot
  have hboth := hsorted.onward_sorted lo
  rw [← List.take_append_drop n (onward key lo log), SortedLog,
    List.pairwise_append] at hboth
  constructor
  · exact fun b hb => hboth.right.right b hb a hrest
  · rw [List.length_take, min_eq_left]
    have hlength := List.length_pos_of_mem hrest
    rw [List.length_drop] at hlength
    omega

/-!
# Logs of numbered entries

In a log that covers a range every number in it is that of an entry.
-/

section Numbers

variable {number : entry -> Int} {first next : Int}

def Covers (number : entry -> Int) (first next : Int) (log : List entry) : Prop :=
  forall n, first ≤ n -> n < next -> exists a, a ∈ log ∧ number a = n

theorem SortedLog.logSegment_numbers (hsorted : SortedLog number log) :
    ((logSegment number first next log).map number).Nodup := by
  rw [List.Nodup, List.pairwise_map]
  exact (List.Pairwise.filter _ hsorted).imp fun hlt => ne_of_lt hlt

theorem mem_logSegment_numbers {n : Int} :
    n ∈ (logSegment number first next log).map number <->
      (first ≤ n ∧ n < next) ∧ exists a, a ∈ log ∧ number a = n := by
  constructor
  · intro hn
    rcases List.mem_map.mp hn with ⟨a, ha, rfl⟩
    have hbounds := (List.mem_filter.mp ha).right
    rw [decide_eq_true_eq] at hbounds
    exact ⟨hbounds, a, (List.mem_filter.mp ha).left, rfl⟩
  · rintro ⟨hbounds, a, ha, rfl⟩
    exact List.mem_map_of_mem (List.mem_filter.mpr ⟨ha, decide_eq_true hbounds⟩)

/-- A segment has as many entries as there are numbers in it if and only if it has them
all. -/
theorem SortedLog.length_logSegment_eq_iff (hsorted : SortedLog number log)
    (hle : first ≤ next) :
    first + (logSegment number first next log).length = next <->
      Covers number first next log := by
  let numbers := ((logSegment number first next log).map number).toFinset
  have hcard : numbers.card = (logSegment number first next log).length := by
    rw [List.toFinset_card_of_nodup hsorted.logSegment_numbers, List.length_map]
  have hsubset : numbers ⊆ Finset.Ico first next := by
    intro n hn
    rw [Finset.mem_Ico]
    exact (mem_logSegment_numbers.mp (List.mem_toFinset.mp hn)).left
  have hIco : ((Finset.Ico first next).card : Int) = next - first := by
    rw [Int.card_Ico, Int.toNat_of_nonneg (by omega)]
  constructor
  · intro hlength n hfirst hnext
    have hall : numbers = Finset.Ico first next :=
      Finset.eq_of_subset_of_card_le hsubset (by omega)
    have hmem : n ∈ numbers := by
      rw [hall, Finset.mem_Ico]
      exact ⟨hfirst, hnext⟩
    exact (mem_logSegment_numbers.mp (List.mem_toFinset.mp hmem)).right
  · intro hcovers
    have hall : numbers = Finset.Ico first next := by
      apply Finset.Subset.antisymm hsubset
      intro n hn
      rw [Finset.mem_Ico] at hn
      exact List.mem_toFinset.mpr (mem_logSegment_numbers.mpr
        ⟨hn, hcovers n hn.left hn.right⟩)
    rw [← hcard, hall]
    omega

end Numbers

end Foundation
end EventStoreClient
