import Mathlib.Data.List.Basic
import Mathlib.Data.List.Sort

/-!
# Algorithms over ranges

`remove_if`, `sort`, `stable_partition` and `shuffle` as their documentation leaves
them: what is moved from stays behind, equal elements come in any order, and a shuffle
is any permutation.  The main result is which elements can come first.
-/

namespace EventStoreClient
namespace Foundation

/-!
# Removing elements

The range after `std::remove_if`, with the iterator it returns.
-/

section RemoveIf

variable {alpha : Type} (unwanted : alpha -> Bool) (moved : alpha -> alpha)

/-- The loop of `std::remove_if`.  The range is `kept ++ gap ++ rest`: what has been
written, what lies between the write and the read position, and what is still to be
read.  Before the first unwanted element there is no gap, and nothing is moved. -/
def removeIfLoop : List alpha -> List alpha -> List alpha -> List alpha × Nat
  | kept, gap, [] => (kept ++ gap, kept.length)
  | kept, gap, x :: rest =>
      if unwanted x then
        removeIfLoop kept (gap ++ [x]) rest
      else
        match gap with
        | [] => removeIfLoop (kept ++ [x]) [] rest
        | _ :: gap => removeIfLoop (kept ++ [x]) (gap ++ [moved x]) rest

def removeIf (xs : List alpha) : List alpha × Nat :=
  removeIfLoop unwanted moved [] [] xs

def wanted (xs : List alpha) : List alpha :=
  xs.filter (fun x => !unwanted x)

/-- What stands at a position behind the returned iterator: an unwanted element, or
one that has been moved forward. -/
def remains (x : alpha) : alpha :=
  if unwanted x then x else moved x

theorem wanted_length_le (xs : List alpha) : (wanted unwanted xs).length ≤ xs.length :=
  List.length_filter_le _ xs

variable {unwanted moved}

theorem removeIfLoop_unwanted {kept gap rest : List alpha} {x : alpha}
    (hx : unwanted x = true) :
    removeIfLoop unwanted moved kept gap (x :: rest) =
      removeIfLoop unwanted moved kept (gap ++ [x]) rest := by
  simp [removeIfLoop, hx]

theorem removeIfLoop_stays {kept rest : List alpha} {x : alpha}
    (hx : unwanted x = false) :
    removeIfLoop unwanted moved kept [] (x :: rest) =
      removeIfLoop unwanted moved (kept ++ [x]) [] rest := by
  simp [removeIfLoop, hx]

theorem removeIfLoop_moves {kept gap rest : List alpha} {x y : alpha}
    (hx : unwanted x = false) :
    removeIfLoop unwanted moved kept (y :: gap) (x :: rest) =
      removeIfLoop unwanted moved (kept ++ [x]) (gap ++ [moved x]) rest := by
  simp [removeIfLoop, hx]

variable (unwanted moved)

theorem removeIfLoop_eq (read rest : List alpha) :
    removeIfLoop unwanted moved (wanted unwanted read)
        ((read.drop (wanted unwanted read).length).map (remains unwanted moved)) rest =
      (wanted unwanted (read ++ rest) ++
          ((read ++ rest).drop (wanted unwanted (read ++ rest)).length).map
            (remains unwanted moved),
        (wanted unwanted (read ++ rest)).length) := by
  induction rest generalizing read with
  | nil => simp [removeIfLoop]
  | cons x rest ih =>
      have hle := wanted_length_le unwanted read
      have hnext := ih (read ++ [x])
      rw [List.append_assoc, List.singleton_append] at hnext
      rw [← hnext]
      cases hx : unwanted x with
      | true =>
          have hwanted : wanted unwanted (read ++ [x]) = wanted unwanted read := by
            simp [wanted, hx]
          rw [removeIfLoop_unwanted hx, hwanted, List.drop_append_of_le_length hle,
            List.map_append]
          simp [remains, hx]
      | false =>
          have hwanted : wanted unwanted (read ++ [x]) = wanted unwanted read ++ [x] := by
            simp [wanted, hx]
          rw [hwanted, List.length_append, List.length_singleton]
          cases hgap : read.drop (wanted unwanted read).length with
          | nil =>
              have hall : read.length ≤ (wanted unwanted read).length :=
                List.drop_eq_nil_iff.mp hgap
              have hgap' : (read ++ [x]).drop ((wanted unwanted read).length + 1) = [] := by
                apply List.drop_of_length_le
                rw [List.length_append, List.length_singleton]
                omega
              rw [hgap', List.map_nil, removeIfLoop_stays hx]
          | cons y gap =>
              have hlt : (wanted unwanted read).length < read.length := by
                apply Nat.lt_of_not_le
                intro hge
                rw [List.drop_of_length_le hge] at hgap
                cases hgap
              have htail : read.drop ((wanted unwanted read).length + 1) = gap := by
                rw [← List.tail_drop, hgap, List.tail_cons]
              rw [List.drop_append_of_le_length hlt, htail, List.map_append, List.map_cons,
                removeIfLoop_moves hx]
              simp [remains, hx]

/-- The wanted elements in their order, and behind them the old positions with the
wanted elements moved out. -/
theorem removeIf_eq (xs : List alpha) :
    removeIf unwanted moved xs =
      (wanted unwanted xs ++
          (xs.drop (wanted unwanted xs).length).map (remains unwanted moved),
        (wanted unwanted xs).length) :=
  removeIfLoop_eq unwanted moved [] xs

end RemoveIf

/-!
# Orders and permutations that an algorithm may leave

A sort may leave any ordered permutation, and a shuffle any permutation of its range.
-/

/-- What `std::sort` does to every range: a permutation in which no element comes after
one that it is before. -/
structure Sorting {alpha : Type} (before : alpha -> alpha -> Bool) where
  run : List alpha -> List alpha
  perm : forall xs, (run xs).Perm xs
  sorted : forall xs, (run xs).Pairwise (fun x y => before y x = false)

structure Shuffling (alpha : Type) where
  run : List alpha -> List alpha
  perm : forall xs, (run xs).Perm xs

instance (alpha : Type) : Inhabited (Shuffling alpha) :=
  ⟨{ run := id, perm := fun xs => List.Perm.refl xs }⟩

def stablePartition {alpha : Type} (p : alpha -> Bool) (xs : List alpha) : List alpha :=
  xs.filter p ++ xs.filter (fun x => !p x)

def shuffleFirst {alpha : Type} (shuffle : Shuffling alpha) (n : Nat)
    (xs : List alpha) : List alpha :=
  shuffle.run (xs.take n) ++ xs.drop n

theorem stablePartition_perm {alpha : Type} (p : alpha -> Bool) (xs : List alpha) :
    (stablePartition p xs).Perm xs :=
  List.filter_append_perm p xs

theorem shuffleFirst_perm {alpha : Type} (shuffle : Shuffling alpha) (n : Nat)
    (xs : List alpha) : (shuffleFirst shuffle n xs).Perm xs := by
  have h := (shuffle.perm (xs.take n)).append_right (xs.drop n)
  rwa [List.take_append_drop] at h

/-!
# What comes first

In a range where no element comes after one it is before, and of which the first `n`
are then shuffled, the first element is among the first `n`, or is the first if `n` is
zero.  An element gets there when fewer than that many are before it.
-/

section First

variable {alpha : Type} {before : alpha -> alpha -> Bool}

theorem mem_take_of_head?_shuffleFirst {shuffle : Shuffling alpha} {n : Nat}
    {xs : List alpha} {x : alpha}
    (h : (shuffleFirst shuffle n xs).head? = some x) : x ∈ xs.take (max 1 n) := by
  unfold shuffleFirst at h
  cases hfront : shuffle.run (xs.take n) with
  | nil =>
      have hnil : xs.take n = [] := by
        have hperm := shuffle.perm (xs.take n)
        rw [hfront] at hperm
        exact hperm.nil_eq.symm
      rw [hfront, List.nil_append] at h
      cases xs with
      | nil =>
          simp at h
      | cons y ys =>
          have hn : n = 0 := by
            cases n with
            | zero => rfl
            | succ n => simp at hnil
          subst hn
          simpa [eq_comm] using h
  | cons y front =>
      rw [hfront] at h
      have hy : y = x := by
        simpa using h
      have hmem : y ∈ xs.take n := by
        apply (shuffle.perm (xs.take n)).mem_iff.mp
        rw [hfront]
        exact List.mem_cons_self
      rw [hy] at hmem
      exact List.take_subset_take_left xs (Nat.le_max_right 1 n) hmem

/-- An element among the first `n` of an arranged range has fewer than `n` before it. -/
theorem countP_lt_of_mem_take {xs : List alpha} {n : Nat} {x : alpha}
    (hirrefl : before x x = false)
    (hsorted : xs.Pairwise (fun y z => before z y = false)) (hmem : x ∈ xs.take n) :
    xs.countP (fun y => before y x) < n := by
  rcases List.mem_iff_getElem.mp hmem with ⟨i, hi, hx⟩
  rw [List.length_take] at hi
  have hlength : i < xs.length := by
    omega
  rw [List.getElem_take] at hx
  have hsplit : xs = xs.take i ++ x :: xs.drop (i + 1) := by
    rw [← hx, List.getElem_cons_drop, List.take_append_drop]
  have hlater : (x :: xs.drop (i + 1)).countP (fun y => before y x) = 0 := by
    rw [List.countP_eq_zero]
    intro y hy
    rw [hsplit] at hsorted
    have hrest := (List.pairwise_append.mp hsorted).right.left
    rcases List.mem_cons.mp hy with hyx | hy
    · rw [hyx, hirrefl]
      simp
    · rw [List.rel_of_pairwise_cons hrest hy]
      simp
  have hearlier := List.countP_le_length (p := fun y => before y x) (l := xs.take i)
  rw [List.length_take] at hearlier
  rw [hsplit, List.countP_append, hlater]
  omega

/-- An element that only elements before it precede is as far in front as their number
says. -/
theorem mem_take_of_countP_lt {front back : List alpha} {n : Nat} {x : alpha}
    (hfront : forall y, y ∈ front -> before y x = true)
    (hlt : (front ++ x :: back).countP (fun y => before y x) < n) :
    x ∈ (front ++ x :: back).take n := by
  have hcount : front.countP (fun y => before y x) = front.length :=
    List.countP_eq_length.mpr hfront
  rw [List.countP_append, hcount] at hlt
  have hn : n = front.length + ((n - front.length - 1) + 1) := by
    omega
  rw [hn, List.take_length_add_append, List.take_succ_cons]
  exact List.mem_append_right front List.mem_cons_self

end First

/-!
# Outcomes that bring an element forward

One shuffle puts a given element first if it is there, and one order has it first among
the elements with its key.
-/

section Bring

variable {alpha : Type} [DecidableEq alpha]

def Shuffling.bring (x : alpha) : Shuffling alpha :=
  { run := fun xs => if x ∈ xs then x :: xs.erase x else xs
    perm := by
      intro xs
      by_cases hx : x ∈ xs
      · rw [if_pos hx]
        exact (List.perm_cons_erase hx).symm
      · rw [if_neg hx] }

theorem head?_shuffleFirst_bring {n : Nat} {xs : List alpha} {x : alpha}
    (hmem : x ∈ xs.take (max 1 n)) :
    (shuffleFirst (Shuffling.bring x) n xs).head? = some x := by
  cases n with
  | zero =>
      cases xs with
      | nil => simp at hmem
      | cons y ys =>
          have hy : x = y := by
            simpa using hmem
          simp [shuffleFirst, Shuffling.bring, hy]
  | succ n =>
      rw [Nat.max_eq_right (Nat.succ_le_succ (Nat.zero_le n))] at hmem
      simp [shuffleFirst, Shuffling.bring, hmem]

variable (key : alpha -> Nat)

def preferredLe (x a b : alpha) : Bool :=
  decide (key b < key a) || (decide (key a = key b) && (decide (a = x) || decide (b ≠ x)))

/-- The descending sort by a key that puts `x` in front of its equals. -/
def Sorting.preferring (x : alpha) : Sorting (fun a b => decide (key b < key a)) :=
  { run := fun xs => xs.mergeSort (preferredLe key x)
    perm := fun xs => List.mergeSort_perm xs (preferredLe key x)
    sorted := by
      intro xs
      have htrans : forall a b c, preferredLe key x a b = true ->
          preferredLe key x b c = true -> preferredLe key x a c = true := by
        intro a b c hab hbc
        simp [preferredLe] at hab hbc ⊢
        grind
      have htotal : forall a b, (preferredLe key x a b || preferredLe key x b a) = true := by
        intro a b
        simp [preferredLe]
        grind
      apply (List.pairwise_mergeSort htrans htotal xs).imp
      intro a b hab
      simp [preferredLe] at hab ⊢
      omega }

theorem pairwise_preferring (x : alpha) (xs : List alpha) :
    ((Sorting.preferring key x).run xs).Pairwise (fun a b => preferredLe key x a b = true) := by
  apply List.pairwise_mergeSort
  · intro a b c hab hbc
    simp [preferredLe] at hab hbc ⊢
    grind
  · intro a b
    simp [preferredLe]
    grind

end Bring

end Foundation
end EventStoreClient
