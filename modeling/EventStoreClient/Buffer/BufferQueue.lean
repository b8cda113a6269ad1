import Mathlib.Tactic.Ring

/-!
# `buffer_queue`

A queue of elements in a deque of chunks.  The elements lie from `front_chunk_idx_` of
the first chunk up to `back_chunk_idx_` of the last one.
-/

namespace EventStoreClient
namespace Buffer

/-- The storage of a chunk, where a slot is `none` until an element is constructed. -/
abbrev Chunk (T : Type) := Nat -> Option T

structure BufferQueue (T : Type) (chunkSize : UInt32) where
  deque : List (Chunk T)
  frontChunkIdx : UInt32
  backChunkIdx : UInt32

namespace BufferQueue

variable {T : Type} {chunkSize : UInt32}

def new : BufferQueue T chunkSize :=
  { deque := []
    frontChunkIdx := 0
    backChunkIdx := -1 }

def empty (q : BufferQueue T chunkSize) : Bool := q.deque.isEmpty

def size (q : BufferQueue T chunkSize) : Nat :=
  match q.deque with
  | [] => 0
  | [_] => (q.backChunkIdx - q.frontChunkIdx + 1).toNat
  | _ :: _ :: rest =>
      rest.length * chunkSize.toNat + (q.backChunkIdx + 1).toNat +
        (chunkSize - q.frontChunkIdx).toNat

def clear (_ : BufferQueue T chunkSize) : BufferQueue T chunkSize := new

/-- The element at the front, `none` if there is no object there to refer to. -/
def front (q : BufferQueue T chunkSize) : Option T :=
  match q.deque with
  | [] => none
  | chunk :: _ => chunk q.frontChunkIdx.toNat

def popFront (q : BufferQueue T chunkSize) : BufferQueue T chunkSize :=
  let frontChunkIdx := q.frontChunkIdx + 1
  if q.deque.length = 1 then
    if frontChunkIdx = q.backChunkIdx + 1 then
      { deque := q.deque.tail
        frontChunkIdx := 0
        backChunkIdx := -1 }
    else { q with frontChunkIdx := frontChunkIdx }
  else if frontChunkIdx = chunkSize then
    { q with
      deque := q.deque.tail
      frontChunkIdx := 0 }
  else { q with frontChunkIdx := frontChunkIdx }

def raw : Chunk T := fun _ => none

def construct (deque : List (Chunk T)) (idx : Nat) (value : T) : List (Chunk T) :=
  deque.modify (deque.length - 1) (fun chunk i =>
    if i = idx then some value else chunk i)

def emplaceBack (q : BufferQueue T chunkSize) (value : T) : BufferQueue T chunkSize :=
  let deque := if q.deque.isEmpty then [raw] else q.deque
  let backChunkIdx := q.backChunkIdx + 1
  -- the current back chunk is finished
  if backChunkIdx = chunkSize then
    { q with
      deque := construct (deque ++ [raw]) 0 value
      backChunkIdx := 0 }
  else
    { q with
      deque := construct deque backChunkIdx.toNat value
      backChunkIdx := backChunkIdx }

def pushBack (q : BufferQueue T chunkSize) (value : T) : BufferQueue T chunkSize :=
  q.emplaceBack value

def frontSlot (q : BufferQueue T chunkSize) : Nat × Nat :=
  (0, q.frontChunkIdx.toNat)

/-- The chunk and the slot in it that the placement new of the last `emplace_back`
wrote. -/
def backSlot (q : BufferQueue T chunkSize) : Nat × Nat :=
  (q.deque.length - 1, q.backChunkIdx.toNat)

/-!
# The queue as a list

The slots of the deque are numbered through its chunks, and the elements lie between the
two indices without a gap.  An increment of an index below the chunk size does not wrap.
-/

def slot (deque : List (Chunk T)) (n i : Nat) : Option T :=
  (deque[i / n]?).bind fun chunk => chunk (i % n)

structure Filled (q : BufferQueue T chunkSize) (xs : List T) : Prop where
  nonempty : xs ≠ []
  deque_ne : q.deque ≠ []
  front_lt : q.frontChunkIdx.toNat < chunkSize.toNat
  back_lt : q.backChunkIdx.toNat < chunkSize.toNat
  length_eq : q.frontChunkIdx.toNat + xs.length =
    (q.deque.length - 1) * chunkSize.toNat + q.backChunkIdx.toNat + 1
  slot_eq : forall i, i < xs.length ->
    slot q.deque chunkSize.toNat (q.frontChunkIdx.toNat + i) = xs[i]?

/-- The queue holds the elements of the list, the first one at its front. -/
def Represents (q : BufferQueue T chunkSize) (xs : List T) : Prop :=
  (q = new ∧ xs = []) ∨ Filled q xs

theorem represents_new : Represents (new : BufferQueue T chunkSize) [] :=
  Or.inl ⟨rfl, rfl⟩

theorem represents_clear (q : BufferQueue T chunkSize) : Represents q.clear [] :=
  represents_new

section Represents

variable {q : BufferQueue T chunkSize} {xs : List T} {x : T}

theorem Represents.empty_iff (h : Represents q xs) : q.empty = true <-> xs = [] := by
  rcases h with ⟨rfl, rfl⟩ | h
  · simp [empty, new]
  · simp [empty, h.deque_ne, h.nonempty]

theorem Represents.filled (h : Represents q xs) (hne : xs ≠ []) : Filled q xs := by
  rcases h with ⟨_, rfl⟩ | h
  · exact absurd rfl hne
  · exact h

theorem Represents.front_eq (h : Represents q (x :: xs)) : q.front = some x := by
  have hfilled := h.filled (List.cons_ne_nil x xs)
  have hslot := hfilled.slot_eq 0 (Nat.zero_lt_succ _)
  rcases List.exists_cons_of_ne_nil hfilled.deque_ne with ⟨chunk, rest, hdeque⟩
  simpa [front, hdeque, slot, Nat.div_eq_of_lt hfilled.front_lt,
    Nat.mod_eq_of_lt hfilled.front_lt] using hslot

theorem toNat_succ {i : UInt32} (hi : i.toNat < chunkSize.toNat) :
    (i + 1).toNat = i.toNat + 1 := by
  have hsize := chunkSize.toNat_lt
  rw [UInt32.toNat_add, UInt32.toNat_one]
  omega

theorem Represents.size_eq (h : Represents q xs) : q.size = xs.length := by
  rcases h with ⟨rfl, rfl⟩ | h
  · rfl
  · have hlength := h.length_eq
    have hfront := h.front_lt
    have hback := h.back_lt
    have hpos := List.length_pos_iff.mpr h.nonempty
    have hsize := chunkSize.toNat_lt
    unfold size
    split
    · rename_i hdeque
      exact absurd hdeque h.deque_ne
    · rename_i hdeque
      simp only [hdeque, List.length_singleton] at hlength
      rw [UInt32.toNat_add, UInt32.toNat_sub, UInt32.toNat_one]
      omega
    · rename_i rest hdeque
      simp only [hdeque, List.length_cons] at hlength
      have hexpand : (rest.length + 1 + 1 - 1) * chunkSize.toNat =
          rest.length * chunkSize.toNat + chunkSize.toNat := by
        rw [Nat.add_sub_cancel]
        ring
      rw [toNat_succ hback, UInt32.toNat_sub]
      omega

/-!
# Taking from the front

The front moves on in its chunk, or to the next one.  Taking from an empty queue leaves no
chunk, but moves the index.
-/

theorem slot_tail (chunk : Chunk T) (rest : List (Chunk T)) {n : Nat} (hn : 0 < n)
    (i : Nat) : slot (chunk :: rest) n (n + i) = slot rest n i := by
  simp [slot, Nat.add_div_left i hn]

theorem Filled.slot_succ (h : Filled q (x :: xs)) {i : Nat} (hi : i < xs.length) :
    slot q.deque chunkSize.toNat (q.frontChunkIdx.toNat + 1 + i) = xs[i]? := by
  have hnext := h.slot_eq (i + 1) (Nat.succ_lt_succ hi)
  rw [List.getElem?_cons_succ] at hnext
  rw [← hnext]
  congr 1
  omega

theorem Filled.advance (h : Filled q (x :: xs)) (hne : xs ≠ [])
    (hroom : q.frontChunkIdx.toNat + 1 < chunkSize.toNat) :
    Filled ({ q with frontChunkIdx := q.frontChunkIdx + 1 } : BufferQueue T chunkSize)
      xs := by
  have hsucc := toNat_succ h.front_lt
  have hlength := h.length_eq
  rw [List.length_cons] at hlength
  refine
    { nonempty := hne
      deque_ne := h.deque_ne
      front_lt := ?_
      back_lt := h.back_lt
      length_eq := ?_
      slot_eq := ?_ }
  · show (q.frontChunkIdx + 1).toNat < chunkSize.toNat
    rw [hsucc]
    exact hroom
  · show (q.frontChunkIdx + 1).toNat + xs.length = _
    rw [hsucc, ← hlength]
    omega
  · intro i hi
    show slot q.deque _ ((q.frontChunkIdx + 1).toNat + i) = _
    rw [hsucc]
    exact h.slot_succ hi

theorem Filled.nextChunk (h : Filled q (x :: xs)) (hmany : q.deque.length ≠ 1)
    (hfull : q.frontChunkIdx.toNat + 1 = chunkSize.toNat) :
    Filled
      ({ q with
         deque := q.deque.tail
         frontChunkIdx := 0 } : BufferQueue T chunkSize) xs := by
  rcases List.exists_cons_of_ne_nil h.deque_ne with ⟨chunk, rest, hdeque⟩
  rw [hdeque, List.length_cons] at hmany
  have hlength := h.length_eq
  have hfront := h.front_lt
  have hexpand : rest.length * chunkSize.toNat =
      (rest.length - 1) * chunkSize.toNat + chunkSize.toNat := by
    rw [← Nat.succ_mul]
    congr 1
    omega
  rw [List.length_cons, hdeque, List.length_cons, Nat.add_sub_cancel, hexpand] at hlength
  refine
    { nonempty := List.ne_nil_of_length_pos (by omega)
      deque_ne := ?_
      front_lt := ?_
      back_lt := h.back_lt
      length_eq := ?_
      slot_eq := ?_ }
  · show q.deque.tail ≠ []
    rw [hdeque]
    exact List.ne_nil_of_length_pos (by rw [List.tail_cons]; omega)
  · show (0 : UInt32).toNat < chunkSize.toNat
    rw [UInt32.toNat_zero]
    omega
  · show (0 : UInt32).toNat + xs.length = (q.deque.tail.length - 1) * _ +
      q.backChunkIdx.toNat + 1
    rw [hdeque, List.tail_cons, UInt32.toNat_zero]
    omega
  · intro i hi
    have hnext := h.slot_succ hi
    rw [show q.frontChunkIdx.toNat + 1 + i = chunkSize.toNat + i by omega, hdeque,
      slot_tail chunk rest (by omega)] at hnext
    show slot q.deque.tail _ ((0 : UInt32).toNat + i) = _
    rw [hdeque, List.tail_cons, UInt32.toNat_zero, Nat.zero_add]
    exact hnext

theorem Represents.popFront (h : Represents q (x :: xs)) :
    Represents q.popFront xs := by
  have hfilled := h.filled (List.cons_ne_nil x xs)
  have hlength := hfilled.length_eq
  have hsucc := toNat_succ hfilled.front_lt
  have hsucc' := toNat_succ hfilled.back_lt
  have hback := hfilled.back_lt
  rw [List.length_cons] at hlength
  rw [BufferQueue.popFront]
  split
  · rename_i hone
    rw [hone, Nat.sub_self, Nat.zero_mul, Nat.zero_add] at hlength
    split
    · rename_i hlast
      have hidx := congrArg UInt32.toNat hlast
      have hxs : xs = [] := List.eq_nil_of_length_eq_zero (by omega)
      have htail : q.deque.tail = [] :=
        List.eq_nil_of_length_eq_zero (by rw [List.length_tail, hone])
      exact Or.inl ⟨by rw [htail]; rfl, hxs⟩
    · rename_i hlast
      have hne : q.frontChunkIdx.toNat ≠ q.backChunkIdx.toNat := by
        intro heq
        apply hlast
        rw [UInt32.toNat_inj.mp heq]
      apply Or.inr
      apply hfilled.advance
      · exact List.ne_nil_of_length_pos (by omega)
      · omega
  · rename_i hmany
    have hpos := List.length_pos_iff.mpr hfilled.deque_ne
    split
    · rename_i hfull
      have hidx := congrArg UInt32.toNat hfull
      rw [hsucc] at hidx
      exact Or.inr (hfilled.nextChunk hmany hidx)
    · rename_i hfull
      have hne : q.frontChunkIdx.toNat + 1 ≠ chunkSize.toNat := by
        intro heq
        exact hfull (UInt32.toNat_inj.mp (by rw [hsucc, heq]))
      have hfront := hfilled.front_lt
      have hlarge : chunkSize.toNat ≤ (q.deque.length - 1) * chunkSize.toNat :=
        Nat.le_mul_of_pos_left _ (by omega)
      apply Or.inr
      apply hfilled.advance
      · exact List.ne_nil_of_length_pos (by omega)
      · omega

theorem popFront_empty (h : q.empty = true) : q.popFront.empty = true := by
  have hdeque : q.deque = [] := List.isEmpty_iff.mp h
  rw [BufferQueue.popFront, hdeque, List.length_nil, if_neg (by decide)]
  split <;> rfl

/-!
# Adding at the back

An element constructed in the slot after the last one is the last element of the list.
-/

theorem construct_length (deque : List (Chunk T)) (idx : Nat) (value : T) :
    (construct deque idx value).length = deque.length := by
  simp [construct]

theorem slot_construct {deque : List (Chunk T)} {n idx : Nat} (hdeque : deque ≠ [])
    (hidx : idx < n) (value : T) (i : Nat) :
    slot (construct deque idx value) n i =
      if i = (deque.length - 1) * n + idx then some value else slot deque n i := by
  have hlast : deque.length - 1 < deque.length :=
    Nat.sub_lt (List.length_pos_iff.mpr hdeque) Nat.one_pos
  have hdivMod := Nat.div_add_mod i n
  have hmod := Nat.mod_lt i (show 0 < n by omega)
  by_cases hchunk : i / n = deque.length - 1
  · have hget := List.getElem?_eq_getElem hlast
    have hiff : i = (deque.length - 1) * n + idx <-> i % n = idx := by
      rw [hchunk, Nat.mul_comm] at hdivMod
      omega
    simp only [slot, construct, hchunk, List.getElem?_modify_eq, hget, Option.map_eq_map,
      Option.map_some, Option.bind_some, hiff]
  · have hne : ¬ i = (deque.length - 1) * n + idx := by
      intro heq
      apply hchunk
      rw [heq, Nat.add_comm, Nat.add_mul_div_right _ _ (by omega),
        Nat.div_eq_of_lt hidx, Nat.zero_add]
    simp [slot, construct, Ne.symm hchunk, hne]

theorem slot_append_raw (deque : List (Chunk T)) {n i : Nat}
    (hi : i < deque.length * n) : slot (deque ++ [raw]) n i = slot deque n i := by
  have hchunk : i / n < deque.length := Nat.div_lt_of_lt_mul (by rwa [Nat.mul_comm])
  rw [slot, slot, List.getElem?_append_left hchunk]

theorem filled_construct (back : UInt32) {deque : List (Chunk T)} {front : UInt32}
    (hdeque : deque ≠ []) (hfront : front.toNat < chunkSize.toNat)
    (hback : back.toNat < chunkSize.toNat)
    (hlength : front.toNat + xs.length =
      (deque.length - 1) * chunkSize.toNat + back.toNat)
    (hslot : forall i, i < xs.length ->
      slot deque chunkSize.toNat (front.toNat + i) = xs[i]?) :
    Filled
      ({ deque := construct deque back.toNat x
         frontChunkIdx := front
         backChunkIdx := back } : BufferQueue T chunkSize) (xs ++ [x]) where
  nonempty := by simp
  deque_ne := by
    apply List.ne_nil_of_length_pos
    rw [construct_length]
    exact List.length_pos_iff.mpr hdeque
  front_lt := hfront
  back_lt := hback
  length_eq := by
    simp only [construct_length, List.length_append, List.length_singleton]
    omega
  slot_eq := by
    intro i hi
    simp only [slot_construct hdeque hback]
    rw [List.length_append, List.length_singleton] at hi
    by_cases hlast : i = xs.length
    · subst hlast
      rw [if_pos (by omega)]
      simp
    · rw [if_neg (by omega), List.getElem?_append_left (by omega)]
      exact hslot i (by omega)

theorem Represents.emplaceBack (hsize : 0 < chunkSize) (h : Represents q xs) (x : T) :
    Represents (q.emplaceBack x) (xs ++ [x]) := by
  have hpos : 0 < chunkSize.toNat := by simpa [UInt32.lt_iff_toNat_lt] using hsize
  right
  rcases h with ⟨rfl, rfl⟩ | h
  · have hnew : (new : BufferQueue T chunkSize).backChunkIdx + 1 = 0 := by
      show (-1 : UInt32) + 1 = 0
      decide
    have hne : ¬ (0 : UInt32) = chunkSize := by
      intro heq
      rw [← heq] at hpos
      exact absurd hpos (by decide)
    rw [BufferQueue.emplaceBack, hnew]
    simp only [if_neg hne]
    refine filled_construct 0 (List.cons_ne_nil raw []) hpos hpos ?_ (by simp)
    simp [new]
  · have hsucc := toNat_succ h.back_lt
    have hlength := h.length_eq
    have hdequePos := List.length_pos_iff.mpr h.deque_ne
    have hnonempty : q.deque.isEmpty = false := by simp [h.deque_ne]
    rw [BufferQueue.emplaceBack, hnonempty]
    simp only [Bool.false_eq_true, if_false]
    split
    · rename_i hfull
      have hidx := congrArg UInt32.toNat hfull
      have hall : q.deque.length * chunkSize.toNat =
          (q.deque.length - 1) * chunkSize.toNat + chunkSize.toNat := by
        rw [← Nat.succ_mul]
        congr 1
        omega
      apply filled_construct 0
      · simp
      · exact h.front_lt
      · exact hpos
      · rw [List.length_append, List.length_singleton, Nat.add_sub_cancel,
          UInt32.toNat_zero]
        omega
      · intro i hi
        rw [slot_append_raw q.deque (by omega)]
        exact h.slot_eq i hi
    · rename_i hfull
      apply filled_construct _ h.deque_ne h.front_lt
      · have hback := h.back_lt
        have hne : q.backChunkIdx.toNat + 1 ≠ chunkSize.toNat := by
          intro heq
          exact hfull (UInt32.toNat_inj.mp (by rw [hsucc, heq]))
        omega
      · omega
      · exact h.slot_eq

end Represents

end BufferQueue

end Buffer
end EventStoreClient
