import EventStoreClient.Foundation.Bytes

/-!
# Byte streams and dynamic buffers

A transport hands out its bytes in pieces of its own choosing.  A composed read
asks until it has the full count or the pieces run out; what it yields depends on
the bytes alone and not on the pieces.  The dynamic buffer is the growing vector
that composed reads fill.
-/

namespace EventStoreClient
namespace Foundation

/-!
# Composed reads

A read of a number of bytes takes pieces off the transport until it has them all, or the
transport fails.
-/

/-- Read `n` bytes: what was read, and the pieces that are left.  Fewer than `n`
bytes mean that the transport failed before the count was reached. -/
def asyncRead : List Bytes -> Nat -> Bytes × List Bytes
  | pieces, 0 => ([], pieces)
  | [], _ + 1 => ([], [])
  | piece :: rest, n + 1 =>
      if piece.length ≤ n + 1 then
        let (got, left) := asyncRead rest (n + 1 - piece.length)
        (piece ++ got, left)
      else
        (piece.take (n + 1), piece.drop (n + 1) :: rest)

theorem asyncRead_zero (pieces : List Bytes) : asyncRead pieces 0 = ([], pieces) := by
  cases pieces <;> rfl

theorem asyncRead_cons_of_le {piece : Bytes} {rest : List Bytes} {n : Nat}
    (hpos : 0 < n) (hle : piece.length ≤ n) :
    asyncRead (piece :: rest) n =
      (piece ++ (asyncRead rest (n - piece.length)).1,
        (asyncRead rest (n - piece.length)).2) := by
  cases n with
  | zero => cases hpos
  | succ n =>
      rw [asyncRead, if_pos hle]

theorem asyncRead_cons_of_lt {piece : Bytes} {rest : List Bytes} {n : Nat}
    (hpos : 0 < n) (hlt : n < piece.length) :
    asyncRead (piece :: rest) n = (piece.take n, piece.drop n :: rest) := by
  cases n with
  | zero => cases hpos
  | succ n =>
      rw [asyncRead, if_neg (Nat.not_le.mpr hlt)]

/-- A composed read takes the first `n` bytes of the stream, however it is cut. -/
theorem asyncRead_flatten (pieces : List Bytes) (n : Nat) :
    (asyncRead pieces n).1 = pieces.flatten.take n ∧
      (asyncRead pieces n).2.flatten = pieces.flatten.drop n := by
  induction pieces generalizing n with
  | nil =>
      cases n <;> simp [asyncRead]
  | cons piece rest ih =>
      rcases Nat.eq_zero_or_pos n with hzero | hpos
      · subst hzero
        simp [asyncRead_zero]
      · rcases Nat.lt_or_ge n piece.length with hlt | hle
        · rw [asyncRead_cons_of_lt hpos hlt]
          have htail : n - piece.length = 0 := by omega
          simp [List.take_append, List.drop_append, htail]
        · rw [asyncRead_cons_of_le hpos hle]
          rcases ih (n - piece.length) with ⟨hgot, hleft⟩
          rw [hgot, hleft, List.flatten_cons, List.take_append, List.drop_append,
            List.take_of_length_le hle, List.drop_of_length_le hle]
          simp

/-!
# Dynamic buffers

A vector of bytes, the first `size` of which are committed.  `prepare` makes room behind
them, and committing exactly what was filled in there appends it; `consume` removes bytes
from the front.
-/

structure DynamicBuffer where
  storage : Bytes
  size : Nat
  size_le : size ≤ storage.length

namespace DynamicBuffer

def ofVector (storage : Bytes) : DynamicBuffer :=
  { storage := storage
    size := storage.length
    size_le := le_refl _ }

def data (b : DynamicBuffer) : Bytes := b.storage.take b.size

def prepare (b : DynamicBuffer) (n : Nat) : DynamicBuffer :=
  { storage := b.data ++ ((b.storage.drop b.size).take n ++
      List.replicate (n - (b.storage.length - b.size)) 0)
    size := b.size
    size_le := by have := b.size_le; simp [data]; omega }

def fill (b : DynamicBuffer) (bytes : Bytes) : DynamicBuffer :=
  { storage := b.data ++ (bytes ++ b.storage.drop (b.size + bytes.length))
    size := b.size
    size_le := by have := b.size_le; simp [data]; omega }

/-- Move up to `n` bytes of the room to the committed bytes and drop the rest of it. -/
def commit (b : DynamicBuffer) (n : Nat) : DynamicBuffer :=
  { storage := b.storage.take (b.size + min n (b.storage.length - b.size))
    size := b.size + min n (b.storage.length - b.size)
    size_le := by have := b.size_le; simp; omega }

def consume (b : DynamicBuffer) (n : Nat) : DynamicBuffer :=
  { storage := b.storage.drop (min n b.size)
    size := b.size - min n b.size
    size_le := by have := b.size_le; simp; omega }

theorem data_length (b : DynamicBuffer) : b.data.length = b.size := by
  have := b.size_le
  simp [data, this]

@[simp] theorem prepare_size (b : DynamicBuffer) (n : Nat) :
    (b.prepare n).size = b.size := rfl

@[simp] theorem fill_size (b : DynamicBuffer) (bytes : Bytes) :
    (b.fill bytes).size = b.size := rfl

theorem commit_data (b : DynamicBuffer) (n : Nat) :
    (b.commit n).data =
      b.storage.take (b.size + min n (b.storage.length - b.size)) := by
  simp [data, commit]

theorem consume_all_size (b : DynamicBuffer) : (b.consume b.size).size = 0 := by
  simp [consume]

theorem prepare_data (b : DynamicBuffer) (n : Nat) : (b.prepare n).data = b.data := by
  have hlength := b.data_length
  rw [data, prepare]
  exact List.take_left' hlength

theorem prepare_length (b : DynamicBuffer) (n : Nat) :
    (b.prepare n).storage.length = b.size + n := by
  have := b.size_le
  have hlength := b.data_length
  simp [prepare, hlength]
  omega

/-- Filling all of the prepared room puts the bytes right behind the committed ones. -/
theorem prepare_fill_storage (b : DynamicBuffer) {n : Nat} {bytes : Bytes}
    (hbytes : bytes.length = n) :
    ((b.prepare n).fill bytes).storage = b.data ++ bytes := by
  have hroom : (b.prepare n).storage.drop (b.size + n) = [] := by
    apply List.drop_of_length_le
    rw [prepare_length]
  show (b.prepare n).data ++ (bytes ++ (b.prepare n).storage.drop
    ((b.prepare n).size + bytes.length)) = _
  rw [prepare_data, prepare_size, hbytes, hroom, List.append_nil]

theorem prepare_fill_commit_data (b : DynamicBuffer) {n : Nat} {bytes : Bytes}
    (hbytes : bytes.length = n) :
    (((b.prepare n).fill bytes).commit n).data = b.data ++ bytes := by
  have hstorage := b.prepare_fill_storage hbytes
  have hlength := b.data_length
  have htotal : ((b.prepare n).fill bytes).storage.length = b.size + n := by
    rw [hstorage, List.length_append, hlength, hbytes]
  rw [commit_data, htotal, hstorage, fill_size, prepare_size,
    Nat.add_sub_cancel_left, Nat.min_self]
  apply List.take_of_length_le
  rw [List.length_append, hlength, hbytes]

end DynamicBuffer

end Foundation
end EventStoreClient
