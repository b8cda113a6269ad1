import Mathlib.Data.Nat.Digits.Lemmas

/-!
# Bytes, little-endian words and tilings

The number formats and the interval arithmetic that a length-prefixed binary
format rests on.  Nothing here names a particular format.
-/

namespace EventStoreClient
namespace Foundation

abbrev Bytes := List UInt8

/-!
# Little-endian words

A number is written as its `width` low bytes, least significant first, and read back from
them; a 32-bit word can also be read as a two's complement number.
-/

def leBytes : Nat -> Nat -> Bytes
  | 0, _ => []
  | width + 1, n => UInt8.ofNat n :: leBytes width (n / 256)

def leNat (bytes : Bytes) : Nat :=
  Nat.ofDigits 256 (bytes.map UInt8.toNat)

def signed32 (n : Nat) : Int :=
  if n < 2 ^ 31 then n else n - 2 ^ 32

@[simp] theorem leBytes_length (width n : Nat) :
    (leBytes width n).length = width := by
  induction width generalizing n with
  | zero => rfl
  | succ width ih =>
      simp [leBytes, ih]

@[simp] theorem leNat_nil : leNat [] = 0 := rfl

theorem leNat_cons (b : UInt8) (rest : Bytes) :
    leNat (b :: rest) = b.toNat + 256 * leNat rest := by
  simp [leNat, Nat.ofDigits_cons]

theorem leNat_leBytes (width n : Nat) :
    leNat (leBytes width n) = n % 256 ^ width := by
  induction width generalizing n with
  | zero =>
      simp [leBytes, Nat.mod_one]
  | succ width ih =>
      rw [leBytes, leNat_cons, ih, Nat.pow_succ', Nat.mod_mul]
      simp

theorem signed32_of_lt {n : Nat} (h : n < 2 ^ 31) : signed32 n = n := by
  rw [signed32, if_pos h]

/-!
# Tilings

An interval is a start and a length.  A list of intervals tiles `[start, stop)`
when each begins where the one before it ends.
-/

def Tiles : Nat -> Nat -> List (Nat × Nat) -> Prop
  | start, stop, [] => start = stop
  | start, stop, (offset, size) :: rest =>
      offset = start ∧ Tiles (start + size) stop rest

def slice (memory : Nat -> UInt8) (offset size : Nat) : Bytes :=
  (List.range' offset size).map memory

@[simp] theorem slice_length (memory : Nat -> UInt8) (offset size : Nat) :
    (slice memory offset size).length = size := by
  simp [slice]

/-!
# Byte arrays in memory

A list of bytes at the start of a memory whose other cells are arbitrary.
-/

/-- A byte array at the start of a memory whose other cells are arbitrary. -/
def place (bytes : Bytes) (beyond : Nat -> UInt8) : Nat -> UInt8 :=
  fun i => (bytes[i]?).getD (beyond i)

theorem place_of_lt {bytes : Bytes} (beyond : Nat -> UInt8) {i : Nat}
    (h : i < bytes.length) : place bytes beyond i = bytes[i] := by
  simp [place, h]

theorem place_singleton (front : Bytes) (b : UInt8) (back : Bytes)
    (beyond : Nat -> UInt8) :
    place (front ++ [b] ++ back) beyond front.length = b := by
  simp [place]

/-- The slice of a placed array that starts after `front` and has the length of
`middle` is `middle`. -/
theorem slice_place (front middle back : Bytes) (beyond : Nat -> UInt8) :
    slice (place (front ++ middle ++ back) beyond) front.length middle.length =
      middle := by
  apply List.ext_getElem
  · simp
  · intro i hi hi'
    have hlt : front.length + i < (front ++ middle ++ back).length := by
      simp only [List.length_append]
      omega
    simp only [slice, List.getElem_map, List.getElem_range', one_mul]
    rw [place_of_lt beyond hlt, List.getElem_append_left (by simp; omega),
      List.getElem_append_right (by omega)]
    simp

end Foundation
end EventStoreClient
