import EventStoreClient.Foundation.Bytes

/-!
# Base-128 numbers

Numbers written seven bits a byte, least significant first, with the high bit set on every
byte but the last.  A 64-bit number takes at most ten bytes, and a reader takes no more.
-/

namespace EventStoreClient
namespace Foundation

/-!
# Writing and reading

Seven bits in each byte, and the eighth one tells whether there are more.
-/

/-- The bytes of a number, of which at most `more` are followed by another one. -/
def varintBytes : Nat -> Nat -> Bytes
  | 0, n => [UInt8.ofNat n]
  | more + 1, n =>
      if n < 128 then [UInt8.ofNat n]
      else UInt8.ofNat (n % 128 + 128) :: varintBytes more (n / 128)

def writeVarint (n : Nat) : Bytes := varintBytes 9 n

/-- The number at the front of the bytes, which has at most `most` bytes itself. -/
def readDigits : Nat -> Bytes -> Option (Nat × Bytes)
  | 0, _ => none
  | _ + 1, [] => none
  | most + 1, b :: rest =>
      if b.toNat < 128 then some (b.toNat, rest)
      else (readDigits most rest).map fun r => (b.toNat - 128 + 128 * r.1, r.2)

/-- The bits beyond the 64th, for which the tenth byte has room, are dropped. -/
def readVarint (bytes : Bytes) : Option (UInt64 × Bytes) :=
  (readDigits 10 bytes).map fun r => (UInt64.ofNat r.1, r.2)

/-- The number of bytes, from the number of bits: 9 / 64 is a bit less than 1 / 7, which
makes no difference below 64 bits. -/
def varintSize (n : Nat) : Nat := (Nat.log2 (n ||| 1) * 9 + 73) / 64

/-!
# What is written is read back

Whatever comes behind the number is left to be read.
-/

theorem toNat_ofNat_of_lt {n : Nat} (h : n < 256) : (UInt8.ofNat n).toNat = n := by
  rw [UInt8.toNat_ofNat']
  exact Nat.mod_eq_of_lt h

theorem readDigits_varintBytes {more n : Nat} (h : n < 128 ^ (more + 1)) (rest : Bytes) :
    readDigits (more + 1) (varintBytes more n ++ rest) = some (n, rest) := by
  induction more generalizing n with
  | zero =>
      have hbyte : (UInt8.ofNat n).toNat = n := toNat_ofNat_of_lt (by omega)
      simp only [varintBytes, List.singleton_append, readDigits, hbyte]
      rw [if_pos (by omega)]
  | succ more ih =>
      by_cases hlast : n < 128
      · have hbyte : (UInt8.ofNat n).toNat = n := toNat_ofNat_of_lt (by omega)
        simp only [varintBytes, if_pos hlast, List.singleton_append, readDigits, hbyte]
      · have hbyte : (UInt8.ofNat (n % 128 + 128)).toNat = n % 128 + 128 :=
          toNat_ofNat_of_lt (by omega)
        have hquotient : n / 128 < 128 ^ (more + 1) := by
          rw [Nat.pow_succ] at h
          exact Nat.div_lt_of_lt_mul (by rwa [Nat.mul_comm])
        have hcontinued : ¬ n % 128 + 128 < 128 := by omega
        have hvalue : n % 128 + 128 - 128 + 128 * (n / 128) = n := by omega
        rw [varintBytes, if_neg hlast, List.cons_append, readDigits, hbyte,
          if_neg hcontinued, ih hquotient, Option.map_some]
        exact congrArg (fun value => some (value, rest)) hvalue

@[simp] theorem readVarint_writeVarint (v : UInt64) (rest : Bytes) :
    readVarint (writeVarint v.toNat ++ rest) = some (v, rest) := by
  have hfits : v.toNat < 128 ^ 10 := Nat.lt_trans v.toNat_lt (by decide)
  rw [readVarint, writeVarint, readDigits_varintBytes hfits]
  simp

theorem readVarint_writeVarint_of_lt {n : Nat} (h : n < 2 ^ 64) (rest : Bytes) :
    readVarint (writeVarint n ++ rest) = some (UInt64.ofNat n, rest) := by
  have hvalue : (UInt64.ofNat n).toNat = n := by
    rw [UInt64.toNat_ofNat']
    exact Nat.mod_eq_of_lt h
  have hread := readVarint_writeVarint (UInt64.ofNat n) rest
  rwa [hvalue] at hread

/-!
# What is read leaves fewer bytes

So a reader of many numbers ends.
-/

theorem readDigits_length {most : Nat} {bytes rest : Bytes} {n : Nat}
    (h : readDigits most bytes = some (n, rest)) : rest.length < bytes.length := by
  induction most generalizing bytes n with
  | zero => cases h
  | succ most ih =>
      cases bytes with
      | nil => cases h
      | cons b bytes =>
          rw [readDigits] at h
          rw [List.length_cons]
          by_cases hlast : b.toNat < 128
          · rw [if_pos hlast] at h
            cases h
            exact Nat.lt_succ_self _
          · rw [if_neg hlast, Option.map_eq_some_iff] at h
            rcases h with ⟨⟨m, after⟩, hread, heq⟩
            cases heq
            exact Nat.lt_succ_of_lt (ih hread)

section Read

variable {bytes rest : Bytes} {v : UInt64}

theorem readVarint_length (h : readVarint bytes = some (v, rest)) :
    rest.length < bytes.length := by
  rw [readVarint, Option.map_eq_some_iff] at h
  rcases h with ⟨⟨n, after⟩, hread, heq⟩
  cases heq
  exact readDigits_length hread

end Read

/-!
# Sizes

The size is computed without writing anything.
-/

theorem log2_or_one (n : Nat) : Nat.log2 (n ||| 1) = Nat.log2 n := by
  have hhalf : (n ||| 1) / 2 = n / 2 := by
    rw [Nat.or_div_two]
    exact Nat.or_zero _
  have hlarge : 2 ≤ n ||| 1 <-> 2 ≤ n := by
    omega
  rw [Nat.log2_def, Nat.log2_def n, hhalf]
  simp only [hlarge]

theorem log2_div_128 {n : Nat} (h : 128 ≤ n) : Nat.log2 n = Nat.log2 (n / 128) + 7 := by
  have hne : n / 128 ≠ 0 := by omega
  have hbounds := (Nat.log2_eq_iff hne).mp rfl
  rw [Nat.log2_eq_iff (by omega)]
  rw [Nat.pow_add] at hbounds
  rw [Nat.pow_add, Nat.pow_add, Nat.pow_add]
  omega

theorem varintBytes_length {more n : Nat} (h : n < 128 ^ (more + 1)) :
    (varintBytes more n).length = Nat.log2 n / 7 + 1 := by
  have hshort {m : Nat} (hm : m < 128) : Nat.log2 m / 7 + 1 = 1 := by
    by_cases hzero : m = 0
    · rw [hzero, Nat.log2_zero]
    · have hlog := (Nat.log2_lt (k := 7) hzero).mpr hm
      omega
  induction more generalizing n with
  | zero => rw [varintBytes, List.length_singleton, hshort (by omega)]
  | succ more ih =>
      by_cases hlast : n < 128
      · rw [varintBytes, if_pos hlast, List.length_singleton, hshort hlast]
      · have hquotient : n / 128 < 128 ^ (more + 1) := by
          rw [Nat.pow_succ] at h
          exact Nat.div_lt_of_lt_mul (by rwa [Nat.mul_comm])
        rw [varintBytes, if_neg hlast, List.length_cons, ih hquotient,
          log2_div_128 (Nat.le_of_not_lt hlast)]
        omega

theorem writeVarint_length {n : Nat} (h : n < 2 ^ 64) :
    (writeVarint n).length = varintSize n := by
  have hlog : Nat.log2 n < 64 := by
    by_cases hzero : n = 0
    · rw [hzero, Nat.log2_zero]
      decide
    · exact (Nat.log2_lt hzero).mpr h
  rw [writeVarint, varintBytes_length (Nat.lt_trans h (by decide)), varintSize, log2_or_one]
  omega

end Foundation
end EventStoreClient
