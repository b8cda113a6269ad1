import EventStoreClient.Foundation.MessageTypes

/-!
# The types of single values

Numbers, truth values and enumerations are written as base-128 numbers, strings and messages
behind their length.  What has the form of another type is passed over.
-/

namespace EventStoreClient
namespace Foundation

namespace FieldType

/-!
# Numbers

A negative `int32` is extended to 64 bits before it is written, and a reader of 32 bits
drops the others.
-/

/-- Values that are written as a 64-bit number.  `ofWord` is `none` for a number that is no
value of the type. -/
def varint (Carrier : Type) (zero : Carrier) (toWord : Carrier -> UInt64)
    (ofWord : UInt64 -> Option Carrier) (size : Carrier -> Nat)
    (ofWord_toWord : forall v, ofWord (toWord v) = some v)
    (size_eq : forall v, size v = varintSize (toWord v).toNat) : FieldType :=
  { Carrier := Carrier
    zero := zero
    wireType := 0
    depth := 0
    decode := fun _ p _ =>
      match p with
      | .varint word => (ofWord word).elim Decoded.unknown Decoded.value
      | _ => Decoded.unknown
    payload := fun v => Payload.varint (toWord v)
    write := fun v => writeVarint (toWord v).toNat
    size := size
    combine := fun _ v => v
    initialized := fun _ => true
    Fits := fun _ => True
    wireType_eq := fun _ => rfl
    writable := fun _ _ => trivial
    write_eq := fun _ _ => rfl
    size_eq := fun v _ => by rw [size_eq v, writeVarint_length (UInt64.toNat_lt _)]
    decode_payload := fun _ _ v _ _ => by simp only [ofWord_toWord v, Option.elim_some]
    combine_zero := fun _ => rfl
    fits_of_size := fun _ _ => trivial }

def int64 : FieldType :=
  varint Int64 0 Int64.toUInt64 (fun word => some word.toInt64)
    (fun v => varintSize v.toUInt64.toNat) (fun _ => rfl) (fun _ => rfl)

def int32Size (v : Int32) : Nat := if v < 0 then 10 else varintSize v.toUInt32.toNat

theorem toInt_eq_bmod (v : Int64) : v.toInt = (v.toUInt64.toNat : Int).bmod (2 ^ 64) :=
  BitVec.toInt_eq_toNat_bmod v.toBitVec

theorem toInt32_eq_bmod (v : Int32) : v.toInt = (v.toUInt32.toNat : Int).bmod (2 ^ 32) :=
  BitVec.toInt_eq_toNat_bmod v.toBitVec

theorem toNat_toUInt64_toInt64 (v : Int32) :
    (v.toInt64.toUInt64.toNat : Int) = if v < 0 then v.toInt + 2 ^ 64 else v.toInt := by
  have hword := toInt_eq_bmod v.toInt64
  have hlt := UInt64.toNat_lt v.toInt64.toUInt64
  have hsign : v < 0 <-> v.toInt < 0 := Int32.lt_iff_toInt_lt
  rw [Int32.toInt_toInt64, Int.bmod] at hword
  simp only [hsign]
  split at hword
  · split
    · omega
    · omega
  · split
    · omega
    · omega

theorem int32Size_eq (v : Int32) : int32Size v = varintSize v.toInt64.toUInt64.toNat := by
  have hword := toNat_toUInt64_toInt64 v
  have hlower := v.le_toInt
  unfold int32Size
  by_cases hneg : v < 0
  · have hnegative : v.toInt < 0 := Int32.lt_iff_toInt_lt.mp hneg
    rw [if_pos hneg] at hword ⊢
    have hlog : Nat.log2 v.toInt64.toUInt64.toNat = 63 := by
      rw [Nat.log2_eq_iff (by omega)]
      omega
    rw [varintSize, log2_or_one, hlog]
  · have hnonneg : ¬ v.toInt < 0 := fun h => hneg (Int32.lt_iff_toInt_lt.mpr h)
    have hlow := toInt32_eq_bmod v
    have hlt := UInt32.toNat_lt v.toUInt32
    rw [if_neg hneg] at hword ⊢
    rw [Int.bmod] at hlow
    have hsame : v.toUInt32.toNat = v.toInt64.toUInt64.toNat := by
      split at hlow
      · omega
      · omega
    rw [hsame]

theorem toInt_toUInt32_toInt32 (word : UInt64) :
    word.toUInt32.toInt32.toInt = (word.toNat : Int).bmod (2 ^ 32) := by
  have hlow : (word.toUInt32.toNat : Int) = (word.toNat : Int) % 2 ^ 32 := by
    rw [UInt64.toNat_toUInt32]
    exact Int.natCast_emod _ _
  rw [toInt32_eq_bmod, UInt32.toUInt32_toInt32, hlow]
  exact Int.emod_bmod _ _

theorem toInt32_toInt64 (v : Int32) : v.toInt64.toUInt64.toUInt32.toInt32 = v := by
  have hword := toNat_toUInt64_toInt64 v
  have hlower := v.le_toInt
  have hupper := v.toInt_lt
  apply Int32.toInt_inj.mp
  rw [toInt_toUInt32_toInt32, hword, Int.bmod]
  split
  · split
    · omega
    · omega
  · split
    · omega
    · omega

def int32 : FieldType :=
  varint Int32 0 (fun v => v.toInt64.toUInt64) (fun word => some word.toUInt32.toInt32)
    int32Size (fun v => congrArg some (toInt32_toInt64 v)) int32Size_eq

def bool : FieldType :=
  varint Bool false (fun b => if b then 1 else 0) (fun word => some (word ≠ 0)) (fun _ => 1)
    (fun b => by cases b <;> rfl) (fun b => by cases b <;> rfl)

/-- An enumeration with the numbers of its values, of which none is negative. -/
structure Enumeration (alpha : Type) where
  zero : alpha
  number : alpha -> Nat
  ofNumber : Int -> Option alpha
  number_lt : forall a, number a < 2 ^ 31
  ofNumber_number : forall a, ofNumber (number a) = some a

/-- All the values, in the order of their numbers, of which the first is zero. -/
def Enumeration.ofValues [DecidableEq alpha] (zero : alpha) (others : List alpha)
    (hall : forall a, a ∈ zero :: others) (hshort : others.length < 2 ^ 31 - 1) :
    Enumeration alpha :=
  { zero := zero
    number := (zero :: others).idxOf
    ofNumber := fun n => if n < 0 then none else (zero :: others)[n.toNat]?
    number_lt := fun a => by
      have hplace := List.idxOf_lt_length_of_mem (hall a)
      rw [List.length_cons] at hplace
      omega
    ofNumber_number := fun a => by
      have hplace := List.idxOf_lt_length_of_mem (hall a)
      rw [if_neg (Int.not_lt.mpr (Int.natCast_nonneg _)), Int.toNat_natCast,
        List.getElem?_eq_getElem hplace, List.getElem_idxOf hplace] }

def enumeration (e : Enumeration alpha) : FieldType :=
  varint alpha e.zero (fun a => UInt64.ofNat (e.number a))
    (fun word => e.ofNumber word.toUInt32.toInt32.toInt)
    (fun a => varintSize (e.number a))
    (fun a => by
      have hlt := e.number_lt a
      have hword : (UInt64.ofNat (e.number a)).toUInt32.toInt32.toInt = e.number a := by
        rw [toInt_toUInt32_toInt32, UInt64.toNat_ofNat', Nat.mod_eq_of_lt (by omega), Int.bmod]
        split
        · omega
        · omega
      rw [hword, e.ofNumber_number])
    (fun a => by
      have hlt := e.number_lt a
      rw [UInt64.toNat_ofNat', Nat.mod_eq_of_lt (by omega)])

/-!
# Strings and messages

Fields whose payload is a length and as many bytes.
-/

def bytes : FieldType :=
  { Carrier := Bytes
    zero := []
    wireType := 2
    depth := 0
    decode := fun _ p _ =>
      match p with
      | .lengthDelimited value => Decoded.value value
      | _ => Decoded.unknown
    payload := Payload.lengthDelimited
    write := fun value => writeVarint value.length ++ value
    size := fun value => varintSize value.length + value.length
    combine := fun _ value => value
    initialized := fun _ => true
    Fits := fun value => value.length < 2 ^ 31
    wireType_eq := fun _ => rfl
    writable := fun _ h => h
    write_eq := fun _ _ => rfl
    size_eq := fun value h => by
      rw [List.length_append, writeVarint_length (Nat.lt_trans h (by decide))]
    decode_payload := fun _ _ _ _ _ => rfl
    combine_zero := fun _ => rfl
    fits_of_size := fun _ h => Nat.lt_of_le_of_lt (Nat.le_add_left _ _) h }

/-- A message is merged into the one that is there, if the budget allows one more, and is
written behind the size that has been counted for it. -/
def message (M : MessageType) : FieldType :=
  { Carrier := M.Message
    zero := M.empty
    wireType := 2
    depth := depthOf M.fields + 1
    decode := fun budget p old =>
      match budget, p with
      | 0, .lengthDelimited _ => Decoded.failure old
      | budget + 1, .lengthDelimited value =>
          let merged := M.mergePartialFromCodedStream budget value old
          if merged.ok then Decoded.value merged.message else Decoded.failure merged.message
      | _, _ => Decoded.unknown
    payload := fun m => Payload.lengthDelimited (M.serializeWithCachedSizes m)
    write := fun m => writeVarint (M.byteSizeLong m) ++ M.serializeWithCachedSizes m
    size := fun m => varintSize (M.byteSizeLong m) + M.byteSizeLong m
    combine := M.mergeFrom
    initialized := M.isInitialized
    Fits := M.Fits
    wireType_eq := fun _ => rfl
    writable := fun m h => by
      show (M.serializeWithCachedSizes m).length < 2 ^ 31
      rw [← MessageType.byteSizeLong_eq h]
      exact h.right
    write_eq := fun m h => by
      show _ = writeVarint (M.serializeWithCachedSizes m).length ++ _
      rw [← MessageType.byteSizeLong_eq h]
    size_eq := fun m h => by
      rw [List.length_append, writeVarint_length (Nat.lt_trans h.right (by decide)),
        ← MessageType.byteSizeLong_eq h]
    decode_payload := fun budget old m hdepth h => by
      cases budget with
      | zero => cases hdepth
      | succ inner =>
          have hinner := Nat.le_of_succ_le_succ hdepth
          simp only [MessageType.mergePartial_serialize hinner h old, if_true]
    combine_zero := MessageType.mergeFrom_empty
    fits_of_size := fun _ h =>
      MessageType.fits_of_size (Nat.lt_of_le_of_lt (Nat.le_add_left _ _) h) }

end FieldType

end Foundation
end EventStoreClient
