import EventStoreClient.Foundation.Varint

/-!
# Numbered fields on the wire

A message is a sequence of records, each a field number with a payload whose form is told
from the tag.  A reader finds the records without knowing what the fields mean.  It has a
budget of messages and groups that may be open inside of one another, and refuses to open
one more.
-/

namespace EventStoreClient
namespace Foundation

/-!
# Records

A record is a field number and a payload; the low three bits of a tag tell which form the
payload has.  What is inside of a group is skipped.  The numbers of fields are those of 29
bits, from one on.
-/

inductive Payload where
  | varint (value : UInt64)
  | fixed64 (bytes : Bytes)
  | lengthDelimited (bytes : Bytes)
  | group
  | fixed32 (bytes : Bytes)
  deriving DecidableEq, Repr

structure Record where
  number : Nat
  payload : Payload
  deriving DecidableEq, Repr

def Payload.wireType : Payload -> Nat
  | varint _ => 0
  | fixed64 _ => 1
  | lengthDelimited _ => 2
  | group => 3
  | fixed32 _ => 5

def endGroup : Nat := 4

structure Tag where
  number : Nat
  wireType : Nat
  deriving DecidableEq, Repr

def Tag.value (tag : Tag) : Nat := tag.number * 8 + tag.wireType

def Record.tag (r : Record) : Tag :=
  { number := r.number
    wireType := r.payload.wireType }

def Payload.write : Payload -> Bytes
  | varint value => writeVarint value.toNat
  | fixed64 bytes => bytes
  | lengthDelimited bytes => writeVarint bytes.length ++ bytes
  | group => []
  | fixed32 bytes => bytes

def Record.write (r : Record) : Bytes := writeVarint r.tag.value ++ r.payload.write

/-- The payloads that a writer writes and that have a size that fits an `int`. -/
def Payload.Writable : Payload -> Prop
  | varint _ => True
  | fixed64 bytes => bytes.length = 8
  | lengthDelimited bytes => bytes.length < 2 ^ 31
  | group => False
  | fixed32 bytes => bytes.length = 4

structure Record.Writable (r : Record) : Prop where
  number_pos : 0 < r.number
  number_lt : r.number < 2 ^ 29
  payload : r.payload.Writable

/-!
# Reading

A tag is a number of 32 bits, and no field has the number zero.  A group is skipped up to
its own end, within a budget for the groups inside of it.
-/

def readTag (bytes : Bytes) : Option (Tag × Bytes) :=
  match readVarint bytes with
  | none => none
  | some (v, rest) =>
      let tag := v.toUInt32.toNat
      if tag / 8 = 0 then none
      else some ({ number := tag / 8, wireType := tag % 8 }, rest)

def takeBytes (n : Nat) (bytes : Bytes) : Option (Bytes × Bytes) :=
  if n ≤ bytes.length then some (bytes.take n, bytes.drop n) else none

def readPayload (wireType : Nat) (bytes : Bytes) : Option (Payload × Bytes) :=
  match wireType with
  | 0 => (readVarint bytes).map fun r => (Payload.varint r.1, r.2)
  | 1 => (takeBytes 8 bytes).map fun r => (Payload.fixed64 r.1, r.2)
  | 2 =>
      match readVarint bytes with
      | none => none
      | some (size, rest) =>
          if size.toNat < 2 ^ 31 then
            (takeBytes size.toNat rest).map fun r => (Payload.lengthDelimited r.1, r.2)
          else none
  | 5 => (takeBytes 4 bytes).map fun r => (Payload.fixed32 r.1, r.2)
  | _ => none

/-- What is behind a group, whose records end with a tag of their own.  Each one takes a
byte at least, which bounds the steps. -/
def skipGroup : Nat -> Nat -> Nat -> Bytes -> Option Bytes
  | 0, _, _, _ => none
  | steps + 1, budget, number, bytes =>
      match readTag bytes with
      | none => none
      | some (tag, rest) =>
          if tag.wireType = endGroup then
            if tag.number = number then some rest else none
          else if tag.wireType = Payload.group.wireType then
            match budget with
            | 0 => none
            | inner + 1 =>
                match skipGroup steps inner tag.number rest with
                | none => none
                | some rest => skipGroup steps (inner + 1) number rest
          else
            match readPayload tag.wireType rest with
            | none => none
            | some (_, rest) => skipGroup steps budget number rest

def readRecord (budget : Nat) (bytes : Bytes) : Option (Record × Bytes) :=
  match readTag bytes with
  | none => none
  | some (tag, rest) =>
      if tag.wireType = Payload.group.wireType then
        match budget with
        | 0 => none
        | inner + 1 =>
            (skipGroup bytes.length inner tag.number rest).map fun rest =>
              ({ number := tag.number, payload := Payload.group }, rest)
      else
        (readPayload tag.wireType rest).map fun r =>
          ({ number := tag.number, payload := r.1 }, r.2)

/-- The records up to the end of the bytes, or up to the first that cannot be read. -/
structure Records where
  records : List Record
  complete : Bool
  deriving DecidableEq, Repr

def Records.cons (r : Record) (rs : Records) : Records :=
  { records := r :: rs.records
    complete := rs.complete }

def readUpTo (budget : Nat) : Nat -> Bytes -> Records
  | _, [] => { records := [], complete := true }
  | 0, _ :: _ => { records := [], complete := false }
  | steps + 1, b :: bytes =>
      match readRecord budget (b :: bytes) with
      | none => { records := [], complete := false }
      | some (r, rest) => (readUpTo budget steps rest).cons r

def readRecords (budget : Nat) (bytes : Bytes) : Records :=
  readUpTo budget bytes.length bytes

/-!
# What is read leaves fewer bytes

Every record takes some of the bytes, so reading them all ends.
-/

section Lengths

variable {budget : Nat} {bytes rest : Bytes}

theorem readTag_length {tag : Tag} (h : readTag bytes = some (tag, rest)) :
    rest.length < bytes.length := by
  unfold readTag at h
  cases hread : readVarint bytes with
  | none =>
      rw [hread] at h
      cases h
  | some r =>
      rcases r with ⟨v, after⟩
      simp only [hread] at h
      split at h
      · cases h
      · cases h
        exact readVarint_length hread

theorem takeBytes_length {n : Nat} {front : Bytes}
    (h : takeBytes n bytes = some (front, rest)) : rest.length ≤ bytes.length := by
  unfold takeBytes at h
  split at h
  · cases h
    rw [List.length_drop]
    omega
  · cases h

theorem readPayload_length {wireType : Nat} {p : Payload}
    (h : readPayload wireType bytes = some (p, rest)) : rest.length ≤ bytes.length := by
  unfold readPayload at h
  split at h
  · rw [Option.map_eq_some_iff] at h
    rcases h with ⟨⟨v, after⟩, hread, heq⟩
    cases heq
    exact Nat.le_of_lt (readVarint_length hread)
  · rw [Option.map_eq_some_iff] at h
    rcases h with ⟨⟨front, after⟩, hread, heq⟩
    cases heq
    exact takeBytes_length hread
  · cases hsize : readVarint bytes with
    | none =>
        rw [hsize] at h
        cases h
    | some r =>
        rcases r with ⟨size, after⟩
        simp only [hsize] at h
        split at h
        · rw [Option.map_eq_some_iff] at h
          rcases h with ⟨⟨front, last⟩, hread, heq⟩
          cases heq
          exact Nat.le_trans (takeBytes_length hread) (Nat.le_of_lt (readVarint_length hsize))
        · cases h
  · rw [Option.map_eq_some_iff] at h
    rcases h with ⟨⟨front, after⟩, hread, heq⟩
    cases heq
    exact takeBytes_length hread
  · cases h

theorem skipGroup_length {steps number : Nat}
    (h : skipGroup steps budget number bytes = some rest) : rest.length ≤ bytes.length := by
  induction steps generalizing budget number bytes rest with
  | zero => cases h
  | succ steps ih =>
      unfold skipGroup at h
      cases htag : readTag bytes with
      | none =>
          rw [htag] at h
          cases h
      | some r =>
          rcases r with ⟨tag, after⟩
          have hshorter := Nat.le_of_lt (readTag_length htag)
          simp only [htag] at h
          split at h
          · split at h
            · cases h
              exact hshorter
            · cases h
          · split at h
            · cases budget with
              | zero => cases h
              | succ inner =>
                  cases hinner : skipGroup steps inner tag.number after with
                  | none =>
                      simp only [hinner] at h
                      cases h
                  | some between =>
                      simp only [hinner] at h
                      exact ((ih h).trans (ih hinner)).trans hshorter
            · cases hpayload : readPayload tag.wireType after with
              | none =>
                  rw [hpayload] at h
                  cases h
              | some r =>
                  rcases r with ⟨p, between⟩
                  simp only [hpayload] at h
                  exact ((ih h).trans (readPayload_length hpayload)).trans hshorter

theorem readRecord_length {r : Record} (h : readRecord budget bytes = some (r, rest)) :
    rest.length < bytes.length := by
  unfold readRecord at h
  cases htag : readTag bytes with
  | none =>
      rw [htag] at h
      cases h
  | some t =>
      rcases t with ⟨tag, after⟩
      have hshorter := readTag_length htag
      simp only [htag] at h
      split at h
      · cases budget with
        | zero => cases h
        | succ inner =>
            simp only [Option.map_eq_some_iff] at h
            rcases h with ⟨last, hskip, heq⟩
            cases heq
            exact Nat.lt_of_le_of_lt (skipGroup_length hskip) hshorter
      · rw [Option.map_eq_some_iff] at h
        rcases h with ⟨⟨p, last⟩, hpayload, heq⟩
        cases heq
        exact Nat.lt_of_le_of_lt (readPayload_length hpayload) hshorter

end Lengths

/-!
# Sequences of records

Records are read until the bytes are used up; any number of steps that is large enough
gives the same.
-/

variable {budget : Nat}

theorem readUpTo_of_le {steps : Nat} {bytes : Bytes} (h : bytes.length ≤ steps) :
    readUpTo budget steps bytes = readRecords budget bytes := by
  suffices hsame : forall (n steps : Nat) (bytes : Bytes), bytes.length ≤ n ->
      bytes.length ≤ steps -> readUpTo budget steps bytes = readUpTo budget n bytes from
    hsame bytes.length steps bytes (Nat.le_refl _) h
  intro n
  induction n with
  | zero =>
      intro steps bytes hn _
      cases bytes with
      | nil => cases steps <;> rfl
      | cons b bytes => cases hn
  | succ n ih =>
      intro steps bytes hn hsteps
      cases bytes with
      | nil => cases steps <;> rfl
      | cons b bytes =>
          cases steps with
          | zero => cases hsteps
          | succ steps =>
              rw [readUpTo, readUpTo]
              cases hread : readRecord budget (b :: bytes) with
              | none => rfl
              | some r =>
                  rcases r with ⟨r, rest⟩
                  have hshorter := readRecord_length hread
                  rw [List.length_cons] at hshorter hn hsteps
                  exact congrArg (Records.cons r) (ih steps rest (by omega) (by omega))

@[simp] theorem readRecords_nil :
    readRecords budget [] = { records := [], complete := true } := rfl

theorem readRecords_of_readRecord {bytes rest : Bytes} {r : Record}
    (h : readRecord budget bytes = some (r, rest)) :
    readRecords budget bytes = (readRecords budget rest).cons r := by
  have hshorter := readRecord_length h
  cases bytes with
  | nil => cases hshorter
  | cons b bytes =>
      rw [readRecords, List.length_cons, readUpTo, h]
      rw [List.length_cons] at hshorter
      exact congrArg (Records.cons r) (readUpTo_of_le (by omega))

/-!
# What is written is read back

Records that are written one after another are read in the same order.
-/

theorem readTag_write {tag : Tag} (hpos : 0 < tag.number) (hnumber : tag.number < 2 ^ 29)
    (hwireType : tag.wireType < 8) (rest : Bytes) :
    readTag (writeVarint tag.value ++ rest) = some (tag, rest) := by
  have hvalue : tag.value < 2 ^ 32 := by
    unfold Tag.value
    omega
  have hword : (UInt64.ofNat tag.value).toUInt32.toNat = tag.value := by
    rw [UInt64.toNat_toUInt32, UInt64.toNat_ofNat']
    omega
  have hquotient : tag.value / 8 = tag.number := by
    unfold Tag.value
    omega
  have hremainder : tag.value % 8 = tag.wireType := by
    unfold Tag.value
    omega
  rw [readTag, readVarint_writeVarint_of_lt (by omega)]
  simp only [hword, hquotient, hremainder]
  rw [if_neg (by omega)]

theorem takeBytes_length_append (front rest : Bytes) :
    takeBytes front.length (front ++ rest) = some (front, rest) := by
  rw [takeBytes, if_pos (by rw [List.length_append]; omega), List.take_left, List.drop_left]

theorem readPayload_write {p : Payload} (h : p.Writable) (rest : Bytes) :
    readPayload p.wireType (p.write ++ rest) = some (p, rest) := by
  cases p with
  | varint value =>
      simp only [Payload.wireType, Payload.write, readPayload, readVarint_writeVarint,
        Option.map_some]
  | fixed64 bytes =>
      have htake := takeBytes_length_append bytes rest
      rw [show bytes.length = 8 from h] at htake
      simp only [Payload.wireType, Payload.write, readPayload, htake, Option.map_some]
  | lengthDelimited bytes =>
      have hfits : bytes.length < 2 ^ 31 := h
      have hword : (UInt64.ofNat bytes.length).toNat = bytes.length := by
        rw [UInt64.toNat_ofNat']
        omega
      simp only [Payload.wireType, Payload.write, readPayload, List.append_assoc,
        readVarint_writeVarint_of_lt (show bytes.length < 2 ^ 64 by omega), hword,
        if_pos hfits, takeBytes_length_append, Option.map_some]
  | group => cases h
  | fixed32 bytes =>
      have htake := takeBytes_length_append bytes rest
      rw [show bytes.length = 4 from h] at htake
      simp only [Payload.wireType, Payload.write, readPayload, htake, Option.map_some]

theorem Payload.Writable.wireType {p : Payload} (h : p.Writable) :
    p.wireType < 8 ∧ p.wireType ≠ group.wireType := by
  cases p with
  | group => cases h
  | _ => simp [Payload.wireType]

theorem readRecord_write {r : Record} (h : r.Writable) (rest : Bytes) :
    readRecord budget (r.write ++ rest) = some (r, rest) := by
  rcases h.payload.wireType with ⟨hwireType, hgroup⟩
  rw [readRecord, Record.write, List.append_assoc,
    readTag_write h.number_pos h.number_lt hwireType]
  rw [← show r.tag.wireType = r.payload.wireType from rfl] at hgroup
  simp only [if_neg hgroup]
  rw [show r.tag.wireType = r.payload.wireType from rfl, readPayload_write h.payload,
    Option.map_some]
  rfl

theorem readRecords_write {records : List Record} (h : forall r, r ∈ records -> r.Writable) :
    readRecords budget (records.flatMap Record.write) =
      { records := records, complete := true } := by
  induction records with
  | nil => rfl
  | cons r records ih =>
      rw [List.flatMap_cons,
        readRecords_of_readRecord (readRecord_write (h r List.mem_cons_self) _),
        ih fun r' hr' => h r' (List.mem_cons_of_mem r hr')]
      rfl

end Foundation
end EventStoreClient
