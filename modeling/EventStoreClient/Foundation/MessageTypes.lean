import EventStoreClient.Foundation.WireFormat
import Mathlib.Algebra.Order.BigOperators.Group.List
import Mathlib.Data.List.Nodup

/-!
# Message types

A message type is a list of fields with distinct numbers.  Its messages are read record by
record: a field that is there twice is merged, and what belongs to no field is passed over.
Every message inside of another one is read with one less of the budget, and the types nest
less deeply than the budget that a reader starts with.
-/

namespace EventStoreClient
namespace Foundation

/-!
# The types of fields

A type of field knows how one of its values is written as payloads, read, and merged.
-/

/-- What a payload says to a field: a new value, nothing that the field knows, or a message
that cannot be read to its end. -/
inductive Decoded (alpha : Type) where
  | value (v : alpha)
  | unknown
  | failure (left : alpha)

def Decoded.map (f : alpha -> beta) : Decoded alpha -> Decoded beta
  | value v => value (f v)
  | unknown => unknown
  | failure left => failure (f left)

/-- A type of single values.  `decode` merges a payload into the value that is there, or
into `zero`; `write` is what is behind the tag, and `size` counts it beforehand.  `depth` is
the budget that the messages inside of a value take. -/
structure FieldType where
  Carrier : Type
  zero : Carrier
  wireType : Nat
  depth : Nat
  decode : Nat -> Payload -> Carrier -> Decoded Carrier
  payload : Carrier -> Payload
  write : Carrier -> Bytes
  size : Carrier -> Nat
  combine : Carrier -> Carrier -> Carrier
  initialized : Carrier -> Bool
  Fits : Carrier -> Prop
  wireType_eq : forall v, (payload v).wireType = wireType
  writable : forall v, Fits v -> (payload v).Writable
  write_eq : forall v, Fits v -> write v = (payload v).write
  size_eq : forall v, Fits v -> size v = (write v).length
  decode_payload : forall budget old v, depth ≤ budget -> Fits v ->
    decode budget (payload v) old = Decoded.value (combine old v)
  combine_zero : forall v, combine zero v = v
  fits_of_size : forall v, size v < 2 ^ 31 -> Fits v

/-!
# Fields

A field has the values that are there, in order.  `merge` takes in one more payload for
it, and `combine` is the `MergeFrom` of one field.
-/

/-- A field with at most one value, which a message may have to have, or one with any
number of them. -/
inductive Field where
  | single (isRequired : Bool) (number : Nat) (type : FieldType)
  | repeated (number : Nat) (type : FieldType)

namespace Field

def required : Nat -> FieldType -> Field := single true

def optional : Nat -> FieldType -> Field := single false

def number : Field -> Nat
  | single _ number _ => number
  | repeated number _ => number

def type : Field -> FieldType
  | single _ _ type => type
  | repeated _ type => type

def Slot : Field -> Type
  | single _ _ type => Option type.Carrier
  | repeated _ type => List type.Carrier

def empty : (f : Field) -> f.Slot
  | single _ _ _ => none
  | repeated _ _ => []

def elements : (f : Field) -> f.Slot -> List f.type.Carrier
  | single _ _ _, slot => Option.toList slot
  | repeated _ _, slot => slot

def merge (budget : Nat) : (f : Field) -> Payload -> f.Slot -> Decoded f.Slot
  | single _ _ type, p, slot => (type.decode budget p (Option.getD slot type.zero)).map some
  | repeated _ type, p, slot =>
      (type.decode budget p type.zero).map fun v => List.append slot [v]

def combine : (f : Field) -> f.Slot -> f.Slot -> f.Slot
  | single _ _ type, old, new =>
      Option.elim new old fun v => some (type.combine (Option.getD old type.zero) v)
  | repeated _ _, old, new => List.append old new

def tag (f : Field) : Tag :=
  { number := f.number
    wireType := f.type.wireType }

def write (f : Field) (slot : f.Slot) : Bytes :=
  (f.elements slot).flatMap fun v => writeVarint f.tag.value ++ f.type.write v

def size (f : Field) (slot : f.Slot) : Nat :=
  ((f.elements slot).map fun v => varintSize f.tag.value + f.type.size v).sum

def initialized : (f : Field) -> f.Slot -> Bool
  | single true _ type, slot => Option.any type.initialized slot
  | single false _ type, slot => Option.all type.initialized slot
  | repeated _ type, slot => List.all slot type.initialized

def Fits (f : Field) (slot : f.Slot) : Prop :=
  forall v, v ∈ f.elements slot -> f.type.Fits v

def record (f : Field) (v : f.type.Carrier) : Record :=
  { number := f.number
    payload := f.type.payload v }

end Field

/-!
# Messages

A message has one slot for each field of its type.  Reading gives each record to the field
with its number, if there is one; the budget is for the messages inside of messages.
-/

def Values : List Field -> Type
  | [] => Unit
  | f :: fields => f.Slot × Values fields

/-- A message with the bytes read up to the end, or up to where they could not be. -/
structure Merged (alpha : Type) where
  message : alpha
  ok : Bool

namespace Values

def empty : (fields : List Field) -> Values fields
  | [] => ()
  | f :: fields => (f.empty, empty fields)

def mergeRecord (budget : Nat) :
    (fields : List Field) -> Record -> Values fields -> Decoded (Values fields)
  | [], _, _ => Decoded.unknown
  | f :: fields, r, (slot, rest) =>
      if r.number = f.number then (f.merge budget r.payload slot).map fun slot => (slot, rest)
      else (mergeRecord budget fields r rest).map fun rest => (slot, rest)

def mergeRecords (budget : Nat) (fields : List Field) :
    List Record -> Values fields -> Merged (Values fields)
  | [], m => { message := m, ok := true }
  | r :: records, m =>
      match mergeRecord budget fields r m with
      | Decoded.value m => mergeRecords budget fields records m
      | Decoded.unknown => mergeRecords budget fields records m
      | Decoded.failure left => { message := left, ok := false }

def combine : (fields : List Field) -> Values fields -> Values fields -> Values fields
  | [], _, _ => ()
  | f :: fields, (old, olds), (new, news) => (f.combine old new, combine fields olds news)

def write : (fields : List Field) -> Values fields -> Bytes
  | [], _ => []
  | f :: fields, (slot, rest) => f.write slot ++ write fields rest

def size : (fields : List Field) -> Values fields -> Nat
  | [], _ => 0
  | f :: fields, (slot, rest) => f.size slot + size fields rest

def initialized : (fields : List Field) -> Values fields -> Bool
  | [], _ => true
  | f :: fields, (slot, rest) => f.initialized slot && initialized fields rest

def Fits : (fields : List Field) -> Values fields -> Prop
  | [], _ => True
  | f :: fields, (slot, rest) => f.Fits slot ∧ Fits fields rest

def records : (fields : List Field) -> Values fields -> List Record
  | [], _ => []
  | f :: fields, (slot, rest) => (f.elements slot).map f.record ++ records fields rest

end Values

def depthOf : List Field -> Nat
  | [] => 0
  | f :: fields => max f.type.depth (depthOf fields)

/-- The budget of a reader, the default recursion limit of a coded stream. -/
def recursionLimit : Nat := 100

/-- No two fields have the same number, all numbers have at most 29 bits, and no message is
too deep. -/
structure MessageType where
  fields : List Field
  distinct : (fields.map Field.number).Nodup := by decide
  numbered : forall f, f ∈ fields -> 0 < f.number ∧ f.number < 2 ^ 29 := by decide
  shallow : depthOf fields ≤ recursionLimit := by decide

namespace MessageType

variable (M : MessageType)

def Message : Type := Values M.fields

def empty : M.Message := Values.empty M.fields

def mergePartialFromCodedStream (budget : Nat) (bytes : Bytes) (m : M.Message) :
    Merged M.Message :=
  let read := readRecords budget bytes
  let merged := Values.mergeRecords budget M.fields read.records m
  { message := merged.message
    ok := merged.ok && read.complete }

def isInitialized (m : M.Message) : Bool := Values.initialized M.fields m

def parseFromArray (bytes : Bytes) : Merged M.Message :=
  let merged := M.mergePartialFromCodedStream recursionLimit bytes M.empty
  { message := merged.message
    ok := merged.ok && M.isInitialized merged.message }

def byteSizeLong (m : M.Message) : Nat := Values.size M.fields m

def serializeWithCachedSizes (m : M.Message) : Bytes := Values.write M.fields m

/-- A message with a size that does not fit an `int` is not serialized. -/
def serializeAsString (m : M.Message) : Bytes :=
  if M.byteSizeLong m < 2 ^ 31 then M.serializeWithCachedSizes m else []

def mergeFrom (old new : M.Message) : M.Message := Values.combine M.fields old new

def Fits (m : M.Message) : Prop := Values.Fits M.fields m ∧ M.byteSizeLong m < 2 ^ 31

end MessageType

/-!
# One field

The payloads for one field, one after another.
-/

namespace Field

variable {budget : Nat} {f : Field}

def mergePayloads (budget : Nat) (f : Field) : List Payload -> f.Slot -> Merged f.Slot
  | [], slot => { message := slot, ok := true }
  | p :: payloads, slot =>
      match f.merge budget p slot with
      | Decoded.value slot => mergePayloads budget f payloads slot
      | Decoded.unknown => mergePayloads budget f payloads slot
      | Decoded.failure left => { message := left, ok := false }

theorem mergePayloads_value {p : Payload} {slot next : f.Slot}
    (h : f.merge budget p slot = Decoded.value next) (payloads : List Payload) :
    f.mergePayloads budget (p :: payloads) slot = f.mergePayloads budget payloads next := by
  rw [mergePayloads, h]

theorem merge_single (isRequired : Bool) (number : Nat) {type : FieldType} {v : type.Carrier}
    (hdepth : type.depth ≤ budget) (hfits : type.Fits v) (old : Option type.Carrier) :
    (single isRequired number type).merge budget (type.payload v) old =
      Decoded.value (some (type.combine (Option.getD old type.zero) v)) := by
  show (type.decode budget (type.payload v) (Option.getD old type.zero)).map some = _
  rw [type.decode_payload budget (Option.getD old type.zero) v hdepth hfits]
  rfl

theorem merge_repeated (number : Nat) {type : FieldType} {v : type.Carrier}
    (hdepth : type.depth ≤ budget) (hfits : type.Fits v) (old : List type.Carrier) :
    (repeated number type).merge budget (type.payload v) old =
      Decoded.value (old ++ [v]) := by
  show (type.decode budget (type.payload v) type.zero).map (fun w => old ++ [w]) = _
  rw [type.decode_payload budget type.zero v hdepth hfits, type.combine_zero]
  rfl

theorem mergePayloads_repeated {number : Nat} {type : FieldType} {new : List type.Carrier}
    (hdepth : type.depth ≤ budget) (hfits : forall v, v ∈ new -> type.Fits v)
    (old : List type.Carrier) :
    (repeated number type).mergePayloads budget (new.map type.payload) old =
      { message := old ++ new, ok := true } := by
  induction new generalizing old with
  | nil =>
      rw [List.append_nil]
      rfl
  | cons v new ih =>
      have hmerge := merge_repeated number hdepth (hfits v List.mem_cons_self) old
      rw [List.map_cons, mergePayloads_value hmerge,
        ih (fun w hw => hfits w (List.mem_cons_of_mem v hw)), List.append_assoc,
        List.singleton_append]

/-- The payloads that are written for a slot bring it back, on top of what was there. -/
theorem mergePayloads_elements (hdepth : f.type.depth ≤ budget) {new : f.Slot}
    (hfits : f.Fits new) (old : f.Slot) :
    f.mergePayloads budget ((f.elements new).map f.type.payload) old =
      { message := f.combine old new, ok := true } := by
  cases f with
  | single isRequired number type =>
      cases new with
      | none => rfl
      | some v =>
          have hmerge := merge_single isRequired number hdepth
            (hfits v (List.mem_singleton_self v)) old
          exact mergePayloads_value hmerge []
  | repeated number type => exact mergePayloads_repeated hdepth hfits old

theorem combine_empty (new : f.Slot) : f.combine f.empty new = new := by
  cases f with
  | single isRequired number type =>
      cases new with
      | none => rfl
      | some v => exact congrArg some (type.combine_zero v)
  | repeated number type => exact List.nil_append new

end Field

/-!
# Field by field

A field sees the payloads under its own number alone.  A record is for one field at most,
since no two have the same number; so merging records can be sorted by the fields that
they are for.
-/

def payloadsOf (number : Nat) (records : List Record) : List Payload :=
  (records.filter fun r => r.number = number).map Record.payload

theorem payloadsOf_cons_self (r : Record) (records : List Record) :
    payloadsOf r.number (r :: records) = r.payload :: payloadsOf r.number records := by
  simp [payloadsOf]

theorem payloadsOf_cons_of_ne {number : Nat} {r : Record} (h : r.number ≠ number)
    (records : List Record) : payloadsOf number (r :: records) = payloadsOf number records := by
  simp [payloadsOf, h]

theorem payloadsOf_append (number : Nat) (records more : List Record) :
    payloadsOf number (records ++ more) = payloadsOf number records ++ payloadsOf number more := by
  rw [payloadsOf, List.filter_append, List.map_append]
  rfl

theorem payloadsOf_eq_nil {number : Nat} {records : List Record}
    (h : forall r, r ∈ records -> r.number ≠ number) : payloadsOf number records = [] := by
  rw [payloadsOf, List.map_eq_nil_iff, List.filter_eq_nil_iff]
  intro r hr
  simpa using h r hr

theorem payloadsOf_record (f : Field) (vs : List f.type.Carrier) :
    payloadsOf f.number (vs.map f.record) = vs.map f.type.payload := by
  induction vs with
  | nil => rfl
  | cons v vs ih =>
      have hself := payloadsOf_cons_self (f.record v) (vs.map f.record)
      rw [show (f.record v).number = f.number from rfl, ih] at hself
      exact hself

namespace Values

def mergeFields (budget : Nat) : (fields : List Field) -> List Record -> Values fields ->
    Merged (Values fields)
  | [], _, _ => { message := (), ok := true }
  | f :: fields, records, (slot, rest) =>
      let first := f.mergePayloads budget (payloadsOf f.number records) slot
      let others := mergeFields budget fields records rest
      { message := (first.message, others.message)
        ok := first.ok && others.ok }

variable {budget : Nat}

theorem mergeFields_nil : (fields : List Field) -> (m : Values fields) ->
    mergeFields budget fields [] m = { message := m, ok := true }
  | [], _ => rfl
  | f :: fields, (slot, rest) => by
      rw [mergeFields, mergeFields_nil fields rest]
      rfl

theorem mergeFields_congr : (fields : List Field) -> {records more : List Record} ->
    (forall f, f ∈ fields -> payloadsOf f.number records = payloadsOf f.number more) ->
    (m : Values fields) -> mergeFields budget fields records m = mergeFields budget fields more m
  | [], _, _, _, _ => rfl
  | f :: fields, records, more, hsame, (slot, rest) => by
      have hothers := mergeFields_congr fields
        (fun g hg => hsame g (List.mem_cons_of_mem f hg)) rest
      rw [mergeFields, mergeFields, hsame f List.mem_cons_self, hothers]

theorem mergeFields_cons_of_notMem {fields : List Field} {r : Record}
    (h : r.number ∉ fields.map Field.number) (records : List Record) (m : Values fields) :
    mergeFields budget fields (r :: records) m = mergeFields budget fields records m := by
  apply mergeFields_congr
  intro f hf
  apply payloadsOf_cons_of_ne
  intro heq
  exact h (heq ▸ List.mem_map_of_mem hf)

def MergesOn (budget : Nat) (fields : List Field) (r : Record) (records : List Record) (m : Values fields) :
    Decoded (Values fields) -> Prop
  | Decoded.value next => mergeFields budget fields (r :: records) m = mergeFields budget fields records next
  | Decoded.unknown => mergeFields budget fields (r :: records) m = mergeFields budget fields records m
  | Decoded.failure _ => (mergeFields budget fields (r :: records) m).ok = false

theorem mergesOn_mergeRecord : (fields : List Field) -> (fields.map Field.number).Nodup ->
    (r : Record) -> (records : List Record) -> (m : Values fields) ->
    MergesOn budget fields r records m (mergeRecord budget fields r m)
  | [], _, _, _, _ => rfl
  | f :: fields, hdistinct, r, records, (slot, rest) => by
      rw [List.map_cons, List.nodup_cons] at hdistinct
      rw [mergeRecord]
      by_cases hnumber : r.number = f.number
      · have hothers := @mergeFields_cons_of_notMem budget _ _ (hnumber ▸ hdistinct.left) records
          rest
        have hself := payloadsOf_cons_self r records
        rw [hnumber] at hself
        rw [if_pos hnumber]
        cases hmerge : f.merge budget r.payload slot with
        | value next =>
            show mergeFields budget (f :: fields) (r :: records) (slot, rest) =
              mergeFields budget (f :: fields) records (next, rest)
            rw [mergeFields, mergeFields, hothers, hself, Field.mergePayloads_value hmerge]
        | unknown =>
            show mergeFields budget (f :: fields) (r :: records) (slot, rest) =
              mergeFields budget (f :: fields) records (slot, rest)
            rw [mergeFields, mergeFields, hothers, hself, Field.mergePayloads, hmerge]
        | failure left =>
            show (mergeFields budget (f :: fields) (r :: records) (slot, rest)).ok = false
            rw [mergeFields, hself, Field.mergePayloads, hmerge]
            rfl
      · have hothers := mergesOn_mergeRecord fields hdistinct.right r records rest
        have hself := payloadsOf_cons_of_ne hnumber records
        rw [if_neg hnumber]
        cases hmerge : mergeRecord budget fields r rest with
        | value next =>
            rw [hmerge] at hothers
            show mergeFields budget (f :: fields) (r :: records) (slot, rest) =
              mergeFields budget (f :: fields) records (slot, next)
            rw [mergeFields, mergeFields, hself,
              show mergeFields budget fields (r :: records) rest = mergeFields budget fields records next
                from hothers]
        | unknown =>
            rw [hmerge] at hothers
            show mergeFields budget (f :: fields) (r :: records) (slot, rest) =
              mergeFields budget (f :: fields) records (slot, rest)
            rw [mergeFields, mergeFields, hself,
              show mergeFields budget fields (r :: records) rest = mergeFields budget fields records rest
                from hothers]
        | failure left =>
            rw [hmerge] at hothers
            show (mergeFields budget (f :: fields) (r :: records) (slot, rest)).ok = false
            rw [mergeFields, show (mergeFields budget fields (r :: records) rest).ok = false
              from hothers]
            exact Bool.and_false _

/-- Reading record by record comes to the same as reading field by field, and fails for the
same records. -/
theorem mergeRecords_eq {fields : List Field} (hdistinct : (fields.map Field.number).Nodup)
    (records : List Record) (m : Values fields) :
    (mergeRecords budget fields records m).ok = (mergeFields budget fields records m).ok ∧
      ((mergeFields budget fields records m).ok = true ->
        mergeRecords budget fields records m = mergeFields budget fields records m) := by
  induction records generalizing m with
  | nil =>
      rw [mergeFields_nil]
      exact ⟨rfl, fun _ => rfl⟩
  | cons r records ih =>
      have hstep := @mergesOn_mergeRecord budget fields hdistinct r records m
      rw [mergeRecords]
      cases hmerge : mergeRecord budget fields r m with
      | value next =>
          rw [hmerge] at hstep
          rw [show mergeFields budget fields (r :: records) m = mergeFields budget fields records next
            from hstep]
          exact ih next
      | unknown =>
          rw [hmerge] at hstep
          rw [show mergeFields budget fields (r :: records) m = mergeFields budget fields records m
            from hstep]
          exact ih m
      | failure left =>
          rw [hmerge] at hstep
          rw [show (mergeFields budget fields (r :: records) m).ok = false from hstep]
          exact ⟨rfl, fun hok => by cases hok⟩

/-!
# What is written

The records of a message bring it back, on top of what was there.
-/

theorem number_of_mem_records : (fields : List Field) -> (m : Values fields) ->
    forall r, r ∈ records fields m -> r.number ∈ fields.map Field.number
  | [], _, r, hr => by cases hr
  | f :: fields, (slot, rest), r, hr => by
      rw [records, List.mem_append] at hr
      rw [List.map_cons, List.mem_cons]
      rcases hr with hfirst | hothers
      · rcases List.mem_map.mp hfirst with ⟨v, _, rfl⟩
        exact Or.inl rfl
      · exact Or.inr (number_of_mem_records fields rest r hothers)

theorem mergeFields_records : (fields : List Field) -> (fields.map Field.number).Nodup ->
    depthOf fields ≤ budget -> (new : Values fields) -> Fits fields new ->
    (old : Values fields) ->
    mergeFields budget fields (records fields new) old =
      { message := combine fields old new, ok := true }
  | [], _, _, _, _, _ => rfl
  | f :: fields, hdistinct, hdepth, (new, news), hfits, (old, olds) => by
      rw [List.map_cons, List.nodup_cons] at hdistinct
      have hfirst : payloadsOf f.number ((f.elements new).map f.record ++ records fields news) =
          (f.elements new).map f.type.payload := by
        have hnone : payloadsOf f.number (records fields news) = [] :=
          payloadsOf_eq_nil fun r hr heq =>
            hdistinct.left (heq ▸ number_of_mem_records fields news r hr)
        rw [payloadsOf_append, payloadsOf_record, hnone, List.append_nil]
      have hothers : mergeFields budget fields ((f.elements new).map f.record ++ records fields news)
          olds = mergeFields budget fields (records fields news) olds := by
        apply mergeFields_congr
        intro g hg
        have hnone : payloadsOf g.number ((f.elements new).map f.record) = [] := by
          apply payloadsOf_eq_nil
          intro r hr heq
          rcases List.mem_map.mp hr with ⟨v, _, rfl⟩
          have hmem : f.number ∈ fields.map Field.number :=
            (show f.number = g.number from heq) ▸ List.mem_map_of_mem hg
          exact hdistinct.left hmem
        rw [payloadsOf_append, hnone, List.nil_append]
      have hslot := Field.mergePayloads_elements (f := f) (max_le_iff.mp hdepth).left hfits.left
        old
      rw [records, mergeFields, hfirst, hothers, hslot,
        mergeFields_records fields hdistinct.right (max_le_iff.mp hdepth).right news hfits.right
          olds]
      rfl

theorem combine_empty : (fields : List Field) -> (m : Values fields) ->
    combine fields (empty fields) m = m
  | [], _ => rfl
  | f :: fields, (slot, rest) => by
      rw [empty, combine, Field.combine_empty, combine_empty fields rest]

end Values

theorem Field.write_record {f : Field} {v : f.type.Carrier} (hfits : f.type.Fits v) :
    writeVarint f.tag.value ++ f.type.write v = (f.record v).write := by
  have htag : (f.record v).tag = f.tag := by
    rw [Record.tag, Field.tag, ← f.type.wireType_eq v]
    rfl
  rw [Record.write, htag, f.type.write_eq v hfits]
  rfl

theorem Field.write_eq {f : Field} {slot : f.Slot} (hfits : f.Fits slot) :
    f.write slot = ((f.elements slot).map f.record).flatMap Record.write := by
  rw [Field.write, List.flatMap_map]
  apply List.flatMap_congr
  intro v hv
  exact Field.write_record (hfits v hv)

theorem Values.write_eq : (fields : List Field) -> (m : Values fields) -> Fits fields m ->
    write fields m = (records fields m).flatMap Record.write
  | [], _, _ => rfl
  | f :: fields, (slot, rest), hfits => by
      rw [write, records, List.flatMap_append, Field.write_eq hfits.left,
        Values.write_eq fields rest hfits.right]

theorem Values.writable : (fields : List Field) ->
    (forall f, f ∈ fields -> 0 < f.number ∧ f.number < 2 ^ 29) -> (m : Values fields) ->
    Fits fields m -> forall r, r ∈ records fields m -> r.Writable
  | [], _, _, _, r, hr => by cases hr
  | f :: fields, hnumbered, (slot, rest), hfits, r, hr => by
      rw [records, List.mem_append] at hr
      rcases hr with hfirst | hothers
      · rcases List.mem_map.mp hfirst with ⟨v, hv, rfl⟩
        have hnumber := hnumbered f List.mem_cons_self
        exact
          { number_pos := hnumber.left
            number_lt := hnumber.right
            payload := f.type.writable v (hfits.left v hv) }
      · exact Values.writable fields (fun g hg => hnumbered g (List.mem_cons_of_mem f hg)) rest
          hfits.right r hothers

theorem Payload.wireType_lt (p : Payload) : p.wireType < 8 := by
  cases p with
  | _ => simp [Payload.wireType]

theorem Field.size_eq {f : Field} (hnumber : f.number < 2 ^ 29) {slot : f.Slot}
    (hfits : f.Fits slot) : f.size slot = (f.write slot).length := by
  rw [Field.size, Field.write, List.length_flatMap]
  congr 1
  apply List.map_congr_left
  intro v hv
  have hwireType := (f.type.payload v).wireType_lt
  rw [f.type.wireType_eq v] at hwireType
  have htag : f.tag.value < 2 ^ 64 := by
    show f.number * 8 + f.type.wireType < 2 ^ 64
    omega
  rw [List.length_append, writeVarint_length htag, f.type.size_eq v (hfits v hv)]

theorem Values.size_eq : (fields : List Field) ->
    (forall f, f ∈ fields -> 0 < f.number ∧ f.number < 2 ^ 29) -> (m : Values fields) ->
    Fits fields m -> size fields m = (write fields m).length
  | [], _, _, _ => rfl
  | f :: fields, hnumbered, (slot, rest), hfits => by
      have hnumber := (hnumbered f List.mem_cons_self).right
      rw [size, write, List.length_append, Field.size_eq hnumber hfits.left,
        Values.size_eq fields (fun g hg => hnumbered g (List.mem_cons_of_mem f hg)) rest
          hfits.right]

/-!
# What fits

A message that is not too long as a whole has no part that is.
-/

theorem Field.fits_of_size {f : Field} {slot : f.Slot} (h : f.size slot < 2 ^ 31) :
    f.Fits slot := by
  intro v hv
  apply f.type.fits_of_size
  have hpart : varintSize f.tag.value + f.type.size v ≤ f.size slot :=
    List.le_sum_of_mem (List.mem_map_of_mem hv)
  omega

theorem Values.fits_of_size : (fields : List Field) -> (m : Values fields) ->
    size fields m < 2 ^ 31 -> Fits fields m
  | [], _, _ => trivial
  | f :: fields, (slot, rest), h => by
      rw [size] at h
      constructor
      · exact Field.fits_of_size (by omega)
      · exact Values.fits_of_size fields rest (by omega)

/-!
# Messages of a type

Reading what a message was serialized to is merging the message.
-/

namespace MessageType

variable {M : MessageType} {budget : Nat}

theorem fits_of_size {m : M.Message} (h : M.byteSizeLong m < 2 ^ 31) : M.Fits m :=
  ⟨Values.fits_of_size M.fields m h, h⟩

theorem byteSizeLong_eq {m : M.Message} (hfits : M.Fits m) :
    M.byteSizeLong m = (M.serializeWithCachedSizes m).length :=
  Values.size_eq M.fields M.numbered m hfits.left

theorem serializeAsString_eq {m : M.Message} (hfits : M.Fits m) :
    M.serializeAsString m = M.serializeWithCachedSizes m :=
  if_pos hfits.right

theorem readRecords_serialize {m : M.Message} (hfits : M.Fits m) :
    readRecords budget (M.serializeWithCachedSizes m) =
      { records := Values.records M.fields m, complete := true } := by
  rw [serializeWithCachedSizes, Values.write_eq M.fields m hfits.left]
  exact readRecords_write (Values.writable M.fields M.numbered m hfits.left)

theorem mergePartial_serialize (hdepth : depthOf M.fields ≤ budget) {m : M.Message}
    (hfits : M.Fits m) (old : M.Message) :
    M.mergePartialFromCodedStream budget (M.serializeWithCachedSizes m) old =
      { message := M.mergeFrom old m, ok := true } := by
  have hfields := Values.mergeFields_records M.fields M.distinct hdepth m hfits.left old
  rcases @Values.mergeRecords_eq budget _ M.distinct (Values.records M.fields m) old with
    ⟨_, hmerge⟩
  rw [hfields] at hmerge
  rw [mergePartialFromCodedStream, readRecords_serialize hfits, hmerge rfl]
  rfl

theorem mergeFrom_empty (m : M.Message) : M.mergeFrom M.empty m = m :=
  Values.combine_empty M.fields m

theorem parseFromArray_serialize {m : M.Message} (hfits : M.Fits m) :
    M.parseFromArray (M.serializeAsString m) =
      { message := m, ok := M.isInitialized m } := by
  rw [parseFromArray, serializeAsString_eq hfits, mergePartial_serialize M.shallow hfits,
    mergeFrom_empty]
  rfl

theorem parseFromArray_nil (M : MessageType) :
    M.parseFromArray [] = { message := M.empty, ok := M.isInitialized M.empty } :=
  rfl

/-- The order of records with different numbers does not matter, nor does what has none of
the numbers. -/
theorem mergePartial_congr {bytes other : Bytes}
    (hcomplete : (readRecords budget bytes).complete = (readRecords budget other).complete)
    (hsame : forall f, f ∈ M.fields -> payloadsOf f.number (readRecords budget bytes).records =
      payloadsOf f.number (readRecords budget other).records) (old : M.Message) :
    (M.mergePartialFromCodedStream budget bytes old).ok =
        (M.mergePartialFromCodedStream budget other old).ok ∧
      ((M.mergePartialFromCodedStream budget bytes old).ok = true ->
        M.mergePartialFromCodedStream budget bytes old =
          M.mergePartialFromCodedStream budget other old) := by
  have hfields := @Values.mergeFields_congr budget M.fields _ _ hsame old
  rcases @Values.mergeRecords_eq budget _ M.distinct (readRecords budget bytes).records old with
    ⟨hok, hmerge⟩
  rcases @Values.mergeRecords_eq budget _ M.distinct (readRecords budget other).records old with
    ⟨hok', hmerge'⟩
  have hboth : (Values.mergeRecords budget M.fields (readRecords budget bytes).records old).ok =
      (Values.mergeRecords budget M.fields (readRecords budget other).records old).ok := by
    rw [hok, hok', hfields]
  constructor
  · show (_ && _) = (_ && _)
    rw [hboth, hcomplete]
  · intro hread
    have hrecords := ((Bool.and_eq_true _ _).mp hread).left
    have hrecords' : (Values.mergeFields budget M.fields (readRecords budget bytes).records old).ok =
        true := hok ▸ hrecords
    have heq := hmerge hrecords'
    rw [hfields] at heq hrecords'
    rw [mergePartialFromCodedStream, mergePartialFromCodedStream, heq, hmerge' hrecords',
      hcomplete]

/-- The bytes have the fields of a message, each as it is written, in any order and with
whatever else belongs to no field. -/
structure Carries (M : MessageType) (m : M.Message) (bytes : Bytes) : Prop where
  complete : (readRecords recursionLimit bytes).complete = true
  fields : forall f, f ∈ M.fields -> payloadsOf f.number (readRecords recursionLimit bytes).records =
    payloadsOf f.number (Values.records M.fields m)

theorem carries_serialize {m : M.Message} (hfits : M.Fits m) :
    M.Carries m (M.serializeAsString m) := by
  rw [serializeAsString_eq hfits]
  exact
    { complete := by rw [readRecords_serialize hfits]
      fields := fun f _ => by rw [readRecords_serialize hfits] }

theorem parseFromArray_carries {m : M.Message} (hfits : M.Fits m) {bytes : Bytes}
    (hcarries : M.Carries m bytes) :
    M.parseFromArray bytes = { message := m, ok := M.isInitialized m } := by
  have hwritten := carries_serialize hfits
  have hcomplete := hcarries.complete.trans hwritten.complete.symm
  have hsame : forall f, f ∈ M.fields -> payloadsOf f.number (readRecords recursionLimit bytes).records =
      payloadsOf f.number (readRecords recursionLimit (M.serializeAsString m)).records :=
    fun f hf => (hcarries.fields f hf).trans (hwritten.fields f hf).symm
  rcases mergePartial_congr hcomplete hsame M.empty with ⟨hok, hmerge⟩
  rw [serializeAsString_eq hfits, mergePartial_serialize M.shallow hfits] at hok hmerge
  rw [parseFromArray, hmerge hok, mergeFrom_empty]
  rfl

end MessageType

end Foundation
end EventStoreClient
