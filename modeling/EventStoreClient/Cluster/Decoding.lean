import EventStoreClient.Cluster.Discovery

/-!
# Decoded members

What `from_json` reads into a member, beside what `to_json` writes of it.
-/

namespace EventStoreClient
namespace Cluster

open Wire (Guid)

/-!
# Encoding

The pairs that `to_json` lists for a member.
-/

/-- The pairs that `to_json` lists for a member; `uuidText` is `boost::uuids::to_string`. -/
def MemberInfo.fields (uuidText : Guid -> String) (m : MemberInfo) : List (String × Json) :=
  [("instanceId", .string (uuidText m.instanceId)),
   ("timeStamp", .string m.dateTime),
   ("state", .string m.state.toString),
   ("isAlive", .boolean m.isAlive),
   ("internalTcpIp", .string m.internalTcpIp),
   ("internalTcpPort", .integer m.internalTcpPort),
   ("internalSecureTcpPort", .integer m.internalSecureTcpPort),
   ("externalTcpIp", .string m.externalTcpIp),
   ("externalTcpPort", .integer m.externalTcpPort),
   ("externalSecureTcpPort", .integer m.externalSecureTcpPort),
   ("internalHttpIp", .string m.internalHttpIp),
   ("internalHttpPort", .integer m.internalHttpPort),
   ("externalHttpIp", .string m.externalHttpIp),
   ("externalHttpPort", .integer m.externalHttpPort),
   ("lastCommitPosition", .integer m.lastCommitPosition),
   ("writerCheckpoint", .integer m.writerCheckpoint),
   ("chaserCheckpoint", .integer m.chaserCheckpoint),
   ("epochPosition", .integer m.epochPosition),
   ("epochNumber", .integer m.epochNumber),
   ("epochId", .string (uuidText m.epochId)),
   ("nodePriority", .integer m.nodePriority)]

def MemberInfo.toJson (uuidText : Guid -> String) (m : MemberInfo) : Json :=
  .object (m.fields uuidText)

/-!
# What an element gives

The fields an element of a gossip has, read without the code: its uuids, its numbers (the
`int` and the `std::int64_t` ones), and what encoding the decoded member should give back.
-/

namespace Json

def GivesUuid (lib : Library) (j : Json) (key : String) (id : Guid) : Prop :=
  exists s, j.atKey key = .ok (.string s) ∧ lib.stringGenerator s = some id

def GivesString (j : Json) (key : String) (s : String) : Prop :=
  j.atKey key = .ok (.string s)

def GivesBool (j : Json) (key : String) (b : Bool) : Prop :=
  j.atKey key = .ok (.boolean b)

def GivesNumber (j : Json) (key : String) (n : Int) : Prop :=
  j.atKey key = .ok (.integer n) ∨ j.atKey key = .ok (.real n true)

/-- The element has a number under the key that is one of a signed type of this many
values. -/
def Fits (j : Json) (values : Nat) (key : String) : Prop :=
  exists n, j.GivesNumber key n ∧ -(values / 2 : Int) ≤ n ∧ n < values / 2

end Json

structure MemberInfo.Given (lib : Library) (element : Json) (m : MemberInfo) : Prop where
  instanceId : element.GivesUuid lib "instanceId" m.instanceId
  dateTime : element.GivesString "timeStamp" m.dateTime
  state : element.GivesString "state" m.state.toString
  isAlive : element.GivesBool "isAlive" m.isAlive
  internalTcpIp : element.GivesString "internalTcpIp" m.internalTcpIp
  internalTcpPort : element.GivesNumber "internalTcpPort" m.internalTcpPort
  internalSecureTcpPort :
    element.GivesNumber "internalSecureTcpPort" m.internalSecureTcpPort
  externalTcpIp : element.GivesString "externalTcpIp" m.externalTcpIp
  externalTcpPort : element.GivesNumber "externalTcpPort" m.externalTcpPort
  externalSecureTcpPort :
    element.GivesNumber "externalSecureTcpPort" m.externalSecureTcpPort
  internalHttpIp : element.GivesString "internalHttpIp" m.internalHttpIp
  internalHttpPort : element.GivesNumber "internalHttpPort" m.internalHttpPort
  externalHttpIp : element.GivesString "externalHttpIp" m.externalHttpIp
  externalHttpPort : element.GivesNumber "externalHttpPort" m.externalHttpPort
  lastCommitPosition : element.GivesNumber "lastCommitPosition" m.lastCommitPosition
  writerCheckpoint : element.GivesNumber "writerCheckpoint" m.writerCheckpoint
  chaserCheckpoint : element.GivesNumber "chaserCheckpoint" m.chaserCheckpoint
  epochPosition : element.GivesNumber "epochPosition" m.epochPosition
  epochNumber : element.GivesNumber "epochNumber" m.epochNumber
  epochId : element.GivesUuid lib "epochId" m.epochId
  nodePriority : element.GivesNumber "nodePriority" m.nodePriority

/-- What is encoded under a key is what was given there: the same uuid, or the same value,
where a number may have been written with a fraction of zero. -/
def SameField (lib : Library) (key : String) (given encoded : Json) : Prop :=
  if key = "instanceId" ∨ key = "epochId" then
    exists s t id, given = .string s ∧ encoded = .string t ∧
      lib.stringGenerator s = some id ∧ lib.stringGenerator t = some id
  else
    given = encoded ∨ exists n, given = .real n true ∧ encoded = .integer n

def MemberInfo.Reencodes (lib : Library) (uuidText : Guid -> String) (element : Json)
    (m : MemberInfo) : Prop :=
  forall key encoded, (m.toJson uuidText).atKey key = .ok encoded ->
    exists given, element.atKey key = .ok given ∧ SameField lib key given encoded

def intKeys : List String :=
  ["internalTcpPort", "internalSecureTcpPort", "externalTcpPort", "externalSecureTcpPort",
   "internalHttpPort", "externalHttpPort", "epochNumber", "nodePriority"]

def int64Keys : List String :=
  ["lastCommitPosition", "writerCheckpoint", "chaserCheckpoint", "epochPosition"]

/-- The element is not empty, has a known state, and numbers that the fields can hold. -/
structure Json.Complete (element : Json) : Prop where
  not_empty : element.isEmpty = false
  state : exists state : VirtualNodeState, element.GivesString "state" state.toString
  ints : forall key, key ∈ intKeys -> element.Fits 0x100000000 key
  int64s : forall key, key ∈ int64Keys -> element.Fits 0x10000000000000000 key

/-!
# Decoding

`Reads` is what `j.at(key).get<T>()` reads, and `ReadFrom` a member whose state is known,
as it is read field by field.
-/

def Json.Reads {alpha : Type} (j : Json) (get : Json -> Result alpha) (key : String)
    (value : alpha) : Prop :=
  exists given, j.atKey key = .ok given ∧ get given = .ok value

section Reads

variable {alpha beta : Type} {j : Json} {key : String}

theorem bind_reads {get : Json -> Result alpha} {f : alpha -> Result beta} {b : beta}
    (h : (j.atKey key >>= fun given => get given >>= f) = .ok b) :
    exists value, j.Reads get key value ∧ f value = .ok b := by
  rcases bind_eq_ok h with ⟨given, hgiven, h⟩
  rcases bind_eq_ok h with ⟨value, hvalue, h⟩
  exact ⟨value, ⟨given, hgiven, hvalue⟩, h⟩

theorem reads_string_iff {s : String} :
    j.Reads Json.getString key s <-> j.GivesString key s := by
  constructor
  · rintro ⟨given, hgiven, hs⟩
    cases given <;> cases hs
    exact hgiven
  · intro h
    exact ⟨_, h, rfl⟩

theorem reads_bool_iff {b : Bool} :
    j.Reads Json.getBool key b <-> j.GivesBool key b := by
  constructor
  · rintro ⟨given, hgiven, hb⟩
    cases given <;> cases hb
    exact hgiven
  · intro h
    exact ⟨_, h, rfl⟩

theorem givesNumber_fits {values : Nat} {n : Int} (h : j.GivesNumber key n)
    (hlow : -(values / 2 : Int) ≤ n) (hhigh : n < values / 2) : j.Fits values key :=
  ⟨n, h, hlow, hhigh⟩

/-- A getter of numbers keeps what is in the range of its type, and nothing else, so that
the number it reads is the one that is given exactly if that fits. -/
theorem reads_number_iff {get : Json -> Result Int} (half : Nat) {value : Int}
    (hpos : 0 < half)
    (hinteger : forall n, get (.integer n) = .ok (n.bmod (2 * half)))
    (hreal : forall n whole, get (.real n whole) = .ok (n.bmod (2 * half)))
    (h : j.Reads get key value) :
    j.GivesNumber key value <-> j.Fits (2 * half) key := by
  rcases h with ⟨given, hgiven, hvalue⟩
  -- what is read for a number that is given
  have hread : forall n, j.GivesNumber key n -> value = n.bmod (2 * half) := by
    intro n hn
    rcases hn with hn | hn
    · rw [hgiven] at hn
      cases hn
      rw [hinteger] at hvalue
      exact (Except.ok.inj hvalue).symm
    · rw [hgiven] at hn
      cases hn
      rw [hreal] at hvalue
      exact (Except.ok.inj hvalue).symm
  constructor
  · intro hgives
    have hlow := Int.le_bmod (x := value) (m := 2 * half) (by omega)
    have hhigh := Int.bmod_lt (x := value) (m := 2 * half) (by omega)
    rw [<- hread value hgives] at hlow hhigh
    exact givesNumber_fits hgives (by omega) (by omega)
  · rintro ⟨n, hgives, hlow, hhigh⟩
    rw [hread n hgives, Int.bmod_eq_of_le (by omega) (by omega)]
    exact hgives

theorem reads_int_iff {value : Int} (h : j.Reads Json.getInt key value) :
    j.GivesNumber key value <-> j.Fits 0x100000000 key :=
  reads_number_iff 0x80000000 (by decide) (fun _ => rfl) (fun _ _ => rfl) h

theorem reads_int64_iff {value : Int} (h : j.Reads Json.getInt64 key value) :
    j.GivesNumber key value <-> j.Fits 0x10000000000000000 key :=
  reads_number_iff 0x8000000000000000 (by decide) (fun _ => rfl) (fun _ _ => rfl) h

end Reads

structure MemberInfo.ReadFrom (lib : Library) (element : Json) (m : MemberInfo) : Prop where
  instanceId : element.GivesUuid lib "instanceId" m.instanceId
  dateTime : element.Reads Json.getString "timeStamp" m.dateTime
  state : element.GivesString "state" m.state.toString
  isAlive : element.Reads Json.getBool "isAlive" m.isAlive
  internalTcpIp : element.Reads Json.getString "internalTcpIp" m.internalTcpIp
  internalTcpPort : element.Reads Json.getInt "internalTcpPort" m.internalTcpPort
  internalSecureTcpPort :
    element.Reads Json.getInt "internalSecureTcpPort" m.internalSecureTcpPort
  externalTcpIp : element.Reads Json.getString "externalTcpIp" m.externalTcpIp
  externalTcpPort : element.Reads Json.getInt "externalTcpPort" m.externalTcpPort
  externalSecureTcpPort :
    element.Reads Json.getInt "externalSecureTcpPort" m.externalSecureTcpPort
  internalHttpIp : element.Reads Json.getString "internalHttpIp" m.internalHttpIp
  internalHttpPort : element.Reads Json.getInt "internalHttpPort" m.internalHttpPort
  externalHttpIp : element.Reads Json.getString "externalHttpIp" m.externalHttpIp
  externalHttpPort : element.Reads Json.getInt "externalHttpPort" m.externalHttpPort
  lastCommitPosition :
    element.Reads Json.getInt64 "lastCommitPosition" m.lastCommitPosition
  writerCheckpoint : element.Reads Json.getInt64 "writerCheckpoint" m.writerCheckpoint
  chaserCheckpoint : element.Reads Json.getInt64 "chaserCheckpoint" m.chaserCheckpoint
  epochPosition : element.Reads Json.getInt64 "epochPosition" m.epochPosition
  epochNumber : element.Reads Json.getInt "epochNumber" m.epochNumber
  epochId : element.GivesUuid lib "epochId" m.epochId
  nodePriority : element.Reads Json.getInt "nodePriority" m.nodePriority

section FromJson

variable {lib : Library} {element : Json} {m : MemberInfo}

theorem guid_reads {alpha : Type} {key : String} {f : Guid -> Result alpha} {b : alpha}
    (h : (element.atKey key >>= fun given => given.getString >>= fun s =>
      lib.guid s >>= f) = .ok b) :
    exists id, element.GivesUuid lib key id ∧ f id = .ok b := by
  rcases bind_reads h with ⟨s, hs, h⟩
  rcases bind_eq_ok h with ⟨id, hid, h⟩
  refine ⟨id, ⟨s, reads_string_iff.mp hs, ?_⟩, h⟩
  unfold Library.guid at hid
  cases hgenerated : lib.stringGenerator s with
  | none =>
      rw [hgenerated] at hid
      cases hid
  | some generated =>
      rw [hgenerated] at hid
      rw [Except.ok.inj hid]

theorem fromString_eq_some {s : String} {state : VirtualNodeState}
    (h : VirtualNodeState.fromString s = some state) : s = state.toString := by
  unfold VirtualNodeState.fromString at h
  -- one comparison for each state
  iterate 11
    rcases ite_eq_iff.mp h with ⟨hs, hstate⟩ | ⟨-, h⟩
    · cases hstate
      exact hs
  cases h

/-- A decoded member comes from an empty element, from one whose state is not known, or
has been read field by field. -/
theorem MemberInfo.fromJson_cases (h : MemberInfo.fromJson lib element = .ok m) :
    element.isEmpty = true ∨
      (exists s, element.GivesString "state" s ∧ VirtualNodeState.fromString s = none) ∨
      element.isEmpty = false ∧ m.ReadFrom lib element := by
  unfold MemberInfo.fromJson at h
  cases hempty : element.isEmpty with
  | true => exact Or.inl rfl
  | false =>
      simp only [hempty, Bool.false_eq_true, if_false] at h
      rcases guid_reads h with ⟨instanceId, hinstanceId, h⟩
      rcases guid_reads h with ⟨epochId, hepochId, h⟩
      rcases bind_reads h with ⟨s, hs, h⟩
      have hgiven := reads_string_iff.mp hs
      cases hknown : VirtualNodeState.fromString s with
      | none => exact Or.inr (Or.inl ⟨s, hgiven, hknown⟩)
      | some state =>
          rw [hknown] at h
          rw [fromString_eq_some hknown] at hgiven
          rcases bind_reads h with ⟨dateTime, hdateTime, h⟩
          rcases bind_reads h with ⟨isAlive, hisAlive, h⟩
          rcases bind_reads h with ⟨internalTcpIp, hinternalTcpIp, h⟩
          rcases bind_reads h with ⟨internalTcpPort, hinternalTcpPort, h⟩
          rcases bind_reads h with ⟨internalSecureTcpPort, hinternalSecureTcpPort, h⟩
          rcases bind_reads h with ⟨externalTcpIp, hexternalTcpIp, h⟩
          rcases bind_reads h with ⟨externalTcpPort, hexternalTcpPort, h⟩
          rcases bind_reads h with ⟨externalSecureTcpPort, hexternalSecureTcpPort, h⟩
          rcases bind_reads h with ⟨internalHttpIp, hinternalHttpIp, h⟩
          rcases bind_reads h with ⟨internalHttpPort, hinternalHttpPort, h⟩
          rcases bind_reads h with ⟨externalHttpIp, hexternalHttpIp, h⟩
          rcases bind_reads h with ⟨externalHttpPort, hexternalHttpPort, h⟩
          rcases bind_reads h with ⟨lastCommitPosition, hlastCommitPosition, h⟩
          rcases bind_reads h with ⟨writerCheckpoint, hwriterCheckpoint, h⟩
          rcases bind_reads h with ⟨chaserCheckpoint, hchaserCheckpoint, h⟩
          rcases bind_reads h with ⟨epochPosition, hepochPosition, h⟩
          rcases bind_reads h with ⟨epochNumber, hepochNumber, h⟩
          rcases bind_reads h with ⟨nodePriority, hnodePriority, h⟩
          cases h
          refine Or.inr (Or.inr ⟨rfl, ?_⟩)
          exact
            { instanceId := hinstanceId
              dateTime := hdateTime
              state := hgiven
              isAlive := hisAlive
              internalTcpIp := hinternalTcpIp
              internalTcpPort := hinternalTcpPort
              internalSecureTcpPort := hinternalSecureTcpPort
              externalTcpIp := hexternalTcpIp
              externalTcpPort := hexternalTcpPort
              externalSecureTcpPort := hexternalSecureTcpPort
              internalHttpIp := hinternalHttpIp
              internalHttpPort := hinternalHttpPort
              externalHttpIp := hexternalHttpIp
              externalHttpPort := hexternalHttpPort
              lastCommitPosition := hlastCommitPosition
              writerCheckpoint := hwriterCheckpoint
              chaserCheckpoint := hchaserCheckpoint
              epochPosition := hepochPosition
              epochNumber := hepochNumber
              epochId := hepochId
              nodePriority := hnodePriority }

theorem not_empty_of_atKey {key : String} {given : Json}
    (h : element.atKey key = .ok given) : element.isEmpty = false := by
  cases element with
  | object members =>
      cases members with
      | nil => cases h
      | cons first rest => rfl
  | _ => cases h

theorem forall_intKeys_iff {p : String -> Prop} :
    (forall key, key ∈ intKeys -> p key) <->
      p "internalTcpPort" ∧ p "internalSecureTcpPort" ∧ p "externalTcpPort" ∧
        p "externalSecureTcpPort" ∧ p "internalHttpPort" ∧ p "externalHttpPort" ∧
        p "epochNumber" ∧ p "nodePriority" := by
  rw [← List.forall_iff_forall_mem]
  rfl

theorem forall_int64Keys_iff {p : String -> Prop} :
    (forall key, key ∈ int64Keys -> p key) <->
      p "lastCommitPosition" ∧ p "writerCheckpoint" ∧ p "chaserCheckpoint" ∧
        p "epochPosition" := by
  rw [← List.forall_iff_forall_mem]
  rfl

/-- A member that has been read field by field has the values of its element exactly if
the numbers fit. -/
theorem MemberInfo.ReadFrom.given_iff (h : m.ReadFrom lib element) :
    m.Given lib element <->
      (forall key, key ∈ intKeys -> element.Fits 0x100000000 key) ∧
        (forall key, key ∈ int64Keys -> element.Fits 0x10000000000000000 key) := by
  rw [forall_intKeys_iff, forall_int64Keys_iff]
  constructor
  · intro g
    exact ⟨⟨(reads_int_iff h.internalTcpPort).mp g.internalTcpPort,
        (reads_int_iff h.internalSecureTcpPort).mp g.internalSecureTcpPort,
        (reads_int_iff h.externalTcpPort).mp g.externalTcpPort,
        (reads_int_iff h.externalSecureTcpPort).mp g.externalSecureTcpPort,
        (reads_int_iff h.internalHttpPort).mp g.internalHttpPort,
        (reads_int_iff h.externalHttpPort).mp g.externalHttpPort,
        (reads_int_iff h.epochNumber).mp g.epochNumber,
        (reads_int_iff h.nodePriority).mp g.nodePriority⟩,
      (reads_int64_iff h.lastCommitPosition).mp g.lastCommitPosition,
      (reads_int64_iff h.writerCheckpoint).mp g.writerCheckpoint,
      (reads_int64_iff h.chaserCheckpoint).mp g.chaserCheckpoint,
      (reads_int64_iff h.epochPosition).mp g.epochPosition⟩
  · rintro ⟨⟨hinternalTcp, hinternalSecureTcp, hexternalTcp, hexternalSecureTcp,
      hinternalHttp, hexternalHttp, hepochNumber, hnodePriority⟩, hlastCommit, hwriter,
      hchaser, hepochPosition⟩
    exact
      { instanceId := h.instanceId
        dateTime := reads_string_iff.mp h.dateTime
        state := h.state
        isAlive := reads_bool_iff.mp h.isAlive
        internalTcpIp := reads_string_iff.mp h.internalTcpIp
        internalTcpPort := (reads_int_iff h.internalTcpPort).mpr hinternalTcp
        internalSecureTcpPort :=
          (reads_int_iff h.internalSecureTcpPort).mpr hinternalSecureTcp
        externalTcpIp := reads_string_iff.mp h.externalTcpIp
        externalTcpPort := (reads_int_iff h.externalTcpPort).mpr hexternalTcp
        externalSecureTcpPort :=
          (reads_int_iff h.externalSecureTcpPort).mpr hexternalSecureTcp
        internalHttpIp := reads_string_iff.mp h.internalHttpIp
        internalHttpPort := (reads_int_iff h.internalHttpPort).mpr hinternalHttp
        externalHttpIp := reads_string_iff.mp h.externalHttpIp
        externalHttpPort := (reads_int_iff h.externalHttpPort).mpr hexternalHttp
        lastCommitPosition := (reads_int64_iff h.lastCommitPosition).mpr hlastCommit
        writerCheckpoint := (reads_int64_iff h.writerCheckpoint).mpr hwriter
        chaserCheckpoint := (reads_int64_iff h.chaserCheckpoint).mpr hchaser
        epochPosition := (reads_int64_iff h.epochPosition).mpr hepochPosition
        epochNumber := (reads_int_iff h.epochNumber).mpr hepochNumber
        epochId := h.epochId
        nodePriority := (reads_int_iff h.nodePriority).mpr hnodePriority }

/-- A decoded member has the values of its element exactly if the element is complete:
an empty one has no fields, and one whose state is not known is left where the state is
read. -/
theorem MemberInfo.given_iff_complete (h : MemberInfo.fromJson lib element = .ok m) :
    m.Given lib element <-> element.Complete := by
  rcases MemberInfo.fromJson_cases h with hempty | ⟨s, hs, hunknown⟩ | ⟨hempty, hread⟩
  · constructor
    · intro g
      have hfull := not_empty_of_atKey g.state
      rw [hempty] at hfull
      cases hfull
    · intro c
      have hfull := c.not_empty
      rw [hempty] at hfull
      cases hfull
  · -- the given state would be that of a known one
    have hstate : forall state : VirtualNodeState,
        ¬ element.GivesString "state" state.toString := by
      intro state hgives
      have heq : s = state.toString := by
        have hgiven := hs.symm.trans hgives
        cases hgiven
        rfl
      rw [heq, VirtualNodeState.fromString_toString] at hunknown
      cases hunknown
    constructor
    · intro g
      exact absurd g.state (hstate m.state)
    · intro c
      rcases c.state with ⟨state, hgives⟩
      exact absurd hgives (hstate state)
  · rw [hread.given_iff]
    constructor
    · rintro ⟨hints, hint64s⟩
      exact
        { not_empty := hempty
          state := ⟨m.state, hread.state⟩
          ints := hints
          int64s := hint64s }
    · intro c
      exact ⟨c.ints, c.int64s⟩

end FromJson

/-!
# Encoding what has been decoded

A member with all values of its element gives them back.
-/

section Reencoding

variable {lib : Library} {uuidText : Guid -> String} {element : Json} {m : MemberInfo}

/-- `to_string` and the string generator are inverse on the ids of the member. -/
def MemberInfo.Recovers (lib : Library) (uuidText : Guid -> String) (m : MemberInfo) :
    Prop :=
  lib.stringGenerator (uuidText m.instanceId) = some m.instanceId ∧
    lib.stringGenerator (uuidText m.epochId) = some m.epochId

theorem mem_fields_of_atKey {key : String} {encoded : Json}
    (h : (m.toJson uuidText).atKey key = .ok encoded) :
    (key, encoded) ∈ m.fields uuidText := by
  cases hlookup : (m.fields uuidText).lookup key with
  | none => simp [MemberInfo.toJson, Json.atKey, hlookup] at h
  | some value =>
      simp only [MemberInfo.toJson, Json.atKey, hlookup] at h
      rcases List.lookup_eq_some_iff.mp hlookup with ⟨front, back, hfields, _⟩
      rw [hfields, Except.ok.inj h]
      exact List.mem_append_right front List.mem_cons_self

theorem same_of_given {key : String} {given : Json}
    (hkey : ¬ (key = "instanceId" ∨ key = "epochId")) (h : element.atKey key = .ok given) :
    exists given', element.atKey key = .ok given' ∧ SameField lib key given' given := by
  refine ⟨given, h, ?_⟩
  rw [SameField, if_neg hkey]
  exact Or.inl rfl

theorem same_of_number {key : String} {n : Int}
    (hkey : ¬ (key = "instanceId" ∨ key = "epochId")) (h : element.GivesNumber key n) :
    exists given, element.atKey key = .ok given ∧ SameField lib key given (.integer n) := by
  rcases h with h | h
  · exact same_of_given hkey h
  · refine ⟨_, h, ?_⟩
    rw [SameField, if_neg hkey]
    exact Or.inr ⟨n, rfl, rfl⟩

theorem same_of_uuid {key : String} {id : Guid}
    (hkey : key = "instanceId" ∨ key = "epochId")
    (hid : lib.stringGenerator (uuidText id) = some id)
    (h : element.GivesUuid lib key id) :
    exists given, element.atKey key = .ok given ∧
      SameField lib key given (.string (uuidText id)) := by
  rcases h with ⟨s, hs, hgenerated⟩
  refine ⟨_, hs, ?_⟩
  rw [SameField, if_pos hkey]
  exact ⟨s, _, id, rfl, rfl, hgenerated, hid⟩

theorem MemberInfo.Given.reencodes (h : m.Given lib element)
    (hrecovers : m.Recovers lib uuidText) : m.Reencodes lib uuidText element := by
  have hfields : forall field, field ∈ m.fields uuidText ->
      exists given, element.atKey field.1 = .ok given ∧
        SameField lib field.1 given field.2 := by
    rw [← List.forall_iff_forall_mem]
    simp only [MemberInfo.fields, List.forall_cons]
    exact ⟨same_of_uuid (Or.inl rfl) hrecovers.left h.instanceId,
      same_of_given (by decide) h.dateTime,
      same_of_given (by decide) h.state,
      same_of_given (by decide) h.isAlive,
      same_of_given (by decide) h.internalTcpIp,
      same_of_number (by decide) h.internalTcpPort,
      same_of_number (by decide) h.internalSecureTcpPort,
      same_of_given (by decide) h.externalTcpIp,
      same_of_number (by decide) h.externalTcpPort,
      same_of_number (by decide) h.externalSecureTcpPort,
      same_of_given (by decide) h.internalHttpIp,
      same_of_number (by decide) h.internalHttpPort,
      same_of_given (by decide) h.externalHttpIp,
      same_of_number (by decide) h.externalHttpPort,
      same_of_number (by decide) h.lastCommitPosition,
      same_of_number (by decide) h.writerCheckpoint,
      same_of_number (by decide) h.chaserCheckpoint,
      same_of_number (by decide) h.epochPosition,
      same_of_number (by decide) h.epochNumber,
      same_of_uuid (Or.inr rfl) hrecovers.right h.epochId,
      same_of_number (by decide) h.nodePriority, trivial⟩
  intro key encoded hencoded
  exact hfields (key, encoded) (mem_fields_of_atKey hencoded)

end Reencoding

/-!
# A gossip answer

The answer of a single slave is decoded with all its values, that of a replica with
nothing but its ids.
-/

/-- There is one member for each element, in order, with all values of its element, which
encoding it gives back. -/
def Filled (lib : Library) (uuidText : Guid -> String) (j : Json) (info : ClusterInfo) :
    Prop :=
  exists elements, j.atKey "members" = .ok (.array elements) ∧
    List.Forall₂ (fun element m =>
      MemberInfo.Given lib element m ∧ MemberInfo.Reencodes lib uuidText element m)
      elements info.members

theorem forall₂_of_mapM {alpha beta : Type} {f : alpha -> Result beta} {xs : List alpha}
    {ys : List beta} (h : xs.mapM f = .ok ys) :
    List.Forall₂ (fun x y => f x = .ok y) xs ys := by
  induction xs generalizing ys with
  | nil =>
      cases h
      exact List.Forall₂.nil
  | cons x xs ih =>
      rw [List.mapM_cons] at h
      rcases bind_eq_ok h with ⟨y, hy, h⟩
      rcases bind_eq_ok h with ⟨rest, hrest, h⟩
      cases h
      exact List.Forall₂.cons hy (ih hrest)

section Gossip

variable {lib : Library} {uuidText : Guid -> String} {j : Json} {info : ClusterInfo}

/-- A decoded answer has an array of elements, each of which becomes a member. -/
theorem ClusterInfo.fromJson_elements (h : ClusterInfo.fromJson lib j = .ok info) :
    exists elements, j.atKey "members" = .ok (.array elements) ∧
      List.Forall₂ (fun element m => MemberInfo.fromJson lib element = .ok m)
        elements info.members := by
  unfold ClusterInfo.fromJson at h
  rcases bind_eq_ok h with ⟨given, hgiven, h⟩
  rcases bind_eq_ok h with ⟨elements, helements, h⟩
  rcases bind_eq_ok h with ⟨members, hmembers, h⟩
  cases h
  cases given with
  | array _ =>
      cases helements
      exact ⟨elements, hgiven, forall₂_of_mapM hmembers⟩
  | _ => cases helements

/-- The members have the values of their elements exactly if all elements are complete. -/
theorem forall₂_given_iff {elements : List Json} {members : List MemberInfo}
    (hmembers : List.Forall₂ (fun element m => MemberInfo.fromJson lib element = .ok m)
      elements members)
    (hrecovers : forall m, m ∈ members -> m.Recovers lib uuidText) :
    List.Forall₂ (fun element m =>
        MemberInfo.Given lib element m ∧ MemberInfo.Reencodes lib uuidText element m)
        elements members <->
      forall element, element ∈ elements -> element.Complete := by
  induction hmembers with
  | nil => exact ⟨fun _ element helement => absurd helement List.not_mem_nil,
      fun _ => List.Forall₂.nil⟩
  | @cons element m elements members hm hrest ih =>
      have hgiven := MemberInfo.given_iff_complete hm
      have ih := ih fun m hmem => hrecovers m (List.mem_cons_of_mem _ hmem)
      have hfirst := hrecovers m List.mem_cons_self
      rw [List.forall₂_cons, List.forall_mem_cons, ih]
      constructor
      · rintro ⟨⟨hvalues, _⟩, hcomplete⟩
        exact ⟨hgiven.mp hvalues, hcomplete⟩
      · rintro ⟨hcomplete, hall⟩
        have hvalues := hgiven.mpr hcomplete
        exact ⟨⟨hvalues, hvalues.reencodes hfirst⟩, hall⟩

/-- No member of a decoded answer is half-filled exactly if no element is empty, has a
state that is not known, or a number that its field cannot hold. -/
theorem clusterInfo_filled_iff (hdecoded : ClusterInfo.fromJson lib j = .ok info)
    (hrecovers : forall m, m ∈ info.members -> m.Recovers lib uuidText) :
    Filled lib uuidText j info <->
      forall elements, j.atKey "members" = .ok (.array elements) ->
        forall element, element ∈ elements -> element.Complete := by
  rcases ClusterInfo.fromJson_elements hdecoded with ⟨elements, helements, hmembers⟩
  have hiff := forall₂_given_iff hmembers hrecovers
  constructor
  · rintro ⟨elements', helements', hfilled⟩ elements'' helements''
    rw [helements] at helements' helements''
    cases helements'
    cases helements''
    exact hiff.mp hfilled
  · intro hcomplete
    exact ⟨elements, helements, hiff.mpr (hcomplete elements helements)⟩

end Gossip

def slaveUuidText (_ : Guid) : String := "97a8ae2c-1bd4-4bab-a117-fc2ca134e5b9"

/-- A gossip answer of a cluster with a read-only replica, which has no state of the eleven
known ones. -/
def replicaElement : Json :=
  .object
    [("instanceId", .string "97a8ae2c-1bd4-4bab-a117-fc2ca134e5b9"),
     ("epochId", .string "97a8ae2c-1bd4-4bab-a117-fc2ca134e5b9"),
     ("timeStamp", .string "2019-09-05T19:12:37.8141961Z"),
     ("state", .string "ReadOnlyReplica"),
     ("isAlive", .boolean true)]

def replicaJson : Json :=
  .object [("members", .array [replicaElement])]

def replicaInfo : ClusterInfo :=
  { members := [{ MemberInfo.null with instanceId := slaveId, epochId := slaveId }] }

theorem replica_decoded : ClusterInfo.fromJson slaveLibrary replicaJson = .ok replicaInfo := by
  decide +kernel

theorem replica_halfFilled :
    ¬ forall (j : Json) (info : ClusterInfo), ClusterInfo.fromJson slaveLibrary j = .ok info ->
      (forall m, m ∈ info.members -> m.Recovers slaveLibrary slaveUuidText) ->
      Filled slaveLibrary slaveUuidText j info := by
  intro h
  have hrecovers : forall m, m ∈ replicaInfo.members ->
      m.Recovers slaveLibrary slaveUuidText := by
    intro m hm
    rw [List.mem_singleton.mp hm]
    exact ⟨rfl, rfl⟩
  rcases h replicaJson replicaInfo replica_decoded hrecovers with ⟨elements, helements, hfilled⟩
  cases helements
  cases hfilled with
  | cons hfirst _ =>
      have hgiven : replicaElement.atKey "state" = .ok (.string "ReadOnlyReplica") := rfl
      have htext := Json.string.inj (Except.ok.inj (hgiven.symm.trans hfirst.left.state))
      exact absurd htext (by decide)

theorem slave_filled :
    Filled slaveLibrary slaveUuidText slaveJson { members := [slaveMember] } := by
  have hdecoded : ClusterInfo.fromJson slaveLibrary slaveJson =
      .ok { members := [slaveMember] } := by
    decide +kernel
  refine (clusterInfo_filled_iff hdecoded ?_).mpr ?_
  · intro m hm
    rw [List.mem_singleton.mp hm]
    exact ⟨rfl, rfl⟩
  · intro elements helements element helement
    cases helements
    rw [List.mem_singleton.mp helement]
    constructor
    · rfl
    · exact ⟨.slave, rfl⟩
    · rw [forall_intKeys_iff]
      exact ⟨⟨_, Or.inl rfl, by decide, by decide⟩, ⟨_, Or.inl rfl, by decide, by decide⟩,
        ⟨_, Or.inl rfl, by decide, by decide⟩, ⟨_, Or.inl rfl, by decide, by decide⟩,
        ⟨_, Or.inl rfl, by decide, by decide⟩, ⟨_, Or.inl rfl, by decide, by decide⟩,
        ⟨_, Or.inl rfl, by decide, by decide⟩, ⟨_, Or.inl rfl, by decide, by decide⟩⟩
    · rw [forall_int64Keys_iff]
      exact ⟨⟨_, Or.inl rfl, by decide, by decide⟩, ⟨_, Or.inl rfl, by decide, by decide⟩,
        ⟨_, Or.inl rfl, by decide, by decide⟩, ⟨_, Or.inl rfl, by decide, by decide⟩⟩

end Cluster
end EventStoreClient
