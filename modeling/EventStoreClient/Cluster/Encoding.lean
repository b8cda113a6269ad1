import EventStoreClient.Cluster.Decoding

/-!
# Encoded members

The gossip that `to_json` writes is what `from_json` reads.
-/

namespace EventStoreClient
namespace Cluster

open Foundation
open Wire (Guid)

structure MemberInfo.InRange (m : MemberInfo) : Prop where
  ints : forall n, n ∈ [m.internalTcpPort, m.internalSecureTcpPort, m.externalTcpPort,
    m.externalSecureTcpPort, m.internalHttpPort, m.externalHttpPort, m.epochNumber,
    m.nodePriority] -> -0x80000000 ≤ n ∧ n < 0x80000000
  int64s : forall n, n ∈ [m.lastCommitPosition, m.writerCheckpoint, m.chaserCheckpoint,
    m.epochPosition] -> -0x8000000000000000 ≤ n ∧ n < 0x8000000000000000

def ClusterInfo.toJson (uuidText : Guid -> String) (info : ClusterInfo) : Json :=
  .object [("members", .array (info.members.map (MemberInfo.toJson uuidText)))]

/-- The value has the members that `to_json` writes, each of them with its keys in any
order. -/
def Json.Dumps (uuidText : Guid -> String) (info : ClusterInfo) (j : Json) : Prop :=
  exists elements, j.atKey "members" = .ok (.array elements) ∧
    List.Forall₂ (fun element (m : MemberInfo) =>
      forall key, element.atKey key = (m.toJson uuidText).atKey key) elements info.members

theorem dumps_toJson (uuidText : Guid -> String) (info : ClusterInfo) :
    (info.toJson uuidText).Dumps uuidText info := by
  refine ⟨info.members.map (MemberInfo.toJson uuidText), rfl, ?_⟩
  rw [List.forall₂_map_left_iff]
  exact List.forall₂_same.mpr fun _ _ _ => rfl

section Reading

variable {lib : Library} {uuidText : Guid -> String}

theorem ok_bind {alpha beta : Type} (a : alpha) (f : alpha -> Result beta) :
    ((.ok a : Result alpha) >>= f) = f a := rfl

theorem getString_string (s : String) : (Json.string s).getString = .ok s := rfl

theorem getBool_boolean (b : Bool) : (Json.boolean b).getBool = .ok b := rfl

theorem getInt_integer {n : Int} (hlow : -0x80000000 ≤ n) (hhigh : n < 0x80000000) :
    (Json.integer n).getInt = .ok n :=
  congrArg Except.ok (Int.bmod_eq_of_le (by omega) (by omega))

theorem getInt64_integer {n : Int} (hlow : -0x8000000000000000 ≤ n)
    (hhigh : n < 0x8000000000000000) : (Json.integer n).getInt64 = .ok n :=
  congrArg Except.ok (Int.bmod_eq_of_le (by omega) (by omega))

theorem atKey_toJson {m : MemberInfo} {field : String × Json}
    (hfield : field ∈ m.fields uuidText) : (m.toJson uuidText).atKey field.1 = .ok field.2 := by
  have hall : forall field, field ∈ m.fields uuidText ->
      (m.toJson uuidText).atKey field.1 = .ok field.2 := by
    rw [← List.forall_iff_forall_mem]
    simp only [MemberInfo.fields, List.forall_cons]
    exact ⟨rfl, rfl, rfl, rfl, rfl, rfl, rfl, rfl, rfl, rfl, rfl, rfl, rfl, rfl, rfl, rfl, rfl,
      rfl, rfl, rfl, rfl, trivial⟩
  exact hall field hfield

theorem MemberInfo.fromJson_toJson {m : MemberInfo} {element : Json}
    (helement : forall key, element.atKey key = (m.toJson uuidText).atKey key)
    (hrange : m.InRange) (hrecovers : m.Recovers lib uuidText) :
    MemberInfo.fromJson lib element = .ok m := by
  have hgiven : forall field, field ∈ m.fields uuidText ->
      element.atKey field.1 = .ok field.2 :=
    fun field hfield => (helement field.1).trans (atKey_toJson hfield)
  rw [← List.forall_iff_forall_mem] at hgiven
  simp only [MemberInfo.fields, List.forall_cons] at hgiven
  rcases hgiven with ⟨hinstanceId, hdateTime, hstate, hisAlive, hinternalTcpIp,
    hinternalTcpPort, hinternalSecureTcpPort, hexternalTcpIp, hexternalTcpPort,
    hexternalSecureTcpPort, hinternalHttpIp, hinternalHttpPort, hexternalHttpIp,
    hexternalHttpPort, hlastCommitPosition, hwriterCheckpoint, hchaserCheckpoint,
    hepochPosition, hepochNumber, hepochId, hnodePriority, _⟩
  have hinstance : lib.guid (uuidText m.instanceId) = .ok m.instanceId := by
    rw [Library.guid, hrecovers.left]
  have hepoch : lib.guid (uuidText m.epochId) = .ok m.epochId := by
    rw [Library.guid, hrecovers.right]
  have hints := hrange.ints
  have hint64s := hrange.int64s
  simp only [List.forall_mem_cons] at hints hint64s
  rcases hints with ⟨hint1, hint2, hint3, hint4, hint5, hint6, hint7, hint8, _⟩
  rcases hint64s with ⟨hlong1, hlong2, hlong3, hlong4, _⟩
  simp only [MemberInfo.fromJson, not_empty_of_atKey hstate, hinstanceId, hdateTime, hstate,
    hisAlive, hinternalTcpIp, hinternalTcpPort, hinternalSecureTcpPort, hexternalTcpIp,
    hexternalTcpPort, hexternalSecureTcpPort, hinternalHttpIp, hinternalHttpPort,
    hexternalHttpIp, hexternalHttpPort, hlastCommitPosition, hwriterCheckpoint,
    hchaserCheckpoint, hepochPosition, hepochNumber, hepochId, hnodePriority,
    getInt_integer hint1.left hint1.right, getInt_integer hint2.left hint2.right,
    getInt_integer hint3.left hint3.right, getInt_integer hint4.left hint4.right,
    getInt_integer hint5.left hint5.right, getInt_integer hint6.left hint6.right,
    getInt_integer hint7.left hint7.right, getInt_integer hint8.left hint8.right,
    getInt64_integer hlong1.left hlong1.right, getInt64_integer hlong2.left hlong2.right,
    getInt64_integer hlong3.left hlong3.right, getInt64_integer hlong4.left hlong4.right,
    getString_string, getBool_boolean, hinstance, hepoch, ok_bind,
    VirtualNodeState.fromString_toString]
  rfl

theorem mapM_of_forall₂ {alpha beta : Type} {f : alpha -> Result beta} {xs : List alpha}
    {ys : List beta} (h : List.Forall₂ (fun x y => f x = .ok y) xs ys) :
    xs.mapM f = .ok ys := by
  induction h with
  | nil => rfl
  | cons hx _ ih =>
      rw [List.mapM_cons, hx, ok_bind, ih]
      rfl

theorem ClusterInfo.fromJson_toJson {info : ClusterInfo} {j : Json}
    (hdumps : j.Dumps uuidText info)
    (hmembers : forall m, m ∈ info.members -> m.InRange ∧ m.Recovers lib uuidText) :
    ClusterInfo.fromJson lib j = .ok info := by
  rcases hdumps with ⟨elements, helements, hdumps⟩
  have hread : List.Forall₂ (fun element m => MemberInfo.fromJson lib element = .ok m)
      elements info.members := by
    rw [List.forall₂_iff_zip] at hdumps ⊢
    refine ⟨hdumps.left, fun hzip => ?_⟩
    have hm := hmembers _ (List.of_mem_zip hzip).right
    exact MemberInfo.fromJson_toJson (hdumps.right hzip) hm.left hm.right
  unfold ClusterInfo.fromJson
  rw [helements, ok_bind, Json.getArray, ok_bind, mapM_of_forall₂ hread]
  rfl

end Reading

end Cluster
end EventStoreClient
