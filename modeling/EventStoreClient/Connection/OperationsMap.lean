import EventStoreClient.Wire.Commands
import Mathlib.Data.List.AList

/-!
# `operations_map`

The map from correlation ids to entries.  Registering does not replace an entry, and
looking up an absent id throws.
-/

namespace EventStoreClient
namespace Connection

open Wire

abbrev OperationsMap (operation : Type) := AList (fun _ : Guid => operation)

namespace OperationsMap

variable {operation : Type}

/-- `operations_.emplace`, which leaves an entry that is there as it is. -/
def registerOp (m : OperationsMap operation) (guid : Guid) (op : operation) :
    OperationsMap operation :=
  if guid ∈ m then m else m.insert guid op

theorem registerOp_of_notMem {m : OperationsMap operation} {guid : Guid}
    (hnew : guid ∉ m) (op : operation) : m.registerOp guid op = m.insert guid op := by
  rw [registerOp, if_neg hnew]

theorem registerOp_of_mem {m : OperationsMap operation} {guid : Guid}
    (hold : guid ∈ m) (op : operation) : m.registerOp guid op = m := by
  rw [registerOp, if_pos hold]

@[simp] theorem mem_registerOp {m : OperationsMap operation} {guid key : Guid}
    {op : operation} : key ∈ m.registerOp guid op <-> key = guid ∨ key ∈ m := by
  by_cases hold : guid ∈ m
  · rw [registerOp_of_mem hold]
    constructor
    · exact Or.inr
    · rintro (rfl | hkey)
      · exact hold
      · exact hkey
  · rw [registerOp_of_notMem hold, AList.mem_insert]

theorem lookup_registerOp_ne {m : OperationsMap operation} {guid key : Guid}
    (hne : key ≠ guid) (op : operation) :
    (m.registerOp guid op).lookup key = m.lookup key := by
  by_cases hold : guid ∈ m
  · rw [registerOp_of_mem hold]
  · rw [registerOp_of_notMem hold, AList.lookup_insert_ne hne]

theorem entry_of_mem {m : OperationsMap operation} {key : Guid} (hkey : key ∈ m) :
    exists op, m.lookup key = some op :=
  Option.isSome_iff_exists.mp (AList.lookup_isSome.mpr hkey)

end OperationsMap

end Connection
end EventStoreClient
