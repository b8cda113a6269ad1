import EventStoreClient.Buffer.BufferQueue
import EventStoreClient.Foundation.Runs

/-!
# `buffer_queue` refines a list

Any number of queues, and the lists they stand for: appending, taking the head,
emptying and exchanging.
-/

namespace EventStoreClient
namespace Buffer

open Foundation

inductive Operation (Name T : Type) where
  | pushBack (name : Name) (value : T)
  | pushBackMoved (name : Name) (value : T)
  | emplaceBack (name : Name) (value : T)
  | popFront (name : Name)
  | clear (name : Name)
  | swap (name other : Name)
  deriving DecidableEq, Repr

def update {Name value : Type} [DecidableEq Name] (family : Name -> value) (name : Name)
    (v : value) : Name -> value :=
  fun n => if n = name then v else family n

def exchange {Name value : Type} [DecidableEq Name] (family : Name -> value)
    (name other : Name) : Name -> value :=
  update (update family name (family other)) other (family name)

section Steps

variable {Name T : Type} [DecidableEq Name] {chunkSize : UInt32}

/-- The call on the queues.  `pop_front` is only called on a queue that is not empty. -/
def queueStep (queues : Name -> BufferQueue T chunkSize) :
    Operation Name T -> Option (Name -> BufferQueue T chunkSize)
  | .pushBack name value => some (update queues name ((queues name).pushBack value))
  | .pushBackMoved name value => some (update queues name ((queues name).pushBack value))
  | .emplaceBack name value => some (update queues name ((queues name).emplaceBack value))
  | .popFront name =>
      if (queues name).empty then none
      else some (update queues name (queues name).popFront)
  | .clear name => some (update queues name (queues name).clear)
  | .swap name other => some (exchange queues name other)

def listStep (lists : Name -> List T) : Operation Name T -> Option (Name -> List T)
  | .pushBack name value => some (update lists name (lists name ++ [value]))
  | .pushBackMoved name value => some (update lists name (lists name ++ [value]))
  | .emplaceBack name value => some (update lists name (lists name ++ [value]))
  | .popFront name =>
      match lists name with
      | [] => none
      | _ :: rest => some (update lists name rest)
  | .clear name => some (update lists name [])
  | .swap name other => some (exchange lists name other)

end Steps

namespace BufferQueue

variable {T : Type} {chunkSize : UInt32}

def InRange (q : BufferQueue T chunkSize) (slot : Nat × Nat) : Prop :=
  slot.1 < q.deque.length ∧ slot.2 < chunkSize.toNat

def valueAt (q : BufferQueue T chunkSize) (slot : Nat × Nat) : Option T :=
  (q.deque[slot.1]?).bind (fun chunk => chunk slot.2)

/-- The queue seen from outside is the list, and the slots it touches exist: the one it
reads the front from, and the one in which it would construct the next element. -/
structure Behaves (q : BufferQueue T chunkSize) (xs : List T) : Prop where
  empty_iff : q.empty = true <-> xs = []
  size_eq : q.size = xs.length
  front_eq : q.front = xs.head?
  reads : xs ≠ [] -> InRange q q.frontSlot
  constructs : forall value, InRange (q.emplaceBack value) (q.emplaceBack value).backSlot
  constructed : forall value,
    (q.emplaceBack value).valueAt (q.emplaceBack value).backSlot = some value

theorem Filled.reads {q : BufferQueue T chunkSize} {xs : List T} (h : Filled q xs) :
    InRange q q.frontSlot := by
  constructor
  · exact List.length_pos_iff.mpr h.deque_ne
  · exact h.front_lt

theorem Filled.constructed {q : BufferQueue T chunkSize} {xs : List T} (h : Filled q xs) :
    InRange q q.backSlot := by
  constructor
  · exact Nat.sub_lt (List.length_pos_iff.mpr h.deque_ne) Nat.one_pos
  · exact h.back_lt

theorem emplaceBack_constructed (hsize : 0 < chunkSize) {q : BufferQueue T chunkSize}
    {xs : List T} (h : Represents q xs) (value : T) :
    (q.emplaceBack value).valueAt (q.emplaceBack value).backSlot = some value := by
  have hfilled := (h.emplaceBack hsize value).filled (by simp)
  have hlast := hfilled.slot_eq xs.length (by simp)
  have hlength := hfilled.length_eq
  rw [List.length_append, List.length_singleton] at hlength
  have hindex : (q.emplaceBack value).frontChunkIdx.toNat + xs.length =
      (q.emplaceBack value).backChunkIdx.toNat +
        ((q.emplaceBack value).deque.length - 1) * chunkSize.toNat := by
    omega
  have hpos : 0 < chunkSize.toNat := by
    have := hfilled.back_lt
    omega
  rw [hindex, slot, Nat.add_mul_div_right _ _ hpos, Nat.div_eq_of_lt hfilled.back_lt,
    Nat.zero_add, Nat.add_mul_mod_self_right, Nat.mod_eq_of_lt hfilled.back_lt] at hlast
  simpa [valueAt, backSlot] using hlast

theorem Represents.behaves {q : BufferQueue T chunkSize} {xs : List T}
    (hsize : 0 < chunkSize) (h : Represents q xs) : Behaves q xs := by
  constructor
  · exact h.empty_iff
  · exact h.size_eq
  · cases xs with
    | nil =>
        have hdeque : q.deque = [] := List.isEmpty_iff.mp (h.empty_iff.mpr rfl)
        rw [front, hdeque]
        rfl
    | cons x xs => exact h.front_eq
  · intro hne
    exact (h.filled hne).reads
  · intro value
    have hnext := h.emplaceBack hsize value
    exact (hnext.filled (by simp)).constructed
  · intro value
    exact emplaceBack_constructed hsize h value

end BufferQueue

open BufferQueue (Represents Behaves)

section Refinement

variable {Name T : Type} [DecidableEq Name] {chunkSize : UInt32}

def AllRepresent (queues : Name -> BufferQueue T chunkSize) (lists : Name -> List T) :
    Prop :=
  forall name, Represents (queues name) (lists name)

theorem AllRepresent.update {queues : Name -> BufferQueue T chunkSize}
    {lists : Name -> List T} (h : AllRepresent queues lists) {name : Name}
    {q : BufferQueue T chunkSize} {xs : List T} (hq : Represents q xs) :
    AllRepresent (update queues name q) (update lists name xs) := by
  intro n
  unfold Buffer.update
  split
  · exact hq
  · exact h n

theorem AllRepresent.exchange {queues : Name -> BufferQueue T chunkSize}
    {lists : Name -> List T} (h : AllRepresent queues lists) (name other : Name) :
    AllRepresent (exchange queues name other) (exchange lists name other) :=
  (h.update (h other)).update (h name)

theorem queueStep_refines (hsize : 0 < chunkSize)
    {queues : Name -> BufferQueue T chunkSize} {lists : Name -> List T}
    (operation : Operation Name T) (h : AllRepresent queues lists) :
    Option.Rel AllRepresent (queueStep queues operation) (listStep lists operation) := by
  cases operation with
  | pushBack name value =>
      exact Option.Rel.some (h.update ((h name).emplaceBack hsize value))
  | pushBackMoved name value =>
      exact Option.Rel.some (h.update ((h name).emplaceBack hsize value))
  | emplaceBack name value =>
      exact Option.Rel.some (h.update ((h name).emplaceBack hsize value))
  | popFront name =>
      have hname := h name
      cases hlist : lists name with
      | nil =>
          rw [hlist] at hname
          have hempty := hname.empty_iff.mpr rfl
          simp only [queueStep, listStep, hlist, hempty, if_true]
          exact Option.Rel.none
      | cons x rest =>
          rw [hlist] at hname
          have hfull : ¬ (queues name).empty = true := by
            intro hempty
            cases hname.empty_iff.mp hempty
          simp only [queueStep, listStep, hlist, if_neg hfull]
          exact Option.Rel.some (h.update hname.popFront)
  | clear name =>
      exact Option.Rel.some (h.update (BufferQueue.represents_clear (queues name)))
  | swap name other =>
      exact Option.Rel.some (h.exchange name other)

/-- Whatever is called on queues that start empty, the calls that are possible are those
that are possible on the lists, and after them every queue behaves as its list. -/
theorem run_refinesLists (hsize : 0 < chunkSize) (operations : List (Operation Name T)) :
    Option.Rel (fun queues lists => forall name : Name, Behaves (queues name) (lists name))
      (run queueStep (fun _ : Name => (BufferQueue.new : BufferQueue T chunkSize))
        operations)
      (run listStep (fun _ : Name => []) operations) := by
  have hstart : AllRepresent
      (fun _ : Name => (BufferQueue.new : BufferQueue T chunkSize)) (fun _ => []) :=
    fun _ => BufferQueue.represents_new
  have hend := run_rel (fun operation h => queueStep_refines hsize operation h) hstart
    operations
  apply rel_imp hend
  intro queues lists h name
  exact (h name).behaves hsize

/-- Four elements through a queue of chunks of three, and an exchange with another. -/
theorem chunkOf3_refinesLists :
    Option.Rel (fun queues lists => forall name : Bool, Behaves (queues name) (lists name))
      (run queueStep (fun _ : Bool => (BufferQueue.new : BufferQueue Nat 3))
        [.pushBack true 1, .pushBackMoved true 2, .emplaceBack true 3, .pushBack true 4,
          .popFront true, .swap true false, .popFront false, .clear true])
      (run listStep (fun _ : Bool => [])
        [.pushBack true 1, .pushBackMoved true 2, .emplaceBack true 3, .pushBack true 4,
          .popFront true, .swap true false, .popFront false, .clear true]) :=
  run_refinesLists (by decide) _

end Refinement

end Buffer
end EventStoreClient
