import Mathlib.Data.List.Basic

/-!
# Pipes

One direction of a connection.  What is written at one end arrives at the other one in
order, and in pieces of any length.
-/

namespace EventStoreClient
namespace Foundation

/-- What has been written so far, and the pieces of it that have arrived. -/
structure Pipe (alpha : Type) where
  written : List alpha
  pieces : List (List alpha)
  arrived_start : pieces.flatten <+: written

namespace Pipe

variable {alpha : Type}

def empty : Pipe alpha :=
  { written := []
    pieces := []
    arrived_start := List.nil_prefix }

def arrived (p : Pipe alpha) : List alpha := p.pieces.flatten

def write (more : List alpha) (p : Pipe alpha) : Pipe alpha :=
  { p with
    written := p.written ++ more
    arrived_start := p.arrived_start.trans (List.prefix_append _ _) }

def underWay (p : Pipe alpha) : List alpha := p.written.drop p.arrived.length

theorem arrived_underWay (p : Pipe alpha) : p.arrived ++ p.underWay = p.written := by
  rcases p.arrived_start with ⟨rest, hrest⟩
  rw [underWay, ← hrest]
  exact congrArg (p.arrived ++ ·) List.drop_left

def arrive (n : Nat) (p : Pipe alpha) : Pipe alpha :=
  { p with
    pieces := p.pieces ++ [p.underWay.take n]
    arrived_start := by
      rw [List.flatten_append, List.flatten_singleton]
      have hrest : p.arrived ++ p.underWay.take n <+: p.arrived ++ p.underWay :=
        (List.prefix_append_right_inj p.arrived).mpr (List.take_prefix n p.underWay)
      rwa [p.arrived_underWay] at hrest }

def Drained (p : Pipe alpha) : Prop := p.arrived = p.written

@[simp] theorem arrive_written (n : Nat) (p : Pipe alpha) : (p.arrive n).written = p.written :=
  rfl

@[simp] theorem write_written (more : List alpha) (p : Pipe alpha) :
    (p.write more).written = p.written ++ more := rfl

end Pipe

end Foundation
end EventStoreClient
