import Mathlib.Order.Defs.LinearOrder

/-!
# `position`

A place in the log of all events, a commit and a prepare position, which are compared
in that order.
-/

namespace EventStoreClient

structure Position where
  commitPosition : Int
  preparePosition : Int
  deriving DecidableEq, Repr

namespace Position

def Less (p q : Position) : Prop :=
  p.commitPosition < q.commitPosition ∨
    (p.commitPosition = q.commitPosition ∧ p.preparePosition < q.preparePosition)

instance (p q : Position) : Decidable (Less p q) :=
  inferInstanceAs (Decidable (_ ∨ _))

def LessEq (p q : Position) : Prop := p = q ∨ Less p q

instance (p q : Position) : Decidable (LessEq p q) :=
  inferInstanceAs (Decidable (_ ∨ _))

theorem lessEq_iff (p q : Position) :
    LessEq p q <-> p.commitPosition < q.commitPosition ∨
      (p.commitPosition = q.commitPosition ∧ p.preparePosition ≤ q.preparePosition) := by
  rcases p with ⟨pc, pp⟩
  rcases q with ⟨qc, qp⟩
  simp only [LessEq, Less, Position.mk.injEq]
  omega

instance : LinearOrder Position where
  le := LessEq
  lt := Less
  le_refl := fun p => Or.inl rfl
  le_trans := by
    intro p q r hpq hqr
    rw [lessEq_iff] at hpq hqr ⊢
    omega
  lt_iff_le_not_ge := by
    intro p q
    rw [lessEq_iff, lessEq_iff]
    simp only [Less]
    omega
  le_antisymm := by
    rintro ⟨pc, pp⟩ ⟨qc, qp⟩ hpq hqp
    rw [lessEq_iff] at hpq hqp
    simp only [Position.mk.injEq] at hpq hqp ⊢
    omega
  le_total := by
    intro p q
    rw [lessEq_iff, lessEq_iff]
    omega
  toDecidableLE := fun p q => inferInstanceAs (Decidable (LessEq p q))

end Position

end EventStoreClient
