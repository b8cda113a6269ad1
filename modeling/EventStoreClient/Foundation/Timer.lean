/-!
# Waitable timers

A timer with at most one wait under way.  Cancelling turns a wait that has not
expired into one that ends as aborted, and does not recall a wait that has expired
and whose completion is queued.
-/

namespace EventStoreClient
namespace Foundation

inductive WaitResult where
  | expired
  | aborted
  deriving DecidableEq, Repr

inductive Timer where
  | idle
  | waiting
  | queued (result : WaitResult)
  deriving DecidableEq, Repr

namespace Timer

def cancel : Timer -> Timer
  | waiting => queued WaitResult.aborted
  | t => t

def expire? : Timer -> Option Timer
  | waiting => some (queued WaitResult.expired)
  | _ => none

/-- The queued completion, which leaves the timer idle when it runs. -/
def result? : Timer -> Option WaitResult
  | queued result => some result
  | _ => none

theorem expire?_eq_some {t next : Timer} (h : t.expire? = some next) :
    t = waiting ∧ next = queued WaitResult.expired := by
  cases t with
  | idle => cases h
  | waiting =>
      cases h
      exact ⟨rfl, rfl⟩
  | queued result => cases h

theorem result?_eq_some {t : Timer} {result : WaitResult}
    (h : t.result? = some result) : t = queued result := by
  cases t with
  | idle => cases h
  | waiting => cases h
  | queued result' =>
      cases h
      rfl

def Armed (t : Timer) : Prop :=
  t = waiting ∨ t = queued WaitResult.expired

theorem armed_cancel_iff (t : Timer) :
    Armed t.cancel <-> t = queued WaitResult.expired := by
  cases t <;> simp [Armed, cancel]

theorem not_armed_idle : ¬ Armed idle := by
  simp [Armed]

theorem not_armed_aborted : ¬ Armed (queued WaitResult.aborted) := by
  simp [Armed]

end Timer

end Foundation
end EventStoreClient
