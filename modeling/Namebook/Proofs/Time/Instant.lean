import Mathlib.Data.Int.Order.Basic
import Mathlib.Data.Prod.Lex
import Namebook.Time.Instant

/-!
# Moments in their order

Moments are ordered by their seconds and then by their nanoseconds, which is a linear order. The
later of two of them is their maximum.
-/

namespace Namebook.Time.Instant

instance : LinearOrder Instant :=
  LinearOrder.lift' (fun t : Instant => toLex (t.seconds, t.nanos)) fun a b h => by
    cases a
    cases b
    simpa using h

theorem lt_iff (a b : Instant) :
    a < b ↔ a.seconds < b.seconds ∨ a.seconds = b.seconds ∧ a.nanos < b.nanos :=
  Prod.Lex.toLex_lt_toLex

theorem before_iff_lt (a b : Instant) : a.before b = true ↔ a < b := by
  simp [before, lt_iff]

theorem latest_eq_max (a b : Instant) : latest a b = max a b := by
  rw [latest, max_def_lt]
  simp only [before_iff_lt]

end Namebook.Time.Instant
