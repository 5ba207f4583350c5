/-!
# Instants

A point of time to the nanosecond, and the sentinel `unexpired` that an expiration holds while it has
not happened.  Order is by second, then by nanosecond.  A nanosecond count from 10⁹ up lies in a leap
second that follows its second, so it sorts behind every ordinary one of that second.
-/
namespace AssetGraph

/-- **A point of time**: seconds since 1970 began (UTC, leap seconds not counted) and nanoseconds. -/
structure Instant where
  second : Int
  nano : Nat := 0
  nano_lt : nano < 2000000000 := by decide
deriving DecidableEq, Repr

namespace Instant

theorem ext_iff' {a b : Instant} : a = b ↔ a.second = b.second ∧ a.nano = b.nano := by
  cases a; cases b; simp

instance : LT Instant where
  lt a b := a.second < b.second ∨ (a.second = b.second ∧ a.nano < b.nano)

instance : LE Instant where
  le a b := a.second < b.second ∨ (a.second = b.second ∧ a.nano ≤ b.nano)

theorem lt_def {a b : Instant} :
    a < b ↔ a.second < b.second ∨ (a.second = b.second ∧ a.nano < b.nano) := Iff.rfl

theorem le_def {a b : Instant} :
    a ≤ b ↔ a.second < b.second ∨ (a.second = b.second ∧ a.nano ≤ b.nano) := Iff.rfl

instance (a b : Instant) : Decidable (a < b) :=
  inferInstanceAs (Decidable (a.second < b.second ∨ (a.second = b.second ∧ a.nano < b.nano)))

instance (a b : Instant) : Decidable (a ≤ b) :=
  inferInstanceAs (Decidable (a.second < b.second ∨ (a.second = b.second ∧ a.nano ≤ b.nano)))

theorem lt_irrefl (a : Instant) : ¬ a < a := by simp [lt_def]

theorem not_lt {a b : Instant} : ¬ a < b ↔ b ≤ a := by
  simp only [lt_def, le_def]; omega

theorem not_le {a b : Instant} : ¬ a ≤ b ↔ b < a := by
  simp only [lt_def, le_def]; omega

theorem le_refl (a : Instant) : a ≤ a := by simp [le_def]

theorem le_trans {a b c : Instant} (h : a ≤ b) (h' : b ≤ c) : a ≤ c := by
  simp only [le_def] at *; omega

theorem le_antisymm {a b : Instant} (h : a ≤ b) (h' : b ≤ a) : a = b := by
  simp only [le_def, ext_iff'] at *; omega

theorem lt_of_le_of_lt {a b c : Instant} (h : a ≤ b) (h' : b < c) : a < c := by
  simp only [le_def, lt_def] at *; omega

/-- **The end of what has not ended**: 23:59:59 on 12 December 9999. -/
def unexpired : Instant := { second := 253400659199 }

end Instant

end AssetGraph
