import AssetGraph.Text.Decimal
/-!
# Pages of a listing

A listing may be asked for page by page; a page size of zero asks for all of it.  Page numbers and
sizes have 32 bits, so the offset of a page always fits 64 (`toNat_offset`).
-/
namespace AssetGraph

/-- **A page of a listing**: its number from zero, and how many entries a page has. -/
structure Pagination where
  page : UInt32 := 0
  size : UInt32 := 0
deriving DecidableEq, Repr

namespace Pagination

/-- The whole listing. -/
def all : Pagination := {}

def isEnabled (p : Pagination) : Bool := p.size != 0

/-- The page as pairs of a query. -/
def query (p : Pagination) : List (String × String) :=
  if p.isEnabled then
    [("page", Decimal.text p.page.toNat), ("size", Decimal.text p.size.toNat)]
  else []

/-- How many entries lie on the pages before. -/
def offset (p : Pagination) : UInt64 := p.page.toUInt64 * p.size.toUInt64

/-- **The entries that lie on the page.** -/
def apply {α : Type} (p : Pagination) (xs : List α) : List α :=
  if p.isEnabled then (xs.drop p.offset.toNat).take p.size.toNat else xs

@[simp] theorem apply_all {α : Type} (xs : List α) : all.apply xs = xs := rfl

theorem toNat_offset (p : Pagination) : p.offset.toNat = p.page.toNat * p.size.toNat := by
  have h : p.page.toNat * p.size.toNat < 2 ^ 64 :=
    Nat.lt_of_le_of_lt
      (Nat.mul_le_mul (Nat.le_pred_of_lt p.page.toNat_lt) (Nat.le_pred_of_lt p.size.toNat_lt))
      (by decide)
  rw [offset, UInt64.toNat_mul, UInt32.toNat_toUInt64, UInt32.toNat_toUInt64, Nat.mod_eq_of_lt h]

theorem isEnabled_iff {p : Pagination} : p.isEnabled = true ↔ p.size ≠ 0 := by simp [isEnabled]

theorem apply_of_isEnabled {α : Type} {p : Pagination} (h : p.isEnabled = true) (xs : List α) :
    p.apply xs = (xs.drop (p.page.toNat * p.size.toNat)).take p.size.toNat := by
  simp [apply, h, toNat_offset]

end Pagination

end AssetGraph
