import AssetGraph.Graph.Basic
/-!
# Reading a listing page by page

The pages of a size hold a listing one stretch behind another (`Pagination.IsPaged`): each page has the entries of its
own stretch, pages read from the first up to an empty one have all of them, and behind an empty page all are empty.
There is an empty page as long as page numbers last.  It is so for any list (`Pagination.isPaged_of_apply`), and every
listing of a graph gives pages of one list (`Graph.pages_partition_a_listing`).
-/
namespace AssetGraph

namespace Pagination

variable {α : Type} {size page : UInt32} {xs : List α} {list : Pagination → List α}

/-- The entries of the first pages of a size, one page behind another. -/
def firstPages (list : Pagination → List α) (size : UInt32) (n : Nat) : List α :=
  (List.range n).flatMap fun k => list { page := UInt32.ofNat k, size }

/-- How many pages can be asked for. -/
abbrev pageCount : Nat := 4294967296

/-- **A listing whose pages of a size partition it.** -/
structure IsPaged (list : Pagination → List α) (size : UInt32) : Prop where
  /-- A page holds the entries of its stretch. -/
  entry : ∀ (page : UInt32) (i : Nat), (list { page, size })[i]? =
    if i < size.toNat then (list .all)[page.toNat * size.toNat + i]? else none
  /-- The first pages hold the first entries, in their order. -/
  front : ∀ n ≤ pageCount, firstPages list size n = (list .all).take (n * size.toNat)
  /-- Up to an empty page the pages hold all entries. -/
  whole : ∀ page : UInt32, list { page, size } = [] → firstPages list size page.toNat = list .all
  /-- Behind an empty page all are empty. -/
  rest : ∀ page page' : UInt32, page ≤ page' → list { page, size } = [] → list { page := page', size } = []
  /-- There is an empty page, unless the entries outlast the page numbers. -/
  ends : (∃ page : UInt32, list { page, size } = []) ↔ (list .all).length ≤ (pageCount - 1) * size.toNat

theorem apply_of_ne (hsize : size ≠ 0) (page : UInt32) (xs : List α) : apply { page, size } xs =
    (xs.drop (page.toNat * size.toNat)).take size.toNat :=
  apply_of_isEnabled (isEnabled_iff.2 hsize) xs

theorem toNat_pos (hsize : size ≠ 0) : 0 < size.toNat :=
  Nat.pos_of_ne_zero fun hzero => hsize (UInt32.toNat_inj.1 hzero)

theorem getElem?_apply (hsize : size ≠ 0) (i : Nat) : (apply { page, size } xs)[i]? =
    if i < size.toNat then xs[page.toNat * size.toNat + i]? else none := by
  rw [apply_of_ne hsize, List.getElem?_take, List.getElem?_drop]

/-- A page is empty exactly if the pages before it have room for all entries. -/
theorem apply_eq_nil_iff (hsize : size ≠ 0) :
    apply { page, size } xs = [] ↔ xs.length ≤ page.toNat * size.toNat := by
  have hpos := toNat_pos hsize
  rw [apply_of_ne hsize, List.take_eq_nil_iff, List.drop_eq_nil_iff]
  omega

theorem firstPages_apply (hsize : size ≠ 0) {n : Nat} (hn : n ≤ pageCount) :
    firstPages (·.apply xs) size n = xs.take (n * size.toNat) := by
  induction n with
  | zero => simp [firstPages]
  | succ n ih =>
    have hnumber : (UInt32.ofNat n).toNat = n := UInt32.toNat_ofNat_of_lt' hn
    have hfirst := ih (Nat.le_of_succ_le hn)
    rw [firstPages] at hfirst ⊢
    rw [List.range_succ, List.flatMap_append, hfirst, List.flatMap_singleton, apply_of_ne hsize, hnumber, Nat.succ_mul,
      List.take_add]

/-- **Pages of one list partition it.** -/
theorem isPaged_of_apply (hsize : size ≠ 0) (hlist : ∀ p, list p = p.apply xs) : IsPaged list size := by
  have hall : list .all = xs := hlist .all
  have hfun : list = (·.apply xs) := funext hlist
  constructor
  · intro page i
    rw [hlist, hall]
    exact getElem?_apply hsize i
  · intro n hn
    rw [hall, hfun]
    exact firstPages_apply hsize hn
  · intro page hempty
    rw [hlist, apply_eq_nil_iff hsize] at hempty
    rw [hall, hfun, firstPages_apply hsize (Nat.le_of_lt page.toNat_lt)]
    exact List.take_of_length_le hempty
  · intro page page' hle hempty
    rw [hlist, apply_eq_nil_iff hsize] at hempty ⊢
    exact Nat.le_trans hempty (Nat.mul_le_mul_right _ (UInt32.le_iff_toNat_le.1 hle))
  · rw [hall]
    constructor
    · rintro ⟨page, hempty⟩
      rw [hlist, apply_eq_nil_iff hsize] at hempty
      exact Nat.le_trans hempty (Nat.mul_le_mul_right _ (Nat.le_pred_of_lt page.toNat_lt))
    · intro hlength
      refine ⟨UInt32.ofNat (pageCount - 1), ?_⟩
      rw [hlist, apply_eq_nil_iff hsize]
      exact hlength

end Pagination

namespace Graph

open Pagination (IsPaged)

/-- A listing of the edges of an asset whose pages partition it; without the asset it is refused on every page. -/
def IsPagedAt {α : Type} (g : Graph) (assetId : String) (list : Pagination → Except GraphError (List α))
    (size : UInt32) : Prop :=
  if g.hasAsset assetId then ∃ entries, (∀ p, list p = .ok (entries p)) ∧ IsPaged entries size
  else ∀ p, list p = .error (missingAsset assetId)

variable {size : UInt32}

theorem isPagedAt_of_apply {α : Type} (hsize : size ≠ 0) {g : Graph} {assetId : String} {xs : List α}
    {list : Pagination → Except GraphError (List α)}
    (hlist : ∀ p, list p = if !g.hasAsset assetId then .error (missingAsset assetId) else .ok (p.apply xs)) :
    g.IsPagedAt assetId list size := by
  rw [IsPagedAt]
  split
  · rename_i hasset
    exact ⟨(·.apply xs), fun p => by simp [hlist, hasset], Pagination.isPaged_of_apply hsize fun _ => rfl⟩
  · rename_i hasset
    exact fun p => by simp [hlist, hasset]

/-- **Pages partition a listing.**  The offset of a page is the number of entries on the pages before it, without
overflow, and the pages of any list partition it.  So do the pages of every listing of a graph: teams, assets, and the
owners, parents and children of an asset, which are refused on every page if there is no such asset. -/
theorem pages_partition_a_listing (hsize : size ≠ 0) :
    (∀ page : UInt32, (Pagination.offset { page, size }).toNat = page.toNat * size.toNat) ∧
    (∀ (α : Type) (xs : List α), IsPaged (·.apply xs) size) ∧
    ∀ g : Graph, (∀ identifier, IsPaged (g.listTeams identifier) size) ∧ (∀ f, IsPaged (g.listAssets f) size) ∧
      ∀ assetId, g.IsPagedAt assetId (g.listOwners assetId) size ∧ g.IsPagedAt assetId (g.listParents assetId) size ∧
        g.IsPagedAt assetId (g.listChildren assetId) size := by
  refine ⟨fun page => Pagination.toNat_offset _, fun α xs => Pagination.isPaged_of_apply hsize fun _ => rfl,
    fun g => ⟨fun identifier => ?_, fun f => ?_, fun assetId => ⟨?_, ?_, ?_⟩⟩⟩
  · exact Pagination.isPaged_of_apply hsize fun _ => rfl
  · exact Pagination.isPaged_of_apply hsize fun _ => rfl
  all_goals exact isPagedAt_of_apply hsize fun _ => rfl

/-- Three teams by two: the second page is short, the third is empty, and the first two are all of them. -/
theorem pages_partition_three_teams :
    let g : Graph :=
      { teams := [⟨"team-1", "t1", "One"⟩, ⟨"team-2", "t2", "Two"⟩, ⟨"team-3", "t3", "Three"⟩] }
    (2 : UInt32) ≠ 0 ∧ g.listTeams none { page := 1, size := 2 } = [⟨"team-3", "t3", "Three"⟩] ∧
      g.listTeams none { page := 2, size := 2 } = [] ∧
      Pagination.firstPages (g.listTeams none) 2 2 = g.listTeams none .all := by
  intro g
  have hsize : (2 : UInt32) ≠ 0 := by decide
  have hempty : g.listTeams none { page := 2, size := 2 } = [] := by decide +kernel
  have hteams := ((pages_partition_a_listing hsize).2.2 g).1 none
  exact ⟨hsize, by decide +kernel, hempty, hteams.whole 2 hempty⟩

end Graph

end AssetGraph
