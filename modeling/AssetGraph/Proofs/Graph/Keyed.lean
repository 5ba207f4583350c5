import AssetGraph.Graph.Basic
import Mathlib.Data.List.Nodup
/-!
# Lists whose entries have a key of their own

Where no two entries share a key, changing the first entry that fits changes the one with its key
(`updateFirst_eq_change`), and filtering by a key is looking it up (`filter_key_eq`).
-/
namespace AssetGraph

namespace Graph

variable {α β κ : Type}

/-- **Changes every entry that fits.** -/
def change (p : α → Prop) [DecidablePred p] (f : α → α) (xs : List α) : List α :=
  xs.map fun x => if p x then f x else x

variable {p : α → Prop} [DecidablePred p] {f : α → α} {xs : List α}

@[simp] theorem change_cons (x : α) (xs : List α) :
    change p f (x :: xs) = (if p x then f x else x) :: change p f xs := rfl

theorem mem_change {y : α} : y ∈ change p f xs ↔ ∃ x ∈ xs, (if p x then f x else x) = y :=
  List.mem_map

theorem change_eq_self (h : ∀ x ∈ xs, p x → f x = x) : change p f xs = xs := by
  unfold change
  refine (List.map_congr_left fun x hx => ?_).trans (List.map_id xs)
  by_cases hp : p x
  · rw [if_pos hp, h x hx hp]
    rfl
  · rw [if_neg hp]
    rfl

theorem comp_change {v : α → β} (h : ∀ x, v (f x) = v x) :
    (v ∘ fun x => if p x then f x else x) = v := by
  funext x
  by_cases hp : p x
  · exact (congrArg v (if_pos hp)).trans (h x)
  · exact congrArg v (if_neg hp)

theorem map_change {v : α → β} (h : ∀ x, v (f x) = v x) (xs : List α) :
    (change p f xs).map v = xs.map v := by
  rw [change, List.map_map, comp_change h]

theorem find?_change {q : α → Bool} (h : ∀ x, q (f x) = q x) (xs : List α) :
    (change p f xs).find? q = (xs.find? q).map fun x => if p x then f x else x := by
  rw [change, List.find?_map, comp_change h]

theorem filter_change {q : α → Bool} (h : ∀ x, q (f x) = q x) (xs : List α) :
    (change p f xs).filter q = change p f (xs.filter q) := by
  rw [change, List.filter_map, comp_change h, change]

theorem any_change {q : α → Bool} (h : ∀ x, p x → q (f x) = q x) (xs : List α) :
    (change p f xs).any q = xs.any q := by
  unfold change
  rw [List.any_map]
  congr 1
  funext x
  by_cases hp : p x
  · exact (congrArg q (if_pos hp)).trans (h x hp)
  · exact congrArg q (if_neg hp)

theorem change_congr_of_iff {q : α → Prop} [DecidablePred q] {h : α → α} (hq : ∀ x ∈ xs, p x ↔ q x)
    (hx : ∀ x ∈ xs, p x → f x = h x) : change p f xs = change q h xs := by
  refine List.map_congr_left fun x hm => ?_
  by_cases hp : p x
  · rw [if_pos hp, if_pos ((hq x hm).1 hp), hx x hm hp]
  · rw [if_neg hp, if_neg fun h => hp ((hq x hm).2 h)]

theorem change_congr {h : α → α} (hx : ∀ x ∈ xs, p x → f x = h x) : change p f xs = change p h xs :=
  change_congr_of_iff (fun _ _ => Iff.rfl) hx

/-- Entries that are changed in one way, first some and then others. -/
theorem change_change {q : α → Prop} [DecidablePred q] (hf : ∀ x, f (f x) = f x) (xs : List α) :
    change q f (change p f xs) = change (fun x => p x ∨ q x) f xs := by
  unfold change
  rw [List.map_map]
  refine List.map_congr_left fun x _ => ?_
  rw [Function.comp_apply]
  by_cases hp : p x
  · have hboth : p x ∨ q x := .inl hp
    rw [if_pos hp, if_pos hboth, hf, ite_self]
  · rw [if_neg hp]
    exact if_congr (or_iff_right hp).symm rfl rfl

theorem forall_mem_change {q : α → Prop} (h : ∀ x ∈ xs, q x) (hf : ∀ x, p x → q x → q (f x)) :
    ∀ y ∈ change p f xs, q y := by
  intro y hy
  obtain ⟨x, hx, rfl⟩ := mem_change.1 hy
  by_cases hp : p x
  · rw [if_pos hp]
    exact hf x hp (h x hx)
  · rw [if_neg hp]
    exact h x hx

theorem forall_mem_concat {q : α → Prop} (h : ∀ x ∈ xs, q x) {z : α} (hz : q z) : ∀ y ∈ xs ++ [z], q y := by
  intro y hy
  rcases List.mem_append.1 hy with hy | hy
  · exact h y hy
  · exact List.mem_singleton.1 hy ▸ hz

section Keyed

variable {key : α → κ}

theorem eq_of_key_eq (hn : (xs.map key).Nodup) {x y : α} (hx : x ∈ xs) (hy : y ∈ xs)
    (h : key x = key y) : x = y :=
  List.inj_on_of_nodup_map hn hx hy h

/-- An entry is still there exactly if it is not one of those that are changed. -/
theorem mem_change_iff_not (hn : (xs.map key).Nodup) (hf : ∀ x, key (f x) = key x) (hne : ∀ x, p x → f x ≠ x)
    {x : α} (hx : x ∈ xs) : x ∈ change p f xs ↔ ¬ p x := by
  constructor
  · intro hm hp
    obtain ⟨y, hy, hyx⟩ := mem_change.1 hm
    have hkey : key y = key x := by
      rw [← hyx]
      split
      · exact (hf y).symm
      · rfl
    rw [eq_of_key_eq hn hy hx hkey, if_pos hp] at hyx
    exact hne x hp hyx
  · exact fun hp => mem_change.2 ⟨x, hx, if_neg hp⟩

/-- Two keys of their own tell the same entries apart. -/
theorem key_eq_iff_key_eq {κ' : Type} {key' : α → κ'} (hn : (xs.map key).Nodup) (hn' : (xs.map key').Nodup)
    {x y : α} (hx : x ∈ xs) (hy : y ∈ xs) : key x = key y ↔ key' x = key' y :=
  ⟨fun h => congrArg key' (eq_of_key_eq hn hx hy h), fun h => congrArg key (eq_of_key_eq hn' hx hy h)⟩

/-- Of the entries that fit, one has the key of an entry if that one fits, and none if it does not. -/
theorem count_map_filter [BEq κ] [LawfulBEq κ] (hn : (xs.map key).Nodup) {x : α} (hx : x ∈ xs)
    (q : α → Prop) [DecidablePred q] :
    ((xs.filter (q ·)).map key).count (key x) = if q x then 1 else 0 := by
  by_cases hq : q x
  · rw [if_pos hq]
    have hsub : ((xs.filter (q ·)).map key).Nodup := hn.sublist (List.filter_sublist.map key)
    exact List.count_eq_one_of_mem hsub (List.mem_map_of_mem (List.mem_filter.2 ⟨hx, decide_eq_true hq⟩))
  · rw [if_neg hq, List.count_eq_zero]
    intro hm
    obtain ⟨y, hy, hkey⟩ := List.mem_map.1 hm
    obtain ⟨hy, hqy⟩ := List.mem_filter.1 hy
    exact hq (eq_of_key_eq hn hy hx hkey ▸ of_decide_eq_true hqy)

variable [DecidableEq κ]

theorem find?_key_eq_some_iff (hn : (xs.map key).Nodup) {k : κ} {x : α} :
    xs.find? (key · = k) = some x ↔ x ∈ xs ∧ key x = k := by
  constructor
  · intro h
    exact ⟨List.mem_of_find?_eq_some h, by simpa using List.find?_some h⟩
  · rintro ⟨hx, rfl⟩
    cases h : xs.find? (key · = key x) with
    | none => exact absurd (decide_eq_true rfl) (List.find?_eq_none.1 h x hx)
    | some y =>
      have hy : key y = key x := by simpa using List.find?_some h
      rw [eq_of_key_eq hn (List.mem_of_find?_eq_some h) hx hy]

theorem find?_key_eq_none_iff {k : κ} : xs.find? (key · = k) = none ↔ k ∉ xs.map key := by
  rw [List.find?_eq_none]
  constructor
  · intro h hk
    obtain ⟨x, hx, rfl⟩ := List.mem_map.1 hk
    exact h x hx (decide_eq_true rfl)
  · intro h x hx hk
    exact h (List.mem_map.2 ⟨x, hx, of_decide_eq_true hk⟩)

theorem find?_concat {k : κ} {x : α} (hn : xs.find? (key · = k) = none) (hx : key x = k) :
    (xs ++ [x]).find? (key · = k) = some x := by
  rw [List.find?_append, hn, List.find?_cons, decide_eq_true hx]
  rfl

theorem find?_concat_of_ne {k : κ} {x : α} (hx : key x ≠ k) :
    (xs ++ [x]).find? (key · = k) = xs.find? (key · = k) := by
  rw [List.find?_append, List.find?_cons, decide_eq_false hx]
  exact Option.or_none

/-- What is seen under a key after a change at one. -/
theorem lookup_change {v : α → β} {k : κ} {w : β → β} (hf : ∀ x, key (f x) = key x)
    (hp : ∀ x, p x → key x = k) (hw : ∀ x, key x = k → v (if p x then f x else x) = w (v x)) (k' : κ) :
    ((change p f xs).find? (key · = k')).map v =
      if k' = k then ((xs.find? (key · = k')).map v).map w else (xs.find? (key · = k')).map v := by
  have hkey : ∀ x, decide (key (f x) = k') = decide (key x = k') := fun x => by rw [hf]
  rw [find?_change hkey, Option.map_map, Option.map_map]
  by_cases hk : k' = k
  · rw [if_pos hk]
    refine Option.map_congr fun x hx => hw x ?_
    have hxk : key x = k' := by simpa using List.find?_some hx
    exact hxk.trans hk
  · rw [if_neg hk]
    refine Option.map_congr fun x hx => congrArg v (if_neg fun hpx => hk ?_)
    have hxk : key x = k' := by simpa using List.find?_some hx
    exact hxk.symm.trans (hp x hpx)

theorem lookup_concat (v : α → β) {k : κ} {x : α} (hn : xs.find? (key · = k) = none) (hx : key x = k)
    (k' : κ) :
    ((xs ++ [x]).find? (key · = k')).map v =
      if k' = k then some (v x) else (xs.find? (key · = k')).map v := by
  by_cases hk : k' = k
  · rw [if_pos hk, hk, find?_concat hn hx]
    rfl
  · rw [if_neg hk, find?_concat_of_ne fun he => hk (he.symm.trans hx)]

/-- Where there is an entry, it is changed; where there is none, `lookup_concat_getD` says the same of a new
one that is what a default would be changed to. -/
theorem lookup_change_getD (v : α → β) (w : β → β) (b : β) {k : κ} {x : α} (hf : ∀ x, key (f x) = key x)
    (hw : ∀ x, v (f x) = w (v x)) (hx : xs.find? (key · = k) = some x) (k' : κ) :
    ((change (key · = k) f xs).find? (key · = k')).map v =
      if k' = k then some (w (((xs.find? (key · = k')).map v).getD b))
      else (xs.find? (key · = k')).map v := by
  have hw' : ∀ x, key x = k → v (if key x = k then f x else x) = w (v x) := fun x hk => by
    rw [if_pos hk, hw]
  rw [lookup_change hf (fun _ h => h) hw']
  by_cases hk : k' = k
  · rw [if_pos hk, if_pos hk, hk, hx]
    rfl
  · rw [if_neg hk, if_neg hk]

theorem lookup_concat_getD (v : α → β) (w : β → β) (b : β) {k : κ} {x : α}
    (hn : xs.find? (key · = k) = none) (hx : key x = k) (hb : v x = w b) (k' : κ) :
    ((xs ++ [x]).find? (key · = k')).map v =
      if k' = k then some (w (((xs.find? (key · = k')).map v).getD b))
      else (xs.find? (key · = k')).map v := by
  rw [lookup_concat v hn hx]
  by_cases hk : k' = k
  · rw [if_pos hk, if_pos hk, hk, hn, hb]
    rfl
  · rw [if_neg hk, if_neg hk]

/-- **Filtering by a key is looking it up.** -/
theorem filter_key_eq (hn : (xs.map key).Nodup) (k : κ) :
    xs.filter (key · = k) = (xs.find? (key · = k)).toList := by
  induction xs with
  | nil => rfl
  | cons x xs ih =>
    rw [List.map_cons, List.nodup_cons] at hn
    rw [List.filter_cons, List.find?_cons, ih hn.2]
    by_cases hx : key x = k
    · rw [decide_eq_true hx, find?_key_eq_none_iff.2 (hx ▸ hn.1)]
      rfl
    · rw [decide_eq_false hx]
      rfl

/-- **Changing the first entry that fits is changing the one with its key.** -/
theorem updateFirst_eq_change (hn : (xs.map key).Nodup) {fits : α → Bool} {k : κ}
    (hf : ∀ x ∈ xs, fits x = true ↔ key x = k) (f : α → α) :
    updateFirst fits f xs = change (key · = k) f xs := by
  induction xs with
  | nil => rfl
  | cons x xs ih =>
    rw [List.map_cons, List.nodup_cons] at hn
    have hrest : ∀ y ∈ xs, fits y = true ↔ key y = k := fun y hy => hf y (List.mem_cons_of_mem x hy)
    rw [updateFirst_cons, change_cons]
    by_cases hx : key x = k
    · have hne : ∀ y ∈ xs, key y = k → f y = y := fun y hy hk =>
        absurd (List.mem_map.2 ⟨y, hy, hk.trans hx.symm⟩) hn.1
      rw [if_pos ((hf x List.mem_cons_self).2 hx), if_pos hx, change_eq_self hne]
    · rw [if_neg fun h => hx ((hf x List.mem_cons_self).1 h), if_neg hx, ih hn.2 hrest]

end Keyed

end Graph

end AssetGraph
