import AssetGraph.Proofs.Graph.Keyed
/-!
# Sound graphs

A graph is well formed if ids and keys are unique and no edge dangles, and numbered if, besides, no id
that is yet to be handed out is taken.  It is sound if no two teams have the same identifier either.  All
of that is read off the graph's shape, the ids and keys that entities are created with: what leaves the
shape as it is leaves the graph sound (`Sound.of_sameShape`), and so does creating what is not there yet.
A weaker notion that does not take kinds together, `Growable`, is as stable as that (`IsStable`).
-/
namespace AssetGraph

/-- What names an ownership: the asset and the team. -/
def Owns.pair (o : Owns) : String × String := (o.assetId, o.teamId)

/-- What names a containment: the child and the parent. -/
def ParentOf.pair (e : ParentOf) : String × String := (e.childId, e.parentId)

namespace Graph

/-! ## Ids -/

/-- **No id is handed out twice**, whatever it is the id of. -/
theorem idOf_inj {family family' : String} {n n' : Nat} (h : idOf family n = idOf family' n') :
    family = family' ∧ n = n' := by
  have hyphen : ∀ n : Nat, '-' ∉ (Decimal.digits n).reverse := by
    intro n hm
    have := Nat.isDigit_of_mem_toDigits (by decide) (by decide) (List.mem_reverse.1 hm)
    exact absurd this (by decide)
  have htext : ∀ (family : String) (n : Nat), (idOf family n).toList.reverse =
      (Decimal.digits (n + 1)).reverse ++ '-' :: family.toList.reverse := by
    intro family n
    simp [idOf, Decimal.text, toString]
  have hl := congrArg (fun s => s.toList.reverse) h
  simp only [htext] at hl
  obtain ⟨hd, hf⟩ : (Decimal.digits (n + 1)).reverse = (Decimal.digits (n' + 1)).reverse ∧
      '-' :: family.toList.reverse = '-' :: family'.toList.reverse := by
    rcases List.append_eq_append_iff.1 hl with ⟨as, h₁, h₂⟩ | ⟨as, h₁, h₂⟩
    · cases as with
      | nil => exact ⟨by rw [h₁, List.append_nil], h₂⟩
      | cons a as =>
        injection h₂ with ha
        exact absurd (h₁ ▸ List.mem_append_right _ (ha ▸ List.mem_cons_self)) (hyphen (n' + 1))
    · cases as with
      | nil => exact ⟨by rw [h₁, List.append_nil], h₂.symm⟩
      | cons a as =>
        injection h₂ with ha
        exact absurd (h₁ ▸ List.mem_append_right _ (ha ▸ List.mem_cons_self)) (hyphen (n + 1))
  have hn := congrArg (fun l => Nat.ofDigitChars 10 l 0) (List.reverse_injective hd)
  simp only [Decimal.digits, Nat.ofDigitChars_ten_toDigits] at hn
  have hs := List.reverse_injective (List.cons.inj hf).2
  exact ⟨String.toList_inj.1 hs, Nat.succ.inj hn⟩

def ids (g : Graph) : List String :=
  g.assets.map (·.id) ++ g.teams.map (·.id) ++ g.owns.map (·.id) ++ g.parents.map (·.id)

/-! ## Looking up -/

def asset? (g : Graph) (k : AssetKey) : Option Asset := g.assets.find? (·.key = k)

def team? (g : Graph) (identifier : String) : Option Team := g.teams.find? (·.identifier = identifier)

def owns? (g : Graph) (assetId teamId : String) : Option Owns :=
  g.owns.find? (·.pair = (assetId, teamId))

def parentOf? (g : Graph) (childId parentId : String) : Option ParentOf :=
  g.parents.find? (·.pair = (childId, parentId))

theorem joins_eq (assetId teamId : String) :
    joins assetId teamId = fun o => decide (o.pair = (assetId, teamId)) := by
  funext o
  rw [Bool.eq_iff_iff]
  simp [joins, Owns.pair]

theorem contains_eq (childId parentId : String) :
    contains childId parentId = fun e => decide (e.pair = (childId, parentId)) := by
  funext e
  rw [Bool.eq_iff_iff]
  simp [contains, ParentOf.pair]

theorem hasAsset_iff {g : Graph} {id : String} : g.hasAsset id = true ↔ id ∈ g.assets.map (·.id) := by
  simp [hasAsset]

theorem hasTeam_iff {g : Graph} {id : String} : g.hasTeam id = true ↔ id ∈ g.teams.map (·.id) := by
  simp [hasTeam]

/-! ## Sound graphs -/

/-- **Ids and keys are unique, and no edge dangles.** -/
structure WellFormed (g : Graph) : Prop where
  ids : g.ids.Nodup
  keys : (g.assets.map (·.key)).Nodup
  pairs : (g.owns.map (·.pair)).Nodup
  edges : (g.parents.map (·.pair)).Nodup
  owned : ∀ o ∈ g.owns, o.assetId ∈ g.assets.map (·.id) ∧ o.teamId ∈ g.teams.map (·.id)
  contained : ∀ e ∈ g.parents, e.childId ∈ g.assets.map (·.id) ∧ e.parentId ∈ g.assets.map (·.id)

/-- Teams have identifiers of their own, too. -/
structure IsKeyed (g : Graph) : Prop extends WellFormed g where
  identifiers : (g.teams.map (·.identifier)).Nodup

/-- **Whatever names an entity names no other of its kind, and no edge dangles.**  Entities of two kinds may
have one id, and edges any. -/
structure Unambiguous (g : Graph) : Prop where
  assetIds : (g.assets.map (·.id)).Nodup
  teamIds : (g.teams.map (·.id)).Nodup
  keys : (g.assets.map (·.key)).Nodup
  identifiers : (g.teams.map (·.identifier)).Nodup
  pairs : (g.owns.map (·.pair)).Nodup
  edges : (g.parents.map (·.pair)).Nodup
  owned : ∀ o ∈ g.owns, o.assetId ∈ g.assets.map (·.id) ∧ o.teamId ∈ g.teams.map (·.id)
  contained : ∀ e ∈ g.parents, e.childId ∈ g.assets.map (·.id) ∧ e.parentId ∈ g.assets.map (·.id)

/-- **A graph that the next entity can be created in**: the ids to come are free. -/
structure Sound (g : Graph) : Prop extends IsKeyed g where
  fresh : ∀ family n, g.issued ≤ n → idOf family n ∉ g.ids

/-- So are they in a graph two teams of which may have the same identifier. -/
structure Numbered (g : Graph) : Prop extends WellFormed g where
  fresh : ∀ family n, g.issued ≤ n → idOf family n ∉ g.ids

theorem Sound.numbered {g : Graph} (h : g.Sound) : g.Numbered := ⟨h.toWellFormed, h.fresh⟩

/-- **An unambiguous graph that the next asset and the next team can be created in**: the ids to come are
free among those of their kind. -/
structure Growable (g : Graph) : Prop extends Unambiguous g where
  freshAsset : ∀ n, g.issued ≤ n → idOf "asset" n ∉ g.assets.map (·.id)
  freshTeam : ∀ n, g.issued ≤ n → idOf "team" n ∉ g.teams.map (·.id)

theorem sound_empty : Sound empty where
  ids := List.nodup_nil
  keys := List.nodup_nil
  pairs := List.nodup_nil
  edges := List.nodup_nil
  owned := fun _ h => absurd h List.not_mem_nil
  contained := fun _ h => absurd h List.not_mem_nil
  identifiers := List.nodup_nil
  fresh := fun _ _ _ => List.not_mem_nil

section WellFormed

variable {g : Graph}

theorem WellFormed.assetIds (h : g.WellFormed) : (g.assets.map (·.id)).Nodup :=
  (h.ids.of_append_left.of_append_left).of_append_left

theorem WellFormed.teamIds (h : g.WellFormed) : (g.teams.map (·.id)).Nodup :=
  (h.ids.of_append_left.of_append_left).of_append_right

theorem WellFormed.asset?_eq_some_iff (h : g.WellFormed) {k : AssetKey} {a : Asset} :
    g.asset? k = some a ↔ a ∈ g.assets ∧ a.key = k :=
  find?_key_eq_some_iff h.keys

theorem WellFormed.owns?_eq_some_iff (h : g.WellFormed) {assetId teamId : String} {o : Owns} :
    g.owns? assetId teamId = some o ↔ o ∈ g.owns ∧ o.pair = (assetId, teamId) :=
  find?_key_eq_some_iff h.pairs

theorem WellFormed.parentOf?_eq_some_iff (h : g.WellFormed) {childId parentId : String} {e : ParentOf} :
    g.parentOf? childId parentId = some e ↔ e ∈ g.parents ∧ e.pair = (childId, parentId) :=
  find?_key_eq_some_iff h.edges

theorem IsKeyed.team?_eq_some_iff (h : g.IsKeyed) {identifier : String} {t : Team} :
    g.team? identifier = some t ↔ t ∈ g.teams ∧ t.identifier = identifier :=
  find?_key_eq_some_iff h.identifiers

theorem WellFormed.id_eq_iff (h : g.WellFormed) {a x : Asset} (ha : a ∈ g.assets) (hx : x ∈ g.assets) :
    x.id = a.id ↔ x.key = a.key :=
  key_eq_iff_key_eq h.assetIds h.keys hx ha

theorem IsKeyed.id_eq_iff_identifier (h : g.IsKeyed) {t x : Team} (ht : t ∈ g.teams) (hx : x ∈ g.teams) :
    x.id = t.id ↔ x.identifier = t.identifier :=
  key_eq_iff_key_eq h.teamIds h.identifiers hx ht

theorem IsKeyed.unambiguous (h : g.IsKeyed) : g.Unambiguous :=
  ⟨h.assetIds, h.teamIds, h.keys, h.identifiers, h.pairs, h.edges, h.owned, h.contained⟩

theorem Unambiguous.asset?_eq_some_iff (h : g.Unambiguous) {k : AssetKey} {a : Asset} :
    g.asset? k = some a ↔ a ∈ g.assets ∧ a.key = k :=
  find?_key_eq_some_iff h.keys

theorem Unambiguous.team?_eq_some_iff (h : g.Unambiguous) {identifier : String} {t : Team} :
    g.team? identifier = some t ↔ t ∈ g.teams ∧ t.identifier = identifier :=
  find?_key_eq_some_iff h.identifiers

theorem Sound.growable (h : g.Sound) : g.Growable where
  toUnambiguous := h.toIsKeyed.unambiguous
  freshAsset := fun n hn hm => h.fresh "asset" n hn (by simp [Graph.ids, hm])
  freshTeam := fun n hn hm => h.fresh "team" n hn (by simp [Graph.ids, hm])

end WellFormed

/-! ## Shapes -/

/-- **Two graphs have the same entities**, under the same ids and keys. -/
structure SameShape (g g' : Graph) : Prop where
  assets : g'.assets.map (fun a => (a.id, a.key)) = g.assets.map fun a => (a.id, a.key)
  teams : g'.teams.map (fun t => (t.id, t.identifier)) = g.teams.map fun t => (t.id, t.identifier)
  owns : g'.owns.map (fun o => (o.id, o.pair)) = g.owns.map fun o => (o.id, o.pair)
  parents : g'.parents.map (fun e => (e.id, e.pair)) = g.parents.map fun e => (e.id, e.pair)
  issued : g'.issued = g.issued

theorem map_comp_eq {α β γ : Type} {v : α → β} (w : β → γ) {xs ys : List α} (h : xs.map v = ys.map v) :
    xs.map (fun x => w (v x)) = ys.map fun x => w (v x) := by
  have := congrArg (List.map w) h
  rwa [List.map_map, List.map_map] at this

section SameShape

variable {g g' : Graph}

theorem SameShape.assetIds (hs : SameShape g g') : g'.assets.map (·.id) = g.assets.map (·.id) :=
  map_comp_eq Prod.fst hs.assets

theorem SameShape.teamIds (hs : SameShape g g') : g'.teams.map (·.id) = g.teams.map (·.id) :=
  map_comp_eq Prod.fst hs.teams

theorem SameShape.ids (hs : SameShape g g') : g'.ids = g.ids := by
  unfold Graph.ids
  rw [hs.assetIds, hs.teamIds, map_comp_eq Prod.fst hs.owns, map_comp_eq Prod.fst hs.parents]

theorem SameShape.owned (hs : SameShape g g')
    (h : ∀ o ∈ g.owns, o.assetId ∈ g.assets.map (·.id) ∧ o.teamId ∈ g.teams.map (·.id)) :
    ∀ o ∈ g'.owns, o.assetId ∈ g'.assets.map (·.id) ∧ o.teamId ∈ g'.teams.map (·.id) := by
  intro o ho
  have hpairs : g'.owns.map (·.pair) = g.owns.map (·.pair) := map_comp_eq Prod.snd hs.owns
  obtain ⟨o', ho', he⟩ := List.mem_map.1 (hpairs ▸ List.mem_map_of_mem (f := Owns.pair) ho)
  obtain ⟨ha, ht⟩ := Prod.mk.inj he
  rw [hs.assetIds, hs.teamIds, ← ha, ← ht]
  exact h o' ho'

theorem SameShape.contained (hs : SameShape g g')
    (h : ∀ e ∈ g.parents, e.childId ∈ g.assets.map (·.id) ∧ e.parentId ∈ g.assets.map (·.id)) :
    ∀ e ∈ g'.parents, e.childId ∈ g'.assets.map (·.id) ∧ e.parentId ∈ g'.assets.map (·.id) := by
  intro e he
  have hedges : g'.parents.map (·.pair) = g.parents.map (·.pair) := map_comp_eq Prod.snd hs.parents
  obtain ⟨e', he', hee⟩ := List.mem_map.1 (hedges ▸ List.mem_map_of_mem (f := ParentOf.pair) he)
  obtain ⟨hc, hp⟩ := Prod.mk.inj hee
  rw [hs.assetIds, ← hc, ← hp]
  exact h e' he'

theorem WellFormed.of_sameShape (h : g.WellFormed) (hs : SameShape g g') : g'.WellFormed where
  ids := hs.ids ▸ h.ids
  keys := (map_comp_eq Prod.snd hs.assets) ▸ h.keys
  pairs := (map_comp_eq Prod.snd hs.owns) ▸ h.pairs
  edges := (map_comp_eq Prod.snd hs.parents) ▸ h.edges
  owned := hs.owned h.owned
  contained := hs.contained h.contained

theorem Unambiguous.of_sameShape (h : g.Unambiguous) (hs : SameShape g g') : g'.Unambiguous where
  assetIds := hs.assetIds ▸ h.assetIds
  teamIds := hs.teamIds ▸ h.teamIds
  keys := (map_comp_eq Prod.snd hs.assets) ▸ h.keys
  identifiers := (map_comp_eq Prod.snd hs.teams) ▸ h.identifiers
  pairs := (map_comp_eq Prod.snd hs.owns) ▸ h.pairs
  edges := (map_comp_eq Prod.snd hs.parents) ▸ h.edges
  owned := hs.owned h.owned
  contained := hs.contained h.contained

theorem Numbered.of_sameShape (h : g.Numbered) (hs : SameShape g g') : g'.Numbered where
  toWellFormed := h.toWellFormed.of_sameShape hs
  fresh := by
    intro family n hn
    rw [hs.ids]
    exact h.fresh family n (hs.issued ▸ hn)

theorem Growable.of_sameShape (h : g.Growable) (hs : SameShape g g') : g'.Growable where
  toUnambiguous := h.toUnambiguous.of_sameShape hs
  freshAsset := fun n hn => hs.assetIds ▸ h.freshAsset n (hs.issued ▸ hn)
  freshTeam := fun n hn => hs.teamIds ▸ h.freshTeam n (hs.issued ▸ hn)

/-- **What leaves the shape as it is leaves the graph sound.** -/
theorem Sound.of_sameShape (h : g.Sound) (hs : SameShape g g') : g'.Sound where
  toWellFormed := h.toWellFormed.of_sameShape hs
  identifiers := (map_comp_eq Prod.snd hs.teams) ▸ h.identifiers
  fresh := (h.numbered.of_sameShape hs).fresh

end SameShape

/-! ## Growth -/

/-- **A graph has the entities of another**, in their order and under their ids and keys, and maybe
more behind them. -/
structure Extends (g g' : Graph) : Prop where
  assets : (g.assets.map fun a => (a.id, a.key)) <+: g'.assets.map fun a => (a.id, a.key)
  teams : (g.teams.map fun t => (t.id, t.identifier)) <+: g'.teams.map fun t => (t.id, t.identifier)
  owns : (g.owns.map fun o => (o.id, o.pair)) <+: g'.owns.map fun o => (o.id, o.pair)
  parents : (g.parents.map fun e => (e.id, e.pair)) <+: g'.parents.map fun e => (e.id, e.pair)

theorem prefix_map_concat {α β : Type} (f : α → β) (xs : List α) (y : α) :
    xs.map f <+: (xs ++ [y]).map f :=
  (List.prefix_append xs [y]).map f

theorem mem_of_prefix_map {α ι κ : Type} {f : α → ι × κ} {xs ys : List α}
    (h : xs.map f <+: ys.map f) {k : κ} (hk : k ∈ xs.map fun x => (f x).2) :
    k ∈ ys.map fun y => (f y).2 := by
  obtain ⟨x, hx, rfl⟩ := List.mem_map.1 hk
  obtain ⟨y, hy, he⟩ := List.mem_map.1 (h.subset (List.mem_map_of_mem hx))
  exact List.mem_map.2 ⟨y, hy, congrArg Prod.snd he⟩

theorem find?_of_prefix_map {α ι κ : Type} [DecidableEq κ] {f : α → ι × κ} {xs ys : List α}
    (h : xs.map f <+: ys.map f) {k : κ} {x : α} (hx : xs.find? (fun x => (f x).2 = k) = some x) :
    ∃ y, ys.find? (fun y => (f y).2 = k) = some y ∧ f y = f x := by
  obtain ⟨rest, hr⟩ := h
  have hf : (ys.map f).find? (fun p => p.2 = k) = some (f x) := by
    have hold : (xs.map f).find? (fun p => p.2 = k) = some (f x) := by
      rw [List.find?_map]
      exact congrArg (Option.map f) hx
    rw [← hr, List.find?_append, hold]
    rfl
  rw [List.find?_map] at hf
  exact Option.map_eq_some_iff.1 hf

section Extends

variable {g g' g'' : Graph}

theorem Extends.refl (g : Graph) : g.Extends g :=
  ⟨List.prefix_rfl, List.prefix_rfl, List.prefix_rfl, List.prefix_rfl⟩

theorem Extends.trans (h : g.Extends g') (h' : g'.Extends g'') : g.Extends g'' :=
  ⟨h.assets.trans h'.assets, h.teams.trans h'.teams, h.owns.trans h'.owns,
    h.parents.trans h'.parents⟩

theorem SameShape.extends (hs : SameShape g g') : g.Extends g' :=
  ⟨hs.assets ▸ List.prefix_rfl, hs.teams ▸ List.prefix_rfl, hs.owns ▸ List.prefix_rfl,
    hs.parents ▸ List.prefix_rfl⟩

theorem Extends.asset? (h : g.Extends g') {k : AssetKey} {a : Asset} (ha : g.asset? k = some a) :
    ∃ a', g'.asset? k = some a' ∧ a'.id = a.id := by
  obtain ⟨a', ha', he⟩ := find?_of_prefix_map h.assets ha
  exact ⟨a', ha', congrArg Prod.fst he⟩

theorem Extends.team? (h : g.Extends g') {identifier : String} {t : Team}
    (ht : g.team? identifier = some t) : ∃ t', g'.team? identifier = some t' ∧ t'.id = t.id := by
  obtain ⟨t', ht', he⟩ := find?_of_prefix_map h.teams ht
  exact ⟨t', ht', congrArg Prod.fst he⟩

end Extends

/-! ## Changes that keep the shape -/

section Changes

variable (g : Graph)

theorem sameShape_assets (p : Asset → Prop) [DecidablePred p] {f : Asset → Asset}
    (h : ∀ a, ((f a).id, (f a).key) = (a.id, a.key)) :
    SameShape g { g with assets := change p f g.assets } :=
  ⟨map_change h g.assets, rfl, rfl, rfl, rfl⟩

theorem sameShape_teams (p : Team → Prop) [DecidablePred p] {f : Team → Team}
    (h : ∀ t, ((f t).id, (f t).identifier) = (t.id, t.identifier)) :
    SameShape g { g with teams := change p f g.teams } :=
  ⟨rfl, map_change h g.teams, rfl, rfl, rfl⟩

theorem sameShape_owns (p : Owns → Prop) [DecidablePred p] {f : Owns → Owns}
    (h : ∀ o, ((f o).id, (f o).pair) = (o.id, o.pair)) :
    SameShape g { g with owns := change p f g.owns } :=
  ⟨rfl, rfl, map_change h g.owns, rfl, rfl⟩

theorem sameShape_parents (p : ParentOf → Prop) [DecidablePred p] {f : ParentOf → ParentOf}
    (h : ∀ e, ((f e).id, (f e).pair) = (e.id, e.pair)) :
    SameShape g { g with parents := change p f g.parents } :=
  ⟨rfl, rfl, rfl, map_change h g.parents, rfl⟩

end Changes

/-! ## Creation -/

section Creation

variable {g : Graph}

theorem Numbered.ids_of_count (h : g.Numbered) (family : String) {ids : List String}
    (hc : ∀ id, ids.count id = g.ids.count id + [idOf family g.issued].count id) :
    ids.Nodup ∧ ∀ family' n, g.issued + 1 ≤ n → idOf family' n ∉ ids := by
  have hl : ids.Perm (idOf family g.issued :: g.ids) := by
    refine List.perm_iff_count.2 fun id => ?_
    rw [hc, ← List.count_append]
    exact (List.perm_append_singleton _ _).count_eq id
  refine ⟨hl.nodup_iff.2 (List.nodup_cons.2 ⟨h.fresh family _ (Nat.le_refl _), h.ids⟩), ?_⟩
  intro family' n hn hm
  rcases List.mem_cons.1 (hl.mem_iff.1 hm) with he | hm
  · have := (idOf_inj he).2
    omega
  · exact h.fresh family' n (by omega) hm

theorem mem_map_concat {α β : Type} {f : α → β} {xs : List α} {b : β} (y : α) (h : b ∈ xs.map f) :
    b ∈ (xs ++ [y]).map f := by
  rw [List.map_append]
  exact List.mem_append_left _ h

theorem nodup_map_concat {α β : Type} {f : α → β} {xs : List α} {y : α} (h : (xs.map f).Nodup)
    (hy : f y ∉ xs.map f) : ((xs ++ [y]).map f).Nodup := by
  rw [List.map_append]
  refine List.nodup_append.2 ⟨h, List.nodup_singleton _, ?_⟩
  rintro b hb c hc rfl
  rw [List.map_singleton, List.mem_singleton] at hc
  exact hy (hc ▸ hb)

theorem Numbered.addAsset (h : g.Numbered) {a : Asset} (hid : a.id = idOf "asset" g.issued)
    (hk : g.asset? a.key = none) :
    Numbered { g with assets := g.assets ++ [a], issued := g.issued + 1 } := by
  have hc : ∀ id, { g with assets := g.assets ++ [a], issued := g.issued + 1 }.ids.count id =
      g.ids.count id + [idOf "asset" g.issued].count id := by
    intro id
    simp only [ids, List.map_append, List.map_cons, List.map_nil, List.count_append, hid]
    omega
  obtain ⟨hids, hfresh⟩ := h.ids_of_count "asset" hc
  exact {
    ids := hids
    keys := nodup_map_concat h.keys (find?_key_eq_none_iff.1 hk)
    pairs := h.pairs
    edges := h.edges
    owned := fun o ho => (h.owned o ho).imp_left (mem_map_concat a)
    contained := fun e he => (h.contained e he).imp (mem_map_concat a) (mem_map_concat a)
    fresh := hfresh }

theorem Numbered.addTeam (h : g.Numbered) {t : Team} (hid : t.id = idOf "team" g.issued) :
    Numbered { g with teams := g.teams ++ [t], issued := g.issued + 1 } := by
  have hc : ∀ id, { g with teams := g.teams ++ [t], issued := g.issued + 1 }.ids.count id =
      g.ids.count id + [idOf "team" g.issued].count id := by
    intro id
    simp only [ids, List.map_append, List.map_cons, List.map_nil, List.count_append, hid]
    omega
  obtain ⟨hids, hfresh⟩ := h.ids_of_count "team" hc
  exact {
    ids := hids
    keys := h.keys
    pairs := h.pairs
    edges := h.edges
    owned := fun o ho => (h.owned o ho).imp_right (mem_map_concat t)
    contained := h.contained
    fresh := hfresh }

theorem Numbered.addOwns (h : g.Numbered) {o : Owns} (hid : o.id = idOf "owns" g.issued)
    (hk : g.owns? o.assetId o.teamId = none) (ha : o.assetId ∈ g.assets.map (·.id))
    (ht : o.teamId ∈ g.teams.map (·.id)) :
    Numbered { g with owns := g.owns ++ [o], issued := g.issued + 1 } := by
  have hc : ∀ id, { g with owns := g.owns ++ [o], issued := g.issued + 1 }.ids.count id =
      g.ids.count id + [idOf "owns" g.issued].count id := by
    intro id
    simp only [ids, List.map_append, List.map_cons, List.map_nil, List.count_append, hid]
    omega
  obtain ⟨hids, hfresh⟩ := h.ids_of_count "owns" hc
  exact {
    ids := hids
    keys := h.keys
    pairs := nodup_map_concat h.pairs (find?_key_eq_none_iff.1 hk)
    edges := h.edges
    owned := forall_mem_concat h.owned ⟨ha, ht⟩
    contained := h.contained
    fresh := hfresh }

theorem Numbered.addParentOf (h : g.Numbered) {e : ParentOf} (hid : e.id = idOf "parent-of" g.issued)
    (hk : g.parentOf? e.childId e.parentId = none) (hchild : e.childId ∈ g.assets.map (·.id))
    (hparent : e.parentId ∈ g.assets.map (·.id)) :
    Numbered { g with parents := g.parents ++ [e], issued := g.issued + 1 } := by
  have hc : ∀ id, { g with parents := g.parents ++ [e], issued := g.issued + 1 }.ids.count id =
      g.ids.count id + [idOf "parent-of" g.issued].count id := by
    intro id
    simp only [ids, List.map_append, List.map_cons, List.map_nil, List.count_append, hid]
    omega
  obtain ⟨hids, hfresh⟩ := h.ids_of_count "parent-of" hc
  exact {
    ids := hids
    keys := h.keys
    pairs := h.pairs
    edges := nodup_map_concat h.edges (find?_key_eq_none_iff.1 hk)
    owned := h.owned
    contained := forall_mem_concat h.contained ⟨hchild, hparent⟩
    fresh := hfresh }

theorem Sound.addAsset (h : g.Sound) {a : Asset} (hid : a.id = idOf "asset" g.issued)
    (hk : g.asset? a.key = none) :
    Sound { g with assets := g.assets ++ [a], issued := g.issued + 1 } :=
  { h.numbered.addAsset hid hk with identifiers := h.identifiers }

theorem Sound.addTeam (h : g.Sound) {t : Team} (hid : t.id = idOf "team" g.issued)
    (hk : g.team? t.identifier = none) :
    Sound { g with teams := g.teams ++ [t], issued := g.issued + 1 } :=
  { h.numbered.addTeam hid with
    identifiers := nodup_map_concat h.identifiers (find?_key_eq_none_iff.1 hk) }

theorem Sound.addOwns (h : g.Sound) {o : Owns} (hid : o.id = idOf "owns" g.issued)
    (hk : g.owns? o.assetId o.teamId = none) (ha : o.assetId ∈ g.assets.map (·.id))
    (ht : o.teamId ∈ g.teams.map (·.id)) :
    Sound { g with owns := g.owns ++ [o], issued := g.issued + 1 } :=
  { h.numbered.addOwns hid hk ha ht with identifiers := h.identifiers }

theorem Sound.addParentOf (h : g.Sound) {e : ParentOf} (hid : e.id = idOf "parent-of" g.issued)
    (hk : g.parentOf? e.childId e.parentId = none) (hchild : e.childId ∈ g.assets.map (·.id))
    (hparent : e.parentId ∈ g.assets.map (·.id)) :
    Sound { g with parents := g.parents ++ [e], issued := g.issued + 1 } :=
  { h.numbered.addParentOf hid hk hchild hparent with identifiers := h.identifiers }

theorem not_mem_map_concat {α β : Type} {f : α → β} {xs : List α} {y : α} {b : β} (h : b ∉ xs.map f)
    (hy : b ≠ f y) : b ∉ (xs ++ [y]).map f := by
  rw [List.map_append, List.mem_append, List.map_singleton, List.mem_singleton]
  exact not_or.2 ⟨h, hy⟩

theorem idOf_ne_of_lt {family family' : String} {n n' : Nat} (h : n' < n) : idOf family n ≠ idOf family' n' :=
  fun he => Nat.ne_of_gt h (idOf_inj he).2

theorem Growable.addAsset (h : g.Growable) {a : Asset} (hid : a.id = idOf "asset" g.issued)
    (hk : g.asset? a.key = none) :
    Growable { g with assets := g.assets ++ [a], issued := g.issued + 1 } where
  assetIds := nodup_map_concat h.assetIds (hid ▸ h.freshAsset _ (Nat.le_refl _))
  teamIds := h.teamIds
  keys := nodup_map_concat h.keys (find?_key_eq_none_iff.1 hk)
  identifiers := h.identifiers
  pairs := h.pairs
  edges := h.edges
  owned := fun o ho => (h.owned o ho).imp_left (mem_map_concat a)
  contained := fun e he => (h.contained e he).imp (mem_map_concat a) (mem_map_concat a)
  freshAsset := fun n hn =>
    not_mem_map_concat (h.freshAsset n (Nat.le_of_lt hn)) (hid ▸ idOf_ne_of_lt hn)
  freshTeam := fun n hn => h.freshTeam n (Nat.le_of_lt hn)

theorem Growable.addTeam (h : g.Growable) {t : Team} (hid : t.id = idOf "team" g.issued)
    (hk : g.team? t.identifier = none) :
    Growable { g with teams := g.teams ++ [t], issued := g.issued + 1 } where
  assetIds := h.assetIds
  teamIds := nodup_map_concat h.teamIds (hid ▸ h.freshTeam _ (Nat.le_refl _))
  keys := h.keys
  identifiers := nodup_map_concat h.identifiers (find?_key_eq_none_iff.1 hk)
  pairs := h.pairs
  edges := h.edges
  owned := fun o ho => (h.owned o ho).imp_right (mem_map_concat t)
  contained := h.contained
  freshAsset := fun n hn => h.freshAsset n (Nat.le_of_lt hn)
  freshTeam := fun n hn => not_mem_map_concat (h.freshTeam n (Nat.le_of_lt hn)) (hid ▸ idOf_ne_of_lt hn)

theorem Growable.addOwns (h : g.Growable) {o : Owns} (hk : g.owns? o.assetId o.teamId = none)
    (ha : o.assetId ∈ g.assets.map (·.id)) (ht : o.teamId ∈ g.teams.map (·.id)) :
    Growable { g with owns := g.owns ++ [o], issued := g.issued + 1 } :=
  { h with
    pairs := nodup_map_concat h.pairs (find?_key_eq_none_iff.1 hk)
    owned := forall_mem_concat h.owned ⟨ha, ht⟩
    freshAsset := fun n hn => h.freshAsset n (Nat.le_of_lt hn)
    freshTeam := fun n hn => h.freshTeam n (Nat.le_of_lt hn) }

theorem Growable.addParentOf (h : g.Growable) {e : ParentOf} (hk : g.parentOf? e.childId e.parentId = none)
    (hchild : e.childId ∈ g.assets.map (·.id)) (hparent : e.parentId ∈ g.assets.map (·.id)) :
    Growable { g with parents := g.parents ++ [e], issued := g.issued + 1 } :=
  { h with
    edges := nodup_map_concat h.edges (find?_key_eq_none_iff.1 hk)
    contained := forall_mem_concat h.contained ⟨hchild, hparent⟩
    freshAsset := fun n hn => h.freshAsset n (Nat.le_of_lt hn)
    freshTeam := fun n hn => h.freshTeam n (Nat.le_of_lt hn) }

/-! ## What may be grown -/

/-- **What survives any change that keeps the shape, and any creation** of what is not there yet. -/
structure IsStable (P : Graph → Prop) : Prop where
  sameShape : ∀ {g g' : Graph}, P g → SameShape g g' → P g'
  addAsset : ∀ {g : Graph} {a : Asset}, P g → a.id = idOf "asset" g.issued → g.asset? a.key = none →
    P { g with assets := g.assets ++ [a], issued := g.issued + 1 }
  addTeam : ∀ {g : Graph} {t : Team}, P g → t.id = idOf "team" g.issued → g.team? t.identifier = none →
    P { g with teams := g.teams ++ [t], issued := g.issued + 1 }
  addOwns : ∀ {g : Graph} {o : Owns}, P g → o.id = idOf "owns" g.issued →
    g.owns? o.assetId o.teamId = none → o.assetId ∈ g.assets.map (·.id) → o.teamId ∈ g.teams.map (·.id) →
    P { g with owns := g.owns ++ [o], issued := g.issued + 1 }
  addParentOf : ∀ {g : Graph} {e : ParentOf}, P g → e.id = idOf "parent-of" g.issued →
    g.parentOf? e.childId e.parentId = none → e.childId ∈ g.assets.map (·.id) →
    e.parentId ∈ g.assets.map (·.id) → P { g with parents := g.parents ++ [e], issued := g.issued + 1 }

theorem isStable_sound : IsStable Sound where
  sameShape h := h.of_sameShape
  addAsset h := h.addAsset
  addTeam h := h.addTeam
  addOwns h := h.addOwns
  addParentOf h := h.addParentOf

theorem isStable_growable : IsStable Growable where
  sameShape h := h.of_sameShape
  addAsset h := h.addAsset
  addTeam h := h.addTeam
  addOwns h _ := h.addOwns
  addParentOf h _ := h.addParentOf

end Creation

end Graph

end AssetGraph
