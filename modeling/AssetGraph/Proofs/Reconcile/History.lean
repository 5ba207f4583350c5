import AssetGraph.Proofs.Reconcile.Word
/-!
# Histories

What a graph tells after events have been loaded into an empty one is what the events said last
(`Graph.loadAll_is_last_word`).  Ownerships and the names of teams are folds over the events alone; an
asset that is no account carries the sentinel as long as somebody owns it, which every event keeps
(`Graph.IsKept`).
-/
namespace AssetGraph

namespace Graph

open Statement (amend)

/-- **Loads events one after the other**, each at its time; nothing where one fails. -/
def loadAll (accountKey : String) : List (Instant × Event) → Graph → Option Graph
  | [], g => some g
  | (now, e) :: xs, g =>
    match (e.plan accountKey now).run (Graph.server now) g with
    | (.ok (), g') => loadAll accountKey xs g'
    | (.error _, _) => none

/-- The ownerships of the asset with a key by the team with an identifier. -/
def ownershipsOf (g : Graph) (k : AssetKey) (i : String) : List Owns :=
  g.owns.filter fun o =>
    g.assets.any (fun a => a.id = o.assetId ∧ a.key = k) &&
      g.teams.any fun t => t.id = o.teamId ∧ t.identifier = i

variable {accountKey : String} {xs : List (Instant × Event)} {g g' : Graph}

/-! ## Entities by their keys -/

theorem map_isUnexpired_filter (h : g.WellFormed) (k : AssetKey) :
    (g.assets.filter (·.key = k)).map (·.isUnexpired) = (g.holds? (.asset k)).toList := by
  rw [filter_key_eq h.keys k, holds?, asset?]
  cases g.assets.find? (·.key = k) <;> rfl

theorem map_name_filter (h : g.IsKeyed) (i : String) :
    (g.teams.filter (·.identifier = i)).map (·.name) = (g.teamName? i).toList := by
  rw [filter_key_eq h.identifiers i, teamName?, team?]
  cases g.teams.find? (·.identifier = i) <;> rfl

theorem map_isActive_ownershipsOf (h : g.IsKeyed) (k : AssetKey) (i : String) :
    (g.ownershipsOf k i).map (·.isActive) = (g.holds? (.owner k i)).toList := by
  have hasset : ∀ id, g.assets.any (fun a => a.id = id ∧ a.key = k) = true ↔ g.assetId? k = some id := by
    intro id
    simp only [List.any_eq_true, decide_eq_true_eq, assetId?, Option.map_eq_some_iff,
      h.asset?_eq_some_iff]
    tauto
  have hteam : ∀ id, g.teams.any (fun t => t.id = id ∧ t.identifier = i) = true ↔ g.teamId? i = some id := by
    intro id
    simp only [List.any_eq_true, decide_eq_true_eq, teamId?, Option.map_eq_some_iff,
      h.team?_eq_some_iff]
    tauto
  have hfilter : g.ownershipsOf k i =
      g.owns.filter fun o => g.assetId? k = some o.assetId ∧ g.teamId? i = some o.teamId := by
    refine List.filter_congr fun o _ => ?_
    rw [Bool.eq_iff_iff, Bool.and_eq_true, hasset, hteam, decide_eq_true_eq]
  rw [hfilter, holds?]
  cases g.assetId? k with
  | none => simp [between]
  | some a =>
    cases g.teamId? i with
    | none => simp [between]
    | some t =>
      have hpair : g.owns.filter (fun o => some a = some o.assetId ∧ some t = some o.teamId) =
          g.owns.filter (·.pair = (a, t)) := by
        refine List.filter_congr fun o _ => ?_
        simp [Owns.pair, eq_comm]
      rw [hpair, filter_key_eq h.pairs]
      show _ = ((g.owns? a t).map (·.isActive)).toList
      rw [owns?]
      cases g.owns.find? (·.pair = (a, t)) <;> rfl

theorem length_le_of_map_eq {α β : Type} {f : α → β} {ys : List α} {o : Option β}
    (h : ys.map f = o.toList) : ys.length ≤ 1 := by
  rw [← List.length_map f, h]
  cases o <;> simp

theorem ne_nil_iff_of_map_eq {α β : Type} {f : α → β} {ys : List α} {o : Option β}
    (h : ys.map f = o.toList) : ys ≠ [] ↔ o.isSome = true := by
  cases o with
  | none => simp [List.map_eq_nil_iff.1 h]
  | some b =>
    obtain ⟨y, rfl, -⟩ := List.map_eq_singleton_iff.1 h
    simp

theorem eq_singleton_of_map_eq {α β : Type} {f : α → β} {ys : List α} {b : β}
    (h : ys.map f = (some b).toList) : ∃ y, ys = [y] ∧ f y = b :=
  List.map_eq_singleton_iff.1 h

/-! ## Events one after the other -/

/-- **Graphs that events leave**, loaded one after the other into an empty graph at times before the
sentinel. -/
inductive Loaded (accountKey : String) : List Event → Graph → Prop
  | empty : Loaded accountKey [] empty
  | load {es : List Event} {g : Graph} (h : Loaded accountKey es g) {now : Instant} {e : Event}
      (hn : now < Instant.unexpired) (hv : e.verdict accountKey = .ok ()) :
      Loaded accountKey (es ++ [e]) (e.effect accountKey now g)

theorem Loaded.sound {es : List Event} (h : Loaded accountKey es g) : g.Sound := by
  induction h with
  | empty => exact sound_empty
  | load _ _ _ ih => exact Event.sound_effect ih accountKey _ _

theorem Loaded.loadAll {es : List Event} (h : Loaded accountKey es g)
    (hn : ∀ x ∈ xs, x.1 < Instant.unexpired) (hg : g.loadAll accountKey xs = some g') :
    Loaded accountKey (es ++ xs.map Prod.snd) g' := by
  induction xs generalizing es g with
  | nil =>
    cases hg
    rwa [List.map_nil, List.append_nil]
  | cons x xs ih =>
    obtain ⟨now, e⟩ := x
    rw [Graph.loadAll, Event.run_plan h.sound] at hg
    cases hv : e.verdict accountKey with
    | error err =>
      rw [hv] at hg
      cases hg
    | ok u =>
      rw [hv] at hg
      have hrest := ih (h.load (hn _ List.mem_cons_self) hv) (fun x hx => hn x (List.mem_cons_of_mem _ hx)) hg
      rwa [List.append_assoc] at hrest

theorem foldl_eq_self {α : Type} {step : Event → α → α} {es : List Event}
    (hs : ∀ e ∈ es, ∀ s, step e s = s) (s : α) : es.foldl (fun s e => step e s) s = s := by
  induction es generalizing s with
  | nil => rfl
  | cons e es ih =>
    rw [List.foldl_cons, hs e List.mem_cons_self]
    exact ih (fun e' he' => hs e' (List.mem_cons_of_mem e he')) s

/-- What no event raises any more holds until one ends it. -/
theorem foldl_amend {word : Event → Option Bool} {es : List Event} (hr : ∀ e ∈ es, word e ≠ some true)
    (b : Bool) : es.foldl (fun s e => amend (word e) s) (some b) =
      some (b && decide (∀ e ∈ es, word e ≠ some false)) := by
  induction es generalizing b with
  | nil => simp
  | cons e es ih =>
    have hrest := ih fun e' he' => hr e' (List.mem_cons_of_mem e he')
    rw [List.foldl_cons]
    cases hw : word e with
    | none =>
      rw [Statement.amend_none, hrest]
      simp [hw]
    | some w =>
      cases w with
      | true => exact absurd hw (hr e List.mem_cons_self)
      | false =>
        rw [Statement.amend_false, Option.map_some, hrest]
        simp [hw]

/-! ## Kept assets -/

/-- **Whatever is no account carries the sentinel as long as somebody owns it.** -/
def IsKept (g : Graph) : Prop :=
  ∀ k : AssetKey, k.type ≠ Account.assetType → ∀ b, g.holds? (.asset k) = some b →
    (b = true ↔ ∃ i, g.holds? (.owner k i) = some true)

theorem isKept_empty : IsKept empty := fun _ _ _ hb => by cases hb

theorem IsKept.upsert (hk : g.IsKept) (h : g.Sound) (accountKey : String) {now : Instant}
    (hn : now < Instant.unexpired) (p : Payload) : ((Event.upsert p).effect accountKey now g).IsKept := by
  intro k htype b hb
  have howner := Event.holds?_owner_effect h accountKey now (.upsert p) k
  rw [Event.holds?_effect h accountKey hn] at hb
  by_cases hpk : p.assetKey = k
  · have hraises : Statement.asset k ∈ p.raises accountKey := by
      rw [← hpk]
      exact List.mem_cons_self
    have hb' : b = true := by
      rw [Event.word, if_pos hraises] at hb
      exact (Option.some.inj hb).symm
    refine ⟨fun _ => ⟨p.team.id, ?_⟩, fun _ => hb'⟩
    rw [howner, Event.gives?, if_pos ⟨hpk, rfl⟩]
    rfl
  · have hraises : Statement.asset k ∉ p.raises accountKey := by
      intro hm
      simp only [Payload.raises, List.mem_cons, Statement.asset.injEq, reduceCtorEq, List.mem_flatMap,
        List.not_mem_nil, or_false, false_or] at hm
      rcases hm with hm | ⟨arn, -, hm⟩
      · exact hpk hm.symm
      · exact htype (hm ▸ rfl)
    rw [Event.word, if_neg hraises] at hb
    rw [hk k htype b hb]
    refine exists_congr fun i => ?_
    rw [howner, Event.gives?, if_neg fun hx => hpk hx.1]
    rfl

theorem IsKept.retire (hk : g.IsKept) (h : g.Sound) (accountKey : String) {now : Instant}
    (hn : now < Instant.unexpired) (r : Retirement) :
    ((Event.retire r).effect accountKey now g).IsKept := by
  intro k htype b hb
  have hall := Event.holds?_effect h accountKey hn (.retire r)
  have hsame : (∀ s : Statement, (s = .asset k ∨ ∃ i, s = .owner k i) → r.ends g s = false) →
      (b = true ↔ ∃ i, ((Event.retire r).effect accountKey now g).holds? (.owner k i) = some true) := by
    intro hends
    rw [hall, Event.word, hends _ (.inl rfl), if_neg Bool.false_ne_true] at hb
    rw [hk k htype b hb]
    refine exists_congr fun i => ?_
    rw [hall, Event.word, hends _ (.inr ⟨i, rfl⟩), if_neg Bool.false_ne_true]
    rfl
  by_cases hrk : r.asset = k
  · subst hrk
    cases ha : g.assetId? r.asset with
    | none => exact hsame fun s _ => by rw [Retirement.ends, ha]
    | some a =>
      cases ht : g.teamId? r.teamId with
      | none => exact hsame fun s _ => by rw [Retirement.ends, ha, ht]
      | some t =>
        have hends : ∀ s, r.ends g s =
            (s = .owner r.asset r.teamId || (!g.isOwnedByOthers a t && s.isAt r.asset)) := fun s => by
          rw [Retirement.ends, ha, ht]
        have howner := Event.holds?_owner_effect h accountKey now (.retire r) r.asset
        rw [hall, Event.word, hends] at hb
        cases hothers : g.isOwnedByOthers a t with
        | true =>
          obtain ⟨i, hi, hactive⟩ := (Event.isOwnedByOthers_iff h.toIsKeyed ha ht).1 hothers
          simp only [hothers, reduceCtorEq, decide_false, Bool.not_true, Bool.false_and, Bool.or_false,
            Bool.false_eq_true, if_false, Statement.amend_none] at hb
          refine ⟨fun _ => ⟨i, ?_⟩, fun _ => (hk _ htype b hb).2 ⟨i, hactive⟩⟩
          rw [howner, Event.gives?, if_neg fun hx => hi hx.2.symm]
          exact hactive
        | false =>
          simp only [hothers, Statement.isAt, decide_true, Bool.not_false, Bool.true_and, Bool.or_true,
            if_true, Statement.amend_false, Option.map_eq_some_iff] at hb
          obtain ⟨-, -, rfl⟩ := hb
          refine ⟨by rintro ⟨⟩, ?_⟩
          rintro ⟨i, hi⟩
          rw [howner, Event.gives?] at hi
          by_cases hir : r.teamId = i
          · rw [if_pos ⟨rfl, hir⟩, Statement.amend_false, Option.map_eq_some_iff] at hi
            obtain ⟨_, -, hf⟩ := hi
            cases hf
          · rw [if_neg fun hx => hir hx.2] at hi
            rw [(Event.isOwnedByOthers_iff h.toIsKeyed ha ht).2 ⟨i, fun hx => hir hx.symm, hi⟩] at hothers
            cases hothers
  · refine hsame fun s hs => ?_
    rw [Retirement.ends]
    split
    · rcases hs with rfl | ⟨i, rfl⟩
      · simp [Statement.isAt, Ne.symm hrk]
      · simp [Statement.isAt, Ne.symm hrk]
    · rfl

theorem IsKept.effect (hk : g.IsKept) (h : g.Sound) (accountKey : String) {now : Instant}
    (hn : now < Instant.unexpired) (e : Event) : (e.effect accountKey now g).IsKept := by
  cases e with
  | upsert p => exact hk.upsert h accountKey hn p
  | retire r => exact hk.retire h accountKey hn r

/-! ## The last word -/

section Loaded

variable {es : List Event}

/-- **Loading keeps assets as long as somebody owns them.** -/
theorem Loaded.isKept (h : Loaded accountKey es g) : g.IsKept := by
  induction h with
  | empty => exact isKept_empty
  | load h hn _ ih => exact ih.effect h.sound accountKey hn _

theorem Loaded.holds?_owner (h : Loaded accountKey es g) (k : AssetKey) (i : String) :
    g.holds? (.owner k i) = es.foldl (fun s e => amend (e.gives? k i) s) none := by
  induction h with
  | empty => rfl
  | load h hn _ ih => rw [Event.holds?_owner_effect h.sound accountKey, ih, List.foldl_concat]

theorem Loaded.teamName? (h : Loaded accountKey es g) (i : String) :
    g.teamName? i = es.foldl (fun s e => (e.names? i).or s) none := by
  induction h with
  | empty => rfl
  | load _ _ _ ih => rw [Event.teamName?_effect, ih, List.foldl_concat]

/-- **What is there has been raised by an upsert.** -/
theorem Loaded.isSome_holds? (h : Loaded accountKey es g) (s : Statement) :
    (g.holds? s).isSome = true ↔ ∃ p, .upsert p ∈ es ∧ s ∈ p.raises accountKey := by
  induction h with
  | empty => cases s <;> simp [Graph.holds?, Graph.empty, asset?, assetId?, between]
  | load h hn _ ih =>
    rw [Event.isSome_holds?_effect h.sound accountKey hn, ih]
    simp only [List.mem_append, List.mem_singleton, or_and_right, exists_or]
    exact or_comm

theorem Loaded.isSome_teamName? (h : Loaded accountKey es g) (i : String) :
    (g.teamName? i).isSome = true ↔ ∃ p, .upsert p ∈ es ∧ p.team.id = i := by
  induction h with
  | empty => simp [Graph.teamName?, team?, Graph.empty]
  | load _ _ _ ih =>
    rw [Event.teamName?_effect, Option.isSome_or, Bool.or_eq_true, ih, Event.isSome_names?_iff]
    simp only [List.mem_append, List.mem_singleton, or_and_right, exists_or]
    exact or_comm

/-- The last upsert of a pair, and what retirements have come since. -/
theorem Loaded.owner_of_last {pre post : List Event} {p : Payload}
    (h : Loaded accountKey (pre ++ .upsert p :: post) g)
    (hlast : ∀ q, .upsert q ∈ post → ¬ (q.assetKey = p.assetKey ∧ q.team.id = p.team.id)) :
    ∃ b, g.holds? (.owner p.assetKey p.team.id) = some b ∧ (b = true ↔
      ∀ r, .retire r ∈ post → ¬ (r.asset = p.assetKey ∧ r.teamId = p.team.id)) := by
  have hr : ∀ e ∈ post, e.gives? p.assetKey p.team.id ≠ some true := by
    rintro (q | r) he hgives
    · rw [Event.gives?, if_neg (hlast q he)] at hgives
      cases hgives
    · rw [Event.gives?] at hgives
      split at hgives <;> cases hgives
  refine ⟨decide (∀ e ∈ post, e.gives? p.assetKey p.team.id ≠ some false), ?_, decide_eq_true_iff.trans ?_⟩
  · rw [h.holds?_owner, List.foldl_append, List.foldl_cons, Event.gives?,
      if_pos ⟨rfl, rfl⟩, Statement.amend_true, foldl_amend hr, Bool.true_and]
  · constructor
    · intro hall r he hpair
      exact hall _ he (if_pos hpair)
    · rintro hall (q | r) he hgives
      · rw [Event.gives?, if_neg (hlast q he)] at hgives
        cases hgives
      · rw [Event.gives?, if_neg (hall r he)] at hgives
        cases hgives

theorem Loaded.name_of_last {pre post : List Event} {p : Payload}
    (h : Loaded accountKey (pre ++ .upsert p :: post) g)
    (hlast : ∀ q, .upsert q ∈ post → q.team.id ≠ p.team.id) :
    g.teamName? p.team.id = some p.team.name := by
  rw [h.teamName?, List.foldl_append, List.foldl_cons, foldl_eq_self, Event.names?,
    if_pos rfl]
  · rfl
  · rintro (q | r) he s
    · rw [Event.names?, if_neg (Ne.symm (hlast q he))]
      rfl
    · rfl

end Loaded

/-- **The graph is the last-writer-wins view of the event history.**  Say that all of a history has been
loaded into an empty graph, at times before the sentinel.  Then there is one ownership for each asset and
team of an upsert, active unless a retirement of both has come since the last such upsert, and none else;
one team for each identifier of an upsert, with the name that the last such upsert gave it, and none
else; and one asset for each key of an upsert, with the sentinel as long as an ownership of it is active,
and no other asset that is no account. -/
theorem loadAll_is_last_word (accountKey : String) {xs : List (Instant × Event)} {g : Graph}
    (hg : loadAll accountKey xs empty = some g) (hn : ∀ x ∈ xs, x.1 < Instant.unexpired) :
    let es := xs.map Prod.snd
    (∀ k i, (g.ownershipsOf k i ≠ [] ↔ ∃ p, .upsert p ∈ es ∧ p.assetKey = k ∧ p.team.id = i) ∧
      (g.ownershipsOf k i).length ≤ 1) ∧
    (∀ pre p post, es = pre ++ .upsert p :: post →
      (∀ q, .upsert q ∈ post → ¬ (q.assetKey = p.assetKey ∧ q.team.id = p.team.id)) →
      ∃ o, g.ownershipsOf p.assetKey p.team.id = [o] ∧ (o.isActive = true ↔
        ∀ r, .retire r ∈ post → ¬ (r.asset = p.assetKey ∧ r.teamId = p.team.id))) ∧
    (∀ i, (g.teams.filter (·.identifier = i) ≠ [] ↔ ∃ p, .upsert p ∈ es ∧ p.team.id = i) ∧
      (g.teams.filter (·.identifier = i)).length ≤ 1) ∧
    (∀ pre p post, es = pre ++ .upsert p :: post → (∀ q, .upsert q ∈ post → q.team.id ≠ p.team.id) →
      ∃ t, g.teams.filter (·.identifier = p.team.id) = [t] ∧ t.name = p.team.name) ∧
    ∀ k : AssetKey, k.type ≠ Account.assetType →
      (g.assets.filter (·.key = k) ≠ [] ↔ ∃ p, .upsert p ∈ es ∧ p.assetKey = k) ∧
      (g.assets.filter (·.key = k)).length ≤ 1 ∧
      ∀ a ∈ g.assets, a.key = k →
        (a.isUnexpired = true ↔ ∃ o ∈ g.owns, o.assetId = a.id ∧ o.isActive = true) := by
  intro es
  have h : Loaded accountKey es g := Loaded.empty.loadAll hn hg
  have hs := h.sound
  refine ⟨fun k i => ?_, ?_, fun i => ?_, ?_, fun k hk => ?_⟩
  · have hmap := map_isActive_ownershipsOf hs.toIsKeyed k i
    refine ⟨?_, length_le_of_map_eq hmap⟩
    rw [ne_nil_iff_of_map_eq hmap, h.isSome_holds?]
    simp only [Payload.mem_raises_owner]
  · intro pre p post hes hlast
    obtain ⟨b, hb, hiff⟩ := (hes ▸ h).owner_of_last hlast
    have hmap := map_isActive_ownershipsOf hs.toIsKeyed p.assetKey p.team.id
    rw [hb] at hmap
    obtain ⟨o, ho, rfl⟩ := eq_singleton_of_map_eq hmap
    exact ⟨o, ho, hiff⟩
  · have hmap := map_name_filter hs.toIsKeyed i
    exact ⟨(ne_nil_iff_of_map_eq hmap).trans (h.isSome_teamName? i), length_le_of_map_eq hmap⟩
  · intro pre p post hes hlast
    have hmap := map_name_filter hs.toIsKeyed p.team.id
    have hlast' : Loaded accountKey (pre ++ .upsert p :: post) g := hes ▸ h
    rw [hlast'.name_of_last hlast] at hmap
    exact eq_singleton_of_map_eq hmap
  · have hmap := map_isUnexpired_filter hs.toWellFormed k
    refine ⟨?_, length_le_of_map_eq hmap, ?_⟩
    · rw [ne_nil_iff_of_map_eq hmap, h.isSome_holds?]
      simp only [Payload.mem_raises_asset hk]
    · rintro a ha rfl
      have hka : g.asset? a.key = some a := hs.asset?_eq_some_iff.2 ⟨ha, rfl⟩
      have hid : g.assetId? a.key = some a.id := congrArg _ hka
      rw [h.isKept a.key hk a.isUnexpired (by rw [holds?, hka]; rfl)]
      simp only [holds?_owner_eq_some_iff hs.toWellFormed, hid, Option.some.injEq]
      constructor
      · rintro ⟨i, o, ho, hoa, -, hactive⟩
        exact ⟨o, ho, hoa.symm, hactive⟩
      · rintro ⟨o, ho, hoa, hactive⟩
        obtain ⟨i, hi⟩ := hs.exists_teamId? ho
        exact ⟨i, o, ho, hoa.symm, hi, hactive⟩

/-- A host with two owners, the first of which gives it up before the second is renamed. -/
theorem loadAll_is_last_word_of_two_owners :
    let k : AssetKey := { type := "Hostname", identifier := "h" }
    let p (i name : String) : Payload :=
      { id := "h", team := { id := i, name }, assetType := k.type, identifier := k.identifier }
    let xs : List (Instant × Event) :=
      [({ second := 1 }, .upsert (p "t" "First")), ({ second := 2 }, .upsert (p "u" "Second")),
        ({ second := 3 }, .retire { asset := k, teamId := "t", assetId := "h" }),
        ({ second := 4 }, .upsert (p "u" "Renamed"))]
    (∀ x ∈ xs, x.1 < Instant.unexpired) ∧ ∃ g, loadAll "account" xs empty = some g ∧
      (∃ o, g.ownershipsOf k "t" = [o] ∧ o.isActive = false) ∧
      (∃ o, g.ownershipsOf k "u" = [o] ∧ o.isActive = true) ∧
      (∃ t, g.teams.filter (·.identifier = "u") = [t] ∧ t.name = "Renamed") ∧
      g.assets.filter (·.key = k) ≠ [] := by
  intro k p xs
  have hn : ∀ x ∈ xs, x.1 < Instant.unexpired := by decide
  obtain ⟨g, hg⟩ : ∃ g, loadAll "account" xs empty = some g :=
    Option.isSome_iff_exists.1 (by decide +kernel)
  obtain ⟨-, howner, -, hteam, hasset⟩ := loadAll_is_last_word "account" hg hn
  refine ⟨hn, g, hg, ?_, ?_, ?_, ?_⟩
  · have hlast : ∀ q, .upsert q ∈ (xs.drop 1).map Prod.snd → ¬ (q.assetKey = k ∧ q.team.id = "t") := by
      rintro q hq ⟨-, hi⟩
      simp only [xs, List.drop_succ_cons, List.drop_zero, List.map_cons, List.map_nil, List.mem_cons,
        Event.upsert.injEq, reduceCtorEq, List.not_mem_nil, or_false, false_or] at hq
      rcases hq with rfl | rfl <;> exact absurd hi (by decide)
    obtain ⟨o, ho, hactive⟩ := howner [] (p "t" "First") ((xs.drop 1).map Prod.snd) rfl hlast
    refine ⟨o, ho, Bool.eq_false_iff.2 fun ha => ?_⟩
    exact hactive.1 ha _ (List.mem_cons_of_mem _ List.mem_cons_self) ⟨rfl, rfl⟩
  · obtain ⟨o, ho, hactive⟩ := howner (xs.dropLast.map Prod.snd) (p "u" "Renamed") [] rfl
      fun _ hq => absurd hq List.not_mem_nil
    exact ⟨o, ho, hactive.2 fun _ hr => absurd hr List.not_mem_nil⟩
  · exact hteam (xs.dropLast.map Prod.snd) (p "u" "Renamed") [] rfl fun _ hq => absurd hq List.not_mem_nil
  · exact (hasset k (by decide)).1.2 ⟨p "t" "First", List.mem_cons_self, rfl⟩

end Graph

end AssetGraph
