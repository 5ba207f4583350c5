import AssetGraph.Proofs.Reconcile.Reach
import AssetGraph.Proofs.Reconcile.Word
import Mathlib.Data.List.TakeWhile
/-!
# Loading an event again

An event that has been loaded is loaded again, later.  A retirement finds nothing to do.  An upsert finds
all that it makes (`Deed.Stands`), so it changes the times that tell when that was seen last and nothing
else (`Deed.performAll_of_stands`).
-/
namespace AssetGraph

def Asset.seenLast (now : Instant) (a : Asset) : Asset := { a with lastSeen := now }

def ParentOf.seenLast (now : Instant) (e : ParentOf) : ParentOf := { e with lastSeen := now }

namespace Graph

/-- **The graph some of whose assets and containments are seen last at a time**, and as it was otherwise. -/
def seenLast (now : Instant) (p : Asset → Prop) (q : ParentOf → Prop) [DecidablePred p] [DecidablePred q]
    (g : Graph) : Graph :=
  { g with
    assets := change p (Asset.seenLast now) g.assets
    parents := change q (ParentOf.seenLast now) g.parents }

section SeenLast

variable {p p' : Asset → Prop} {q q' : ParentOf → Prop} [DecidablePred p] [DecidablePred p']
  [DecidablePred q] [DecidablePred q'] {g : Graph} {now : Instant}

theorem sameShape_seenLast : g.SameShape (g.seenLast now p q) :=
  { g.sameShape_assets p (f := Asset.seenLast now) fun _ => rfl with
    parents := map_change (f := ParentOf.seenLast now) (fun _ => rfl) g.parents }

theorem seenLast_congr (hp : ∀ a ∈ g.assets, p a ↔ p' a) (hq : ∀ e ∈ g.parents, q e ↔ q' e) :
    g.seenLast now p q = g.seenLast now p' q' := by
  rw [seenLast, seenLast, change_congr_of_iff hp fun _ _ _ => rfl, change_congr_of_iff hq fun _ _ _ => rfl]

theorem seenLast_assets (hq : ∀ e ∈ g.parents, ¬ q e) :
    g.seenLast now p q = { g with assets := change p (Asset.seenLast now) g.assets } := by
  rw [seenLast, change_eq_self fun e he h => absurd h (hq e he)]

theorem seenLast_parents (hp : ∀ a ∈ g.assets, ¬ p a) :
    g.seenLast now p q = { g with parents := change q (ParentOf.seenLast now) g.parents } := by
  rw [seenLast, change_eq_self fun a ha h => absurd h (hp a ha)]

theorem seenLast_eq_self (hp : ∀ a ∈ g.assets, ¬ p a) (hq : ∀ e ∈ g.parents, ¬ q e) :
    g.seenLast now p q = g := by
  rw [seenLast_assets hq, change_eq_self fun a ha h => absurd h (hp a ha)]

theorem seenLast_seenLast : (g.seenLast now p q).seenLast now p' q' =
    g.seenLast now (fun a => p a ∨ p' a) fun e => q e ∨ q' e := by
  have hassets := change_change (p := p) (q := p') (f := Asset.seenLast now) (fun _ => rfl) g.assets
  have hparents := change_change (p := q) (q := q') (f := ParentOf.seenLast now) (fun _ => rfl) g.parents
  simp only [seenLast]
  rw [hassets, hparents]

end SeenLast

end Graph

namespace Deed

open AssetGraph.Graph (change change_congr_of_iff forall_mem_change)

variable {g : Graph} {now : Instant} {d : Deed}

/-- All that a deed makes is there, whenever it was seen last. -/
def Stands (g : Graph) : Deed → Prop
  | asset k => k ∈ g.assets.map (·.key) ∧ ∀ a ∈ g.assets, a.key = k → a.expiration = Instant.unexpired
  | team i n => i ∈ g.teams.map (·.identifier) ∧ ∀ t ∈ g.teams, t.identifier = i → t.name = n
  | owner k i => ∃ a t, g.assetId? k = some a ∧ g.teamId? i = some t ∧ (a, t) ∈ g.owns.map (·.pair) ∧
      ∀ o ∈ g.owns, o.pair = (a, t) → o.endTime = none
  | parent c p => ∃ a b, g.assetId? c = some a ∧ g.assetId? p = some b ∧
      (a, b) ∈ g.parents.map (·.pair) ∧ ∀ e ∈ g.parents, e.pair = (a, b) → e.expiration = Instant.unexpired
  | _ => False

theorem IsDone.stands (h : d.IsDone now g) (hf : d.fells = false) : d.Stands g := by
  cases d with
  | asset k => exact ⟨h.1, fun a ha hk => (h.2 a ha hk).2⟩
  | team i n => exact h
  | owner k i =>
    obtain ⟨a, t, ha, ht, hmem, hall⟩ := h
    exact ⟨a.id, t.id, congrArg _ ha, congrArg _ ht, hmem, hall⟩
  | parent c p =>
    obtain ⟨a, b, ha, hb, hmem, hall⟩ := h
    exact ⟨a.id, b.id, congrArg _ ha, congrArg _ hb, hmem, fun e he hp => (hall e he hp).2⟩
  | _ => cases hf

/-- The deed makes the containment that an edge stands for. -/
def joins (g : Graph) (e : ParentOf) : Deed → Bool
  | parent c p => g.assetId? c = some e.childId ∧ g.assetId? p = some e.parentId
  | _ => false

theorem joins_of_sameShape {g' : Graph} (h : g.SameShape g') (e : ParentOf) (d : Deed) :
    d.joins g' e = d.joins g e := by
  cases d <;> simp only [joins, h.assetId?]

/-- **A deed whose work stands tells when, and nothing else.** -/
theorem Stands.perform_eq (h : d.Stands g) (now : Instant) :
    d.perform now g = g.seenLast now (fun a => d = .asset a.key) (d.joins g ·) := by
  cases d with
  | asset k =>
    obtain ⟨hk, hall⟩ := h
    have hassets : change (·.key = k) (Asset.seen now Instant.unexpired) g.assets =
        change (fun a => asset k = asset a.key) (Asset.seenLast now) g.assets :=
      change_congr_of_iff (fun a _ => by rw [asset.injEq, eq_comm])
        fun a ha he => by rw [Asset.seen, Asset.seenLast, ← hall a ha he]
    rw [perform, Graph.withAsset, Graph.seenLast_assets (by rintro _ _ ⟨⟩)]
    split
    · rw [hassets]
    · rename_i hn
      exact absurd hk (Graph.find?_key_eq_none_iff.1 hn)
  | team i n =>
    have hdone : (team i n).IsDone now g := h
    rw [hdone.perform_eq, Graph.seenLast_eq_self] <;> rintro _ _ ⟨⟩
  | owner k i =>
    obtain ⟨_, _, hk, hi, hrest⟩ := h
    obtain ⟨a, ha, rfl⟩ := Option.map_eq_some_iff.1 hk
    obtain ⟨t, ht, rfl⟩ := Option.map_eq_some_iff.1 hi
    have hdone : (owner k i).IsDone now g := ⟨a, t, ha, ht, hrest⟩
    rw [hdone.perform_eq, Graph.seenLast_eq_self] <;> rintro _ _ ⟨⟩
  | parent c p =>
    obtain ⟨_, _, hc, hp, hmem, hall⟩ := h
    obtain ⟨a, ha, rfl⟩ := Option.map_eq_some_iff.1 hc
    obtain ⟨b, hb, rfl⟩ := Option.map_eq_some_iff.1 hp
    have hjoins (e : ParentOf) : e.pair = (a.id, b.id) ↔ joins g e (parent c p) = true := by
      rw [joins, hc, hp, decide_eq_true_eq, Option.some.injEq, Option.some.injEq, ParentOf.pair,
        Prod.mk.injEq, eq_comm, @eq_comm _ e.parentId]
    have hparents : change (·.pair = (a.id, b.id)) (ParentOf.seen now Instant.unexpired) g.parents =
        change (fun e => joins g e (parent c p) = true) (ParentOf.seenLast now) g.parents :=
      change_congr_of_iff (fun e _ => hjoins e)
        fun e he hp => by rw [ParentOf.seen, ParentOf.seenLast, ← hall e he hp]
    rw [Graph.seenLast_parents (by rintro _ _ ⟨⟩), perform, ha, hb, ← hparents]
    simp only [Graph.withParentOf]
    split
    · rfl
    · rename_i hn
      exact absurd hmem (Graph.find?_key_eq_none_iff.1 hn)
  | _ => exact h.elim

theorem Stands.seenLast (h : d.Stands g) (now : Instant) (p : Asset → Prop) (q : ParentOf → Prop)
    [DecidablePred p] [DecidablePred q] : d.Stands (g.seenLast now p q) := by
  have hs : g.SameShape (g.seenLast now p q) := Graph.sameShape_seenLast
  cases d with
  | asset k =>
    refine ⟨?_, forall_mem_change h.2 fun _ _ ha => ha⟩
    rw [Graph.map_comp_eq Prod.snd hs.assets]
    exact h.1
  | team i n => exact h
  | owner k i =>
    obtain ⟨a, t, ha, ht, hrest⟩ := h
    exact ⟨a, t, (hs.assetId? k).trans ha, ht, hrest⟩
  | parent k k' =>
    obtain ⟨a, b, ha, hb, hmem, hall⟩ := h
    refine ⟨a, b, (hs.assetId? k).trans ha, (hs.assetId? k').trans hb, ?_, ?_⟩
    · rw [Graph.map_comp_eq Prod.snd hs.parents]
      exact hmem
    · exact forall_mem_change hall fun _ _ he => he
  | _ => exact h.elim

/-- **Deeds whose work stands tell when, and nothing else.** -/
theorem performAll_of_stands {ds : List Deed} (h : ∀ d ∈ ds, d.Stands g) (now : Instant) :
    performAll now ds g = g.seenLast now (fun a => .asset a.key ∈ ds) fun e => ds.any (joins g e) := by
  induction ds generalizing g with
  | nil => exact (Graph.seenLast_eq_self (by simp) (by simp)).symm
  | cons d ds ih =>
    have hd := h d List.mem_cons_self
    have hs : g.SameShape (g.seenLast now (fun a => d = .asset a.key) (d.joins g ·)) :=
      Graph.sameShape_seenLast
    have hrest := ih fun d' hd' =>
      (h d' (List.mem_cons_of_mem d hd')).seenLast now (fun a => d = .asset a.key) (d.joins g ·)
    rw [performAll_cons, hd.perform_eq, hrest, Graph.seenLast_seenLast]
    refine Graph.seenLast_congr (fun a _ => ?_) fun e _ => ?_
    · rw [List.mem_cons, eq_comm]
    · rw [List.any_cons, Bool.or_eq_true, funext (joins_of_sameShape hs e)]

/-- What has ended stays ended while time goes by. -/
theorem IsDone.later {m : Instant} (h : d.IsDone now g) (hf : d.fells = true) (hm : now ≤ m) :
    d.IsDone m g := by
  cases d with
  | endOwner a t => exact h
  | expireAsset id => exact fun a ha hid hlt => h a ha hid (Instant.lt_of_le_of_lt hm hlt)
  | expireEdge c p => exact fun e he hp hlt => h e he hp (Instant.lt_of_le_of_lt hm hlt)
  | _ => cases hf

end Deed

/-- Where all texts name accounts, these are the accounts. -/
theorem Account.named_fst {values : List String} (h : (named values).2 = none) :
    (named values).1 = values.filterMap normalize? := by
  rw [named_eq, List.find?_eq_none] at h
  have hall : values.takeWhile (fun value => (normalize? value).isSome) = values :=
    List.takeWhile_eq_self_iff.2 fun value hm => by simpa [Option.isSome_iff_ne_none] using h value hm
  rw [named_eq, hall]

namespace Event

variable {accountKey : String} {g : Graph} {now m : Instant}

theorem isDone_effect (h : g.Sound) (accountKey : String) (now : Instant) (e : Event) :
    ∀ d ∈ e.deeds accountKey g, d.IsDone now (e.effect accountKey now g) :=
  Deed.isDone_performAll (plan_does h accountKey now e).ready (agree_deeds accountKey g e)

/-- **A retirement that is loaded again later finds nothing to do.** -/
theorem effect_retire_again (h : g.Sound) (accountKey : String) (r : Retirement) (hm : now ≤ m) :
    (retire r).effect accountKey m ((retire r).effect accountKey now g) =
      (retire r).effect accountKey now g := by
  have hdeeds : (retire r).deeds accountKey ((retire r).effect accountKey now g) =
      (retire r).deeds accountKey g := deeds_on_the_way (List.prefix_refl _)
  have hdone := isDone_effect h accountKey now (retire r)
  rw [effect, hdeeds]
  exact Deed.performAll_eq_self fun d hd => (hdone d hd).later (fells_retire d hd) hm

/-- **Behind an upsert all that it is about has been seen**: the asset, the accounts that contain it, and the
edges between them. -/
theorem seen_effect_upsert (h : g.Sound) (accountKey : String) (p : Payload) (now : Instant) :
    let x := (upsert p).effect accountKey now g
    (∃ a ∈ x.assets, a.key = p.assetKey ∧ a.lastSeen = now) ∧
    ∀ arn ∈ (Account.named (p.valuesOf accountKey)).1,
      (∃ a ∈ x.assets, a.key = Account.key arn ∧ a.lastSeen = now) ∧
      ∃ e ∈ x.parents, x.assetId? p.assetKey = some e.childId ∧
        x.assetId? (Account.key arn) = some e.parentId ∧ e.lastSeen = now := by
  intro x
  have hdone := isDone_effect h accountKey now (upsert p)
  have hasset {k : AssetKey} (hk : (Deed.asset k).IsDone now x) :
      ∃ a ∈ x.assets, a.key = k ∧ a.lastSeen = now := by
    obtain ⟨a, ha, rfl⟩ := List.mem_map.1 hk.1
    exact ⟨a, ha, rfl, (hk.2 a ha rfl).1⟩
  refine ⟨hasset (hdone _ List.mem_cons_self), fun arn harn => ?_⟩
  have hmem {d : Deed} (hd : d ∈ [.asset (Account.key arn), .parent p.assetKey (Account.key arn)]) :
      d ∈ (upsert p).deeds accountKey g := by
    have hall : d ∈ Deed.containing p.assetKey (Account.named (p.valuesOf accountKey)).1 :=
      List.mem_flatMap.2 ⟨arn, harn, hd⟩
    exact List.mem_cons_of_mem _ (List.mem_cons_of_mem _ (List.mem_cons_of_mem _ hall))
  refine ⟨hasset (hdone _ (hmem List.mem_cons_self)), ?_⟩
  obtain ⟨a, b, ha, hb, hpair, hall⟩ := hdone _ (hmem (List.mem_cons_of_mem _ List.mem_cons_self))
  obtain ⟨e, he, hab⟩ := List.mem_map.1 hpair
  obtain ⟨hchild, hparent⟩ := Prod.mk.inj hab
  exact ⟨e, he, hchild ▸ congrArg _ ha, hparent ▸ congrArg _ hb, (hall e he hab).1⟩

/-- **An upsert that is loaded again tells when its assets and containments were seen last.** -/
theorem effect_upsert_again (h : g.Sound) (accountKey : String) (p : Payload) (now m : Instant) :
    let x := (upsert p).effect accountKey now g
    let arns := (Account.named (p.valuesOf accountKey)).1
    (upsert p).effect accountKey m x =
      x.seenLast m (fun a => a.key = p.assetKey ∨ ∃ arn ∈ arns, a.key = Account.key arn) fun e =>
        x.assetId? p.assetKey = some e.childId ∧
          ∃ arn ∈ arns, x.assetId? (Account.key arn) = some e.parentId := by
  intro x arns
  have hdone := isDone_effect h accountKey now (upsert p)
  have hstands : ∀ d ∈ (upsert p).deeds accountKey x, d.Stands x := fun d hd =>
    (hdone d hd).stands (fells_upsert accountKey g p d hd)
  rw [effect, Deed.performAll_of_stands hstands]
  refine Graph.seenLast_congr (fun a _ => ?_) fun e _ => ?_
  · simp only [deeds, Deed.containing, List.mem_cons, List.mem_flatMap, List.not_mem_nil, Deed.asset.injEq,
      reduceCtorEq, or_false, false_or, arns]
  · simp only [deeds, Deed.containing, List.any_cons, List.any_flatMap, List.any_nil, Deed.joins,
      Bool.false_or, Bool.or_false, List.any_eq_true, decide_eq_true_eq, and_left_comm, exists_and_left, arns]

end Event

namespace Graph

variable {accountKey : String} {xs : List (Instant × Event)} {g : Graph}

/-- **Loading an event twice is loading it once.**  Take any graph that a history of loads reaches, whatever
has failed.  Load an event, and load it again later: where it ends well, it ends well again.  A retirement
changes nothing more.  An upsert changes when its asset was seen last, and the accounts that its annotations
name, and the edges from that asset to these, all of which are there, and nothing else.  So at the same
time it changes nothing more either. -/
theorem Reached.load_twice_is_load_once (h : Reached accountKey xs g) {n₁ n₂ : Instant} (hn : n₁ ≤ n₂)
    (e : Event) (t t' : Instant) :
    let first := (e.plan accountKey n₁).run (Graph.server t) g
    let again := (e.plan accountKey n₂).run (Graph.server t') first.2
    first.1 = .ok () →
      again.1 = .ok () ∧
      (match e with
        | .retire _ => again.2 = first.2
        | .upsert p =>
          let arns := (p.valuesOf accountKey).filterMap Account.normalize?
          again.2 = first.2.seenLast n₂ (fun a => a.key = p.assetKey ∨ ∃ arn ∈ arns, a.key = Account.key arn)
            (fun e => first.2.assetId? p.assetKey = some e.childId ∧
              ∃ arn ∈ arns, first.2.assetId? (Account.key arn) = some e.parentId) ∧
          (∃ a ∈ again.2.assets, a.key = p.assetKey ∧ a.lastSeen = n₂) ∧
          ∀ arn ∈ arns, (∃ a ∈ again.2.assets, a.key = Account.key arn ∧ a.lastSeen = n₂) ∧
            ∃ e ∈ again.2.parents, again.2.assetId? p.assetKey = some e.childId ∧
              again.2.assetId? (Account.key arn) = some e.parentId ∧ e.lastSeen = n₂) ∧
      (n₁ = n₂ → again.2 = first.2) := by
  intro first again hok
  have hfirst : first = (e.verdict accountKey, e.effect accountKey n₁ g) :=
    Event.run_plan h.sound accountKey n₁ t e
  have hsound := Event.sound_effect h.sound accountKey n₁ e
  have hagain : again = (e.verdict accountKey, e.effect accountKey n₂ (e.effect accountKey n₁ g)) := by
    have hrun : again = (e.verdict accountKey, e.effect accountKey n₂ first.2) :=
      Event.run_plan (hfirst ▸ hsound) accountKey n₂ t' e
    rw [hrun, hfirst]
  rw [hfirst] at hok
  rw [hagain, hfirst]
  refine ⟨hok, ?_, ?_⟩
  · cases e with
    | retire r => exact Event.effect_retire_again h.sound accountKey r hn
    | upsert p =>
      have hnamed : (Account.named (p.valuesOf accountKey)).2 = none := by
        cases hsecond : (Account.named (p.valuesOf accountKey)).2 with
        | none => rfl
        | some value =>
          rw [Event.verdict, hsecond] at hok
          cases hok
      have hupsert := Event.effect_upsert_again h.sound accountKey p n₁ n₂
      have hseen := Event.seen_effect_upsert hsound accountKey p n₂
      rw [Account.named_fst hnamed] at hupsert hseen
      exact ⟨hupsert, hseen⟩
  · rintro rfl
    exact Event.effect_effect h.sound accountKey n₁ e

/-- An account, as an asset, whose annotations name another twice, in both forms, and the account itself. -/
theorem Reached.load_twice_is_load_once_of_an_account_in_itself :
    let named (value : String) : Annotation := { key := "account", value }
    let p : Payload :=
      { id := "h", team := { id := "t", name := "Team" }, assetType := Account.assetType
        identifier := "arn:aws:iam::210987654321:root"
        annotations := [named "123456789012", named "arn:aws:iam::123456789012:root", named "210987654321"] }
    let r : Retirement := { asset := p.assetKey, teamId := "t", assetId := "h" }
    let t (second : Int) : Instant := { second }
    let run (e : Event) (now : Instant) (g : Graph) := (e.plan "account" now).run (Graph.server now) g
    let g := (Scene.load "account" (.upsert p) { now := t 1 }).2.graph
    let x := (run (.upsert p) (t 2) g).2
    let y := (run (.retire r) (t 2) g).2
    let arns := (p.valuesOf "account").filterMap Account.normalize?
    Reached "account" [(t 1, .upsert p)] g ∧ t 2 ≤ t 3 ∧ (run (.upsert p) (t 2) g).1 = .ok () ∧
      (run (.retire r) (t 2) g).1 = .ok () ∧ g.assets.length = 2 ∧ g.parents.length = 2 ∧
      (run (.upsert p) (t 3) x).2 =
        x.seenLast (t 3) (fun a => a.key = p.assetKey ∨ ∃ arn ∈ arns, a.key = Account.key arn) (fun e =>
          x.assetId? p.assetKey = some e.childId ∧
            ∃ arn ∈ arns, x.assetId? (Account.key arn) = some e.parentId) ∧
      (run (.upsert p) (t 3) x).2.parents.map (·.lastSeen) = [t 3, t 3] ∧
      (run (.retire r) (t 3) y).2 = y ∧ y.parents.map (·.expiration) = [t 2, t 2] := by
  intro named p r t run g x y arns
  have h : Reached "account" [(t 1, .upsert p)] g := Reached.scene (s := { now := t 1 }) .empty (.upsert p)
  have hn : t 2 ≤ t 3 := by decide +kernel
  have hp : (run (.upsert p) (t 2) g).1 = .ok () := by decide +kernel
  have hr : (run (.retire r) (t 2) g).1 = .ok () := by decide +kernel
  obtain ⟨-, ⟨hupsert, -⟩, -⟩ := h.load_twice_is_load_once hn (.upsert p) (t 2) (t 3) hp
  obtain ⟨-, hretire, -⟩ := h.load_twice_is_load_once hn (.retire r) (t 2) (t 3) hr
  exact ⟨h, hn, hp, hr, by decide +kernel, by decide +kernel, hupsert, by decide +kernel, hretire,
    by decide +kernel⟩

end Graph

end AssetGraph
