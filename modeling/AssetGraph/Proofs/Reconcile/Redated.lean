import AssetGraph.Proofs.Reconcile.Timely
import Mathlib.Data.List.Forall2
/-!
# Loads that break off and are loaded again

An event whose load breaks off is loaded again later.  The graph that comes of it lies between the one that
loading the event at once would have left at the first time and the one that it would have left at the
second: entry by entry they are the same, but for times that are the first in front and the second behind
(`Graph.Redated`).  Deeds keep that relation (`Graph.Redated.perform`), so it is left to see that the deeds
of the first load, done twice, have been done once.
-/
namespace AssetGraph

/-! ## One time for another -/

/-- A time as it was, or the second time where it was the first. -/
def Instant.Redated (n m before after : Instant) : Prop := after = before ∨ (before = n ∧ after = m)

structure Asset.Redated (n m : Instant) (a b : Asset) : Prop where
  id : b.id = a.id
  key : b.key = a.key
  firstSeen : Instant.Redated n m a.firstSeen b.firstSeen
  lastSeen : Instant.Redated n m a.lastSeen b.lastSeen
  expiration : Instant.Redated n m a.expiration b.expiration
  isUnexpired : b.isUnexpired = a.isUnexpired

structure Owns.Redated (n m : Instant) (o u : Owns) : Prop where
  id : u.id = o.id
  assetId : u.assetId = o.assetId
  teamId : u.teamId = o.teamId
  startTime : Instant.Redated n m o.startTime u.startTime
  endTime : Option.Rel (Instant.Redated n m) o.endTime u.endTime
  isActive : u.isActive = o.isActive

structure ParentOf.Redated (n m : Instant) (e f : ParentOf) : Prop where
  id : f.id = e.id
  childId : f.childId = e.childId
  parentId : f.parentId = e.parentId
  firstSeen : Instant.Redated n m e.firstSeen f.firstSeen
  lastSeen : Instant.Redated n m e.lastSeen f.lastSeen
  expiration : Instant.Redated n m e.expiration f.expiration
  isUnexpired : f.isUnexpired = e.isUnexpired

/-- **Two graphs are the same, entry by entry**, but for times that are the first in the one and the second
in the other. -/
structure Graph.Redated (n m : Instant) (g x : Graph) : Prop where
  assets : g.assets.Forall₂ (Asset.Redated n m) x.assets
  teams : x.teams = g.teams
  owns : g.owns.Forall₂ (Owns.Redated n m) x.owns
  parents : g.parents.Forall₂ (ParentOf.Redated n m) x.parents
  issued : x.issued = g.issued

section Refl

variable {n m : Instant}

theorem Instant.Redated.refl (t : Instant) : Redated n m t t := .inl rfl

theorem Asset.Redated.refl (a : Asset) : a.Redated n m a := ⟨rfl, rfl, .refl _, .refl _, .refl _, rfl⟩

theorem Owns.Redated.refl (o : Owns) : o.Redated n m o := by
  refine ⟨rfl, rfl, rfl, .refl _, ?_, rfl⟩
  cases o.endTime with
  | none => exact .none
  | some t => exact .some (.refl t)

theorem ParentOf.Redated.refl (e : ParentOf) : e.Redated n m e :=
  ⟨rfl, rfl, rfl, .refl _, .refl _, .refl _, rfl⟩

theorem Graph.Redated.refl (g : Graph) : g.Redated n m g where
  assets := List.forall₂_same.2 fun a _ => .refl a
  teams := rfl
  owns := List.forall₂_same.2 fun o _ => .refl o
  parents := List.forall₂_same.2 fun e _ => .refl e
  issued := rfl

end Refl

theorem Owns.Redated.pair {n m : Instant} {o u : Owns} (h : o.Redated n m u) : u.pair = o.pair :=
  Prod.ext h.assetId h.teamId

theorem ParentOf.Redated.pair {n m : Instant} {e f : ParentOf} (h : e.Redated n m f) : f.pair = e.pair :=
  Prod.ext h.childId h.parentId

/-- An expiration that is none, or not ahead of the clock, is ahead of it if it is none. -/
theorem Instant.lt_iff_eq_unexpired {now t : Instant} (hn : now < unexpired) (h : t = unexpired ∨ t ≤ now) :
    now < t ↔ t = unexpired := by
  constructor
  · intro hlt
    exact h.resolve_right (not_le.2 hlt)
  · rintro rfl
    exact hn

theorem Asset.isUnexpired_seen {now : Instant} (hn : now < Instant.unexpired) (a : Asset) :
    (a.seen now now).isUnexpired = false :=
  decide_eq_false fun h => Instant.lt_irrefl _ (h ▸ hn)

theorem ParentOf.isUnexpired_seen {now : Instant} (hn : now < Instant.unexpired) (e : ParentOf) :
    (e.seen now now).isUnexpired = false :=
  decide_eq_false fun h => Instant.lt_irrefl _ (h ▸ hn)

namespace Graph

section Lists

variable {α : Type} {R : α → α → Prop} {p p' : α → Prop} [DecidablePred p] [DecidablePred p']
  {f f' : α → α} {xs ys : List α}

theorem forall₂_change (h : xs.Forall₂ R ys) (hp : ∀ x ∈ xs, ∀ y ∈ ys, R x y → (p' y ↔ p x))
    (hf : ∀ x y, R x y → R (f x) (f' y)) : (change p f xs).Forall₂ R (change p' f' ys) := by
  induction h with
  | nil => exact .nil
  | @cons x y xs ys hxy h ih =>
    have hhead := hp x List.mem_cons_self y List.mem_cons_self hxy
    refine .cons ?_ (ih fun v hv w hw => hp v (List.mem_cons_of_mem _ hv) w (List.mem_cons_of_mem _ hw))
    beta_reduce
    by_cases hx : p x
    · rw [if_pos hx, if_pos (hhead.2 hx)]
      exact hf x y hxy
    · rw [if_neg hx, if_neg fun hy => hx (hhead.1 hy)]
      exact hxy

theorem forall₂_concat (h : xs.Forall₂ R ys) {x y : α} (hxy : R x y) : (xs ++ [x]).Forall₂ R (ys ++ [y]) :=
  List.rel_append h (.cons hxy .nil)

/-- In lists of entries with the same keys, the same entries are found. -/
theorem rel_find? {κ : Type} [DecidableEq κ] {key : α → κ} (h : xs.Forall₂ R ys)
    (hkey : ∀ {x y}, R x y → key y = key x) (k : κ) :
    Option.Rel R (xs.find? (key · = k)) (ys.find? (key · = k)) := by
  induction h with
  | nil => exact .none
  | @cons x y xs ys hxy h ih =>
    rw [List.find?_cons, List.find?_cons, hkey hxy]
    cases decide (key x = k) with
    | true => exact .some hxy
    | false => exact ih

end Lists

variable {n₁ n₂ m m' : Instant} {g x : Graph}

namespace Redated

variable (h : g.Redated n₁ n₂ x)
include h

theorem asset? (k : AssetKey) : Option.Rel (Asset.Redated n₁ n₂) (g.asset? k) (x.asset? k) :=
  rel_find? h.assets (fun hr => hr.key) k

theorem owns? (assetId teamId : String) :
    Option.Rel (Owns.Redated n₁ n₂) (g.owns? assetId teamId) (x.owns? assetId teamId) :=
  rel_find? h.owns (fun hr => hr.pair) (assetId, teamId)

theorem parentOf? (childId parentId : String) :
    Option.Rel (ParentOf.Redated n₁ n₂) (g.parentOf? childId parentId) (x.parentOf? childId parentId) :=
  rel_find? h.parents (fun hr => hr.pair) (childId, parentId)

theorem withTeam (identifier name : String) :
    (g.withTeam identifier name).Redated n₁ n₂ (x.withTeam identifier name) := by
  have hteam : x.team? identifier = g.team? identifier := by rw [Graph.team?, h.teams, Graph.team?]
  unfold Graph.withTeam
  rw [hteam, h.teams, h.issued]
  cases g.team? identifier with
  | some t => exact { h with teams := rfl, issued := rfl }
  | none => exact { h with teams := rfl, issued := rfl }

variable (hm : Instant.Redated n₁ n₂ m m')
include hm

theorem withAsset (k : AssetKey) : (g.withAsset m k).Redated n₁ n₂ (x.withAsset m' k) := by
  have hfound := h.asset? k
  unfold Graph.withAsset
  rw [h.issued]
  generalize g.asset? k = found, x.asset? k = found' at hfound ⊢
  cases hfound with
  | some _ =>
    exact { h with
      assets := forall₂_change h.assets (fun a _ b _ hr => by rw [hr.key]) fun a b hr =>
        ⟨hr.id, hr.key, hr.firstSeen, hm, .refl _, rfl⟩
      issued := rfl }
  | none =>
    exact { h with
      assets := forall₂_concat h.assets ⟨rfl, rfl, hm, hm, .refl _, rfl⟩
      issued := rfl }

theorem withOwns (assetId teamId : String) :
    (g.withOwns m assetId teamId).Redated n₁ n₂ (x.withOwns m' assetId teamId) := by
  have hfound := h.owns? assetId teamId
  unfold Graph.withOwns
  rw [h.issued]
  generalize g.owns? assetId teamId = found, x.owns? assetId teamId = found' at hfound ⊢
  cases hfound with
  | some _ =>
    exact { h with
      owns := forall₂_change h.owns (fun o _ u _ hr => by rw [hr.pair]) fun o u hr =>
        ⟨hr.id, hr.assetId, hr.teamId, hr.startTime, .none, rfl⟩
      issued := rfl }
  | none =>
    exact { h with
      owns := forall₂_concat h.owns ⟨rfl, rfl, rfl, hm, .none, rfl⟩
      issued := rfl }

theorem withParentOf (childId parentId : String) :
    (g.withParentOf m childId parentId).Redated n₁ n₂ (x.withParentOf m' childId parentId) := by
  have hfound := h.parentOf? childId parentId
  unfold Graph.withParentOf
  rw [h.issued]
  generalize g.parentOf? childId parentId = found, x.parentOf? childId parentId = found' at hfound ⊢
  cases hfound with
  | some _ =>
    exact { h with
      parents := forall₂_change h.parents (fun e _ f _ hr => by rw [hr.pair]) fun e f hr =>
        ⟨hr.id, hr.childId, hr.parentId, hr.firstSeen, hm, .refl _, rfl⟩
      issued := rfl }
  | none =>
    exact { h with
      parents := forall₂_concat h.parents ⟨rfl, rfl, rfl, hm, hm, .refl _, rfl⟩
      issued := rfl }

theorem endOwner (a t : String) :
    ((Deed.endOwner a t).perform m g).Redated n₁ n₂ ((Deed.endOwner a t).perform m' x) := by
  refine { h with owns := forall₂_change h.owns (fun o _ u _ hr => ?_) fun o u hr => ?_ }
  · rw [hr.pair, ← Owns.isActive_iff, ← Owns.isActive_iff, hr.isActive]
  · exact ⟨hr.id, hr.assetId, hr.teamId, hr.startTime, .some hm, rfl⟩

variable (hg : g.IsTimely m) (hx : x.IsTimely m') (hu : m < Instant.unexpired) (hu' : m' < Instant.unexpired)
include hg hx hu hu'

theorem expireAsset (id : String) :
    ((Deed.expireAsset id).perform m g).Redated n₁ n₂ ((Deed.expireAsset id).perform m' x) := by
  refine { h with assets := forall₂_change h.assets (fun a ha b hb hr => ?_) fun a b hr => ?_ }
  · rw [hr.id, Instant.lt_iff_eq_unexpired hu (hg.assets a ha).2.2,
      Instant.lt_iff_eq_unexpired hu' (hx.assets b hb).2.2, ← Asset.isUnexpired_iff, ← Asset.isUnexpired_iff,
      hr.isUnexpired]
  · exact ⟨hr.id, hr.key, hr.firstSeen, hm, hm, (b.isUnexpired_seen hu').trans (a.isUnexpired_seen hu).symm⟩

theorem expireEdge (c p : String) :
    ((Deed.expireEdge c p).perform m g).Redated n₁ n₂ ((Deed.expireEdge c p).perform m' x) := by
  refine { h with parents := forall₂_change h.parents (fun e he f hf hr => ?_) fun e f hr => ?_ }
  · rw [hr.pair, Instant.lt_iff_eq_unexpired hu (hg.parents e he).2.2,
      Instant.lt_iff_eq_unexpired hu' (hx.parents f hf).2.2, ← ParentOf.isUnexpired_iff,
      ← ParentOf.isUnexpired_iff, hr.isUnexpired]
  · exact ⟨hr.id, hr.childId, hr.parentId, hr.firstSeen, hm, hm,
      (f.isUnexpired_seen hu').trans (e.isUnexpired_seen hu).symm⟩

/-- **A deed keeps two graphs the same**, done at one time in the one and at another in the other. -/
theorem perform (d : Deed) : (d.perform m g).Redated n₁ n₂ (d.perform m' x) := by
  cases d with
  | asset k => exact h.withAsset hm k
  | team i n => exact h.withTeam i n
  | owner k i =>
    have hteam : x.team? i = g.team? i := by rw [Graph.team?, h.teams, Graph.team?]
    have hasset := h.asset? k
    rw [Deed.perform, Deed.perform, hteam]
    generalize g.asset? k = found, x.asset? k = found' at hasset ⊢
    cases hasset with
    | none => exact h
    | @some a b hr =>
      cases g.team? i with
      | none => exact h
      | some t =>
        have howns : (g.withOwns m a.id t.id).Redated n₁ n₂ (x.withOwns m' b.id t.id) := by
          rw [hr.id]
          exact h.withOwns hm a.id t.id
        exact howns
  | parent c p =>
    have hchild := h.asset? c
    have hparent := h.asset? p
    rw [Deed.perform, Deed.perform]
    generalize g.asset? c = child, x.asset? c = child', g.asset? p = parent, x.asset? p = parent'
      at hchild hparent ⊢
    cases hchild with
    | none => exact h
    | @some a a' ha =>
      cases hparent with
      | none => exact h
      | @some b b' hb =>
        have hedge : (g.withParentOf m a.id b.id).Redated n₁ n₂ (x.withParentOf m' a'.id b'.id) := by
          rw [ha.id, hb.id]
          exact h.withParentOf hm a.id b.id
        exact hedge
  | endOwner a t => exact h.endOwner hm a t
  | expireAsset id => exact h.expireAsset hm hg hx hu hu' id
  | expireEdge c p => exact h.expireEdge hm hg hx hu hu' c p

theorem performAll (ds : List Deed) : (Deed.performAll m ds g).Redated n₁ n₂ (Deed.performAll m' ds x) := by
  induction ds generalizing g x with
  | nil => exact h
  | cons d ds ih =>
    exact ih (h.perform hm hg hx hu hu' d) (Deed.isTimely_perform hg d) (Deed.isTimely_perform hx d)

end Redated

end Graph

/-! ## Loads that break off -/

/-- **A server one of whose calls fails**, the one with a number, without reaching it. -/
def Server.failingAt {σ : Type} (serve : Server σ) (k : Nat) (error : GraphError) : Server (σ × Nat) :=
  fun c (s, n) =>
    if n = k then (.error error, (s, n + 1))
    else
      let (r, s') := serve c s
      (r, (s', n + 1))

section FailingAt

variable {σ : Type} {serve : Server σ} {k n : Nat} {error : GraphError}

theorem Server.failingAt_self (c : Call) (s : σ) :
    serve.failingAt k error c (s, k) = (.error error, (s, k + 1)) := if_pos rfl

theorem Server.failingAt_of_ne (h : n ≠ k) (c : Call) (s : σ) :
    serve.failingAt k error c (s, n) = ((serve c s).1, ((serve c s).2, n + 1)) := if_neg h

namespace Plan

variable {α : Type}

theorem passes_failingAt (t : Instant) (k : Nat) (error : GraphError) (p : Plan α) (g : Graph) (n : Nat) :
    p.Passes t g (p.run ((Graph.server t).failingAt k error) (g, n)).2.1 := by
  induction p generalizing g n with
  | done a => exact .here _ _
  | fail e => exact .here _ _
  | call c next ih =>
    rw [run_call]
    by_cases hn : n = k
    · subst hn
      rw [Server.failingAt_self]
      exact .refused error (ih _ g _)
    · rw [Server.failingAt_of_ne hn]
      exact .answered (ih _ _ _)

/-- A plan that gives up ends with the error that it meets. -/
theorem GivesUp.run_failingAt {kind : GraphError → Prop} {p : Plan α} (hp : p.GivesUp kind)
    (he : kind error) {s : σ} (hn : n ≤ k) (hk : k < n + (p.calls serve s).length) :
    (p.run (serve.failingAt k error) (s, n)).1 = .error (.graph error) := by
  induction p generalizing s n with
  | done a => exact absurd hk (Nat.not_lt.2 hn)
  | fail e => exact absurd hk (Nat.not_lt.2 hn)
  | call c next ih =>
    rw [run_call]
    by_cases hnk : n = k
    · subst hnk
      rw [Server.failingAt_self, hp.1 error he]
      rfl
    · rw [Server.failingAt_of_ne hnk]
      rw [calls, List.length_cons, Nat.add_comm _ 1, ← Nat.add_assoc] at hk
      exact ih _ (hp.2 _) (Nat.lt_of_le_of_ne hn hnk) hk

end Plan

end FailingAt

namespace Graph

variable {accountKey : String} {xs : List (Instant × Event)} {g : Graph}

/-- **A load that breaks off is completed when it is loaded again.**  Take any graph that a history of loads
reaches, whatever has failed, by a clock that never goes back.  Let any call of an event's load fail, and
load the event again later: it ends as it would have at once.  The graph is the one that the first load
would have left, but for times that are the first where they are the second now; and it is the one that the
second load would have left at once, but for times that have stayed the first.  So a time that is another
than it would have been is one that the event writes. -/
theorem Reached.interrupted_load_is_completed (h : Reached accountKey xs g)
    (hs : (xs.map Prod.fst).Pairwise (· ≤ ·)) {n₁ n₂ : Instant} (hc : ∀ x ∈ xs, x.1 ≤ n₁) (hn : n₁ ≤ n₂)
    (hu : n₂ < Instant.unexpired) (e : Event) (k : Nat) (error : GraphError) (t t' : Instant) :
    let once (now : Instant) := (e.plan accountKey now).run (Graph.server t) g
    let cut := (e.plan accountKey n₁).run ((Graph.server t).failingAt k error) (g, 0)
    let again := (e.plan accountKey n₂).run (Graph.server t') cut.2.1
    (k < ((e.plan accountKey n₁).calls (Graph.server t) g).length → e.StopsAt error →
      cut.1 = .error (.graph error)) ∧
    again.1 = (once n₁).1 ∧ (once n₁).2.Redated n₁ n₂ again.2 ∧ again.2.Redated n₁ n₂ (once n₂).2 := by
  intro once cut again
  have hu₁ : n₁ < Instant.unexpired := Instant.lt_of_le_of_lt hn hu
  have hg₁ : g.IsTimely n₁ := h.isTimely hs hc
  have hg₂ : g.IsTimely n₂ := hg₁.mono hn
  obtain ⟨pre, hpre, hcut⟩ : ∃ pre, pre <+: e.deeds accountKey g ∧ cut.2.1 = Deed.performAll n₁ pre g :=
    Event.deeds_of_passes h.sound (Plan.passes_failingAt t k error _ g 0)
  have honce (now : Instant) :
      once now = (e.verdict accountKey, Deed.performAll now (e.deeds accountKey g) g) :=
    Event.run_plan h.sound accountKey now t e
  have hagain : again = (e.verdict accountKey,
      Deed.performAll n₂ (e.deeds accountKey g) (Deed.performAll n₁ pre g)) := by
    have hsound : cut.2.1.Sound := hcut ▸ Deed.sound_performAll h.sound pre
    have hrun : again = (e.verdict accountKey, e.effect accountKey n₂ cut.2.1) :=
      Event.run_plan hsound accountKey n₂ t' e
    rw [hrun, Event.effect, hcut, Event.deeds_on_the_way hpre]
  -- The deeds of the first load change nothing when they are done again at their own time.
  have habsorb (now : Instant) : Deed.performAll now (e.deeds accountKey g) (Deed.performAll now pre g) =
      Deed.performAll now (e.deeds accountKey g) g :=
    Deed.performAll_absorb hpre (Event.plan_does h.sound accountKey now e).ready
      (Event.agree_deeds accountKey g e)
  have htimely₁ := Deed.isTimely_performAll hg₁ pre
  have hboth : Instant.Redated n₁ n₂ n₁ n₂ := .inr ⟨rfl, rfl⟩
  refine ⟨fun hk he => ?_, ?_, ?_, ?_⟩
  · exact (Event.givesUp_plan accountKey n₁ e).run_failingAt he (Nat.zero_le k) (by rwa [Nat.zero_add])
  · rw [hagain, honce]
  · rw [hagain, honce, ← habsorb n₁]
    exact (Redated.refl _).performAll hboth htimely₁ (htimely₁.mono hn) hu₁ hu _
  · rw [hagain, honce, ← habsorb n₂]
    have hfirst := (Redated.refl g).performAll hboth hg₁ hg₂ hu₁ hu pre
    exact hfirst.performAll (.refl n₂) (htimely₁.mono hn) (Deed.isTimely_performAll hg₂ pre) hu hu _

/-- A retirement breaks off behind the end of its asset, in front of the cascade, and is loaded again. -/
theorem Reached.interrupted_retirement_is_completed :
    let k : AssetKey := { type := "Hostname", identifier := "h" }
    let p : Event :=
      .upsert { id := "h", team := { id := "t", name := "Team" }, assetType := k.type
                identifier := k.identifier, annotations := [{ key := "account", value := "123456789012" }] }
    let r : Event := .retire { asset := k, teamId := "t", assetId := "h" }
    let t (second : Int) : Instant := { second }
    let g := (Scene.load "account" p { now := t 1 }).2.graph
    let once (now : Instant) := (r.plan "account" now).run (Graph.server (t 2)) g
    let cut := (r.plan "account" (t 2)).run ((Graph.server (t 2)).failingAt 5 (.transport "down")) (g, 0)
    let again := (r.plan "account" (t 3)).run (Graph.server (t 3)) cut.2.1
    Reached "account" [(t 1, p)] g ∧ t 2 ≤ t 3 ∧ t 3 < Instant.unexpired ∧
      5 < ((r.plan "account" (t 2)).calls (Graph.server (t 2)) g).length ∧
      cut.1 = .error (.graph (.transport "down")) ∧
      cut.2.1.parents.map (·.expiration) = [Instant.unexpired] ∧
      again.2.assets.map (·.expiration) = [t 2, Instant.unexpired] ∧
      again.2.parents.map (·.expiration) = [t 3] ∧
      again.1 = (once (t 2)).1 ∧ (once (t 2)).2.Redated (t 2) (t 3) again.2 ∧
      again.2.Redated (t 2) (t 3) (once (t 3)).2 := by
  intro k p r t g once cut again
  have h : Reached "account" [(t 1, p)] g := Reached.scene (s := { now := t 1 }) .empty p
  have hc : ∀ x ∈ [(t 1, p)], x.1 ≤ t 2 := by decide +kernel
  have hs : ([(t 1, p)].map Prod.fst).Pairwise (· ≤ ·) := by decide +kernel
  have hn : t 2 ≤ t 3 := by decide +kernel
  have hu : t 3 < Instant.unexpired := by decide +kernel
  have hk : 5 < ((r.plan "account" (t 2)).calls (Graph.server (t 2)) g).length := by decide +kernel
  obtain ⟨hcut, hrest⟩ :=
    h.interrupted_load_is_completed hs hc hn hu r 5 (.transport "down") (t 2) (t 3)
  refine ⟨h, hn, hu, hk, hcut hk rfl, by decide +kernel, by decide +kernel, by decide +kernel, ?_⟩
  -- The names are unfolded first, since matching them would run the plans.
  dsimp only [once, cut, again]
  exact hrest

end Graph

end AssetGraph
