import AssetGraph.Proofs.Reconcile.Reach
import AssetGraph.Proofs.Reconcile.Word
/-!
# Times

The times in a graph, where the clock of its loads never goes back.  None is ahead of the clock, but for the
sentinel that stands for what has not expired, and none that tells a beginning is behind its end
(`Graph.IsTimely`).  So a deed that is done now moves what is seen last forward, and what is there stays
there with its beginning (`Graph.Retains`); an expiration that has happened is taken back by an upsert and
by nothing else (`Graph.Reached.history_is_retained`).
-/
namespace AssetGraph

/-! ## What an entity keeps -/

/-- **The asset as it is later**; `turn` tells what may become of its expiration. -/
structure Asset.Keeps (turn : Instant → Instant → Prop) (a b : Asset) : Prop where
  id : b.id = a.id
  key : b.key = a.key
  firstSeen : b.firstSeen = a.firstSeen
  lastSeen : a.lastSeen ≤ b.lastSeen
  expiration : turn a.expiration b.expiration

/-- The team as it is later, under whatever name. -/
structure Team.Keeps (t u : Team) : Prop where
  id : u.id = t.id
  identifier : u.identifier = t.identifier

/-- The ownership as it is later, ended or not. -/
structure Owns.Keeps (o u : Owns) : Prop where
  id : u.id = o.id
  assetId : u.assetId = o.assetId
  teamId : u.teamId = o.teamId
  startTime : u.startTime = o.startTime

/-- The containment as it is later. -/
structure ParentOf.Keeps (turn : Instant → Instant → Prop) (e f : ParentOf) : Prop where
  id : f.id = e.id
  childId : f.childId = e.childId
  parentId : f.parentId = e.parentId
  firstSeen : f.firstSeen = e.firstSeen
  lastSeen : e.lastSeen ≤ f.lastSeen
  expiration : turn e.expiration f.expiration

namespace Graph

/-- **Everything in a graph is in another still.** -/
structure Retains (turn : Instant → Instant → Prop) (g x : Graph) : Prop where
  assets : ∀ a ∈ g.assets, ∃ b ∈ x.assets, a.Keeps turn b
  teams : ∀ t ∈ g.teams, ∃ u ∈ x.teams, t.Keeps u
  owns : ∀ o ∈ g.owns, ∃ u ∈ x.owns, o.Keeps u
  parents : ∀ e ∈ g.parents, ∃ f ∈ x.parents, e.Keeps turn f

/-- **The times in a graph are those of a clock.** -/
structure IsTimely (clock : Instant) (g : Graph) : Prop where
  assets : ∀ a ∈ g.assets, a.firstSeen ≤ a.lastSeen ∧ a.lastSeen ≤ clock ∧
    (a.expiration = Instant.unexpired ∨ a.expiration ≤ clock)
  owns : ∀ o ∈ g.owns, o.startTime ≤ clock ∧ ∀ t, o.endTime = some t → o.startTime ≤ t ∧ t ≤ clock
  parents : ∀ e ∈ g.parents, e.firstSeen ≤ e.lastSeen ∧ e.lastSeen ≤ clock ∧
    (e.expiration = Instant.unexpired ∨ e.expiration ≤ clock)

variable {g x y : Graph} {turn turn' : Instant → Instant → Prop}

section Retains

theorem Retains.refl (hr : ∀ t, turn t t) (g : Graph) : g.Retains turn g where
  assets a ha := ⟨a, ha, rfl, rfl, rfl, Instant.le_refl _, hr _⟩
  teams t ht := ⟨t, ht, rfl, rfl⟩
  owns o ho := ⟨o, ho, rfl, rfl, rfl, rfl⟩
  parents e he := ⟨e, he, rfl, rfl, rfl, rfl, Instant.le_refl _, hr _⟩

/-- What is kept twice is kept, if its expiration may have turned so at once. -/
theorem Retains.trans {turn'' : Instant → Instant → Prop} (h : g.Retains turn x) (h' : x.Retains turn' y)
    (ht : ∀ {r s t : Instant}, turn r s → turn' s t → turn'' r t) : g.Retains turn'' y where
  assets a ha := by
    obtain ⟨b, hb, hab⟩ := h.assets a ha
    obtain ⟨c, hc, hbc⟩ := h'.assets b hb
    exact ⟨c, hc, hbc.id.trans hab.id, hbc.key.trans hab.key, hbc.firstSeen.trans hab.firstSeen,
      Instant.le_trans hab.lastSeen hbc.lastSeen, ht hab.expiration hbc.expiration⟩
  teams t ht := by
    obtain ⟨u, hu, htu⟩ := h.teams t ht
    obtain ⟨v, hv, huv⟩ := h'.teams u hu
    exact ⟨v, hv, huv.id.trans htu.id, huv.identifier.trans htu.identifier⟩
  owns o ho := by
    obtain ⟨u, hu, hou⟩ := h.owns o ho
    obtain ⟨v, hv, huv⟩ := h'.owns u hu
    exact ⟨v, hv, huv.id.trans hou.id, huv.assetId.trans hou.assetId, huv.teamId.trans hou.teamId,
      huv.startTime.trans hou.startTime⟩
  parents e he := by
    obtain ⟨f, hf, hef⟩ := h.parents e he
    obtain ⟨k, hk, hfk⟩ := h'.parents f hf
    exact ⟨k, hk, hfk.id.trans hef.id, hfk.childId.trans hef.childId, hfk.parentId.trans hef.parentId,
      hfk.firstSeen.trans hef.firstSeen, Instant.le_trans hef.lastSeen hfk.lastSeen,
      ht hef.expiration hfk.expiration⟩

end Retains

theorem isTimely_empty (clock : Instant) : IsTimely clock empty where
  assets _ h := absurd h List.not_mem_nil
  owns _ h := absurd h List.not_mem_nil
  parents _ h := absurd h List.not_mem_nil

/-- A graph stays timely while nothing happens. -/
theorem IsTimely.mono {clock clock' : Instant} (h : g.IsTimely clock) (hc : clock ≤ clock') :
    g.IsTimely clock' where
  assets a ha := by
    obtain ⟨hf, hl, hx⟩ := h.assets a ha
    exact ⟨hf, Instant.le_trans hl hc, hx.imp_right (Instant.le_trans · hc)⟩
  owns o ho := by
    obtain ⟨hs, hend⟩ := h.owns o ho
    exact ⟨Instant.le_trans hs hc, fun t ht => (hend t ht).imp_right (Instant.le_trans · hc)⟩
  parents e he := by
    obtain ⟨hf, hl, hx⟩ := h.parents e he
    exact ⟨hf, Instant.le_trans hl hc, hx.imp_right (Instant.le_trans · hc)⟩

section Lists

variable {α : Type} {p : α → Prop} [DecidablePred p] {f : α → α} {xs : List α}

theorem exists_mem_change {r : α → α → Prop} (hr : ∀ x, r x x) (hf : ∀ x ∈ xs, p x → r x (f x)) :
    ∀ x ∈ xs, ∃ y ∈ change p f xs, r x y := by
  intro x hx
  refine ⟨_, mem_change.2 ⟨x, hx, rfl⟩, ?_⟩
  by_cases hp : p x
  · rw [if_pos hp]
    exact hf x hx hp
  · rw [if_neg hp]
    exact hr x

theorem exists_mem_concat {r : α → α → Prop} (hr : ∀ x, r x x) (z : α) : ∀ x ∈ xs, ∃ y ∈ xs ++ [z], r x y :=
  fun x hx => ⟨x, List.mem_append_left _ hx, hr x⟩

end Lists

end Graph

/-! ## Deeds -/

namespace Deed

open AssetGraph.Graph (change forall_mem_change forall_mem_concat exists_mem_change exists_mem_concat)

variable {now : Instant} {g : Graph}

/-- **Deeds keep a graph timely** by the clock that they are done by. -/
theorem isTimely_perform (h : g.IsTimely now) (d : Deed) : (d.perform now g).IsTimely now := by
  have hnow := Instant.le_refl now
  cases d with
  | asset k =>
    rw [perform, Graph.withAsset]
    split
    · exact { h with assets := forall_mem_change h.assets fun a _ ha =>
        ⟨Instant.le_trans ha.1 ha.2.1, hnow, .inl rfl⟩ }
    · exact { h with assets := forall_mem_concat h.assets ⟨hnow, hnow, .inl rfl⟩ }
  | team i n =>
    rw [perform, Graph.withTeam]
    split <;> exact { h with }
  | owner k i =>
    rw [perform]
    split
    · rw [Graph.withOwns]
      split
      · exact { h with owns := forall_mem_change h.owns fun o _ ho => ⟨ho.1, by rintro _ ⟨⟩⟩ }
      · exact { h with owns := forall_mem_concat h.owns ⟨hnow, by rintro _ ⟨⟩⟩ }
    · exact h
  | parent c p =>
    rw [perform]
    split
    · rw [Graph.withParentOf]
      split
      · exact { h with parents := forall_mem_change h.parents fun e _ he =>
          ⟨Instant.le_trans he.1 he.2.1, hnow, .inl rfl⟩ }
      · exact { h with parents := forall_mem_concat h.parents ⟨hnow, hnow, .inl rfl⟩ }
    · exact h
  | endOwner a t =>
    refine { h with owns := forall_mem_change h.owns fun o _ ho => ⟨ho.1, fun t ht => ?_⟩ }
    cases ht
    exact ⟨ho.1, hnow⟩
  | expireAsset id =>
    exact { h with assets := forall_mem_change h.assets fun a _ ha =>
      ⟨Instant.le_trans ha.1 ha.2.1, hnow, .inr hnow⟩ }
  | expireEdge c p =>
    exact { h with parents := forall_mem_change h.parents fun e _ he =>
      ⟨Instant.le_trans he.1 he.2.1, hnow, .inr hnow⟩ }

/-- What a deed may do to an expiration: one that raises takes it back, and one that fells gives one to
what had none. -/
def Turns (fells : Bool) (before after : Instant) : Prop :=
  after = before ∨ if fells then before = Instant.unexpired else after = Instant.unexpired

theorem Turns.trans {fells : Bool} {r s t : Instant} (h : Turns fells r s) (h' : Turns fells s t) :
    Turns fells r t := by
  rcases h' with rfl | h'
  · exact h
  · cases fells with
    | true =>
      rcases h with rfl | h
      · exact .inr h'
      · exact .inr h
    | false => exact .inr h'

/-- An expiration that is ahead of the clock has not happened. -/
theorem turns_of_lt {expiration : Instant} (h : expiration = Instant.unexpired ∨ expiration ≤ now)
    (hlt : now < expiration) : Turns true expiration now :=
  .inr (h.resolve_right (Instant.not_le.2 hlt))

/-- **A deed takes nothing away**, neither what is there nor its beginning. -/
theorem retains_perform (h : g.IsTimely now) (d : Deed) : g.Retains (Turns d.fells) (d.perform now g) := by
  have hrefl : g.Retains (Turns d.fells) g := .refl (fun _ => .inl rfl) g
  have hasset : ∀ a : Asset, a.Keeps (Turns d.fells) a := fun a =>
    ⟨rfl, rfl, rfl, Instant.le_refl _, .inl rfl⟩
  have hteam : ∀ t : Team, t.Keeps t := fun t => ⟨rfl, rfl⟩
  have howns : ∀ o : Owns, o.Keeps o := fun o => ⟨rfl, rfl, rfl, rfl⟩
  have hedge : ∀ e : ParentOf, e.Keeps (Turns d.fells) e := fun e =>
    ⟨rfl, rfl, rfl, rfl, Instant.le_refl _, .inl rfl⟩
  cases d with
  | asset k =>
    rw [perform, Graph.withAsset]
    split
    · exact { hrefl with assets := exists_mem_change hasset fun a ha _ =>
        ⟨rfl, rfl, rfl, (h.assets a ha).2.1, .inr rfl⟩ }
    · exact { hrefl with assets := exists_mem_concat hasset _ }
  | team i n =>
    rw [perform, Graph.withTeam]
    split
    · exact { hrefl with teams := exists_mem_change hteam fun _ _ _ => ⟨rfl, rfl⟩ }
    · exact { hrefl with teams := exists_mem_concat hteam _ }
  | owner k i =>
    rw [perform]
    split
    · rw [Graph.withOwns]
      split
      · exact { hrefl with owns := exists_mem_change howns fun _ _ _ => ⟨rfl, rfl, rfl, rfl⟩ }
      · exact { hrefl with owns := exists_mem_concat howns _ }
    · exact hrefl
  | parent c p =>
    rw [perform]
    split
    · rw [Graph.withParentOf]
      split
      · exact { hrefl with parents := exists_mem_change hedge fun e he _ =>
          ⟨rfl, rfl, rfl, rfl, (h.parents e he).2.1, .inr rfl⟩ }
      · exact { hrefl with parents := exists_mem_concat hedge _ }
    · exact hrefl
  | endOwner a t =>
    exact { hrefl with owns := exists_mem_change howns fun _ _ _ => ⟨rfl, rfl, rfl, rfl⟩ }
  | expireAsset id =>
    exact { hrefl with assets := exists_mem_change hasset fun a ha hx =>
      ⟨rfl, rfl, rfl, (h.assets a ha).2.1, turns_of_lt (h.assets a ha).2.2 hx.2⟩ }
  | expireEdge c p =>
    exact { hrefl with parents := exists_mem_change hedge fun e he hx =>
      ⟨rfl, rfl, rfl, rfl, (h.parents e he).2.1, turns_of_lt (h.parents e he).2.2 hx.2⟩ }

theorem isTimely_performAll (h : g.IsTimely now) (ds : List Deed) : (performAll now ds g).IsTimely now := by
  induction ds generalizing g with
  | nil => exact h
  | cons d ds ih => exact ih (isTimely_perform h d)

theorem retains_performAll (h : g.IsTimely now) {fells : Bool} {ds : List Deed}
    (hf : ∀ d ∈ ds, d.fells = fells) : g.Retains (Turns fells) (performAll now ds g) := by
  induction ds generalizing g with
  | nil => exact .refl (fun _ => .inl rfl) g
  | cons d ds ih =>
    have hone := retains_perform h d
    rw [hf d List.mem_cons_self] at hone
    exact hone.trans (ih (isTimely_perform h d) fun d' hd' => hf d' (List.mem_cons_of_mem d hd')) Turns.trans

end Deed

/-! ## Loads -/

/-- **What an event may do to an expiration**: an upsert resets it to the sentinel, and a retirement gives
one to what has none. -/
def Event.Turns : Event → Instant → Instant → Prop
  | .upsert _, before, after => after = before ∨ after = Instant.unexpired
  | .retire _, before, after => after = before ∨ before = Instant.unexpired

namespace Graph

variable {accountKey : String} {xs ys : List (Instant × Event)} {g x : Graph}

/-- **Graphs that a history of loads reaches from another**, as `Reached` has them from the empty one. -/
inductive Follows (accountKey : String) (g : Graph) : List (Instant × Event) → Graph → Prop
  | here : Follows accountKey g [] g
  | load {ys : List (Instant × Event)} {x y : Graph} (h : Follows accountKey g ys x) {now t : Instant}
      {e : Event} (hp : (e.plan accountKey now).Passes t x y) : Follows accountKey g (ys ++ [(now, e)]) y

theorem Reached.follow (h : Reached accountKey xs g) (h' : Follows accountKey g ys x) :
    Reached accountKey (xs ++ ys) x := by
  induction h' with
  | here => exact (List.append_nil xs).symm ▸ h
  | load _ hp ih =>
    rw [← List.append_assoc]
    exact ih.load hp

/-- The clock of the last load is ahead of the others. -/
theorem clock_concat {y : Instant × Event} (h : ((xs ++ [y]).map Prod.fst).Pairwise (· ≤ ·)) :
    (xs.map Prod.fst).Pairwise (· ≤ ·) ∧ ∀ x ∈ xs, x.1 ≤ y.1 := by
  rw [List.map_append, List.pairwise_append] at h
  exact ⟨h.1, fun x hx => h.2.2 x.1 (List.mem_map_of_mem hx) y.1 List.mem_cons_self⟩

/-- **Whatever fails, a graph's times are those of its clock.** -/
theorem Reached.isTimely (h : Reached accountKey xs g) (hs : (xs.map Prod.fst).Pairwise (· ≤ ·))
    {clock : Instant} (hc : ∀ x ∈ xs, x.1 ≤ clock) : g.IsTimely clock := by
  induction h generalizing clock with
  | empty => exact isTimely_empty clock
  | @load xs g x h now t e hp ih =>
    obtain ⟨hsorted, hbefore⟩ := clock_concat hs
    obtain ⟨pre, -, rfl⟩ := Event.deeds_of_passes h.sound hp
    have hnow : now ≤ clock := hc (now, e) (List.mem_append_right _ List.mem_cons_self)
    exact (Deed.isTimely_performAll (ih hsorted hbefore) pre).mono hnow

/-- A load takes nothing away, wherever it breaks off. -/
theorem IsTimely.retains {now t : Instant} (ht : g.IsTimely now) (h : g.Sound) {e : Event}
    (hp : (e.plan accountKey now).Passes t g x) : g.Retains e.Turns x := by
  obtain ⟨pre, hpre, rfl⟩ := Event.deeds_of_passes h hp
  cases e with
  | upsert p =>
    exact Deed.retains_performAll ht fun d hd => Event.fells_upsert accountKey g p d (hpre.subset hd)
  | retire r => exact Deed.retains_performAll ht fun d hd => Event.fells_retire d (hpre.subset hd)

theorem Follows.scene {s : Scene} (h : Follows accountKey g ys s.graph) (e : Event) :
    Follows accountKey g (ys ++ [(s.now, e)]) (s.load accountKey e).2.graph :=
  h.load (Scene.passes_run (e.plan accountKey s.now) s)

/-- **History is retained, and time only moves forward.**  Take any graph that a history of loads reaches,
and any that more of them reach from there, by a clock that never goes back, whatever fails and wherever a
load breaks off.  Everything in the first graph is in the second still: with its id and key, with its
beginning, and seen last no earlier; and what has expired is as it was, unless an upsert has come between.
No time in the second graph is ahead of the clock, or in front of its own beginning.  And of what comes
next, an upsert changes an expiration to the sentinel only, and a retirement none that has happened. -/
theorem Reached.history_is_retained (h : Reached accountKey xs g) (h' : Follows accountKey g ys x)
    (hs : ((xs ++ ys).map Prod.fst).Pairwise (· ≤ ·)) {clock : Instant} (hc : ∀ y ∈ xs ++ ys, y.1 ≤ clock) :
    g.Retains (fun before after =>
      before = Instant.unexpired ∨ after = before ∨ ∃ p, .upsert p ∈ ys.map Prod.snd) x ∧
    x.IsTimely clock ∧
    ∀ t e y, (Event.plan accountKey clock e).Passes t x y → x.Retains e.Turns y := by
  have hx := h.follow h'
  have htimely := hx.isTimely hs hc
  refine ⟨?_, htimely, fun t e y hp => htimely.retains hx.sound hp⟩
  clear htimely hx hc
  induction h' with
  | here => exact .refl (fun _ => .inr (.inl rfl)) g
  | @load ys x y h' now t e hp ih =>
    rw [← List.append_assoc] at hs
    obtain ⟨hsorted, hbefore⟩ := clock_concat hs
    have hx := h.follow h'
    have hlast := (hx.isTimely hsorted hbefore).retains hx.sound hp
    refine (ih hsorted).trans hlast fun {r s t} hrs hst => ?_
    rw [List.map_append]
    rcases hrs with hr | rfl | ⟨p, hp⟩
    · exact .inl hr
    · cases e with
      | upsert p => exact .inr (.inr ⟨p, List.mem_append_right _ List.mem_cons_self⟩)
      | retire r => exact hst.symm.imp_right .inl
    · exact .inr (.inr ⟨p, List.mem_append_left _ hp⟩)

/-- A retirement breaks off behind the end of the ownership, is loaded again, and the asset comes back. -/
theorem Reached.history_is_retained_after_a_failure :
    let k : AssetKey := { type := "Hostname", identifier := "h" }
    let p (name : String) : Event :=
      .upsert { id := "h", team := { id := "t", name }, assetType := k.type, identifier := k.identifier
                annotations := [{ key := "account", value := "123456789012" }] }
    let r : Event := .retire { asset := k, teamId := "t", assetId := "h" }
    let load (g : Graph) (now : Instant) (e : Event) (faults : List Fault) : Graph :=
      (Scene.load "account" e { graph := g, now, faults }).2.graph
    let t (second : Int) : Instant := { second }
    let g := load (load Graph.empty (t 1) (p "First") []) (t 2) r
      [{ method := .updateAsset, error := .transport "down" }]
    let x := load (load g (t 3) r []) (t 4) (p "Second") []
    let y := load x (t 4) r []
    let xs := [(t 1, p "First"), (t 2, r)]
    let ys := [(t 3, r), (t 4, p "Second")]
    Reached "account" xs g ∧ Follows "account" g ys x ∧ ((xs ++ ys).map Prod.fst).Pairwise (· ≤ ·) ∧
      (∀ z ∈ xs ++ ys, z.1 ≤ t 4) ∧ g.owns.map (·.endTime) = [some (t 2)] ∧
      g.assets.map (·.lastSeen) = [t 1, t 1] ∧ x.assets.map (·.lastSeen) = [t 4, t 4] ∧
      y.parents.map (·.expiration) = [t 4] ∧
      g.Retains (fun before after =>
        before = Instant.unexpired ∨ after = before ∨ ∃ p, .upsert p ∈ ys.map Prod.snd) x ∧
      x.IsTimely (t 4) ∧ x.Retains r.Turns y := by
  intro k p r load t g x y xs ys
  have hload {xs : List (Instant × Event)} {g : Graph} (h : Reached "account" xs g) (now : Instant)
      (e : Event) (faults : List Fault) : Reached "account" (xs ++ [(now, e)]) (load g now e faults) :=
    Reached.scene (s := { graph := g, now, faults }) h e
  have hnext {g x : Graph} {ys : List (Instant × Event)} (h : Follows "account" g ys x) (now : Instant)
      (e : Event) : Follows "account" g (ys ++ [(now, e)]) (load x now e []) :=
    Follows.scene (s := { graph := x, now, faults := [] }) h e
  have hg : Reached "account" xs g := hload (hload .empty (t 1) (p "First") []) (t 2) r _
  have hx : Follows "account" g ys x := hnext (hnext .here (t 3) r) (t 4) (p "Second")
  have hpass (g : Graph) (now : Instant) (e : Event) :
      (e.plan "account" now).Passes now g (load g now e []) :=
    Scene.passes_run (e.plan "account" now) { graph := g, now, faults := [] }
  have hs : ((xs ++ ys).map Prod.fst).Pairwise (· ≤ ·) := by decide +kernel
  have hc : ∀ z ∈ xs ++ ys, z.1 ≤ t 4 := by decide +kernel
  obtain ⟨hkept, htimely, hlast⟩ := hg.history_is_retained hx hs hc
  exact ⟨hg, hx, hs, hc, by decide +kernel, by decide +kernel, by decide +kernel, by decide +kernel, hkept,
    htimely, hlast (t 4) r y (hpass x (t 4) r)⟩

end Graph

end AssetGraph
