import AssetGraph.Proofs.Reconcile.Effect
import AssetGraph.Proofs.Reconcile.GiveUp
import AssetGraph.Scenario.Scene
/-!
# Graphs that loads pass

Loading an event takes several calls, and any of them may fail without reaching the graph.
`Graph.Reached` holds of every graph that is there behind some call of a history of such loads, or when
one of them has ended.  A call that fails ends its load (`Event.quits_plan`), so all that the graph has
seen of an event is the first of its deeds (`Event.deeds_of_passes`).  A graph that is reached stays
sound, and nothing in it is in the way of the next event (`Graph.Reached.load_never_trips`).
-/
namespace AssetGraph

namespace Plan

variable {α : Type} {t : Instant} {g x : Graph}

/-- **The graphs that a plan passes**, some of whose calls fail without reaching the graph: the one that
it begins with, and the one behind each call. -/
inductive Passes (t : Instant) : Plan α → Graph → Graph → Prop
  | here (p : Plan α) (g : Graph) : Passes t p g g
  | answered {c : Call} {next : Except GraphError c.Answer → Plan α} {g x : Graph}
      (h : Passes t (next (g.serve t c).1) (g.serve t c).2 x) : Passes t (.call c next) g x
  | refused {c : Call} {next : Except GraphError c.Answer → Plan α} {g x : Graph} (e : GraphError)
      (h : Passes t (next (.error e)) g x) : Passes t (.call c next) g x

/-- Nothing is left to do. -/
def IsOver : Plan α → Prop
  | .call .. => False
  | _ => True

/-- **A plan that makes no call after one that fails.** -/
def Quits : Plan α → Prop
  | .call _ next => (∀ e, (next (.error e)).IsOver) ∧ ∀ r, (next r).Quits
  | _ => True

theorem IsOver.quits {p : Plan α} (h : p.IsOver) : p.Quits := by
  cases p with
  | call c next => exact h.elim
  | _ => exact trivial

theorem IsOver.rescue {p : Plan α} {f : IngestError → Plan α} (h : p.IsOver) (hf : ∀ e, (f e).IsOver) :
    (p.rescue f).IsOver := by
  cases p with
  | done a => exact trivial
  | fail e => exact hf e
  | call c next => exact h.elim

theorem GivesUp.quits {p : Plan α} (h : p.GivesUp fun _ => True) : p.Quits := by
  induction p with
  | done a => exact trivial
  | fail e => exact trivial
  | call c next ih =>
    refine ⟨fun e => ?_, fun r => ih r (h.2 r)⟩
    rw [h.1 e trivial]
    exact trivial

theorem Quits.rescue {p : Plan α} {f : IngestError → Plan α} (h : p.Quits) (hf : ∀ e, (f e).IsOver) :
    (p.rescue f).Quits := by
  induction p with
  | done a => exact trivial
  | fail e => exact (hf e).quits
  | call c next ih => exact ⟨fun e => (h.1 e).rescue hf, fun r => ih r (h.2 r)⟩

theorem IsOver.eq_of_passes {p : Plan α} (h : p.IsOver) (hp : p.Passes t g x) : x = g := by
  cases hp with
  | here p g => rfl
  | answered _ => exact h.elim
  | refused _ _ => exact h.elim

/-- **A plan that quits passes no graph but those on its way**, whichever of its calls fails. -/
theorem Passes.mem_trail {p : Plan α} (h : p.Passes t g x) (hq : p.Quits) :
    x ∈ g :: p.trail (Graph.server t) g := by
  induction h with
  | here p g => exact List.mem_cons_self
  | answered _ ih => exact List.mem_cons_of_mem _ (ih (hq.2 _))
  | refused e h _ => exact (hq.1 e).eq_of_passes h ▸ List.mem_cons_self

end Plan

/-- Whatever fails in a scene, a plan passes the graph that it leaves. -/
theorem Scene.passes_run {α : Type} (p : Plan α) (s : Scene) :
    p.Passes s.now s.graph (p.run Scene.serve s).2.graph := by
  induction p generalizing s with
  | done a => exact .here _ _
  | fail e => exact .here _ _
  | call c next ih =>
    rw [Plan.run_call]
    rcases hmeet : Fault.meet c.method s.faults with ⟨_ | e, faults⟩
    · rw [Scene.serve_of_none hmeet]
      have hrest := ih (s.graph.serve s.now c).1
        { s with calls := s.calls ++ [c], faults, graph := (s.graph.serve s.now c).2 }
      exact .answered hrest
    · rw [Scene.serve_of_some hmeet]
      have hrest := ih (.error e) { s with calls := s.calls ++ [c], faults }
      exact .refused e hrest

namespace Event

variable {accountKey : String} {now t : Instant} {g x : Graph}

/-- **Loading an event makes no call after one that fails.** -/
theorem quits_plan (accountKey : String) (now : Instant) (e : Event) : (e.plan accountKey now).Quits := by
  cases e with
  | upsert p => exact (Load.givesUp_upsert accountKey p now).quits
  | retire r =>
    refine (Load.givesUp_withdraw r now).quits.rescue fun e => ?_
    split <;> exact trivial

/-- **Of an event that is cut short the first deeds are done.** -/
theorem deeds_of_passes (h : g.Sound) {e : Event} (hp : (e.plan accountKey now).Passes t g x) :
    ∃ pre, pre <+: e.deeds accountKey g ∧ x = Deed.performAll now pre g :=
  deeds_of_mem_trail h (hp.mem_trail (quits_plan accountKey now e))

end Event

/-- The first text that names no account is the one in the way. -/
theorem Account.named_snd (values : List String) :
    (Account.named values).2 = values.find? fun value => (Account.normalize? value).isNone :=
  congrArg Prod.snd (Account.named_eq values)

namespace Graph

/-- **Graphs that a history of loads reaches**, each event at its time and any of the calls failing: when
the loads have ended, or are on their way. -/
inductive Reached (accountKey : String) : List (Instant × Event) → Graph → Prop
  | empty : Reached accountKey [] empty
  | load {xs : List (Instant × Event)} {g x : Graph} (h : Reached accountKey xs g) {now t : Instant}
      {e : Event} (hp : (e.plan accountKey now).Passes t g x) : Reached accountKey (xs ++ [(now, e)]) x

variable {accountKey : String} {xs : List (Instant × Event)} {g : Graph}

/-- **Whatever fails, graphs stay sound.** -/
theorem Reached.sound (h : Reached accountKey xs g) : g.Sound := by
  induction h with
  | empty => exact sound_empty
  | load _ hp ih =>
    obtain ⟨pre, -, rfl⟩ := Event.deeds_of_passes ih hp
    exact Deed.sound_performAll ih pre

theorem Reached.scene {s : Scene} (h : Reached accountKey xs s.graph) (e : Event) :
    Reached accountKey (xs ++ [(s.now, e)]) (s.load accountKey e).2.graph :=
  h.load (Scene.passes_run (e.plan accountKey s.now) s)

/-- **The indexer never trips over its own graph.**  Take any graph that a history of loads has reached,
whatever has failed on the way and wherever it broke off.  Before that graph every retirement ends well,
without anything that it expects being missing, and every upsert does but for a text under the accounts'
key that names no account: then it ends with the first such text. -/
theorem Reached.load_never_trips (h : Reached accountKey xs g) (now t : Instant) :
    (∀ r : Retirement, ((Load.withdraw r now).run (Graph.server t) g).1 = .ok () ∧
      (((Event.retire r).plan accountKey now).run (Graph.server t) g).1 = .ok ()) ∧
    ∀ p : Payload, (((Event.upsert p).plan accountKey now).run (Graph.server t) g).1 =
      match p.annotations.find? fun n => n.key == accountKey && (Account.normalize? n.value).isNone with
      | some n => .error (.invalidAccount n.value)
      | none => .ok () := by
  refine ⟨fun r => ⟨?_, ?_⟩, fun p => ?_⟩
  · rw [(Load.withdraw_does h.sound.toIsKeyed accountKey r now).run_server]
  · rw [Event.run_plan h.sound]
    rfl
  · have hfirst : (Account.named (p.valuesOf accountKey)).2 =
        (p.annotations.find? fun n => n.key == accountKey && (Account.normalize? n.value).isNone).map
          (·.value) := by
      rw [Account.named_snd, Payload.valuesOf, List.find?_map, List.find?_filter]
      simp only [Function.comp_apply, Bool.decide_and, Bool.decide_eq_true]
    rw [Event.run_plan h.sound, Event.verdict, hfirst]
    cases p.annotations.find? fun n => n.key == accountKey && (Account.normalize? n.value).isNone <;> rfl

/-- An upsert breaks off before its team owns the asset.  The graph is in the way neither of a
retirement nor of another upsert, whose second account is none. -/
theorem Reached.load_never_trips_after_a_failure :
    let k : AssetKey := { type := "Hostname", identifier := "h" }
    let p (annotations : List Annotation) : Payload :=
      { id := "h", team := { id := "t", name := "Team" }, assetType := k.type, identifier := k.identifier
        annotations }
    let r : Retirement := { asset := k, teamId := "t", assetId := "h" }
    let q := p [{ key := "account", value := "123456789012" }, { key := "account", value := "x" }]
    let s : Scene :=
      { now := { second := 1 }, faults := [{ method := .upsertOwner, error := .transport "down" }] }
    let g := (s.load "account" (.upsert (p []))).2.graph
    let t : Instant := { second := 2 }
    Reached "account" [(s.now, .upsert (p []))] g ∧ g.teams.length = 1 ∧ g.owns = [] ∧
      ((Load.withdraw r t).run (Graph.server t) g).1 = .ok () ∧
      (((Event.retire r).plan "account" t).run (Graph.server t) g).1 = .ok () ∧
      (((Event.upsert q).plan "account" t).run (Graph.server t) g).1 = .error (.invalidAccount "x") := by
  intro k p r q s g t
  have h : Reached "account" [(s.now, .upsert (p []))] g := Reached.scene (s := s) .empty (.upsert (p []))
  obtain ⟨hretire, hupsert⟩ := h.load_never_trips t t
  exact ⟨h, by decide +kernel, by decide +kernel, (hretire r).1, (hretire r).2,
    (hupsert q).trans (by decide +kernel)⟩

end Graph

end AssetGraph
