import AssetGraph.Reconcile.Load
import AssetGraph.Proofs.Reconcile.Deed
import Mathlib.Data.List.Infix
/-!
# The way of a plan

A plan before a graph goes from state to state, call by call: its trail.  `Plan.Does` says which deeds
it does and that every state on the way is that of some first of them.  A plan that gives up at a failed
call, before a server some of whose calls fail without reaching the graph, either ends as it would have
or gives up at a state on its way (`Plan.Falters.outcome`).
-/
namespace AssetGraph

/-- **A server that keeps a graph** and answers each call as the graph does, at some time. -/
def Server.Answers {τ : Type} (serve : Server τ) (view : τ → Graph) : Prop :=
  ∀ c s, ∃ t, (serve c s).1 = ((view s).serve t c).1 ∧ view (serve c s).2 = ((view s).serve t c).2

namespace Plan

variable {α β σ : Type}

/-- The states behind the calls of a plan. -/
def trail (serve : Server σ) : Plan α → σ → List σ
  | done _, _ => []
  | fail _, _ => []
  | call c next, s => (serve c s).2 :: (next (serve c s).1).trail serve (serve c s).2

theorem trail_bind (serve : Server σ) (p : Plan α) (f : α → Plan β) (s : σ) :
    (p >>= f).trail serve s = p.trail serve s ++
      match p.run serve s with
      | (.ok a, s') => (f a).trail serve s'
      | (.error _, _) => [] := by
  rw [bind_eq]
  induction p generalizing s with
  | done a => rfl
  | fail e => rfl
  | call c next ih => exact congrArg _ (ih _ _)

theorem trail_rescue (serve : Server σ) (p : Plan α) (f : IngestError → Plan α) (s : σ) :
    (p.rescue f).trail serve s = p.trail serve s ++
      match p.run serve s with
      | (.ok _, _) => []
      | (.error e, s') => (f e).trail serve s' := by
  induction p generalizing s with
  | done a => rfl
  | fail e => rfl
  | call c next ih => exact congrArg _ (ih _ _)

theorem run_mem_trail (serve : Server σ) (p : Plan α) (s : σ) :
    (p.run serve s).2 ∈ s :: p.trail serve s := by
  induction p generalizing s with
  | done a => exact List.mem_cons_self
  | fail e => exact List.mem_cons_self
  | call c next ih => exact List.mem_cons_of_mem _ (ih _ _)

/-! ## What a plan does -/

/-- **The deeds of a plan** before a graph, whatever the graph's own clock shows, and its outcome. -/
structure Does (now : Instant) (p : Plan α) (g : Graph) (ds : List Deed)
    (r : Except IngestError α) : Prop where
  run : ∀ {τ : Type} {serve : Server τ} {view : τ → Graph} (_ : serve.Answers view) (s : τ), view s = g →
    (p.run serve s).1 = r ∧ view (p.run serve s).2 = Deed.performAll now ds g
  ready : Deed.AreReady now ds g
  trail : ∀ t, ∀ x ∈ p.trail (Graph.server t) g,
    ∃ pre, pre <+: ds ∧ x = Deed.performAll now pre g

namespace Does

variable {now : Instant} {g : Graph} {ds ds' : List Deed} {a : α}

theorem run_server {p : Plan α} {r : Except IngestError α} (h : p.Does now g ds r) (t : Instant) :
    p.run (Graph.server t) g = (r, Deed.performAll now ds g) := by
  have hserve : (Graph.server t).Answers id := fun c s => ⟨t, rfl, rfl⟩
  obtain ⟨hr, hv⟩ := h.run hserve g rfl
  exact Prod.ext hr hv

theorem done (now : Instant) (g : Graph) (a : α) : (done a).Does now g [] (.ok a) :=
  ⟨fun _ _ hs => ⟨rfl, hs⟩, trivial, fun _ _ h => absurd h List.not_mem_nil⟩

theorem fail (now : Instant) (g : Graph) (e : IngestError) :
    (fail e : Plan α).Does now g [] (.error e) :=
  ⟨fun _ _ hs => ⟨rfl, hs⟩, trivial, fun _ _ h => absurd h List.not_mem_nil⟩

theorem ask {c : Call} {a : c.Answer} (h : ∀ t, g.apply t c = .ok (a, Deed.performAll now ds g))
    (hr : Deed.AreReady now ds g) : (ask c).Does now g ds (.ok a) where
  run := by
    intro τ serve view ha s hs
    obtain ⟨t, hr, hv⟩ := ha c s
    rw [hs, Graph.serve_of_ok (h t)] at hr hv
    rw [run_ask]
    generalize serve c s = answer at hr hv ⊢
    obtain ⟨r, s'⟩ := answer
    subst hr
    exact ⟨rfl, hv⟩
  ready := hr
  trail := by
    intro t x hx
    rw [Plan.ask, Plan.trail, Graph.server, Graph.serve_of_ok (h t)] at hx
    exact ⟨ds, List.prefix_rfl, List.mem_singleton.1 hx⟩

theorem bind {p : Plan α} {f : α → Plan β} {r : Except IngestError β} (h : p.Does now g ds (.ok a))
    (h' : (f a).Does now (Deed.performAll now ds g) ds' r) : (p >>= f).Does now g (ds ++ ds') r where
  run := by
    intro τ serve view ha s hs
    obtain ⟨hr, hv⟩ := h.run ha s hs
    rw [run_bind, Deed.performAll_append]
    generalize p.run serve s = ended at hr hv ⊢
    obtain ⟨r', s'⟩ := ended
    subst hr
    exact h'.run ha s' hv
  ready := Deed.areReady_append.2 ⟨h.ready, h'.ready⟩
  trail := by
    intro t x hx
    rw [trail_bind, h.run_server] at hx
    rcases List.mem_append.1 hx with hx | hx
    · obtain ⟨pre, hpre, rfl⟩ := h.trail t x hx
      exact ⟨pre, hpre.trans (List.prefix_append _ _), rfl⟩
    · obtain ⟨pre, hpre, rfl⟩ := h'.trail t x hx
      exact ⟨ds ++ pre, (List.prefix_append_right_inj ds).2 hpre, (Deed.performAll_append ..).symm⟩

/-- What follows a plan that fails is not reached. -/
theorem stop {p : Plan α} {f : α → Plan β} {e : IngestError} (h : p.Does now g ds (.error e)) :
    (p >>= f).Does now g ds (.error e) where
  run := by
    intro τ serve view ha s hs
    obtain ⟨hr, hv⟩ := h.run ha s hs
    rw [run_bind]
    generalize p.run serve s = ended at hr hv ⊢
    obtain ⟨r', s'⟩ := ended
    subst hr
    exact ⟨rfl, hv⟩
  ready := h.ready
  trail := by
    intro t x hx
    rw [trail_bind, h.run_server, List.append_nil] at hx
    exact h.trail t x hx

/-- A plan that begins with a listing. -/
theorem list {c : Call} {f : c.Answer → Plan β} {r : Except IngestError β} {a : c.Answer}
    (h : ∀ t, g.apply t c = .ok (a, g)) (h' : (f a).Does now g ds r) :
    (Plan.ask c >>= f).Does now g ds r := by
  have hask : (Plan.ask c).Does now g [] (.ok a) := .ask h trivial
  exact hask.bind h'

/-- A plan that goes on with what it has. -/
theorem found {f : α → Plan β} {r : Except IngestError β} (h : (f a).Does now g ds r) :
    (Plan.done a >>= f).Does now g ds r := h

/-- A plan whose last call does one deed. -/
theorem write {c : Call} {d : Deed} {a : c.Answer} (h : ∀ t, g.apply t c = .ok (a, d.perform now g))
    (hr : d.IsReady g) : (Plan.ask c).Does now g [d] (.ok a) := by
  have hall : ∀ t, g.apply t c = .ok (a, Deed.performAll now [d] g) := h
  exact .ask hall ⟨hr, trivial⟩

/-- A plan that answers with what it has found. -/
theorem answer {p : Plan α} {f : α → Plan β} {b : β} (h : p.Does now g ds (.ok a))
    (hf : f a = .done b) : (p >>= f).Does now g ds (.ok b) := by
  have hb : (f a).Does now (Deed.performAll now ds g) [] (.ok b) := by
    rw [hf]
    exact .done _ _ b
  have hall := h.bind hb
  rwa [List.append_nil] at hall

/-- A deed that there is nothing to do for needs no call. -/
theorem skip {p : Plan α} {d : Deed} {r : Except IngestError α} (h : p.Does now g ds r)
    (hd : d.perform now g = g) (hr : d.IsReady g) : p.Does now g (d :: ds) r where
  run := by
    intro τ serve view ha s hs
    rw [Deed.performAll_cons, hd]
    exact h.run ha s hs
  ready := by
    refine ⟨hr, ?_⟩
    rw [hd]
    exact h.ready
  trail := by
    intro t x hx
    obtain ⟨pre, hpre, rfl⟩ := h.trail t x hx
    refine ⟨d :: pre, (List.prefix_cons_inj d).2 hpre, ?_⟩
    rw [Deed.performAll_cons, hd]

theorem rescue {p : Plan α} (h : p.Does now g ds (.ok a)) (f : IngestError → Plan α) :
    (p.rescue f).Does now g ds (.ok a) where
  run := by
    intro τ serve view ha s hs
    obtain ⟨hr, hv⟩ := h.run ha s hs
    rw [run_rescue]
    generalize p.run serve s = ended at hr hv ⊢
    obtain ⟨r', s'⟩ := ended
    subst hr
    exact ⟨rfl, hv⟩
  ready := h.ready
  trail := by
    intro t x hx
    rw [trail_rescue, h.run_server, List.append_nil] at hx
    exact h.trail t x hx

end Does

/-! ## Failures on the way -/

/-- **A plan before a graph some of whose calls fail** with errors of a kind, without reaching it. -/
inductive Falters (t : Instant) (kind : GraphError → Prop) :
    Plan α → Graph → Except IngestError α → Graph → Prop
  | done (a : α) (g : Graph) : Falters t kind (.done a) g (.ok a) g
  | fail (e : IngestError) (g : Graph) : Falters t kind (.fail e) g (.error e) g
  | answered {c : Call} {next : Except GraphError c.Answer → Plan α} {g g' : Graph}
      {r : Except IngestError α} (h : Falters t kind (next (g.serve t c).1) (g.serve t c).2 r g') :
      Falters t kind (.call c next) g r g'
  | refused {c : Call} {next : Except GraphError c.Answer → Plan α} {g g' : Graph}
      {r : Except IngestError α} {e : GraphError} (he : kind e)
      (h : Falters t kind (next (.error e)) g r g') : Falters t kind (.call c next) g r g'

/-- **A plan that gives up at a call that fails** with an error of a kind. -/
def GivesUp (kind : GraphError → Prop) : Plan α → Prop
  | .done _ => True
  | .fail _ => True
  | .call _ next =>
    (∀ e, kind e → next (.error e) = .fail (.graph e)) ∧ ∀ r, (next r).GivesUp kind

section Failures

variable {kind : GraphError → Prop} {t : Instant}

theorem givesUp_ask (c : Call) : (ask c).GivesUp kind := by
  refine ⟨fun _ _ => rfl, fun r => ?_⟩
  cases r <;> exact trivial

theorem GivesUp.bind {p : Plan α} {f : α → Plan β} (hp : p.GivesUp kind) (hf : ∀ a, (f a).GivesUp kind) :
    (p >>= f).GivesUp kind := by
  rw [bind_eq]
  induction p with
  | done a => exact hf a
  | fail e => exact trivial
  | call c next ih =>
    exact ⟨fun e he => congrArg (Plan.bind · f) (hp.1 e he), fun r => ih r (hp.2 r)⟩

theorem GivesUp.rescue {p : Plan α} {f : IngestError → Plan α} (hp : p.GivesUp kind)
    (hf : ∀ e, (f e).GivesUp kind) (he : ∀ e, kind e → f (.graph e) = .fail (.graph e)) :
    (p.rescue f).GivesUp kind := by
  induction p with
  | done a => exact trivial
  | fail e => exact hf e
  | call c next ih =>
    exact ⟨fun e h => (congrArg (Plan.rescue f) (hp.1 e h)).trans (he e h), fun r => ih r (hp.2 r)⟩

/-- **A plan that gives up ends as it would without failures, or at a state on its way.** -/
theorem Falters.outcome {p : Plan α} {g g' : Graph} {r : Except IngestError α}
    (h : p.Falters t kind g r g') (hp : p.GivesUp kind) :
    p.run (Graph.server t) g = (r, g') ∨
      ((∃ e, kind e ∧ r = .error (.graph e)) ∧ g' ∈ g :: p.trail (Graph.server t) g) := by
  induction h with
  | done a g => exact .inl rfl
  | fail e g => exact .inl rfl
  | answered _ ih =>
    rcases ih (hp.2 _) with hrun | ⟨he, hmem⟩
    · exact .inl hrun
    · exact .inr ⟨he, List.mem_cons_of_mem _ hmem⟩
  | @refused c next g g' r e he h _ =>
    rw [hp.1 e he] at h
    cases h
    exact .inr ⟨⟨e, he, rfl⟩, List.mem_cons_self⟩

end Failures

end Plan

end AssetGraph
