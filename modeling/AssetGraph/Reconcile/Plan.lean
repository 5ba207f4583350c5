import AssetGraph.Error
import AssetGraph.Graph.Basic
/-!
# Plans

What the indexer does to a graph is a plan: calls, each with what follows from its answer, until the
plan is done or fails.  A plan knows nothing of who answers.  `Plan.run` puts a server behind it, which
may be a graph in memory, one that fails on purpose, or one that keeps a list of what it was asked.
-/
namespace AssetGraph

/-- **A plan**: done, failed, or a call and what follows from its outcome. -/
inductive Plan (α : Type) : Type where
  | done (a : α)
  | fail (e : IngestError)
  | call (c : Call) (next : Except GraphError c.Answer → Plan α)

/-- **Who answers calls**, with a state of its own. -/
abbrev Server (σ : Type) : Type := (c : Call) → σ → Except GraphError c.Answer × σ

namespace Plan

variable {α β σ : Type}

def bind : Plan α → (α → Plan β) → Plan β
  | done a, f => f a
  | fail e, _ => fail e
  | call c next, f => call c fun r => (next r).bind f

instance : Monad Plan where
  pure := done
  bind := bind

/-- A call whose error is the plan's. -/
def ask (c : Call) : Plan c.Answer :=
  call c fun
    | .ok a => done a
    | .error e => fail (.graph e)

/-- **Another plan in place of a failure.** -/
def rescue (f : IngestError → Plan α) : Plan α → Plan α
  | done a => done a
  | fail e => f e
  | call c next => call c fun r => (next r).rescue f

/-- **The outcome of a plan** before a server, and the server's state behind it. -/
def run (serve : Server σ) : Plan α → σ → Except IngestError α × σ
  | done a, s => (.ok a, s)
  | fail e, s => (.error e, s)
  | call c next, s =>
    let (r, s') := serve c s
    (next r).run serve s'

/-- The calls of a plan before a server. -/
def calls (serve : Server σ) : Plan α → σ → List Call
  | done _, _ => []
  | fail _, _ => []
  | call c next, s =>
    let (r, s') := serve c s
    c :: (next r).calls serve s'

@[simp] theorem run_done (serve : Server σ) (a : α) (s : σ) : (done a).run serve s = (.ok a, s) := rfl

@[simp] theorem run_fail (serve : Server σ) (e : IngestError) (s : σ) :
    (fail e : Plan α).run serve s = (.error e, s) := rfl

@[simp] theorem run_call (serve : Server σ) (c : Call) (next : Except GraphError c.Answer → Plan α)
    (s : σ) : (call c next).run serve s = (next (serve c s).1).run serve (serve c s).2 := rfl

@[simp] theorem pure_eq (a : α) : (pure a : Plan α) = done a := rfl

theorem bind_eq (p : Plan α) (f : α → Plan β) : p >>= f = p.bind f := rfl

/-- A plan runs on from the state that the first part leaves. -/
theorem run_bind (serve : Server σ) (p : Plan α) (f : α → Plan β) (s : σ) :
    (p >>= f).run serve s =
      match p.run serve s with
      | (.ok a, s') => (f a).run serve s'
      | (.error e, s') => (.error e, s') := by
  rw [bind_eq]
  induction p generalizing s with
  | done a => rfl
  | fail e => rfl
  | call c next ih => exact ih _ _

theorem run_rescue (serve : Server σ) (p : Plan α) (f : IngestError → Plan α) (s : σ) :
    (p.rescue f).run serve s =
      match p.run serve s with
      | (.ok a, s') => (.ok a, s')
      | (.error e, s') => (f e).run serve s' := by
  induction p generalizing s with
  | done a => rfl
  | fail e => rfl
  | call c next ih => exact ih _ _

theorem run_ask (serve : Server σ) (c : Call) (s : σ) :
    (ask c).run serve s =
      match serve c s with
      | (.ok a, s') => (.ok a, s')
      | (.error e, s') => (.error (.graph e), s') := by
  rw [ask, run_call]
  rcases serve c s with ⟨_ | _, s'⟩ <;> rfl

end Plan

/-- **A graph in memory as a server**, at a time that stands still. -/
def Graph.server (now : Instant) : Server Graph := fun c g => g.serve now c

end AssetGraph
