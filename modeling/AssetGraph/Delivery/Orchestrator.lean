import AssetGraph.Delivery.Consumer
import AssetGraph.Reconcile.Load
/-!
# The indexer's run

An orchestrator reads events from a topic and loads each into a graph.  A run that fails is started
again after a delay, from the last committed message, unless the signal cuts the delay short; without
a delay the failure is the outcome.  `Stats` counts what was handled.
-/
namespace AssetGraph

/-- **How many messages were handled**, and to what end. -/
structure Stats where
  handled : Nat := 0
  skipped : Nat := 0
  upserts : Nat := 0
  retirements : Nat := 0
deriving DecidableEq, Repr

/-- Counts a message that was handled without error. -/
def Stats.count (stats : Stats) : Option Event → Stats
  | none => { stats with handled := stats.handled + 1, skipped := stats.skipped + 1 }
  | some (.upsert _) => { stats with handled := stats.handled + 1, upserts := stats.upserts + 1 }
  | some (.retire _) =>
    { stats with handled := stats.handled + 1, retirements := stats.retirements + 1 }

/-- **How an indexer is set up.** -/
structure Orchestrator where
  /-- The topic that it reads. -/
  entity : String := "assets-v0"
  /-- The delay before a failed run is started again; zero for no second start. -/
  retryMs : Nat := 5000
  pollMs : Nat := defaultPoll
  /-- The major version of the events that it understands. -/
  major : Nat := 0
  /-- The key of the annotations that name accounts. -/
  accountKey : String := "discovery/aws/account"
deriving DecidableEq, Repr

/-- What is handled is skipped, an upsert or a retirement. -/
def Stats.IsBalanced (stats : Stats) : Prop :=
  stats.handled = stats.skipped + stats.upserts + stats.retirements

theorem Stats.isBalanced_count {stats : Stats} (h : stats.IsBalanced) (e : Option Event) :
    (stats.count e).IsBalanced := by
  rcases e with _ | _ | _ <;> simp only [IsBalanced, count] at h ⊢ <;> omega

/-- **Where the events go**: a server of calls, and the wall clock. -/
structure Destination (σ : Type) where
  serve : Server σ
  now : σ → Instant

namespace Orchestrator

variable {σ : Type}

/-- Loads the event of a message, where it has one. -/
def load (o : Orchestrator) (d : Destination σ) (s : σ) : Option Event → Outcome × σ
  | none => (.ok (), s)
  | some event => (event.plan o.accountKey (d.now s)).run d.serve s

/-- **Handles a message**: reads its event, loads it and counts it. -/
def handler (o : Orchestrator) (d : Destination σ) : Handler (Stats × σ) := fun m (stats, s) =>
  match m.event? o.major with
  | .error e => { result := .error e, state := (stats, s) }
  | .ok event =>
    match o.load d s event with
    | (.error e, s') => { result := .error e, state := (stats, s') }
    | (.ok (), s') => { result := .ok (), state := (stats.count event, s') }

/-- **Runs a handler on the orchestrator's topic**, again after each failure; no outcome if neither the
attempts nor the turns of one suffice. -/
def runWith {τ : Type} (o : Orchestrator) (h : Handler τ) (limit : Nat) :
    (attempts : Nat) → Session τ → Option Outcome × Session τ
  | 0, s => (none, s)
  | attempts + 1, s =>
    match Consumer.process h o.entity o.pollMs limit s with
    | (none, s') => (none, s')
    | (some (.ok ()), s') => (some (.ok ()), s')
    | (some (.error e), s') =>
      if o.retryMs = 0 then (some (.error e), s')
      else
        match s'.interrupted? o.retryMs with
        | some t => (some (.ok ()), { s' with clock := t })
        | none => runWith o h limit attempts { s' with clock := s'.clock + o.retryMs }

/-- **More turns and attempts keep an outcome** that some reach. -/
theorem runWith_of_le {τ : Type} {o : Orchestrator} {h : Handler τ} {m m' n n' : Nat}
    {s s' : Session τ} {outcome : Outcome} (hr : o.runWith h m n s = (some outcome, s'))
    (hm : m ≤ m') (hn : n ≤ n') : o.runWith h m' n' s = (some outcome, s') := by
  induction n generalizing s n' with
  | zero => simp [runWith] at hr
  | succ n ih =>
    obtain ⟨k, rfl⟩ : ∃ k, n' = k + 1 := ⟨n' - 1, by omega⟩
    rw [runWith] at hr ⊢
    rcases hp : Consumer.process h o.entity o.pollMs m s with ⟨_ | ended, t⟩
    · simp [hp] at hr
    · rw [hp] at hr
      rw [Consumer.process_of_le hp hm]
      rcases ended with e | ⟨⟩
      · by_cases hd : o.retryMs = 0
        · simpa [hd] using hr
        · simp only [hd, if_false] at hr ⊢
          rcases hw : t.interrupted? o.retryMs with _ | w
          · simp only [hw] at hr ⊢
            exact ih hr (by omega)
          · simpa [hw] using hr
      · exact hr

/-- **Runs the indexer.** -/
def run (o : Orchestrator) (d : Destination σ) (limit attempts : Nat) (s : Session (Stats × σ)) :
    Option Outcome × Session (Stats × σ) :=
  o.runWith (o.handler d) limit attempts s

end Orchestrator

end AssetGraph
