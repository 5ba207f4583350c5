import AssetGraph.Delivery.Orchestrator
/-!
# Scenes

A graph under observation: a wall clock that stands where it is set, failures that wait for a call of
their kind, and the list of the calls that were made.  `Scene.serve` answers calls as the graph does,
or with the failure that is due; a call that fails so does not reach the graph.
-/
namespace AssetGraph

/-- **A failure that waits for a call** of a kind, and lets some of them pass before. -/
structure Fault where
  method : Call.Method
  skip : Nat := 0
  error : GraphError
deriving DecidableEq, Repr

/-- The error that a call of a kind meets, and the failures that wait on.  The first failure for the
kind is the one that counts. -/
def Fault.meet (method : Call.Method) : List Fault → Option GraphError × List Fault
  | [] => (none, [])
  | f :: fs =>
    if f.method = method then
      match f.skip with
      | 0 => (some f.error, fs)
      | skip + 1 => (none, { f with skip } :: fs)
    else
      let (e, fs') := meet method fs
      (e, f :: fs')

/-- What holds of all failures holds of the one that is met, and of those that wait on. -/
theorem Fault.meet_keeps {P : Call.Method → GraphError → Prop} {fs : List Fault}
    (h : ∀ f ∈ fs, P f.method f.error) (method : Call.Method) :
    (∀ e, (meet method fs).1 = some e → P method e) ∧
      ∀ f ∈ (meet method fs).2, P f.method f.error := by
  induction fs with
  | nil => exact ⟨by rintro _ ⟨⟩, h⟩
  | cons f fs ih =>
    obtain ⟨hf, hrest⟩ := List.forall_mem_cons.1 h
    unfold meet
    by_cases hm : f.method = method
    · subst hm
      rw [if_pos rfl]
      cases f.skip with
      | zero => exact ⟨fun e he => by cases he; exact hf, hrest⟩
      | succ skip => exact ⟨by rintro _ ⟨⟩, List.forall_mem_cons.2 ⟨hf, hrest⟩⟩
    · rw [if_neg hm]
      exact ⟨(ih hrest).1, List.forall_mem_cons.2 ⟨hf, (ih hrest).2⟩⟩

/-- Failures for other kinds of call are not met. -/
theorem Fault.meet_of_forall_ne {fs : List Fault} {method : Call.Method} (h : ∀ f ∈ fs, f.method ≠ method) :
    meet method fs = (none, fs) := by
  induction fs with
  | nil => rfl
  | cons f fs ih =>
    obtain ⟨hf, hrest⟩ := List.forall_mem_cons.1 h
    rw [meet, if_neg hf, ih hrest]

structure Scene where
  graph : Graph := {}
  now : Instant
  faults : List Fault := []
  calls : List Call := []
  /-- What the wall clock shows when a message is delivered. -/
  arrivals : List (Position × Instant) := []

namespace Scene

/-- **Answers a call**, and notes it. -/
def serve : Server Scene := fun c s =>
  let s := { s with calls := s.calls ++ [c] }
  match Fault.meet c.method s.faults with
  | (some e, faults) => (.error e, { s with faults })
  | (none, faults) =>
    let (r, graph) := s.graph.serve s.now c
    (r, { s with faults, graph })

theorem serve_of_none {c : Call} {s : Scene} {faults : List Fault}
    (h : Fault.meet c.method s.faults = (none, faults)) :
    serve c s = ((s.graph.serve s.now c).1,
      { s with calls := s.calls ++ [c], faults, graph := (s.graph.serve s.now c).2 }) := by
  simp only [serve, h]

theorem serve_of_some {c : Call} {s : Scene} {e : GraphError} {faults : List Fault}
    (h : Fault.meet c.method s.faults = (some e, faults)) :
    serve c s = (.error e, { s with calls := s.calls ++ [c], faults }) := by
  simp only [serve, h]

def destination : Destination Scene := { serve, now := Scene.now }

/-- Sets the wall clock to what it shows when the message comes, where that is known. -/
def deliver (s : Scene) (m : Message) : Scene :=
  match s.arrivals.lookup m.position with
  | some now => { s with now }
  | none => s

/-- Forgets the calls. -/
def fresh (s : Scene) : Scene := { s with calls := [] }

/-- **Loads an event** into the graph of the scene. -/
def load (accountKey : String) (event : Event) (s : Scene) : Outcome × Scene :=
  (event.plan accountKey s.now).run serve s

end Scene

end AssetGraph
