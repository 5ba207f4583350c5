import AssetGraph.Scenario.Scene
/-!
# Worlds

A scene, a broker and at most one indexer, which steps act on one after the other.  `World.step` says
what a step answers and what it leaves.
-/
namespace AssetGraph

/-- **When a run shall stop**: its conditions combine. -/
structure Stop where
  /-- When a poll finds nothing. -/
  whenDrained : Bool := false
  /-- At once. -/
  atOnce : Bool := false
  deadlineMs : Option Nat := none
  /-- When somebody fires the signal so long after the start. -/
  afterMs : Option Nat := none
deriving DecidableEq, Repr

def Stop.signal (s : Stop) : Signal :=
  { firedAt := if s.atOnce then some 0 else s.afterMs, deadline := s.deadlineMs }

/-- A run that starts now. -/
def Stop.session {σ : Type} (stop : Stop) (broker : Broker) (state : σ) : Session σ :=
  { broker, signal := stop.signal, firesWhenDrained := stop.whenDrained, state }

structure World where
  scene : Scene
  broker : Broker := {}
  /-- The indexer and what it has counted. -/
  indexer : Option (Orchestrator × Stats) := none
  /-- The key of the annotations that name accounts, where an event is loaded by a step. -/
  accountKey : String := "discovery/aws/account"

namespace World

inductive Step where
  | setClock (now : Instant)
  | call (c : Call)
  | seedAsset (a : Asset)
  | seedTeam (t : Team)
  | seedOwns (o : Owns)
  | seedParent (e : ParentOf)
  | inspect
  | load (e : Event)
  | failCall (f : Fault)
  | publish (topic : String) (key : Bytes) (value : Option Bytes) (metadata : List (String × Bytes))
      (arrival : Option Instant)
  | subscribe (topic : String)
  | storePosition (p : Position)
  | rewind (topic : String) (offset : Int)
  | failNextPoll (reason : String)
  | failNextStore (reason : String)
  | committed (topic : String)
  | subscriptions
  | poll (timeoutMs : Nat)
  | process (entity : String) (pollMs : Nat) (stop : Stop) (failures : List (Bytes × IngestError))
  | orchestrate (o : Orchestrator)
  | run (stop : Stop)

inductive Reply where
  | done
  | answered (c : Call) (result : Except GraphError c.Answer)
  | graph (g : Graph)
  | loaded (outcome : Outcome) (calls : List Call)
  | published (p : Position)
  | stored (outcome : Outcome)
  | offset (committed : Option Int)
  | count (n : Nat)
  | polled (result : Except IngestError (Option Message)) (elapsed : Nat)
  | processed (outcome : Option Outcome) (seen : List Bytes) (elapsed : Nat)
  | ran (outcome : Option Outcome) (elapsed : Nat) (stats : Stats) (calls : List Call)

/-- How many turns a run is given, and how often it may start again. -/
def limit : Nat := 100000000

def mapGraph (w : World) (f : Graph → Graph) : World :=
  { w with scene := { w.scene with graph := f w.scene.graph } }

def mapBroker (w : World) (f : Broker → Broker) : World := { w with broker := f w.broker }

/-- A handler that notes the keys of messages and fails for some of them. -/
def noteKeys (failures : List (Bytes × IngestError)) : Handler (List Bytes) := fun m seen =>
  { result :=
      match failures.lookup m.key with
      | some e => .error e
      | none => .ok ()
    state := seen ++ [m.key] }

/-- The indexer's handler, in a scene whose wall clock goes with the messages. -/
def sceneHandler (o : Orchestrator) : Handler (Stats × Scene) := fun m (stats, s) =>
  o.handler Scene.destination m (stats, s.deliver m)

/-- The broker's answer to a poll, and how long it takes when nothing is there. -/
def poll (w : World) (timeoutMs : Nat) : Reply × World :=
  match w.broker.poll with
  | (.message m, broker) => (.polled (.ok (some m)) 0, { w with broker })
  | (.nothing, broker) => (.polled (.ok none) timeoutMs, { w with broker })
  | (.failed reason, broker) => (.polled (.error (.broker reason)) 0, { w with broker })

def run (w : World) (stop : Stop) : Reply × World :=
  let (o, stats) := w.indexer.getD ({}, {})
  let (outcome, s) :=
    o.runWith (sceneHandler o) limit limit (stop.session w.broker (stats, w.scene.fresh))
  let (stats, scene) := s.state
  (.ran outcome s.clock stats scene.calls,
    { w with scene, broker := s.broker, indexer := some (o, stats) })

/-- **What a step answers**, and the world behind it. -/
def step (w : World) : Step → Reply × World
  | .setClock now => (.done, { w with scene := { w.scene with now } })
  | .call c =>
    let (r, graph) := w.scene.graph.serve w.scene.now c
    (.answered c r, { w with scene := { w.scene with graph } })
  | .seedAsset a => (.done, w.mapGraph fun g => { g with assets := g.assets ++ [a] })
  | .seedTeam t => (.done, w.mapGraph fun g => { g with teams := g.teams ++ [t] })
  | .seedOwns o => (.done, w.mapGraph fun g => { g with owns := g.owns ++ [o] })
  | .seedParent e => (.done, w.mapGraph fun g => { g with parents := g.parents ++ [e] })
  | .inspect => (.graph w.scene.graph, w)
  | .load e =>
    let (outcome, scene) := w.scene.fresh.load w.accountKey e
    (.loaded outcome scene.calls, { w with scene })
  | .failCall f => (.done, { w with scene := { w.scene with faults := w.scene.faults ++ [f] } })
  | .publish topic key value metadata arrival =>
    let (p, broker) := w.broker.publish topic key value metadata
    let arrivals := (arrival.map (p, ·)).toList ++ w.scene.arrivals
    (.published p, { w with broker, scene := { w.scene with arrivals } })
  | .subscribe topic => (.done, w.mapBroker (·.subscribe topic))
  | .storePosition p =>
    match w.broker.storePosition p with
    | (.ok (), broker) => (.stored (.ok ()), { w with broker })
    | (.error reason, broker) => (.stored (.error (.broker reason)), { w with broker })
  | .rewind topic offset => (.done, w.mapBroker (·.rewind topic offset))
  | .failNextPoll reason => (.done, w.mapBroker (·.failNextPoll reason))
  | .failNextStore reason => (.done, w.mapBroker (·.failNextStore reason))
  | .committed topic => (.offset (w.broker.committed.get? topic), w)
  | .subscriptions => (.count w.broker.subscriptions, w)
  | .poll timeoutMs => w.poll timeoutMs
  | .process entity pollMs stop failures =>
    let (outcome, s) :=
      Consumer.process (noteKeys failures) entity pollMs limit (stop.session w.broker [])
    (.processed outcome s.state s.clock, { w with broker := s.broker })
  | .orchestrate o => (.done, { w with indexer := some (o, {}) })
  | .run stop => w.run stop

/-- The answers to a list of steps. -/
def replies (w : World) : List Step → List Reply
  | [] => []
  | s :: ss =>
    let (r, w') := w.step s
    r :: replies w' ss

end World

end AssetGraph
