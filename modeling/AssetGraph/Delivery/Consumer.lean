import AssetGraph.Delivery.Broker
import AssetGraph.Delivery.Signal
import AssetGraph.Error
/-!
# Reading a topic

A consumer hands the messages of a topic to a handler, one by one, and commits each after the handler
has succeeded, so that a message that was not handled is delivered again.  The signal is asked before
every poll.  `turn` is one round of that; `process` subscribes and takes turns until one ends the run,
or for as many as it is given.  Turns go on from where earlier ones leave off (`turns_add`), so more of
them keep an outcome that some reach (`turns_of_le`).
-/
namespace AssetGraph

/-- **What handling a message comes to.** -/
structure Handled (σ : Type) where
  result : Except IngestError Unit
  /-- The handler's state afterwards. -/
  state : σ
  /-- Whether the handler fires the signal. -/
  fires : Bool := false

/-- **A handler of messages**, with a state of its own. -/
abbrev Handler (σ : Type) : Type := Message → σ → Handled σ

/-- **What a run works on**: the broker, the time since it started, its signal, and the handler's
state. -/
structure Session (σ : Type) where
  broker : Broker
  clock : Nat := 0
  signal : Signal := {}
  /-- Whether a poll that finds nothing fires the signal. -/
  firesWhenDrained : Bool := false
  /-- Whether the signal comes first when it is triggered just as a delay ends, for each time of that. -/
  signalFirst : Nat → Bool := fun _ => true
  state : σ

namespace Session

variable {σ : Type}

def isStopped (s : Session σ) : Bool := s.signal.isTriggered s.clock

def fire (s : Session σ) : Session σ := { s with signal := s.signal.fire s.clock }

/-- Waits in vain for a message. -/
def idle (s : Session σ) (ms : Nat) : Session σ :=
  let s := if s.firesWhenDrained then s.fire else s
  { s with clock := s.clock + ms }

/-- **When the signal cuts a delay short** that begins now; nothing if the whole delay passes first.  Neither
comes first by itself when both come at one time. -/
def interrupted? (s : Session σ) (ms : Nat) : Option Nat :=
  (s.signal.resolves? s.clock ms).filter fun t => t < s.clock + ms || s.signalFirst t

/-- A signal that is neither fired nor has a deadline cuts nothing short. -/
theorem interrupted?_of_signal_eq {s : Session σ} (h : s.signal = {}) (ms : Nat) : s.interrupted? ms = none := by
  rw [interrupted?, h]
  rfl

def subscribe (s : Session σ) (entity : String) : Session σ :=
  { s with broker := s.broker.subscribe entity }

/-- The handler's part of a turn: its state, and its wish to stop. -/
def afterHandling (s : Session σ) (h : Handled σ) : Session σ :=
  let s := { s with state := h.state }
  if h.fires then s.fire else s

end Session

/-- How long a poll waits unless told otherwise, in milliseconds. -/
def defaultPoll : Nat := 100

/-- **How a run ends.** -/
abbrev Outcome : Type := Except IngestError Unit

namespace Consumer

variable {σ : Type}

def readingFailed (entity reason : String) : IngestError :=
  .broker s!"error reading message on {entity}: {reason}"

def storingFailed (entity reason : String) : IngestError :=
  .broker s!"error storing offset on {entity}: {reason}"

/-- Commits a message that has been handled. -/
def commit (entity : String) (m : Message) (s : Session σ) : Option Outcome × Session σ :=
  match s.broker.storePosition m.position with
  | (.ok (), broker) => (none, { s with broker })
  | (.error reason, broker) => (some (.error (storingFailed entity reason)), { s with broker })

/-- Handles a message and commits it if that succeeds. -/
def deliver (handler : Handler σ) (entity : String) (m : Message) (s : Session σ) :
    Option Outcome × Session σ :=
  let h := handler m s.state
  match h.result with
  | .error e => (some (.error (.processing m.position e)), s.afterHandling h)
  | .ok () => commit entity m (s.afterHandling h)

/-- **One turn**: the outcome, if it ends the run, and what the run works on afterwards. -/
def turn (handler : Handler σ) (entity : String) (pollMs : Nat) (s : Session σ) :
    Option Outcome × Session σ :=
  if s.isStopped then (some (.ok ()), s)
  else
    match s.broker.poll with
    | (.failed reason, broker) =>
      (some (.error (readingFailed entity reason)), { s with broker })
    | (.nothing, broker) => (none, { s with broker }.idle pollMs)
    | (.message m, broker) => deliver handler entity m { s with broker }

/-- Takes turns until one ends the run; no outcome if none of them does. -/
def turns (handler : Handler σ) (entity : String) (pollMs : Nat) :
    (limit : Nat) → Session σ → Option Outcome × Session σ
  | 0, s => (none, s)
  | limit + 1, s =>
    match turn handler entity pollMs s with
    | (some outcome, s') => (some outcome, s')
    | (none, s') => turns handler entity pollMs limit s'

theorem turns_zero (handler : Handler σ) (entity : String) (pollMs : Nat) (s : Session σ) :
    turns handler entity pollMs 0 s = (none, s) := rfl

theorem turns_succ (handler : Handler σ) (entity : String) (pollMs limit : Nat) (s : Session σ) :
    turns handler entity pollMs (limit + 1) s =
      match turn handler entity pollMs s with
      | (some outcome, s') => (some outcome, s')
      | (none, s') => turns handler entity pollMs limit s' := rfl

/-- Turns go on from where the first of them leave off. -/
theorem turns_add (handler : Handler σ) (entity : String) (pollMs m n : Nat) (s : Session σ) :
    turns handler entity pollMs (m + n) s =
      match turns handler entity pollMs m s with
      | (some outcome, s') => (some outcome, s')
      | (none, s') => turns handler entity pollMs n s' := by
  induction m generalizing s with
  | zero => rw [Nat.zero_add, turns_zero]
  | succ m ih =>
    rw [Nat.succ_add, turns_succ, turns_succ]
    rcases turn handler entity pollMs s with ⟨_ | outcome, s'⟩
    · exact ih s'
    · rfl

/-- **More turns keep an outcome** that some reach. -/
theorem turns_of_le {handler : Handler σ} {entity : String} {pollMs m n : Nat} {s s' : Session σ}
    {outcome : Outcome} (h : turns handler entity pollMs m s = (some outcome, s')) (hmn : m ≤ n) :
    turns handler entity pollMs n s = (some outcome, s') := by
  rw [← Nat.add_sub_cancel' hmn, turns_add, h]

/-- **Reads a topic from its committed offset** until the signal is triggered or something fails. -/
def process (handler : Handler σ) (entity : String) (pollMs limit : Nat) (s : Session σ) :
    Option Outcome × Session σ :=
  turns handler entity pollMs limit (s.subscribe entity)

theorem process_of_le {handler : Handler σ} {entity : String} {pollMs m n : Nat} {s s' : Session σ}
    {outcome : Outcome} (h : process handler entity pollMs m s = (some outcome, s')) (hmn : m ≤ n) :
    process handler entity pollMs n s = (some outcome, s') :=
  turns_of_le h hmn

end Consumer

end AssetGraph
