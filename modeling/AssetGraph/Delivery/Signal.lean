/-!
# Signals

What asks a run to stop.  A signal is triggered from the time at which somebody fired it, and from its
deadline on; times are milliseconds of a clock that only goes forward.  `isTriggered` asks, `resolves?`
waits.  A `Channel` is a trigger that may be fired or dropped, and the signals that hang on it.
-/
namespace AssetGraph

/-- **A signal**: when it was fired, and its deadline. -/
structure Signal where
  firedAt : Option Nat := none
  deadline : Option Nat := none
deriving DecidableEq, Repr

namespace Signal

/-- The earlier of two times, either of which may never come. -/
def earlier : Option Nat → Option Nat → Option Nat
  | some a, some b => some (min a b)
  | some a, none => some a
  | none, b => b

/-- **Whether the signal asks to stop.** -/
def isTriggered (s : Signal) (now : Nat) : Bool :=
  s.firedAt.any (· ≤ now) || s.deadline.any (· ≤ now)

/-- Fires the signal now, if it has not been fired before. -/
def fire (s : Signal) (now : Nat) : Signal := { s with firedAt := earlier s.firedAt (some now) }

/-- **When a wait for the signal ends** that starts now and is given up after `bound`; nothing if it
is given up. -/
def resolves? (s : Signal) (now bound : Nat) : Option Nat :=
  ((earlier s.firedAt s.deadline).map (max now)).filter (· ≤ now + bound)

theorem any_earlier (a b : Option Nat) (now : Nat) :
    (earlier a b).any (· ≤ now) = (a.any (· ≤ now) || b.any (· ≤ now)) := by
  cases a with
  | none => simp [earlier]
  | some a =>
    cases b with
    | none => simp [earlier]
    | some b =>
      show decide (min a b ≤ now) = (decide (a ≤ now) || decide (b ≤ now))
      rw [Bool.eq_iff_iff]
      simp only [decide_eq_true_eq, Bool.or_eq_true]
      omega

/-- Firing triggers at once. -/
theorem isTriggered_fire (s : Signal) (now : Nat) : (s.fire now).isTriggered now = true := by
  simp [fire, isTriggered, any_earlier]

/-- What is triggered stays so. -/
theorem isTriggered_mono {s : Signal} {now later : Nat} (h : s.isTriggered now = true)
    (hl : now ≤ later) : s.isTriggered later = true := by
  obtain ⟨a, b⟩ := s
  rcases a with _ | a <;> rcases b with _ | b <;> simp_all [isTriggered] <;> omega

end Signal

/-- **A trigger and the signals on it**, at the present time. -/
structure Channel where
  now : Nat := 0
  firedAt : Option Nat := none
  /-- Whether the trigger is still there to be fired. -/
  isHeld : Bool := true
  deadlines : List (Option Nat) := [none]
deriving DecidableEq, Repr

namespace Channel

inductive Step where
  | trigger
  | drop
  | clone (signal : Nat)
  | withDeadline (signal ms : Nat)
  | advance (ms : Nat)
  | ask (signal : Nat)
  | wait (signal ms : Nat)
deriving DecidableEq, Repr

inductive Reply where
  | nothing
  | triggered (answer : Bool)
  | waited (fired : Bool) (elapsed : Nat)
deriving DecidableEq, Repr

/-- One of the signals. -/
def signal (ch : Channel) (i : Nat) : Signal :=
  { firedAt := ch.firedAt, deadline := (ch.deadlines[i]?).join }

/-- **What a step answers**, and the channel behind it.  A deadline takes the place of an earlier one;
waiting lets time pass. -/
def step (ch : Channel) : Step → Reply × Channel
  | .trigger => (.nothing,
      if ch.isHeld then { ch with firedAt := Signal.earlier ch.firedAt (some ch.now) } else ch)
  | .drop => (.nothing, { ch with isHeld := false })
  | .clone i => (.nothing, { ch with deadlines := ch.deadlines ++ [(ch.signal i).deadline] })
  | .withDeadline i ms =>
    (.nothing, { ch with deadlines := ch.deadlines.set i (some (ch.now + ms)) })
  | .advance ms => (.nothing, { ch with now := ch.now + ms })
  | .ask i => (.triggered ((ch.signal i).isTriggered ch.now), ch)
  | .wait i ms =>
    match (ch.signal i).resolves? ch.now ms with
    | some t => (.waited true (t - ch.now), { ch with now := t })
    | none => (.waited false ms, { ch with now := ch.now + ms })

/-- The answers to a list of steps, and the channel behind the last. -/
def run (ch : Channel) : List Step → List Reply × Channel
  | [] => ([], ch)
  | s :: ss =>
    let (r, ch') := ch.step s
    let (rs, ch'') := run ch' ss
    (r :: rs, ch'')

end Channel

end AssetGraph
