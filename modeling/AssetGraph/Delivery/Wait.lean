import AssetGraph.Delivery.Signal
/-!
# Waiting for a signal

How a wait for a signal goes on, one look after another, until it is over or given up.  The trigger and its
signals share a cell.  One half of a wait watches the cell for the trigger to be fired; if it finds that
there is no trigger left to be fired, it stops watching and is never over.  The other half is over at the
deadline.  The wait is over when either half is.
-/
namespace AssetGraph

/-- **What a trigger and its signals share**, at one time. -/
structure Cell where
  isFired : Bool
  /-- Whether there is a trigger still. -/
  isHeld : Bool
deriving DecidableEq, Repr

/-- What someone who watches a cell for being fired learns from it. -/
inductive News where
  | fired
  | pending
  | closed
deriving DecidableEq, Repr

/-- A cell that has been fired says so even when no trigger is left. -/
def Cell.news (c : Cell) : News :=
  if c.isFired then .fired else if c.isHeld then .pending else .closed

/-- **A wait that is under way.** -/
structure Wait where
  /-- Whether its one half still watches the cell. -/
  isWatching : Bool := true
  /-- When its other half is over. -/
  deadline : Option Nat
deriving DecidableEq, Repr

namespace Wait

/-- The half that watches the cell, behind a look at it; nothing if it is over. -/
def watch (w : Wait) (c : Cell) : Option Wait :=
  if w.isWatching then
    match c.news with
    | .fired => none
    | .pending => some w
    | .closed => some { w with isWatching := false }
  else some w

/-- **What one look leaves of a wait**; nothing if it is over. -/
def look (w : Wait) (c : Cell) (now : Nat) : Option Wait :=
  if w.deadline.any (· ≤ now) then none else w.watch c

/-- **When a wait is over** that is looked at every millisecond from now on, the last time after `bound`;
nothing if it is given up then. -/
def over? (cells : Nat → Cell) : (bound now : Nat) → Wait → Option Nat
  | 0, now, w => if (w.look (cells now) now).isNone then some now else none
  | bound + 1, now, w =>
    match w.look (cells now) now with
    | none => some now
    | some w => over? cells bound (now + 1) w

end Wait

/-- The cell of a signal at a time, when it is known whether a trigger is left. -/
def Signal.cell (s : Signal) (held : Nat → Bool) (t : Nat) : Cell :=
  { isFired := s.firedAt.any (· ≤ t), isHeld := held t }

/-- **When a wait for a signal is over** that starts now and is given up after `bound`; `held` says at which
times there is a trigger. -/
def Signal.over? (s : Signal) (held : Nat → Bool) (now bound : Nat) : Option Nat :=
  Wait.over? (s.cell held) bound now { deadline := s.deadline }

end AssetGraph
