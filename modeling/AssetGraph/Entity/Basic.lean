import AssetGraph.Instant.Basic
/-!
# Entities

What the graph holds: assets and teams, the ownership of an asset by a team, and the containment of a
child asset in a parent.  Nothing is ever deleted.  An asset or a containment is *live* at an instant
before its expiration and *unexpired* while that is the sentinel; an ownership is *active* until it
gets an end.
-/
namespace AssetGraph

/-- **What names an asset** in the world outside the graph. -/
structure AssetKey where
  type : String
  identifier : String
deriving DecidableEq, Repr

/-- The key as messages write it. -/
def AssetKey.text (k : AssetKey) : String := s!"{k.type} {k.identifier}"

structure Asset where
  id : String
  key : AssetKey
  firstSeen : Instant
  lastSeen : Instant
  expiration : Instant
deriving DecidableEq, Repr

structure Team where
  id : String
  identifier : String
  name : String
deriving DecidableEq, Repr

/-- **A team owns an asset**, from a start until an end. -/
structure Owns where
  id : String
  teamId : String
  assetId : String
  startTime : Instant
  endTime : Option Instant
deriving DecidableEq, Repr

/-- **An asset contains another.** -/
structure ParentOf where
  id : String
  parentId : String
  childId : String
  firstSeen : Instant
  lastSeen : Instant
  expiration : Instant
deriving DecidableEq, Repr

namespace Asset

def isLiveAt (a : Asset) (t : Instant) : Bool := t < a.expiration

def isUnexpired (a : Asset) : Bool := a.expiration = Instant.unexpired

theorem isLiveAt_iff {a : Asset} {t : Instant} : a.isLiveAt t = true ↔ t < a.expiration := by
  simp [isLiveAt]

theorem isUnexpired_iff {a : Asset} : a.isUnexpired = true ↔ a.expiration = Instant.unexpired := by
  simp [isUnexpired]

end Asset

namespace Owns

def isActive (o : Owns) : Bool := o.endTime.isNone

theorem isActive_iff {o : Owns} : o.isActive = true ↔ o.endTime = none := by simp [isActive]

end Owns

namespace ParentOf

def isLiveAt (e : ParentOf) (t : Instant) : Bool := t < e.expiration

def isUnexpired (e : ParentOf) : Bool := e.expiration = Instant.unexpired

theorem isLiveAt_iff {e : ParentOf} {t : Instant} : e.isLiveAt t = true ↔ t < e.expiration := by
  simp [isLiveAt]

theorem isUnexpired_iff {e : ParentOf} :
    e.isUnexpired = true ↔ e.expiration = Instant.unexpired := by
  simp [isUnexpired]

end ParentOf

end AssetGraph
