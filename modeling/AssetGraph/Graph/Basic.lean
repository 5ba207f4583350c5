import AssetGraph.Graph.Call
/-!
# A graph in memory

The four collections of a graph, in the order in which their entities were created, and how many ids
have been handed out.  Each operation finds what it needs, says what is missing or already there, or
gives its answer and the graph behind it: an operation that fails has no graph to give, so `serve`
leaves the one before it.
-/
namespace AssetGraph

/-- **A graph**: entities in the order of their creation, and the number of ids handed out. -/
structure Graph where
  assets : List Asset := []
  teams : List Team := []
  owns : List Owns := []
  parents : List ParentOf := []
  issued : Nat := 0
deriving DecidableEq, Repr

/-- The team as a request wants it. -/
def TeamRequest.revise (r : TeamRequest) (t : Team) : Team :=
  { t with identifier := r.identifier, name := r.name }

/-- The asset as a request wants it: its key stays. -/
def AssetRequest.revise (r : AssetRequest) (a : Asset) : Asset :=
  { a with lastSeen := r.timestamp.getD a.lastSeen, expiration := r.expiration }

def OwnsRequest.revise (r : OwnsRequest) (o : Owns) : Owns :=
  { o with startTime := r.startTime, endTime := r.endTime }

def ParentOfRequest.revise (r : ParentOfRequest) (e : ParentOf) : ParentOf :=
  { e with lastSeen := r.timestamp.getD e.lastSeen, expiration := r.expiration }

namespace Graph

def empty : Graph := {}

/-- The id that a new entity gets when so many have been handed out before. -/
def idOf (family : String) (issued : Nat) : String := s!"{family}-{Decimal.text (issued + 1)}"

/-- Changes the first entry that fits. -/
def updateFirst {α : Type} (fits : α → Bool) (change : α → α) : List α → List α
  | [] => []
  | x :: xs => if fits x then change x :: xs else x :: updateFirst fits change xs

def selectsTeam (identifier : Option String) (t : Team) : Bool := identifier.all (t.identifier == ·)

/-- The assets that a filter lets through. -/
def selectsAsset (f : AssetFilter) (a : Asset) : Bool :=
  f.type.all (a.key.type == ·) && f.identifier.all (a.key.identifier == ·) &&
    f.validAt.all (a.isLiveAt ·)

def hasAsset (g : Graph) (id : String) : Bool := g.assets.any (·.id == id)

def hasTeam (g : Graph) (id : String) : Bool := g.teams.any (·.id == id)

def missingAsset (id : String) : GraphError := .notFound s!"asset {id}"

def missingTeam (id : String) : GraphError := .notFound s!"team {id}"

/-- The result of an operation: its answer and the graph behind it. -/
abbrev Result (α : Type) : Type := Except GraphError (α × Graph)

/-! ## Teams -/

def listTeams (g : Graph) (identifier : Option String) (page : Pagination) : List Team :=
  page.apply (g.teams.filter (selectsTeam identifier))

def createTeam (g : Graph) (r : TeamRequest) : Result Team :=
  if g.teams.any (·.identifier == r.identifier) then
    .error (.alreadyExists s!"team {r.identifier}")
  else
    let t : Team := { id := idOf "team" g.issued, identifier := r.identifier, name := r.name }
    .ok (t, { g with teams := g.teams ++ [t], issued := g.issued + 1 })

def updateTeam (g : Graph) (id : String) (r : TeamRequest) : Result Team :=
  match g.teams.find? (·.id == id) with
  | none => .error (missingTeam id)
  | some t =>
    .ok (r.revise t, { g with teams := updateFirst (·.id == id) r.revise g.teams })

/-! ## Assets -/

def listAssets (g : Graph) (f : AssetFilter) (page : Pagination) : List Asset :=
  page.apply (g.assets.filter (selectsAsset f))

def createAsset (g : Graph) (now : Instant) (r : AssetRequest) : Result Asset :=
  if g.assets.any (·.key == r.key) then .error (.alreadyExists s!"asset {r.key.text}")
  else
    let seen := r.timestamp.getD now
    let a : Asset :=
      { id := idOf "asset" g.issued, key := r.key, firstSeen := seen, lastSeen := seen
        expiration := r.expiration }
    .ok (a, { g with assets := g.assets ++ [a], issued := g.issued + 1 })

def updateAsset (g : Graph) (id : String) (r : AssetRequest) : Result Asset :=
  match g.assets.find? (·.id == id) with
  | none => .error (missingAsset id)
  | some a =>
    .ok (r.revise a,
      { g with assets := updateFirst (·.id == id) r.revise g.assets })

/-! ## Ownership -/

/-- The edge between a team and an asset. -/
def joins (assetId teamId : String) (o : Owns) : Bool := o.assetId == assetId && o.teamId == teamId

def listOwners (g : Graph) (assetId : String) (page : Pagination) : Except GraphError (List Owns) :=
  if !g.hasAsset assetId then .error (missingAsset assetId)
  else .ok (page.apply (g.owns.filter (·.assetId == assetId)))

def upsertOwner (g : Graph) (assetId teamId : String) (r : OwnsRequest) : Result Owns :=
  if !g.hasAsset assetId then .error (missingAsset assetId)
  else if !g.hasTeam teamId then .error (missingTeam teamId)
  else match g.owns.find? (joins assetId teamId) with
  | some o =>
    .ok (r.revise o,
      { g with owns := updateFirst (joins assetId teamId) r.revise g.owns })
  | none =>
    let o : Owns :=
      { id := idOf "owns" g.issued, teamId, assetId, startTime := r.startTime, endTime := r.endTime }
    .ok (o, { g with owns := g.owns ++ [o], issued := g.issued + 1 })

/-! ## Containment -/

/-- The edge between a child and a parent. -/
def contains (childId parentId : String) (e : ParentOf) : Bool :=
  e.childId == childId && e.parentId == parentId

def listParents (g : Graph) (assetId : String) (page : Pagination) :
    Except GraphError (List ParentOf) :=
  if !g.hasAsset assetId then .error (missingAsset assetId)
  else .ok (page.apply (g.parents.filter (·.childId == assetId)))

def listChildren (g : Graph) (assetId : String) (page : Pagination) :
    Except GraphError (List ParentOf) :=
  if !g.hasAsset assetId then .error (missingAsset assetId)
  else .ok (page.apply (g.parents.filter (·.parentId == assetId)))

def upsertParent (g : Graph) (now : Instant) (childId parentId : String) (r : ParentOfRequest) :
    Result ParentOf :=
  if !g.hasAsset childId then .error (missingAsset childId)
  else if !g.hasAsset parentId then .error (missingAsset parentId)
  else match g.parents.find? (contains childId parentId) with
  | some e =>
    .ok (r.revise e,
      { g with parents := updateFirst (contains childId parentId) r.revise g.parents })
  | none =>
    let seen := r.timestamp.getD now
    let e : ParentOf :=
      { id := idOf "parent-of" g.issued, parentId, childId, firstSeen := seen, lastSeen := seen
        expiration := r.expiration }
    .ok (e, { g with parents := g.parents ++ [e], issued := g.issued + 1 })

/-! ## Calls -/

/-- A listing leaves the graph as it is. -/
def unchanged {α : Type} (g : Graph) (r : Except GraphError α) : Result α := r.map (·, g)

/-- **The answer to a call**, with the graph behind it; `now` is the time at which something is seen
that a request gives no timestamp for. -/
def apply (now : Instant) (g : Graph) : (c : Call) → Result c.Answer
  | .teams identifier page => .ok (g.listTeams identifier page, g)
  | .createTeam r => g.createTeam r
  | .updateTeam id r => g.updateTeam id r
  | .assets f page => .ok (g.listAssets f page, g)
  | .createAsset r => g.createAsset now r
  | .updateAsset id r => g.updateAsset id r
  | .owners assetId page => g.unchanged (g.listOwners assetId page)
  | .upsertOwner assetId teamId r => g.upsertOwner assetId teamId r
  | .parents assetId page => g.unchanged (g.listParents assetId page)
  | .children assetId page => g.unchanged (g.listChildren assetId page)
  | .upsertParent childId parentId r => g.upsertParent now childId parentId r

/-- **Serving a call**: what the caller gets, and the graph that is left. -/
def serve (now : Instant) (g : Graph) (c : Call) : Except GraphError c.Answer × Graph :=
  match g.apply now c with
  | .ok (a, g') => (.ok a, g')
  | .error e => (.error e, g)

/-! ## Lemmas -/

@[simp] theorem updateFirst_nil {α : Type} (fits : α → Bool) (change : α → α) :
    updateFirst fits change [] = [] := rfl

theorem updateFirst_cons {α : Type} (fits : α → Bool) (change : α → α) (x : α) (xs : List α) :
    updateFirst fits change (x :: xs) =
      if fits x then change x :: xs else x :: updateFirst fits change xs := rfl

/-- A view that the change keeps does not see it. -/
theorem map_updateFirst {α β : Type} {fits : α → Bool} {change : α → α} {view : α → β}
    (h : ∀ x, view (change x) = view x) (xs : List α) :
    (updateFirst fits change xs).map view = xs.map view := by
  induction xs with
  | nil => rfl
  | cons x xs ih => by_cases hx : fits x <;> simp [updateFirst_cons, hx, h, ih]

theorem serve_of_ok {now : Instant} {g g' : Graph} {c : Call} {a : c.Answer}
    (h : g.apply now c = .ok (a, g')) : g.serve now c = (.ok a, g') := by
  simp [serve, h]

/-- A call that fails leaves the graph as it is. -/
theorem serve_of_error {now : Instant} {g : Graph} {c : Call} {e : GraphError}
    (h : g.apply now c = .error e) : g.serve now c = (.error e, g) := by
  simp [serve, h]

end Graph

end AssetGraph
