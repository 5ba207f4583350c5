import AssetGraph.Event.Account
import AssetGraph.Event.Basic
import AssetGraph.Reconcile.Plan
/-!
# Loading an event

The plan that brings a graph in line with an event.  An upsert makes the asset and the team what the
payload says, the team an owner from its old start on, and the accounts that the annotations name
parents of the asset.  A retirement ends the team's ownership and, where no other team owns the asset,
expires the asset and every containment edge at it that is live.  Each step reads before it writes, so
an event may be loaded again.
-/
namespace AssetGraph

namespace Load

open Plan (ask)

/-- The one entry of a listing that may hold no other. -/
def single {α : Type} (kind : EntityKind) (key : String) : List α → Plan (Option α)
  | [] => .done none
  | [a] => .done (some a)
  | _ :: _ :: _ => .fail (.duplicated kind key)

/-! ## Upserts -/

/-- **Makes the asset with a key seen now and unexpired.** -/
def upsertAsset (key : AssetKey) (now : Instant) : Plan Asset := do
  let found ← ask (.assets (.byKey key) .all)
  let request : AssetRequest := { key, timestamp := some now, expiration := Instant.unexpired }
  match ← single .asset key.text found with
  | some a => ask (.updateAsset a.id request)
  | none => ask (.createAsset request)

/-- **Makes the team of a payload what the payload says.** -/
def upsertTeam (team : PayloadTeam) : Plan Team := do
  let found ← ask (.teams (some team.id) .all)
  let request : TeamRequest := { identifier := team.id, name := team.name }
  match ← single .team team.id found with
  | some t => ask (.updateTeam t.id request)
  | none => ask (.createTeam request)

/-- Since when a team owns an asset: a former ownership keeps its start. -/
def startTime (owners : List Owns) (teamId : String) (now : Instant) : Instant :=
  match owners.find? (·.teamId == teamId) with
  | some o => o.startTime
  | none => now

/-- **Makes a team an active owner of an asset.** -/
def setOwner (asset : Asset) (team : Team) (now : Instant) : Plan Unit := do
  let owners ← ask (.owners asset.id .all)
  let _ ← ask (.upsertOwner asset.id team.id
    { startTime := startTime owners team.id now, endTime := none })

/-- **Makes the asset of an account the parent of an asset.** -/
def setAccount (asset : Asset) (arn : String) (now : Instant) : Plan Unit := do
  let account ← upsertAsset { type := Account.assetType, identifier := arn } now
  let _ ← ask (.upsertParent asset.id account.id
    { timestamp := some now, expiration := Instant.unexpired })

/-- The accounts that annotations name, in their order, up to a value that names none. -/
def setAccounts (asset : Asset) (now : Instant) : List String → Plan Unit
  | [] => .done ()
  | value :: values =>
    match Account.normalize value with
    | .error e => .fail e
    | .ok arn => do
      setAccount asset arn now
      setAccounts asset now values

theorem setAccounts_cons (asset : Asset) (now : Instant) (value : String) (values : List String) :
    setAccounts asset now (value :: values) =
      match Account.normalize? value with
      | none => .fail (.invalidAccount value)
      | some arn => setAccount asset arn now >>= fun _ => setAccounts asset now values := by
  show (match Account.normalize value with
    | .error e => _
    | .ok arn => _) = _
  rw [Account.normalize]
  cases Account.normalize? value <;> rfl

/-- **An asset exists and a team owns it.** -/
def upsert (accountKey : String) (payload : Payload) (now : Instant) : Plan Unit := do
  let asset ← upsertAsset payload.assetKey now
  let team ← upsertTeam payload.team
  setOwner asset team now
  setAccounts asset now (payload.valuesOf accountKey)

/-! ## Retirements -/

/-- Ends what a team owns of the listed ownerships. -/
def endOwnership (asset : Asset) (team : Team) (now : Instant) : List Owns → Plan Unit
  | [] => .done ()
  | o :: owners =>
    if o.teamId == team.id && o.isActive then do
      let _ ← ask (.upsertOwner asset.id team.id { startTime := o.startTime, endTime := some now })
      endOwnership asset team now owners
    else endOwnership asset team now owners

/-- Whether another team owns the asset still. -/
def isOwnedByOthers (team : Team) (owners : List Owns) : Bool :=
  owners.any fun o => o.teamId != team.id && o.isActive

/-- Expires containment edges one by one; the answer is their number. -/
def expireEdges (now : Instant) : List ParentOf → Plan Nat
  | [] => .done 0
  | e :: edges => do
    let _ ← ask (.upsertParent e.childId e.parentId { timestamp := some now, expiration := now })
    let n ← expireEdges now edges
    pure (n + 1)

/-- **Expires the containment edges at an asset that are live**, those to its parents first; the answer
is their number. -/
def expireContainment (assetId : String) (now : Instant) : Plan Nat := do
  let parents ← ask (.parents assetId .all)
  let children ← ask (.children assetId .all)
  expireEdges now ((parents ++ children).filter (·.isLiveAt now))

/-- Expires an asset that nobody owns any more, and the edges at it. -/
def expireAsset (asset : Asset) (now : Instant) : Plan Unit := do
  if asset.isLiveAt now then
    let _ ← ask (.updateAsset asset.id { key := asset.key, timestamp := some now, expiration := now })
  let _ ← expireContainment asset.id now

/-- **Ends the team's ownership and expires what nobody owns any more.**  An unknown asset or team has
nothing to end. -/
def withdraw (r : Retirement) (now : Instant) : Plan Unit := do
  let some asset ← single .asset r.asset.text (← ask (.assets (.byKey r.asset) .all))
    | return ()
  let some team ← single .team r.teamId (← ask (.teams (some r.teamId) .all))
    | return ()
  let owners ← ask (.owners asset.id .all)
  endOwnership asset team now owners
  if isOwnedByOthers team owners then return ()
  expireAsset asset now

/-- **A team gives up an asset.**  What the graph turns out not to have needs no end. -/
def retire (r : Retirement) (now : Instant) : Plan Unit :=
  (withdraw r now).rescue fun e => if e.isNotFound then .done () else .fail e

end Load

/-- **The plan for an event**; `accountKey` is the key of the annotations that name accounts. -/
def Event.plan (accountKey : String) (now : Instant) : Event → Plan Unit
  | .upsert payload => Load.upsert accountKey payload now
  | .retire retirement => Load.retire retirement now

end AssetGraph
