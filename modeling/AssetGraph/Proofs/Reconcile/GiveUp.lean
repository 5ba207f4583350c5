import AssetGraph.Proofs.Reconcile.Way
/-!
# Giving up

Loading an event gives up at the first call that fails, except that a retirement takes what is not
found for something that needs no end (`Event.givesUp_plan`).
-/
namespace AssetGraph

namespace Load

open Plan (ask givesUp_ask)

variable {kind : GraphError → Prop}

theorem givesUp_single {α : Type} (entity : EntityKind) (key : String) (found : List α) :
    (single entity key found).GivesUp kind := by
  rcases found with _ | ⟨_, _ | _⟩ <;> exact trivial

theorem givesUp_upsertAsset (k : AssetKey) (now : Instant) : (upsertAsset k now).GivesUp kind := by
  refine (givesUp_ask _).bind fun found => (givesUp_single _ _ found).bind fun o => ?_
  cases o <;> exact givesUp_ask _

theorem givesUp_upsertTeam (p : PayloadTeam) : (upsertTeam p).GivesUp kind := by
  refine (givesUp_ask _).bind fun found => (givesUp_single _ _ found).bind fun o => ?_
  cases o <;> exact givesUp_ask _

theorem givesUp_setAccounts (a : Asset) (now : Instant) (values : List String) :
    (setAccounts a now values).GivesUp kind := by
  induction values with
  | nil => exact trivial
  | cons value values ih =>
    rw [setAccounts_cons]
    cases Account.normalize? value with
    | none => exact trivial
    | some arn =>
      have hone : (setAccount a arn now).GivesUp kind :=
        (givesUp_upsertAsset _ now).bind fun _ => (givesUp_ask _).bind fun _ => trivial
      exact hone.bind fun _ => ih

theorem givesUp_upsert (accountKey : String) (p : Payload) (now : Instant) :
    (upsert accountKey p now).GivesUp kind := by
  refine (givesUp_upsertAsset _ now).bind fun a => (givesUp_upsertTeam _).bind fun t => ?_
  have howner : (setOwner a t now).GivesUp kind :=
    (givesUp_ask _).bind fun _ => (givesUp_ask _).bind fun _ => trivial
  exact howner.bind fun _ => givesUp_setAccounts a now _

theorem givesUp_endOwnership (a : Asset) (t : Team) (now : Instant) (owners : List Owns) :
    (endOwnership a t now owners).GivesUp kind := by
  induction owners with
  | nil => exact trivial
  | cons o owners ih =>
    rw [endOwnership]
    split
    · exact (givesUp_ask _).bind fun _ => ih
    · exact ih

theorem givesUp_expireEdges (now : Instant) (edges : List ParentOf) :
    (expireEdges now edges).GivesUp kind := by
  induction edges with
  | nil => exact trivial
  | cons e edges ih => exact (givesUp_ask _).bind fun _ => ih.bind fun _ => trivial

theorem givesUp_expireAsset (a : Asset) (now : Instant) : (expireAsset a now).GivesUp kind := by
  have hedges : (expireContainment a.id now >>= fun _ => pure ()).GivesUp kind :=
    ((givesUp_ask _).bind fun _ => (givesUp_ask _).bind fun _ => givesUp_expireEdges now _).bind
      fun _ => trivial
  rw [expireAsset]
  split
  · exact (givesUp_ask _).bind fun _ => hedges
  · exact hedges

theorem givesUp_withdraw (r : Retirement) (now : Instant) : (withdraw r now).GivesUp kind := by
  refine (givesUp_ask _).bind fun found => (givesUp_single _ _ found).bind fun o => ?_
  cases o with
  | none => exact trivial
  | some a =>
    refine (givesUp_ask _).bind fun found => (givesUp_single _ _ found).bind fun o => ?_
    cases o with
    | none => exact trivial
    | some t =>
      refine (givesUp_ask _).bind fun owners => (givesUp_endOwnership a t now owners).bind fun _ => ?_
      split
      · exact trivial
      · exact givesUp_expireAsset a now

/-- A retirement takes what is not found for an end, and gives up at all else. -/
theorem givesUp_retire (r : Retirement) (now : Instant) :
    (retire r now).GivesUp fun e => e.isNotFound = false := by
  refine (givesUp_withdraw r now).rescue (fun e => ?_) fun e he => ?_
  · split <;> exact trivial
  · exact if_neg (by rw [IngestError.isNotFound, he]; exact Bool.false_ne_true)

end Load

/-- The errors at which loading an event gives up. -/
def Event.StopsAt : Event → GraphError → Prop
  | .upsert _, _ => True
  | .retire _, e => e.isNotFound = false

theorem Event.givesUp_plan (accountKey : String) (now : Instant) (e : Event) :
    (e.plan accountKey now).GivesUp e.StopsAt := by
  cases e with
  | upsert p => exact Load.givesUp_upsert accountKey p now
  | retire r => exact Load.givesUp_retire r now

end AssetGraph
