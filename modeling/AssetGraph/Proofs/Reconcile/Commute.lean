import AssetGraph.Proofs.Reconcile.History
import AssetGraph.Proofs.Reconcile.Reach
import AssetGraph.Proofs.Reconcile.Snapshot
/-!
# Events in either order

Two events about different assets, neither of them an account, and different teams may come in either order.
The word of an event goes by what a graph tells of its own asset and team (`Retirement.ends_congr`), which
the other event leaves as it is (`Event.Apart.word_effect`).  On a statement that both have a word on, as on
an account that both upserts name, they have the same one (`Event.Apart.words_agree`).  So the graphs behind
the two orders tell the same; their ids and the order of their entries differ
(`Graph.Reached.apart_events_commute`).
-/
namespace AssetGraph

/-- **Two events that share no more than accounts**, which neither is about. -/
structure Event.Apart (e e' : Event) : Prop where
  keys : e.assetKey ≠ e'.assetKey
  teams : e.teamId ≠ e'.teamId
  type : e.assetKey.type ≠ Account.assetType
  type' : e'.assetKey.type ≠ Account.assetType

variable {accountKey : String} {now : Instant} {g g' : Graph}

/-! ## What a retirement goes by -/

namespace Retirement

variable {r : Retirement} {s : Statement}

/-- Graphs that tell the same of a retirement's asset and team have it end the same. -/
theorem ends_congr (h : g.IsKeyed) (h' : g'.IsKeyed)
    (ha : g'.times? (.asset r.asset) = g.times? (.asset r.asset))
    (ho : ∀ i, g'.times? (.owner r.asset i) = g.times? (.owner r.asset i))
    (ht : g'.teamName? r.teamId = g.teamName? r.teamId) (s : Statement) : r.ends g' s = r.ends g s := by
  rw [Bool.eq_iff_iff, ends_iff h', ends_iff h, ha, ht]
  simp only [Graph.holds?_eq, ho]

/-- All that a retirement ends is its own. -/
theorem own_of_ends (hs : r.ends g s = true) : s = .owner r.asset r.teamId ∨ s.isAt r.asset = true := by
  rw [ends] at hs
  split at hs
  · rw [Bool.or_eq_true, decide_eq_true_eq, Bool.and_eq_true] at hs
    exact hs.imp_right And.right
  · cases hs

/-- A retirement ends nothing that an upsert of another asset raises, unless it is of an account. -/
theorem not_ends_of_mem_raises {p : Payload} (hk : p.assetKey ≠ r.asset)
    (hr : r.asset.type ≠ Account.assetType) (hs : s ∈ p.raises accountKey) : r.ends g s ≠ true := by
  have haccount (arn : String) : Account.key arn ≠ r.asset := fun he => hr (he ▸ rfl)
  intro hends
  simp only [Payload.raises, List.mem_cons, List.mem_flatMap, List.not_mem_nil, or_false] at hs
  rcases hs with rfl | rfl | ⟨arn, -, rfl | rfl⟩ <;> rcases own_of_ends hends with he | hat
  · cases he
  · exact hk (of_decide_eq_true hat)
  · exact hk (Statement.owner.inj he).1
  · cases hat
  · cases he
  · exact haccount arn (of_decide_eq_true hat)
  · cases he
  · rw [Statement.isAt, Bool.or_eq_true, decide_eq_true_eq, decide_eq_true_eq] at hat
    exact hat.elim hk (haccount arn)

end Retirement

namespace Event

variable {e e' : Event}

theorem Apart.symm (h : e.Apart e') : e'.Apart e := ⟨h.keys.symm, h.teams.symm, h.type', h.type⟩

/-! ## What an event leaves alone -/

/-- An event says nothing of another asset that is no account, and nothing of who owns it. -/
theorem Apart.silent (h : e.Apart e') (accountKey : String) (g : Graph) :
    e.word accountKey g (.asset e'.assetKey) = none ∧ ∀ i, e.word accountKey g (.owner e'.assetKey i) = none := by
  cases e with
  | upsert p =>
    refine ⟨if_neg fun hs => ?_, fun i => if_neg fun hs => ?_⟩
    · exact h.keys ((Payload.mem_raises_asset h.type').1 hs)
    · exact h.keys (Payload.mem_raises_owner.1 hs).1
  | retire r =>
    refine ⟨if_neg fun hs => ?_, fun i => if_neg fun hs => ?_⟩
    · rcases Retirement.own_of_ends hs with he | hat
      · cases he
      · exact h.keys (of_decide_eq_true hat).symm
    · rcases Retirement.own_of_ends hs with he | hat
      · exact h.keys (Statement.owner.inj he).1.symm
      · cases hat

theorem names?_of_ne {i : String} (hi : i ≠ e.teamId) : e.names? i = none := by
  cases e with
  | upsert p => exact if_neg hi
  | retire r => rfl

/-- **An event does not change the words of one apart.** -/
theorem Apart.word_effect (h : e.Apart e') (hg : g.Sound) (accountKey : String) (now : Instant) (s : Statement) :
    e'.word accountKey (e.effect accountKey now g) s = e'.word accountKey g s := by
  cases e' with
  | upsert p => rfl
  | retire r =>
    have hasset : e.word accountKey g (.asset r.asset) = none := (h.silent accountKey g).1
    have howner : ∀ i, e.word accountKey g (.owner r.asset i) = none := (h.silent accountKey g).2
    have hteam : e.names? r.teamId = none := names?_of_ne h.teams.symm
    rw [word, word, Retirement.ends_congr hg.toIsKeyed (sound_effect hg accountKey now e).toIsKeyed]
    · rw [times?_effect hg, hasset, Statement.revise_none]
    · intro i
      rw [times?_effect hg, howner, Statement.revise_none]
    · rw [teamName?_effect, hteam, Option.none_or]

/-- **Events apart do not contradict each other.** -/
theorem Apart.words_agree (h : e.Apart e') {s : Statement} {b b' : Bool} (hw : e.word accountKey g s = some b)
    (hw' : e'.word accountKey g s = some b') : b = b' := by
  cases e with
  | upsert p =>
    obtain ⟨hs, hb⟩ := Option.ite_none_right_eq_some.1 hw
    cases e' with
    | upsert p' => exact (Option.some.inj hb).symm.trans (Option.some.inj (Option.ite_none_right_eq_some.1 hw').2)
    | retire r =>
      exact absurd (Option.ite_none_right_eq_some.1 hw').1
        (Retirement.not_ends_of_mem_raises h.keys h.type' hs)
  | retire r =>
    obtain ⟨hs, hb⟩ := Option.ite_none_right_eq_some.1 hw
    cases e' with
    | upsert p =>
      exact absurd hs
        (Retirement.not_ends_of_mem_raises h.keys.symm h.type (Option.ite_none_right_eq_some.1 hw').1)
    | retire r' => exact (Option.some.inj hb).symm.trans (Option.some.inj (Option.ite_none_right_eq_some.1 hw').2)

end Event

/-! ## Either order -/

/-- Words that do not contradict each other may be said in either order. -/
theorem Statement.revise_comm {word word' : Option Bool}
    (h : ∀ b b', word = some b → word' = some b' → b = b') (now : Instant) (s : Statement)
    (before : Option Times) :
    s.revise now word' (s.revise now word before) = s.revise now word (s.revise now word' before) := by
  rcases word with _ | b
  · rfl
  rcases word' with _ | b'
  · rfl
  obtain rfl := h b b' rfl rfl
  rfl

namespace Event

variable {e e' : Event}

theorem Apart.times?_comm (h : e.Apart e') (hg : g.Sound) (accountKey : String) (now : Instant) (s : Statement) :
    (e.effect accountKey now (e'.effect accountKey now g)).times? s =
      (e'.effect accountKey now (e.effect accountKey now g)).times? s := by
  rw [times?_effect (sound_effect hg accountKey now e'), times?_effect hg, h.symm.word_effect hg,
    times?_effect (sound_effect hg accountKey now e), times?_effect hg, h.word_effect hg]
  exact (Statement.revise_comm (fun b b' => h.words_agree) now s _).symm

theorem Apart.teamName?_comm (h : e.Apart e') (accountKey : String) (now : Instant) (g : Graph) (i : String) :
    (e.effect accountKey now (e'.effect accountKey now g)).teamName? i =
      (e'.effect accountKey now (e.effect accountKey now g)).teamName? i := by
  simp only [teamName?_effect]
  by_cases hi : i = e.teamId
  · rw [names?_of_ne (e := e') (hi ▸ h.teams), Option.none_or, Option.none_or]
  · rw [names?_of_ne hi, Option.none_or, Option.none_or]

end Event

namespace Graph

variable {xs : List (Instant × Event)} {e e' : Event}

theorem loadAll_two (h : g.Sound) {t t' : Instant} (hv : e.verdict accountKey = .ok ())
    (hv' : e'.verdict accountKey = .ok ()) : loadAll accountKey [(t, e), (t', e')] g =
      some (e'.effect accountKey t' (e.effect accountKey t g)) := by
  simp only [loadAll, Event.run_plan h, Event.run_plan (Event.sound_effect h accountKey t e), hv, hv']

/-- **Events about different assets commute.**  Take any graph that a history of loads has reached, and any
time.  Two events are about different assets, neither an account, and different teams, and each loads well.
Then both load well one after the other in either order, and the two graphs behind them are the same but for
ids and the order of entries: assets, teams, ownerships and containments, by their keys, with all names and
times.  The events may name the same accounts. -/
theorem Reached.apart_events_commute (h : Reached accountKey xs g) (ha : e.Apart e') (now : Instant)
    (hok : ((e.plan accountKey now).run (Graph.server now) g).1 = .ok ())
    (hok' : ((e'.plan accountKey now).run (Graph.server now) g).1 = .ok ()) :
    ∃ x y, loadAll accountKey [(now, e), (now, e')] g = some x ∧
      loadAll accountKey [(now, e'), (now, e)] g = some y ∧ x.ListsAlike y := by
  have hg := h.sound
  rw [Event.run_plan hg] at hok hok'
  have hx := Event.sound_effect (Event.sound_effect hg accountKey now e) accountKey now e'
  have hy := Event.sound_effect (Event.sound_effect hg accountKey now e') accountKey now e
  exact ⟨_, _, loadAll_two hg hok hok', loadAll_two hg hok' hok,
    .of_times? hx.toIsKeyed hy.toIsKeyed (ha.times?_comm hg accountKey now) (ha.teamName?_comm accountKey now g)⟩

/-- Two new hosts in an account that neither has been in, and another in an account that is there, which is
given up.  The new ones come in either order, and so do the first and the retirement. -/
theorem Reached.apart_events_commute_of_three_hosts :
    let k (identifier : String) : AssetKey := { type := "Hostname", identifier }
    let host (identifier team : String) (accounts : List String) : Event :=
      .upsert { team := { id := team, name := team }, assetType := "Hostname", identifier
                annotations := accounts.map fun value => { key := "account", value } }
    let s : Scene := { now := { second := 1 } }
    let old := host "i" "u" ["123456789012"]
    let e := host "h" "t" ["123456789012", "210987654321"]
    let e' := host "j" "v" ["210987654321"]
    let r : Event := .retire { asset := k "i", teamId := "u", assetId := "i" }
    let now : Instant := { second := 2 }
    let g := (s.load "account" old).2.graph
    Reached "account" [(s.now, old)] g ∧ e.Apart e' ∧ e.Apart r ∧
      (∀ x ∈ [e, e', r], ((x.plan "account" now).run (Graph.server now) g).1 = .ok ()) ∧
      (∃ x y, loadAll "account" [(now, e), (now, e')] g = some x ∧
        loadAll "account" [(now, e'), (now, e)] g = some y ∧ x ≠ y ∧ x.ListsAlike y) ∧
      ∃ x y, loadAll "account" [(now, e), (now, r)] g = some x ∧
        loadAll "account" [(now, r), (now, e)] g = some y ∧ x.ListsAlike y := by
  intro k host s old e e' r now g
  have h : Reached "account" [(s.now, old)] g := Reached.scene (s := s) .empty old
  have ha : e.Apart e' := by constructor <;> decide
  have ha' : e.Apart r := by constructor <;> decide
  have hok : ∀ x ∈ [e, e', r], ((x.plan "account" now).run (Graph.server now) g).1 = .ok () := by
    decide +kernel
  have hne : loadAll "account" [(now, e), (now, e')] g ≠ loadAll "account" [(now, e'), (now, e)] g := by
    decide +kernel
  obtain ⟨x, y, hx, hy, halike⟩ := h.apart_events_commute ha now (hok e (by decide)) (hok e' (by decide))
  refine ⟨h, ha, ha', hok, ⟨x, y, hx, hy, fun hxy => hne ?_, halike⟩, ?_⟩
  · rw [hx, hy, hxy]
  · exact h.apart_events_commute ha' now (hok e (by decide)) (hok r (by decide))

end Graph

end AssetGraph
