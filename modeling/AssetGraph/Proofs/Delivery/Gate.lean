import AssetGraph.Proofs.Delivery.Drain
import AssetGraph.Proofs.Delivery.Retry
import AssetGraph.Proofs.Event.Decoding
/-!
# The version gate

A message whose version is not the one understood is no event, as soon as its version, type and identifier
can be read; what its key and its value hold does not matter (`Message.event?_eq_none_iff`).  So such a
message is handled without a call and only counted, and a stream is loaded as if it did not have it
(`Orchestrator.unsupported_versions_leave_no_trace`).
-/
namespace AssetGraph

namespace Message

/-- The text of the last metadata entry with a key, if there is one that is not empty. -/
def text? (m : Message) (key : String) : Option String :=
  match m.metadataValue? key with
  | none | some [] => none
  | some (b :: bs) => (Utf8.decode (b :: bs)).toOption

/-- **Behind the gate**: version, type and identifier can be read, and the version is not of the major one
that is understood. -/
def isGated (major : Nat) (m : Message) : Bool :=
  match m.text? "version", m.text? "type", m.text? "identifier" with
  | some version, some _, some _ => !Version.isSupported major version
  | _, _, _ => false

theorem text?_eq (m : Message) (key : String) : m.text? key = (m.requiredMetadata key).toOption := by
  unfold text? requiredMetadata
  rcases m.metadataValue? key with _ | _ | ⟨b, bs⟩
  · rfl
  · rfl
  · simp only
    rcases Utf8.decode (b :: bs) with fault | s <;> rfl

/-- **What is behind the gate is no event, and nothing else is none.** -/
theorem event?_eq_none_iff {major : Nat} {m : Message} :
    m.event? major = .ok none ↔ m.isGated major = true := by
  rw [isGated, text?_eq, text?_eq, text?_eq]
  constructor
  · intro h
    obtain ⟨version, type, identifier, hv, ht, hi⟩ := requiredMetadata_of_event? h
    rw [event?_of_ok hv ht hi] at h
    rw [hv, ht, hi]
    cases hsup : Version.isSupported major version with
    | false => simp [Except.toOption, hsup]
    | true =>
      rw [hsup, if_pos rfl, Except.map_eq_ok_iff] at h
      obtain ⟨e, -, he⟩ := h
      cases he
  · intro h
    cases hv : m.requiredMetadata "version" with
    | error e => simp [hv, Except.toOption] at h
    | ok version =>
      cases ht : m.requiredMetadata "type" with
      | error e => simp [hv, ht, Except.toOption] at h
      | ok type =>
        cases hi : m.requiredMetadata "identifier" with
        | error e => simp [hv, ht, hi, Except.toOption] at h
        | ok identifier =>
          have hsup : Version.isSupported major version = false := by simpa [hv, ht, hi, Except.toOption] using h
          rw [event?_of_ok hv ht hi, hsup]
          rfl

end Message

/-! ## Streams -/

/-- Whether an entry is behind the gate, wherever it comes to lie. -/
def Entry.isGated (major : Nat) (e : Entry) : Bool := (e.placed { topic := "" }).isGated major

theorem Entry.isGated_placed (major : Nat) (e : Entry) (p : Position) :
    (e.placed p).isGated major = e.isGated major := rfl

namespace Stats

/-- The counters when so many messages more have been skipped. -/
def skip (n : Nat) (stats : Stats) : Stats :=
  { stats with handled := stats.handled + n, skipped := stats.skipped + n }

theorem skip_skip (stats : Stats) (m n : Nat) : (stats.skip m).skip n = stats.skip (m + n) := by
  simp only [skip, Nat.add_assoc]

theorem count_skip (stats : Stats) (n : Nat) (e : Option Event) :
    (stats.skip n).count e = (stats.count e).skip n := by
  rcases e with _ | _ | _ <;> simp only [count, skip, Nat.add_right_comm]

end Stats

namespace Orchestrator

variable (o : Orchestrator) {τ : Type} (d : Destination τ)

theorem handler_placed (e : Entry) (p p' : Position) :
    o.handler d (e.placed p) = o.handler d (e.placed p') := rfl

/-- **A message behind the gate is handled without a call**, and counted. -/
theorem handler_of_isGated {m : Message} (h : m.isGated o.major = true) (stats : Stats) (s : τ) :
    o.handler d m (stats, s) = { result := .ok (), state := (stats.skip 1, s) } := by
  rw [handler, Message.event?_eq_none_iff.2 h]
  rfl

/-- What has been skipped before makes no difference. -/
theorem handler_skip (m : Message) (stats : Stats) (n : Nat) (s : τ) :
    o.handler d m (stats.skip n, s) = { o.handler d m (stats, s) with
      state := ((o.handler d m (stats, s)).state.1.skip n, (o.handler d m (stats, s)).state.2) } := by
  unfold handler
  rcases m.event? o.major with err | e
  · rfl
  · simp only
    rcases o.load d s e with ⟨err | ⟨⟩, s'⟩
    · rfl
    · simp only [Stats.count_skip]

/-- **A stream is handled as it is without what is behind the gate**, which is only counted. -/
theorem handles_gate {es : List Entry} {ms ms' : List Message} (hms : Entry.Become es ms)
    (hms' : Entry.Become (es.filter fun e => !e.isGated o.major) ms') (stats : Stats) (n : Nat) (s : τ) :
    ((o.handler d).Handles ms (stats.skip n, s) ↔ (o.handler d).Handles ms' (stats, s)) ∧
      (o.handler d).after ms (stats.skip n, s) =
        (((o.handler d).after ms' (stats, s)).1.skip (n + es.countP (·.isGated o.major)),
          ((o.handler d).after ms' (stats, s)).2) := by
  induction hms generalizing ms' stats n s with
  | nil =>
    obtain rfl : ms' = [] := List.forall₂_nil_left_iff.1 hms'
    exact ⟨Iff.rfl, rfl⟩
  | @cons e m es ms he hms ih =>
    obtain ⟨p, rfl⟩ := he
    by_cases hg : e.isGated o.major = true
    · rw [List.filter_cons_of_neg (by rw [hg]; exact Bool.false_ne_true)] at hms'
      obtain ⟨hhandles, hafter⟩ := ih hms' stats (n + 1) s
      have hstep := o.handler_of_isGated d (m := e.placed p) hg (stats.skip n) s
      rw [Stats.skip_skip] at hstep
      refine ⟨?_, ?_⟩
      · rw [Handler.Handles, hstep, ← hhandles]
        exact ⟨fun h => h.2.2, fun h => ⟨rfl, rfl, h⟩⟩
      · have hsum : n + (es.countP (·.isGated o.major) + 1) = n + 1 + es.countP (·.isGated o.major) := by
          omega
        rw [Handler.after, List.foldl_cons, hstep, List.countP_cons_of_pos hg, hsum]
        exact hafter
    · rw [List.filter_cons_of_pos (by simpa using hg)] at hms'
      cases hms' with
      | @cons _ m' _ ms' he' hms' =>
        obtain ⟨p', rfl⟩ := he'
        have hstep := o.handler_skip d (e.placed p) stats n s
        rw [o.handler_placed d e p p'] at hstep
        obtain ⟨hhandles, hafter⟩ := ih hms' (o.handler d (e.placed p') (stats, s)).state.1 n
          (o.handler d (e.placed p') (stats, s)).state.2
        refine ⟨?_, ?_⟩
        · rw [Handler.Handles, Handler.Handles, o.handler_placed d e p p', hstep]
          exact and_congr_right fun _ => and_congr_right fun _ => hhandles
        · rw [Handler.after, List.foldl_cons, o.handler_placed d e p p', hstep,
            List.countP_cons_of_neg (by simpa using hg)]
          exact hafter

/-- Nothing else is skipped. -/
theorem skipped_after {es : List Entry} {ms : List Message} (hms : Entry.Become es ms)
    (hes : ∀ e ∈ es, e.isGated o.major = false) {stats : Stats} {s : τ}
    (hall : (o.handler d).Handles ms (stats, s)) :
    ((o.handler d).after ms (stats, s)).1.skipped = stats.skipped := by
  induction hms generalizing stats s with
  | nil => rfl
  | @cons e m es ms he _ ih =>
    obtain ⟨p, rfl⟩ := he
    obtain ⟨hm, hes⟩ := List.forall_mem_cons.1 hes
    obtain ⟨hr, -, hrest⟩ := hall
    have hone : (o.handler d (e.placed p) (stats, s)).state.1.skipped = stats.skipped := by
      unfold handler at hr ⊢
      rcases hev : (e.placed p).event? o.major with err | _ | event
      · rfl
      · rw [← Entry.isGated_placed o.major e p, Message.event?_eq_none_iff.1 hev] at hm
        cases hm
      · simp only
        rcases o.load d s (some event) with ⟨err | ⟨⟩, s'⟩
        · rfl
        · cases event <;> rfl
    rw [Handler.after, List.foldl_cons, ← hone]
    exact ih hes hrest

/-- **Unsupported versions leave no trace.**  Take any stream and any graph, and the same stream without
the messages behind the gate.  Such a message is never an error, and handling it only counts it.  A run
over the whole stream needs no second attempt exactly if one over the rest needs none.  If so, both leave
the same graph and have counted the same upserts and retirements, the run over the whole stream has
committed all of it, and it has skipped as many messages as are behind the gate. -/
theorem unsupported_versions_leave_no_trace (x : τ) (es : List Entry) {limit : Nat}
    (hl : es.length + 2 ≤ limit) :
    let whole := ({} : Broker).publishAll o.entity es
    let rest := ({} : Broker).publishAll o.entity (es.filter fun e => !e.isGated o.major)
    (∀ m : Message, m.isGated o.major = true → ∀ stats s,
      o.handler d m (stats, s) = { result := .ok (), state := (stats.skip 1, s) }) ∧
    ((o.run d limit 1 (.fresh whole ({}, x))).1 = some (.ok ()) ↔
      (o.run d limit 1 (.fresh rest ({}, x))).1 = some (.ok ())) ∧
    (∀ s s', o.run d limit 1 (.fresh whole ({}, x)) = (some (.ok ()), s) →
      o.run d limit 1 (.fresh rest ({}, x)) = (some (.ok ()), s') →
      s'.state.2 = s.state.2 ∧ s'.state.1.upserts = s.state.1.upserts ∧
        s'.state.1.retirements = s.state.1.retirements ∧ s.broker.startOf o.entity = es.length ∧
        s.state.1.skipped = es.countP (·.isGated o.major)) := by
  intro whole rest
  obtain ⟨ms, hbecome, hpublished⟩ := ({} : Broker).messages_publishAll o.entity es
  obtain ⟨ms', hbecome', hpublished'⟩ :=
    ({} : Broker).messages_publishAll o.entity (es.filter fun e => !e.isGated o.major)
  have hms : (whole.messages o.entity).drop 0 = ms := hpublished _ rfl
  have hms' : (rest.messages o.entity).drop 0 = ms' := hpublished' _ rfl
  have hlen : ms.length = es.length := hbecome.length_eq.symm
  have hlen' : ms'.length ≤ es.length := hbecome'.length_eq ▸ List.length_filter_le _ _
  have hclear : ∀ es, (({} : Broker).publishAll o.entity es).IsClear :=
    Broker.isClear_publishAll ⟨rfl, rfl⟩ o.entity
  have hplaced : ∀ es, (({} : Broker).publishAll o.entity es).IsPlaced o.entity :=
    fun es => (Broker.Made.empty.publishAll o.entity es).isPlaced o.entity
  have hstart : ∀ es, (({} : Broker).publishAll o.entity es).startOf o.entity = (0 : Nat) :=
    ({} : Broker).startOf_publishAll o.entity o.entity
  have hruns : (o.run d limit 1 (.fresh whole ({}, x))).1 = some (.ok ()) ↔
      (o.handler d).Handles ms ({}, x) := by
    rw [← hms]
    exact o.runWith_once_iff (o.fires_handler d) (hclear _) (hplaced _) (hstart _) (by rw [hms]; omega)
  have hruns' : (o.run d limit 1 (.fresh rest ({}, x))).1 = some (.ok ()) ↔
      (o.handler d).Handles ms' ({}, x) := by
    rw [← hms']
    exact o.runWith_once_iff (o.fires_handler d) (hclear _) (hplaced _) (hstart _) (by rw [hms']; omega)
  obtain ⟨hhandles, hafter⟩ := o.handles_gate d hbecome hbecome' {} 0 x
  refine ⟨fun m hm stats s => o.handler_of_isGated d hm stats s, ?_, ?_⟩
  · exact hruns.trans (hhandles.trans hruns'.symm)
  intro s s' hrun hrun'
  have hall := hruns.1 (congrArg Prod.fst hrun)
  have hall' := hruns'.1 (congrArg Prod.fst hrun')
  obtain ⟨t, ht, hst, hbr⟩ : ∃ t, o.run d limit 1 (.fresh whole ({}, x)) = (some (.ok ()), t) ∧ _ :=
    o.runWith_drain 0 (hclear _) (hplaced _) (hstart _) (by rw [hms]; exact hall) (by rw [hms]; omega)
  obtain ⟨t', ht', hst', -⟩ : ∃ t, o.run d limit 1 (.fresh rest ({}, x)) = (some (.ok ()), t) ∧ _ :=
    o.runWith_drain 0 (hclear _) (hplaced _) (hstart _) (by rw [hms']; exact hall') (by rw [hms']; omega)
  obtain rfl : t = s := congrArg Prod.snd (ht.symm.trans hrun)
  obtain rfl : t' = s' := congrArg Prod.snd (ht'.symm.trans hrun')
  rw [hms] at hst hbr
  rw [hms'] at hst'
  have hgate : t.state =
      (t'.state.1.skip (0 + es.countP (·.isGated o.major)), t'.state.2) := by
    rw [hst, hst']
    exact hafter
  refine ⟨?_, ?_, ?_, ?_, ?_⟩
  · rw [hgate]
  · rw [hgate]
    rfl
  · rw [hgate]
    rfl
  · have hall_read : (whole.messages o.entity).length = es.length := by
      rw [← hlen, ← hms, List.drop_zero]
    rw [hbr, Consumer.startOf_drainedBroker, hall_read]
    intro hnil
    rw [hall_read, ← hlen, hnil]
    exact hstart es
  · have hkept : ∀ e ∈ es.filter (fun e => !e.isGated o.major), e.isGated o.major = false := by
      intro e he
      simpa using (List.mem_filter.1 he).2
    have hnone := o.skipped_after d hbecome' hkept hall'
    rw [hgate, hst']
    show ((o.handler d).after ms' ({}, x)).1.skipped + _ = _
    rw [hnone]
    exact (Nat.zero_add _).trans (Nat.zero_add _)

/-- A host, a message of a newer version that could not be decoded, and the host's end. -/
theorem unsupported_versions_leave_no_trace_of_a_newer_one :
    let o : Orchestrator := {}
    let d := Graph.destination { second := 0 }
    let p : Payload :=
      { id := "h", team := { id := "t", name := "Team" }, assetType := "Hostname", identifier := "h" }
    let newer : Entry :=
      { key := [], value := some [0], metadata :=
          [("version", Utf8.encode "1.0.0"), ("type", Utf8.encode "Hostname"),
            ("identifier", Utf8.encode "h")] }
    let r : Retirement := { asset := p.assetKey, teamId := "t", assetId := "h" }
    let es := [p.entry, newer, r.entry]
    let rest := es.filter fun e => !e.isGated o.major
    es.length + 2 ≤ 5 ∧ rest.length = 2 ∧
      ∃ s s', o.run d 5 1 (.fresh (({} : Broker).publishAll o.entity es) ({}, Graph.empty)) =
          (some (.ok ()), s) ∧
        o.run d 5 1 (.fresh (({} : Broker).publishAll o.entity rest) ({}, Graph.empty)) =
          (some (.ok ()), s') ∧
        s'.state.2 = s.state.2 ∧ s.broker.startOf o.entity = 3 ∧
        s.state.1 = { handled := 3, skipped := 1, upserts := 1, retirements := 1 } := by
  intro o d p newer r es rest
  have hl : es.length + 2 ≤ 5 := Nat.le_refl 5
  obtain ⟨-, hruns, hsame⟩ := o.unsupported_versions_leave_no_trace d Graph.empty es hl
  have hrun : (o.run d 5 1 (.fresh (({} : Broker).publishAll o.entity es) ({}, Graph.empty))).1 =
      some (.ok ()) := by decide +kernel
  obtain ⟨halike, -, -, hcommitted, -⟩ := hsame _ _ (Prod.ext hrun rfl) (Prod.ext (hruns.1 hrun) rfl)
  exact ⟨hl, by decide +kernel, _, _, Prod.ext hrun rfl, Prod.ext (hruns.1 hrun) rfl, halike, hcommitted,
    by decide +kernel⟩

end Orchestrator

end AssetGraph
