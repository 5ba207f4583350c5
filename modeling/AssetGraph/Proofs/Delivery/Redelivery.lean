import AssetGraph.Proofs.Delivery.Drain
import AssetGraph.Proofs.Delivery.Retry
import AssetGraph.Proofs.Reconcile.Repeat
/-!
# Redelivery

Where commits are lost, messages are delivered again, to the graph that later messages have left.  Teams,
ownerships and all that exists come out as if nothing had been lost; an account or an edge may not.  When
it does is read off the messages' events (`Orchestrator.redelivery_tells_alike_iff`), and
`Orchestrator.redelivery_revives_an_edge` is a topic on which it does not.
-/
namespace AssetGraph

open AssetGraph.Graph (Loaded)

/-- **A destination that keeps a graph** and answers as the graph does, at times before the sentinel. -/
structure Destination.Serves {τ : Type} (d : Destination τ) (view : τ → Graph) : Prop where
  answers : Server.Answers d.serve view
  clock : ∀ s, d.now s < Instant.unexpired

theorem Graph.destination_serves {now : Instant} (hn : now < Instant.unexpired) :
    (Graph.destination now).Serves id :=
  ⟨fun _ _ => ⟨now, rfl, rfl⟩, fun _ => hn⟩

namespace Orchestrator

variable (o : Orchestrator)

def eventOf? (m : Message) : Option Event :=
  match m.event? o.major with
  | .ok e => e
  | .error _ => none

/-- The events of messages, without those that have none. -/
def events (ms : List Message) : List Event := ms.filterMap o.eventOf?

/-- A message that is handled without error, whatever the graph. -/
def Takes (m : Message) : Prop :=
  match m.event? o.major with
  | .error _ => False
  | .ok none => True
  | .ok (some e) => e.verdict o.accountKey = .ok ()

theorem events_append (ms ms' : List Message) : o.events (ms ++ ms') = o.events ms ++ o.events ms' :=
  List.filterMap_append

theorem events_cons (m : Message) (ms : List Message) :
    o.events (m :: ms) = (o.eventOf? m).toList ++ o.events ms := by
  rw [events, List.filterMap_cons]
  cases o.eventOf? m <;> rfl

variable {o} {τ : Type} {d : Destination τ} {view : τ → Graph}

/-- **Handling a message loads its event**, whatever has been counted. -/
theorem handler_of_event (ha : Server.Answers d.serve view) {x : Stats × τ} (hx : (view x.2).Sound) {m : Message}
    {e : Event} (he : m.event? o.major = .ok (some e)) : (o.handler d m x).result = e.verdict o.accountKey ∧
      view (o.handler d m x).state.2 = e.effect o.accountKey (d.now x.2) (view x.2) := by
  obtain ⟨stats, s⟩ := x
  obtain ⟨hr, hv⟩ := Event.run_plan_of_answers ha hx o.accountKey (d.now s) e
  simp only [handler, he, load]
  generalize (e.plan o.accountKey (d.now s)).run d.serve s = ended at hr hv ⊢
  obtain ⟨_ | _, s'⟩ := ended <;> exact ⟨hr, hv⟩

/-- **A message is handled without error or not, whatever the graph**, and a message that is has had its
event loaded. -/
theorem handler_of_serves (hd : d.Serves view) {x : Stats × τ} {m : Message} {es : List Event}
    (h : Loaded o.accountKey es (view x.2)) : ((o.handler d m x).result = .ok () ↔ o.Takes m) ∧
      (o.Takes m → Loaded o.accountKey (es ++ (o.eventOf? m).toList) (view (o.handler d m x).state.2)) := by
  obtain ⟨stats, s⟩ := x
  unfold Takes eventOf?
  rcases hev : m.event? o.major with err | _ | e
  · simp only [handler, hev]
    exact ⟨iff_of_false (by rintro ⟨⟩) id, False.elim⟩
  · have hskip : o.handler d m (stats, s) = { result := .ok (), state := (stats.count none, s) } := by
      simp only [handler, hev, load]
    rw [hskip, Option.toList_none, List.append_nil]
    exact ⟨iff_of_true rfl trivial, fun _ => h⟩
  · obtain ⟨hr, hv⟩ := handler_of_event hd.answers h.sound hev
    rw [hr, hv]
    exact ⟨Iff.rfl, fun hok => h.load (hd.clock s) hok⟩

/-- Messages that are handled without error after some events are so after others. -/
theorem takes_of_handles (hd : d.Serves view) {ms : List Message} {x : Stats × τ} {es : List Event}
    (h : Loaded o.accountKey es (view x.2)) (hall : (o.handler d).Handles ms x) : ∀ m ∈ ms, o.Takes m := by
  induction ms generalizing x es with
  | nil => exact List.forall_mem_nil _
  | cons m ms ih =>
    obtain ⟨hr, -, hrest⟩ := hall
    obtain ⟨htakes, hloaded⟩ := handler_of_serves hd (m := m) h
    have ht := htakes.1 hr
    exact List.forall_mem_cons.2 ⟨ht, ih (hloaded ht) hrest⟩

/-- **Messages that are handled without error have had their events loaded.** -/
theorem handles_of_takes (hd : d.Serves view) {ms : List Message} (ht : ∀ m ∈ ms, o.Takes m) {x : Stats × τ}
    {es : List Event} (h : Loaded o.accountKey es (view x.2)) : (o.handler d).Handles ms x ∧
      Loaded o.accountKey (es ++ o.events ms) (view ((o.handler d).after ms x).2) := by
  induction ms generalizing x es with
  | nil =>
    refine ⟨trivial, ?_⟩
    rw [events, List.filterMap_nil, List.append_nil]
    exact h
  | cons m ms ih =>
    obtain ⟨hm, hms⟩ := List.forall_mem_cons.1 ht
    obtain ⟨htakes, hloaded⟩ := handler_of_serves hd (m := m) h
    obtain ⟨hrest, hafter⟩ := ih hms (hloaded hm)
    rw [List.append_assoc, ← events_cons] at hafter
    exact ⟨⟨htakes.2 hm, o.fires_handler d m x, hrest⟩, hafter⟩

/-- **A run over messages that are handled without error loads their events**, from the committed offset
on. -/
theorem run_loaded (hd : d.Serves view) {b : Broker} {x : Stats × τ} {n : Nat} {es : List Event}
    (limit attempts : Nat) (hb : b.IsClear) (hp : b.IsPlaced o.entity) (hn : b.startOf o.entity = n)
    (h : Loaded o.accountKey es (view x.2)) (ht : ∀ m ∈ (b.messages o.entity).drop n, o.Takes m)
    (hl : (b.messages o.entity).length + 2 ≤ limit) :
    ∃ s, o.run d limit (attempts + 1) (.fresh b x) = (some (.ok ()), s) ∧
      Loaded o.accountKey (es ++ o.events ((b.messages o.entity).drop n)) (view s.state.2) ∧
      s.broker.IsClear ∧ s.broker.IsPlaced o.entity ∧
      s.broker.messages o.entity = b.messages o.entity := by
  obtain ⟨hall, hafter⟩ := handles_of_takes hd ht h
  have hlen : ((b.messages o.entity).drop n).length + 2 ≤ limit := by
    rw [List.length_drop]
    omega
  obtain ⟨s, hrun, hst, hbr⟩ := o.runWith_drain attempts hb hp hn hall hlen
  have hmsgs : s.broker.messages o.entity = b.messages o.entity := by
    rw [hbr, Consumer.messages_drainedBroker]
    rfl
  refine ⟨s, hrun, hst ▸ hafter, ?_, Broker.isPlaced_of_messages_eq hp hmsgs, hmsgs⟩
  rw [hbr]
  exact Consumer.isClear_drainedBroker (hb.subscribe o.entity) _ _ _

/-- **Redelivery safety, and where it ends.**  Take any topic whose messages are all handled without
error.  A run over the first `i` of them, whose commits are then lost back to `r`, and a run over the rest
end well, as a run over all of them does.  Teams and their names, ownerships, which assets and edges there
are, and whether assets that are no accounts carry the sentinel, are the same in the end.  So is all that
the graph tells exactly if, on whatever was there after `i` messages and no later message has a word on,
the last word of the messages delivered again, if they have one, is the last word of the first `i`. -/
theorem redelivery_tells_alike_iff (hd : d.Serves view) {x : τ} (hx : view x = Graph.empty)
    (stats stats' : Stats) (es : List Entry) {r i limit : Nat} (attempts : Nat) (hri : r ≤ i)
    (hi : i ≤ es.length) (hl : es.length + 2 ≤ limit)
    (hall : (o.handler d).Handles ((({} : Broker).publishAll o.entity es).messages o.entity) (stats, x)) :
    ∃ s s₁ s₂,
      o.run d limit (attempts + 1) (.fresh (({} : Broker).publishAll o.entity es) (stats, x)) =
        (some (.ok ()), s) ∧
      o.run d limit (attempts + 1) (.fresh (({} : Broker).publishAll o.entity (es.take i)) (stats, x)) =
        (some (.ok ()), s₁) ∧
      o.run d limit (attempts + 1) (.fresh
          ((s₁.broker.rewind o.entity r).publishAll o.entity (es.drop i)) (stats', s₁.state.2)) =
        (some (.ok ()), s₂) ∧
      let ms := (({} : Broker).publishAll o.entity es).messages o.entity
      let first := o.events (ms.take i)
      let again := o.events ((ms.take i).drop r)
      let later := o.events (ms.drop i)
      let g := view s.state.2
      let g' := view s₂.state.2
      (∀ i, g'.teamName? i = g.teamName? i) ∧
      (∀ k i, g'.holds? (.owner k i) = g.holds? (.owner k i)) ∧
      (∀ s, (g'.holds? s).isSome = (g.holds? s).isSome) ∧
      (∀ k : AssetKey, k.type ≠ Account.assetType → g'.holds? (.asset k) = g.holds? (.asset k)) ∧
      (g.TellsAlike g' ↔ ∀ s ∈ Event.raised o.accountKey first,
        Event.lastWord o.accountKey s first later = none →
        ∀ b, Event.lastWord o.accountKey s first again = some b →
          Event.lastWord o.accountKey s [] first = some b) := by
  have hempty : Loaded o.accountKey [] (view x) := hx ▸ Loaded.empty
  have ht := takes_of_handles hd hempty hall
  have hclear : ∀ es, (({} : Broker).publishAll o.entity es).IsClear :=
    Broker.isClear_publishAll ⟨rfl, rfl⟩ o.entity
  have hplaced : ∀ es, (({} : Broker).publishAll o.entity es).IsPlaced o.entity :=
    fun es => (Broker.Made.empty.publishAll o.entity es).isPlaced o.entity
  have hstart : ∀ es, (({} : Broker).publishAll o.entity es).startOf o.entity = (0 : Nat) :=
    ({} : Broker).startOf_publishAll o.entity o.entity
  obtain ⟨ms₁, ms₂, hlen₁, hlen₂, hfirst, hwhole, hparts⟩ := Broker.messages_publishAll_parts o.entity es hi
  rw [hwhole] at ht ⊢
  -- the three runs
  obtain ⟨s, hrun, hloaded, -⟩ := run_loaded hd limit attempts (x := (stats, x)) (hclear es) (hplaced es)
    (hstart es) hempty (by rw [hwhole]; exact fun m hm => ht m (List.mem_of_mem_drop hm))
    (by rw [hwhole, List.length_append]; omega)
  obtain ⟨s₁, hrun₁, hloaded₁, hclear₁, hplaced₁, hmsgs₁⟩ := run_loaded hd limit attempts (x := (stats, x))
    (hclear (es.take i)) (hplaced (es.take i)) (hstart (es.take i)) hempty
    (by rw [hfirst]; exact fun m hm => ht m (List.mem_append_left _ (List.mem_of_mem_drop hm)))
    (by rw [hfirst]; omega)
  have hrewound : (s₁.broker.rewind o.entity r).startOf o.entity = r := by
    rw [Broker.startOf, Broker.rewind, Table.get?_set, if_pos rfl]
    rfl
  have hplaced₂ : (s₁.broker.rewind o.entity r).IsPlaced o.entity :=
    Broker.isPlaced_of_messages_eq hplaced₁ rfl
  have hmsgs := hparts (s₁.broker.rewind o.entity r) (hmsgs₁.trans hfirst)
  obtain ⟨s₂, hrun₂, hloaded₂, -⟩ := run_loaded hd limit attempts (x := (stats', s₁.state.2))
    (Broker.isClear_publishAll (hclear₁.rewind o.entity r) o.entity (es.drop i))
    (hplaced₂.publishAll (es.drop i)) ((Broker.startOf_publishAll _ _ _ _).trans hrewound) hloaded₁
    (by rw [hmsgs]; exact fun m hm => ht m (List.mem_of_mem_drop hm))
    (by rw [hmsgs, List.length_append]; omega)
  refine ⟨s, s₁, s₂, hrun, hrun₁, hrun₂, ?_⟩
  -- what they have loaded
  have hr₁ : o.events ms₁ = o.events (ms₁.take r) ++ o.events (ms₁.drop r) := by
    rw [← events_append, List.take_append_drop]
  rw [hwhole, List.drop_zero, List.nil_append, events_append, hr₁] at hloaded
  rw [hfirst, hmsgs, List.drop_zero, List.nil_append, List.drop_append_of_le_length (hlen₁ ▸ hri),
    events_append, hr₁, ← List.append_assoc] at hloaded₂
  simp only [List.take_left' hlen₁, List.drop_left' hlen₁]
  rw [hr₁]
  exact hloaded.repeated hloaded₂

/-- A host that a second team comes to own before the first gives it up: nothing changes when all is
delivered again. -/
theorem redelivery_tells_alike_iff_of_two_owners :
    let o : Orchestrator := {}
    let now : Instant := { second := 0 }
    let p (i : String) (annotations : List Annotation) : Payload :=
      { id := "h", team := { id := i, name := i }, assetType := "Hostname", identifier := "h", annotations }
    let r : Retirement := { asset := { type := "Hostname", identifier := "h" }, teamId := "t", assetId := "h" }
    let es := [(p "t" [{ key := o.accountKey, value := "123456789012" }]).entry, (p "u" []).entry, r.entry]
    let b := ({} : Broker).publishAll o.entity es
    let d := Graph.destination now
    d.Serves id ∧ (o.handler d).Handles (b.messages o.entity) ({}, Graph.empty) ∧
    ∃ s s₁ s₂, o.run d 5 1 (.fresh b ({}, Graph.empty)) = (some (.ok ()), s) ∧
      o.run d 5 1 (.fresh (({} : Broker).publishAll o.entity (es.take 3)) ({}, Graph.empty)) =
        (some (.ok ()), s₁) ∧
      o.run d 5 1 (.fresh ((s₁.broker.rewind o.entity (0 : Nat)).publishAll o.entity (es.drop 3))
        ({}, s₁.state.2)) = (some (.ok ()), s₂) ∧
      s.state.2.TellsAlike s₂.state.2 := by
  intro o now p r es b d
  have hd : d.Serves id := Graph.destination_serves (by decide)
  have hall : (o.handler d).Handles (b.messages o.entity) ({}, Graph.empty) := by decide +kernel
  refine ⟨hd, hall, ?_⟩
  obtain ⟨s, s₁, s₂, hs, hs₁, hs₂, -, -, -, -, halike⟩ := redelivery_tells_alike_iff hd rfl {} {} es 0
    (Nat.zero_le 3) (Nat.le_refl 3) (Nat.le_refl 5) hall
  exact ⟨s, s₁, s₂, hs, hs₁, hs₂, halike.2 (by decide +kernel)⟩

/-- **An edge that comes back.**  A host that is in an account is given up by its owner, and the edge ends
with it; then another team comes to own the host, of which it tells no account.  Delivered again, the
first message raises the edge, and the second no longer ends it, as by now others own the host. -/
theorem redelivery_revives_an_edge :
    let o : Orchestrator := {}
    let p (i : String) (annotations : List Annotation) : Payload :=
      { id := "h", team := { id := i, name := i }, assetType := "Hostname", identifier := "h", annotations }
    let r : Retirement := { asset := { type := "Hostname", identifier := "h" }, teamId := "t", assetId := "h" }
    let es := [(p "t" [{ key := o.accountKey, value := "123456789012" }]).entry, r.entry, (p "u" []).entry]
    let b := ({} : Broker).publishAll o.entity es
    let d := Graph.destination { second := 0 }
    (o.handler d).Handles (b.messages o.entity) ({}, Graph.empty) ∧
    ∃ s s', o.run d 5 1 (.fresh b ({}, Graph.empty)) = (some (.ok ()), s) ∧
      o.run d 5 1 (.fresh (s.broker.rewind o.entity 0) ({}, s.state.2)) = (some (.ok ()), s') ∧
      s.state.2.snapshot.parents.map Prod.snd = [false] ∧
      s'.state.2.snapshot.parents.map Prod.snd = [true] ∧ ¬ s.state.2.TellsAlike s'.state.2 := by
  intro o p r es b d
  let s := (o.run d 5 1 (.fresh b ({}, Graph.empty))).2
  let s' := (o.run d 5 1 (.fresh (s.broker.rewind o.entity 0) ({}, s.state.2))).2
  have hrun : (o.run d 5 1 (.fresh b ({}, Graph.empty))).1 = some (.ok ()) := by decide +kernel
  have hrun' : (o.run d 5 1 (.fresh (s.broker.rewind o.entity 0) ({}, s.state.2))).1 = some (.ok ()) := by
    decide +kernel
  have hended : s.state.2.snapshot.parents.map Prod.snd = [false] := by decide +kernel
  have hrevived : s'.state.2.snapshot.parents.map Prod.snd = [true] := by decide +kernel
  refine ⟨by decide +kernel, s, s', Prod.ext hrun rfl, Prod.ext hrun' rfl, hended, hrevived, fun h => ?_⟩
  have hsame := h.parents.map Prod.snd
  rw [hended, hrevived] at hsame
  exact absurd hsame (by decide)

end Orchestrator

end AssetGraph
