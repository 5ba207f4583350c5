import AssetGraph.Proofs.Delivery.AtLeastOnce
import AssetGraph.Proofs.Reconcile.Effect
import AssetGraph.Proofs.Reconcile.GiveUp
import AssetGraph.Scenario.Scene
/-!
# Retries leave no trace

A run of the indexer over a topic, at a time that stands still, ends in one graph and with one offset
committed, however often the broker or calls to the graph fail on the way and the run starts again: the
messages' effects one after the other (`Course.Retraced`).  Between two commits the graph may be
anywhere on the way of the next message, and its effect from there is the one it has at once.
-/
namespace AssetGraph

namespace Orchestrator

variable (o : Orchestrator) (now : Instant)

def effect (m : Message) (g : Graph) : Graph :=
  match m.event? o.major with
  | .ok (some e) => e.effect o.accountKey now g
  | _ => g

def replay (ms : List Message) (g : Graph) : Graph := ms.foldl (fun g m => o.effect now m g) g

/-- **Handling a message before a graph some of whose calls fail**, with errors at which loading the
message's event gives up. -/
def Falters (m : Message) (g : Graph) (r : Outcome) (g' : Graph) : Prop :=
  match m.event? o.major with
  | .error e => r = .error e ∧ g' = g
  | .ok none => r = .ok () ∧ g' = g
  | .ok (some e) => ∃ t, (e.plan o.accountKey now).Falters t e.StopsAt g r g'

variable {o now}

theorem replay_concat (ms : List Message) (m : Message) (g : Graph) :
    o.replay now (ms ++ [m]) g = o.effect now m (o.replay now ms g) :=
  List.foldl_append

/-- **Whatever fails while a message is handled, its effect afterwards is the one it had before**, and a
message that is handled has had it. -/
theorem Falters.outcome {m : Message} {g g' : Graph} {r : Outcome} (hf : o.Falters now m g r g')
    (h : g.Sound) : g'.Sound ∧ o.effect now m g' = o.effect now m g ∧
      (r = .ok () → g' = o.effect now m g) := by
  unfold Falters at hf
  unfold effect
  rcases hev : m.event? o.major with e | _ | e <;> rw [hev] at hf
  · obtain ⟨rfl, rfl⟩ := hf
    exact ⟨h, rfl, fun hr => by cases hr⟩
  · obtain ⟨rfl, rfl⟩ := hf
    exact ⟨h, rfl, fun _ => rfl⟩
  · obtain ⟨t, hf⟩ := hf
    rcases hf.outcome (e.givesUp_plan o.accountKey now) with hrun | ⟨⟨_, -, rfl⟩, hmem⟩
    · rw [Event.run_plan h] at hrun
      obtain ⟨-, rfl⟩ := Prod.mk.inj hrun
      exact ⟨Event.sound_effect h _ _ e, Event.effect_effect h _ _ e, fun _ => rfl⟩
    · obtain ⟨hs, he⟩ := Event.effect_on_the_way h o.accountKey now t e hmem
      exact ⟨hs, he, fun hr => by cases hr⟩

end Orchestrator

/-- A call that has found its topic drained, and maybe ended since. -/
def Stage.IsDrained : Stage → Prop
  | .reading isDrained => isDrained = true
  | .ended _ isDrained => isDrained = true
  | _ => False

namespace Course

variable {σ : Type} {o : Orchestrator} {now : Instant} {view : σ → Graph} {b : Broker} {x : σ}

/-- The graph of a run over the committed messages in which nothing failed. -/
def retrace (o : Orchestrator) (now : Instant) (b : Broker) (g : Graph) (b' : Broker) : Graph :=
  o.replay now
    (((b'.messages o.entity).take (b'.startOf o.entity).toNat).drop (b.startOf o.entity).toNat) g

/-- What is committed, when all up to an offset is. -/
def committedUpTo (entity : String) (b : Broker) (offset : Int) : Table Int :=
  if offset = b.startOf entity then b.committed else b.committed.set entity offset

theorem committedUpTo_succ {entity : String} {b : Broker} {offset : Int}
    (h : b.startOf entity ≤ offset) :
    committedUpTo entity b (offset + 1) = (committedUpTo entity b offset).set entity (offset + 1) := by
  have hne : offset + 1 ≠ b.startOf entity := by omega
  unfold committedUpTo
  rw [if_neg hne]
  split
  · rfl
  · exact (Table.set_set _ _ _ _).symm

/-- **The invariant of a course with failures**: the graph is that of the committed messages, or on the
way of the next one. -/
structure Retraced (o : Orchestrator) (now : Instant) (view : σ → Graph) (b : Broker) (g : Graph)
    (c : Course σ) : Prop where
  kept : c.Kept o.entity (b.startOf o.entity)
  sound : (view c.state).Sound
  /-- The next message has the effect that it would have had at once. -/
  onTheWay : ∀ m, c.broker.messageAt? o.entity (c.committed o.entity) = some m →
    o.effect now m (view c.state) = o.effect now m (retrace o now b g c.broker)
  level : c.broker.messageAt? o.entity (c.committed o.entity) = none →
    view c.state = retrace o now b g c.broker
  /-- A message that has been handled has had its effect. -/
  storing : ∀ m, c.stage = .storing m → view c.state = o.effect now m (retrace o now b g c.broker)
  drained : c.stage.IsDrained → (b.messages o.entity).length ≤ c.committed o.entity
  grown : (b.messages o.entity).length ≤ (c.broker.messages o.entity).length
  committed : c.broker.committed = committedUpTo o.entity b (c.committed o.entity)

theorem retrace_of_grows {b' b'' : Broker} {g : Graph} (hg : b'.Grows o.entity b'')
    (hle : b'.startOf o.entity ≤ (b'.messages o.entity).length) :
    retrace o now b g b'' = retrace o now b g b' := by
  obtain ⟨ms, hms⟩ := hg.messages
  unfold retrace
  rw [hg.startOf, hms, List.take_append_of_le_length (by omega)]

/-- While the handler is not at work and nothing is committed, nothing is to be retraced. -/
theorem Retraced.moved {g : Graph} {c : Course σ} (h : c.Retraced o now view b g) {b' : Broker}
    {stage : Stage} {readings : List Reading}
    (hk : Kept o.entity (b.startOf o.entity) { c with broker := b', stage, readings })
    (hg : c.broker.Grows o.entity b') (hc : b'.committed = c.broker.committed)
    (hs : ∀ m, stage = .storing m → c.stage = .storing m)
    (hd : stage.IsDrained → c.stage.IsDrained ∨ (b.messages o.entity).length ≤ c.committed o.entity) :
    Retraced o now view b g { c with broker := b', stage, readings } := by
  have hre : retrace o now b g b' = retrace o now b g c.broker :=
    retrace_of_grows hg h.kept.committed_le
  have hsame : b'.startOf o.entity = c.broker.startOf o.entity := hg.startOf
  refine ⟨hk, h.sound, ?_, ?_, ?_, ?_, Nat.le_trans h.grown hg.length_le, ?_⟩
  · intro m hm
    rw [Course.committed, hsame] at hm
    rw [hre]
    cases ho : c.broker.messageAt? o.entity (c.broker.startOf o.entity) with
    | some m' =>
      rw [hg.messageAt? ho, Option.some.injEq] at hm
      exact h.onTheWay m (hm ▸ ho)
    | none => rw [h.level ho]
  · intro hn
    rw [hre]
    refine h.level ?_
    rw [Course.committed, hsame] at hn
    cases ho : c.broker.messageAt? o.entity (c.committed o.entity) with
    | none => rfl
    | some m' =>
      have hm := hg.messageAt? ho
      rw [Course.committed, hn] at hm
      cases hm
  · intro m hm
    rw [hre]
    exact h.storing m (hs m hm)
  · intro hst
    rw [Course.committed, hsame]
    exact (hd hst).elim h.drained id
  · rw [hc, Course.committed, hsame]
    exact h.committed

/-- **Handling goes on on the way of the next message**, whatever fails. -/
theorem Retraced.given {g : Graph} {c : Course σ} (h : c.Retraced o now view b g) {m : Message}
    {r : Outcome} {x : σ} (hst : c.stage = .holding m)
    (hr : o.Falters now m (view c.state) r (view x)) :
    Retraced o now view b g { c with
      stage := stageAfter m r
      readings := note { message := m, result := r } c.readings
      state := x } := by
  obtain hid | ⟨r', rs, -, hf⟩ := h.kept.fits
  · rw [hst] at hid
    cases hid
  rw [hst] at hf
  have hm : c.broker.messageAt? o.entity (c.committed o.entity) = some m := hf.2.2.2
  obtain ⟨hs, he, hok⟩ := hr.outcome h.sound
  have hway := h.onTheWay m hm
  refine ⟨h.kept.given hst r x, hs, ?_, ?_, ?_, ?_, h.grown, h.committed⟩
  · intro m' hm'
    obtain rfl : m = m' := Option.some.inj (hm.symm.trans hm')
    exact he.trans hway
  · intro hn
    cases hm.symm.trans hn
  · intro m' hm'
    rcases r with e | ⟨⟩
    · cases hm'
    · cases hm'
      exact (hok rfl).trans hway
  · intro hd
    rcases r with e | ⟨⟩
    · exact absurd hd Bool.false_ne_true
    · exact hd.elim

/-- **A commit moves on to the next message.** -/
theorem Retraced.stored {g : Graph} {c : Course σ} (h : c.Retraced o now view b g)
    (h₀ : 0 ≤ b.startOf o.entity) {m : Message} {b' : Broker} (hst : c.stage = .storing m)
    (hs : c.broker.storePosition m.position = (.ok (), b')) :
    Retraced o now view b g { c with broker := b', stage := .reading false } := by
  obtain ⟨hk, hstart⟩ := h.kept.stored hst hs
  obtain hid | ⟨r, rs, -, hf⟩ := h.kept.fits
  · rw [hst] at hid
    cases hid
  rw [hst] at hf
  have hm : c.broker.messageAt? o.entity (c.committed o.entity) = some m := hf.2.2.2.1
  have hb := Broker.storePosition_ok hs
  have hpos : m.position = { topic := o.entity, offset := c.committed o.entity } := h.kept.placed _ _ hm
  have hmsgs : b'.messages o.entity = c.broker.messages o.entity := by
    rw [hb]
    rfl
  have hle := h.kept.le_committed
  have hre : retrace o now b g b' = o.effect now m (retrace o now b g c.broker) := by
    obtain ⟨n, hn⟩ := Int.eq_ofNat_of_zero_le (Int.le_trans h₀ hle)
    obtain ⟨d, hd⟩ := Int.eq_ofNat_of_zero_le h₀
    have hget : (c.broker.messages o.entity)[n]? = some m := by
      rw [hn, Broker.messageAt?_natCast] at hm
      exact hm
    have hcn : c.broker.startOf o.entity = n := hn
    have hlt := (List.getElem?_eq_some_iff.1 hget).1
    have hlen : d ≤ ((c.broker.messages o.entity).take n).length := by
      rw [List.length_take]
      omega
    unfold retrace
    rw [hmsgs, hstart, hn, hcn, hd, Int.toNat_natCast, Int.toNat_natCast_add_one, Int.toNat_natCast,
      List.take_add_one, hget, Option.toList_some, List.drop_append_of_le_length hlen,
      Orchestrator.replay_concat]
  refine ⟨hk, h.sound, ?_, ?_, by rintro _ ⟨⟩, by rintro ⟨⟩, ?_, ?_⟩
  · intro m' _
    rw [h.storing m hst, hre]
  · intro _
    rw [h.storing m hst, hre]
  · rw [hmsgs]
    exact h.grown
  · show b'.committed = committedUpTo o.entity b (b'.startOf o.entity)
    rw [hstart, committedUpTo_succ hle, hb, hpos, ← h.committed]

def faltering (o : Orchestrator) (now : Instant) (view : σ → Graph) : Conduct σ :=
  fun m x r x' => o.Falters now m (view x) r (view x')

/-- **One moment keeps what is to be retraced.** -/
theorem Retraced.step {g : Graph} {c c' : Course σ} (h : c.Retraced o now view b g)
    (h₀ : 0 ≤ b.startOf o.entity) (hs : Step (faltering o now view) o.entity c c') :
    c'.Retraced o now view b g := by
  have hk := (h.kept.step hs).1
  have polled : ∀ {polled : Polled} {b' : Broker}, c.broker.poll = (polled, b') →
      c.broker.Grows o.entity b' := by
    intro polled b' hp
    have hg := Broker.grows_poll c.broker o.entity
    rw [hp] at hg
    exact hg
  cases hs with
  | publish topic key value metadata =>
    exact h.moved hk (Broker.grows_publish ..) rfl (fun _ hm => hm) .inl
  | failNextPoll reason => exact h.moved hk (.of_messages_eq rfl rfl) rfl (fun _ hm => hm) .inl
  | failNextStore reason => exact h.moved hk (.of_messages_eq rfl rfl) rfl (fun _ hm => hm) .inl
  | subscribe =>
    exact h.moved hk (.of_messages_eq rfl rfl) rfl (by rintro _ ⟨⟩) fun hd => absurd hd Bool.false_ne_true
  | stop hst =>
    refine h.moved hk (.of_messages_eq rfl rfl) rfl (by rintro _ ⟨⟩) fun hd => .inl ?_
    rw [hst]
    exact hd
  | pollFailed hst hp =>
    obtain ⟨rest, rfl⟩ := Broker.poll_failed hp
    exact h.moved hk (polled hp) rfl (by rintro _ ⟨⟩) fun hd => absurd hd Bool.false_ne_true
  | pollNothing hst hp =>
    obtain ⟨rfl, topic, ht, hn⟩ := Broker.poll_nothing hp
    refine h.moved hk (polled hp) rfl (by rintro _ ⟨⟩) fun _ => .inr ?_
    obtain hid | ⟨r, rs, -, hf⟩ := h.kept.fits
    · rw [hst] at hid
      cases hid
    rw [hst] at hf
    obtain ⟨hsub, hcur, -⟩ := hf
    obtain rfl : o.entity = topic := Option.some.inj (hsub.symm.trans ht)
    rw [hcur] at hn
    have hge := Broker.length_le_of_messageAt?_none (Int.le_trans h₀ h.kept.le_committed) hn
    exact Int.le_trans (Int.ofNat_le.2 h.grown) hge
  | pollMessage hst hp =>
    obtain ⟨topic, -, -, -, rfl⟩ := Broker.poll_message hp
    exact h.moved hk (polled hp) rfl (by rintro _ ⟨⟩) False.elim
  | handle hst hr => exact h.given hst hr
  | store hst hs => exact h.stored h₀ hst hs
  | storeFailed hst hs =>
    obtain ⟨rest, rfl⟩ := Broker.storePosition_error hs
    exact h.moved hk (.of_messages_eq rfl rfl) rfl (by rintro _ ⟨⟩) fun hd => absurd hd Bool.false_ne_true

theorem retraced_start (hb : b.IsPlaced o.entity) (h₀ : 0 ≤ b.startOf o.entity)
    (hle : b.startOf o.entity ≤ (b.messages o.entity).length) (h : (view x).Sound) :
    Retraced o now view b (view x) (start b x) := by
  have hre : retrace o now b (view x) b = view x := by
    obtain ⟨n, hn⟩ := Int.eq_ofNat_of_zero_le h₀
    unfold retrace
    rw [hn, Int.toNat_natCast, List.drop_of_length_le (List.length_take_le _ _)]
    rfl
  refine ⟨kept_start hb h₀ hle x, h, ?_, ?_, by rintro _ ⟨⟩, False.elim, Nat.le_refl _, ?_⟩
  · intro m _
    exact congrArg (o.effect now m) hre.symm
  · exact fun _ => hre.symm
  · exact (if_pos rfl).symm

/-- **A course that ends at the end of its topic has retraced it**: the graph is that of the messages one
after the other, and all of them are committed. -/
theorem drained (view : σ → Graph) {c : Course σ} {g : Graph} {outcome : Outcome} (hb : b.IsPlaced o.entity)
    (h₀ : 0 ≤ b.startOf o.entity) (hle : b.startOf o.entity ≤ (b.messages o.entity).length)
    (h : g.Sound) (hx : view x = g) (hs : Steps (faltering o now view) o.entity (start b x) c)
    (hm : c.broker.messages o.entity = b.messages o.entity) (hst : c.stage = .ended outcome true) :
    view c.state = o.replay now ((b.messages o.entity).drop (b.startOf o.entity).toNat) g ∧
      c.broker.committed = committedUpTo o.entity b (b.messages o.entity).length := by
  subst hx
  have hr : c.Retraced o now view b (view x) := by
    clear hm hst
    induction hs with
    | refl => exact retraced_start hb h₀ hle h
    | tail _ hs ih => exact ih.step h₀ hs
  have hall : c.committed o.entity = (b.messages o.entity).length := by
    have hge := hr.drained (hst ▸ rfl)
    have hup := hr.kept.committed_le
    rw [hm] at hup
    omega
  refine ⟨?_, hall ▸ hr.committed⟩
  have hnone : c.broker.messageAt? o.entity (c.committed o.entity) = none := by
    rw [hall, Broker.messageAt?_natCast, hm]
    exact List.getElem?_eq_none (Nat.le_refl _)
  have hre := hr.level hnone
  unfold retrace at hre
  rw [hre, hm, show c.broker.startOf o.entity = _ from hall, Int.toNat_natCast, List.take_length]

end Course

/-! ## Destinations -/

/-- **A graph in memory as a destination**, at a time that stands still. -/
def Graph.destination (now : Instant) : Destination Graph :=
  { serve := Graph.server now, now := fun _ => now }

/-- **A destination some of whose calls fail**, at a time that stands still and in states of a kind that
it keeps to: a call is answered by the graph, or it fails without reaching it, and not because something
is not found. -/
structure Destination.Falters {τ : Type} (d : Destination τ) (now : Instant) (view : τ → Graph)
    (P : τ → Prop) : Prop where
  clock : ∀ s, P s → d.now s = now
  keeps : ∀ c s, P s → P (d.serve c s).2
  serve : ∀ c s, P s →
    ((d.serve c s).1 = ((view s).serve now c).1 ∧ view (d.serve c s).2 = ((view s).serve now c).2) ∨
    ∃ e : GraphError, e.isNotFound = false ∧ (d.serve c s).1 = .error e ∧ view (d.serve c s).2 = view s

section Destinations

variable {τ : Type} {d : Destination τ} {now : Instant} {view : τ → Graph} {P : τ → Prop}

theorem Destination.Falters.run {α : Type} (hd : d.Falters now view P) {kind : GraphError → Prop}
    (hk : ∀ e, e.isNotFound = false → kind e) (p : Plan α) {s : τ} (hs : P s) :
    p.Falters now kind (view s) (p.run d.serve s).1 (view (p.run d.serve s).2) ∧
      P (p.run d.serve s).2 := by
  induction p generalizing s with
  | done a => exact ⟨.done a _, hs⟩
  | fail e => exact ⟨.fail e _, hs⟩
  | call c next ih =>
    obtain ⟨hrun, hkeep⟩ := ih (d.serve c s).1 (hd.keeps c s hs)
    refine ⟨?_, hkeep⟩
    rcases hd.serve c s hs with ⟨hr, hv⟩ | ⟨e, he, hr, hv⟩
    · rw [hv] at hrun
      exact .answered (hr ▸ hrun)
    · rw [hv] at hrun
      exact .refused (hk e he) (hr ▸ hrun)

theorem Orchestrator.handler_falters (o : Orchestrator) (hd : d.Falters now view P) (m : Message)
    {x : Stats × τ} (hx : P x.2) :
    o.Falters now m (view x.2) (o.handler d m x).result (view (o.handler d m x).state.2) ∧
      P (o.handler d m x).state.2 := by
  obtain ⟨stats, s⟩ := x
  unfold Falters handler
  rcases hev : m.event? o.major with e | _ | e <;> simp only [load]
  · exact ⟨⟨trivial, trivial⟩, hx⟩
  · exact ⟨⟨trivial, trivial⟩, hx⟩
  · have hk : ∀ f : GraphError, f.isNotFound = false → e.StopsAt f := by
      intro f hf
      cases e with
      | upsert p => exact trivial
      | retire r => exact hf
    obtain ⟨hrun, hkeep⟩ := hd.run hk (e.plan o.accountKey (d.now s)) hx
    rw [hd.clock s hx] at hrun hkeep ⊢
    rcases hp : (e.plan o.accountKey now).run d.serve s with ⟨_ | ⟨⟩, s'⟩ <;>
      (rw [hp] at hrun hkeep; exact ⟨⟨now, hrun⟩, hkeep⟩)

theorem Orchestrator.fires_handler (o : Orchestrator) (d : Destination τ) (m : Message) (x : Stats × τ) :
    (o.handler d m x).fires = false := by
  obtain ⟨stats, s⟩ := x
  unfold handler
  rcases m.event? o.major with e | e
  · rfl
  · simp only
    rcases o.load d s e with ⟨_ | ⟨⟩, s'⟩ <;> rfl

theorem Graph.destination_falters (now : Instant) :
    (Graph.destination now).Falters now id fun _ => True :=
  ⟨fun _ _ => rfl, fun _ _ _ => trivial, fun _ _ _ => .inl ⟨rfl, rfl⟩⟩

/-- A scene whose waiting failures are none of what is not found. -/
theorem Scene.destination_falters (now : Instant) :
    Scene.destination.Falters now Scene.graph
      fun s => s.now = now ∧ ∀ f ∈ s.faults, f.error.isNotFound = false := by
  have hserve : ∀ c s, (s.now = now ∧ ∀ f ∈ s.faults, f.error.isNotFound = false) →
      ((Scene.serve c s).2.now = now ∧ ∀ f ∈ (Scene.serve c s).2.faults, f.error.isNotFound = false) ∧
      (((Scene.serve c s).1 = (s.graph.serve now c).1 ∧
          (Scene.serve c s).2.graph = (s.graph.serve now c).2) ∨
        ∃ e : GraphError, e.isNotFound = false ∧ (Scene.serve c s).1 = .error e ∧
          (Scene.serve c s).2.graph = s.graph) := by
    intro c s hs
    have hm := Fault.meet_keeps (P := fun _ e => e.isNotFound = false) hs.2 c.method
    simp only [Scene.serve]
    rcases hmeet : Fault.meet c.method s.faults with ⟨_ | e, faults⟩ <;> rw [hmeet] at hm
    · refine ⟨⟨hs.1, hm.2⟩, .inl ?_⟩
      rw [← hs.1]
      exact ⟨rfl, rfl⟩
    · exact ⟨⟨hs.1, hm.2⟩, .inr ⟨e, hm.1 e rfl, rfl, rfl⟩⟩
  exact ⟨fun s hs => hs.1, fun c s hs => (hserve c s hs).1, fun c s hs => (hserve c s hs).2⟩

end Destinations

/-! ## Publishing -/

/-- The metadata of a message about an asset. -/
def AssetKey.metadata (k : AssetKey) : List (String × Bytes) :=
  [("version", Utf8.encode "0.1.0"), ("type", Utf8.encode k.type),
    ("identifier", Utf8.encode k.identifier)]

/-- What says that an asset exists. -/
def Payload.entry (p : Payload) : Entry :=
  { key := Utf8.encode s!"{p.team.id}/{p.id}", value := some p.encode, metadata := p.assetKey.metadata }

/-- What says that a team gives up an asset. -/
def Retirement.entry (r : Retirement) : Entry :=
  { key := Utf8.encode s!"{r.teamId}/{r.assetId}", value := none, metadata := r.asset.metadata }

/-! ## Failures and retries -/

/-- **Failures with retries are invisible in the graph.**  Say that a run over an empty graph, at a time
that stands still and with no call that fails, ends because its topic is drained.  Then every course over
the same topic ends, when it is drained, in the very same graph and with the same committed, whatever
failed on the way: polls, commits, and calls to the graph with errors of every kind, except that
retirements get none of what is not found.  So does every run of a handler that works on the graph as
the indexer's does, with such failures. -/
theorem Orchestrator.retries_leave_no_trace (o : Orchestrator) (now : Instant) {b : Broker} (hb : b.Made)
    (h₀ : 0 ≤ b.startOf o.entity) (hle : b.startOf o.entity ≤ (b.messages o.entity).length)
    {limit attempts : Nat} {stats : Stats} {s : Session (Stats × Graph)}
    (hrun : o.run (Graph.destination now) limit attempts
      { broker := b, firesWhenDrained := true, state := (stats, Graph.empty) } = (some (.ok ()), s)) :
    (∀ {σ : Type} (view : σ → Graph) (x : σ) (c : Course σ) (outcome : Outcome), view x = Graph.empty →
      Course.Steps (Course.faltering o now view) o.entity (Course.start b x) c →
      c.broker.messages o.entity = b.messages o.entity → c.stage = .ended outcome true →
      view c.state = s.state.2 ∧ c.broker.committed = s.broker.committed) ∧
    (∀ {σ : Type} (h : Handler σ) (view : σ → Graph) (P : σ → Prop) (x : σ)
      (pollFailures storeFailures : List String) (limit' attempts' : Nat) (s' : Session σ),
      (∀ m y, P y → o.Falters now m (view y) (h m y).result (view (h m y).state) ∧ P (h m y).state) →
      (∀ m y, (h m y).fires = false) → P x → view x = Graph.empty →
      o.runWith h limit' attempts'
        { broker := { b with pollFailures, storeFailures }, firesWhenDrained := true, state := x } =
          (some (.ok ()), s') →
      view s'.state = s.state.2 ∧ s'.broker.committed = s.broker.committed) := by
  -- a drained run of either kind is a drained course, and those end alike
  have drained : ∀ {σ : Type} (h : Handler σ) (view : σ → Graph) (P : σ → Prop) (x : σ) (b' : Broker)
      (limit' attempts' : Nat) (s' : Session σ),
      (∀ m y, P y → o.Falters now m (view y) (h m y).result (view (h m y).state) ∧ P (h m y).state) →
      (∀ m y, (h m y).fires = false) → P x → view x = Graph.empty → b'.IsPlaced o.entity →
      b'.messages o.entity = b.messages o.entity → b'.committed = b.committed →
      o.runWith h limit' attempts' { broker := b', firesWhenDrained := true, state := x } =
        (some (.ok ()), s') →
      view s'.state = o.replay now ((b.messages o.entity).drop (b.startOf o.entity).toNat) Graph.empty ∧
        s'.broker.committed = Course.committedUpTo o.entity b (b.messages o.entity).length := by
    intro σ h view P x b' limit' attempts' s' hh hf hx hv hp hm hc hrun
    obtain ⟨c, hs, htr, hmsgs, hq⟩ := o.steps_runWith h limit' attempts'
      (s := { broker := b', firesWhenDrained := true, state := x }) (c := Course.start b' x) ⟨rfl, rfl⟩
    rw [hrun] at htr hq
    have hst := hq hf rfl rfl
    have hs' : Course.Steps (Course.faltering o now view) o.entity (Course.start b' x) c := by
      refine (hs.mono (P := P) (fun m y r y' hy hc => ?_) hx).1
      obtain ⟨rfl, rfl⟩ := hc
      exact hh m y hy
    have hstart : b'.startOf o.entity = b.startOf o.entity := by
      unfold Broker.startOf
      rw [hc]
    obtain ⟨hview, hcommitted⟩ := Course.drained view hp (hstart ▸ h₀) (by rw [hstart, hm]; exact hle)
      Graph.sound_empty hv hs' (hmsgs o.entity) hst
    rw [hm, hstart] at hview
    rw [Course.committedUpTo, hstart, hc, hm] at hcommitted
    rw [← htr.broker, ← htr.state]
    exact ⟨hview, hcommitted⟩
  obtain ⟨hgraph, hcommitted⟩ := drained (o.handler (Graph.destination now)) (fun x => x.2) (fun _ => True)
    (stats, Graph.empty) b limit attempts s
    (fun m y _ => ⟨(o.handler_falters (Graph.destination_falters now) m trivial).1, trivial⟩)
    (o.fires_handler _) trivial rfl (hb.isPlaced o.entity) rfl rfl hrun
  rw [hgraph, hcommitted]
  refine ⟨?_, ?_⟩
  · intro σ view x c outcome hx hs hm hst
    exact Course.drained view (hb.isPlaced o.entity) h₀ hle Graph.sound_empty hx hs hm hst
  · intro σ h view P x pollFailures storeFailures limit' attempts' s' hh hf hx hv hrun'
    exact drained h view P x { b with pollFailures, storeFailures } limit' attempts' s' hh hf hx hv
      (Broker.isPlaced_of_messages_eq (hb.isPlaced o.entity) rfl) rfl rfl hrun'

/-- A poll, a commit and the creation of a team fail on the way of one message. -/
theorem Orchestrator.retries_leave_no_trace_of_three_failures :
    let o : Orchestrator := {}
    let now : Instant := { second := 0 }
    let p : Payload :=
      { id := "h", team := { id := "t", name := "Team" }, assetType := "Hostname", identifier := "h" }
    let b := ({} : Broker).publishAll o.entity [p.entry]
    let scene : Scene := { now, faults := [{ method := .createTeam, error := .transport "down" }] }
    ∃ (s : Session (Stats × Graph)) (s' : Session (Stats × Scene)),
      o.run (Graph.destination now) 3 1
        { broker := b, firesWhenDrained := true, state := ({}, Graph.empty) } = (some (.ok ()), s) ∧
      o.run Scene.destination 3 4
        { broker := { b with pollFailures := ["gone"], storeFailures := ["lost"] }
          firesWhenDrained := true, state := ({}, scene) } = (some (.ok ()), s') ∧
      s'.state.2.graph = s.state.2 ∧ s'.broker.committed = s.broker.committed ∧
      s.state.2.assets.length = 1 := by
  intro o now p b scene
  have hb : b.Made := Broker.Made.empty.publishAll o.entity [p.entry]
  have hrun : (o.run (Graph.destination now) 3 1
      { broker := b, firesWhenDrained := true, state := ({}, Graph.empty) }).1 = some (.ok ()) := by
    decide +kernel
  have hrun' : (o.run Scene.destination 3 4
      { broker := { b with pollFailures := ["gone"], storeFailures := ["lost"] }
        firesWhenDrained := true, state := ({}, scene) }).1 = some (.ok ()) := by
    decide +kernel
  have hlost : ∀ f ∈ scene.faults, f.error.isNotFound = false := by decide
  have hsame := (o.retries_leave_no_trace now hb (by decide +kernel) (by decide +kernel)
    (Prod.ext hrun rfl)).2 (o.handler Scene.destination) (fun x => x.2.graph)
    (fun x => x.2.now = now ∧ ∀ f ∈ x.2.faults, f.error.isNotFound = false) ({}, scene) ["gone"] ["lost"] 3 4 _
    (fun m y hy => o.handler_falters (Scene.destination_falters now) m hy) (o.fires_handler _) ⟨rfl, hlost⟩
    rfl (Prod.ext hrun' rfl)
  exact ⟨_, _, Prod.ext hrun rfl, Prod.ext hrun' rfl, hsame.1, hsame.2, by decide +kernel⟩

end AssetGraph
