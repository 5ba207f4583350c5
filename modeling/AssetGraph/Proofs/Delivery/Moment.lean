import AssetGraph.Proofs.Delivery.AtLeastOnce
/-!
# What a moment does

A call that goes on finds next the message behind the last one that was handled, whatever the offset at
which it began (`Course.Poised`).  So a moment does one of three things (`Course.Effect`): it handles the
message at that offset, it loses the commit of the last one, or it leaves what has been handled alone.
`Poised.step` says that these are all; what counts or lists the messages handled goes by it.
-/
namespace AssetGraph

/-- **What the broker reads next** fits where the call stands. -/
def Stage.Poised (entity : String) (b : Broker) : Stage → Prop
  | .idle => True
  | .reading _ => b.subscription = some entity ∧ b.cursor = b.startOf entity
  | .holding m => b.subscription = some entity ∧ b.cursor = b.startOf entity + 1 ∧
      b.messageAt? entity (b.startOf entity) = some m
  | .storing m => b.subscription = some entity ∧ b.cursor = b.startOf entity + 1 ∧
      b.messageAt? entity (b.startOf entity) = some m
  | .ended (.ok ()) _ => b.subscription = some entity ∧ b.cursor = b.startOf entity
  | .ended (.error _) _ => True

/-- How many messages are handled and wait to be committed. -/
def Stage.uncommitted : Stage → Int
  | .storing _ => 1
  | _ => 0

theorem Stage.IsSettled.uncommitted {stage : Stage} (h : stage.IsSettled) : stage.uncommitted = 0 := by
  unfold Stage.uncommitted
  split
  · rename_i m
    exact absurd rfl (h m)
  · rfl

theorem Stage.Poised.grows {entity : String} {b b' : Broker} {stage : Stage}
    (h : stage.Poised entity b) (hg : b.Grows entity b') (hs : b'.subscription = b.subscription)
    (hc : b'.cursor = b.cursor) : stage.Poised entity b' := by
  unfold Poised at h ⊢
  rw [hg.startOf, hs, hc]
  split at h
  · trivial
  · exact h
  · exact ⟨h.1, h.2.1, hg.messageAt? h.2.2⟩
  · exact ⟨h.1, h.2.1, hg.messageAt? h.2.2⟩
  · exact h
  · trivial

namespace Course

variable {σ : Type} {conduct : Conduct σ} {entity : String} {c c' : Course σ}

/-- The offset behind the last message that was handled, unless its commit has failed. -/
def reached (c : Course σ) (entity : String) : Int := c.committed entity + c.stage.uncommitted

theorem reached_of_isSettled (h : c.stage.IsSettled) : c.reached entity = c.committed entity := by
  rw [reached, h.uncommitted, Int.add_zero]

structure Poised (entity : String) (c : Course σ) : Prop where
  placed : c.broker.IsPlaced entity
  stage : c.stage.Poised entity c.broker
  begun : c.stage = .idle ∨ c.readings ≠ []

/-- **What a moment does** to what has been handled. -/
inductive Effect (conduct : Conduct σ) (entity : String) (c c' : Course σ) : Prop
  | still (deliveries : c'.deliveries = c.deliveries) (state : c'.state = c.state)
      (reached : c'.reached entity = c.reached entity)
      (stores : c.broker.storeFailures.length ≤ c'.broker.storeFailures.length)
  | handled {m : Message} {r : Outcome}
      (message : c.broker.messageAt? entity (c.reached entity) = some m)
      (conducted : conduct m c.state r c'.state)
      (deliveries : c'.deliveries = c.deliveries ++ [{ message := m, result := r }])
      (reached : c'.reached entity = c.reached entity + if r = .ok () then 1 else 0)
      (stores : c'.broker.storeFailures.length = c.broker.storeFailures.length)
  | lost (deliveries : c'.deliveries = c.deliveries) (state : c'.state = c.state)
      (reached : c'.reached entity + 1 = c.reached entity)
      (stores : c.broker.storeFailures.length = c'.broker.storeFailures.length + 1)

/-- Messages only come to lie behind those there are. -/
theorem Step.messages_grow (h : Step conduct entity c c') (topic : String) :
    c.broker.messages topic <+: c'.broker.messages topic := by
  have of_eq : ∀ {b : Broker}, b.messages topic = c.broker.messages topic →
      c.broker.messages topic <+: b.messages topic := fun h => h ▸ List.prefix_rfl
  have polled : ∀ {polled : Polled} {b : Broker}, c.broker.poll = (polled, b) →
      c.broker.messages topic <+: b.messages topic := by
    intro polled b hp
    obtain rfl : c.broker.poll.2 = b := by rw [hp]
    exact of_eq (c.broker.messages_poll topic)
  have stored : ∀ {p : Position} {r : Except String Unit} {b : Broker},
      c.broker.storePosition p = (r, b) → c.broker.messages topic <+: b.messages topic := by
    intro p r b hs
    obtain rfl : (c.broker.storePosition p).2 = b := by rw [hs]
    exact of_eq (c.broker.messages_storePosition p topic)
  cases h with
  | publish t key value metadata =>
    obtain ⟨ms, hms⟩ := c.broker.messages_publish_eq_append t topic key value metadata
    exact ⟨ms, hms.symm⟩
  | failNextPoll => exact of_eq rfl
  | failNextStore => exact of_eq rfl
  | subscribe => exact of_eq rfl
  | stop => exact of_eq rfl
  | pollFailed _ hp => exact polled hp
  | pollNothing _ hp => exact polled hp
  | pollMessage _ hp => exact polled hp
  | handle => exact of_eq rfl
  | store _ hs => exact stored hs
  | storeFailed _ hs => exact stored hs

theorem poised_start {b : Broker} (hb : b.IsPlaced entity) (x : σ) : (start b x).Poised entity :=
  ⟨hb, trivial, .inl rfl⟩

theorem Poised.under (h : c.Poised entity) {stage : Stage} (hst : c.stage = stage) (hne : stage ≠ .idle) :
    stage.Poised entity c.broker ∧ c.readings ≠ [] := by
  subst hst
  exact ⟨h.stage, h.begun.resolve_left hne⟩

theorem deliveries_note {d : Delivery} {stage : Stage} {x : σ} (h : c.readings ≠ []) :
    deliveries { c with stage, readings := note d c.readings, state := x } = c.deliveries ++ [d] := by
  obtain ⟨r, rs, hr⟩ := List.exists_cons_of_ne_nil h
  have hnote : note d c.readings = { r with deliveries := r.deliveries ++ [d] } :: rs := by
    rw [hr]
    rfl
  rw [hnote, deliveries_of_cons rfl, deliveries_of_cons hr, List.append_assoc]

/-- The call goes on, and nothing is handled or committed. -/
theorem Poised.moved (h : c.Poised entity) {b : Broker} {stage : Stage} (hg : c.broker.Grows entity b)
    (hstores : c.broker.storeFailures.length ≤ b.storeFailures.length) (hf : stage.Poised entity b)
    (hb : stage = .idle ∨ c.readings ≠ []) (hu : stage.uncommitted = c.stage.uncommitted) :
    Poised entity { c with broker := b, stage } ∧
      Effect conduct entity c { c with broker := b, stage } := by
  refine ⟨⟨hg.isPlaced h.placed, hf, hb⟩, .still rfl rfl ?_ hstores⟩
  rw [reached, reached, committed, committed, hg.startOf, hu]

/-- **The message that is handled lies where the handling has got to.** -/
theorem Poised.given (h : c.Poised entity) {m : Message} {r : Outcome} {x : σ}
    (hst : c.stage = .holding m) (hr : conduct m c.state r x) :
    let c' := { c with
      stage := stageAfter m r
      readings := note { message := m, result := r } c.readings
      state := x }
    c'.Poised entity ∧ Effect conduct entity c c' := by
  obtain ⟨hpoised, hbegun⟩ := h.under hst Stage.noConfusion
  have hreached : c.reached entity = c.broker.startOf entity := by
    rw [reached, hst]
    exact Int.add_zero _
  have hnote : note { message := m, result := r } c.readings ≠ [] := by
    intro hnil
    have hlen := note_length { message := m, result := r } c.readings
    rw [hnil] at hlen
    exact hbegun (List.length_eq_zero_iff.1 hlen.symm)
  refine ⟨⟨h.placed, ?_, .inr hnote⟩, .handled (r := r) ?_ hr (deliveries_note hbegun) ?_ rfl⟩
  · rcases r with e | ⟨⟩
    · trivial
    · exact hpoised
  · rw [hreached]
    exact hpoised.2.2
  · rw [hreached]
    rcases r with e | ⟨⟩
    · have hne : (.error e : Outcome) ≠ .ok () := by rintro ⟨⟩
      exact congrArg (c.broker.startOf entity + ·) (if_neg hne).symm
    · exact congrArg (c.broker.startOf entity + ·) (if_pos rfl).symm

/-- A commit that succeeds puts the committed offset where the handling has got to. -/
theorem Poised.stored (h : c.Poised entity) {m : Message} {b : Broker} (hst : c.stage = .storing m)
    (hs : c.broker.storePosition m.position = (.ok (), b)) :
    let c' := { c with broker := b, stage := .reading false }
    c'.Poised entity ∧ Effect conduct entity c c' := by
  obtain ⟨⟨hsub, hcur, hm⟩, hbegun⟩ := h.under hst Stage.noConfusion
  have hb := Broker.storePosition_ok hs
  have hstart : b.startOf entity = c.broker.startOf entity + 1 := by
    rw [hb, h.placed _ _ hm, Broker.startOf, Table.get?_set, if_pos rfl]
    rfl
  refine ⟨⟨Broker.isPlaced_of_messages_eq h.placed ?_, ⟨?_, ?_⟩, .inr hbegun⟩, .still rfl rfl ?_ ?_⟩
  · rw [hb]
    rfl
  · rw [hb]
    exact hsub
  · rw [hstart, hb]
    exact hcur
  · rw [reached, reached, committed, committed, hstart, hst]
    exact Int.add_zero _
  · exact Nat.le_of_eq (congrArg (fun b => b.storeFailures.length) hb).symm

/-- **What one moment of a call does**, and where it leaves the call. -/
theorem Poised.step (h : c.Poised entity) (hs : Unbroken conduct entity c c') :
    c'.Poised entity ∧ Effect conduct entity c c' := by
  -- what comes from outside leaves the call where it stands
  have around : ∀ {b : Broker}, c.broker.Grows entity b → b.subscription = c.broker.subscription →
      b.cursor = c.broker.cursor → c.broker.storeFailures.length ≤ b.storeFailures.length →
      Poised entity { c with broker := b } ∧ Effect conduct entity c { c with broker := b } :=
    fun hg hsub hcur hstores => h.moved hg hstores (h.stage.grows hg hsub hcur) h.begun rfl
  have polled : ∀ {polled : Polled} {b : Broker}, c.broker.poll = (polled, b) →
      c.broker.Grows entity b ∧ c.broker.storeFailures.length ≤ b.storeFailures.length := by
    intro polled b hp
    obtain rfl : c.broker.poll.2 = b := by rw [hp]
    exact ⟨Broker.grows_poll c.broker entity, Nat.le_of_eq (by rw [c.broker.storeFailures_poll])⟩
  obtain ⟨step, settled⟩ := hs
  cases step with
  | publish topic key value metadata =>
    exact around (Broker.grows_publish c.broker entity topic key value metadata) rfl rfl (Nat.le_refl _)
  | failNextPoll reason =>
    exact around (.of_messages_eq rfl rfl) rfl rfl (Nat.le_refl _)
  | failNextStore reason =>
    refine around (.of_messages_eq rfl rfl) rfl rfl ?_
    rw [Broker.failNextStore, List.length_append]
    exact Nat.le_add_right _ _
  | subscribe =>
    have hsettled : c.stage.IsSettled := by
      refine settled.resolve_left fun hlen => ?_
      exact Nat.succ_ne_self _ hlen
    refine ⟨⟨h.placed, ⟨rfl, rfl⟩, .inr (List.cons_ne_nil _ _)⟩, .still ?_ rfl ?_ (Nat.le_refl _)⟩
    · rw [deliveries_of_cons rfl, List.append_nil]
      rfl
    · rw [reached_of_isSettled hsettled]
      exact Int.add_zero _
  | stop hst =>
    obtain ⟨hpoised, hbegun⟩ := h.under hst Stage.noConfusion
    refine h.moved (.of_messages_eq rfl rfl) (Nat.le_refl _) hpoised (.inr hbegun) ?_
    rw [hst]
    rfl
  | pollFailed hst hp =>
    obtain ⟨hg, hstores⟩ := polled hp
    refine h.moved hg hstores trivial (.inr (h.under hst Stage.noConfusion).2) ?_
    rw [hst]
    rfl
  | pollNothing hst hp =>
    obtain ⟨hg, hstores⟩ := polled hp
    obtain ⟨hpoised, hbegun⟩ := h.under hst Stage.noConfusion
    obtain ⟨rfl, -⟩ := Broker.poll_nothing hp
    refine h.moved hg hstores hpoised (.inr hbegun) ?_
    rw [hst]
    rfl
  | @pollMessage d m b hst hp =>
    obtain ⟨hg, hstores⟩ := polled hp
    obtain ⟨⟨hsub, hcur⟩, hbegun⟩ := h.under hst Stage.noConfusion
    obtain ⟨topic, ht, hm, -, rfl⟩ := Broker.poll_message hp
    obtain rfl : entity = topic := Option.some.inj (hsub.symm.trans ht)
    rw [hcur] at hm
    refine h.moved hg hstores ⟨hsub, congrArg (· + 1) hcur, hm⟩ (.inr hbegun) ?_
    rw [hst]
    rfl
  | handle hst hr => exact h.given hst hr
  | store hst hs => exact h.stored hst hs
  | @storeFailed m reason b hst hs =>
    have hfailed := Broker.storeFailures_of_error hs
    obtain ⟨rest, rfl⟩ := Broker.storePosition_error hs
    refine ⟨⟨Broker.isPlaced_of_messages_eq h.placed rfl, trivial,
      .inr (h.under hst Stage.noConfusion).2⟩, .lost rfl rfl ?_ ?_⟩
    · rw [reached, reached, hst]
      exact congrArg (· + 1) (Int.add_zero _)
    · rw [hfailed]
      rfl

end Course

end AssetGraph
