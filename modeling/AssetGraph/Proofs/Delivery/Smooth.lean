import AssetGraph.Proofs.Delivery.Drain
import AssetGraph.Proofs.Delivery.Moment
import AssetGraph.Proofs.Delivery.Retry
/-!
# Courses in which nothing fails

Where no failure lies in the broker's way and every message is handled without error, a course hands its
handler the messages behind the offset at which it began, each once and in order, however it is cut into
calls (`Course.Undisturbed`).  One call that is not cut at all would have handed over the same
(`Course.Twin`).
-/
namespace AssetGraph

namespace Course

variable {σ : Type} {conduct : Conduct σ} {entity : String} {c c' t : Course σ} {c₀ : Int}

/-- **One moment to the next, where nothing fails.** -/
structure Smooth (conduct : Conduct σ) (entity : String) (c c' : Course σ) : Prop
    extends Unbroken conduct entity c c' where
  clear : c'.broker.IsClear
  succeeds : ∀ d ∈ c'.deliveries, d.result = .ok ()

abbrev Smoothly (conduct : Conduct σ) (entity : String) : Course σ → Course σ → Prop :=
  Relation.ReflTransGen (Smooth conduct entity)

/-- No call ends otherwise than well. -/
theorem Smooth.ended (hc : c.Poised entity) (hclear : c.broker.IsClear)
    (hs : Smooth conduct entity c c') {outcome : Outcome} {isDrained : Bool}
    (h : c'.stage = .ended outcome isDrained) :
    outcome = .ok () ∨ c.stage = .ended outcome isDrained := by
  obtain ⟨⟨step, -⟩, -, hok⟩ := hs
  cases step with
  | publish => exact .inr h
  | failNextPoll => exact .inr h
  | failNextStore => exact .inr h
  | subscribe => cases h
  | stop hst =>
    cases h
    exact .inl rfl
  | pollFailed hst hp =>
    obtain ⟨⟨hsub, -⟩, -⟩ := hc.under hst Stage.noConfusion
    exact absurd hp (hclear.poll_ne_failed hsub)
  | pollNothing => cases h
  | pollMessage => cases h
  | @handle m r x hst hr =>
    rcases r with e | ⟨⟩
    · obtain ⟨-, hbegun⟩ := hc.under hst Stage.noConfusion
      have herror := hok { message := m, result := .error e } (by
        rw [deliveries_note hbegun]
        exact List.mem_append_right _ List.mem_cons_self)
      cases herror
    · cases h
  | store => cases h
  | storeFailed hst hs =>
    have hfailed := Broker.storeFailures_of_error hs
    rw [hclear.stores] at hfailed
    cases hfailed

/-! ## Each message once, in order -/

/-- **What is so of a course that began at an offset**, while nothing fails. -/
structure Undisturbed (entity : String) (c₀ : Int) (c : Course σ) : Prop where
  poised : c.Poised entity
  clear : c.broker.IsClear
  ended : ∀ outcome isDrained, c.stage = .ended outcome isDrained → outcome = .ok ()
  reached : c.reached entity = c₀ + c.deliveries.length
  handled : c.deliveries.map (·.message) <+: c.broker.messagesFrom entity c₀

theorem undisturbed_start {b : Broker} (hb : b.IsPlaced entity) (hclear : b.IsClear) (x : σ) :
    (start b x).Undisturbed entity (b.startOf entity) where
  poised := poised_start hb x
  clear := hclear
  ended := fun _ _ h => Stage.noConfusion h
  reached := rfl
  handled := List.nil_prefix

/-- The message at the end of what has been handled. -/
theorem Undisturbed.given (h : c.Undisturbed entity c₀) {m : Message}
    (hm : c.broker.messageAt? entity (c.reached entity) = some m) :
    c.deliveries.map (·.message) ++ [m] <+: c.broker.messagesFrom entity c₀ := by
  have h₀ : 0 ≤ c₀ := by
    by_contra hneg
    have hnil : c.broker.messagesFrom entity c₀ = [] := if_neg hneg
    have hnone := List.prefix_nil.1 (hnil ▸ h.handled)
    have hlen : c.deliveries.length = 0 := by
      rw [← List.length_map (·.message), hnone, List.length_nil]
    have hat := (Broker.messageAt?_lt hm).1
    rw [h.reached, hlen] at hat
    omega
  obtain ⟨rest, hrest⟩ := h.handled
  rw [h.reached, ← Broker.getElem?_messagesFrom _ _ h₀, ← hrest, List.getElem?_append_right (by simp),
    List.length_map, Nat.sub_self] at hm
  cases rest with
  | nil => cases hm
  | cons m' rest =>
    obtain rfl := Option.some.inj hm
    exact ⟨rest, by rw [← hrest, List.append_assoc]; rfl⟩

theorem Undisturbed.step (h : c.Undisturbed entity c₀) (hs : Smooth conduct entity c c') :
    c'.Undisturbed entity c₀ := by
  obtain ⟨hpoised, heffect⟩ := h.poised.step hs.toUnbroken
  have hgrow := Broker.messagesFrom_grow (hs.step.messages_grow entity) c₀
  have hended : ∀ outcome isDrained, c'.stage = .ended outcome isDrained → outcome = .ok () := by
    intro outcome isDrained hst
    rcases hs.ended h.poised h.clear hst with hok | hst
    · exact hok
    · exact h.ended outcome isDrained hst
  cases heffect with
  | still hdel _ hreached _ =>
    refine ⟨hpoised, hs.clear, hended, ?_, ?_⟩
    · rw [hreached, hdel, h.reached]
    · rw [hdel]
      exact h.handled.trans hgrow
  | @handled m r hm _ hdel hreached _ =>
    have hmem : ({ message := m, result := r } : Delivery) ∈ c'.deliveries := by
      rw [hdel]
      exact List.mem_append_right _ List.mem_cons_self
    obtain rfl : r = .ok () := hs.succeeds _ hmem
    refine ⟨hpoised, hs.clear, hended, ?_, ?_⟩
    · rw [hreached, hdel, h.reached, List.length_append, if_pos rfl, List.length_singleton]
      omega
    · rw [hdel, List.map_append]
      exact (h.given hm).trans hgrow
  | lost _ _ _ hstores =>
    rw [h.clear.stores, List.length_nil] at hstores
    omega

theorem Undisturbed.steps (h : c.Undisturbed entity c₀) (hs : Smoothly conduct entity c c') :
    c'.Undisturbed entity c₀ := by
  induction hs with
  | refl => exact h
  | tail _ hs ih => exact ih.step hs

/-- Each message that is handled lies behind the one before. -/
theorem Undisturbed.offset (h : c.Undisturbed entity c₀) {i : Nat} {d : Delivery}
    (hd : c.deliveries[i]? = some d) : d.offset = c₀ + i := by
  have hi := (List.getElem?_eq_some_iff.1 hd).1
  have hm : (c.deliveries.map (·.message))[i]? = some d.message := by
    rw [List.getElem?_map, hd]
    rfl
  obtain ⟨rest, hrest⟩ := h.handled
  have hget : (c.broker.messagesFrom entity c₀)[i]? = some d.message := by
    rw [← hrest, List.getElem?_append_left (by rwa [List.length_map]), hm]
  have h₀ : 0 ≤ c₀ := by
    by_contra hneg
    rw [Broker.messagesFrom, if_neg hneg] at hget
    cases hget
  rw [Broker.getElem?_messagesFrom _ _ h₀] at hget
  rw [Delivery.offset, h.poised.placed _ _ hget]

theorem Undisturbed.committed (h : c.Undisturbed entity c₀) (hst : c.stage.IsSettled) :
    c.committed entity = c₀ + c.deliveries.length := by
  rw [← reached_of_isSettled hst, h.reached]

/-- **A call that has ended has committed what it has read.** -/
theorem Undisturbed.ended_ok (h : c.Undisturbed entity c₀) {outcome : Outcome} {isDrained : Bool}
    (hst : c.stage = .ended outcome isDrained) :
    outcome = .ok () ∧ c.broker.cursor = c.committed entity := by
  obtain rfl := h.ended outcome isDrained hst
  exact ⟨rfl, (h.poised.under hst Stage.noConfusion).1.2⟩

/-! ## Drained topics -/

/-- A call is drained by the poll that finds nothing, and stays so while it does nothing else. -/
theorem Step.drained (hs : Step conduct entity c c') (h : c'.stage.IsDrained) :
    c'.readings = c.readings ∧ (c.stage.IsDrained ∨
      (∃ isDrained, c.stage = .reading isDrained) ∧ c.broker.poll = (.nothing, c.broker)) := by
  cases hs with
  | publish => exact ⟨rfl, .inl h⟩
  | failNextPoll => exact ⟨rfl, .inl h⟩
  | failNextStore => exact ⟨rfl, .inl h⟩
  | subscribe => cases h
  | stop hst =>
    refine ⟨rfl, .inl ?_⟩
    rw [hst]
    exact h
  | pollFailed => cases h
  | pollNothing hst hp =>
    obtain ⟨rfl, -⟩ := Broker.poll_nothing hp
    exact ⟨rfl, .inr ⟨⟨_, hst⟩, hp⟩⟩
  | pollMessage => cases h
  | @handle m r x hst hr =>
    rcases r with e | ⟨⟩ <;> cases h
  | store => cases h
  | storeFailed => cases h

/-- **The poll that found nothing.** -/
theorem Smoothly.drained {b : Broker} {x : σ} (hs : Smoothly conduct entity (start b x) c)
    (h : c.stage.IsDrained) : ∃ c₁, Smoothly conduct entity (start b x) c₁ ∧
      Smoothly conduct entity c₁ c ∧ c.readings = c₁.readings ∧
      (∃ isDrained, c₁.stage = .reading isDrained) ∧ c₁.broker.poll = (.nothing, c₁.broker) := by
  induction hs with
  | refl => cases h
  | @tail c₂ c hs₂ hs ih =>
    obtain ⟨hr, hbefore | ⟨hst, hp⟩⟩ := hs.step.drained h
    · obtain ⟨c₁, hs₁, hs', hr', hst, hp⟩ := ih hbefore
      exact ⟨c₁, hs₁, hs'.tail hs, hr.trans hr', hst, hp⟩
    · exact ⟨c₂, hs₂, .single hs, hr, hst, hp⟩

/-- **Where a poll finds nothing, all there is has been handled and committed.** -/
theorem Undisturbed.all_handled (h : c.Undisturbed entity c₀) {isDrained : Bool}
    (hst : c.stage = .reading isDrained) (hp : c.broker.poll = (.nothing, c.broker)) :
    c.broker.messagesFrom entity c₀ = c.deliveries.map (·.message) ∧
      (0 ≤ c₀ → (c.broker.messages entity).length ≤ c₀ + c.deliveries.length) := by
  obtain ⟨⟨hsub, hcur⟩, -⟩ := h.poised.under hst Stage.noConfusion
  obtain ⟨-, topic, ht, hnone⟩ := Broker.poll_nothing hp
  obtain rfl : entity = topic := Option.some.inj (hsub.symm.trans ht)
  have hsettled : c.stage.IsSettled := by
    rw [hst]
    exact Stage.isSettled_reading isDrained
  have hcommitted := h.committed hsettled
  rw [hcur, ← Course.committed, hcommitted] at hnone
  by_cases h₀ : 0 ≤ c₀
  · refine ⟨?_, fun _ => Broker.length_le_of_messageAt?_none (by omega) hnone⟩
    rw [← Broker.getElem?_messagesFrom _ _ h₀, List.getElem?_eq_none_iff] at hnone
    exact (h.handled.eq_of_length_le (by rwa [List.length_map])).symm
  · refine ⟨?_, fun h₀' => absurd h₀' h₀⟩
    have hnil : c.broker.messagesFrom entity c₀ = [] := if_neg h₀
    have hnone : c.deliveries.map (·.message) = [] := List.prefix_nil.1 (hnil ▸ h.handled)
    rw [hnil, hnone]

/-! ## One call instead of many -/

/-- **A course of one call** that is as far as another: it stands before its next poll unless a message
waits to be committed. -/
structure Twin (entity : String) (c t : Course σ) : Prop where
  poised : t.Poised entity
  clear : t.broker.IsClear
  topics : t.broker.topics = c.broker.topics
  committed : t.broker.committed = c.broker.committed
  deliveries : t.deliveries = c.deliveries
  state : t.state = c.state
  once : t.readings.length ≤ 1
  stage : (c.stage = .idle ∧ t.stage = .idle ∧ t.readings = []) ∨
    (∃ m, c.stage = .storing m ∧ t.stage = .storing m) ∨
    (c.stage ≠ .idle ∧ c.stage.IsSettled ∧ ∃ isDrained, t.stage = .reading isDrained)

theorem twin_start {b : Broker} (hb : b.IsPlaced entity) (hclear : b.IsClear) (x : σ) :
    Twin entity (start b x) (start b x) where
  poised := poised_start hb x
  clear := hclear
  topics := rfl
  committed := rfl
  deliveries := rfl
  state := rfl
  once := Nat.zero_le 1
  stage := .inl ⟨rfl, rfl, rfl⟩

/-- Where the other call only polls, ends or begins anew, this one waits. -/
theorem Twin.waits (h : c.Twin entity t) (htopics : c'.broker.topics = c.broker.topics)
    (hcommitted : c'.broker.committed = c.broker.committed)
    (hdel : c'.deliveries = c.deliveries) (hstate : c'.state = c.state)
    (hst : c.stage ≠ .idle ∧ c.stage.IsSettled) (hst' : c'.stage ≠ .idle ∧ c'.stage.IsSettled) :
    c'.Twin entity t := by
  refine ⟨h.poised, h.clear, h.topics.trans htopics.symm, h.committed.trans hcommitted.symm,
    h.deliveries.trans hdel.symm, h.state.trans hstate.symm, h.once, .inr (.inr ⟨hst'.1, hst'.2, ?_⟩)⟩
  rcases h.stage with ⟨hidle, -⟩ | ⟨m, hm, -⟩ | ⟨-, -, hreading⟩
  · exact absurd hidle hst.1
  · exact absurd hm (hst.2 m)
  · exact hreading

theorem Twin.messages (h : c.Twin entity t) (topic : String) :
    t.broker.messages topic = c.broker.messages topic := by
  rw [Broker.messages, Broker.messages, h.topics]

theorem Twin.messageAt? (h : c.Twin entity t) (o : Int) :
    t.broker.messageAt? entity o = c.broker.messageAt? entity o := by
  rw [Broker.messageAt?, Broker.messageAt?, h.messages]

theorem Twin.startOf (h : c.Twin entity t) : t.broker.startOf entity = c.broker.startOf entity := by
  rw [Broker.startOf, Broker.startOf, h.committed]

/-- **Where the other call handles a message, this one reads it first.** -/
theorem Twin.handles (h : c.Twin entity t) (hc : c.Poised entity) {m : Message} {x : σ}
    (hst : c.stage = .holding m) (hr : conduct m c.state (.ok ()) x)
    (hok : ∀ d ∈ c.deliveries ++ [{ message := m, result := .ok () }], d.result = .ok ()) :
    ∃ t', Smoothly conduct entity t t' ∧ Twin entity { c with
      stage := stageAfter m (.ok ())
      readings := note { message := m, result := .ok () } c.readings
      state := x } t' := by
  obtain ⟨⟨hsub, hcur, hm⟩, hbegun⟩ := hc.under hst Stage.noConfusion
  obtain ⟨isDrained, hreading⟩ : ∃ isDrained, t.stage = .reading isDrained := by
    rcases h.stage with ⟨hidle, -⟩ | ⟨m', hstoring, -⟩ | ⟨-, -, hreading⟩
    · rw [hst] at hidle
      cases hidle
    · rw [hst] at hstoring
      cases hstoring
    · exact hreading
  obtain ⟨⟨hsub', hcur'⟩, hbegun'⟩ := h.poised.under hreading Stage.noConfusion
  have hpoll : t.broker.poll = (.message m, { t.broker with cursor := t.broker.cursor + 1 }) := by
    refine h.clear.poll_message hsub' ?_
    rw [hcur', h.messageAt?, h.startOf]
    exact hm
  let held : Course σ :=
    { t with broker := { t.broker with cursor := t.broker.cursor + 1 }, stage := .holding m }
  have hclear : held.broker.IsClear := ⟨h.clear.polls, h.clear.stores⟩
  have hread : Smooth conduct entity t held := by
    refine ⟨⟨.pollMessage t hreading hpoll, .inl rfl⟩, hclear, fun d hd => hok d ?_⟩
    rw [← h.deliveries]
    exact List.mem_append_left _ hd
  have hdel : Course.deliveries { held with
      stage := stageAfter m (.ok ())
      readings := note { message := m, result := .ok () } held.readings
      state := x } = c.deliveries ++ [{ message := m, result := .ok () }] := by
    rw [deliveries_note (c := held) hbegun', ← h.deliveries]
    rfl
  have hhandle : Smooth conduct entity held { held with
      stage := stageAfter m (.ok ())
      readings := note { message := m, result := .ok () } held.readings
      state := x } := by
    refine ⟨⟨.handle held rfl (by rw [show held.state = c.state from h.state]; exact hr),
      .inl (note_length _ _)⟩, hclear, ?_⟩
    rw [hdel]
    exact hok
  have hpoised := (h.poised.step hread.toUnbroken).1
  refine ⟨_, .tail (.single hread) hhandle, (hpoised.step hhandle.toUnbroken).1, hclear, h.topics,
    h.committed, ?_, rfl, ?_, .inr (.inl ⟨m, rfl, rfl⟩)⟩
  · rw [hdel, deliveries_note hbegun]
  · show (note _ t.readings).length ≤ 1
    rw [note_length]
    exact h.once

/-- **One moment of a course that is cut into calls** is none or some of a course that is not. -/
theorem Twin.step (h : c.Twin entity t) (hc : c.Poised entity) (hclear : c.broker.IsClear)
    (hs : Smooth conduct entity c c') : ∃ t', Smoothly conduct entity t t' ∧ c'.Twin entity t' := by
  have reading : ∀ {isDrained : Bool}, c.stage = .reading isDrained →
      c.stage ≠ .idle ∧ c.stage.IsSettled := by
    intro isDrained hst
    rw [hst]
    exact ⟨Stage.noConfusion, Stage.isSettled_reading isDrained⟩
  obtain ⟨⟨step, settled⟩, hclear', hok⟩ := hs
  cases step with
  | publish topic key value metadata =>
    have htopics : (t.broker.publish topic key value metadata).2.topics =
        (c.broker.publish topic key value metadata).2.topics := by
      simp only [Broker.publish, h.topics, h.messages]
    have hpublish : Smooth conduct entity t
        { t with broker := (t.broker.publish topic key value metadata).2 } := by
      refine ⟨⟨.publish t topic key value metadata, .inl rfl⟩, ⟨h.clear.polls, h.clear.stores⟩, ?_⟩
      intro d hd
      exact hok d (h.deliveries ▸ hd)
    exact ⟨_, .single hpublish, (h.poised.step hpublish.toUnbroken).1, hpublish.clear, htopics,
      h.committed, h.deliveries, h.state, h.once, h.stage⟩
  | failNextPoll reason =>
    have hpolls := hclear'.polls
    rw [Broker.failNextPoll, List.append_eq_nil_iff] at hpolls
    cases hpolls.2
  | failNextStore reason =>
    have hstores := hclear'.stores
    rw [Broker.failNextStore, List.append_eq_nil_iff] at hstores
    cases hstores.2
  | subscribe =>
    have hdel : (c.subscribed entity).deliveries = c.deliveries := by
      rw [subscribed, deliveries_of_cons rfl, List.append_nil]
      rfl
    by_cases hidle : c.stage = .idle
    · rcases h.stage with ⟨-, hidle', hnone⟩ | ⟨m, hm, -⟩ | ⟨hne, -⟩
      · have hdel' : (t.subscribed entity).deliveries = t.deliveries := by
          rw [subscribed, deliveries_of_cons rfl, List.append_nil]
          rfl
        have hsubscribe : Smooth conduct entity t (t.subscribed entity) := by
          refine ⟨⟨.subscribe t, .inr ?_⟩, h.clear.subscribe entity, ?_⟩
          · rw [hidle']
            exact Stage.isSettled_idle
          · intro d hd
            rw [hdel', h.deliveries, ← hdel] at hd
            exact hok d hd
        refine ⟨_, .single hsubscribe, (h.poised.step hsubscribe.toUnbroken).1, hsubscribe.clear,
          h.topics, h.committed, ?_, h.state, ?_,
          .inr (.inr ⟨Stage.noConfusion, Stage.isSettled_reading false, _, rfl⟩)⟩
        · exact (hdel'.trans h.deliveries).trans hdel.symm
        · rw [subscribed, hnone]
          exact Nat.le_refl 1
      · rw [hidle] at hm
        cases hm
      · exact absurd hidle hne
    · have hsettled : c.stage.IsSettled := settled.resolve_left fun hlen => Nat.succ_ne_self _ hlen
      exact ⟨t, .refl, h.waits rfl rfl hdel rfl ⟨hidle, hsettled⟩
        ⟨Stage.noConfusion, Stage.isSettled_reading false⟩⟩
  | stop hst =>
    exact ⟨t, .refl, h.waits rfl rfl rfl rfl (reading hst)
      ⟨Stage.noConfusion, Stage.isSettled_ended _ _⟩⟩
  | pollFailed hst hp =>
    obtain ⟨⟨hsub, -⟩, -⟩ := hc.under hst Stage.noConfusion
    exact absurd hp (hclear.poll_ne_failed hsub)
  | pollNothing hst hp =>
    obtain ⟨rfl, -⟩ := Broker.poll_nothing hp
    exact ⟨t, .refl, h.waits rfl rfl rfl rfl (reading hst)
      ⟨Stage.noConfusion, Stage.isSettled_reading true⟩⟩
  | pollMessage hst hp =>
    obtain ⟨topic, -, -, -, rfl⟩ := Broker.poll_message hp
    exact ⟨t, .refl, h.waits rfl rfl rfl rfl (reading hst)
      ⟨Stage.noConfusion, Stage.isSettled_holding _⟩⟩
  | @handle m r x hst hr =>
    have hdel : Course.deliveries { c with
        stage := stageAfter m r
        readings := note { message := m, result := r } c.readings
        state := x } = c.deliveries ++ [{ message := m, result := r }] :=
      deliveries_note (hc.under hst Stage.noConfusion).2
    rw [hdel] at hok
    obtain rfl : r = .ok () := hok _ (List.mem_append_right _ List.mem_cons_self)
    exact h.handles hc hst hr hok
  | @store m b hst hs =>
    have hstoring : t.stage = .storing m := by
      rcases h.stage with ⟨hidle, -⟩ | ⟨m', hm, hm'⟩ | ⟨-, hsettled, -⟩
      · rw [hst] at hidle
        cases hidle
      · rw [hst] at hm
        cases hm
        exact hm'
      · exact absurd hst (hsettled m)
    have hb := Broker.storePosition_ok hs
    have hstore : Smooth conduct entity t { t with
        broker := { t.broker with
          committed := t.broker.committed.set m.position.topic (m.position.offset + 1) }
        stage := .reading false } := by
      refine ⟨⟨.store t hstoring (h.clear.storePosition m.position), .inl rfl⟩,
        ⟨h.clear.polls, h.clear.stores⟩, ?_⟩
      intro d hd
      exact hok d (h.deliveries ▸ hd)
    refine ⟨_, .single hstore, (h.poised.step hstore.toUnbroken).1, hstore.clear, ?_, ?_,
      h.deliveries, h.state, h.once,
      .inr (.inr ⟨Stage.noConfusion, Stage.isSettled_reading false, _, rfl⟩)⟩
    · rw [hb]
      exact h.topics
    · rw [hb]
      exact congrArg (Table.set m.position.topic (m.position.offset + 1)) h.committed
  | storeFailed hst hs =>
    have hfailed := Broker.storeFailures_of_error hs
    rw [hclear.stores] at hfailed
    cases hfailed

/-- **However a course is cut into calls, one call would have come as far.** -/
theorem Smoothly.twin {b : Broker} {x : σ} (hb : b.IsPlaced entity) (hclear : b.IsClear)
    (hs : Smoothly conduct entity (start b x) c) :
    ∃ t, Smoothly conduct entity (start b x) t ∧ c.Twin entity t := by
  induction hs with
  | refl => exact ⟨_, .refl, twin_start hb hclear x⟩
  | tail hs₁ hs ih =>
    obtain ⟨t, ht, htwin⟩ := ih
    have hund := (undisturbed_start hb hclear x).steps hs₁
    obtain ⟨t', ht', htwin'⟩ := htwin.step hund.poised hund.clear hs
    exact ⟨t', ht.trans ht', htwin'⟩

end Course

end AssetGraph
