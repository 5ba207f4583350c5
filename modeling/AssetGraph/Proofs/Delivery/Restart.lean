import AssetGraph.Proofs.Delivery.Smooth
/-!
# Graceful restarts

A consumer may be stopped and called again as often as one likes: by its handler, by a deadline, by a
drained topic, or before it has begun.  If nothing fails, every call ends well with what it has read
committed, and together the calls have handed over what one call would have
(`Course.restarts_leave_no_trace`).
-/
namespace AssetGraph

namespace Handler

variable {σ : Type}

/-- **The handler succeeds on messages**, one after the other. -/
def Succeeds (h : Handler σ) : List Message → σ → Prop
  | [], _ => True
  | m :: ms, x => (h m x).result = .ok () ∧ h.Succeeds ms (h m x).state

/-- The handler fires the signal at one of the messages. -/
def Fires (h : Handler σ) : List Message → σ → Prop
  | [], _ => False
  | m :: ms, x => (h m x).fires = true ∨ h.Fires ms (h m x).state

/-- The handler with a record of what it was given, which never fires. -/
def uninterrupted (h : Handler σ) : Handler (σ × List Message) := fun m (x, ms) =>
  { result := (h m x).result, state := ((h m x).state, ms ++ [m]) }

theorem after_concat (h : Handler σ) (ms : List Message) (m : Message) (x : σ) :
    h.after (ms ++ [m]) x = (h m (h.after ms x)).state := by
  rw [after, List.foldl_append]
  rfl

theorem succeeds_concat {h : Handler σ} {ms : List Message} {m : Message} {x : σ}
    (hms : h.Succeeds ms x) (hm : (h m (h.after ms x)).result = .ok ()) : h.Succeeds (ms ++ [m]) x := by
  induction ms generalizing x with
  | nil => exact ⟨hm, trivial⟩
  | cons m' ms ih => exact ⟨hms.1, ih hms.2 hm⟩

instance decidableSucceeds (h : Handler σ) :
    (ms : List Message) → (x : σ) → Decidable (h.Succeeds ms x)
  | [], _ => isTrue trivial
  | m :: ms, x =>
    have := decidableSucceeds h ms (h m x).state
    inferInstanceAs (Decidable (_ ∧ _))

end Handler

/-- **Something will stop a call** that has these messages before it: its signal is triggered already, a
poll that finds nothing will fire it, its time will come, or the handler will fire it. -/
def Session.WillStop {σ : Type} (s : Session σ) (h : Handler σ) (pollMs : Nat) (ms : List Message) : Prop :=
  s.isStopped = true ∨ s.firesWhenDrained = true ∨
    (0 < pollMs ∧ ∃ t, s.signal.isTriggered t = true) ∨ h.Fires ms s.state

namespace Course

variable {σ : Type} {conduct : Conduct σ} {entity : String} {c c' : Course σ} {h : Handler σ}

/-- **While a handler succeeds on what lies before it, its calls go smoothly.** -/
theorem Owned.smoothly (hconduct : ∀ m x, conduct m x (h m x).result (h m x).state)
    (hs : Owned h.conduct entity c c') (hc : c.Poised entity) (hclear : c.broker.IsClear)
    (hok : ∀ d ∈ c.deliveries, d.result = .ok ())
    (hall : h.Succeeds (c.broker.messagesFrom entity (c.reached entity)) c.state) :
    Smoothly conduct entity c c' := by
  suffices Smoothly conduct entity c c' ∧ c'.Poised entity ∧ c'.broker.IsClear ∧
      (∀ d ∈ c'.deliveries, d.result = .ok ()) ∧
      h.Succeeds (c'.broker.messagesFrom entity (c'.reached entity)) c'.state from this.1
  induction hs with
  | refl => exact ⟨.refl, hc, hclear, hok, hall⟩
  | @tail c₁ c₂ _ hs ih =>
    obtain ⟨hsmooth, hpoised, hclear₁, hok₁, hall₁⟩ := ih
    obtain ⟨hpoised', heffect⟩ := hpoised.step hs.toUnbroken
    have hclear₂ : c₂.broker.IsClear := by
      refine ⟨?_, ?_⟩
      · exact List.suffix_nil.1 (hclear₁.polls ▸ hs.polls)
      · exact List.suffix_nil.1 (hclear₁.stores ▸ hs.stores)
    have hfrom : ∀ o, c₂.broker.messagesFrom entity o = c₁.broker.messagesFrom entity o := by
      intro o
      rw [Broker.messagesFrom, Broker.messagesFrom, hs.messages]
    have hstep : Step conduct entity c₁ c₂ := by
      refine (hs.step.mono (P := fun _ => True) ?_ trivial).1
      rintro m x r x' - ⟨rfl, rfl⟩
      exact ⟨hconduct m x, trivial⟩
    have smooth : (∀ d ∈ c₂.deliveries, d.result = .ok ()) → Smoothly conduct entity c c₂ :=
      fun hok₂ => hsmooth.tail ⟨⟨hstep, hs.settled⟩, hclear₂, hok₂⟩
    cases heffect with
    | still hdel hstate hreached _ =>
      have hok₂ : ∀ d ∈ c₂.deliveries, d.result = .ok () := by
        rw [hdel]
        exact hok₁
      refine ⟨smooth hok₂, hpoised', hclear₂, hok₂, ?_⟩
      rw [hfrom, hreached, hstate]
      exact hall₁
    | @handled m r hm hr hdel hreached _ =>
      rw [Broker.messagesFrom_of_messageAt? hm] at hall₁
      obtain ⟨rfl, hstate⟩ := hr
      have hok₂ : ∀ d ∈ c₂.deliveries, d.result = .ok () := by
        rw [hdel]
        intro d hd
        rcases List.mem_append.1 hd with hd | hd
        · exact hok₁ d hd
        · rw [List.mem_singleton.1 hd]
          exact hall₁.1
      refine ⟨smooth hok₂, hpoised', hclear₂, hok₂, ?_⟩
      rw [hfrom, hreached, if_pos hall₁.1, ← hstate]
      exact hall₁.2
    | lost _ _ _ hstores =>
      rw [hclear₁.stores, List.length_nil] at hstores
      omega

end Course

/-! ## Calls come to an end -/

namespace Consumer

variable {σ : Type} {h : Handler σ} {entity : String} {pollMs : Nat}

theorem turns_of_isStopped {s : Session σ} (hs : s.isStopped = true) :
    ∃ limit, (turns h entity pollMs limit s).1 = some (.ok ()) := by
  refine ⟨1, ?_⟩
  rw [turns_succ, turn, if_pos hs]

theorem turns_of_turn {s s' : Session σ} (hturn : turn h entity pollMs s = (none, s'))
    (hs : ∃ limit, (turns h entity pollMs limit s').1 = some (.ok ())) :
    ∃ limit, (turns h entity pollMs limit s).1 = some (.ok ()) := by
  obtain ⟨limit, hlimit⟩ := hs
  refine ⟨limit + 1, ?_⟩
  rw [turns_succ, hturn]
  exact hlimit

/-- **A call with nothing before it waits until its time has come.** -/
theorem turns_waiting {s : Session σ} {t : Nat} (hs : s.broker.subscription = some entity)
    (hb : s.broker.IsClear) (hm : s.broker.messageAt? entity s.broker.cursor = none) (hp : 0 < pollMs)
    (ht : s.signal.isTriggered t = true) :
    ∃ limit, (turns h entity pollMs limit s).1 = some (.ok ()) := by
  induction hk : t - s.clock using Nat.strongRecOn generalizing s with
  | ind k ih =>
    by_cases hstop : s.isStopped = true
    · exact turns_of_isStopped hstop
    have hlt : s.clock < t := by
      by_contra hle
      exact hstop (Signal.isTriggered_mono ht (Nat.le_of_not_lt hle))
    have hturn : turn h entity pollMs s = (none, s.idle pollMs) := by
      rw [turn, if_neg hstop, hb.poll_nothing hs hm]
    refine turns_of_turn hturn ?_
    unfold Session.idle
    by_cases hd : s.firesWhenDrained = true
    · rw [if_pos hd]
      exact turns_of_isStopped
        (Signal.isTriggered_mono (Signal.isTriggered_fire s.signal s.clock) (Nat.le_add_right _ _))
    · rw [if_neg hd]
      exact ih (t - (s.clock + pollMs)) (by omega) hs hb hm ht rfl

/-- **A call that something will stop ends**, and ends well, if the handler succeeds on what lies before
it. -/
theorem turns_end {s : Session σ} {ms : List Message} (hs : s.broker.subscription = some entity)
    (hb : s.broker.IsClear) (hplaced : s.broker.IsPlaced entity)
    (hms : s.broker.messagesFrom entity s.broker.cursor = ms) (hall : h.Succeeds ms s.state)
    (hstops : s.WillStop h pollMs ms) :
    ∃ limit, (turns h entity pollMs limit s).1 = some (.ok ()) := by
  induction ms generalizing s with
  | nil =>
    have hnone : s.broker.messageAt? entity s.broker.cursor = none := by
      cases hm : s.broker.messageAt? entity s.broker.cursor with
      | none => rfl
      | some m =>
        rw [Broker.messagesFrom_of_messageAt? hm] at hms
        cases hms
    rcases hstops with hstop | hd | ⟨hp, t, ht⟩ | hfires
    · exact turns_of_isStopped hstop
    · by_cases hstop : s.isStopped = true
      · exact turns_of_isStopped hstop
      · have hturn : turn h entity pollMs s = (none, s.idle pollMs) := by
          rw [turn, if_neg hstop, hb.poll_nothing hs hnone]
        refine turns_of_turn hturn (turns_of_isStopped ?_)
        rw [Session.idle, if_pos hd]
        exact Signal.isTriggered_mono (Signal.isTriggered_fire s.signal s.clock) (Nat.le_add_right _ _)
    · exact turns_waiting hs hb hnone hp ht
    · exact hfires.elim
  | cons m ms ih =>
    by_cases hstop : s.isStopped = true
    · exact turns_of_isStopped hstop
    obtain ⟨hm, hrest⟩ := Broker.messageAt?_of_messagesFrom hms
    refine turns_of_turn (turn_handled pollMs hs hb hm (hplaced _ _ hm) (by simpa using hstop) hall.1) ?_
    by_cases hf : (h m s.state).fires = true
    · refine turns_of_isStopped ?_
      rw [Session.afterHandling, if_pos hf]
      exact Signal.isTriggered_fire s.signal s.clock
    · rw [Session.afterHandling, if_neg hf]
      refine ih hs ⟨hb.polls, hb.stores⟩ (Broker.isPlaced_of_messages_eq hplaced rfl) hrest hall.2 ?_
      rcases hstops with hs' | hd | ht | hfires
      · exact absurd hs' hstop
      · exact .inr (.inl hd)
      · exact .inr (.inr (.inl ht))
      · exact .inr (.inr (.inr (hfires.resolve_left hf)))

/-- **A call that nothing stops** is given a message in each turn, as long as there are any. -/
theorem turns_uninterrupted (pollMs : Nat) {s : Session (σ × List Message)} {ms : List Message}
    (hs : s.broker.subscription = some entity) (hb : s.broker.IsClear)
    (hplaced : s.broker.IsPlaced entity) (hsig : s.signal = {})
    (hms : ms <+: s.broker.messagesFrom entity s.broker.cursor) (hall : h.Succeeds ms s.state.1) :
    ∃ s', turns h.uninterrupted entity pollMs ms.length s = (none, s') ∧
      s'.state = (h.after ms s.state.1, s.state.2 ++ ms) := by
  induction ms generalizing s with
  | nil =>
    refine ⟨s, rfl, ?_⟩
    rw [List.append_nil]
    rfl
  | cons m ms ih =>
    obtain ⟨rest, hrest⟩ := hms
    obtain ⟨hm, hafter⟩ := Broker.messageAt?_of_messagesFrom (b := s.broker) hrest.symm
    have hturn := turn_handled pollMs (h := h.uninterrupted) hs hb hm (hplaced _ _ hm)
      (isStopped_of_signal_eq hsig) hall.1
    obtain ⟨s', hturns, hstate⟩ := ih (s := { s.afterHandling (h.uninterrupted m s.state) with
      broker := { s.broker with
        cursor := s.broker.cursor + 1
        committed := s.broker.committed.set entity (s.broker.cursor + 1) } }) hs
      ⟨hb.polls, hb.stores⟩ (Broker.isPlaced_of_messages_eq hplaced rfl) hsig ⟨rest, hafter.symm⟩ hall.2
    refine ⟨s', ?_, ?_⟩
    · rw [List.length_cons, turns_succ, hturn]
      exact hturns
    · rw [hstate, List.append_cons]
      rfl

end Consumer

theorem Stage.isSettled_of_isDrained {stage : Stage} (h : stage.IsDrained) : stage.IsSettled := by
  rintro m rfl
  exact h

namespace Course

variable {σ : Type} {conduct : Conduct σ} {entity : String} {b : Broker} {x : σ}

/-- **What is so of a course in which nothing fails**, however it is cut into calls. -/
structure Seamless (conduct : Conduct σ) (entity : String) (b : Broker) (x : σ) (c : Course σ) : Prop where
  /-- Every call that has ended has ended well, with what it has read committed. -/
  ended : ∀ outcome isDrained, c.stage = .ended outcome isDrained →
    outcome = .ok () ∧ c.broker.cursor = c.committed entity
  /-- The handler has had the first messages behind the offset at which the course began, each once. -/
  handled : c.deliveries.map (·.message) <+: c.broker.messagesFrom entity (b.startOf entity)
  in_order : ∀ (i : Nat) d, c.deliveries[i]? = some d → d.offset = b.startOf entity + i
  committed : c.stage.IsSettled → c.committed entity = b.startOf entity + c.deliveries.length
  /-- One call that is not cut would have come as far. -/
  uncut : ∃ t, Smoothly conduct entity (start b x) t ∧ t.readings.length ≤ 1 ∧
    t.deliveries = c.deliveries ∧ t.state = c.state ∧ t.broker.topics = c.broker.topics ∧
    t.broker.committed = c.broker.committed
  /-- Where a call is drained, all that had been published by its last poll is handled and committed;
  only from an offset below zero nothing is ever read. -/
  drained : c.stage.IsDrained → ∃ c₁, Smoothly conduct entity (start b x) c₁ ∧
    Smoothly conduct entity c₁ c ∧ c.readings = c₁.readings ∧ c₁.broker.poll = (.nothing, c₁.broker) ∧
    c.deliveries.map (·.message) = c₁.broker.messagesFrom entity (b.startOf entity) ∧
    (0 ≤ b.startOf entity → (c₁.broker.messages entity).length ≤ c.committed entity)

theorem Smoothly.seamless (hb : b.IsPlaced entity) (hclear : b.IsClear) {c : Course σ}
    (hs : Smoothly conduct entity (start b x) c) : Seamless conduct entity b x c := by
  have hund := (undisturbed_start hb hclear x).steps hs
  refine ⟨fun _ _ => hund.ended_ok, hund.handled, fun _ _ => hund.offset, hund.committed, ?_, ?_⟩
  · obtain ⟨t, ht, htwin⟩ := hs.twin hb hclear
    exact ⟨t, ht, htwin.once, htwin.deliveries, htwin.state, htwin.topics, htwin.committed⟩
  · intro hd
    obtain ⟨c₁, hs₁, hs', hr, ⟨isDrained, hst⟩, hp⟩ := hs.drained hd
    have hund₁ := (undisturbed_start hb hclear x).steps hs₁
    obtain ⟨hall, hlen⟩ := hund₁.all_handled hst hp
    have hdel : c.deliveries = c₁.deliveries := by rw [deliveries, deliveries, hr]
    refine ⟨c₁, hs₁, hs', hr, hp, by rw [hdel, hall], fun h₀ => ?_⟩
    rw [hund.committed (Stage.isSettled_of_isDrained hd), hdel]
    exact hlen h₀

/-- What a handler has come to is what the messages make of it, one after the other. -/
theorem Smoothly.state {h : Handler σ} (hb : b.IsPlaced entity) (hclear : b.IsClear) {c : Course σ}
    (hs : Smoothly h.conduct entity (start b x) c) :
    c.state = h.after (c.deliveries.map (·.message)) x ∧ h.Succeeds (c.deliveries.map (·.message)) x := by
  induction hs with
  | refl => exact ⟨rfl, trivial⟩
  | @tail c₁ c₂ hs₁ hs ih =>
    obtain ⟨hstate, hall⟩ := ih
    have hund := (undisturbed_start hb hclear x).steps hs₁
    obtain ⟨-, heffect⟩ := hund.poised.step hs.toUnbroken
    cases heffect with
    | still hdel hsame _ _ =>
      rw [hsame, hdel]
      exact ⟨hstate, hall⟩
    | @handled m r _ hr hdel _ _ =>
      have hmem : ({ message := m, result := r } : Delivery) ∈ c₂.deliveries := by
        rw [hdel]
        exact List.mem_append_right _ List.mem_cons_self
      obtain ⟨hresult, hafter⟩ := hr
      obtain rfl : r = .ok () := hs.succeeds _ hmem
      rw [hstate] at hresult
      rw [hdel, List.map_append, ← hafter, hstate]
      exact ⟨(h.after_concat _ m x).symm, Handler.succeeds_concat hall hresult⟩
    | lost hdel hsame _ _ =>
      rw [hsame, hdel]
      exact ⟨hstate, hall⟩

/-- **One call that nothing stops** is given the same messages, and the handler comes to the same. -/
theorem Smoothly.uninterrupted {h : Handler σ} (hb : b.IsPlaced entity) (hclear : b.IsClear) (pollMs : Nat)
    {c : Course σ} (hs : Smoothly h.conduct entity (start b x) c) :
    ∃ s', Consumer.process h.uninterrupted entity pollMs c.deliveries.length
      { broker := { b with topics := c.broker.topics }, state := (x, []) } = (none, s') ∧
      s'.state = (c.state, c.deliveries.map (·.message)) := by
  have hund := (undisturbed_start hb hclear x).steps hs
  obtain ⟨hstate, hall⟩ := Smoothly.state hb hclear hs
  let s : Session (σ × List Message) :=
    { broker := { b with topics := c.broker.topics }, state := (x, []) }
  have hplaced : (s.subscribe entity).broker.IsPlaced entity :=
    Broker.isPlaced_of_messages_eq hund.poised.placed rfl
  obtain ⟨s', hturns, hs'⟩ := Consumer.turns_uninterrupted pollMs (s := s.subscribe entity) rfl
    ⟨hclear.polls, hclear.stores⟩ hplaced rfl hund.handled hall
  rw [List.length_map] at hturns
  refine ⟨s', hturns, ?_⟩
  rw [hs', hstate]
  rfl

/-- **Graceful restarts leave no trace.**  Take any broker without failures in its way, any topic and any
handler.  In every course in which nothing fails, at every moment, what `Seamless` says is so, however
often calls end and begin anew; one call of the consumer that nothing stops, over the same topic, is given
the same messages in as many turns, and leaves the handler's state the same.  And every call of the
consumer, with whatever signal, deadline or wish to stop, whose handler succeeds on what lies before it
goes on with such a course: if it ends, it ends well with what it has read committed, and drained unless
its handler or its signal stopped it; and it does end if something will stop it. -/
theorem restarts_leave_no_trace (hb : b.Made) (hclear : b.IsClear) (entity : String)
    (conduct : Conduct σ) (x : σ) :
    (∀ c, Smoothly conduct entity (start b x) c → Seamless conduct entity b x c) ∧
    (∀ (h : Handler σ) (pollMs : Nat) (c : Course σ), Smoothly h.conduct entity (start b x) c →
      ∃ s', Consumer.process h.uninterrupted entity pollMs c.deliveries.length
        { broker := { b with topics := c.broker.topics }, state := (x, []) } = (none, s') ∧
        s'.state = (c.state, c.deliveries.map (·.message))) ∧
    (∀ (h : Handler σ) (pollMs : Nat) (s : Session σ) (c : Course σ),
      (∀ m x, conduct m x (h m x).result (h m x).state) →
      Smoothly conduct entity (start b x) c → c.stage.IsSettled → Consumer.Tracks c s →
      h.Succeeds (s.broker.messagesFrom entity (s.broker.startOf entity)) s.state →
      (∀ limit outcome s', Consumer.process h entity pollMs limit s = (outcome, s') →
        ∃ c' isDrained, Smoothly conduct entity (start b x) c' ∧ Smoothly conduct entity c c' ∧
          Consumer.Tracks c' s' ∧ c'.stage = Consumer.stageOf isDrained outcome ∧
          (∃ r, c'.readings = r :: c.readings) ∧
          (∀ r, outcome = some r → r = .ok () ∧ s'.broker.cursor = s'.broker.startOf entity) ∧
          ((∀ m x, (h m x).fires = false) → outcome = some (.ok ()) →
            s.signal.isTriggered s'.clock = false → isDrained = true)) ∧
      (s.WillStop h pollMs (s.broker.messagesFrom entity (s.broker.startOf entity)) →
        ∃ limit, (Consumer.process h entity pollMs limit s).1 = some (.ok ()))) := by
  have hplaced := hb.isPlaced entity
  refine ⟨fun c hs => hs.seamless hplaced hclear,
    fun h pollMs c hs => Smoothly.uninterrupted hplaced hclear pollMs hs, ?_⟩
  intro h pollMs s c hconduct hs hsettled htracks hall
  have hund := (undisturbed_start hplaced hclear x).steps hs
  have hok : ∀ d ∈ c.deliveries, d.result = .ok () := by
    cases hs.cases_tail with
    | inl h =>
      subst h
      exact List.forall_mem_nil _
    | inr h =>
      obtain ⟨_, -, hlast⟩ := h
      exact hlast.succeeds
  refine ⟨?_, fun hstops => ?_⟩
  · intro limit outcome s' hprocess
    obtain ⟨c', isDrained, howned, htr, hst, ⟨r, hr, -⟩, hq⟩ :=
      Consumer.owned_process h entity pollMs limit htracks
    rw [hprocess] at htr hst hq
    have hleft : h.Succeeds (c.broker.messagesFrom entity (c.reached entity)) c.state := by
      rw [reached_of_isSettled hsettled, committed, htracks.broker, htracks.state]
      exact hall
    have hsmooth : Smoothly conduct entity c c' :=
      Owned.smoothly hconduct (howned.head (own_subscribed _ _ hsettled)) hund.poised hund.clear hok hleft
    refine ⟨c', isDrained, hs.trans hsmooth, hsmooth, htr, hst, ⟨r, hr⟩, ?_, ?_⟩
    · rintro r rfl
      rw [← htr.broker]
      exact (Smoothly.seamless hplaced hclear (hs.trans hsmooth)).ended r isDrained hst
    · rintro hf rfl hnot
      exact (hq hf).resolve_right (by rw [hnot]; exact Bool.false_ne_true)
  · have hclear' : s.broker.IsClear := htracks.broker ▸ hund.clear
    have hplaced' : s.broker.IsPlaced entity := htracks.broker ▸ hund.poised.placed
    exact Consumer.turns_end (s := s.subscribe entity) rfl (hclear'.subscribe entity)
      (Broker.isPlaced_of_messages_eq hplaced' rfl) rfl hall hstops

/-- Three calls over three messages: one that is stopped before it begins, one that its handler stops at
the first message, and one that is stopped when the topic is drained. -/
theorem restarts_leave_no_trace_of_three_calls :
    let b := ({} : Broker).publishAll "t"
      [{ key := [1], value := none, metadata := [] }, { key := [2], value := none, metadata := [] },
        { key := [3], value := none, metadata := [] }]
    let h : Handler Nat := fun _ n => { result := .ok (), state := n + 1, fires := n == 0 }
    b.Made ∧ b.IsClear ∧ ∃ c, Smoothly h.conduct "t" (start b 0) c ∧ c.readings.length = 3 ∧
      c.state = 3 ∧ c.committed "t" = 3 ∧ Seamless h.conduct "t" b 0 c := by
  intro b h
  have hb : b.Made := Broker.Made.empty.publishAll "t" _
  have hclear : b.IsClear := Broker.isClear_publishAll ⟨rfl, rfl⟩ "t" _
  have hconduct : ∀ m x, h.conduct m x (h m x).result (h m x).state := fun _ _ => ⟨rfl, rfl⟩
  let s₁ : Session Nat := { broker := b, signal := { firedAt := some 0 }, state := 0 }
  let s₂ : Session Nat := { broker := (Consumer.process h "t" 100 1 s₁).2.broker, state := 0 }
  let s₃ : Session Nat :=
    { broker := (Consumer.process h "t" 100 2 s₂).2.broker, firesWhenDrained := true, state := 1 }
  obtain ⟨hseamless, -, hcall⟩ := restarts_leave_no_trace hb hclear "t" h.conduct 0
  obtain ⟨c₁, d₁, hs₁, -, htr₁, hst₁, ⟨r₁, hr₁⟩, -, -⟩ :=
    (hcall h 100 s₁ (start b 0) hconduct .refl Stage.isSettled_idle ⟨rfl, rfl⟩ (by decide)).1 1 _ _ rfl
  have hsettled₁ : c₁.stage.IsSettled := hst₁ ▸ Consumer.isSettled_stageOf _ _
  obtain ⟨c₂, d₂, hs₂, -, htr₂, hst₂, ⟨r₂, hr₂⟩, -, -⟩ :=
    (hcall h 100 s₂ c₁ hconduct hs₁ hsettled₁ ⟨htr₁.broker, htr₁.state⟩ (by decide)).1 2 _ _ rfl
  have hsettled₂ : c₂.stage.IsSettled := hst₂ ▸ Consumer.isSettled_stageOf _ _
  obtain ⟨c₃, d₃, hs₃, -, htr₃, -, ⟨r₃, hr₃⟩, -, -⟩ :=
    (hcall h 100 s₃ c₂ hconduct hs₂ hsettled₂ ⟨htr₂.broker, htr₂.state⟩ (by decide)).1 4 _ _ rfl
  refine ⟨hb, hclear, c₃, hs₃, ?_, htr₃.state, ?_, hseamless c₃ hs₃⟩
  · rw [hr₃, hr₂, hr₁]
    rfl
  · rw [committed, htr₃.broker]
    decide

end Course

end AssetGraph
