import AssetGraph.Proofs.Delivery.Moment
import AssetGraph.Proofs.Delivery.Retry
/-!
# The tally of a run

An orchestrator counts the messages that it has handled, and the broker keeps what is committed.  The two
drift apart only where a commit fails, as the message is handled again, and by one for each: what has been
handled is what has come to be committed since the start, and the commits that have failed
(`Orchestrator.stats_account_for_commits`).
-/
namespace AssetGraph

namespace Course

variable {σ τ : Type} {conduct : Conduct σ} {entity : String}

/-- **A course, and how many commits have failed on its way**: the failures that it has taken from those
that lay in the way of commits. -/
inductive Losing (conduct : Conduct σ) (entity : String) (c₀ : Course σ) : Nat → Course σ → Prop
  | start : Losing conduct entity c₀ 0 c₀
  | step {n : Nat} {c c' : Course σ} (h : Losing conduct entity c₀ n c)
      (hs : Unbroken conduct entity c c') :
      Losing conduct entity c₀
        (n + (c.broker.storeFailures.length - c'.broker.storeFailures.length)) c'

/-- **What counts a handler's successes** has counted what is committed since the start, the message that
waits to be, and the commits that have failed. -/
theorem Losing.counts (count : σ → Nat)
    (hcount : ∀ m x r x', conduct m x r x' → count x' = count x + if r = .ok () then 1 else 0)
    {c₀ c : Course σ} {n : Nat} (h₀ : c₀.Poised entity) (h : Losing conduct entity c₀ n c) :
    c.Poised entity ∧
      (count c.state : Int) - count c₀.state = c.reached entity - c₀.reached entity + n := by
  induction h with
  | start =>
    refine ⟨h₀, ?_⟩
    omega
  | @step n c c' _ hs ih =>
    obtain ⟨hpoised, hsum⟩ := ih
    obtain ⟨hpoised', heffect⟩ := hpoised.step hs
    refine ⟨hpoised', ?_⟩
    cases heffect with
    | still _ hstate hreached hstores =>
      rw [hstate, hreached, Nat.sub_eq_zero_of_le hstores]
      exact hsum
    | @handled m r _ hconduct _ hreached hstores =>
      have hone := hcount m c.state r c'.state hconduct
      have hnone : c.broker.storeFailures.length - c'.broker.storeFailures.length = 0 := by
        rw [hstores, Nat.sub_self]
      rw [hone, hreached, hnone]
      split <;> omega
    | lost _ hstate hreached hstores =>
      have hone : c.broker.storeFailures.length - c'.broker.storeFailures.length = 1 := by omega
      rw [hstate, hone]
      omega

/-- The reader's own steps use failures up and bring no new ones. -/
theorem Losing.owned {c₀ c c' : Course σ} {n : Nat} (h : Losing conduct entity c₀ n c)
    (hs : Owned conduct entity c c') : ∃ n', Losing conduct entity c₀ n' c' ∧
      n' + c'.broker.storeFailures.length = n + c.broker.storeFailures.length := by
  induction hs with
  | refl => exact ⟨n, h, rfl⟩
  | @tail c₁ c₂ _ hs ih =>
    obtain ⟨n', hn, hsum⟩ := ih
    have hle := hs.stores.length_le
    exact ⟨_, hn.step hs.toUnbroken, by omega⟩

/-! ## A part of the state -/

/-- The course with a part of the handler's state. -/
def map (f : σ → τ) (c : Course σ) : Course τ :=
  { broker := c.broker, stage := c.stage, readings := c.readings, state := f c.state }

variable {conduct' : Conduct τ} {f : σ → τ}

theorem Step.map (hf : ∀ m x r x', conduct m x r x' → conduct' m (f x) r (f x')) {c c' : Course σ}
    (h : Step conduct entity c c') : Step conduct' entity (c.map f) (c'.map f) := by
  cases h with
  | publish topic key value metadata => exact .publish (c.map f) topic key value metadata
  | failNextPoll reason => exact .failNextPoll (c.map f) reason
  | failNextStore reason => exact .failNextStore (c.map f) reason
  | subscribe => exact .subscribe (c.map f)
  | stop h => exact .stop (c.map f) h
  | pollFailed h hp => exact .pollFailed (c.map f) h hp
  | pollNothing h hp => exact .pollNothing (c.map f) h hp
  | pollMessage h hp => exact .pollMessage (c.map f) h hp
  | handle h hr => exact .handle (c.map f) h (hf _ _ _ _ hr)
  | store h hs => exact .store (c.map f) h hs
  | storeFailed h hs => exact .storeFailed (c.map f) h hs

theorem Owned.map (hf : ∀ m x r x', conduct m x r x' → conduct' m (f x) r (f x')) {c c' : Course σ}
    (h : Owned conduct entity c c') : Owned conduct' entity (c.map f) (c'.map f) := by
  induction h with
  | refl => exact .refl
  | tail _ hs ih =>
    exact ih.tail ⟨⟨hs.step.map hf, hs.settled⟩, hs.messages, hs.polls, hs.stores⟩

end Course

/-! ## The orchestrator's counters -/

theorem Stats.handled_count (stats : Stats) (e : Option Event) :
    (stats.count e).handled = stats.handled + 1 := by
  rcases e with _ | _ | _ <;> rfl

namespace Orchestrator

variable (o : Orchestrator)

/-- **A message is counted once if it is handled without error**, and not at all else. -/
theorem stats_handler {τ : Type} (d : Destination τ) (m : Message) (stats : Stats) (s : τ) :
    ((o.handler d m (stats, s)).result = .ok () ∧
      ∃ e, (o.handler d m (stats, s)).state.1 = stats.count e) ∨
    ((o.handler d m (stats, s)).result ≠ .ok () ∧ (o.handler d m (stats, s)).state.1 = stats) := by
  unfold handler
  rcases m.event? o.major with err | e
  · exact .inr ⟨by rintro ⟨⟩, rfl⟩
  · simp only
    rcases o.load d s e with ⟨err | ⟨⟩, s'⟩
    · exact .inr ⟨by rintro ⟨⟩, rfl⟩
    · exact .inl ⟨rfl, e, rfl⟩

/-- What the handler may do to the counters, wherever the events go and whatever is there by then. -/
def tallying : Conduct Stats := fun m stats r stats' =>
  ∃ (τ : Type) (d : Destination τ) (s : τ),
    (o.handler d m (stats, s)).result = r ∧ (o.handler d m (stats, s)).state.1 = stats'

theorem tallying_cases {m : Message} {stats stats' : Stats} {r : Outcome}
    (h : o.tallying m stats r stats') :
    (r = .ok () ∧ ∃ e, stats' = stats.count e) ∨ (r ≠ .ok () ∧ stats' = stats) := by
  obtain ⟨τ, d, s, rfl, rfl⟩ := h
  exact o.stats_handler d m stats s

theorem handled_of_tallying {m : Message} {stats stats' : Stats} {r : Outcome}
    (h : o.tallying m stats r stats') :
    stats'.handled = stats.handled + if r = .ok () then 1 else 0 := by
  rcases o.tallying_cases h with ⟨rfl, e, rfl⟩ | ⟨hr, rfl⟩
  · rw [if_pos rfl, Stats.handled_count]
  · rw [if_neg hr, Nat.add_zero]

theorem isBalanced_of_tallying {m : Message} {stats stats' : Stats} {r : Outcome}
    (h : o.tallying m stats r stats') (hb : stats.IsBalanced) : stats'.IsBalanced := by
  rcases o.tallying_cases h with ⟨-, e, rfl⟩ | ⟨-, rfl⟩
  · exact Stats.isBalanced_count hb e
  · exact hb

/-- The counters stay balanced. -/
theorem isBalanced_of_losing {c₀ c : Course Stats} {n : Nat} (hb : c₀.state.IsBalanced)
    (h : Course.Losing o.tallying o.entity c₀ n c) : c.state.IsBalanced := by
  induction h with
  | start => exact hb
  | step _ hs ih =>
    exact (hs.step.mono (fun _ _ _ _ hx hr => ⟨hr, o.isBalanced_of_tallying hr hx⟩) ih).2

/-- **The counters account for every commit.**  Take an orchestrator that is the only reader of its
topic, on any broker, and a course of its calls with whatever is published and whatever fails on the way,
wherever its events go.  At every moment the messages handled are those skipped, the upserts and the
retirements; and unless a message waits to be committed, they are as many as the committed offset has
gone on since the start and the commits that have failed.  A message that is not handled is not counted.
Every run of the orchestrator goes on with such a course. -/
theorem stats_account_for_commits {b : Broker} (hb : b.Made) :
    (∀ (n : Nat) (c : Course Stats), Course.Losing o.tallying o.entity (Course.start b {}) n c →
      c.state.IsBalanced ∧
      (c.stage.IsSettled →
        (c.state.handled : Int) = c.committed o.entity - b.startOf o.entity + n)) ∧
    (∀ {τ : Type} (d : Destination τ) (m : Message) (stats : Stats) (s : τ),
      (o.handler d m (stats, s)).result ≠ .ok () → (o.handler d m (stats, s)).state.1 = stats) ∧
    (∀ {τ : Type} (d : Destination τ) (limit attempts : Nat) (s : Session (Stats × τ)) (n : Nat)
      (c : Course Stats), Course.Losing o.tallying o.entity (Course.start b {}) n c →
      c.stage.IsSettled → c.broker = s.broker → c.state = s.state.1 →
      ∃ n' c', Course.Losing o.tallying o.entity (Course.start b {}) n' c' ∧ c'.stage.IsSettled ∧
        c'.broker = (o.run d limit attempts s).2.broker ∧
        c'.state = (o.run d limit attempts s).2.state.1 ∧
        n' + c'.broker.storeFailures.length = n + c.broker.storeFailures.length) := by
  have hpoised : (Course.start b ({} : Stats)).Poised o.entity :=
    Course.poised_start (hb.isPlaced o.entity) _
  have hbalanced : (Course.start b ({} : Stats)).state.IsBalanced := rfl
  refine ⟨?_, ?_, ?_⟩
  · intro n c h
    refine ⟨o.isBalanced_of_losing hbalanced h, fun hsettled => ?_⟩
    have hcount := (h.counts Stats.handled (fun _ _ _ _ => o.handled_of_tallying) hpoised).2
    have hreached : (Course.start b ({} : Stats)).reached o.entity = b.startOf o.entity :=
      Int.add_zero _
    have hzero : (Course.start b ({} : Stats)).state.handled = 0 := rfl
    rw [Course.reached_of_isSettled hsettled, hreached, hzero] at hcount
    omega
  · intro τ d m stats s hr
    rcases o.stats_handler d m stats s with ⟨hok, -⟩ | ⟨-, hstats⟩
    · exact absurd hok hr
    · exact hstats
  · intro τ d limit attempts s n c h hsettled hbroker hstate
    -- the run's course has the whole state of the session; only the counters are followed here
    let whole : Course (Stats × τ) :=
      { broker := c.broker, stage := c.stage, readings := c.readings, state := s.state }
    have hmap : whole.map Prod.fst = c := by
      rw [show c = { c with state := s.state.1 } by rw [← hstate]]
      rfl
    have hconduct : ∀ m x r x', Handler.conduct (o.handler d) m x r x' →
        o.tallying m x.1 r x'.1 := by
      rintro m x r x' ⟨hr, rfl⟩
      exact ⟨τ, d, x.2, hr, rfl⟩
    obtain ⟨c', rfl | ⟨howned, hsettled'⟩, htracks, -⟩ :=
      o.owned_runWith (o.handler d) limit attempts (c := whole) ⟨hbroker, rfl⟩
    · exact ⟨n, c, h, hsettled, htracks.broker, hstate.trans (congrArg Prod.fst htracks.state), rfl⟩
    · have hcall : Course.Own (o.handler d).conduct o.entity whole (whole.subscribed o.entity) :=
        Course.own_subscribed _ _ hsettled
      have hall := Course.Owned.map hconduct (howned.head hcall)
      rw [hmap] at hall
      obtain ⟨n', h', hsum⟩ := h.owned hall
      exact ⟨n', c'.map Prod.fst, h', hsettled', htracks.broker, congrArg Prod.fst htracks.state, hsum⟩

/-- One message, and the first commit fails: it is handled twice and committed once. -/
theorem stats_account_for_commits_of_a_failed_commit :
    let o : Orchestrator := {}
    let p : Payload :=
      { id := "h", team := { id := "t", name := "Team" }, assetType := "Hostname", identifier := "h" }
    let b := (({} : Broker).publishAll o.entity [p.entry]).failNextStore "lost"
    b.Made ∧ ∃ n c, Course.Losing o.tallying o.entity (Course.start b {}) n c ∧ n = 1 ∧
      c.committed o.entity = 1 ∧ c.state = { handled := 2, upserts := 2 } ∧
      (c.state.handled : Int) = c.committed o.entity - b.startOf o.entity + n := by
  intro o p b
  have hb : b.Made := (Broker.Made.empty.publishAll o.entity [p.entry]).failNextStore "lost"
  let s : Session (Stats × Graph) :=
    { broker := b, firesWhenDrained := true, state := ({}, Graph.empty) }
  let d := Graph.destination { second := 0 }
  have hstores : (o.run d 3 2 s).2.broker.storeFailures.length = 0 := by decide +kernel
  have hcommitted : (o.run d 3 2 s).2.broker.startOf o.entity = 1 := by decide +kernel
  have hstats : (o.run d 3 2 s).2.state.1 = { handled := 2, upserts := 2 } := by decide +kernel
  obtain ⟨haccount, -, hrun⟩ := o.stats_account_for_commits hb
  obtain ⟨n, c, h, hsettled, hbroker, hstate, hsum⟩ :=
    hrun d 3 2 s 0 (Course.start b {}) .start Stage.isSettled_idle rfl rfl
  have hn : n = 1 := by
    rw [hbroker, hstores] at hsum
    exact hsum
  refine ⟨hb, n, c, h, hn, ?_, hstate.trans hstats, (haccount n c h).2 hsettled⟩
  rw [Course.committed, hbroker, hcommitted]

end Orchestrator

end AssetGraph
