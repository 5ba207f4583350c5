import AssetGraph.Delivery.Signal
/-!
# How long a signal stays triggered

Steps on a channel let time pass and may fire the trigger, clone signals and give them deadlines.  A
signal that is triggered stays so at each of them but one, which gives it a later deadline while nobody
has fired the trigger (`isTriggered_step`).  So all signals that come from it stay triggered for as long
as no such step is taken (`stays_triggered_unless_postponed`).  A wait for a signal ends when it is
triggered, and is given up if that is not in time (`Signal.resolves?_eq_some_iff`).
-/
namespace AssetGraph

namespace Signal

theorem isTriggered_eq_any (s : Signal) (t : Nat) :
    s.isTriggered t = (earlier s.firedAt s.deadline).any (· ≤ t) := (any_earlier _ _ t).symm

/-- A wait is given up exactly if the signal is not triggered when its time is over. -/
theorem resolves?_eq_none_iff {s : Signal} {now bound : Nat} :
    s.resolves? now bound = none ↔ s.isTriggered (now + bound) = false := by
  rw [resolves?, isTriggered_eq_any]
  cases earlier s.firedAt s.deadline with
  | none => exact iff_of_true rfl rfl
  | some d =>
    rw [Option.map_some, Option.filter_eq_none_iff, Option.any_some, decide_eq_false_iff_not]
    constructor
    · intro h hd
      exact h _ rfl (decide_eq_true (Nat.max_le.2 ⟨Nat.le_add_right _ _, hd⟩))
    · rintro h _ ⟨⟩ hd
      exact h (Nat.max_le.1 (of_decide_eq_true hd)).2

/-- **A wait ends as soon as the signal is triggered.** -/
theorem resolves?_eq_some_iff {s : Signal} {now bound t : Nat} :
    s.resolves? now bound = some t ↔ now ≤ t ∧ t ≤ now + bound ∧ s.isTriggered t = true ∧
      ∀ u, now ≤ u → u < t → s.isTriggered u = false := by
  simp only [resolves?, isTriggered_eq_any, Option.filter_eq_some_iff, Option.map_eq_some_iff]
  cases earlier s.firedAt s.deadline with
  | none => simp
  | some d =>
    simp only [Option.some.injEq, exists_eq_left', Option.any_some, decide_eq_true_eq, decide_eq_false_iff_not]
    constructor
    · rintro ⟨rfl, hle⟩
      exact ⟨Nat.le_max_left _ _, hle, Nat.le_max_right _ _, fun u hu hlt => by omega⟩
    · rintro ⟨hnow, hle, hd, hfirst⟩
      refine ⟨Nat.le_antisymm (Nat.max_le.2 ⟨hnow, hd⟩) (Nat.le_of_not_lt fun hlt => ?_), hle⟩
      exact hfirst _ (Nat.le_max_left _ _) hlt (Nat.le_max_right _ _)

/-- A time that has passed has passed. -/
theorem any_le_mono {o : Option Nat} {t t' : Nat} (h : o.any (· ≤ t) = true) (ht : t ≤ t') :
    o.any (· ≤ t') = true := by
  cases o with
  | none => cases h
  | some d => exact decide_eq_true (Nat.le_trans (of_decide_eq_true h) ht)

end Signal

namespace Channel

/-- Whether somebody has fired the trigger. -/
def isFired (ch : Channel) : Bool := ch.firedAt.any (· ≤ ch.now)

/-- What a signal answers when it is asked now. -/
def isTriggered (ch : Channel) (i : Nat) : Bool := (ch.signal i).isTriggered ch.now

/-- **Whether a step takes a signal's trigger away**: the signal gets a deadline that is still to come, and
nobody has fired the trigger. -/
def postpones (ch : Channel) (s : Step) (i : Nat) : Bool :=
  match s with
  | .withDeadline j ms => j == i && (decide (0 < ms) && !ch.isFired)
  | _ => false

/-- The signals that come from some in one step: they themselves, with their deadlines of then, and a
clone. -/
def bear (ch : Channel) (line : List Nat) : Step → List Nat
  | .clone i => if i ∈ line then line ++ [ch.deadlines.length] else line
  | _ => line

/-- **The signals that come from some** in a list of steps. -/
def offspring (ch : Channel) : List Step → List Nat → List Nat
  | [], line => line
  | s :: ss, line => (ch.step s).2.offspring ss (ch.bear line s)

variable {ch : Channel} {i j : Nat} {s : Step} {line : List Nat}

theorem isTriggered_eq (ch : Channel) (i : Nat) :
    ch.isTriggered i = (ch.isFired || (ch.deadlines[i]?).join.any (· ≤ ch.now)) := rfl

/-! ## One step -/

theorem now_le_step (ch : Channel) (s : Step) : ch.now ≤ (ch.step s).2.now := by
  cases s with
  | trigger =>
    rw [step]
    split <;> exact Nat.le_refl _
  | drop => exact Nat.le_refl _
  | clone i => exact Nat.le_refl _
  | withDeadline i ms => exact Nat.le_refl _
  | advance ms => exact Nat.le_add_right _ _
  | ask i => exact Nat.le_refl _
  | wait i ms =>
    rw [step]
    rcases hw : (ch.signal i).resolves? ch.now ms with _ | t
    · exact Nat.le_add_right _ _
    · exact (Signal.resolves?_eq_some_iff.1 hw).1

theorem firedAt_step (ch : Channel) (s : Step) : (ch.step s).2.firedAt = ch.firedAt ∨
    (ch.step s).2.firedAt = Signal.earlier ch.firedAt (some ch.now) := by
  cases s with
  | trigger =>
    rw [step]
    split
    · exact .inr rfl
    · exact .inl rfl
  | wait i ms =>
    rw [step]
    split <;> exact .inl rfl
  | _ => exact .inl rfl

theorem deadlines_step (ch : Channel) (s : Step) : (ch.step s).2.deadlines =
    match s with
    | .clone i => ch.deadlines ++ [(ch.signal i).deadline]
    | .withDeadline i ms => ch.deadlines.set i (some (ch.now + ms))
    | _ => ch.deadlines := by
  cases s with
  | trigger =>
    rw [step]
    split <;> rfl
  | wait i ms =>
    rw [step]
    split <;> rfl
  | _ => rfl

theorem length_le_step (ch : Channel) (s : Step) : ch.deadlines.length ≤ (ch.step s).2.deadlines.length := by
  rw [deadlines_step]
  cases s <;> simp

/-- **What the trigger has done is not undone.** -/
theorem isFired_step (h : ch.isFired = true) (s : Step) : (ch.step s).2.isFired = true := by
  have hlater := Signal.any_le_mono h (ch.now_le_step s)
  rcases ch.firedAt_step s with hf | hf
  · rw [isFired, hf, hlater]
  · rw [isFired, hf, Signal.any_earlier, hlater, Bool.true_or]

/-- A deadline that is let alone stays. -/
theorem deadlines_step_of_ne (hi : i < ch.deadlines.length) (h : ∀ ms, s ≠ .withDeadline i ms) :
    (ch.step s).2.deadlines[i]? = ch.deadlines[i]? := by
  rw [deadlines_step]
  cases s with
  | clone j => exact List.getElem?_append_left hi
  | withDeadline j ms =>
    refine List.getElem?_set_ne ?_
    rintro rfl
    exact h ms rfl
  | _ => rfl

theorem postpones_of_isFired (h : ch.isFired = true) (s : Step) (i : Nat) : ch.postpones s i = false := by
  cases s with
  | withDeadline j ms => simp only [postpones, h, Bool.not_true, Bool.and_false]
  | _ => rfl

/-- **What one step makes of a triggered signal.** -/
theorem isTriggered_step (hi : i < ch.deadlines.length) (h : ch.isTriggered i = true) (s : Step) :
    (ch.step s).2.isTriggered i = !ch.postpones s i := by
  rw [isTriggered_eq] at h ⊢
  by_cases hf : ch.isFired = true
  · rw [isFired_step hf s, postpones_of_isFired hf, Bool.true_or, Bool.not_false]
  · rw [Bool.not_eq_true] at hf
    rw [hf, Bool.false_or] at h
    by_cases hs : ∃ ms, s = .withDeadline i ms
    · -- the deadline that has passed is replaced
      obtain ⟨ms, rfl⟩ := hs
      have hfired : (ch.step (.withDeadline i ms)).2.isFired = ch.isFired := rfl
      have hnow : (ch.step (.withDeadline i ms)).2.now = ch.now := rfl
      have hset : (ch.step (.withDeadline i ms)).2.deadlines[i]? = some (some (ch.now + ms)) :=
        List.getElem?_set_self hi
      rw [hfired, hf, hnow, hset, postpones, hf, beq_self_eq_true, Bool.eq_iff_iff]
      simp only [Option.join_some, Option.any_some, Bool.false_or, Bool.true_and, Bool.not_false, Bool.and_true,
        Bool.not_eq_true', decide_eq_true_eq, decide_eq_false_iff_not]
      omega
    · rw [not_exists] at hs
      rw [deadlines_step_of_ne hi hs, Signal.any_le_mono h (ch.now_le_step s), Bool.or_true]
      cases s with
      | withDeadline j ms =>
        have hj : (j == i) = false := beq_false_of_ne fun hj => hs ms (by rw [hj])
        rw [postpones, hj]
        rfl
      | _ => rfl

/-- A clone is triggered when what it is a clone of is. -/
theorem isTriggered_clone (ch : Channel) (i : Nat) :
    (ch.step (.clone i)).2.isTriggered ch.deadlines.length = ch.isTriggered i := by
  have hfired : (ch.step (.clone i)).2.isFired = ch.isFired := rfl
  have hnow : (ch.step (.clone i)).2.now = ch.now := rfl
  have hlast : (ch.step (.clone i)).2.deadlines[ch.deadlines.length]? = some (ch.signal i).deadline := by
    rw [deadlines_step]
    exact List.getElem?_concat_length
  rw [isTriggered_eq, isTriggered_eq, hfired, hnow, hlast]
  rfl

/-! ## Lists of steps -/

theorem mem_bear_iff {k : Nat} : k ∈ ch.bear line s ↔
    k ∈ line ∨ ∃ i ∈ line, s = .clone i ∧ k = ch.deadlines.length := by
  cases s with
  | clone i =>
    rw [bear]
    split
    · rename_i hi
      simp only [List.mem_append, List.mem_singleton, Step.clone.injEq, ← and_assoc]
      exact or_congr_right ⟨fun hk => ⟨i, ⟨hi, rfl⟩, hk⟩, fun ⟨_, _, hk⟩ => hk⟩
    · rename_i hi
      refine ⟨.inl, fun h => h.resolve_right ?_⟩
      rintro ⟨j, hj, he, -⟩
      cases he
      exact hi hj
  | _ => exact ⟨.inl, fun h => h.resolve_right fun ⟨_, _, he, _⟩ => Step.noConfusion he⟩

theorem lt_length_of_mem_bear (h : ∀ i ∈ line, i < ch.deadlines.length) (s : Step) :
    ∀ i ∈ ch.bear line s, i < (ch.step s).2.deadlines.length := by
  intro i hi
  rcases mem_bear_iff.1 hi with hi | ⟨j, -, rfl, rfl⟩
  · exact Nat.lt_of_lt_of_le (h i hi) (ch.length_le_step s)
  · rw [deadlines_step, List.length_append]
    exact Nat.lt_succ_self _

theorem lt_length_of_mem_offspring (ss : List Step) (h : ∀ i ∈ line, i < ch.deadlines.length) :
    ∀ i ∈ ch.offspring ss line, i < (ch.run ss).2.deadlines.length := by
  induction ss generalizing ch line with
  | nil => exact h
  | cons s ss ih => exact ih (lt_length_of_mem_bear h s)

/-- All of some signals are there, and triggered. -/
def AreTriggered (ch : Channel) (line : List Nat) : Prop :=
  ∀ i ∈ line, i < ch.deadlines.length ∧ ch.isTriggered i = true

/-- **One step leaves all that come from triggered signals triggered** exactly if it takes the trigger away
from none of these. -/
theorem areTriggered_bear_iff (h : ch.AreTriggered line) (s : Step) :
    (ch.step s).2.AreTriggered (ch.bear line s) ↔ ∀ i ∈ line, ch.postpones s i = false := by
  constructor
  · intro hall i hi
    have hstep := isTriggered_step (h i hi).1 (h i hi).2 s
    rw [(hall i (mem_bear_iff.2 (.inl hi))).2] at hstep
    rw [← Bool.not_not (ch.postpones s i), ← hstep, Bool.not_true]
  · intro hnone k hk
    refine ⟨lt_length_of_mem_bear (fun i hi => (h i hi).1) s k hk, ?_⟩
    rcases mem_bear_iff.1 hk with hk | ⟨i, hi, rfl, rfl⟩
    · rw [isTriggered_step (h k hk).1 (h k hk).2, hnone k hk, Bool.not_false]
    · exact (ch.isTriggered_clone i).trans (h i hi).2

/-- **All that come from triggered signals stay triggered** exactly if no step takes the trigger away from
one of them. -/
theorem areTriggered_offspring_iff (h : ch.AreTriggered line) (ss : List Step) :
    (∀ n, (ch.run (ss.take n)).2.AreTriggered (ch.offspring (ss.take n) line)) ↔
      ∀ n (hn : n < ss.length), ∀ i ∈ ch.offspring (ss.take n) line,
        (ch.run (ss.take n)).2.postpones ss[n] i = false := by
  induction ss generalizing ch line with
  | nil =>
    refine iff_of_true (fun n => ?_) fun n hn => absurd hn (Nat.not_lt_zero n)
    rw [List.take_nil]
    exact h
  | cons s ss ih =>
    have hone := areTriggered_bear_iff h s
    constructor
    · intro hall n hn
      have hs := hall 1
      cases n with
      | zero => exact hone.1 hs
      | succ n => exact (ih hs).1 (fun n => hall (n + 1)) n (Nat.lt_of_succ_lt_succ hn)
    · intro hnone n
      have hs := hone.2 (hnone 0 (Nat.zero_lt_succ _))
      cases n with
      | zero => exact h
      | succ n => exact (ih hs).2 (fun n hn => hnone (n + 1) (Nat.succ_lt_succ hn)) n

/-! ## From the start -/

/-- Nobody fires the trigger in the future. -/
def IsPast (ch : Channel) : Prop := ∀ f, ch.firedAt = some f → f ≤ ch.now

theorem isPast_step (h : ch.IsPast) (s : Step) : (ch.step s).2.IsPast := by
  intro f hf
  refine Nat.le_trans ?_ (ch.now_le_step s)
  rcases ch.firedAt_step s with he | he <;> rw [he] at hf
  · exact h f hf
  · cases hfired : ch.firedAt with
    | none =>
      rw [hfired] at hf
      cases hf
      exact Nat.le_refl _
    | some g =>
      rw [hfired] at hf
      cases hf
      exact Nat.min_le_right _ _

theorem isPast_run (ss : List Step) (h : ch.IsPast) : (ch.run ss).2.IsPast := by
  induction ss generalizing ch with
  | nil => exact h
  | cons s ss ih => exact ih (isPast_step h s)

theorem isPast_of_run (ss : List Step) : (({} : Channel).run ss).2.IsPast :=
  isPast_run ss fun _ hf => nomatch hf

/-- **When a deadline takes nothing away**: from now on a signal is triggered whenever it would have been
without the deadline.  That is so if somebody has fired the trigger, and otherwise if an earlier deadline is
not later than the new one, or the new one is now. -/
theorem withDeadline_adds_iff (hch : ch.IsPast) (hi : i < ch.deadlines.length) (ms : Nat) :
    (∀ t, ch.now ≤ t → (ch.signal i).isTriggered t = true →
        ((ch.step (.withDeadline i ms)).2.signal i).isTriggered t = true) ↔
      ch.isFired = true ∨ ∀ d, (ch.signal i).deadline = some d → ms = 0 ∨ ch.now + ms ≤ d := by
  have hafter : (ch.step (.withDeadline i ms)).2.signal i = ⟨ch.firedAt, some (ch.now + ms)⟩ := by
    show Signal.mk ch.firedAt ((ch.deadlines.set i (some (ch.now + ms)))[i]?).join = _
    rw [List.getElem?_set_self hi, Option.join_some]
  have hsignal : ch.signal i = ⟨ch.firedAt, (ch.signal i).deadline⟩ := rfl
  rw [hafter, hsignal]
  generalize (ch.signal i).deadline = o
  cases hf : ch.firedAt with
  | some f =>
    have hle := hch f hf
    refine iff_of_true (fun t ht _ => ?_) (.inl (by rw [isFired, hf]; exact decide_eq_true hle))
    exact Bool.or_eq_true_iff.2 (.inl (decide_eq_true (Nat.le_trans hle ht)))
  | none =>
    have hnot : ch.isFired = false := by rw [isFired, hf]; rfl
    simp only [Signal.isTriggered, hnot, Option.any_none, Option.any_some, Bool.false_or, Bool.false_eq_true,
      false_or, decide_eq_true_eq, Option.any_eq_true]
    constructor
    · rintro h d rfl
      have hlater := h (max ch.now d) (Nat.le_max_left _ _) ⟨d, rfl, Nat.le_max_right _ _⟩
      omega
    · rintro h t ht ⟨d, rfl, hd⟩
      have hd' := h d rfl
      omega

/-- **A triggered signal stays triggered unless a deadline that is still to come is put in the place of one
that has passed.**  After any steps, take a signal that is triggered, any further steps, and all signals that come
from it in these, as clones or with new deadlines.  They are triggered all the time exactly if no step gives one of
them a deadline that is still to come while nobody has fired the trigger.  And a new deadline takes nothing away
from a signal, triggered or not, exactly if somebody has fired the trigger, an earlier deadline is not later, or
the new one is now. -/
theorem stays_triggered_unless_postponed (before after : List Step) (i : Nat) :
    let ch := (({} : Channel).run before).2
    i < ch.deadlines.length →
    (ch.isTriggered i = true →
      ((∀ n, ∀ j ∈ ch.offspring (after.take n) [i], (ch.run (after.take n)).2.isTriggered j = true) ↔
        ∀ n (hn : n < after.length), ∀ j ∈ ch.offspring (after.take n) [i],
          (ch.run (after.take n)).2.postpones after[n] j = false)) ∧
    ∀ ms, ((∀ t, ch.now ≤ t → (ch.signal i).isTriggered t = true →
        ((ch.step (.withDeadline i ms)).2.signal i).isTriggered t = true) ↔
      ch.isFired = true ∨ ∀ d, (ch.signal i).deadline = some d → ms = 0 ∨ ch.now + ms ≤ d) := by
  intro ch hi
  refine ⟨fun h => ?_, withDeadline_adds_iff (isPast_of_run before) hi⟩
  have hthere : ∀ j ∈ [i], j < ch.deadlines.length := List.forall_mem_singleton.2 hi
  rw [← areTriggered_offspring_iff (List.forall_mem_singleton.2 ⟨hi, h⟩)]
  refine forall_congr' fun n => forall₂_congr fun j hj => ?_
  exact (and_iff_right (lt_length_of_mem_offspring _ hthere j hj)).symm

theorem stays_triggered_unless_postponed_of_passed :
    let before : List Step := [.withDeadline 0 5, .advance 10]
    let after : List Step := [.clone 0, .trigger, .withDeadline 1 100, .advance 3]
    let ch := (({} : Channel).run before).2
    ch.isTriggered 0 = true ∧ ch.offspring after [0] = [0, 1] ∧ (ch.run after).2.isTriggered 1 = true ∧
      ¬ ∀ t, ch.now ≤ t → (ch.signal 0).isTriggered t = true →
        ((ch.step (.withDeadline 0 100)).2.signal 0).isTriggered t = true := by
  intro before after ch
  have hi : 0 < ch.deadlines.length := by decide
  have htriggered : ch.isTriggered 0 = true := by decide
  have hmain := stays_triggered_unless_postponed before after 0 hi
  have hkept : ∀ n (hn : n < after.length), ∀ j ∈ ch.offspring (after.take n) [0],
      (ch.run (after.take n)).2.postpones after[n] j = false := by decide
  refine ⟨htriggered, by decide, (hmain.1 htriggered).2 hkept 4 1 (by decide), fun hadds => ?_⟩
  rcases (hmain.2 100).1 hadds with hfired | hlater
  · exact absurd hfired (by decide)
  · exact absurd (hlater 5 rfl) (by decide)

/-- A signal whose deadline has passed is given a later one: it is triggered no more. -/
theorem a_later_deadline_takes_the_trigger_away :
    (({} : Channel).run [.withDeadline 0 5, .advance 10]).2.isTriggered 0 = true ∧
      (({} : Channel).run [.withDeadline 0 5, .advance 10, .withDeadline 0 100]).2.isTriggered 0 = false ∧
      ¬ ∀ (before after : List Step) (i : Nat), i < (({} : Channel).run before).2.deadlines.length →
        (({} : Channel).run before).2.isTriggered i = true →
        ∀ j ∈ (({} : Channel).run before).2.offspring after [i],
          ((({} : Channel).run before).2.run after).2.isTriggered j = true := by
  refine ⟨by decide, by decide, fun hall => ?_⟩
  have hstays := hall [.withDeadline 0 5, .advance 10] [.withDeadline 0 100] 0 (by decide) (by decide) 0
    (by decide)
  exact absurd hstays (by decide)

end Channel

end AssetGraph
