import AssetGraph.Delivery.Wait
import AssetGraph.Proofs.Delivery.Signal
/-!
# Waiting and asking

Asking a signal reads the cell and the deadline; a wait for it looks at both, time after time, and forgets the
cell once no trigger is left.  What is left of a wait is still a wait for the signal (`Wait.IsFor.look_pending`),
so it is over at the first look at which asking would have said yes: at the time that `Signal.resolves?` computes
(`Signal.over?_eq_resolves?`).  Hence waiting and asking agree, whatever has become of the trigger
(`Channel.waiting_agrees_with_asking`).
-/
namespace AssetGraph

namespace Signal

variable {s : Signal} {held : Nat → Bool} {now bound : Nat}

/-! ## The time that a wait is over -/

theorem resolves?_of_isTriggered (h : s.isTriggered now = true) (bound : Nat) :
    s.resolves? now bound = some now :=
  resolves?_eq_some_iff.2 ⟨Nat.le_refl _, Nat.le_add_right _ _, h,
    fun _ hu hlt => absurd hlt (Nat.not_lt.2 hu)⟩

theorem resolves?_zero (h : s.isTriggered now = false) : s.resolves? now 0 = none :=
  resolves?_eq_none_iff.2 h

/-- A wait for what is not triggered yet is a shorter one from the next millisecond on. -/
theorem resolves?_succ (h : s.isTriggered now = false) (bound : Nat) :
    s.resolves? now (bound + 1) = s.resolves? (now + 1) bound := by
  have hend : now + (bound + 1) = now + 1 + bound := by omega
  refine Option.ext fun t => ?_
  rw [resolves?_eq_some_iff, resolves?_eq_some_iff, hend]
  constructor
  · rintro ⟨hnow, hle, ht, hfirst⟩
    have hne : now ≠ t := by
      rintro rfl
      rw [h] at ht
      cases ht
    exact ⟨by omega, hle, ht, fun u hu hlt => hfirst u (by omega) hlt⟩
  · rintro ⟨hnow, hle, ht, hfirst⟩
    refine ⟨by omega, hle, ht, fun u hu hlt => ?_⟩
    rcases Nat.eq_or_lt_of_le hu with rfl | hu
    · exact h
    · exact hfirst u hu hlt

/-- A signal that nobody fires is waited for until its deadline. -/
theorem resolves?_of_unfired {t : Nat} (hf : s.firedAt = none) (h : s.isTriggered now = false) :
    s.resolves? now bound = some t ↔ t ≤ now + bound ∧ s.deadline = some t := by
  rw [isTriggered, hf, Option.any_none, Bool.false_or] at h
  rw [resolves?, hf]
  cases hd : s.deadline with
  | none => exact iff_of_false (by rintro ⟨⟩) (by rintro ⟨-, ⟨⟩⟩)
  | some d =>
    rw [hd, Option.any_some, decide_eq_false_iff_not] at h
    have hmax : max now d = d := Nat.max_eq_right (Nat.le_of_not_le h)
    simp only [earlier, Option.map_some, hmax, Option.filter_eq_some_iff, Option.some.injEq, decide_eq_true_eq]
    constructor
    · rintro ⟨rfl, hle⟩
      exact ⟨hle, rfl⟩
    · rintro ⟨hle, rfl⟩
      exact ⟨rfl, hle⟩

/-- **Nobody fires a trigger that is gone**: from now on there is one until it is fired. -/
def IsHeld (s : Signal) (held : Nat → Bool) (now : Nat) : Prop :=
  ∀ f, s.firedAt = some f → ∀ t, now ≤ t → t < f → held t = true

theorem IsHeld.mono {later : Nat} (h : s.IsHeld held now) (hl : now ≤ later) : s.IsHeld held later :=
  fun f hf t ht => h f hf t (Nat.le_trans hl ht)

theorem le_of_fire {f f' : Nat} (h : (s.fire f).firedAt = some f') : f' ≤ f := by
  rw [fire] at h
  cases hf : s.firedAt with
  | none =>
    rw [hf] at h
    cases h
    exact Nat.le_refl _
  | some g =>
    rw [hf] at h
    cases h
    exact Nat.min_le_right _ _

/-- A trigger that is gone and has not been fired is not fired any more. -/
theorem IsHeld.not_fired (h : s.IsHeld held now) (hgone : held now = false)
    (hnot : s.firedAt.any (· ≤ now) = false) (t : Nat) : s.firedAt.any (· ≤ t) = false := by
  cases hf : s.firedAt with
  | none => rfl
  | some f =>
    rw [hf, Option.any_some, decide_eq_false_iff_not] at hnot
    rw [h f hf now (Nat.le_refl _) (Nat.lt_of_not_le hnot)] at hgone
    cases hgone

end Signal

/-! ## One look -/

/-- **A wait for a signal**: it has the signal's deadline, and watches the cell unless that is not fired any
more. -/
structure Wait.IsFor (w : Wait) (s : Signal) (now : Nat) : Prop where
  deadline : w.deadline = s.deadline
  watches : w.isWatching = true ∨ ∀ t, now ≤ t → s.firedAt.any (· ≤ t) = false

namespace Wait.IsFor

variable {w : Wait} {s : Signal} {held : Nat → Bool} {now bound : Nat}

theorem mono {later : Nat} (h : w.IsFor s now) (hl : now ≤ later) : w.IsFor s later where
  deadline := h.deadline
  watches := h.watches.imp_right fun hnot t ht => hnot t (Nat.le_trans hl ht)

/-- A look at which asking would have said yes is the last. -/
theorem look_over (h : w.IsFor s now) (ht : s.isTriggered now = true) : w.look (s.cell held now) now = none := by
  rw [look, h.deadline]
  by_cases hdeadline : s.deadline.any (· ≤ now) = true
  · rw [if_pos hdeadline]
  · rw [if_neg hdeadline]
    have hfired : s.firedAt.any (· ≤ now) = true := (Bool.or_eq_true_iff.1 ht).resolve_right hdeadline
    have hwatching : w.isWatching = true := h.watches.resolve_right fun hnot => by
      rw [hnot now (Nat.le_refl _)] at hfired
      cases hfired
    rw [watch, if_pos hwatching, Cell.news, Signal.cell, if_pos hfired]

/-- **Any other look leaves a wait for the signal.** -/
theorem look_pending (h : w.IsFor s now) (hheld : s.IsHeld held now) (ht : s.isTriggered now = false) :
    ∃ w', w.look (s.cell held now) now = some w' ∧ w'.IsFor s now := by
  obtain ⟨hfired, hdeadline⟩ := Bool.or_eq_false_iff.1 ht
  rw [look, h.deadline, if_neg (Bool.eq_false_iff.1 hdeadline), watch]
  by_cases hwatching : w.isWatching = true
  · rw [if_pos hwatching, Cell.news, Signal.cell, if_neg (Bool.eq_false_iff.1 hfired)]
    cases hgone : held now with
    | true => exact ⟨w, rfl, h⟩
    | false => exact ⟨_, rfl, h.deadline, .inr fun t _ => hheld.not_fired hgone hfired t⟩
  · rw [if_neg hwatching]
    exact ⟨w, rfl, h⟩

/-! ## All looks -/

/-- **A wait for a signal is over when the signal is triggered**, or given up before. -/
theorem over?_eq_resolves? (h : w.IsFor s now) (hheld : s.IsHeld held now) :
    over? (s.cell held) bound now w = s.resolves? now bound := by
  induction bound generalizing now w with
  | zero =>
    rw [over?]
    cases ht : s.isTriggered now with
    | true => rw [h.look_over ht, Signal.resolves?_of_isTriggered ht, Option.isNone_none, if_pos rfl]
    | false =>
      obtain ⟨w', hw, -⟩ := h.look_pending hheld ht
      rw [hw, Signal.resolves?_zero ht, Option.isNone_some, if_neg Bool.false_ne_true]
  | succ bound ih =>
    rw [over?]
    cases ht : s.isTriggered now with
    | true => rw [h.look_over ht, Signal.resolves?_of_isTriggered ht]
    | false =>
      obtain ⟨w', hw, hw'⟩ := h.look_pending hheld ht
      rw [hw, Signal.resolves?_succ ht]
      exact ih (hw'.mono (Nat.le_succ _)) (hheld.mono (Nat.le_succ _))

end Wait.IsFor

/-- **A wait is over at the first time at which asking says yes**, whenever somebody fires the trigger, and
whenever the triggers are gone. -/
theorem Signal.over?_eq_resolves? {s : Signal} {held : Nat → Bool} {now : Nat} (hheld : s.IsHeld held now)
    (bound : Nat) : s.over? held now bound = s.resolves? now bound :=
  Wait.IsFor.over?_eq_resolves? ⟨rfl, .inl rfl⟩ hheld

namespace Channel

variable {ch : Channel} {i ms elapsed : Nat}

/-! ## The signals of a channel -/

/-- What is not triggered has not been fired. -/
theorem IsPast.firedAt_eq_none (h : ch.IsPast) (ht : ch.isTriggered i = false) : ch.firedAt = none := by
  cases hf : ch.firedAt with
  | none => rfl
  | some f =>
    have hfired : ch.isFired = true := by rw [isFired, hf, Option.any_some, decide_eq_true (h f hf)]
    rw [isTriggered_eq, hfired, Bool.true_or] at ht
    cases ht

/-- Unless somebody fires it, a trigger may go at any time. -/
theorem IsPast.isHeld (h : ch.IsPast) (i : Nat) (held : Nat → Bool) : (ch.signal i).IsHeld held ch.now :=
  fun f hf _ ht hlt => absurd (Nat.lt_of_lt_of_le hlt (h f hf)) (Nat.not_lt.2 ht)

theorem step_wait_of_isTriggered (h : ch.isTriggered i = true) (ms : Nat) :
    ch.step (.wait i ms) = (.waited true 0, ch) := by
  rw [step, Signal.resolves?_of_isTriggered h]
  show (Reply.waited true (ch.now - ch.now), ch) = _
  rw [Nat.sub_self]

/-- **What a wait answers**, and the time behind it. -/
theorem waited_iff : (ch.step (.wait i ms)).1 = .waited true elapsed ↔
    (ch.signal i).resolves? ch.now ms = some (ch.now + elapsed) := by
  rw [step]
  rcases hw : (ch.signal i).resolves? ch.now ms with _ | t
  · exact iff_of_false (by rintro ⟨⟩) (by rintro ⟨⟩)
  · have hle := (Signal.resolves?_eq_some_iff.1 hw).1
    rw [Option.some.injEq, Reply.waited.injEq, and_iff_right rfl]
    omega

theorem step_wait_of_waited (h : (ch.step (.wait i ms)).1 = .waited true elapsed) :
    (ch.step (.wait i ms)).2 = { ch with now := ch.now + elapsed } := by
  rw [step, waited_iff.1 h]

/-- **Waiting and asking agree.**  Take a signal of any channel, whatever has been done to it, and a wait for the
signal that is given up after some time.  The answer is what looking at the wait comes to, look after look,
even if the triggers go at any time before or meanwhile.  If the signal is triggered the wait is over at once.
Otherwise, as long as nobody fires the trigger, it is over exactly if the signal has a deadline within that
time, and when the deadline is reached.  Either way the signal is triggered when the wait is over; so it is if
somebody fires the trigger meanwhile, while there is one. -/
theorem waiting_agrees_with_asking (before : List Step) (i ms : Nat) (held : Nat → Bool) :
    let ch := (({} : Channel).run before).2
    let waited := ch.step (.wait i ms)
    (waited.1 = match (ch.signal i).over? held ch.now ms with
      | some t => .waited true (t - ch.now)
      | none => .waited false ms) ∧
    (ch.isTriggered i = true → waited = (.waited true 0, ch)) ∧
    (ch.isTriggered i = false → ∀ elapsed, waited.1 = .waited true elapsed ↔
      elapsed ≤ ms ∧ (ch.signal i).deadline = some (ch.now + elapsed)) ∧
    (∀ elapsed, waited.1 = .waited true elapsed →
      waited.2.now = ch.now + elapsed ∧ waited.2.isTriggered i = true) ∧
    ∀ f, (∀ t, ch.now ≤ t → t < f → held t = true) →
      ∀ t, ((ch.signal i).fire f).over? held ch.now ms = some t ↔
        ch.now ≤ t ∧ t ≤ ch.now + ms ∧ ((ch.signal i).fire f).isTriggered t = true ∧
          ∀ u, ch.now ≤ u → u < t → ((ch.signal i).fire f).isTriggered u = false := by
  intro ch waited
  have hpast : ch.IsPast := isPast_of_run before
  refine ⟨?_, fun ht => step_wait_of_isTriggered ht ms, fun ht elapsed => ?_, fun elapsed hw => ?_,
    fun f hf t => ?_⟩
  · rw [Signal.over?_eq_resolves? (hpast.isHeld i held)]
    show (ch.step (.wait i ms)).1 = _
    rw [step]
    cases (ch.signal i).resolves? ch.now ms <;> rfl
  · rw [waited_iff, Signal.resolves?_of_unfired (hpast.firedAt_eq_none ht) ht, Nat.add_le_add_iff_left]
  · have hafter : waited.2 = { ch with now := ch.now + elapsed } := step_wait_of_waited hw
    rw [hafter]
    exact ⟨rfl, (Signal.resolves?_eq_some_iff.1 (waited_iff.1 hw)).2.2.1⟩
  · have hheld : ((ch.signal i).fire f).IsHeld held ch.now := by
      intro f' hf' t ht hlt
      exact hf t ht (Nat.lt_of_lt_of_le hlt (Signal.le_of_fire hf'))
    rw [Signal.over?_eq_resolves? hheld, Signal.resolves?_eq_some_iff]

/-- A signal whose trigger is dropped after firing; one with a deadline, and one without, whose triggers are
dropped; and the second of these if its trigger is there for a while and somebody fires it. -/
theorem waiting_agrees_with_asking_of_dropped_triggers :
    let left (before : List Step) : Channel := (({} : Channel).run before).2
    let fired := left [.clone 0, .trigger, .drop]
    let timed := left [.withDeadline 0 5, .drop, .advance 2]
    let gone := left [.drop]
    let held (t : Nat) : Bool := t < 4
    (fired.isTriggered 1 = true ∧ fired.step (.wait 1 10) = (.waited true 0, fired)) ∧
      (timed.isTriggered 0 = false ∧ (timed.step (.wait 0 10)).1 = .waited true 3 ∧
        (timed.step (.wait 0 10)).2.now = 5 ∧ (timed.step (.wait 0 10)).2.isTriggered 0 = true) ∧
      (gone.isTriggered 0 = false ∧ ∀ elapsed, (gone.step (.wait 0 10)).1 ≠ .waited true elapsed) ∧
      (∀ t, timed.now ≤ t → t < 4 → held t = true) ∧
        ((timed.signal 0).fire 4).over? held timed.now 10 = some 4 := by
  intro left fired timed gone held
  obtain ⟨-, honce, -⟩ := waiting_agrees_with_asking [.clone 0, .trigger, .drop] 1 10 held
  obtain ⟨-, -, hdeadline, hafter, hfire⟩ :=
    waiting_agrees_with_asking [.withDeadline 0 5, .drop, .advance 2] 0 10 held
  obtain ⟨-, -, hnone, -⟩ := waiting_agrees_with_asking [.drop] 0 10 held
  have hwaited : (timed.step (.wait 0 10)).1 = .waited true 3 := (hdeadline (by decide) 3).2 (by decide)
  have hheld : ∀ t, timed.now ≤ t → t < 4 → held t = true := fun t _ ht => decide_eq_true ht
  have hbefore : ∀ u, u < 4 → ((timed.signal 0).fire 4).isTriggered u = false := by decide
  refine ⟨⟨by decide, honce (by decide)⟩, ⟨by decide, hwaited, hafter 3 hwaited⟩, ⟨by decide, fun elapsed hw => ?_⟩,
    hheld, (hfire 4 hheld 4).2 ⟨by decide, by decide, by decide, fun u _ => hbefore u⟩⟩
  exact nomatch ((hnone (by decide) elapsed).1 hw).2

end Channel

end AssetGraph
