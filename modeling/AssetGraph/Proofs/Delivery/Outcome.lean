import AssetGraph.Proofs.Delivery.Retry
import AssetGraph.Proofs.Delivery.Signal
import Mathlib.Data.List.Chain
/-!
# What a run of calls comes to

A call subscribes once, and ends well only when its signal is triggered (`Consumer.subscriptions_process`,
`Consumer.isStopped_of_process`).  So does a run: it consists of calls of which each but the last has failed
and seen the whole delay pass before the signal, and the last decides the outcome
(`Orchestrator.runs_again_after_each_delay`).  The signal may be triggered just as a delay ends; then either may
have come first (`Session.interrupted?_eq_none_iff`), and a call that begins with the signal triggered does nothing
but subscribe (`Consumer.process_of_isStopped`).
-/
namespace AssetGraph

namespace Session

variable {σ : Type} {s : Session σ} {ms t : Nat}

/-- The signal cuts a delay short when it is triggered before the end of it, or comes first at the end. -/
theorem interrupted?_eq_some_iff : s.interrupted? ms = some t ↔
    s.signal.resolves? s.clock ms = some t ∧ (t = s.clock + ms → s.signalFirst t = true) := by
  simp only [interrupted?, Option.filter_eq_some_iff, Bool.or_eq_true, decide_eq_true_eq]
  refine and_congr_right fun hw => ?_
  rcases Nat.lt_or_eq_of_le (Signal.resolves?_eq_some_iff.1 hw).2.1 with hlt | heq
  · exact iff_of_true (.inl hlt) fun heq => absurd heq (Nat.ne_of_lt hlt)
  · simp [heq]

/-- **A delay passes** when the signal is not triggered by the end of it, or just then and not first. -/
theorem interrupted?_eq_none_iff (hms : ms ≠ 0) : s.interrupted? ms = none ↔
    s.signal.isTriggered (s.clock + ms) = false ∨
      (s.signal.isTriggered (s.clock + ms) = true ∧ s.signal.isTriggered (s.clock + ms - 1) = false) ∧
        s.signalFirst (s.clock + ms) = false := by
  cases hw : s.signal.resolves? s.clock ms with
  | none => simp [interrupted?, hw, Signal.resolves?_eq_none_iff.1 hw]
  | some t =>
    obtain ⟨-, hle, htriggered, hsooner⟩ := Signal.resolves?_eq_some_iff.1 hw
    have hend : s.signal.isTriggered (s.clock + ms) = true := Signal.isTriggered_mono htriggered hle
    rcases Nat.lt_or_eq_of_le hle with hlt | rfl
    · have hsome : s.interrupted? ms = some t := interrupted?_eq_some_iff.2 ⟨hw, fun heq => by omega⟩
      have hbefore : s.signal.isTriggered (s.clock + ms - 1) = true :=
        Signal.isTriggered_mono htriggered (by omega)
      simp [hsome, hend, hbefore]
    · have hbefore : s.signal.isTriggered (s.clock + ms - 1) = false := hsooner _ (by omega) (by omega)
      simp [interrupted?, hw, hend, hbefore]

end Session

namespace Consumer

variable {σ : Type} {h : Handler σ} {entity : String} {pollMs : Nat}

theorem subscriptions_commit (entity : String) (m : Message) (s : Session σ) :
    (commit entity m s).2.broker.subscriptions = s.broker.subscriptions := by
  rw [← s.broker.subscriptions_storePosition m.position, commit]
  rcases s.broker.storePosition m.position with ⟨_ | _, b⟩ <;> rfl

theorem subscriptions_deliver (h : Handler σ) (entity : String) (m : Message) (s : Session σ) :
    (deliver h entity m s).2.broker.subscriptions = s.broker.subscriptions := by
  rw [← broker_afterHandling s (h m s.state), deliver]
  cases (h m s.state).result with
  | error e => rfl
  | ok u => exact subscriptions_commit entity m _

/-- A turn does not subscribe. -/
theorem subscriptions_turn (h : Handler σ) (entity : String) (pollMs : Nat) (s : Session σ) :
    (turn h entity pollMs s).2.broker.subscriptions = s.broker.subscriptions := by
  rw [turn]
  split
  · rfl
  · have hpoll := s.broker.subscriptions_poll
    rcases hp : s.broker.poll with ⟨m | _ | reason, b⟩ <;> rw [hp] at hpoll
    · exact (subscriptions_deliver h entity m _).trans hpoll
    · have hidle : ({ s with broker := b }.idle pollMs).broker = b := by
        unfold Session.idle
        split <;> rfl
      exact (congrArg Broker.subscriptions hidle).trans hpoll
    · exact hpoll

theorem subscriptions_turns (h : Handler σ) (entity : String) (pollMs limit : Nat) (s : Session σ) :
    (turns h entity pollMs limit s).2.broker.subscriptions = s.broker.subscriptions := by
  induction limit generalizing s with
  | zero => rfl
  | succ limit ih =>
    have hturn := subscriptions_turn h entity pollMs s
    rw [turns_succ]
    rcases ht : turn h entity pollMs s with ⟨_ | outcome, s'⟩ <;> rw [ht] at hturn
    · exact (ih s').trans hturn
    · exact hturn

/-- **A call subscribes once.** -/
theorem subscriptions_process (h : Handler σ) (entity : String) (pollMs limit : Nat) (s : Session σ) :
    (process h entity pollMs limit s).2.broker.subscriptions = s.broker.subscriptions + 1 :=
  subscriptions_turns h entity pollMs limit (s.subscribe entity)

/-- **A call that begins with the signal triggered** does nothing but subscribe, and does not fail. -/
theorem process_of_isStopped (h : Handler σ) (entity : String) (pollMs limit : Nat) {s : Session σ}
    (hs : s.isStopped = true) :
    (process h entity pollMs limit s).2 = s.subscribe entity ∧
      ∀ e, (process h entity pollMs limit s).1 ≠ some (.error e) := by
  have hturn : turn h entity pollMs (s.subscribe entity) = (some (.ok ()), s.subscribe entity) := if_pos hs
  cases limit with
  | zero => exact ⟨rfl, by rintro e ⟨⟩⟩
  | succ limit =>
    rw [process, turns_succ, hturn]
    exact ⟨rfl, by rintro e ⟨⟩⟩

theorem commit_ne_ok (entity : String) (m : Message) (s : Session σ) :
    (commit entity m s).1 ≠ some (.ok ()) := by
  rw [commit]
  rcases s.broker.storePosition m.position with ⟨_ | _, b⟩ <;> rintro ⟨⟩

theorem deliver_ne_ok (h : Handler σ) (entity : String) (m : Message) (s : Session σ) :
    (deliver h entity m s).1 ≠ some (.ok ()) := by
  rw [deliver]
  cases (h m s.state).result with
  | error e => rintro ⟨⟩
  | ok u => exact commit_ne_ok entity m _

/-- A turn that ends well has found the signal triggered. -/
theorem isStopped_of_turn {s s' : Session σ} (ht : turn h entity pollMs s = (some (.ok ()), s')) :
    s'.isStopped = true := by
  rw [turn] at ht
  split at ht
  · rename_i hs
    cases ht
    exact hs
  · rcases hp : s.broker.poll with ⟨m | _ | reason, b⟩ <;> rw [hp] at ht
    · exact absurd (congrArg Prod.fst ht) (deliver_ne_ok h entity m _)
    · cases ht
    · cases ht

theorem isStopped_of_turns {limit : Nat} {s s' : Session σ}
    (ht : turns h entity pollMs limit s = (some (.ok ()), s')) : s'.isStopped = true := by
  induction limit generalizing s with
  | zero => cases ht
  | succ limit ih =>
    rw [turns_succ] at ht
    rcases hturn : turn h entity pollMs s with ⟨_ | outcome, s₁⟩ <;> rw [hturn] at ht
    · exact ih ht
    · cases ht
      exact isStopped_of_turn hturn

/-- **A call ends well only when its signal is triggered.** -/
theorem isStopped_of_process {limit : Nat} {s s' : Session σ}
    (hp : process h entity pollMs limit s = (some (.ok ()), s')) : s'.isStopped = true :=
  isStopped_of_turns hp

end Consumer

namespace Orchestrator

/-- **One call of a run**: what it began with, what came of it, if it came to an end, and what it left. -/
structure Attempt (τ : Type) where
  before : Session τ
  outcome : Option Outcome
  after : Session τ

namespace Attempt

variable {τ : Type}

def hasFailed (a : Attempt τ) : Bool :=
  match a.outcome with
  | some (.error _) => true
  | _ => false

/-- Whether the signal is triggered just as the delay after the call ends, and no sooner. -/
def isTied (retryMs : Nat) (a : Attempt τ) : Bool :=
  a.after.signal.isTriggered (a.after.clock + retryMs) && !a.after.signal.isTriggered (a.after.clock + retryMs - 1)

/-- **Whether a call has failed and the whole delay passed** before the signal was triggered.  Where both come at
one time, the signal may be second. -/
def isRetried (retryMs : Nat) (a : Attempt τ) : Bool :=
  a.hasFailed && (!a.after.signal.isTriggered (a.after.clock + retryMs) ||
    a.isTied retryMs && !a.after.signalFirst (a.after.clock + retryMs))

/-- What is there when the delay has passed. -/
def waited (retryMs : Nat) (a : Attempt τ) : Session τ := { a.after with clock := a.after.clock + retryMs }

theorem isRetried_eq_hasFailed_and {retryMs : Nat} (hr : retryMs ≠ 0) (a : Attempt τ) :
    a.isRetried retryMs = (a.hasFailed && (a.after.interrupted? retryMs).isNone) := by
  rw [isRetried, isTied]
  congr 1
  rw [Bool.eq_iff_iff, Option.isNone_iff_eq_none, Session.interrupted?_eq_none_iff hr]
  simp only [Bool.or_eq_true, Bool.and_eq_true, Bool.not_eq_true']

end Attempt

variable {τ : Type} {o : Orchestrator} {h : Handler τ} {limit attempts : Nat} {s : Session τ}

/-- **The calls of a run** that begins with a session, the first first.  Each but the last has failed, and the
next begins when the whole delay has passed. -/
structure AreCalls (o : Orchestrator) (h : Handler τ) (limit : Nat) (s : Session τ)
    (calls : List (Attempt τ)) : Prop where
  first : calls.head?.map (·.before) = some s
  made : ∀ a ∈ calls, Consumer.process h o.entity o.pollMs limit a.before = (a.outcome, a.after)
  next : calls.IsChain fun a b => a.isRetried o.retryMs = true ∧ b.before = a.waited o.retryMs

/-- **What the last call leaves the run to.**  If it fails and the signal is triggered during the delay, or just as
the delay ends and first, the run ends at that time, with all else as the call left it. -/
inductive EndsWith (o : Orchestrator) (last : Attempt τ) : Option Outcome × Session τ → Prop
  /-- The call has had too few turns. -/
  | cut (h : last.outcome = none) : EndsWith o last (none, last.after)
  | ended (h : last.outcome = some (.ok ())) : EndsWith o last (some (.ok ()), last.after)
  | stopped {t : Nat} (h : last.hasFailed = true) (from_clock : last.after.clock ≤ t)
      (in_delay : t ≤ last.after.clock + o.retryMs) (triggered : last.after.signal.isTriggered t = true)
      (no_sooner : ∀ u, last.after.clock ≤ u → u < t → last.after.signal.isTriggered u = false)
      (first : t = last.after.clock + o.retryMs → last.after.signalFirst t = true) :
      EndsWith o last (some (.ok ()), { last.after with clock := t })
  /-- There are no attempts left. -/
  | spent (h : last.isRetried o.retryMs = true) : EndsWith o last (none, last.waited o.retryMs)

/-- The call with which a run begins. -/
def firstCall (o : Orchestrator) (h : Handler τ) (limit : Nat) (s : Session τ) : Attempt τ :=
  { before := s
    outcome := (Consumer.process h o.entity o.pollMs limit s).1
    after := (Consumer.process h o.entity o.pollMs limit s).2 }

theorem firstCall_eq {outcome : Option Outcome} {s' : Session τ}
    (hp : Consumer.process h o.entity o.pollMs limit s = (outcome, s')) :
    o.firstCall h limit s = { before := s, outcome, after := s' } := by
  rw [firstCall, hp]

theorem runWith_of_isRetried (hr : o.retryMs ≠ 0)
    (ha : (o.firstCall h limit s).isRetried o.retryMs = true) (n : Nat) :
    o.runWith h limit (n + 1) s = o.runWith h limit n ((o.firstCall h limit s).waited o.retryMs) := by
  rw [runWith]
  rcases hp : Consumer.process h o.entity o.pollMs limit s with ⟨_ | e | ⟨⟩, s₁⟩ <;> rw [firstCall_eq hp] at ha ⊢
  · cases ha
  · rw [Attempt.isRetried_eq_hasFailed_and hr, Bool.and_eq_true, Option.isNone_iff_eq_none] at ha
    have hwait : s₁.interrupted? o.retryMs = none := ha.2
    simp only [if_neg hr, hwait]
    rfl
  · cases ha

theorem endsWith_of_not_isRetried (hr : o.retryMs ≠ 0)
    (ha : (o.firstCall h limit s).isRetried o.retryMs = false) (n : Nat) :
    o.EndsWith (o.firstCall h limit s) (o.runWith h limit (n + 1) s) := by
  rw [runWith]
  rcases hp : Consumer.process h o.entity o.pollMs limit s with ⟨_ | e | ⟨⟩, s₁⟩ <;> rw [firstCall_eq hp] at ha ⊢
  · exact .cut rfl
  · rw [Attempt.isRetried_eq_hasFailed_and hr] at ha
    have hwait : s₁.interrupted? o.retryMs ≠ none := fun hnone => by
      rw [hnone] at ha
      cases ha
    obtain ⟨t, ht⟩ := Option.ne_none_iff_exists'.1 hwait
    obtain ⟨hw, hfirst⟩ := Session.interrupted?_eq_some_iff.1 ht
    obtain ⟨hclock, hle, htriggered, hsooner⟩ := Signal.resolves?_eq_some_iff.1 hw
    simp only [if_neg hr, ht]
    exact .stopped rfl hclock hle htriggered hsooner hfirst
  · exact .ended rfl

namespace EndsWith

variable {last : Attempt τ} {left : Option Outcome × Session τ}

/-- Whatever the last call comes to, the run does not touch the broker any more. -/
theorem broker (he : o.EndsWith last left) : left.2.broker = last.after.broker := by
  cases he <;> rfl

theorem ne_error (he : o.EndsWith last left) (e : IngestError) : left.1 ≠ some (.error e) := by
  cases he <;> rintro ⟨⟩

theorem isStopped (he : o.EndsWith last left)
    (hmade : Consumer.process h o.entity o.pollMs limit last.before = (last.outcome, last.after))
    (hok : left.1 = some (.ok ())) : left.2.isStopped = true := by
  cases he with
  | cut => cases hok
  | ended ho =>
    rw [ho] at hmade
    exact Consumer.isStopped_of_process hmade
  | stopped _ _ _ ht => exact ht
  | spent => cases hok

/-- A call that is not tried again leaves the run without an outcome only if it has none itself. -/
theorem outcome_eq_none (he : o.EndsWith last left) (ha : last.isRetried o.retryMs = false)
    (hnone : left.1 = none) : last.outcome = none := by
  cases he with
  | cut ho => exact ho
  | ended => cases hnone
  | stopped => cases hnone
  | spent hretried =>
    rw [ha] at hretried
    cases hretried

end EndsWith

theorem areCalls_singleton (o : Orchestrator) (h : Handler τ) (limit : Nat) (s : Session τ) :
    o.AreCalls h limit s [o.firstCall h limit s] where
  first := rfl
  made := List.forall_mem_singleton.2 rfl
  next := List.isChain_singleton _

theorem AreCalls.cons {calls : List (Attempt τ)} (ha : (o.firstCall h limit s).isRetried o.retryMs = true)
    (hc : o.AreCalls h limit ((o.firstCall h limit s).waited o.retryMs) calls) :
    o.AreCalls h limit s (o.firstCall h limit s :: calls) where
  first := rfl
  made := List.forall_mem_cons.2 ⟨rfl, hc.made⟩
  next := by
    refine List.isChain_cons.2 ⟨fun b hb => ⟨ha, ?_⟩, hc.next⟩
    have hfirst := hc.first
    rw [hb] at hfirst
    exact Option.some.inj hfirst

/-- A call that begins with the signal triggered does nothing but subscribe. -/
theorem AreCalls.eq_subscribe {calls : List (Attempt τ)} (hc : o.AreCalls h limit s calls) {a : Attempt τ}
    (ha : a ∈ calls) (hs : a.before.isStopped = true) :
    a.hasFailed = false ∧ a.after = a.before.subscribe o.entity := by
  obtain ⟨hafter, hne⟩ := Consumer.process_of_isStopped h o.entity o.pollMs limit hs
  rw [hc.made a ha] at hafter hne
  refine ⟨?_, hafter⟩
  rw [Attempt.hasFailed]
  rcases ho : a.outcome with _ | e | ⟨⟩
  · rfl
  · exact absurd ho (hne e)
  · rfl

theorem subscriptions_firstCall (o : Orchestrator) (h : Handler τ) (limit : Nat) (s : Session τ) :
    (o.firstCall h limit s).after.broker.subscriptions = s.broker.subscriptions + 1 :=
  Consumer.subscriptions_process h o.entity o.pollMs limit s

/-- **A run that may start again is made of calls**, one for each subscription. -/
theorem exists_calls (hr : o.retryMs ≠ 0) (h : Handler τ) (limit attempts : Nat) (s : Session τ) :
    let left := o.runWith h limit (attempts + 1) s
    ∃ calls, o.AreCalls h limit s calls ∧
      left.2.broker.subscriptions = s.broker.subscriptions + calls.length ∧
      (left.1 ≠ none → calls.length = 1 + calls.countP (·.isRetried o.retryMs)) ∧
      (left.1 = none → calls.length = attempts + 1 ∨ ∃ a ∈ calls, a.outcome = none) ∧
      ∃ last ∈ calls.getLast?, o.EndsWith last left := by
  have hsub := subscriptions_firstCall o h limit s
  have hsingle := areCalls_singleton o h limit s
  cases ha : (o.firstCall h limit s).isRetried o.retryMs with
  | false =>
    have he := endsWith_of_not_isRetried hr ha attempts
    refine ⟨_, hsingle, ?_, fun _ => ?_, fun hnone => .inr ?_, _, rfl, he⟩
    · rw [he.broker, hsub]
      rfl
    · rw [List.countP_singleton, ha]
      rfl
    · exact ⟨_, List.mem_singleton_self _, he.outcome_eq_none ha hnone⟩
  | true =>
    rw [runWith_of_isRetried hr ha]
    cases attempts with
    | zero =>
      exact ⟨_, hsingle, hsub, fun hne => absurd rfl hne, fun _ => .inl rfl, _, rfl, .spent ha⟩
    | succ attempts =>
      -- the next call begins with what is there after the delay
      obtain ⟨calls, hcalls, hsubs, hcount, hcut, last, hlast, he⟩ :=
        exists_calls hr h limit attempts ((o.firstCall h limit s).waited o.retryMs)
      refine ⟨_, hcalls.cons ha, ?_, fun hne => ?_, fun hnone => ?_, last, ?_, he⟩
      · rw [hsubs, List.length_cons]
        show (o.firstCall h limit s).after.broker.subscriptions + _ = _
        omega
      · rw [List.length_cons, List.countP_cons_of_pos ha, hcount hne, Nat.add_assoc]
      · rcases hcut hnone with hlen | ⟨a, hmem, hnone⟩
        · exact .inl (congrArg (· + 1) hlen)
        · exact .inr ⟨a, List.mem_cons_of_mem _ hmem, hnone⟩
      · rw [List.getLast?_cons, Option.mem_def.1 hlast]
        rfl

/-- **A run starts again after every failure but one in whose delay it is asked to stop.**  Without a delay it is
one call, and what that comes to.  Otherwise it never ends with an error, it ends well only when the signal is
triggered, and it subscribes once and then again for each call that has failed and seen the whole delay pass before
the signal; a signal that is triggered during the delay ends it, with the broker and the handler's state as the call
left them.  When the signal is triggered just as a delay ends, either may come first: if the delay does, there is one
call more, which does nothing but subscribe.  A run without an outcome has had too few attempts, or a call of it too
few turns. -/
theorem runs_again_after_each_delay (o : Orchestrator) (h : Handler τ) (limit attempts : Nat) (s : Session τ) :
    let left := o.runWith h limit (attempts + 1) s
    (o.retryMs = 0 →
      left = Consumer.process h o.entity o.pollMs limit s ∧
        left.2.broker.subscriptions = s.broker.subscriptions + 1) ∧
    (o.retryMs ≠ 0 →
      (∀ e, left.1 ≠ some (.error e)) ∧ (left.1 = some (.ok ()) → left.2.isStopped = true) ∧
      ∃ calls, o.AreCalls h limit s calls ∧
        left.2.broker.subscriptions = s.broker.subscriptions + calls.length ∧
        (left.1 ≠ none → calls.length = 1 + calls.countP (·.isRetried o.retryMs)) ∧
        (left.1 = none → calls.length = attempts + 1 ∨ ∃ a ∈ calls, a.outcome = none) ∧
        (∀ a ∈ calls, a.before.isStopped = true →
          a.hasFailed = false ∧ a.after = a.before.subscribe o.entity) ∧
        ∃ last ∈ calls.getLast?, o.EndsWith last left) := by
  intro left
  refine ⟨fun hr => ?_, fun hr => ?_⟩
  · have hone : left = Consumer.process h o.entity o.pollMs limit s := by
      show o.runWith h limit (attempts + 1) s = _
      rw [runWith]
      rcases Consumer.process h o.entity o.pollMs limit s with ⟨_ | e | ⟨⟩, s₁⟩
      · rfl
      · exact if_pos hr
      · rfl
    refine ⟨hone, ?_⟩
    rw [hone]
    exact Consumer.subscriptions_process h o.entity o.pollMs limit s
  · obtain ⟨calls, hcalls, hsubs, hcount, hcut, last, hlast, he⟩ := exists_calls hr h limit attempts s
    have hmade := hcalls.made last (List.mem_of_getLast? hlast)
    exact ⟨he.ne_error, he.isStopped hmade, calls, hcalls, hsubs, hcount, hcut,
      fun _ ha hs => hcalls.eq_subscribe ha hs, last, hlast, he⟩

/-- A poll fails and is tried again; then the load of the message fails, and the signal is fired during the delay.
With a deadline that comes just as the first delay ends, there are one or two subscriptions. -/
theorem runs_again_after_each_delay_of_two_failures :
    let o : Orchestrator := { retryMs := 50 }
    let once : Orchestrator := { retryMs := 0 }
    let p : Payload :=
      { id := "h", team := { id := "t", name := "Team" }, assetType := "Hostname", identifier := "h" }
    let b := ({} : Broker).publishAll o.entity [p.entry]
    let scene : Scene :=
      { now := { second := 0 }, faults := [{ method := .createTeam, error := .transport "down" }] }
    let s : Session (Stats × Scene) :=
      { broker := { b with pollFailures := ["gone"] }, signal := { firedAt := some 70 }, state := ({}, scene) }
    let left := o.runWith (o.handler Scene.destination) 3 5 s
    let tied (first : Bool) := o.runWith (o.handler Scene.destination) 3 5
      { s with signal := { deadline := some 50 }, signalFirst := fun _ => first }
    let failed := once.runWith (once.handler Scene.destination) 3 5 s
    left.1 = some (.ok ()) ∧ left.2.isStopped = true ∧ left.2.clock = 70 ∧
      left.2.broker.subscriptions = 2 ∧
      (∃ calls, o.AreCalls (o.handler Scene.destination) 3 s calls ∧ calls.countP (·.isRetried 50) = 1) ∧
      (∀ first, (tied first).1 = some (.ok ()) ∧ (tied first).2.state.1 = {} ∧
        (tied first).2.broker.subscriptions = if first then 1 else 2) ∧
      failed.1 = some (.error (Consumer.readingFailed o.entity "gone")) ∧
      failed.2.broker.subscriptions = 1 := by
  intro o once p b scene s left tied failed
  have hok : left.1 = some (.ok ()) := by decide +kernel
  have htwo : left.2.broker.subscriptions = 2 := by decide +kernel
  obtain ⟨-, hstopped, calls, hcalls, hsubs, hcount, -⟩ :=
    (o.runs_again_after_each_delay (o.handler Scene.destination) 3 4 s).2 (by decide)
  obtain ⟨-, hone⟩ := (once.runs_again_after_each_delay (once.handler Scene.destination) 3 4 s).1 rfl
  have hlength := hcount fun hnone => Option.some_ne_none _ (hok.symm.trans hnone)
  have hsubs : 2 = 0 + calls.length := htwo.symm.trans hsubs
  refine ⟨hok, hstopped hok, by decide +kernel, htwo, ⟨calls, hcalls, ?_⟩, by decide +kernel, by decide +kernel, hone⟩
  show calls.countP (·.isRetried o.retryMs) = 1
  omega

end Orchestrator

end AssetGraph
