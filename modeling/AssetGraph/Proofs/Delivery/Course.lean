import AssetGraph.Delivery.Orchestrator
import AssetGraph.Proofs.Delivery.Log
import Mathlib.Logic.Relation
/-!
# Courses

A topic is read by calls that follow one another, and between any two moments of that messages may
come in and failures may be put in the way.  A `Course` is where such a reading stands, with what every
call has delivered; `Course.Step` is one moment: something from outside, or the next thing that the
call under way does.  A call may stop whenever it asks its signal, and a new one may begin at any
moment, as after a crash.  What the handler does is a relation, so nothing is assumed about it.

The steps of a call itself are `Course.Own`: nothing comes from outside, and no call is broken off
between handling a message and committing it.  `owned_process` and `owned_runWith` say that the consumer
and the orchestrator take only such steps.
-/
namespace AssetGraph

instance : DecidableEq Outcome
  | .ok (), .ok () => isTrue rfl
  | .ok (), .error _ => isFalse nofun
  | .error _, .ok () => isFalse nofun
  | .error e, .error e' => decidable_of_iff (e = e') ⟨congrArg _, Except.error.inj⟩

/-- **What a handler may do** with a message: the result, and the state that it leaves. -/
abbrev Conduct (σ : Type) : Type := Message → σ → Outcome → σ → Prop

def Handler.conduct {σ : Type} (h : Handler σ) : Conduct σ := fun m s r s' =>
  (h m s).result = r ∧ (h m s).state = s'

/-- **A message that a handler was given**, and what came of it. -/
structure Delivery where
  message : Message
  result : Outcome

def Delivery.offset (d : Delivery) : Int := d.message.position.offset

/-- **One call's reading** of a topic. -/
structure Reading where
  /-- The offset that was committed when the call subscribed. -/
  start : Int
  /-- What the handler was given, the first first. -/
  deliveries : List Delivery := []

/-- **Where a call stands.** -/
inductive Stage where
  | idle
  /-- Before it asks its signal; `isDrained` if the last poll found nothing. -/
  | reading (isDrained : Bool)
  | holding (m : Message)
  | storing (m : Message)
  | ended (outcome : Outcome) (isDrained : Bool)

/-- **No message waits to be committed**: what was handled is committed, or that has failed. -/
def Stage.IsSettled (stage : Stage) : Prop := ∀ m, stage ≠ .storing m

theorem Stage.isSettled_idle : Stage.idle.IsSettled := fun _ => Stage.noConfusion

theorem Stage.isSettled_reading (isDrained : Bool) : (Stage.reading isDrained).IsSettled :=
  fun _ => Stage.noConfusion

theorem Stage.isSettled_holding (m : Message) : (Stage.holding m).IsSettled :=
  fun _ => Stage.noConfusion

theorem Stage.isSettled_ended (outcome : Outcome) (isDrained : Bool) :
    (Stage.ended outcome isDrained).IsSettled :=
  fun _ => Stage.noConfusion

/-- **Where the reading of a topic stands.** -/
structure Course (σ : Type) where
  broker : Broker
  stage : Stage := .idle
  /-- The calls so far, the last first. -/
  readings : List Reading := []
  state : σ

namespace Course

variable {σ : Type}

/-- The offset from which a new call would read. -/
def committed (c : Course σ) (entity : String) : Int := c.broker.startOf entity

def note (d : Delivery) : List Reading → List Reading
  | [] => []
  | r :: rs => { r with deliveries := r.deliveries ++ [d] } :: rs

/-- What the handler was given in all calls, the first first. -/
def deliveries (c : Course σ) : List Delivery := c.readings.reverse.flatMap (·.deliveries)

/-- Where a result of the handler leaves the call. -/
def stageAfter (m : Message) : Outcome → Stage
  | .ok () => .storing m
  | .error e => .ended (.error (.processing m.position e)) false

/-- **One moment to the next.** -/
inductive Step (conduct : Conduct σ) (entity : String) : Course σ → Course σ → Prop
  | publish (c : Course σ) (topic : String) (key : Bytes) (value : Option Bytes)
      (metadata : List (String × Bytes)) :
      Step conduct entity c { c with broker := (c.broker.publish topic key value metadata).2 }
  | failNextPoll (c : Course σ) (reason : String) :
      Step conduct entity c { c with broker := c.broker.failNextPoll reason }
  | failNextStore (c : Course σ) (reason : String) :
      Step conduct entity c { c with broker := c.broker.failNextStore reason }
  | subscribe (c : Course σ) :
      Step conduct entity c { c with
        broker := c.broker.subscribe entity
        stage := .reading false
        readings := { start := c.committed entity } :: c.readings }
  | stop (c : Course σ) {d : Bool} (h : c.stage = .reading d) :
      Step conduct entity c { c with stage := .ended (.ok ()) d }
  | pollFailed (c : Course σ) {d : Bool} {reason : String} {b : Broker}
      (h : c.stage = .reading d) (hp : c.broker.poll = (.failed reason, b)) :
      Step conduct entity c { c with
        broker := b
        stage := .ended (.error (Consumer.readingFailed entity reason)) false }
  | pollNothing (c : Course σ) {d : Bool} {b : Broker} (h : c.stage = .reading d)
      (hp : c.broker.poll = (.nothing, b)) :
      Step conduct entity c { c with broker := b, stage := .reading true }
  | pollMessage (c : Course σ) {d : Bool} {m : Message} {b : Broker} (h : c.stage = .reading d)
      (hp : c.broker.poll = (.message m, b)) :
      Step conduct entity c { c with broker := b, stage := .holding m }
  | handle (c : Course σ) {m : Message} {r : Outcome} {x : σ} (h : c.stage = .holding m)
      (hr : conduct m c.state r x) :
      Step conduct entity c { c with
        stage := stageAfter m r
        readings := note { message := m, result := r } c.readings
        state := x }
  | store (c : Course σ) {m : Message} {b : Broker} (h : c.stage = .storing m)
      (hs : c.broker.storePosition m.position = (.ok (), b)) :
      Step conduct entity c { c with broker := b, stage := .reading false }
  | storeFailed (c : Course σ) {m : Message} {reason : String} {b : Broker}
      (h : c.stage = .storing m) (hs : c.broker.storePosition m.position = (.error reason, b)) :
      Step conduct entity c { c with
        broker := b
        stage := .ended (.error (Consumer.storingFailed entity reason)) false }

abbrev Steps (conduct : Conduct σ) (entity : String) : Course σ → Course σ → Prop :=
  Relation.ReflTransGen (Step conduct entity)

def start (b : Broker) (x : σ) : Course σ := { broker := b, state := x }

/-- Steps of a handler that does less, in states of a kind that it keeps to, are steps of one that does
more. -/
theorem Step.mono {conduct conduct' : Conduct σ} {entity : String} {c c' : Course σ} {P : σ → Prop}
    (hm : ∀ m x r x', P x → conduct m x r x' → conduct' m x r x' ∧ P x')
    (h : Step conduct entity c c') (hc : P c.state) : Step conduct' entity c c' ∧ P c'.state := by
  cases h with
  | publish topic key value metadata => exact ⟨.publish c topic key value metadata, hc⟩
  | failNextPoll reason => exact ⟨.failNextPoll c reason, hc⟩
  | failNextStore reason => exact ⟨.failNextStore c reason, hc⟩
  | subscribe => exact ⟨.subscribe c, hc⟩
  | stop h => exact ⟨.stop c h, hc⟩
  | pollFailed h hp => exact ⟨.pollFailed c h hp, hc⟩
  | pollNothing h hp => exact ⟨.pollNothing c h hp, hc⟩
  | pollMessage h hp => exact ⟨.pollMessage c h hp, hc⟩
  | handle h hr => exact ⟨.handle c h (hm _ _ _ _ hc hr).1, (hm _ _ _ _ hc hr).2⟩
  | store h hs => exact ⟨.store c h hs, hc⟩
  | storeFailed h hs => exact ⟨.storeFailed c h hs, hc⟩

theorem Steps.mono {conduct conduct' : Conduct σ} {entity : String} {c c' : Course σ} {P : σ → Prop}
    (hm : ∀ m x r x', P x → conduct m x r x' → conduct' m x r x' ∧ P x')
    (h : Steps conduct entity c c') (hc : P c.state) : Steps conduct' entity c c' ∧ P c'.state := by
  induction h with
  | refl => exact ⟨.refl, hc⟩
  | tail _ hs ih =>
    obtain ⟨hs', hc'⟩ := hs.mono hm ih.2
    exact ⟨ih.1.tail hs', hc'⟩

/-! ## Steps of the reader's own -/

/-- **One moment to the next, where no call is broken off** between handling a message and committing
it. -/
structure Unbroken (conduct : Conduct σ) (entity : String) (c c' : Course σ) : Prop where
  step : Step conduct entity c c'
  settled : c'.readings.length = c.readings.length ∨ c.stage.IsSettled

/-- **A moment of the reader's own**: nothing is published, and no failure is put in the way. -/
structure Own (conduct : Conduct σ) (entity : String) (c c' : Course σ) : Prop
    extends Unbroken conduct entity c c' where
  messages : ∀ topic, c'.broker.messages topic = c.broker.messages topic
  polls : c'.broker.pollFailures <:+ c.broker.pollFailures
  stores : c'.broker.storeFailures <:+ c.broker.storeFailures

abbrev Owned (conduct : Conduct σ) (entity : String) : Course σ → Course σ → Prop :=
  Relation.ReflTransGen (Own conduct entity)

/-- The same course, where a call has just begun. -/
def subscribed (c : Course σ) (entity : String) : Course σ :=
  { c with
    broker := c.broker.subscribe entity
    stage := .reading false
    readings := { start := c.committed entity } :: c.readings }

variable {conduct : Conduct σ} {entity : String} {c c' c'' : Course σ}

theorem note_length (d : Delivery) (rs : List Reading) : (note d rs).length = rs.length := by
  cases rs <;> rfl

theorem own_subscribed (conduct : Conduct σ) (entity : String) (h : c.stage.IsSettled) :
    Own conduct entity c (c.subscribed entity) where
  step := .subscribe c
  settled := .inr h
  messages := fun _ => rfl
  polls := List.suffix_rfl
  stores := List.suffix_rfl

theorem own_of_broker_eq (step : Step conduct entity c c')
    (hr : c'.readings.length = c.readings.length) (hb : c'.broker = c.broker) :
    Own conduct entity c c' := by
  refine ⟨⟨step, .inl hr⟩, fun _ => ?_, ?_, ?_⟩
  · rw [hb]
  · rw [hb]
  · rw [hb]

theorem own_of_poll {polled : Polled} {b : Broker} (hp : c.broker.poll = (polled, b))
    (step : Step conduct entity c c') (hr : c'.readings = c.readings) (hb : c'.broker = b) :
    Own conduct entity c c' := by
  obtain rfl : c.broker.poll.2 = b := by rw [hp]
  refine ⟨⟨step, .inl (congrArg List.length hr)⟩, fun topic => ?_, ?_, ?_⟩
  · rw [hb]
    exact c.broker.messages_poll topic
  · rw [hb]
    exact c.broker.pollFailures_poll_suffix
  · rw [hb, c.broker.storeFailures_poll]

theorem own_of_store {p : Position} {stored : Except String Unit} {b : Broker}
    (hs : c.broker.storePosition p = (stored, b)) (step : Step conduct entity c c')
    (hr : c'.readings = c.readings) (hb : c'.broker = b) : Own conduct entity c c' := by
  obtain rfl : (c.broker.storePosition p).2 = b := by rw [hs]
  refine ⟨⟨step, .inl (congrArg List.length hr)⟩, fun topic => ?_, ?_, ?_⟩
  · rw [hb]
    exact c.broker.messages_storePosition p topic
  · rw [hb, c.broker.pollFailures_storePosition]
  · rw [hb]
    exact c.broker.storeFailures_storePosition_suffix p

theorem Owned.steps (h : Owned conduct entity c c') : Steps conduct entity c c' := by
  induction h with
  | refl => exact .refl
  | tail _ hs ih => exact ih.tail hs.step

theorem Owned.messages (h : Owned conduct entity c c') (topic : String) :
    c'.broker.messages topic = c.broker.messages topic := by
  induction h with
  | refl => rfl
  | tail _ hs ih => exact (hs.messages topic).trans ih

/-- The course goes on within its last call. -/
def SameCall (c c' : Course σ) : Prop :=
  ∀ r rs, c.readings = r :: rs → ∃ r', c'.readings = r' :: rs ∧ r'.start = r.start

theorem sameCall_of_eq (h : c'.readings = c.readings) : SameCall c c' :=
  fun r _ hr => ⟨r, h.trans hr, rfl⟩

theorem sameCall_of_note {d : Delivery} (h : c'.readings = note d c.readings) : SameCall c c' := by
  intro r rs hr
  refine ⟨{ r with deliveries := r.deliveries ++ [d] }, ?_, rfl⟩
  rw [h, hr]
  rfl

theorem SameCall.trans (h : SameCall c c') (h' : SameCall c' c'') : SameCall c c'' := by
  intro r rs hr
  obtain ⟨r', hr', hs⟩ := h r rs hr
  obtain ⟨r'', hr'', hs'⟩ := h' r' rs hr'
  exact ⟨r'', hr'', hs'.trans hs⟩

end Course

/-! ## The consumer's calls are courses -/

/-- **Nothing but a drained topic stops the session**, or what stops it anyhow: its signal is as it was,
or the last poll found nothing and that fired it. -/
def Session.IsQuiet {σ : Type} (signal : Signal) (s : Session σ) (isDrained : Bool) : Prop :=
  s.signal = signal ∨ (isDrained = true ∧ s.isStopped = true)

namespace Consumer

open Course (Step Steps Owned SameCall)

variable {σ : Type}

theorem isStopped_of_signal_eq {s : Session σ} (h : s.signal = {}) : s.isStopped = false := by
  rw [Session.isStopped, h]
  rfl

theorem isQuiet_idle {signal : Signal} {s : Session σ} (h : s.signal = signal) (pollMs : Nat) :
    (s.idle pollMs).IsQuiet signal true := by
  unfold Session.idle
  by_cases hf : s.firesWhenDrained = true
  · rw [if_pos hf]
    refine .inr ⟨rfl, ?_⟩
    exact Signal.isTriggered_mono (Signal.isTriggered_fire s.signal s.clock) (Nat.le_add_right _ _)
  · rw [if_neg hf]
    exact .inl h

/-- What the end of a turn, or that it has none, says of quiet. -/
def QuietAfter (signal : Signal) (s : Session σ) (isDrained : Bool) : Option Outcome → Prop
  | none => s.IsQuiet signal isDrained
  | some (.ok ()) => isDrained = true ∨ signal.isTriggered s.clock = true
  | some (.error _) => s.signal = signal

def stageOf (isDrained : Bool) : Option Outcome → Stage
  | none => .reading isDrained
  | some outcome => .ended outcome isDrained

theorem isSettled_stageOf (isDrained : Bool) (outcome : Option Outcome) :
    (stageOf isDrained outcome).IsSettled := by
  cases outcome with
  | none => exact Stage.isSettled_reading isDrained
  | some outcome => exact Stage.isSettled_ended outcome isDrained

/-- The course has the broker and the handler's state of the session. -/
structure Tracks (c : Course σ) (s : Session σ) : Prop where
  broker : c.broker = s.broker
  state : c.state = s.state

theorem Tracks.subscribe {c : Course σ} {s : Session σ} (h : Tracks c s) (entity : String) :
    Tracks (c.subscribed entity) (s.subscribe entity) :=
  ⟨by rw [Course.subscribed, Session.subscribe, h.broker], h.state⟩

/-- **The call's part of a course**, from a session to what it leaves. -/
def Proceeds (h : Handler σ) (entity : String) (signal : Signal) (s : Session σ) (d : Bool)
    (c : Course σ) (left : Option Outcome × Session σ) : Prop :=
  ∃ c' d', Owned (Handler.conduct h) entity c c' ∧ Tracks c' left.2 ∧ c'.stage = stageOf d' left.1 ∧
    SameCall c c' ∧
    ((∀ m x, (h m x).fires = false) → s.IsQuiet signal d → QuietAfter signal left.2 d' left.1)

theorem broker_afterHandling (s : Session σ) (a : Handled σ) :
    (s.afterHandling a).broker = s.broker := by
  unfold Session.afterHandling
  split <;> rfl

theorem state_afterHandling (s : Session σ) (a : Handled σ) :
    (s.afterHandling a).state = a.state := by
  unfold Session.afterHandling
  split <;> rfl

theorem signal_afterHandling (s : Session σ) {a : Handled σ} (h : a.fires = false) :
    (s.afterHandling a).signal = s.signal := by
  unfold Session.afterHandling
  rw [h]
  rfl

/-- A message that has been read is handled and committed. -/
theorem proceeds_deliver (h : Handler σ) (entity : String) {m : Message} {s : Session σ} {c : Course σ}
    (hc : Tracks c s) (hm : c.stage = .holding m) :
    ∃ c', Owned (Handler.conduct h) entity c c' ∧ Tracks c' (deliver h entity m s).2 ∧
      c'.stage = stageOf false (deliver h entity m s).1 ∧ SameCall c c' ∧
      ((∀ m x, (h m x).fires = false) →
        (deliver h entity m s).2.signal = s.signal ∧ (deliver h entity m s).1 ≠ some (.ok ())) := by
  have handled : ∀ r, (h m s.state).result = r →
      Course.Own (Handler.conduct h) entity c { c with
        stage := Course.stageAfter m r
        readings := Course.note { message := m, result := r } c.readings
        state := (h m s.state).state } := by
    intro r hr
    exact Course.own_of_broker_eq (.handle c hm ⟨by rw [hc.state]; exact hr, by rw [hc.state]⟩)
      (Course.note_length _ _) rfl
  have hsig : (∀ m x, (h m x).fires = false) →
      (s.afterHandling (h m s.state)).signal = s.signal :=
    fun hf => signal_afterHandling s (hf m s.state)
  unfold deliver
  cases hr : (h m s.state).result with
  | error e =>
    simp only [hr]
    refine ⟨_, .single (handled _ hr), ⟨?_, (state_afterHandling _ _).symm⟩, rfl,
      Course.sameCall_of_note rfl, fun hf => ⟨hsig hf, by simp⟩⟩
    rw [broker_afterHandling]
    exact hc.broker
  | ok u =>
    simp only [hr, commit, broker_afterHandling]
    rcases hs : s.broker.storePosition m.position with ⟨reason | _, b⟩
    · rw [← hc.broker] at hs
      exact ⟨_, .tail (.single (handled _ hr)) (Course.own_of_store hs (.storeFailed _ rfl hs) rfl rfl),
        ⟨rfl, (state_afterHandling _ _).symm⟩, rfl, Course.sameCall_of_note rfl,
        fun hf => ⟨hsig hf, by simp⟩⟩
    · rw [← hc.broker] at hs
      exact ⟨_, .tail (.single (handled _ hr)) (Course.own_of_store hs (.store _ rfl hs) rfl rfl),
        ⟨rfl, (state_afterHandling _ _).symm⟩, rfl, Course.sameCall_of_note rfl,
        fun hf => ⟨hsig hf, by simp⟩⟩

/-- **A turn is a few moments of a course.** -/
theorem proceeds_turn (h : Handler σ) (entity : String) (pollMs : Nat) (signal : Signal)
    {s : Session σ} {c : Course σ} {d : Bool} (hc : Tracks c s) (hd : c.stage = .reading d) :
    Proceeds h entity signal s d c (turn h entity pollMs s) := by
  unfold turn
  by_cases hs : s.isStopped = true
  · rw [if_pos hs]
    refine ⟨_, d, .single (Course.own_of_broker_eq (.stop c hd) rfl rfl), ⟨hc.broker, hc.state⟩, rfl,
      Course.sameCall_of_eq rfl, fun _ hq => ?_⟩
    rcases hq with hq | hq
    · exact .inr (hq ▸ hs)
    · exact .inl hq.1
  rw [if_neg hs]
  have hsig : s.IsQuiet signal d → s.signal = signal := fun hq => hq.resolve_right fun h => hs h.2
  rcases hp : s.broker.poll with ⟨m | _ | reason, b⟩
  · simp only
    rw [← hc.broker] at hp
    obtain ⟨c', howned, htr, hst, hsame, hq⟩ :=
      proceeds_deliver h entity (m := m) (s := { s with broker := b })
        (c := { c with broker := b, stage := .holding m }) ⟨rfl, hc.state⟩ rfl
    refine ⟨c', false, .head (Course.own_of_poll hp (.pollMessage c hd hp) rfl rfl) howned, htr, hst,
      (Course.sameCall_of_eq rfl).trans hsame, fun hf hqs => ?_⟩
    obtain ⟨hleft, hne⟩ := hq hf
    have hleft := hleft.trans (hsig hqs)
    cases ho : (deliver h entity m { s with broker := b }).1 with
    | none => exact .inl hleft
    | some outcome =>
      rcases outcome with e | ⟨⟩
      · exact hleft
      · exact absurd ho hne
  · simp only
    rw [← hc.broker] at hp
    refine ⟨_, true, .single (Course.own_of_poll hp (.pollNothing c hd hp) rfl rfl), ⟨?_, ?_⟩, rfl,
      Course.sameCall_of_eq rfl, fun _ hqs => isQuiet_idle (s := { s with broker := b }) (hsig hqs) pollMs⟩
    · unfold Session.idle
      split <;> rfl
    · rw [show c.state = s.state from hc.state]
      unfold Session.idle
      split <;> rfl
  · simp only
    rw [← hc.broker] at hp
    exact ⟨_, false, .single (Course.own_of_poll hp (.pollFailed c hd hp) rfl rfl), ⟨rfl, hc.state⟩, rfl,
      Course.sameCall_of_eq rfl, fun _ hqs => hsig hqs⟩

/-- **So are the turns of a call.** -/
theorem proceeds_turns (h : Handler σ) (entity : String) (pollMs limit : Nat) (signal : Signal)
    {s : Session σ} {c : Course σ} {d : Bool} (hc : Tracks c s) (hd : c.stage = .reading d) :
    Proceeds h entity signal s d c (turns h entity pollMs limit s) := by
  induction limit generalizing s c d with
  | zero => exact ⟨c, d, .refl, hc, hd, Course.sameCall_of_eq rfl, fun _ hq => hq⟩
  | succ limit ih =>
    obtain ⟨c₁, d₁, howned, htr, hst, hsame, hq⟩ := proceeds_turn h entity pollMs signal hc hd
    rw [turns_succ]
    rcases ht : turn h entity pollMs s with ⟨_ | outcome, s₁⟩
    · rw [ht] at htr hst hq
      obtain ⟨c₂, d₂, howned', htr', hst', hsame', hq'⟩ := ih htr hst
      exact ⟨c₂, d₂, howned.trans howned', htr', hst', hsame.trans hsame',
        fun hf hqs => hq' hf (hq hf hqs)⟩
    · rw [ht] at htr hst hq
      exact ⟨c₁, d₁, howned, htr, hst, hsame, hq⟩

/-- **A call of the consumer is a course**, with one reading more. -/
theorem owned_process (h : Handler σ) (entity : String) (pollMs limit : Nat) {s : Session σ}
    {c : Course σ} (hc : Tracks c s) :
    ∃ c' d', Owned (Handler.conduct h) entity (c.subscribed entity) c' ∧
      Tracks c' (process h entity pollMs limit s).2 ∧
      c'.stage = stageOf d' (process h entity pollMs limit s).1 ∧
      (∃ r, c'.readings = r :: c.readings ∧ r.start = c.committed entity) ∧
      ((∀ m x, (h m x).fires = false) → QuietAfter s.signal (process h entity pollMs limit s).2 d'
        (process h entity pollMs limit s).1) := by
  obtain ⟨c', d', howned, htr, hst, hsame, hq⟩ :=
    proceeds_turns h entity pollMs limit s.signal (hc.subscribe entity) (d := false) rfl
  exact ⟨c', d', howned, htr, hst, hsame _ _ rfl, fun hf => hq hf (.inl rfl)⟩

/-- Whatever the course was at, a call may be its next steps. -/
theorem steps_process (h : Handler σ) (entity : String) (pollMs limit : Nat) {s : Session σ}
    {c : Course σ} (hc : Tracks c s) :
    ∃ c' d', Steps (Handler.conduct h) entity c c' ∧ Tracks c' (process h entity pollMs limit s).2 ∧
      c'.stage = stageOf d' (process h entity pollMs limit s).1 ∧
      (∃ r, c'.readings = r :: c.readings ∧ r.start = c.committed entity) ∧
      (∀ topic, c'.broker.messages topic = c.broker.messages topic) ∧
      ((∀ m x, (h m x).fires = false) → QuietAfter s.signal (process h entity pollMs limit s).2 d'
        (process h entity pollMs limit s).1) := by
  obtain ⟨c', d', howned, htr, hst, hr, hq⟩ := owned_process h entity pollMs limit hc
  exact ⟨c', d', .head (.subscribe c) howned.steps, htr, hst, hr, howned.messages, hq⟩

end Consumer

/-- **A run of the orchestrator is a course**: its calls follow one another. -/
theorem Orchestrator.owned_runWith {σ : Type} (o : Orchestrator) (h : Handler σ) (limit attempts : Nat)
    {s : Session σ} {c : Course σ} (hc : Consumer.Tracks c s) :
    ∃ c', (c' = c ∨ Course.Owned (Handler.conduct h) o.entity (c.subscribed o.entity) c' ∧
        c'.stage.IsSettled) ∧
      Consumer.Tracks c' (o.runWith h limit attempts s).2 ∧
      ((∀ m x, (h m x).fires = false) → s.signal = {} →
        (o.runWith h limit attempts s).1 = some (.ok ()) → c'.stage = .ended (.ok ()) true) := by
  induction attempts generalizing s c with
  | zero => exact ⟨c, .inl rfl, hc, fun _ _ ho => by cases ho⟩
  | succ attempts ih =>
    obtain ⟨c₁, d, howned, htr, hst, -, hq⟩ := Consumer.owned_process h o.entity o.pollMs limit hc
    have hsettled : c₁.stage.IsSettled := by
      rw [hst]
      exact Consumer.isSettled_stageOf d _
    have once : c₁ = c ∨ Course.Owned (Handler.conduct h) o.entity (c.subscribed o.entity) c₁ ∧
        c₁.stage.IsSettled := .inr ⟨howned, hsettled⟩
    rw [runWith]
    rcases hp : Consumer.process h o.entity o.pollMs limit s with ⟨_ | e | ⟨⟩, s₁⟩
    · rw [hp] at htr
      exact ⟨c₁, once, htr, fun _ _ ho => by cases ho⟩
    · rw [hp] at htr hq
      by_cases hd : o.retryMs = 0
      · simp only [if_pos hd]
        exact ⟨c₁, once, htr, fun _ _ ho => by cases ho⟩
      · simp only [if_neg hd]
        rcases hw : s₁.interrupted? o.retryMs with _ | t
        · obtain ⟨c₂, hagain, htr', hq'⟩ :=
            ih (s := { s₁ with clock := s₁.clock + o.retryMs }) (c := c₁) ⟨htr.broker, htr.state⟩
          refine ⟨c₂, ?_, htr', fun hf hs => hq' hf ((hq hf).trans hs)⟩
          rcases hagain with rfl | ⟨howned', hsettled'⟩
          · exact once
          · exact .inr ⟨(howned.tail (Course.own_subscribed _ _ hsettled)).trans howned', hsettled'⟩
        · refine ⟨c₁, once, ⟨htr.broker, htr.state⟩, fun hf hs _ => ?_⟩
          rw [Session.interrupted?_of_signal_eq ((hq hf).trans hs)] at hw
          cases hw
    · rw [hp] at htr hst hq
      refine ⟨c₁, once, htr, fun hf hs _ => ?_⟩
      have hdrained : d = true := (hq hf).resolve_right (by rw [hs]; exact Bool.false_ne_true)
      rw [hst, hdrained]
      rfl

/-- Whatever the course was at, a run may be its next steps. -/
theorem Orchestrator.steps_runWith {σ : Type} (o : Orchestrator) (h : Handler σ) (limit attempts : Nat)
    {s : Session σ} {c : Course σ} (hc : Consumer.Tracks c s) :
    ∃ c', Course.Steps (Handler.conduct h) o.entity c c' ∧
      Consumer.Tracks c' (o.runWith h limit attempts s).2 ∧
      (∀ topic, c'.broker.messages topic = c.broker.messages topic) ∧
      ((∀ m x, (h m x).fires = false) → s.signal = {} →
        (o.runWith h limit attempts s).1 = some (.ok ()) → c'.stage = .ended (.ok ()) true) := by
  obtain ⟨c', rfl | ⟨howned, -⟩, htr, hq⟩ := o.owned_runWith h limit attempts hc
  · exact ⟨c', .refl, htr, fun _ => rfl, hq⟩
  · exact ⟨c', .head (.subscribe c) howned.steps, htr, howned.messages, hq⟩

end AssetGraph
