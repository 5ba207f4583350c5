import AssetGraph.Proofs.Delivery.Course
/-!
# Drained runs

A run with nothing in its way, whose handler succeeds on every message, ends when the topic is drained:
the handler has had the messages from the committed offset on, once each and in order, and they are
committed (`Orchestrator.runWith_drain`).  Turns enough for the messages and two more are enough.
-/
namespace AssetGraph

namespace Broker

/-- No failure is in the broker's way. -/
structure IsClear (b : Broker) : Prop where
  polls : b.pollFailures = []
  stores : b.storeFailures = []

theorem IsClear.subscribe {b : Broker} (h : b.IsClear) (topic : String) : (b.subscribe topic).IsClear :=
  ⟨h.polls, h.stores⟩

theorem IsClear.rewind {b : Broker} (h : b.IsClear) (topic : String) (n : Int) : (b.rewind topic n).IsClear :=
  ⟨h.polls, h.stores⟩

theorem IsClear.poll_message {b : Broker} (h : b.IsClear) {topic : String} {m : Message}
    (hs : b.subscription = some topic) (hm : b.messageAt? topic b.cursor = some m) :
    b.poll = (.message m, { b with cursor := b.cursor + 1 }) := by
  simp only [poll, h.polls, hs, hm]

theorem IsClear.poll_nothing {b : Broker} (h : b.IsClear) {topic : String}
    (hs : b.subscription = some topic) (hm : b.messageAt? topic b.cursor = none) :
    b.poll = (.nothing, b) := by
  simp only [poll, h.polls, hs, hm]

theorem IsClear.storePosition {b : Broker} (h : b.IsClear) (p : Position) :
    b.storePosition p = (.ok (), { b with committed := b.committed.set p.topic (p.offset + 1) }) := by
  simp only [Broker.storePosition, h.stores]

/-- A call that has begun has nothing to fail at. -/
theorem IsClear.poll_ne_failed {b b' : Broker} (h : b.IsClear) {topic reason : String}
    (hs : b.subscription = some topic) : b.poll ≠ (.failed reason, b') := by
  intro hp
  cases hm : b.messageAt? topic b.cursor with
  | none =>
    rw [h.poll_nothing hs hm] at hp
    cases hp
  | some m =>
    rw [h.poll_message hs hm] at hp
    cases hp

theorem isClear_publishAll {b : Broker} (h : b.IsClear) (topic : String) (es : List Entry) :
    (b.publishAll topic es).IsClear := by
  induction es generalizing b with
  | nil => exact h
  | cons e es ih => exact ih ⟨h.polls, h.stores⟩

/-- The message that an offset begins with, and where it lies. -/
theorem IsPlaced.drop_eq_cons {b : Broker} {topic : String} (h : b.IsPlaced topic) {n : Nat} {m : Message}
    {ms : List Message} (hm : (b.messages topic).drop n = m :: ms) :
    (b.messages topic)[n]? = some m ∧ m.position = { topic, offset := n } ∧
      (b.messages topic).drop (n + 1) = ms := by
  have hget : (b.messages topic)[n]? = some m := by
    have hhead := congrArg List.head? hm
    rwa [List.head?_drop] at hhead
  refine ⟨hget, h n m ?_, ?_⟩
  · rw [messageAt?_natCast]
    exact hget
  · rw [← List.tail_drop, hm, List.tail_cons]

end Broker

namespace Handler

variable {σ : Type}

/-- **The handler succeeds on messages**, one after the other, and does not fire the signal. -/
def Handles (h : Handler σ) : List Message → σ → Prop
  | [], _ => True
  | m :: ms, x => (h m x).result = .ok () ∧ (h m x).fires = false ∧ h.Handles ms (h m x).state

instance decidableHandles (h : Handler σ) : (ms : List Message) → (x : σ) → Decidable (h.Handles ms x)
  | [], _ => isTrue trivial
  | m :: ms, x =>
    have := decidableHandles h ms (h m x).state
    inferInstanceAs (Decidable (_ ∧ _ ∧ _))

def after (h : Handler σ) (ms : List Message) (x : σ) : σ := ms.foldl (fun x m => (h m x).state) x

end Handler

/-- A session at its start, to be stopped when the topic is drained. -/
def Session.fresh {σ : Type} (b : Broker) (x : σ) : Session σ :=
  { broker := b, firesWhenDrained := true, state := x }

namespace Consumer

variable {σ : Type} {h : Handler σ} {entity : String} (pollMs : Nat)

/-- What a call has left when it has read so many messages of its topic. -/
def drainedBroker (b : Broker) (entity : String) : List Message → Nat → Broker
  | [], _ => b
  | _ :: _, offset =>
    { b with cursor := offset, committed := b.committed.set entity offset }

/-- **A message that is handled is one turn.** -/
theorem turn_handled {s : Session σ} {m : Message} (hs : s.broker.subscription = some entity)
    (hb : s.broker.IsClear) (hm : s.broker.messageAt? entity s.broker.cursor = some m)
    (hp : m.position = { topic := entity, offset := s.broker.cursor }) (hsig : s.isStopped = false)
    (hr : (h m s.state).result = .ok ()) :
    turn h entity pollMs s = (none, { s.afterHandling (h m s.state) with
      broker := { s.broker with
        cursor := s.broker.cursor + 1
        committed := s.broker.committed.set entity (s.broker.cursor + 1) } }) := by
  have hpoll := hb.poll_message hs hm
  have hread : Broker.IsClear { s.broker with cursor := s.broker.cursor + 1 } := ⟨hb.polls, hb.stores⟩
  have hstore := hread.storePosition { topic := entity, offset := s.broker.cursor }
  rw [turn, hsig, if_neg Bool.false_ne_true, hpoll]
  simp only [deliver, hr, commit, broker_afterHandling, hp, hstore]
  cases hf : (h m s.state).fires with
  | false => simp only [Session.afterHandling, hf, Bool.false_eq_true, if_false]
  | true => simp only [Session.afterHandling, hf, if_true, Session.fire]

theorem turn_message {s : Session σ} {m : Message} {n : Nat} (hs : s.broker.subscription = some entity)
    (hb : s.broker.IsClear) (hc : s.broker.cursor = n) (hm : (s.broker.messages entity)[n]? = some m)
    (hp : m.position = { topic := entity, offset := n }) (hsig : s.signal = {})
    (hr : (h m s.state).result = .ok ()) (hf : (h m s.state).fires = false) :
    turn h entity pollMs s = (none, { s with
      broker := { s.broker with
        cursor := ((n + 1 : Nat) : Int)
        committed := s.broker.committed.set entity ((n + 1 : Nat) : Int) }
      state := (h m s.state).state }) := by
  rw [← Broker.messageAt?_natCast, ← hc] at hm
  rw [← hc] at hp
  rw [turn_handled pollMs hs hb hm hp (isStopped_of_signal_eq hsig) hr, Session.afterHandling, hf, hc]
  rfl

/-- **A drained topic ends a call in two turns.** -/
theorem turns_nothing (h : Handler σ) (limit : Nat) {s : Session σ} {n : Nat}
    (hs : s.broker.subscription = some entity) (hb : s.broker.IsClear) (hc : s.broker.cursor = n)
    (hm : (s.broker.messages entity)[n]? = none)
    (hsig : s.signal = {}) (hd : s.firesWhenDrained = true) :
    ∃ s', turns h entity pollMs (limit + 2) s = (some (.ok ()), s') ∧ s'.broker = s.broker ∧
      s'.state = s.state := by
  rw [← Broker.messageAt?_natCast, ← hc] at hm
  have hpoll := hb.poll_nothing hs hm
  have hturn : turn h entity pollMs s = (none, s.idle pollMs) := by
    rw [turn, if_neg (by rw [isStopped_of_signal_eq hsig]; exact Bool.false_ne_true), hpoll]
  have hstop : (s.idle pollMs).isStopped = true := by
    rw [Session.idle, if_pos hd]
    exact Signal.isTriggered_mono (Signal.isTriggered_fire s.signal s.clock) (Nat.le_add_right _ _)
  refine ⟨s.idle pollMs, ?_, ?_, ?_⟩
  · rw [turns_succ, hturn]
    simp only [turns_succ, turn, hstop, if_true]
  · rw [Session.idle, if_pos hd]
    rfl
  · rw [Session.idle, if_pos hd]
    rfl

/-- **Turns drain a topic.** -/
theorem turns_drain {s : Session σ} {ms : List Message} {n limit : Nat}
    (hs : s.broker.subscription = some entity) (hb : s.broker.IsClear) (hp : s.broker.IsPlaced entity)
    (hc : s.broker.cursor = n) (hm : (s.broker.messages entity).drop n = ms) (hsig : s.signal = {})
    (hd : s.firesWhenDrained = true) (hall : h.Handles ms s.state) (hl : ms.length + 2 ≤ limit) :
    ∃ s', turns h entity pollMs limit s = (some (.ok ()), s') ∧ s'.state = h.after ms s.state ∧
      s'.broker = drainedBroker s.broker entity ms (s.broker.messages entity).length := by
  induction ms generalizing s n limit with
  | nil =>
    obtain ⟨limit, rfl⟩ := Nat.exists_eq_add_of_le' hl
    have hnone : (s.broker.messages entity)[n]? = none :=
      List.getElem?_eq_none (List.drop_eq_nil_iff.1 hm)
    obtain ⟨s', hrun, hbr, hst⟩ := turns_nothing pollMs h limit hs hb hc hnone hsig hd
    exact ⟨s', hrun, hst, hbr⟩
  | cons m ms ih =>
    obtain ⟨limit, rfl⟩ := Nat.exists_eq_add_of_le' (Nat.le_trans (Nat.le_add_left 1 _) hl)
    obtain ⟨hr, hf, hrest⟩ := hall
    obtain ⟨hget, hpos, htail⟩ := hp.drop_eq_cons hm
    have hturn := turn_message pollMs hs hb hc hget hpos hsig hr hf
    have hl' : ms.length + 2 ≤ limit := by
      rw [List.length_cons] at hl
      omega
    obtain ⟨s', hrun, hst, hbr⟩ := ih (n := n + 1) (s := { s with
      broker := { s.broker with
        cursor := ((n + 1 : Nat) : Int)
        committed := s.broker.committed.set entity ((n + 1 : Nat) : Int) }
      state := (h m s.state).state }) hs ⟨hb.polls, hb.stores⟩ hp rfl htail hsig hd hrest hl'
    refine ⟨s', ?_, hst, hbr.trans ?_⟩
    · rw [turns_succ, hturn]
      exact hrun
    · have hlt := (List.getElem?_eq_some_iff.1 hget).1
      cases ms with
      | nil =>
        have hlen : n + 1 = (s.broker.messages entity).length := by
          have hle := List.drop_eq_nil_iff.1 htail
          omega
        rw [drainedBroker, drainedBroker, ← hlen]
      | cons m' ms =>
        rw [drainedBroker, drainedBroker]
        simp only [Table.set_set]
        rfl

/-- **A call that ends well has been handed nothing that failed.** -/
theorem handles_of_turns {s : Session σ} {ms : List Message} {n limit : Nat}
    (hf : ∀ m x, (h m x).fires = false) (hs : s.broker.subscription = some entity) (hb : s.broker.IsClear)
    (hp : s.broker.IsPlaced entity) (hc : s.broker.cursor = n)
    (hm : (s.broker.messages entity).drop n = ms) (hsig : s.signal = {})
    (hrun : (turns h entity pollMs limit s).1 = some (.ok ())) : h.Handles ms s.state := by
  induction ms generalizing s n limit with
  | nil => trivial
  | cons m ms ih =>
    obtain ⟨hget, hpos, htail⟩ := hp.drop_eq_cons hm
    cases limit with
    | zero => cases hrun
    | succ limit =>
      rw [turns_succ] at hrun
      cases hr : (h m s.state).result with
      | error e =>
        have hat : s.broker.messageAt? entity s.broker.cursor = some m := by
          rw [hc, Broker.messageAt?_natCast, hget]
        have hturn : (turn h entity pollMs s).1 = some (.error (.processing m.position e)) := by
          rw [turn, if_neg (by rw [isStopped_of_signal_eq hsig]; exact Bool.false_ne_true),
            hb.poll_message hs hat]
          simp only [deliver, hr]
        rcases ht : turn h entity pollMs s with ⟨outcome, s'⟩
        rw [ht] at hrun hturn
        obtain rfl : outcome = some (.error (.processing m.position e)) := hturn
        cases hrun
      | ok u =>
        rw [turn_message pollMs hs hb hc hget hpos hsig hr (hf m s.state)] at hrun
        exact ⟨hr, hf m s.state, ih (n := n + 1) (s := { s with
          broker := { s.broker with
            cursor := ((n + 1 : Nat) : Int)
            committed := s.broker.committed.set entity ((n + 1 : Nat) : Int) }
          state := (h m s.state).state }) hs ⟨hb.polls, hb.stores⟩ hp rfl htail hsig hrun⟩

/-- What a call has committed when it has read all there is. -/
theorem startOf_drainedBroker (b : Broker) (entity : String) {ms : List Message} {n : Nat}
    (h : ms = [] → b.startOf entity = n) : (drainedBroker b entity ms n).startOf entity = n := by
  cases ms with
  | nil => exact h rfl
  | cons m ms =>
    rw [drainedBroker, Broker.startOf, Table.get?_set, if_pos rfl]
    rfl

theorem messages_drainedBroker (b : Broker) (entity topic : String) (ms : List Message) (n : Nat) :
    (drainedBroker b entity ms n).messages topic = b.messages topic := by
  cases ms <;> rfl

theorem isClear_drainedBroker {b : Broker} (h : b.IsClear) (entity : String) (ms : List Message) (n : Nat) :
    (drainedBroker b entity ms n).IsClear := by
  cases ms with
  | nil => exact h
  | cons m ms => exact ⟨h.polls, h.stores⟩

end Consumer

/-- **A run with nothing in its way drains its topic**: the handler has had the messages from the
committed offset on, and they are committed. -/
theorem Orchestrator.runWith_drain {σ : Type} (o : Orchestrator) {h : Handler σ} {b : Broker} {x : σ}
    {n limit : Nat} (attempts : Nat) (hb : b.IsClear) (hp : b.IsPlaced o.entity) (hn : b.startOf o.entity = n)
    (hall : h.Handles ((b.messages o.entity).drop n) x)
    (hl : ((b.messages o.entity).drop n).length + 2 ≤ limit) :
    ∃ s, o.runWith h limit (attempts + 1) (.fresh b x) = (some (.ok ()), s) ∧
      s.state = h.after ((b.messages o.entity).drop n) x ∧
      s.broker = Consumer.drainedBroker (b.subscribe o.entity) o.entity ((b.messages o.entity).drop n)
        (b.messages o.entity).length := by
  obtain ⟨s, hrun, hst, hbr⟩ := Consumer.turns_drain o.pollMs
    (s := (Session.fresh b x).subscribe o.entity) rfl (hb.subscribe o.entity) hp hn rfl rfl rfl hall hl
  refine ⟨s, ?_, hst, hbr⟩
  rw [runWith, Consumer.process, hrun]

/-- **A run needs no second attempt** exactly if its handler succeeds on every message. -/
theorem Orchestrator.runWith_once_iff {σ : Type} (o : Orchestrator) {h : Handler σ} {b : Broker} {x : σ}
    {n limit : Nat} (hf : ∀ m x, (h m x).fires = false) (hb : b.IsClear) (hp : b.IsPlaced o.entity)
    (hn : b.startOf o.entity = n) (hl : ((b.messages o.entity).drop n).length + 2 ≤ limit) :
    (o.runWith h limit 1 (.fresh b x)).1 = some (.ok ()) ↔ h.Handles ((b.messages o.entity).drop n) x := by
  constructor
  · intro hrun
    obtain ⟨c', d, -, -, -, -, hq⟩ := Consumer.owned_process h o.entity o.pollMs limit
      (s := .fresh b x) (c := Course.start b x) ⟨rfl, rfl⟩
    rw [runWith] at hrun
    rcases hprocess : Consumer.process h o.entity o.pollMs limit (.fresh b x) with ⟨_ | e | ⟨⟩, s'⟩
    · rw [hprocess] at hrun
      cases hrun
    · rw [hprocess] at hrun hq
      by_cases hd : o.retryMs = 0
      · simp only [if_pos hd] at hrun
        cases hrun
      · simp only [if_neg hd, Session.interrupted?_of_signal_eq (hq hf)] at hrun
        cases hrun
    · have hturns : (Consumer.turns h o.entity o.pollMs limit
          ((Session.fresh b x).subscribe o.entity)).1 = some (.ok ()) := congrArg Prod.fst hprocess
      exact Consumer.handles_of_turns o.pollMs hf (s := (Session.fresh b x).subscribe o.entity) rfl
        (hb.subscribe o.entity) hp hn rfl rfl hturns
  · intro hall
    obtain ⟨s, hrun, -⟩ := o.runWith_drain 0 hb hp hn hall hl
    rw [hrun]

end AssetGraph
