import AssetGraph.Delivery.Broker
import Mathlib.Data.List.Forall2
import Mathlib.Data.List.Infix
/-!
# What a broker holds

The messages of a topic only ever grow at the end, and each says where it lies (`Made.isPlaced`).
What a poll finds and what a commit leaves are read off their answers (`poll_message`,
`storePosition_ok` and their siblings).
-/
namespace AssetGraph

/-- **What is published**, before it lies anywhere. -/
structure Entry where
  key : Bytes
  value : Option Bytes
  metadata : List (String × Bytes)

/-- The message that an entry becomes. -/
def Entry.placed (e : Entry) (p : Position) : Message :=
  { key := e.key, value := e.value, metadata := e.metadata, position := p }

/-- The messages are the entries, one after the other, wherever they lie. -/
abbrev Entry.Become (es : List Entry) (ms : List Message) : Prop :=
  List.Forall₂ (fun e m => ∃ p, m = Entry.placed e p) es ms

theorem Table.set_set {α : Type} (t : Table α) (name : String) (a b : α) :
    Table.set name b (Table.set name a t) = Table.set name b t := by
  induction t with
  | nil => simp only [Table.set, beq_self_eq_true, if_true]
  | cons e t ih =>
    obtain ⟨k, x⟩ := e
    by_cases hk : (k == name) = true
    · simp only [Table.set, hk, if_true, beq_self_eq_true]
    · simp only [Table.set, if_neg hk, ih]

namespace Broker

/-- **Brokers as they come about**: from the empty one, by the operations of a broker. -/
inductive Made : Broker → Prop
  | empty : Made {}
  | publish {b : Broker} (h : Made b) (topic : String) (key : Bytes) (value : Option Bytes)
      (metadata : List (String × Bytes)) : Made (b.publish topic key value metadata).2
  | subscribe {b : Broker} (h : Made b) (topic : String) : Made (b.subscribe topic)
  | poll {b : Broker} (h : Made b) : Made b.poll.2
  | storePosition {b : Broker} (h : Made b) (p : Position) : Made (b.storePosition p).2
  | rewind {b : Broker} (h : Made b) (topic : String) (offset : Int) : Made (b.rewind topic offset)
  | failNextPoll {b : Broker} (h : Made b) (reason : String) : Made (b.failNextPoll reason)
  | failNextStore {b : Broker} (h : Made b) (reason : String) : Made (b.failNextStore reason)

/-- Publishes entries to a topic, the first first. -/
def publishAll (b : Broker) (topic : String) (es : List Entry) : Broker :=
  es.foldl (fun b e => (b.publish topic e.key e.value e.metadata).2) b

theorem Made.publishAll {b : Broker} (h : b.Made) (topic : String) (es : List Entry) :
    (b.publishAll topic es).Made := by
  induction es generalizing b with
  | nil => exact h
  | cons e es ih => exact ih (h.publish topic e.key e.value e.metadata)

/-! ## Polls and commits -/

theorem poll_message {b b' : Broker} {m : Message} (h : b.poll = (.message m, b')) :
    ∃ topic, b.subscription = some topic ∧ b.messageAt? topic b.cursor = some m ∧
      b.pollFailures = [] ∧ b' = { b with cursor := b.cursor + 1 } := by
  unfold poll at h
  split at h
  · cases h
  · rename_i hf
    split at h
    · cases h
    · rename_i topic ht
      split at h
      · rename_i m' hm
        cases h
        exact ⟨topic, ht, hm, hf, rfl⟩
      · cases h

theorem poll_nothing {b b' : Broker} (h : b.poll = (.nothing, b')) :
    b' = b ∧ ∃ topic, b.subscription = some topic ∧ b.messageAt? topic b.cursor = none := by
  unfold poll at h
  split at h
  · cases h
  · split at h
    · cases h
    · rename_i topic ht
      split at h
      · cases h
      · rename_i hm
        cases h
        exact ⟨rfl, topic, ht, hm⟩

theorem poll_failed {b b' : Broker} {reason : String} (h : b.poll = (.failed reason, b')) :
    ∃ rest, b' = { b with pollFailures := rest } := by
  unfold poll at h
  split at h
  · rename_i rest _
    cases h
    exact ⟨rest, rfl⟩
  · split at h
    · cases h
      exact ⟨b.pollFailures, rfl⟩
    · split at h <;> cases h

theorem storePosition_ok {b b' : Broker} {p : Position} (h : b.storePosition p = (.ok (), b')) :
    b' = { b with committed := b.committed.set p.topic (p.offset + 1) } := by
  unfold storePosition at h
  split at h <;> cases h
  rfl

theorem storePosition_error {b b' : Broker} {p : Position} {reason : String}
    (h : b.storePosition p = (.error reason, b')) : ∃ rest, b' = { b with storeFailures := rest } := by
  unfold storePosition at h
  split at h
  · rename_i rest _
    cases h
    exact ⟨rest, rfl⟩
  · cases h

theorem storeFailures_of_error {b b' : Broker} {p : Position} {reason : String}
    (h : b.storePosition p = (.error reason, b')) : b.storeFailures = reason :: b'.storeFailures := by
  unfold storePosition at h
  split at h
  · rename_i hf
    cases h
    exact hf
  · cases h

/-! ## What stays -/

theorem messages_poll (b : Broker) (topic : String) : b.poll.2.messages topic = b.messages topic := by
  unfold poll
  split
  · rfl
  · split
    · rfl
    · split <;> rfl

theorem messages_storePosition (b : Broker) (p : Position) (topic : String) :
    (b.storePosition p).2.messages topic = b.messages topic := by
  unfold storePosition
  split <;> rfl

theorem pollFailures_poll_suffix (b : Broker) : b.poll.2.pollFailures <:+ b.pollFailures := by
  unfold poll
  split
  · rename_i reason rest hf
    rw [hf]
    exact List.suffix_cons reason rest
  · split
    · exact List.suffix_rfl
    · split <;> exact List.suffix_rfl

theorem storeFailures_poll (b : Broker) : b.poll.2.storeFailures = b.storeFailures := by
  unfold poll
  split
  · rfl
  · split
    · rfl
    · split <;> rfl

theorem subscriptions_poll (b : Broker) : b.poll.2.subscriptions = b.subscriptions := by
  unfold poll
  split
  · rfl
  · split
    · rfl
    · split <;> rfl

theorem subscriptions_storePosition (b : Broker) (p : Position) :
    (b.storePosition p).2.subscriptions = b.subscriptions := by
  unfold storePosition
  split <;> rfl

theorem pollFailures_storePosition (b : Broker) (p : Position) :
    (b.storePosition p).2.pollFailures = b.pollFailures := by
  unfold storePosition
  split <;> rfl

theorem storeFailures_storePosition_suffix (b : Broker) (p : Position) :
    (b.storePosition p).2.storeFailures <:+ b.storeFailures := by
  unfold storePosition
  split
  · rename_i reason rest hf
    rw [hf]
    exact List.suffix_cons reason rest
  · exact List.suffix_rfl

theorem messages_publish_eq_append (b : Broker) (t topic : String) (key : Bytes)
    (value : Option Bytes) (metadata : List (String × Bytes)) :
    ∃ ms, (b.publish t key value metadata).2.messages topic = b.messages topic ++ ms := by
  rw [messages_publish]
  by_cases h : topic = t
  · subst h
    exact ⟨_, if_pos rfl⟩
  · exact ⟨[], by rw [if_neg h, List.append_nil]⟩

/-- Publishing adds the entries behind what there is, whatever else the broker holds. -/
theorem messages_publishAll (b : Broker) (topic : String) (es : List Entry) :
    ∃ ms : List Message, Entry.Become es ms ∧ ∀ b' : Broker, b'.messages topic = b.messages topic →
      (b'.publishAll topic es).messages topic = b.messages topic ++ ms := by
  induction es generalizing b with
  | nil => exact ⟨[], .nil, fun b' hb => hb.trans (List.append_nil _).symm⟩
  | cons e es ih =>
    obtain ⟨ms, hbecome, hms⟩ := ih (b.publish topic e.key e.value e.metadata).2
    refine ⟨e.placed (b.publish topic e.key e.value e.metadata).1 :: ms, .cons ⟨_, rfl⟩ hbecome,
      fun b' hb => ?_⟩
    have hone : (b'.publish topic e.key e.value e.metadata).2.messages topic =
        (b.publish topic e.key e.value e.metadata).2.messages topic := by
      rw [messages_publish, messages_publish, if_pos rfl, if_pos rfl, publish, publish, hb]
    rw [publishAll, List.foldl_cons]
    refine (hms _ hone).trans ?_
    rw [messages_publish, if_pos rfl, List.append_assoc]
    rfl

/-- **A topic published in two parts**, the second wherever the first lies. -/
theorem messages_publishAll_parts (topic : String) (es : List Entry) {i : Nat} (hi : i ≤ es.length) :
    ∃ ms₁ ms₂ : List Message, ms₁.length = i ∧ ms₂.length = es.length - i ∧
      (({} : Broker).publishAll topic (es.take i)).messages topic = ms₁ ∧
      (({} : Broker).publishAll topic es).messages topic = ms₁ ++ ms₂ ∧
      ∀ b : Broker, b.messages topic = ms₁ →
        (b.publishAll topic (es.drop i)).messages topic = ms₁ ++ ms₂ := by
  obtain ⟨ms₁, hbecome₁, hms₁⟩ := ({} : Broker).messages_publishAll topic (es.take i)
  have hfirst : (({} : Broker).publishAll topic (es.take i)).messages topic = ms₁ := hms₁ _ rfl
  obtain ⟨ms₂, hbecome₂, hms₂⟩ := (({} : Broker).publishAll topic (es.take i)).messages_publishAll topic
    (es.drop i)
  rw [hfirst] at hms₂
  have happend : ({} : Broker).publishAll topic es =
      (({} : Broker).publishAll topic (es.take i)).publishAll topic (es.drop i) := by
    rw [publishAll, publishAll, publishAll, ← List.foldl_append, List.take_append_drop]
  have hlen₁ := hbecome₁.length_eq.symm
  have hlen₂ := hbecome₂.length_eq.symm
  rw [List.length_take, Nat.min_eq_left hi] at hlen₁
  rw [List.length_drop] at hlen₂
  exact ⟨ms₁, ms₂, hlen₁, hlen₂, hfirst, happend ▸ hms₂ _ hfirst, hms₂⟩

theorem committed_publishAll (b : Broker) (topic : String) (es : List Entry) :
    (b.publishAll topic es).committed = b.committed := by
  induction es generalizing b with
  | nil => rfl
  | cons e es ih => exact ih _

theorem startOf_publishAll (b : Broker) (topic topic' : String) (es : List Entry) :
    (b.publishAll topic es).startOf topic' = b.startOf topic' := by
  rw [startOf, startOf, committed_publishAll]

theorem messageAt?_of_append {b b' : Broker} {topic : String} {ms : List Message}
    (h : b'.messages topic = b.messages topic ++ ms) {o : Int} {m : Message}
    (hm : b.messageAt? topic o = some m) : b'.messageAt? topic o = some m := by
  unfold messageAt? at hm ⊢
  split at hm
  · rename_i ho
    rw [if_pos ho, h, List.getElem?_append_left (List.getElem?_eq_some_iff.1 hm).1]
    exact hm
  · cases hm

theorem messageAt?_lt {b : Broker} {topic : String} {o : Int} {m : Message}
    (h : b.messageAt? topic o = some m) : 0 ≤ o ∧ o < (b.messages topic).length := by
  unfold messageAt? at h
  split at h
  · have := (List.getElem?_eq_some_iff.1 h).1
    omega
  · cases h

theorem length_le_of_messageAt?_none {b : Broker} {topic : String} {o : Int} (h₀ : 0 ≤ o)
    (h : b.messageAt? topic o = none) : ((b.messages topic).length : Int) ≤ o := by
  unfold messageAt? at h
  rw [if_pos h₀, List.getElem?_eq_none_iff] at h
  omega

theorem messageAt?_natCast (b : Broker) (topic : String) (i : Nat) :
    b.messageAt? topic i = (b.messages topic)[i]? := by
  unfold messageAt?
  rw [if_pos (Int.natCast_nonneg i), Int.toNat_natCast]

/-- The messages of a topic from an offset on; there are none from a negative one. -/
def messagesFrom (b : Broker) (topic : String) (o : Int) : List Message :=
  if 0 ≤ o then (b.messages topic).drop o.toNat else []

theorem messagesFrom_natCast (b : Broker) (topic : String) (i : Nat) :
    b.messagesFrom topic i = (b.messages topic).drop i := by
  rw [messagesFrom, if_pos (Int.natCast_nonneg i), Int.toNat_natCast]

theorem messagesFrom_of_messageAt? {b : Broker} {topic : String} {o : Int} {m : Message}
    (h : b.messageAt? topic o = some m) :
    b.messagesFrom topic o = m :: b.messagesFrom topic (o + 1) := by
  obtain ⟨i, rfl⟩ := Int.eq_ofNat_of_zero_le (messageAt?_lt h).1
  rw [messageAt?_natCast] at h
  obtain ⟨hi, rfl⟩ := List.getElem?_eq_some_iff.1 h
  rw [messagesFrom_natCast, List.drop_eq_getElem_cons hi, ← messagesFrom_natCast]
  rfl

theorem messagesFrom_of_none {b : Broker} {topic : String} {o : Int}
    (h : b.messageAt? topic o = none) : b.messagesFrom topic o = [] := by
  unfold messagesFrom
  by_cases h₀ : 0 ≤ o
  · have hle := length_le_of_messageAt?_none h₀ h
    rw [if_pos h₀, List.drop_eq_nil_iff]
    omega
  · rw [if_neg h₀]

/-- The first of the messages from an offset on lies at it. -/
theorem messageAt?_of_messagesFrom {b : Broker} {topic : String} {o : Int} {m : Message}
    {ms : List Message} (h : b.messagesFrom topic o = m :: ms) :
    b.messageAt? topic o = some m ∧ b.messagesFrom topic (o + 1) = ms := by
  cases hm : b.messageAt? topic o with
  | none =>
    rw [messagesFrom_of_none hm] at h
    cases h
  | some m' =>
    rw [messagesFrom_of_messageAt? hm] at h
    obtain ⟨rfl, hms⟩ := List.cons.inj h
    exact ⟨rfl, hms⟩

theorem getElem?_messagesFrom (b : Broker) (topic : String) {o : Int} (h₀ : 0 ≤ o) (i : Nat) :
    (b.messagesFrom topic o)[i]? = b.messageAt? topic (o + i) := by
  obtain ⟨j, rfl⟩ := Int.eq_ofNat_of_zero_le h₀
  rw [messagesFrom_natCast, List.getElem?_drop, ← Int.natCast_add, messageAt?_natCast]

theorem messagesFrom_grow {b b' : Broker} {topic : String}
    (h : b.messages topic <+: b'.messages topic) (o : Int) :
    b.messagesFrom topic o <+: b'.messagesFrom topic o := by
  unfold messagesFrom
  split
  · exact List.IsPrefix.drop h _
  · exact List.nil_prefix

/-- **Every message says where it lies.** -/
def IsPlaced (b : Broker) (topic : String) : Prop :=
  ∀ o m, b.messageAt? topic o = some m → m.position = { topic, offset := o }

theorem isPlaced_of_messages_eq {b b' : Broker} {topic : String} (h : b.IsPlaced topic)
    (he : b'.messages topic = b.messages topic) : b'.IsPlaced topic := by
  intro o m hm
  refine h o m ?_
  unfold messageAt? at hm ⊢
  rwa [← he]

theorem IsPlaced.publish {b : Broker} {topic : String} (h : b.IsPlaced topic) (t : String)
    (key : Bytes) (value : Option Bytes) (metadata : List (String × Bytes)) :
    (b.publish t key value metadata).2.IsPlaced topic := by
  by_cases ht : topic = t
  · subst ht
    intro o m hm
    have hlt := messageAt?_lt hm
    obtain ⟨i, rfl⟩ := Int.eq_ofNat_of_zero_le hlt.1
    rw [messageAt?_natCast, messages_publish, if_pos rfl] at hm
    by_cases hi : i < (b.messages topic).length
    · rw [List.getElem?_append_left hi, ← messageAt?_natCast] at hm
      exact h i m hm
    · have hl := (List.getElem?_eq_some_iff.1 hm).1
      rw [List.length_append, List.length_singleton] at hl
      have hi' : i = (b.messages topic).length := by omega
      rw [hi', List.getElem?_concat_length, Option.some.injEq] at hm
      rw [← hm, hi']
      rfl
  · exact isPlaced_of_messages_eq h (by rw [messages_publish, if_neg ht])

theorem IsPlaced.publishAll {b : Broker} {topic : String} (h : b.IsPlaced topic) (es : List Entry) :
    (b.publishAll topic es).IsPlaced topic := by
  induction es generalizing b with
  | nil => exact h
  | cons e es ih => exact ih (h.publish topic e.key e.value e.metadata)

theorem Made.isPlaced {b : Broker} (h : b.Made) (topic : String) : b.IsPlaced topic := by
  induction h with
  | empty =>
    intro o m hm
    have := messageAt?_lt hm
    have : (({} : Broker).messages topic).length = 0 := rfl
    omega
  | publish _ t key value metadata ih => exact ih.publish t key value metadata
  | subscribe _ _ ih => exact isPlaced_of_messages_eq ih rfl
  | poll _ ih => exact isPlaced_of_messages_eq ih (messages_poll _ _)
  | storePosition _ p ih => exact isPlaced_of_messages_eq ih (messages_storePosition _ p _)
  | rewind _ _ _ ih => exact isPlaced_of_messages_eq ih rfl
  | failNextPoll _ _ ih => exact isPlaced_of_messages_eq ih rfl
  | failNextStore _ _ ih => exact isPlaced_of_messages_eq ih rfl

end Broker

end AssetGraph
