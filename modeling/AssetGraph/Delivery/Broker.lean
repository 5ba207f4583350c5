import AssetGraph.Event.Message
/-!
# A broker in memory

Topics of messages in order, one reader's place in the topic that it subscribed to, and the offset
that each topic's group has committed.  A subscription starts at the committed offset.  Polls and
commits may be told to fail: the reasons wait in a queue, and each takes the next one.
-/
namespace AssetGraph

/-- What is kept by name. -/
abbrev Table (α : Type) : Type := List (String × α)

namespace Table

variable {α : Type}

def get? (t : Table α) (name : String) : Option α := List.lookup name t

/-- Sets what a name stands for; a new name comes last. -/
def set (name : String) (a : α) : Table α → Table α
  | [] => [(name, a)]
  | (k, b) :: t => if k == name then (name, a) :: t else (k, b) :: set name a t

@[simp] theorem get?_nil (name : String) : get? ([] : Table α) name = none := rfl

theorem get?_cons (name k : String) (b : α) (t : Table α) :
    get? ((k, b) :: t) name = if name = k then some b else get? t name := by
  simp only [get?, List.lookup_cons]
  by_cases h : name = k
  · simp [h]
  · rw [beq_false_of_ne h, if_neg h]

theorem get?_set (t : Table α) (name k : String) (a : α) :
    get? (set k a t) name = if name = k then some a else get? t name := by
  induction t with
  | nil => simp [set, get?_cons]
  | cons e t ih =>
    obtain ⟨j, b⟩ := e
    by_cases hj : j = k
    · subst hj
      by_cases hn : name = j <;> simp [set, get?_cons, hn]
    · by_cases hn : name = j
      · subst hn
        simp [set, get?_cons, hj]
      · simp [set, get?_cons, hj, hn, ih]

end Table

/-- **A broker**: topics, the reader's place, and what the groups have committed. -/
structure Broker where
  topics : Table (List Message) := []
  subscription : Option String := none
  /-- The offset that the next poll reads. -/
  cursor : Int := 0
  /-- The offset that a group reads next, by topic. -/
  committed : Table Int := []
  pollFailures : List String := []
  storeFailures : List String := []
  subscriptions : Nat := 0
deriving DecidableEq, Repr

/-- **What a poll finds.** -/
inductive Polled where
  | message (m : Message)
  | nothing
  | failed (reason : String)
deriving DecidableEq, Repr

namespace Broker

/-- The messages of a topic. -/
def messages (b : Broker) (topic : String) : List Message := (b.topics.get? topic).getD []

/-- **Appends a message to a topic.** -/
def publish (b : Broker) (topic : String) (key : Bytes) (value : Option Bytes)
    (metadata : List (String × Bytes)) : Position × Broker :=
  let log := b.messages topic
  let position : Position := { topic, partition := 0, offset := log.length }
  (position, { b with topics := b.topics.set topic (log ++ [{ key, value, metadata, position }]) })

/-- The offset at which a group starts to read a topic. -/
def startOf (b : Broker) (topic : String) : Int := (b.committed.get? topic).getD 0

/-- **Starts to read a topic** at its committed offset. -/
def subscribe (b : Broker) (topic : String) : Broker :=
  { b with
    subscription := some topic
    cursor := b.startOf topic
    subscriptions := b.subscriptions + 1 }

/-- The message at an offset; there is none at a negative one. -/
def messageAt? (b : Broker) (topic : String) (offset : Int) : Option Message :=
  if 0 ≤ offset then (b.messages topic)[offset.toNat]? else none

/-- **Reads the next message**, if there is one. -/
def poll (b : Broker) : Polled × Broker :=
  match b.pollFailures with
  | reason :: rest => (.failed reason, { b with pollFailures := rest })
  | [] =>
    match b.subscription with
    | none => (.failed "poll without subscription", b)
    | some topic =>
      match b.messageAt? topic b.cursor with
      | some m => (.message m, { b with cursor := b.cursor + 1 })
      | none => (.nothing, b)

/-- **Commits the offset behind a position.** -/
def storePosition (b : Broker) (p : Position) : Except String Unit × Broker :=
  match b.storeFailures with
  | reason :: rest => (.error reason, { b with storeFailures := rest })
  | [] => (.ok (), { b with committed := b.committed.set p.topic (p.offset + 1) })

/-- Moves a committed offset, as when later commits are lost. -/
def rewind (b : Broker) (topic : String) (offset : Int) : Broker :=
  { b with committed := b.committed.set topic offset }

def failNextPoll (b : Broker) (reason : String) : Broker :=
  { b with pollFailures := b.pollFailures ++ [reason] }

def failNextStore (b : Broker) (reason : String) : Broker :=
  { b with storeFailures := b.storeFailures ++ [reason] }

/-- Publishing appends to one topic and leaves the others alone. -/
theorem messages_publish (b : Broker) (t topic : String) (key : Bytes) (value : Option Bytes)
    (metadata : List (String × Bytes)) :
    (b.publish t key value metadata).2.messages topic =
      if topic = t then
        b.messages t ++ [{ key, value, metadata, position := (b.publish t key value metadata).1 }]
      else b.messages topic := by
  by_cases h : topic = t <;> simp [publish, messages, Table.get?_set, h]

/-- A poll does not touch what is committed. -/
theorem startOf_poll (b : Broker) (topic : String) : b.poll.2.startOf topic = b.startOf topic := by
  unfold poll
  split
  · rfl
  · split
    · rfl
    · split <;> rfl

end Broker

end AssetGraph
