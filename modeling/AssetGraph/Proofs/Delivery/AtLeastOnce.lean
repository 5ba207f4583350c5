import AssetGraph.Proofs.Delivery.Log
import AssetGraph.Proofs.Delivery.Course
/-!
# At least once, and in order

However a course goes, nothing behind the committed offset has been skipped, a call is given the
messages in a row from where it began, and a message that failed is given again, with success, before
any message behind it (`Course.delivers_at_least_once`).  The offset that a call reads next is always
the committed one; `Course.Kept` is the invariant that says so.
-/
namespace AssetGraph

/-- A failed message is given again, with success, before any message behind it. -/
def Delivery.IsOrderly (ds : List Delivery) : Prop :=
  ∀ pre d mid d' post, ds = pre ++ d :: (mid ++ d' :: post) → d.result ≠ .ok () → d.offset < d'.offset →
    ∃ a ∈ mid, a.message = d.message ∧ a.result = .ok ()

/-- Every failed message has been given again with success, or is not committed. -/
def Delivery.ArePending (ds : List Delivery) (committed : Int) : Prop :=
  ∀ pre d post, ds = pre ++ d :: post → d.result ≠ .ok () →
    (∃ a ∈ post, a.message = d.message ∧ a.result = .ok ()) ∨ committed ≤ d.offset

namespace Delivery

theorem eq_or_of_concat_eq {ds pre post : List Delivery} {d a : Delivery}
    (h : ds ++ [a] = pre ++ d :: post) :
    (post = [] ∧ d = a ∧ pre = ds) ∨ ∃ post', post = post' ++ [a] ∧ ds = pre ++ d :: post' := by
  rcases List.eq_nil_or_concat post with rfl | ⟨post', b, rfl⟩
  · obtain ⟨h₁, h₂⟩ := List.append_inj' h rfl
    exact .inl ⟨rfl, (List.cons.inj h₂).1.symm, h₁.symm⟩
  · rw [List.concat_eq_append, ← List.cons_append, ← List.append_assoc] at h
    obtain ⟨h₁, h₂⟩ := List.append_inj' h rfl
    refine .inr ⟨post', ?_, h₁⟩
    rw [List.concat_eq_append, (List.cons.inj h₂).1]

/-- A delivery at the committed offset overtakes nothing. -/
theorem IsOrderly.concat {ds : List Delivery} {c : Int} {a : Delivery} (h : IsOrderly ds)
    (hp : ArePending ds c) (ha : a.offset = c) : IsOrderly (ds ++ [a]) := by
  intro pre d mid d' post he hd hlt
  rw [← List.cons_append, ← List.append_assoc] at he
  rcases eq_or_of_concat_eq he with ⟨-, rfl, hpre⟩ | ⟨post', -, hpre⟩
  · rcases hp pre d mid hpre.symm hd with hok | hle
    · exact hok
    · omega
  · exact h pre d mid d' post' (by rw [hpre, List.append_assoc, List.cons_append]) hd hlt

/-- A delivery at the committed offset is itself pending if it fails. -/
theorem ArePending.concat {ds : List Delivery} {c : Int} {a : Delivery} (h : ArePending ds c)
    (ha : a.offset = c) : ArePending (ds ++ [a]) c := by
  intro pre d post he hd
  rcases eq_or_of_concat_eq he with ⟨-, rfl, -⟩ | ⟨post', rfl, hpre⟩
  · exact .inr (by omega)
  · rcases h pre d post' hpre hd with ⟨b, hb, hok⟩ | hle
    · exact .inl ⟨b, List.mem_append_left _ hb, hok⟩
    · exact .inr hle

/-- The committed offset may move behind a message that was given last, with success. -/
theorem ArePending.commit {ds : List Delivery} {c : Int} {a : Delivery} (h : ArePending (ds ++ [a]) c)
    (ha : a.offset = c) (hok : a.result = .ok ())
    (hinj : ∀ d ∈ ds, d.offset = c → d.message = a.message) : ArePending (ds ++ [a]) (c + 1) := by
  intro pre d post he hd
  rcases h pre d post he hd with hres | hle
  · exact .inl hres
  · by_cases hlt : c < d.offset
    · exact .inr hlt
    · rcases eq_or_of_concat_eq he with ⟨-, rfl, -⟩ | ⟨post', rfl, hpre⟩
      · exact absurd hok hd
      · have hm : d ∈ ds := by
          rw [hpre]
          exact List.mem_append_right _ List.mem_cons_self
        exact .inl ⟨a, List.mem_append_right _ List.mem_cons_self,
          (hinj d hm (by omega)).symm, hok⟩

end Delivery

/-- The topic has grown at most, and the same is committed. -/
structure Broker.Grows (entity : String) (b b' : Broker) : Prop where
  messages : ∃ ms, b'.messages entity = b.messages entity ++ ms
  startOf : b'.startOf entity = b.startOf entity
  isPlaced : b.IsPlaced entity → b'.IsPlaced entity

namespace Broker

theorem Grows.of_messages_eq {entity : String} {b b' : Broker}
    (hm : b'.messages entity = b.messages entity) (hs : b'.startOf entity = b.startOf entity) :
    b.Grows entity b' :=
  ⟨⟨[], by rw [hm, List.append_nil]⟩, hs, fun h => isPlaced_of_messages_eq h hm⟩

theorem Grows.messageAt? {entity : String} {b b' : Broker} (h : b.Grows entity b') {o : Int}
    {m : Message} (hm : b.messageAt? entity o = some m) : b'.messageAt? entity o = some m := by
  obtain ⟨ms, hms⟩ := h.messages
  exact messageAt?_of_append hms hm

theorem Grows.length_le {entity : String} {b b' : Broker} (h : b.Grows entity b') :
    (b.messages entity).length ≤ (b'.messages entity).length := by
  obtain ⟨ms, hms⟩ := h.messages
  rw [hms, List.length_append]
  exact Nat.le_add_right _ _

theorem grows_publish (b : Broker) (entity topic : String) (key : Bytes) (value : Option Bytes)
    (metadata : List (String × Bytes)) : b.Grows entity (b.publish topic key value metadata).2 :=
  ⟨messages_publish_eq_append b topic entity key value metadata, rfl,
    fun h => h.publish topic key value metadata⟩

theorem grows_poll (b : Broker) (entity : String) : b.Grows entity b.poll.2 :=
  .of_messages_eq (messages_poll b entity) (startOf_poll b entity)

end Broker

/-- **How far the call has come** whose reading this is: what it reads next lies at the committed
offset. -/
def Stage.Fits (entity : String) (b : Broker) (r : Reading) : Stage → Prop
  | .idle => True
  | .reading _ => b.subscription = some entity ∧ b.cursor = b.startOf entity ∧
      r.start + r.deliveries.length = b.startOf entity
  | .holding m => b.subscription = some entity ∧ b.cursor = b.startOf entity + 1 ∧
      r.start + r.deliveries.length = b.startOf entity ∧
      b.messageAt? entity (b.startOf entity) = some m
  | .storing m => b.subscription = some entity ∧ b.cursor = b.startOf entity + 1 ∧
      r.start + r.deliveries.length = b.startOf entity + 1 ∧
      b.messageAt? entity (b.startOf entity) = some m ∧
      ∃ ds, r.deliveries = ds ++ [{ message := m, result := .ok () }]
  | .ended (.error (.processing p e)) _ => p = { topic := entity, offset := b.startOf entity } ∧
      ∃ d, r.deliveries.getLast? = some d ∧ d.result = .error e ∧ d.offset = b.startOf entity
  | .ended _ _ => True

theorem Stage.Fits.grows {entity : String} {b b' : Broker} {r : Reading} {stage : Stage}
    (h : stage.Fits entity b r) (hg : b.Grows entity b') (hs : b'.subscription = b.subscription)
    (hc : b'.cursor = b.cursor) : stage.Fits entity b' r := by
  unfold Fits at h ⊢
  rw [hg.startOf, hs, hc]
  split at h
  · trivial
  · exact h
  · exact ⟨h.1, h.2.1, h.2.2.1, hg.messageAt? h.2.2.2⟩
  · exact ⟨h.1, h.2.1, h.2.2.1, hg.messageAt? h.2.2.2.1, h.2.2.2.2⟩
  · exact h
  · trivial

namespace Course

variable {σ : Type}

/-- **At least once, and in order**: what is so at every moment of a course that began with `c₀`
committed. -/
structure AtLeastOnce (entity : String) (c₀ : Int) (c : Course σ) : Prop where
  le_committed : c₀ ≤ c.committed entity
  committed_le : c.committed entity ≤ (c.broker.messages entity).length
  /-- Nothing that is committed was skipped. -/
  handled : ∀ o, c₀ ≤ o → o < c.committed entity →
    ∃ d ∈ c.deliveries, c.broker.messageAt? entity o = some d.message ∧ d.result = .ok ()
  /-- A call is given the messages in a row, from the offset that was committed when it began. -/
  in_a_row : ∀ r ∈ c.readings, ∀ (i : Nat) d, r.deliveries[i]? = some d →
    d.offset = r.start + i ∧ c.broker.messageAt? entity d.offset = some d.message
  /-- A call that failed to handle a message leaves its offset committed. -/
  halted : ∀ p e isDrained, c.stage = .ended (.error (.processing p e)) isDrained →
    p = { topic := entity, offset := c.committed entity } ∧
      ∃ r rs d, c.readings = r :: rs ∧ r.deliveries.getLast? = some d ∧ d.result = .error e ∧
        d.offset = c.committed entity
  /-- The call after one that failed to handle a message begins with that message. -/
  resumed : ∀ newer r' r older d, c.readings = newer ++ r' :: r :: older →
    r.deliveries.getLast? = some d → d.result ≠ .ok () → r'.start = d.offset
  /-- No message behind a failed one is given before that one has succeeded. -/
  orderly : Delivery.IsOrderly c.deliveries

/-- **The invariant of a course.** -/
structure Kept (entity : String) (c₀ : Int) (c : Course σ) : Prop extends AtLeastOnce entity c₀ c where
  nonneg : 0 ≤ c₀
  placed : c.broker.IsPlaced entity
  fits : c.stage = .idle ∨ ∃ r rs, c.readings = r :: rs ∧ c.stage.Fits entity c.broker r
  /-- A message that failed last is the next one. -/
  next : ∀ r rs d, c.readings = r :: rs → r.deliveries.getLast? = some d → d.result ≠ .ok () →
    d.offset = c.committed entity
  pending : Delivery.ArePending c.deliveries (c.committed entity)

theorem deliveries_of_cons {c : Course σ} {r : Reading} {rs : List Reading} (h : c.readings = r :: rs) :
    c.deliveries = rs.reverse.flatMap (·.deliveries) ++ r.deliveries := by
  unfold deliveries
  rw [h, List.reverse_cons, List.flatMap_append, List.flatMap_singleton]

/-- What a stage that fits says of a call that failed to handle a message. -/
theorem halted_of_fits {entity : String} {c : Course σ}
    (hf : c.stage = .idle ∨ ∃ r rs, c.readings = r :: rs ∧ c.stage.Fits entity c.broker r) :
    ∀ p e isDrained, c.stage = .ended (.error (.processing p e)) isDrained →
      p = { topic := entity, offset := c.committed entity } ∧
        ∃ r rs d, c.readings = r :: rs ∧ r.deliveries.getLast? = some d ∧ d.result = .error e ∧
          d.offset = c.committed entity := by
  intro p e isDrained hst
  rcases hf with hid | ⟨r, rs, hr, hf⟩
  · rw [hst] at hid
    cases hid
  · rw [hst] at hf
    obtain ⟨hp, d, hl, hd, ho⟩ := hf
    exact ⟨hp, r, rs, d, hr, hl, hd, ho⟩

theorem Kept.mem_messageAt? {entity : String} {c₀ : Int} {c : Course σ} (h : c.Kept entity c₀)
    {d : Delivery} (hd : d ∈ c.deliveries) : c.broker.messageAt? entity d.offset = some d.message := by
  obtain ⟨r, hr, hd⟩ := List.mem_flatMap.1 hd
  obtain ⟨i, hi⟩ := List.mem_iff_getElem?.1 hd
  exact (h.in_a_row r (List.mem_reverse.1 hr) i d hi).2

/-- **Nothing is lost while nothing is given or committed**: the topic may grow and the call may go
from stage to stage. -/
theorem Kept.moved {entity : String} {c₀ : Int} {c : Course σ} (h : c.Kept entity c₀) {b : Broker}
    {stage : Stage} (hg : c.broker.Grows entity b)
    (hf : stage = .idle ∨ ∃ r rs, c.readings = r :: rs ∧ stage.Fits entity b r) :
    Kept entity c₀ { c with broker := b, stage := stage } where
  le_committed := by
    rw [committed, hg.startOf]
    exact h.le_committed
  committed_le := by
    rw [committed, hg.startOf]
    exact Int.le_trans h.committed_le (Int.ofNat_le.2 hg.length_le)
  handled := by
    intro o hlo hhi
    rw [committed, hg.startOf] at hhi
    obtain ⟨d, hd, hm, hok⟩ := h.handled o hlo hhi
    exact ⟨d, hd, hg.messageAt? hm, hok⟩
  in_a_row := by
    intro r hr i d hi
    obtain ⟨ho, hm⟩ := h.in_a_row r hr i d hi
    exact ⟨ho, hg.messageAt? hm⟩
  halted := halted_of_fits hf
  resumed := h.resumed
  orderly := h.orderly
  nonneg := h.nonneg
  placed := hg.isPlaced h.placed
  fits := hf
  next := by
    intro r rs d hr hl hd
    rw [committed, hg.startOf]
    exact h.next r rs d hr hl hd
  pending := by
    rw [committed, hg.startOf]
    exact h.pending

/-- **A new call begins at the committed offset.** -/
theorem Kept.subscribed {entity : String} {c₀ : Int} {c : Course σ} (h : c.Kept entity c₀) :
    Kept entity c₀ { c with
      broker := c.broker.subscribe entity
      stage := .reading false
      readings := { start := c.committed entity } :: c.readings } where
  le_committed := h.le_committed
  committed_le := h.committed_le
  handled := by
    intro o hlo hhi
    obtain ⟨d, hd, hm, hok⟩ := h.handled o hlo hhi
    refine ⟨d, ?_, hm, hok⟩
    rw [deliveries_of_cons rfl, List.append_nil]
    exact hd
  in_a_row := by
    intro r hr i d hi
    rcases List.mem_cons.1 hr with rfl | hr
    · cases hi
    · exact h.in_a_row r hr i d hi
  halted := by
    intro p e isDrained hst
    cases hst
  resumed := by
    intro newer r' r older d hr hl hd
    cases newer with
    | nil =>
      injection hr with hr' hr
      rw [← hr']
      exact (h.next r older d hr hl hd).symm
    | cons _ newer => exact h.resumed newer r' r older d (List.cons.inj hr).2 hl hd
  orderly := by
    rw [deliveries_of_cons rfl, List.append_nil]
    exact h.orderly
  nonneg := h.nonneg
  placed := Broker.isPlaced_of_messages_eq h.placed rfl
  fits := .inr ⟨_, _, rfl, rfl, rfl, Int.add_zero _⟩
  next := by
    intro r rs d hr hl hd
    obtain ⟨rfl, -⟩ := List.cons.inj hr
    cases hl
  pending := by
    rw [deliveries_of_cons rfl, List.append_nil]
    exact h.pending

/-- **The message that is handled is the one at the committed offset.** -/
theorem Kept.given {entity : String} {c₀ : Int} {c : Course σ} (h : c.Kept entity c₀) {m : Message}
    (hst : c.stage = .holding m) (result : Outcome) (x : σ) :
    Kept entity c₀ { c with
      stage := stageAfter m result
      readings := note { message := m, result } c.readings
      state := x } := by
  obtain hid | ⟨r, rs, hr, hf⟩ := h.fits
  · rw [hst] at hid
    cases hid
  rw [hst] at hf
  obtain ⟨hsub, hcur, hlen, hm⟩ := hf
  have ho : Delivery.offset { message := m, result } = c.committed entity := by
    rw [Delivery.offset, h.placed _ _ hm]
    rfl
  have hnote : note { message := m, result } c.readings =
      { r with deliveries := r.deliveries ++ [{ message := m, result }] } :: rs := by
    rw [hr]
    rfl
  rw [hnote]
  have hdel : ∀ {stage : Stage}, deliveries { c with
      stage
      readings := { r with deliveries := r.deliveries ++ [{ message := m, result }] } :: rs
      state := x } = c.deliveries ++ [{ message := m, result }] := by
    intro stage
    rw [deliveries_of_cons rfl, deliveries_of_cons hr, List.append_assoc]
  have hfits : (stageAfter m result).Fits entity c.broker
      { r with deliveries := r.deliveries ++ [{ message := m, result }] } := by
    rcases result with e | ⟨⟩
    · exact ⟨h.placed _ _ hm, _, List.getLast?_concat, rfl, ho⟩
    · refine ⟨hsub, hcur, ?_, hm, _, rfl⟩
      show r.start + ((r.deliveries ++ [_]).length : Int) = c.broker.startOf entity + 1
      rw [List.length_append, List.length_singleton, ← hlen]
      omega
  exact {
    le_committed := h.le_committed
    committed_le := h.committed_le
    handled := by
      intro o hlo hhi
      obtain ⟨d, hd, hmd, hok⟩ := h.handled o hlo hhi
      rw [hdel]
      exact ⟨d, List.mem_append_left _ hd, hmd, hok⟩
    in_a_row := by
      intro r' hr' i d hi
      rcases List.mem_cons.1 hr' with rfl | hr'
      · by_cases hlt : i < r.deliveries.length
        · rw [List.getElem?_append_left hlt] at hi
          exact h.in_a_row r (by rw [hr]; exact List.mem_cons_self) i d hi
        · have hl := (List.getElem?_eq_some_iff.1 hi).1
          rw [List.length_append, List.length_singleton] at hl
          obtain rfl : i = r.deliveries.length := by omega
          rw [List.getElem?_concat_length, Option.some.injEq] at hi
          rw [← hi, ho]
          exact ⟨hlen.symm, hm⟩
      · exact h.in_a_row r' (by rw [hr]; exact List.mem_cons_of_mem _ hr') i d hi
    halted := halted_of_fits (.inr ⟨_, rs, rfl, hfits⟩)
    resumed := by
      intro newer r₂ r₁ older d hrs hl hd
      cases newer with
      | nil =>
        injection hrs with h₂ hrs
        rw [← h₂]
        exact h.resumed [] r r₁ older d (by rw [hr, hrs]; rfl) hl hd
      | cons r₃ newer =>
        injection hrs with h₃ hrs
        exact h.resumed (r :: newer) r₂ r₁ older d (by rw [hr, hrs]; rfl) hl hd
    orderly := by
      rw [hdel]
      exact h.orderly.concat h.pending ho
    nonneg := h.nonneg
    placed := h.placed
    fits := .inr ⟨_, rs, rfl, hfits⟩
    next := by
      intro r' rs' d hrs hl hd
      injection hrs with hr' hrs
      rw [← hr', List.getLast?_concat, Option.some.injEq] at hl
      rw [← hl]
      exact ho
    pending := by
      rw [hdel]
      exact h.pending.concat ho }

/-- **What is committed is the offset behind a message that has succeeded.** -/
theorem Kept.stored {entity : String} {c₀ : Int} {c : Course σ} (h : c.Kept entity c₀) {m : Message}
    {b : Broker} (hst : c.stage = .storing m)
    (hs : c.broker.storePosition m.position = (.ok (), b)) :
    Kept entity c₀ { c with broker := b, stage := .reading false } ∧
      b.startOf entity = c.committed entity + 1 := by
  obtain hid | ⟨r, rs, hr, hf⟩ := h.fits
  · rw [hst] at hid
    cases hid
  rw [hst] at hf
  obtain ⟨hsub, hcur, hlen, hm, ds, hds⟩ := hf
  have hb := Broker.storePosition_ok hs
  have hpos : m.position = { topic := entity, offset := c.committed entity } := h.placed _ _ hm
  have hstart : b.startOf entity = c.committed entity + 1 := by
    rw [hb, hpos, Broker.startOf, Table.get?_set, if_pos rfl]
    rfl
  have hmsgs : b.messages entity = c.broker.messages entity := by
    rw [hb]
    rfl
  have hat : ∀ o, b.messageAt? entity o = c.broker.messageAt? entity o := by
    intro o
    unfold Broker.messageAt?
    rw [hmsgs]
  have hdel : c.deliveries =
      rs.reverse.flatMap (·.deliveries) ++ ds ++ [{ message := m, result := .ok () }] := by
    rw [deliveries_of_cons hr, hds, List.append_assoc]
  have hlt := Broker.messageAt?_lt hm
  have hfits : Stage.Fits entity b r (.reading false) := by
    refine ⟨?_, ?_, ?_⟩
    · rw [hb]
      exact hsub
    · rw [hstart, hb]
      exact hcur
    · rw [hstart]
      exact hlen
  refine ⟨?_, hstart⟩
  exact {
    le_committed := by
      have := h.le_committed
      rw [committed, hstart]
      omega
    committed_le := by
      rw [committed, hstart, hmsgs]
      exact hlt.2
    handled := by
      intro o hlo hhi
      rw [committed, hstart] at hhi
      by_cases ho : o = c.committed entity
      · refine ⟨{ message := m, result := .ok () }, ?_, ?_, rfl⟩
        · exact hdel ▸ List.mem_append_right _ List.mem_cons_self
        · rw [ho, hat]
          exact hm
      · obtain ⟨d, hd, hmd, hok⟩ := h.handled o hlo (by omega)
        exact ⟨d, hd, (hat o).trans hmd, hok⟩
    in_a_row := by
      intro r' hr' i d hi
      rw [hat]
      exact h.in_a_row r' hr' i d hi
    halted := halted_of_fits (.inr ⟨r, rs, hr, hfits⟩)
    resumed := h.resumed
    orderly := h.orderly
    nonneg := h.nonneg
    placed := Broker.isPlaced_of_messages_eq h.placed hmsgs
    fits := .inr ⟨r, rs, hr, hfits⟩
    next := by
      intro r' rs' d hr' hl hd
      obtain ⟨rfl, -⟩ := List.cons.inj (hr.symm.trans hr')
      rw [hds, List.getLast?_concat, Option.some.injEq] at hl
      rw [← hl] at hd
      exact absurd rfl hd
    pending := by
      have hp := h.pending
      have hmem : ∀ d ∈ rs.reverse.flatMap (·.deliveries) ++ ds, d.offset = c.committed entity →
          d.message = m := by
        intro d hd ho
        have hmd := h.mem_messageAt? (hdel ▸ List.mem_append_left _ hd)
        rw [ho] at hmd
        exact Option.some.inj (hmd.symm.trans hm)
      rw [committed, hstart]
      show Delivery.ArePending c.deliveries _
      rw [hdel] at hp ⊢
      refine hp.commit ?_ rfl hmem
      rw [Delivery.offset, hpos] }

theorem kept_start {b : Broker} {entity : String} (hb : b.IsPlaced entity) (h₀ : 0 ≤ b.startOf entity)
    (hle : b.startOf entity ≤ (b.messages entity).length) (x : σ) :
    Kept entity (b.startOf entity) (start b x) where
  le_committed := Int.le_refl _
  committed_le := hle
  handled := fun _ hlo hhi => absurd (Int.lt_of_le_of_lt hlo hhi) (Int.lt_irrefl _)
  in_a_row := fun _ hr => absurd hr List.not_mem_nil
  halted := fun _ _ _ hst => by cases hst
  resumed := fun newer _ _ _ _ hr => by cases newer <;> cases hr
  orderly := fun pre _ _ _ _ he => by cases pre <;> cases he
  nonneg := h₀
  placed := hb
  fits := .inl rfl
  next := fun _ _ _ hr => by cases hr
  pending := fun pre _ _ he => by cases pre <;> cases he

/-- **One moment keeps the invariant**, and never takes back what is committed. -/
theorem Kept.step {conduct : Conduct σ} {entity : String} {c₀ : Int} {c c' : Course σ}
    (h : c.Kept entity c₀) (hs : Step conduct entity c c') :
    c'.Kept entity c₀ ∧ c.committed entity ≤ c'.committed entity := by
  -- what moves the call on without a delivery finds the offset of its last poll
  have polled : ∀ {polled : Polled} {b : Broker}, c.broker.poll = (polled, b) →
      c.broker.Grows entity b := by
    intro polled b hp
    have hg := Broker.grows_poll c.broker entity
    rw [hp] at hg
    exact hg
  have same : ∀ {b : Broker}, c.broker.Grows entity b → c.broker.startOf entity ≤ b.startOf entity :=
    fun hg => Int.le_of_eq hg.startOf.symm
  have around : ∀ {b : Broker}, c.broker.Grows entity b → b.subscription = c.broker.subscription →
      b.cursor = c.broker.cursor → Kept entity c₀ { c with broker := b } := by
    intro b hg hsub hcur
    refine h.moved hg (h.fits.imp_right ?_)
    rintro ⟨r, rs, hr, hf⟩
    exact ⟨r, rs, hr, hf.grows hg hsub hcur⟩
  have under : ∀ {stage : Stage}, c.stage = stage → stage ≠ .idle →
      ∃ r rs, c.readings = r :: rs ∧ stage.Fits entity c.broker r := by
    intro stage hst hne
    rw [← hst] at hne ⊢
    exact h.fits.resolve_left hne
  cases hs with
  | publish topic key value metadata =>
    have hg := Broker.grows_publish c.broker entity topic key value metadata
    exact ⟨around hg rfl rfl, same hg⟩
  | failNextPoll reason =>
    have hg : c.broker.Grows entity (c.broker.failNextPoll reason) := .of_messages_eq rfl rfl
    exact ⟨around hg rfl rfl, same hg⟩
  | failNextStore reason =>
    have hg : c.broker.Grows entity (c.broker.failNextStore reason) := .of_messages_eq rfl rfl
    exact ⟨around hg rfl rfl, same hg⟩
  | subscribe => exact ⟨h.subscribed, Int.le_refl _⟩
  | stop hst =>
    have hg : c.broker.Grows entity c.broker := .of_messages_eq rfl rfl
    obtain ⟨r, rs, hr, -⟩ := under hst (by rintro ⟨⟩)
    exact ⟨h.moved hg (.inr ⟨r, rs, hr, trivial⟩), Int.le_refl _⟩
  | pollFailed hst hp =>
    obtain ⟨r, rs, hr, -⟩ := under hst (by rintro ⟨⟩)
    exact ⟨h.moved (polled hp) (.inr ⟨r, rs, hr, trivial⟩), same (polled hp)⟩
  | pollNothing hst hp =>
    obtain ⟨r, rs, hr, hf⟩ := under hst (by rintro ⟨⟩)
    obtain ⟨rfl, -⟩ := Broker.poll_nothing hp
    exact ⟨h.moved (polled hp) (.inr ⟨r, rs, hr, hf⟩), Int.le_refl _⟩
  | pollMessage hst hp =>
    obtain ⟨r, rs, hr, hsub, hcur, hlen⟩ := under hst (by rintro ⟨⟩)
    obtain ⟨topic, ht, hm, -, hb⟩ := Broker.poll_message hp
    obtain rfl : entity = topic := Option.some.inj (hsub.symm.trans ht)
    rw [hcur] at hm
    refine ⟨h.moved (polled hp) (.inr ⟨r, rs, hr, ?_⟩), same (polled hp)⟩
    rw [hb]
    exact ⟨hsub, congrArg (· + 1) hcur, hlen, hm⟩
  | handle hst hr => exact ⟨h.given hst _ _, Int.le_refl _⟩
  | @store m b hst hs =>
    obtain ⟨hk, hstart⟩ := h.stored hst hs
    refine ⟨hk, ?_⟩
    show c.committed entity ≤ b.startOf entity
    rw [hstart]
    exact Int.le_of_lt (Int.lt_add_one_of_le (Int.le_refl _))
  | storeFailed hst hs =>
    obtain ⟨r, rs, hr, -⟩ := under hst (by rintro ⟨⟩)
    obtain ⟨rest, rfl⟩ := Broker.storePosition_error hs
    have hg : c.broker.Grows entity { c.broker with storeFailures := rest } := .of_messages_eq rfl rfl
    exact ⟨h.moved hg (.inr ⟨r, rs, hr, trivial⟩), same hg⟩

/-- **So does a whole course.** -/
theorem Kept.steps {conduct : Conduct σ} {entity : String} {c₀ : Int} {c c' : Course σ}
    (h : c.Kept entity c₀) (hs : Steps conduct entity c c') :
    c'.Kept entity c₀ ∧ c.committed entity ≤ c'.committed entity := by
  induction hs with
  | refl => exact ⟨h, Int.le_refl _⟩
  | tail _ hs ih =>
    obtain ⟨hk, hle⟩ := ih.1.step hs
    exact ⟨hk, Int.le_trans ih.2 hle⟩

/-- **Delivery is at least once and in order.**  In every course from a broker whose committed offset
lies in the topic, at every moment, and the committed offset never decreases; and whatever calls of the
consumer or runs of the orchestrator are made on the way, with whatever handlers, belong to such a
course. -/
theorem delivers_at_least_once {b : Broker} (hb : b.Made) {entity : String}
    (h₀ : 0 ≤ b.startOf entity) (hle : b.startOf entity ≤ (b.messages entity).length)
    (conduct : Conduct σ) (x : σ) :
    (∀ c, Steps conduct entity (start b x) c → c.AtLeastOnce entity (b.startOf entity) ∧
      ∀ c', Steps conduct entity c c' → c.committed entity ≤ c'.committed entity) ∧
    (∀ (h : Handler σ) (pollMs limit : Nat) (s : Session σ) (c : Course σ),
      (∀ m x, conduct m x (h m x).result (h m x).state) → Consumer.Tracks c s →
      ∃ c' isDrained, Steps conduct entity c c' ∧
        Consumer.Tracks c' (Consumer.process h entity pollMs limit s).2 ∧
        c'.stage = Consumer.stageOf isDrained (Consumer.process h entity pollMs limit s).1 ∧
        ∃ r, c'.readings = r :: c.readings ∧ r.start = c.committed entity) ∧
    (∀ (o : Orchestrator) (h : Handler σ) (limit attempts : Nat) (s : Session σ) (c : Course σ),
      (∀ m x, conduct m x (h m x).result (h m x).state) → Consumer.Tracks c s → o.entity = entity →
      ∃ c', Steps conduct entity c c' ∧ Consumer.Tracks c' (o.runWith h limit attempts s).2) := by
  have mono : ∀ (h : Handler σ), (∀ m x, conduct m x (h m x).result (h m x).state) →
      ∀ m x r x', True → Handler.conduct h m x r x' → conduct m x r x' ∧ True := by
    intro h hh m x r x' _ hc
    obtain ⟨rfl, rfl⟩ := hc
    exact ⟨hh m x, trivial⟩
  refine ⟨?_, ?_, ?_⟩
  · intro c hc
    have hk := ((kept_start (hb.isPlaced entity) h₀ hle x).steps hc).1
    exact ⟨hk.toAtLeastOnce, fun c' hc' => (hk.steps hc').2⟩
  · intro h pollMs limit s c hh htr
    obtain ⟨c', d, hs, htr', hst, hr, -, -⟩ := Consumer.steps_process h entity pollMs limit htr
    exact ⟨c', d, (hs.mono (mono h hh) trivial).1, htr', hst, hr⟩
  · intro o h limit attempts s c hh htr he
    obtain ⟨c', hs, htr', -, -⟩ := o.steps_runWith h limit attempts htr
    rw [he] at hs
    exact ⟨c', (hs.mono (mono h hh) trivial).1, htr'⟩

/-- Two messages, of which the first is committed: a call that handles what there is commits the second. -/
theorem delivers_at_least_once_second :
    let b := ((({} : Broker).publish "assets-v0" [1] none []).2.publish "assets-v0" [2] none []).2.rewind
      "assets-v0" 1
    0 ≤ b.startOf "assets-v0" ∧ b.startOf "assets-v0" ≤ (b.messages "assets-v0").length ∧
      ∃ c : Course Nat, Steps (fun _ _ _ _ => True) "assets-v0" (start b 0) c ∧
        c.committed "assets-v0" = 2 ∧ c.AtLeastOnce "assets-v0" 1 := by
  intro b
  have hb : b.Made := (((Broker.Made.empty.publish _ _ _ _).publish _ _ _ _).rewind _ _)
  have h₀ : 0 ≤ b.startOf "assets-v0" := by decide
  have hle : b.startOf "assets-v0" ≤ (b.messages "assets-v0").length := by decide
  obtain ⟨hkeep, hcall, -⟩ := delivers_at_least_once hb h₀ hle (fun _ _ _ _ => True) (0 : Nat)
  obtain ⟨c, -, hs, htr, -⟩ := hcall (fun _ n => { result := .ok (), state := n + 1 }) 0 1
    { broker := b, state := 0 } (start b 0) (fun _ _ => trivial) ⟨rfl, rfl⟩
  refine ⟨h₀, hle, c, hs, ?_, (hkeep c hs).1⟩
  rw [committed, htr.broker]
  decide

end Course

end AssetGraph
