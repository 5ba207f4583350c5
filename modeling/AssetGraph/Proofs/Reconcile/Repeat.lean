import AssetGraph.Proofs.Reconcile.History
import AssetGraph.Proofs.Reconcile.Snapshot
/-!
# Events again

The words of events can be read off the events before them (`Event.wordAfter`), and what a graph tells of
a statement is the last word on it (`Graph.Loaded.holds?_eq`).  Where a stretch of a history is loaded a
second time, teams, ownerships and all that exists come out as they were; an account or an edge does so
unless the repeated events have the last word on it, and another one than before
(`Graph.Loaded.repeated`).
-/
namespace AssetGraph

namespace Event

open Statement (amend)

/-! ## Words after events -/

/-- The ownership that events have left. -/
def ownedAfter (past : List Event) (k : AssetKey) (i : String) : Option Bool :=
  past.foldl (fun s e => amend (e.gives? k i) s) none

def raised (accountKey : String) (past : List Event) : List Statement :=
  past.flatMap fun
    | upsert p => p.raises accountKey
    | retire _ => []

def isNamed (past : List Event) (i : String) : Bool := past.any fun e => (e.names? i).isSome

/-- Whether a team but the given one owns an asset after events. -/
def isShared (past : List Event) (k : AssetKey) (i : String) : Bool :=
  past.any fun
    | upsert p => p.team.id ≠ i ∧ ownedAfter past k p.team.id = some true
    | retire _ => false

/-- **The word of an event on a statement**, after events. -/
def wordAfter (accountKey : String) (past : List Event) : Event → Statement → Option Bool
  | upsert p, s => if s ∈ p.raises accountKey then some true else none
  | retire r, s =>
    if (.asset r.asset ∈ raised accountKey past && isNamed past r.teamId) &&
        (s = .owner r.asset r.teamId || (!isShared past r.asset r.teamId && s.isAt r.asset)) then some false
    else none

/-- **The last word of events on a statement**, after those before them. -/
def lastWord (accountKey : String) (s : Statement) : (past es : List Event) → Option Bool
  | _, [] => none
  | past, e :: es => (lastWord accountKey s (past ++ [e]) es).or (e.wordAfter accountKey past s)

variable {accountKey : String} {past past' es : List Event} {s : Statement}

theorem mem_raised_iff : s ∈ raised accountKey past ↔ ∃ p, upsert p ∈ past ∧ s ∈ p.raises accountKey := by
  rw [raised, List.mem_flatMap]
  constructor
  · rintro ⟨p | r, he, hs⟩
    · exact ⟨p, he, hs⟩
    · cases hs
  · rintro ⟨p, he, hs⟩
    exact ⟨upsert p, he, hs⟩

theorem isNamed_iff {i : String} : isNamed past i = true ↔ ∃ p, upsert p ∈ past ∧ p.team.id = i := by
  rw [isNamed, List.any_eq_true]
  constructor
  · rintro ⟨e, he, hi⟩
    obtain ⟨p, rfl, hp⟩ := isSome_names?_iff.1 hi
    exact ⟨p, he, hp⟩
  · rintro ⟨p, he, hp⟩
    exact ⟨upsert p, he, isSome_names?_iff.2 ⟨p, rfl, hp⟩⟩

theorem ownedAfter_append (past es : List Event) (k : AssetKey) (i : String) :
    ownedAfter (past ++ es) k i = es.foldl (fun s e => amend (e.gives? k i) s) (ownedAfter past k i) :=
  List.foldl_append

/-- Whoever owns has been given the asset. -/
theorem exists_upsert_of_ownedAfter {k : AssetKey} {i : String} (h : ownedAfter past k i = some true) :
    ∃ p, upsert p ∈ past ∧ p.team.id = i := by
  induction past using List.reverseRecOn with
  | nil => cases h
  | append_singleton past e ih =>
    rw [ownedAfter_append, List.foldl_cons, List.foldl_nil] at h
    cases e with
    | upsert p =>
      rw [gives?] at h
      by_cases hp : p.assetKey = k ∧ p.team.id = i
      · exact ⟨p, List.mem_append_right _ List.mem_cons_self, hp.2⟩
      · rw [if_neg hp] at h
        obtain ⟨q, hq, hi⟩ := ih h
        exact ⟨q, List.mem_append_left _ hq, hi⟩
    | retire r =>
      rw [gives?] at h
      by_cases hr : r.asset = k ∧ r.teamId = i
      · rw [if_pos hr, Statement.amend_false, Option.map_eq_some_iff] at h
        obtain ⟨_, -, hf⟩ := h
        cases hf
      · rw [if_neg hr] at h
        obtain ⟨q, hq, hi⟩ := ih h
        exact ⟨q, List.mem_append_left _ hq, hi⟩

theorem isShared_iff {k : AssetKey} {i : String} :
    isShared past k i = true ↔ ∃ i', i' ≠ i ∧ ownedAfter past k i' = some true := by
  rw [isShared, List.any_eq_true]
  constructor
  · rintro ⟨p | r, -, hs⟩
    · exact ⟨p.team.id, of_decide_eq_true hs⟩
    · cases hs
  · rintro ⟨i', hne, hi'⟩
    obtain ⟨p, hp, rfl⟩ := exists_upsert_of_ownedAfter hi'
    exact ⟨upsert p, hp, decide_eq_true ⟨hne, hi'⟩⟩

theorem lastWord_append (accountKey : String) (s : Statement) (past es es' : List Event) :
    lastWord accountKey s past (es ++ es') =
      (lastWord accountKey s (past ++ es) es').or (lastWord accountKey s past es) := by
  induction es generalizing past with
  | nil => simp [lastWord]
  | cons e es ih =>
    rw [List.cons_append, lastWord, lastWord, ih, Option.or_assoc, List.append_assoc, List.singleton_append]

theorem lastWord_concat (accountKey : String) (s : Statement) (past es : List Event) (e : Event) :
    lastWord accountKey s past (es ++ [e]) =
      (e.wordAfter accountKey (past ++ es) s).or (lastWord accountKey s past es) := by
  rw [lastWord_append]
  simp [lastWord]

theorem isSome_lastWord {p : Payload} (hp : upsert p ∈ es) (hs : s ∈ p.raises accountKey) :
    (lastWord accountKey s past es).isSome = true := by
  induction es generalizing past with
  | nil => cases hp
  | cons e es ih =>
    rw [lastWord, Option.isSome_or, Bool.or_eq_true]
    rcases List.mem_cons.1 hp with rfl | hp
    · refine .inr ?_
      rw [wordAfter, if_pos hs]
      rfl
    · exact .inl (ih hp)

/-! ## Pasts that come to the same -/

/-- **Two pasts in which events have the same words.** -/
structure Matches (past past' : List Event) : Prop where
  owned : ∀ k i, ownedAfter past' k i = ownedAfter past k i
  upserts : ∀ p, upsert p ∈ past' ↔ upsert p ∈ past

theorem Matches.wordAfter (h : Matches past past') (accountKey : String) (e : Event) (s : Statement) :
    e.wordAfter accountKey past' s = e.wordAfter accountKey past s := by
  have hraised : ∀ s, s ∈ raised accountKey past' ↔ s ∈ raised accountKey past := fun s => by
    rw [mem_raised_iff, mem_raised_iff]
    simp only [h.upserts]
  have hnamed : ∀ i, isNamed past' i = isNamed past i := fun i => by
    rw [Bool.eq_iff_iff, isNamed_iff, isNamed_iff]
    simp only [h.upserts]
  have hshared : ∀ k i, isShared past' k i = isShared past k i := fun k i => by
    rw [Bool.eq_iff_iff, isShared_iff, isShared_iff]
    simp only [h.owned]
  cases e with
  | upsert p => rfl
  | retire r => simp only [Event.wordAfter, hraised, hnamed, hshared]

theorem Matches.append (h : Matches past past') (es : List Event) : Matches (past ++ es) (past' ++ es) where
  owned := by
    intro k i
    rw [ownedAfter_append, ownedAfter_append, h.owned]
  upserts := by
    intro p
    rw [List.mem_append, List.mem_append, h.upserts]

theorem Matches.lastWord (h : Matches past past') (accountKey : String) (s : Statement) (es : List Event) :
    lastWord accountKey s past' es = Event.lastWord accountKey s past es := by
  induction es generalizing past past' with
  | nil => rfl
  | cons e es ih => rw [Event.lastWord, Event.lastWord, ih (h.append [e]), h.wordAfter]

theorem isSome_foldl_amend (word : Event → Option Bool) (es : List Event) (before : Option Bool) :
    (es.foldl (fun s e => amend (word e) s) before).isSome =
      (es.any (fun e => word e = some true) || before.isSome) := by
  induction es generalizing before with
  | nil => rfl
  | cons e es ih =>
    rw [List.foldl_cons, ih, Statement.isSome_amend, List.any_cons, Bool.or_left_comm, Bool.or_assoc]

/-- Words said twice over leave what they leave once. -/
theorem foldl_amend_self (word : Event → Option Bool) (es : List Event) (before : Option Bool) :
    es.foldl (fun s e => amend (word e) s) (es.foldl (fun s e => amend (word e) s) before) =
      es.foldl (fun s e => amend (word e) s) before := by
  induction es using List.reverseRecOn with
  | nil => rfl
  | append_singleton es e ih =>
    simp only [List.foldl_concat]
    cases word e with
    | none => exact ih
    | some w =>
      cases w with
      | true => rfl
      | false =>
        -- what has ended is there as before, and no more
        have hmap : ∀ x y : Option Bool, x.isSome = y.isSome →
            x.map (fun _ => false) = y.map fun _ => false := by
          intro x y hxy
          cases x <;> cases y <;> first | rfl | cases hxy
        rw [Statement.amend_false, Statement.amend_false]
        refine hmap _ _ ?_
        rw [isSome_foldl_amend, Option.isSome_map, isSome_foldl_amend, ← Bool.or_assoc, Bool.or_self]

/-- Names given twice over are those given once. -/
theorem foldl_names_self (es : List Event) (i : String) (before : Option String) :
    es.foldl (fun s e => (e.names? i).or s) (es.foldl (fun s e => (e.names? i).or s) before) =
      es.foldl (fun s e => (e.names? i).or s) before := by
  have hfold : ∀ before : Option String, es.foldl (fun s e => (e.names? i).or s) before =
      (es.foldl (fun s e => (e.names? i).or s) none).or before := by
    intro before
    induction es using List.reverseRecOn generalizing before with
    | nil => rfl
    | append_singleton es e ih =>
      simp only [List.foldl_concat]
      rw [ih before, Option.or_assoc]
  rw [hfold (es.foldl _ before), hfold before, ← Option.or_assoc, Option.or_self]

/-- **A past with its last stretch twice is as good as the past.** -/
theorem matches_repeat (past es : List Event) : Matches (past ++ es) (past ++ es ++ es) where
  owned := by
    intro k i
    rw [ownedAfter_append, ownedAfter_append, foldl_amend_self]
  upserts := by
    intro p
    simp only [List.mem_append, or_assoc, or_self]

end Event

namespace Graph

open Statement (amend)
open Event (ownedAfter raised isNamed isShared lastWord Matches)

variable {accountKey : String} {es pre mid post : List Event} {g g' : Graph}

/-- **The words of events are read off the events before them.** -/
theorem Loaded.word_eq (h : Loaded accountKey es g) (e : Event) (s : Statement) :
    e.word accountKey g s = e.wordAfter accountKey es s := by
  cases e with
  | upsert p => rfl
  | retire r =>
    have hraised : (g.assetId? r.asset).isSome = decide (.asset r.asset ∈ raised accountKey es) := by
      rw [Bool.eq_iff_iff, decide_eq_true_eq, Event.mem_raised_iff, ← h.isSome_holds?, assetId?, holds?,
        Option.isSome_map, Option.isSome_map]
    have hnamed : (g.teamId? r.teamId).isSome = isNamed es r.teamId := by
      rw [Bool.eq_iff_iff, Event.isNamed_iff, ← h.isSome_teamName?, teamId?, Graph.teamName?,
        Option.isSome_map, Option.isSome_map]
    rw [Event.word, Event.wordAfter, ← hraised, ← hnamed, Retirement.ends]
    cases ha : g.assetId? r.asset with
    | none => rfl
    | some a =>
      cases ht : g.teamId? r.teamId with
      | none => rfl
      | some t =>
        have hshared : g.isOwnedByOthers a t = isShared es r.asset r.teamId := by
          rw [Bool.eq_iff_iff, Event.isOwnedByOthers_iff h.sound.toIsKeyed ha ht, Event.isShared_iff]
          simp only [h.holds?_owner]
          exact Iff.rfl
        simp only [hshared, Option.isSome_some, Bool.true_and]

/-- **What a graph tells of a statement is the last word on it**, if it has ever been raised. -/
theorem Loaded.holds?_eq (h : Loaded accountKey es g) (s : Statement) :
    g.holds? s = if s ∈ raised accountKey es then lastWord accountKey s [] es else none := by
  induction h with
  | empty => cases s <;> rfl
  | @load es g h now e hn hv ih =>
    have hraised : s ∈ raised accountKey (es ++ [e]) ↔
        s ∈ raised accountKey es ∨ e.word accountKey g s = some true := by
      rw [Event.mem_raised_iff, Event.mem_raised_iff, Event.word_eq_some_true_iff]
      simp only [List.mem_append, List.mem_singleton, or_and_right, exists_or]
    rw [Event.holds?_effect h.sound accountKey hn, Event.lastWord_concat, List.nil_append, ← h.word_eq]
    simp only [hraised]
    rcases e.word accountKey g s with _ | _ | _
    · simp [ih]
    · by_cases hr : s ∈ raised accountKey es
      · obtain ⟨b, hb⟩ := Option.isSome_iff_exists.1 ((h.isSome_holds? s).2 (Event.mem_raised_iff.1 hr))
        rw [hb, if_pos (.inl hr)]
        rfl
      · rw [ih, if_neg hr, if_neg fun h => h.elim hr (by rintro ⟨⟩)]
        rfl
    · simp

/-! ## Stretches loaded again -/

/-- **Loading a stretch of a history again.**  Teams and their names, ownerships, which assets and edges
there are, and whether assets that are no accounts carry the sentinel, all come out as if it had been
loaded once.  The graph tells the same exactly if, on everything that was there before and on which no
event afterwards has a word, the last word of the repeated events, if any, is the one that it had. -/
theorem Loaded.repeated (h : Loaded accountKey (pre ++ mid ++ post) g)
    (h' : Loaded accountKey (pre ++ mid ++ mid ++ post) g') :
    (∀ i, g'.teamName? i = g.teamName? i) ∧
    (∀ k i, g'.holds? (.owner k i) = g.holds? (.owner k i)) ∧
    (∀ s, (g'.holds? s).isSome = (g.holds? s).isSome) ∧
    (∀ k : AssetKey, k.type ≠ Account.assetType → g'.holds? (.asset k) = g.holds? (.asset k)) ∧
    (g.TellsAlike g' ↔ ∀ s ∈ raised accountKey (pre ++ mid),
      lastWord accountKey s (pre ++ mid) post = none →
      ∀ b, lastWord accountKey s (pre ++ mid) mid = some b →
        lastWord accountKey s [] (pre ++ mid) = some b) := by
  have hmatch : Matches (pre ++ mid) (pre ++ mid ++ mid) := Event.matches_repeat pre mid
  have hall : Matches (pre ++ mid ++ post) (pre ++ mid ++ mid ++ post) := hmatch.append post
  have hnames : ∀ i, g'.teamName? i = g.teamName? i := by
    intro i
    rw [h'.teamName?, h.teamName?]
    simp only [List.foldl_append]
    rw [Event.foldl_names_self]
  have howner : ∀ k i, g'.holds? (.owner k i) = g.holds? (.owner k i) := by
    intro k i
    rw [h'.holds?_owner, h.holds?_owner]
    exact hall.owned k i
  have hthere : ∀ s, (g'.holds? s).isSome = (g.holds? s).isSome := by
    intro s
    rw [Bool.eq_iff_iff, h'.isSome_holds?, h.isSome_holds?]
    simp only [hall.upserts]
  refine ⟨hnames, howner, hthere, ?_, ?_⟩
  · intro k hk
    cases hb : g.holds? (.asset k) with
    | none =>
      have hs := hthere (.asset k)
      rw [hb] at hs
      exact Option.not_isSome_iff_eq_none.1 (by rw [hs]; exact Bool.false_ne_true)
    | some b =>
      have hs := hthere (.asset k)
      rw [hb] at hs
      obtain ⟨b', hb'⟩ := Option.isSome_iff_exists.1 hs
      have hkept := h.isKept k hk b hb
      have hkept' := h'.isKept k hk b' hb'
      simp only [howner] at hkept'
      rw [hb', Bool.eq_iff_iff.2 (hkept'.trans hkept.symm)]
  · rw [tellsAlike_iff h.sound.toIsKeyed h'.sound.toIsKeyed]
    have hraised : ∀ s, s ∈ raised accountKey (pre ++ mid ++ mid ++ post) ↔
        s ∈ raised accountKey (pre ++ mid ++ post) := by
      intro s
      rw [Event.mem_raised_iff, Event.mem_raised_iff]
      simp only [hall.upserts]
    have hword : ∀ s, lastWord accountKey s [] (pre ++ mid ++ post) =
        (lastWord accountKey s (pre ++ mid) post).or (lastWord accountKey s [] (pre ++ mid)) :=
      fun s => Event.lastWord_append accountKey s [] (pre ++ mid) post
    have hword' : ∀ s, lastWord accountKey s [] (pre ++ mid ++ mid ++ post) =
        (lastWord accountKey s (pre ++ mid) post).or
          ((lastWord accountKey s (pre ++ mid) mid).or (lastWord accountKey s [] (pre ++ mid))) := by
      intro s
      rw [Event.lastWord_append, List.nil_append, hmatch.lastWord, Event.lastWord_append accountKey s [] _ mid,
        List.nil_append]
    have hone : ∀ s, g'.holds? s = g.holds? s ↔ (s ∈ raised accountKey (pre ++ mid) →
        lastWord accountKey s (pre ++ mid) post = none →
        ∀ b, lastWord accountKey s (pre ++ mid) mid = some b →
          lastWord accountKey s [] (pre ++ mid) = some b) := by
      intro s
      rw [h'.holds?_eq, h.holds?_eq, hword, hword']
      simp only [hraised]
      cases hpost : lastWord accountKey s (pre ++ mid) post with
      | some w => simp
      | none =>
        have hr : s ∈ raised accountKey (pre ++ mid ++ post) ↔ s ∈ raised accountKey (pre ++ mid) := by
          rw [Event.mem_raised_iff, Event.mem_raised_iff]
          constructor
          · rintro ⟨p, hp, hs⟩
            rcases List.mem_append.1 hp with hp | hp
            · exact ⟨p, hp, hs⟩
            · have hsome : (lastWord accountKey s (pre ++ mid) post).isSome = true :=
                Event.isSome_lastWord hp hs
              rw [hpost] at hsome
              cases hsome
          · rintro ⟨p, hp, hs⟩
            exact ⟨p, List.mem_append_left _ hp, hs⟩
        simp only [hr]
        by_cases hs : s ∈ raised accountKey (pre ++ mid)
        · rw [if_pos hs, if_pos hs]
          cases lastWord accountKey s (pre ++ mid) mid with
          | none => simp
          | some w =>
            simp only [hs, Option.none_or, Option.some_or, Option.some.injEq, forall_const, forall_eq']
            exact eq_comm
        · rw [if_neg hs, if_neg hs]
          exact iff_of_true rfl fun h => absurd h hs
    exact ⟨fun ha s => (hone s).1 (ha.1 s), fun hw => ⟨fun s => (hone s).2 (hw s), hnames⟩⟩

end Graph

end AssetGraph
