import AssetGraph.Proofs.Event.Decoding
/-!
# Metadata entries that hold nothing

A message with its empty entries taken out (`withoutEmpty`) has under each key what the last entry that is
not empty holds (`metadataValue?_withoutEmpty`).  The message itself is read by its last entry, and then an
empty one is refused.  So the two are read alike under every key but those of which the last entry is empty
and another is not (`Hides`, `requiredMetadata_withoutEmpty_iff`), and they are the same event unless the
first key that cannot be read is such a one (`event?_passes_over_empty_entries_iff`).
-/
namespace AssetGraph

namespace Message

/-- The message without the entries that hold nothing. -/
def withoutEmpty (m : Message) : Message := { m with metadata := m.metadata.filter fun e => !e.2.isEmpty }

/-- The last entry under a key holds nothing, and another one does hold something. -/
def Hides (m : Message) (key : String) : Prop :=
  m.metadataValue? key = some [] ∧ ∃ v, (key, v) ∈ m.metadata ∧ v ≠ []

variable {m : Message} {key : String} {major : Nat}

/-- **What is left under a key** is the last entry that is not empty. -/
theorem metadataValue?_withoutEmpty (m : Message) (key : String) : m.withoutEmpty.metadataValue? key =
    (m.metadata.reverse.find? fun e => !e.2.isEmpty && e.1 == key).map (·.2) := by
  rw [metadataValue?, withoutEmpty, ← List.filter_reverse, List.find?_filter]
  simp only [Bool.decide_and, Bool.decide_eq_true]

theorem metadataValue?_withoutEmpty_eq_none_iff :
    m.withoutEmpty.metadataValue? key = none ↔ ∀ v, (key, v) ∈ m.metadata → v = [] := by
  rw [metadataValue?_eq_none_iff]
  simp only [withoutEmpty, List.mem_filter, Bool.not_eq_true', List.isEmpty_eq_false_iff, ne_eq, and_imp, Prod.forall]
  constructor
  · intro h v hv
    by_contra hne
    exact h key v hv hne rfl
  · rintro h k v hv hne rfl
    exact hne (h v hv)

/-- Nothing is left under a key but entries that hold something. -/
theorem ne_nil_of_metadataValue?_withoutEmpty {v : Bytes} (h : m.withoutEmpty.metadataValue? key = some v) :
    v ≠ [] ∧ (key, v) ∈ m.metadata := by
  rw [metadataValue?_withoutEmpty, Option.map_eq_some_iff] at h
  obtain ⟨⟨k, w⟩, he, rfl⟩ := h
  have hw := List.find?_some he
  simp only [Bool.and_eq_true, Bool.not_eq_true', List.isEmpty_eq_false_iff, beq_iff_eq] at hw
  obtain ⟨hne, rfl⟩ := hw
  exact ⟨hne, List.mem_reverse.1 (List.mem_of_find?_eq_some he)⟩

/-- A last entry that holds something is still the last one. -/
theorem metadataValue?_withoutEmpty_of_ne_nil {v : Bytes} (h : m.metadataValue? key = some v) (hv : v ≠ []) :
    m.withoutEmpty.metadataValue? key = some v := by
  rw [metadataValue?, Option.map_eq_some_iff] at h
  obtain ⟨e, he, rfl⟩ := h
  obtain ⟨hkey, before, after, hl, hbefore⟩ := List.find?_eq_some_iff_append.1 he
  have hfind : m.metadata.reverse.find? (fun e => !e.2.isEmpty && e.1 == key) = some e := by
    refine List.find?_eq_some_iff_append.2 ⟨?_, before, after, hl, fun a ha => ?_⟩
    · rw [hkey, Bool.and_true, Bool.not_eq_true', List.isEmpty_eq_false_iff]
      exact hv
    · have := hbefore a ha
      simp_all
  rw [metadataValue?_withoutEmpty, hfind]
  rfl

/-- **The two are read alike under a key exactly if the message does not hide anything there.** -/
theorem requiredMetadata_withoutEmpty_iff :
    m.withoutEmpty.requiredMetadata key = m.requiredMetadata key ↔ ¬ m.Hides key := by
  cases hv : m.metadataValue? key with
  | none =>
    have hnone : m.withoutEmpty.metadataValue? key = none := by
      rw [metadataValue?_eq_none_iff] at hv
      exact metadataValue?_withoutEmpty_eq_none_iff.2 fun v hm => absurd rfl (hv _ hm)
    refine iff_of_true (by rw [requiredMetadata, requiredMetadata, hv, hnone]) ?_
    rintro ⟨hnil, -⟩
    rw [hv] at hnil
    cases hnil
  | some v =>
    by_cases hnil : v = []
    · subst hnil
      cases hw : m.withoutEmpty.metadataValue? key with
      | none =>
        refine iff_of_true (by rw [requiredMetadata, requiredMetadata, hv, hw]) ?_
        rintro ⟨-, w, hm, hne⟩
        exact hne (metadataValue?_withoutEmpty_eq_none_iff.1 hw w hm)
      | some w =>
        obtain ⟨hne, hm⟩ := ne_nil_of_metadataValue?_withoutEmpty hw
        refine iff_of_false ?_ (not_not.2 ⟨hv, w, hm, hne⟩)
        obtain ⟨b, bs, rfl⟩ := List.exists_cons_of_ne_nil hne
        rw [requiredMetadata, requiredMetadata, hv, hw]
        simp only
        cases Utf8.decode (b :: bs) <;> simp
    · have hw := metadataValue?_withoutEmpty_of_ne_nil hv hnil
      refine iff_of_true (by rw [requiredMetadata, requiredMetadata, hv, hw]) ?_
      rintro ⟨hempty, -⟩
      rw [hv, Option.some.injEq] at hempty
      exact hnil hempty

theorem requiredMetadata_withoutEmpty_missing_iff :
    m.withoutEmpty.requiredMetadata key = .error (.missingMetadata key) ↔ ∀ v, (key, v) ∈ m.metadata → v = [] := by
  rw [← metadataValue?_withoutEmpty_eq_none_iff, requiredMetadata]
  cases hw : m.withoutEmpty.metadataValue? key with
  | none => exact iff_of_true rfl rfl
  | some w =>
    obtain ⟨b, bs, rfl⟩ := List.exists_cons_of_ne_nil (ne_nil_of_metadataValue?_withoutEmpty hw).1
    simp only
    cases Utf8.decode (b :: bs) <;> simp

/-- Whoever hides something is read as if nothing were there. -/
theorem Hides.requiredMetadata (h : m.Hides key) : m.requiredMetadata key = .error (.missingMetadata key) := by
  rw [Message.requiredMetadata, h.1]

theorem eq_of_requiredMetadata_missing {k : String} (h : m.requiredMetadata key = .error (.missingMetadata k)) :
    k = key := by
  rw [requiredMetadata] at h
  split at h
  · cases h
    rfl
  · cases h
    rfl
  · split at h <;> cases h

/-- **All entries that are needed are read, or there is a first that is not.** -/
theorem reads_or_stops (m : Message) : (∀ key ∈ requiredKeys, ∃ text, m.requiredMetadata key = .ok text) ∨
    ∃ pre key post e, requiredKeys = pre ++ key :: post ∧ (∀ k ∈ pre, ∃ text, m.requiredMetadata k = .ok text) ∧
      m.requiredMetadata key = .error e := by
  generalize requiredKeys = keys
  induction keys with
  | nil => exact .inl (by simp)
  | cons k keys ih =>
    cases hk : m.requiredMetadata k with
    | error e => exact .inr ⟨[], k, keys, e, rfl, by simp, hk⟩
    | ok text =>
      rcases ih with hall | ⟨pre, key, post, e, rfl, hpre, he⟩
      · exact .inl (List.forall_mem_cons.2 ⟨⟨text, hk⟩, hall⟩)
      · exact .inr ⟨k :: pre, key, post, e, rfl, List.forall_mem_cons.2 ⟨⟨text, hk⟩, hpre⟩, he⟩

/-- What a message is said to lack cannot be read there. -/
theorem requiredMetadata_of_event?_missing (h : m.event? major = .error (.missingMetadata key)) :
    m.requiredMetadata key = .error (.missingMetadata key) := by
  rcases m.reads_or_stops with hall | ⟨pre, k, post, e, hk, hpre, he⟩
  · obtain ⟨version, hv⟩ := hall "version" (by decide)
    obtain ⟨type, ht⟩ := hall "type" (by decide)
    obtain ⟨identifier, hi⟩ := hall "identifier" (by decide)
    rw [event?_of_ok hv ht hi] at h
    split at h
    · rcases eventOf_ok_or_error { type, identifier } m with ⟨e, he⟩ | ⟨fault, hf⟩
      · rw [he] at h
        cases h
      · rw [hf] at h
        cases h
    · cases h
  · rw [event?_of_error hk hpre he, Except.error.injEq] at h
    subst h
    rw [eq_of_requiredMetadata_missing he]
    exact eq_of_requiredMetadata_missing he ▸ he

/-- **When empty entries are passed over.**  Take any message, with any entries in any order and any number of
them under one key.  Without its empty entries it is read, under each key, by the last entry that is not empty,
and a key is missed only where no entry is such a one.  The message itself is read so under a key exactly if it
does not hide anything there: if the last entry is not empty, or all of them are.  And it says the same as
without its empty entries exactly if, of the keys that every event needs, the first that cannot be read does not
hide anything. -/
theorem event?_passes_over_empty_entries_iff (m : Message) (major : Nat) :
    (∀ key, m.withoutEmpty.metadataValue? key =
        (m.metadata.reverse.find? fun e => !e.2.isEmpty && e.1 == key).map (·.2) ∧
      (m.withoutEmpty.requiredMetadata key = .error (.missingMetadata key) ↔
        ∀ v, (key, v) ∈ m.metadata → v = []) ∧
      (m.requiredMetadata key = m.withoutEmpty.requiredMetadata key ↔ ¬ m.Hides key)) ∧
    (m.event? major = m.withoutEmpty.event? major ↔ ∀ pre key post, requiredKeys = pre ++ key :: post →
      (∀ k ∈ pre, ∃ text, m.requiredMetadata k = .ok text) → ¬ m.Hides key) := by
  refine ⟨fun key => ⟨metadataValue?_withoutEmpty m key, requiredMetadata_withoutEmpty_missing_iff,
    eq_comm.trans requiredMetadata_withoutEmpty_iff⟩, fun h pre key post hk hpre hhides => ?_, fun h => ?_⟩
  · -- what is hidden is missed; without the empty entries it is not
    rw [event?_of_error hk hpre hhides.requiredMetadata] at h
    have hmissing := requiredMetadata_of_event?_missing h.symm
    rw [← hhides.requiredMetadata] at hmissing
    exact requiredMetadata_withoutEmpty_iff.1 hmissing hhides
  · rcases m.reads_or_stops with hall | ⟨pre, key, post, e, hk, hpre, he⟩
    · refine (event?_congr (fun key hkey => requiredMetadata_withoutEmpty_iff.2 ?_) rfl (fun _ => rfl) major).symm
      rintro hhides
      obtain ⟨text, htext⟩ := hall key hkey
      rw [hhides.requiredMetadata] at htext
      cases htext
    · have hsame (k : String) (hread : ¬ m.Hides k) := requiredMetadata_withoutEmpty_iff.2 hread
      have hpre' : ∀ k ∈ pre, ∃ text, m.withoutEmpty.requiredMetadata k = .ok text := by
        intro k hmem
        obtain ⟨text, htext⟩ := hpre k hmem
        refine ⟨text, (hsame k fun hhides => ?_).trans htext⟩
        rw [hhides.requiredMetadata] at htext
        cases htext
      have he' := (hsame key (h pre key post hk hpre)).trans he
      rw [event?_of_error hk hpre he, event?_of_error hk hpre' he']

/-- **An entry that is hidden**: the version is given, and then once more without a value. -/
theorem event?_misses_a_hidden_version :
    let m : Message :=
      { key := Utf8.encode "t1/a1", position := { topic := "assets" }
        metadata := [("version", Utf8.encode "0.1.0"), ("type", Utf8.encode "Hostname"),
          ("identifier", Utf8.encode "h.example.com"), ("version", [])] }
    let r : Retirement :=
      { asset := { type := "Hostname", identifier := "h.example.com" }, teamId := "t1", assetId := "a1" }
    m.event? 0 = .error (.missingMetadata "version") ∧ m.withoutEmpty.event? 0 = .ok (some (.retire r)) ∧
      ¬ ∀ (major : Nat) (m : Message), m.event? major = m.withoutEmpty.event? major := by
  intro m r
  have hm : m.event? 0 = .error (.missingMetadata "version") := by decide +kernel
  have hr : m.withoutEmpty.event? 0 = .ok (some (.retire r)) := by decide +kernel
  refine ⟨hm, hr, fun hall => ?_⟩
  have := (hm.symm.trans (hall 0 m)).trans hr
  cases this

end Message

end AssetGraph
