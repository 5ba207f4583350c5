import AssetGraph.Event.Basic
import AssetGraph.Proofs.Except
import AssetGraph.Proofs.Graph.Keyed
/-!
# What is decoded

Each check between a message and its event is said by what it lets through: an entry of the metadata
(`requiredMetadata_eq_ok_iff`), a payload (`payloadOf_eq_ok_iff`), a tombstone's key (`keyParts_eq_ok_iff`).
The checks come one after the other, and the first that fails decides (`event?_of_error`, `event?_of_ok`);
together they say which event a message is, if any (`event?_reads_exactly`).  An event names its asset.  A
team it names, too, but for a tombstone whose key begins with the slash
(`event?_is_keyed_unless_a_slash_leads`).
-/
namespace AssetGraph

namespace Message

/-! ## Metadata -/

/-- **The entries that every event needs**, in the order in which they are read. -/
def requiredKeys : List String := ["version", "type", "identifier"]

/-- There is a text under a key, and not the empty one. -/
def Tells (m : Message) (key text : String) : Prop := (key, Utf8.encode text) ∈ m.metadata ∧ text ≠ ""

/-- There is nothing under a key, or nothing but no bytes. -/
def Lacks (m : Message) (key : String) : Prop := ∀ v, (key, v) ∈ m.metadata → v = []

/-- What is under a key is no text. -/
def Garbles (m : Message) (key : String) : Prop :=
  ∃ v, (key, v) ∈ m.metadata ∧ ∀ text, v ≠ Utf8.encode text

variable {m m' : Message} {key text : String} {major : Nat}

theorem metadataValue?_eq_some_iff (h : (m.metadata.map Prod.fst).Nodup) {v : Bytes} :
    m.metadataValue? key = some v ↔ (key, v) ∈ m.metadata := by
  have hrev : (m.metadata.reverse.map Prod.fst).Nodup := by
    rw [List.map_reverse]
    exact List.nodup_reverse.2 h
  have hfind {e : String × Bytes} : m.metadata.reverse.find? (fun e => e.1 == key) = some e ↔
      e ∈ m.metadata ∧ e.1 = key := by
    rw [← List.mem_reverse]
    exact Graph.find?_key_eq_some_iff hrev
  simp only [metadataValue?, Option.map_eq_some_iff, hfind]
  constructor
  · rintro ⟨⟨k, w⟩, ⟨hm, rfl⟩, rfl⟩
    exact hm
  · exact fun hm => ⟨(key, v), ⟨hm, rfl⟩, rfl⟩

/-- **An entry that is read** is a text that is not empty. -/
theorem requiredMetadata_eq_ok_iff :
    m.requiredMetadata key = .ok text ↔ m.metadataValue? key = some (Utf8.encode text) ∧ text ≠ "" := by
  rw [requiredMetadata]
  rcases m.metadataValue? key with _ | _ | ⟨b, bs⟩
  · exact iff_of_false (by rintro ⟨⟩) (by rintro ⟨⟨⟩, -⟩)
  · refine iff_of_false (by rintro ⟨⟩) ?_
    rintro ⟨hnil, hne⟩
    exact hne (Utf8.encode_eq_nil_iff.1 (Option.some.inj hnil).symm)
  · have hbytes : Utf8.decode (b :: bs) = .ok text ↔ some (b :: bs) = some (Utf8.encode text) := by
      rw [Utf8.decode_eq_ok_iff, Option.some.injEq]
    have hne (h : some (b :: bs) = some (Utf8.encode text)) : text ≠ "" := by
      rintro rfl
      cases h
    rw [← hbytes] at hne ⊢
    simp only
    cases hd : Utf8.decode (b :: bs) with
    | error fault => exact iff_of_false (by rintro ⟨⟩) (by rintro ⟨⟨⟩, -⟩)
    | ok s =>
      rw [hd] at hne
      simp only [Except.ok.injEq] at hne ⊢
      exact ⟨fun h => ⟨h, hne h⟩, And.left⟩

section Unique

variable (h : (m.metadata.map Prod.fst).Nodup)
include h

/-- **An entry is read exactly if it is told.** -/
theorem requiredMetadata_eq_ok_iff_tells : m.requiredMetadata key = .ok text ↔ m.Tells key text :=
  requiredMetadata_eq_ok_iff.trans (and_congr_left fun _ => metadataValue?_eq_some_iff h)

theorem requiredMetadata_of_lacks (hl : m.Lacks key) : m.requiredMetadata key = .error (.missingMetadata key) := by
  rw [requiredMetadata]
  cases hv : m.metadataValue? key with
  | none => rfl
  | some v =>
    rw [hl v ((metadataValue?_eq_some_iff h).1 hv)]

theorem requiredMetadata_of_garbles (hg : m.Garbles key) :
    ∃ fault, m.requiredMetadata key = .error (.parse (.metadataText key fault)) := by
  obtain ⟨v, hm, hv⟩ := hg
  rw [requiredMetadata, (metadataValue?_eq_some_iff h).2 hm]
  cases v with
  | nil => exact absurd rfl (hv "")
  | cons b bs =>
    cases hd : Utf8.decode (b :: bs) with
    | error fault => exact ⟨fault, by simp only [hd]⟩
    | ok s => exact absurd (Utf8.decode_eq_ok_iff.1 hd) (hv s)

end Unique

theorem lacks_or_garbles_or_tells (m : Message) (key : String) :
    m.Lacks key ∨ m.Garbles key ∨ ∃ text, m.Tells key text := by
  by_cases hl : m.Lacks key
  · exact .inl hl
  · simp only [Lacks, not_forall] at hl
    obtain ⟨v, hm, hv⟩ := hl
    by_cases hg : ∀ text, v ≠ Utf8.encode text
    · exact .inr (.inl ⟨v, hm, hg⟩)
    · simp only [ne_eq, not_forall, not_not] at hg
      obtain ⟨text, rfl⟩ := hg
      exact .inr (.inr ⟨text, hm, fun he => hv (Utf8.encode_eq_nil_iff.2 he)⟩)

/-! ## Payloads and keys -/

theorem emptyField?_eq_none_iff {p : Payload} :
    emptyField? p = none ↔ p.assetType ≠ "" ∧ p.identifier ≠ "" ∧ p.team.id ≠ "" := by
  simp [emptyField?]

/-- **A payload is taken exactly if it is one and names what it is about.** -/
theorem payloadOf_eq_ok_iff {asset : AssetKey} {value : Bytes} {p : Payload} :
    payloadOf asset value = .ok p ↔
      Payload.decode value = .ok p ∧ p.assetType ≠ "" ∧ p.identifier ≠ "" ∧ p.team.id ≠ "" := by
  rw [← emptyField?_eq_none_iff, payloadOf]
  cases hd : Payload.decode value with
  | error fault => exact iff_of_false (by rintro ⟨⟩) (by rintro ⟨⟨⟩, -⟩)
  | ok q =>
    cases hf : emptyField? q with
    | none =>
      simp only [hf, Except.ok.injEq]
      constructor
      · rintro rfl
        exact ⟨rfl, hf⟩
      · exact And.left
    | some field =>
      simp only [hf]
      refine iff_of_false (by rintro ⟨⟩) ?_
      rintro ⟨⟨⟩, hnone⟩
      rw [hf] at hnone
      cases hnone

theorem payloadOf_ok_or_error (asset : AssetKey) (value : Bytes) :
    (∃ p, payloadOf asset value = .ok p) ∨ ∃ fault, payloadOf asset value = .error (.parse fault) := by
  unfold payloadOf
  split
  · exact .inr ⟨_, rfl⟩
  · split
    · exact .inr ⟨_, rfl⟩
    · exact .inl ⟨_, rfl⟩

/-- **A key is two parts with a slash between them**, neither of which holds one. -/
theorem keyParts_eq_ok_iff {bs : Bytes} {team asset : String} : keyParts bs = .ok (team, asset) ↔
    bs = Utf8.encode (team ++ "/" ++ asset) ∧ '/' ∉ team.toList ∧ '/' ∉ asset.toList := by
  have hslash : (team ++ "/" ++ asset).toList = team.toList ++ '/' :: asset.toList := by simp
  rw [← Utf8.decode_eq_ok_iff, keyParts]
  cases hd : Utf8.decode bs with
  | error fault => exact iff_of_false (by rintro ⟨⟩) (by rintro ⟨⟨⟩, -⟩)
  | ok s =>
    have hs : Except.ok (ε := Utf8.Fault) s = .ok (team ++ "/" ++ asset) ↔
        s.toList = team.toList ++ '/' :: asset.toList := by
      rw [Except.ok.injEq, ← String.toList_inj, hslash]
    rw [hs, ← Text.parts_eq_pair_iff]
    simp only
    split
    · rename_i p q hp
      rw [hp]
      simp [← String.toList_inj]
    · rename_i hne
      exact iff_of_false (by rintro ⟨⟩) fun hp => hne _ _ hp

/-- The team's part of a key is empty exactly if the key begins with the slash. -/
theorem team_eq_empty_iff {bs : Bytes} {team asset : String} (h : keyParts bs = .ok (team, asset)) :
    team = "" ↔ ∃ rest, bs = 0x2F :: rest := by
  obtain ⟨hbs, hteam, -⟩ := keyParts_eq_ok_iff.1 h
  constructor
  · rintro rfl
    rw [hbs, Utf8.encode_append, Utf8.encode_append]
    exact ⟨Utf8.encode asset, rfl⟩
  · rintro ⟨rest, rfl⟩
    have hhead := Utf8.head_of_decode (by decide) (Utf8.decode_eq_ok_iff.2 hbs)
    by_contra hne
    obtain ⟨c, cs, hc⟩ := List.exists_cons_of_ne_nil fun h => hne (String.toList_eq_nil_iff.1 h)
    rw [String.toList_append, String.toList_append, hc] at hhead
    rw [Option.some.inj hhead] at hc
    rw [hc] at hteam
    exact hteam List.mem_cons_self

theorem keyParts_ok_or_error (bs : Bytes) :
    (∃ parts, keyParts bs = .ok parts) ∨ ∃ fault, keyParts bs = .error (.parse fault) := by
  unfold keyParts
  split
  · exact .inr ⟨_, rfl⟩
  · split
    · exact .inl ⟨_, rfl⟩
    · exact .inr ⟨_, rfl⟩

/-- There are two parts exactly if there is one slash. -/
theorem exists_keyParts_iff {bs : Bytes} :
    (∃ parts, keyParts bs = .ok parts) ↔ ∃ s, bs = Utf8.encode s ∧ s.toList.count '/' = 1 := by
  constructor
  · rintro ⟨⟨team, asset⟩, hp⟩
    obtain ⟨rfl, hteam, hasset⟩ := keyParts_eq_ok_iff.1 hp
    refine ⟨_, rfl, ?_⟩
    simp [List.count_eq_zero_of_not_mem hteam, List.count_eq_zero_of_not_mem hasset]
  · rintro ⟨s, rfl, hone⟩
    have hlength : (Text.parts '/' s.toList).length = 2 := by rw [Text.length_parts, hone]
    obtain ⟨p, q, hp⟩ := List.length_eq_two.1 hlength
    refine ⟨(String.ofList p, String.ofList q), ?_⟩
    simp only [keyParts, Utf8.decode_encode, hp]

/-! ## Events -/

/-- **What is read behind the gate**: the value, or where there is none, the key. -/
def eventOf (asset : AssetKey) (m : Message) : Except IngestError Event :=
  match m.value with
  | some value => (payloadOf asset value).map .upsert
  | none => (keyParts m.key).map fun parts => .retire { asset, teamId := parts.1, assetId := parts.2 }

theorem eventOf_of_value {asset : AssetKey} {value : Bytes} (hm : m.value = some value) :
    m.eventOf asset = (payloadOf asset value).map .upsert := by
  rw [eventOf, hm]

theorem eventOf_of_tombstone {asset : AssetKey} (hm : m.value = none) : m.eventOf asset =
    (keyParts m.key).map fun parts => .retire { asset, teamId := parts.1, assetId := parts.2 } := by
  rw [eventOf, hm]

theorem eventOf_eq_upsert_iff {asset : AssetKey} {p : Payload} : m.eventOf asset = .ok (.upsert p) ↔
    ∃ value, m.value = some value ∧
      Payload.decode value = .ok p ∧ p.assetType ≠ "" ∧ p.identifier ≠ "" ∧ p.team.id ≠ "" := by
  cases hm : m.value with
  | none => simp [eventOf_of_tombstone hm, Except.map_eq_ok_iff]
  | some value => simp [eventOf_of_value hm, Except.map_eq_ok_iff, payloadOf_eq_ok_iff]

theorem eventOf_eq_retire_iff {asset : AssetKey} {r : Retirement} : m.eventOf asset = .ok (.retire r) ↔
    m.value = none ∧ asset = r.asset ∧ keyParts m.key = .ok (r.teamId, r.assetId) := by
  cases hm : m.value with
  | some value => simp [eventOf_of_value hm, Except.map_eq_ok_iff]
  | none =>
    rw [eventOf_of_tombstone hm, Except.map_eq_ok_iff]
    constructor
    · rintro ⟨parts, hk, he⟩
      cases he
      exact ⟨rfl, rfl, hk⟩
    · rintro ⟨-, rfl, hk⟩
      exact ⟨_, hk, rfl⟩

theorem eventOf_ok_or_error (asset : AssetKey) (m : Message) :
    (∃ e, m.eventOf asset = .ok e) ∨ ∃ fault, m.eventOf asset = .error (.parse fault) := by
  cases hm : m.value with
  | some value =>
    rw [eventOf_of_value hm]
    rcases payloadOf_ok_or_error asset value with ⟨p, hp⟩ | ⟨fault, hp⟩
    · exact .inl ⟨_, Except.map_eq_ok_iff.2 ⟨p, hp, rfl⟩⟩
    · exact .inr ⟨fault, by rw [hp]; rfl⟩
  | none =>
    rw [eventOf_of_tombstone hm]
    rcases keyParts_ok_or_error m.key with ⟨parts, hk⟩ | ⟨fault, hk⟩
    · exact .inl ⟨_, Except.map_eq_ok_iff.2 ⟨parts, hk, rfl⟩⟩
    · exact .inr ⟨fault, by rw [hk]; rfl⟩

theorem requiredKeys_split {pre post : List String} (hk : requiredKeys = pre ++ key :: post) :
    (pre = [] ∧ key = "version") ∨ (pre = ["version"] ∧ key = "type") ∨
      (pre = ["version", "type"] ∧ key = "identifier") := by
  rcases pre with _ | ⟨x, _ | ⟨y, _ | ⟨z, _ | ⟨w, pre⟩⟩⟩⟩ <;> simp [requiredKeys] at hk
  · exact .inl ⟨rfl, hk.1.symm⟩
  · exact .inr (.inl ⟨by rw [hk.1], hk.2.1.symm⟩)
  · exact .inr (.inr ⟨by rw [hk.1, hk.2.1], hk.2.2.1.symm⟩)

/-- **The first entry that cannot be read decides.** -/
theorem event?_of_error {pre post : List String} (hk : requiredKeys = pre ++ key :: post)
    (hpre : ∀ k ∈ pre, ∃ text, m.requiredMetadata k = .ok text) {e : IngestError}
    (he : m.requiredMetadata key = .error e) (major : Nat) : m.event? major = .error e := by
  rcases requiredKeys_split hk with ⟨rfl, rfl⟩ | ⟨rfl, rfl⟩ | ⟨rfl, rfl⟩
  · rw [event?, he]
    rfl
  · obtain ⟨version, hv⟩ := hpre "version" (by simp)
    rw [event?, hv, he]
    rfl
  · obtain ⟨version, hv⟩ := hpre "version" (by simp)
    obtain ⟨type, ht⟩ := hpre "type" (by simp)
    rw [event?, hv, ht, he]
    rfl

/-- **Where all of them can be read, the version decides**, and behind it the value or the key. -/
theorem event?_of_ok {version type identifier : String} (hv : m.requiredMetadata "version" = .ok version)
    (ht : m.requiredMetadata "type" = .ok type) (hi : m.requiredMetadata "identifier" = .ok identifier)
    (major : Nat) : m.event? major =
      if Version.isSupported major version then (m.eventOf { type, identifier }).map some else .ok none := by
  rw [event?, hv, ht, hi]
  cases hsup : Version.isSupported major version with
  | false => simp [bind, Except.bind, hsup, pure, Except.pure]
  | true =>
    simp only [bind, Except.bind, hsup, Bool.not_true, Bool.false_eq_true, if_false, if_true, eventOf]
    rcases m.value with _ | value
    · rcases keyParts m.key with e | parts <;> rfl
    · simp only
      rcases payloadOf { type, identifier } value with e | p <;> rfl

/-- Where there is an answer, all of them can be read. -/
theorem requiredMetadata_of_event? {answer : Option Event} (h : m.event? major = .ok answer) :
    ∃ version type identifier, m.requiredMetadata "version" = .ok version ∧
      m.requiredMetadata "type" = .ok type ∧ m.requiredMetadata "identifier" = .ok identifier := by
  have hread (pre : List String) (key : String) (post : List String) (hk : requiredKeys = pre ++ key :: post)
      (hpre : ∀ k ∈ pre, ∃ text, m.requiredMetadata k = .ok text) :
      ∃ text, m.requiredMetadata key = .ok text := by
    cases he : m.requiredMetadata key with
    | ok text => exact ⟨text, rfl⟩
    | error e =>
      rw [event?_of_error hk hpre he] at h
      cases h
  obtain ⟨version, hv⟩ := hread [] "version" _ rfl (by simp)
  obtain ⟨type, ht⟩ := hread ["version"] "type" _ rfl (by simpa using ⟨version, hv⟩)
  obtain ⟨identifier, hi⟩ := hread ["version", "type"] "identifier" _ rfl
    (by simpa using ⟨⟨version, hv⟩, ⟨type, ht⟩⟩)
  exact ⟨version, type, identifier, hv, ht, hi⟩

theorem event?_eq_some_iff {e : Event} : m.event? major = .ok (some e) ↔ ∃ version type identifier,
    (m.requiredMetadata "version" = .ok version ∧ m.requiredMetadata "type" = .ok type ∧
      m.requiredMetadata "identifier" = .ok identifier) ∧
    Version.isSupported major version = true ∧ m.eventOf { type, identifier } = .ok e := by
  constructor
  · intro h
    obtain ⟨version, type, identifier, hv, ht, hi⟩ := requiredMetadata_of_event? h
    rw [event?_of_ok hv ht hi] at h
    cases hsup : Version.isSupported major version with
    | false => simp [hsup] at h
    | true =>
      rw [hsup, if_pos rfl, Except.map_eq_ok_iff] at h
      obtain ⟨e, he, hs⟩ := h
      cases hs
      exact ⟨version, type, identifier, ⟨hv, ht, hi⟩, hsup, he⟩
  · rintro ⟨version, type, identifier, ⟨hv, ht, hi⟩, hsup, he⟩
    rw [event?_of_ok hv ht hi, hsup, if_pos rfl, he]
    rfl

/-- **A retirement is what metadata and key name**, of a message without a value that the gate lets in. -/
theorem event?_eq_retire_iff {r : Retirement} :
    m.event? major = .ok (some (.retire r)) ↔ m.value = none ∧
      (∃ version, m.requiredMetadata "version" = .ok version ∧ Version.isSupported major version = true) ∧
      m.requiredMetadata "type" = .ok r.asset.type ∧ m.requiredMetadata "identifier" = .ok r.asset.identifier ∧
      keyParts m.key = .ok (r.teamId, r.assetId) := by
  simp only [event?_eq_some_iff, eventOf_eq_retire_iff]
  constructor
  · rintro ⟨version, type, identifier, ⟨hv, ht, hi⟩, hsup, hm, he, hk⟩
    rw [← he]
    exact ⟨hm, ⟨version, hv, hsup⟩, ht, hi, hk⟩
  · rintro ⟨hm, ⟨version, hv, hsup⟩, ht, hi, hk⟩
    exact ⟨version, _, _, ⟨hv, ht, hi⟩, hsup, hm, rfl, hk⟩

/-- What is read is in the three entries, in the value and in the key of what has none. -/
theorem event?_congr (hm : ∀ key ∈ requiredKeys, m'.requiredMetadata key = m.requiredMetadata key)
    (hvalue : m'.value = m.value) (hkey : m.value = none → m'.key = m.key) (major : Nat) :
    m'.event? major = m.event? major := by
  rw [event?, event?, hm "version" (by decide), hm "type" (by decide), hm "identifier" (by decide), hvalue]
  cases hnone : m.value with
  | some value => rfl
  | none => rw [hkey hnone]

theorem requiredMetadata_congr (h : (m.metadata.map Prod.fst).Nodup) (h' : (m'.metadata.map Prod.fst).Nodup)
    (hm : ∀ v, (key, v) ∈ m'.metadata ↔ (key, v) ∈ m.metadata) :
    m'.requiredMetadata key = m.requiredMetadata key := by
  have hv : m'.metadataValue? key = m.metadataValue? key := by
    refine Option.ext fun v => ?_
    rw [metadataValue?_eq_some_iff h', metadataValue?_eq_some_iff h, hm]
  rw [requiredMetadata, requiredMetadata, hv]

/-- **What is decoded.**  Take any message no two of whose metadata entries have one key.  Version, type and
identifier are asked for in this order.  Each is a text that is not empty, or is lacking, or is no text; the
first that is lacking is the one missed, and the first that is no text does not parse, whatever else is wrong.
Where all three are there, a version that is not of the major one makes the message no event, whatever its
key and its value hold.  Behind the gate a value that is a payload with type, identifier and team is an upsert
of that payload, and any other does not parse.  A tombstone is a retirement of what the metadata name by the
team in front of the slash in its key; it is one exactly if the key is a text with one slash, and does not
parse otherwise.  Nothing else has any influence. -/
theorem event?_reads_exactly (h : (m.metadata.map Prod.fst).Nodup) (major : Nat) :
    (∀ pre key post, requiredKeys = pre ++ key :: post → (∀ k ∈ pre, ∃ text, m.Tells k text) →
      (m.Lacks key ∨ m.Garbles key ∨ ∃ text, m.Tells key text) ∧
      (m.Lacks key → m.event? major = .error (.missingMetadata key)) ∧
      (m.Garbles key → ∃ fault, m.event? major = .error (.parse (.metadataText key fault)))) ∧
    (∀ version type identifier,
      m.Tells "version" version → m.Tells "type" type → m.Tells "identifier" identifier →
      (Version.isSupported major version = false → m.event? major = .ok none) ∧
      (Version.isSupported major version = true →
        ((∃ e, m.event? major = .ok (some e)) ∨ ∃ fault, m.event? major = .error (.parse fault)) ∧
        (∀ p, m.event? major = .ok (some (.upsert p)) ↔ ∃ value, m.value = some value ∧
          Payload.decode value = .ok p ∧ p.assetType ≠ "" ∧ p.identifier ≠ "" ∧ p.team.id ≠ "") ∧
        (∀ r, m.event? major = .ok (some (.retire r)) ↔ m.value = none ∧
          r.asset = { type, identifier } ∧ m.key = Utf8.encode (r.teamId ++ "/" ++ r.assetId) ∧
          '/' ∉ r.teamId.toList ∧ '/' ∉ r.assetId.toList) ∧
        (m.value = none → ((∃ r, m.event? major = .ok (some (.retire r))) ↔
          ∃ s, m.key = Utf8.encode s ∧ s.toList.count '/' = 1)))) ∧
    ∀ m' : Message, (m'.metadata.map Prod.fst).Nodup →
      (∀ key ∈ requiredKeys, ∀ v, (key, v) ∈ m'.metadata ↔ (key, v) ∈ m.metadata) →
      m'.value = m.value → (m.value = none → m'.key = m.key) → m'.event? major = m.event? major := by
  refine ⟨fun pre key post hk hpre => ⟨lacks_or_garbles_or_tells m key, fun hl => ?_, fun hg => ?_⟩,
    fun version type identifier hversion htype hidentifier => ?_, fun m' h' hm hvalue hkey => ?_⟩
  · have hread : ∀ k ∈ pre, ∃ text, m.requiredMetadata k = .ok text := fun k hk =>
      (hpre k hk).imp fun text => (requiredMetadata_eq_ok_iff_tells h).2
    exact event?_of_error hk hread (requiredMetadata_of_lacks h hl) major
  · have hread : ∀ k ∈ pre, ∃ text, m.requiredMetadata k = .ok text := fun k hk =>
      (hpre k hk).imp fun text => (requiredMetadata_eq_ok_iff_tells h).2
    obtain ⟨fault, hfault⟩ := requiredMetadata_of_garbles h hg
    exact ⟨fault, event?_of_error hk hread hfault major⟩
  · have hread := event?_of_ok ((requiredMetadata_eq_ok_iff_tells h).2 hversion)
      ((requiredMetadata_eq_ok_iff_tells h).2 htype) ((requiredMetadata_eq_ok_iff_tells h).2 hidentifier) major
    refine ⟨fun hsup => by rw [hread, hsup]; rfl, fun hsup => ?_⟩
    rw [hsup, if_pos rfl] at hread
    have hsome {e : Event} : m.event? major = .ok (some e) ↔ m.eventOf { type, identifier } = .ok e := by
      simp [hread, Except.map_eq_ok_iff]
    refine ⟨?_, fun p => hsome.trans eventOf_eq_upsert_iff, fun r => ?_, fun hm => ?_⟩
    · rcases eventOf_ok_or_error { type, identifier } m with ⟨e, he⟩ | ⟨fault, hf⟩
      · exact .inl ⟨e, hsome.2 he⟩
      · exact .inr ⟨fault, by rw [hread, hf]; rfl⟩
    · rw [hsome, eventOf_eq_retire_iff, keyParts_eq_ok_iff, eq_comm (a := r.asset)]
    · rw [← exists_keyParts_iff]
      constructor
      · rintro ⟨r, hr⟩
        exact ⟨_, (eventOf_eq_retire_iff.1 (hsome.1 hr)).2.2⟩
      · rintro ⟨⟨team, asset⟩, hk⟩
        let r : Retirement := { asset := { type, identifier }, teamId := team, assetId := asset }
        exact ⟨r, hsome.2 (eventOf_eq_retire_iff.2 ⟨hm, rfl, hk⟩)⟩
  · exact event?_congr (fun key hk => requiredMetadata_congr h h' (hm key hk)) hvalue hkey major

/-- A host's tombstone, with a note that is no text, for two versions of the indexer; and a message in which
the type lacks, the identifier is no text and the key has no slash. -/
theorem event?_reads_exactly_of_a_tombstone :
    let m : Message :=
      { key := Utf8.encode "t/h", position := { topic := "assets" }
        metadata := [("identifier", Utf8.encode "h"), ("note", [0xFF]), ("type", Utf8.encode "Hostname"),
          ("version", Utf8.encode "v0.1.0")] }
    let n : Message :=
      { key := Utf8.encode "t", position := { topic := "assets" }
        metadata := [("identifier", [0xFF]), ("type", []), ("version", Utf8.encode "0.1.0")] }
    let r : Retirement := { asset := { type := "Hostname", identifier := "h" }, teamId := "t", assetId := "h" }
    (m.metadata.map Prod.fst).Nodup ∧ (n.metadata.map Prod.fst).Nodup ∧ m.Tells "version" "v0.1.0" ∧
      m.event? 0 = .ok (some (.retire r)) ∧ m.event? 1 = .ok none ∧ n.Lacks "type" ∧ n.Garbles "identifier" ∧
      n.event? 0 = .error (.missingMetadata "type") := by
  intro m n r
  have h : (m.metadata.map Prod.fst).Nodup := by decide +kernel
  have h' : (n.metadata.map Prod.fst).Nodup := by decide +kernel
  have hv : m.Tells "version" "v0.1.0" := ⟨by decide +kernel, by decide⟩
  have ht : m.Tells "type" "Hostname" := ⟨by decide +kernel, by decide⟩
  have hi : m.Tells "identifier" "h" := ⟨by decide +kernel, by decide⟩
  have hv' : n.Tells "version" "0.1.0" := ⟨by decide +kernel, by decide⟩
  have hl : n.Lacks "type" := by
    intro v hm
    simpa [n] using hm
  have hg : n.Garbles "identifier" := by
    refine ⟨[0xFF], by decide +kernel, fun text he => ?_⟩
    have := Utf8.decode_eq_ok_iff.2 he
    cases this
  obtain ⟨-, hread, -⟩ := event?_reads_exactly h 0
  obtain ⟨-, hother, -⟩ := event?_reads_exactly h 1
  obtain ⟨hmissing, -⟩ := event?_reads_exactly h' 0
  obtain ⟨-, -, hretire, -⟩ := (hread _ _ _ hv ht hi).2 (by decide +kernel)
  refine ⟨h, h', hv, (hretire r).2 ⟨rfl, rfl, ?_⟩, (hother _ _ _ hv ht hi).1 ?_, hl, hg, ?_⟩
  · decide +kernel
  · decide +kernel
  · exact (hmissing ["version"] "type" ["identifier"] rfl (by simpa using ⟨_, hv'⟩)).2.1 hl

/-- **Which events name no team.**  Whatever a message holds, if it is an event, then its asset has a type
and an identifier.  Its team has an identifier too, unless the message is a tombstone whose key begins with
the slash that stands between team and asset. -/
theorem event?_is_keyed_unless_a_slash_leads {e : Event} (h : m.event? major = .ok (some e)) :
    e.assetKey.type ≠ "" ∧ e.assetKey.identifier ≠ "" ∧
      (e.teamId = "" ↔ m.value = none ∧ ∃ rest, m.key = 0x2F :: rest) := by
  obtain ⟨version, type, identifier, ⟨-, ht, hi⟩, -, he⟩ := event?_eq_some_iff.1 h
  cases e with
  | upsert p =>
    obtain ⟨value, hm, -, htype, hidentifier, hteam⟩ := eventOf_eq_upsert_iff.1 he
    refine ⟨htype, hidentifier, iff_of_false hteam ?_⟩
    rintro ⟨hnone, -⟩
    rw [hm] at hnone
    cases hnone
  | retire r =>
    obtain ⟨hm, hasset, hk⟩ := eventOf_eq_retire_iff.1 he
    have htype : r.asset.type ≠ "" := hasset ▸ (requiredMetadata_eq_ok_iff.1 ht).2
    have hidentifier : r.asset.identifier ≠ "" := hasset ▸ (requiredMetadata_eq_ok_iff.1 hi).2
    exact ⟨htype, hidentifier, (team_eq_empty_iff hk).trans (and_iff_right hm).symm⟩

/-- An upsert, and a tombstone whose key begins with the slash. -/
theorem event?_is_keyed_unless_a_slash_leads_in_two_messages :
    let p : Payload := { assetType := "Hostname", identifier := "h", team := { id := "t" } }
    let r : Retirement := { asset := p.assetKey, teamId := "", assetId := "a1" }
    let metadata := [("version", Utf8.encode "0.1.0"), ("type", Utf8.encode "Hostname"),
      ("identifier", Utf8.encode "h")]
    let m (key : String) (value : Option Bytes) : Message :=
      { key := Utf8.encode key, value, metadata, position := { topic := "assets" } }
    (m "/a1" (some p.encode)).event? 0 = .ok (some (.upsert p)) ∧ p.team.id ≠ "" ∧
      (m "/a1" none).event? 0 = .ok (some (.retire r)) ∧ r.asset.type ≠ "" ∧ r.asset.identifier ≠ "" ∧
      r.teamId = "" := by
  intro p r metadata m
  have hp : (m "/a1" (some p.encode)).event? 0 = .ok (some (.upsert p)) := by decide +kernel
  have hr : (m "/a1" none).event? 0 = .ok (some (.retire r)) := by decide +kernel
  obtain ⟨-, -, hteam⟩ := event?_is_keyed_unless_a_slash_leads hp
  obtain ⟨htype, hidentifier, hnone⟩ := event?_is_keyed_unless_a_slash_leads hr
  refine ⟨hp, fun he => ?_, hr, htype, hidentifier, hnone.2 ⟨rfl, Utf8.encode "a1", rfl⟩⟩
  cases (hteam.1 he).1

/-- **An event without a team**: nothing but a slash is in front of the asset. -/
theorem event?_without_a_team :
    let m : Message :=
      { key := Utf8.encode "/a1", position := { topic := "assets" }
        metadata := [("version", Utf8.encode "0.1.0"), ("type", Utf8.encode "Hostname"),
          ("identifier", Utf8.encode "h.example.com")] }
    let r : Retirement :=
      { asset := { type := "Hostname", identifier := "h.example.com" }, teamId := "", assetId := "a1" }
    m.event? 0 = .ok (some (.retire r)) ∧
      ¬ ∀ (major : Nat) (m : Message) (e : Event), m.event? major = .ok (some e) → e.teamId ≠ "" := by
  intro m r
  have hr : m.event? 0 = .ok (some (.retire r)) := by decide +kernel
  exact ⟨hr, fun hall => hall 0 m (.retire r) hr rfl⟩

end Message

end AssetGraph
