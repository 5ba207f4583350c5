import AssetGraph.Event.Payload
import AssetGraph.Proofs.Except
import AssetGraph.Proofs.Json.Record
/-!
# Payloads of other forms

A payload is made of records at three levels: the whole, its team and its annotations.  Members may be put in
another order, members of other names may come in, and known ones may be left out, at each of the levels; a known
one that is given again is refused, and so is one whose name is no text (`decode_after_an_edit`).  A reader of records whose fields may all be left out
(`Lenient`) bears such edits, and an edit of an inner record changes what the outer one reads in the one field that
holds it (`Payload.team_replaced`, `Payload.annotations_replaced`).
-/
namespace AssetGraph

open Json (Fault Record Spells Names text? record record_of_perm record_of_removed record_of_repeated
  record_of_replaced record_of_no_text readAll asText asBool asList)

namespace Json

variable {α : Type} {names : List String} {read : Json → Except Fault α} {fields : Record → Except Fault α}
  {reset : α → String → α} {ms ms' extra : List (Bytes × Json)} {a : α} {r r' : Record} {name : String}

/-- **A reader of records whose fields may all be left out**: what it reads depends on what the fields hold, and a
field that holds nothing is reset. -/
structure Lenient (names : List String) (read : Json → Except Fault α) (fields : Record → Except Fault α)
    (reset : α → String → α) : Prop where
  eq : ∀ j, read j = record names j >>= fields
  congr : ∀ r r', (∀ name, r'.get? name = r.get? name) → fields r' = fields r
  reset : ∀ r r' a name, fields r = .ok a → name ∈ names → r'.get? name = none →
    (∀ other, other ≠ name → r'.get? other = r.get? other) → fields r' = .ok (reset a name)

theorem orElse_of_none {β : Type} {default : β} {readField : Json → Except Fault β} (h : r.get? name = none) :
    r.orElse name default readField = .ok default := by
  rw [Record.orElse, h]

theorem orElse_of_some {β : Type} {default : β} {readField : Json → Except Fault β} {j : Json}
    (h : r.get? name = some j) : r.orElse name default readField = readField j := by
  rw [Record.orElse, h]

theorem orElse_of_ne {β : Type} (h : ∀ other, other ≠ name → r'.get? other = r.get? other) (other : String)
    (hne : other ≠ name) (default : β) (readField : Json → Except Fault β) :
    r'.orElse other default readField = r.orElse other default readField := by
  rw [Record.orElse, Record.orElse, h other hne]

theorem Lenient.exists_record (hl : Lenient names read fields reset) {j : Json} (h : read j = .ok a) :
    ∃ r, record names j = .ok r ∧ fields r = .ok a := by
  rw [hl.eq] at h
  cases hr : record names j with
  | error fault =>
    rw [hr] at h
    cases h
  | ok r =>
    rw [hr] at h
    exact ⟨r, rfl, h⟩

theorem Lenient.read_eq (hl : Lenient names read fields reset) {j : Json} (hr : record names j = .ok r) :
    read j = fields r := by
  rw [hl.eq, hr]
  rfl

theorem Lenient.read_eq_error (hl : Lenient names read fields reset) {j : Json} {fault : Fault}
    (hr : record names j = .error fault) : read j = .error fault := by
  rw [hl.eq, hr]
  rfl

theorem Lenient.of_perm (hl : Lenient names read fields reset) (h : read (.object ms) = .ok a)
    (hperm : ms'.Perm (ms ++ extra)) (hextra : ∀ m ∈ extra, ∃ name, text? m.1 = some name ∧ name ∉ names) :
    read (.object ms') = .ok a := by
  obtain ⟨r, hr, ha⟩ := hl.exists_record h
  obtain ⟨r', hr', hsame⟩ := record_of_perm hr hperm hextra
  rw [hl.read_eq hr', hl.congr r r' hsame, ha]

theorem Lenient.of_removed {k : Bytes} {v : Json} (hl : Lenient names read fields reset)
    (h : read (.object ms) = .ok a) (hperm : ms.Perm ((k, v) :: ms')) (hk : text? k = some name)
    (hname : name ∈ names) : read (.object ms') = .ok (reset a name) := by
  obtain ⟨r, hr, ha⟩ := hl.exists_record h
  obtain ⟨r', hr', hnone, hothers⟩ := record_of_removed hr hperm hk hname
  rw [hl.read_eq hr']
  exact hl.reset r r' a name ha hname hnone hothers

theorem Lenient.of_repeated {k k' : Bytes} {v w : Json} (hl : Lenient names read fields reset)
    (hperm : ms'.Perm ((k, v) :: ms)) (hk : text? k = some name) (hname : name ∈ names) (hm : (k', w) ∈ ms)
    (hk' : text? k' = some name) : ∃ fault, read (.object ms') = .error fault := by
  obtain ⟨fault, hfault⟩ := record_of_repeated hperm hk hname hm hk'
  exact ⟨fault, hl.read_eq_error hfault⟩

theorem Lenient.of_no_text {k : Bytes} {v : Json} (hl : Lenient names read fields reset) (hm : (k, v) ∈ ms)
    (hk : text? k = none) : ∃ fault, read (.object ms) = .error fault := by
  obtain ⟨fault, hfault⟩ : ∃ fault, record names (.object ms) = .error fault := record_of_no_text hm hk
  exact ⟨fault, hl.read_eq_error hfault⟩

/-- Another item of a list changes what is read in its place. -/
theorem readAll_replaced {v : Json} {before after : List Json} {as : List α}
    (h : readAll read (before ++ v :: after) = .ok as) : ∃ a, as[before.length]? = some a ∧ read v = .ok a ∧
      ∀ w, readAll read (before ++ w :: after) = (fun b => as.set before.length b) <$> read w := by
  induction before generalizing as with
  | nil =>
    simp only [List.nil_append, readAll, Except.bind_eq_ok_iff, Except.ok.injEq] at h ⊢
    obtain ⟨a, ha, rest, hrest, rfl⟩ := h
    refine ⟨a, rfl, ha, fun w => ?_⟩
    rw [hrest]
    cases read w <;> rfl
  | cons u before ih =>
    simp only [List.cons_append, readAll, Except.bind_eq_ok_iff, Except.ok.injEq] at h ⊢
    obtain ⟨b, hb, rest, hrest, rfl⟩ := h
    obtain ⟨a, ha, hread, hset⟩ := ih hrest
    refine ⟨a, ha, hread, fun w => ?_⟩
    rw [hb, hset w]
    cases read w <;> rfl

end Json

/-! ## The three records -/

/-- An annotation with a field left out. -/
def Annotation.reset (a : Annotation) : String → Annotation
  | "key" => { a with key := "" }
  | "value" => { a with value := "" }
  | _ => a

/-- An annotation by its fields. -/
def Annotation.ofRecord (r : Record) : Except Fault Annotation := do
  let key ← r.orElse "key" "" asText
  let value ← r.orElse "value" "" asText
  pure { key, value }

theorem Annotation.ofRecord_eq_ok_iff {r : Record} {a : Annotation} : ofRecord r = .ok a ↔
    r.orElse "key" "" asText = .ok a.key ∧ r.orElse "value" "" asText = .ok a.value := by
  obtain ⟨key, value⟩ := a
  simp only [ofRecord, Except.bind_eq_ok_iff, pure, Except.pure, Except.ok.injEq, Annotation.mk.injEq]
  grind

theorem Annotation.lenient_ofJson : Json.Lenient fieldNames ofJson ofRecord reset where
  eq _ := rfl
  congr r r' h := by simp only [ofRecord, Record.orElse, h]
  reset r r' a name ha hname hnone hothers := by
    rw [ofRecord_eq_ok_iff] at ha ⊢
    simp only [fieldNames, List.mem_cons, List.not_mem_nil, or_false] at hname
    obtain rfl | rfl := hname <;> simp [reset, Json.orElse_of_none hnone, Json.orElse_of_ne hothers, ha]

/-- A payload's team with a field left out. -/
def PayloadTeam.reset (t : PayloadTeam) : String → PayloadTeam
  | "id" => { t with id := "" }
  | "name" => { t with name := "" }
  | "description" => { t with description := "" }
  | "tag" => { t with tag := "" }
  | _ => t

/-- A payload's team by its fields. -/
def PayloadTeam.ofRecord (r : Record) : Except Fault PayloadTeam := do
  let id ← r.orElse "id" "" asText
  let name ← r.orElse "name" "" asText
  let description ← r.orElse "description" "" asText
  let tag ← r.orElse "tag" "" asText
  pure { id, name, description, tag }

theorem PayloadTeam.ofRecord_eq_ok_iff {r : Record} {t : PayloadTeam} : ofRecord r = .ok t ↔
    r.orElse "id" "" asText = .ok t.id ∧ r.orElse "name" "" asText = .ok t.name ∧
      r.orElse "description" "" asText = .ok t.description ∧ r.orElse "tag" "" asText = .ok t.tag := by
  obtain ⟨id, name, description, tag⟩ := t
  simp only [ofRecord, Except.bind_eq_ok_iff, pure, Except.pure, Except.ok.injEq, PayloadTeam.mk.injEq]
  grind

theorem PayloadTeam.lenient_ofJson : Json.Lenient fieldNames ofJson ofRecord reset where
  eq _ := rfl
  congr r r' h := by simp only [ofRecord, Record.orElse, h]
  reset r r' t name ht hname hnone hothers := by
    rw [ofRecord_eq_ok_iff] at ht ⊢
    simp only [fieldNames, List.mem_cons, List.not_mem_nil, or_false] at hname
    obtain rfl | rfl | rfl | rfl := hname <;>
      simp [reset, Json.orElse_of_none hnone, Json.orElse_of_ne hothers, ht]

/-- A payload with a field left out. -/
def Payload.reset (p : Payload) : String → Payload
  | "id" => { p with id := "" }
  | "team" => { p with team := {} }
  | "alias" => { p with aliasName := "" }
  | "rolfp" => { p with rolfp := "" }
  | "scannable" => { p with scannable := false }
  | "asset_type" => { p with assetType := "" }
  | "identifier" => { p with identifier := "" }
  | "annotations" => { p with annotations := [] }
  | _ => p

/-- A payload by its fields. -/
def Payload.ofRecord (r : Record) : Except Fault Payload := do
  let id ← r.orElse "id" "" asText
  let team ← r.orElse "team" {} PayloadTeam.ofJson
  let aliasName ← r.orElse "alias" "" asText
  let rolfp ← r.orElse "rolfp" "" asText
  let scannable ← r.orElse "scannable" false asBool
  let assetType ← r.orElse "asset_type" "" asText
  let identifier ← r.orElse "identifier" "" asText
  let annotations ← r.orElse "annotations" [] (asList Annotation.ofJson)
  pure { id, team, aliasName, rolfp, scannable, assetType, identifier, annotations }

theorem Payload.ofRecord_eq_ok_iff {r : Record} {p : Payload} : ofRecord r = .ok p ↔
    r.orElse "id" "" asText = .ok p.id ∧ r.orElse "team" {} PayloadTeam.ofJson = .ok p.team ∧
      r.orElse "alias" "" asText = .ok p.aliasName ∧ r.orElse "rolfp" "" asText = .ok p.rolfp ∧
      r.orElse "scannable" false asBool = .ok p.scannable ∧ r.orElse "asset_type" "" asText = .ok p.assetType ∧
      r.orElse "identifier" "" asText = .ok p.identifier ∧
      r.orElse "annotations" [] (asList Annotation.ofJson) = .ok p.annotations := by
  obtain ⟨id, team, aliasName, rolfp, scannable, assetType, identifier, annotations⟩ := p
  simp only [ofRecord, Except.bind_eq_ok_iff, pure, Except.pure, Except.ok.injEq, Payload.mk.injEq]
  grind

theorem Payload.lenient_ofJson : Json.Lenient fieldNames ofJson ofRecord reset where
  eq _ := rfl
  congr r r' h := by simp only [ofRecord, Record.orElse, h]
  reset r r' p name hp hname hnone hothers := by
    rw [ofRecord_eq_ok_iff] at hp ⊢
    simp only [fieldNames, List.mem_cons, List.not_mem_nil, or_false] at hname
    obtain rfl | rfl | rfl | rfl | rfl | rfl | rfl | rfl := hname <;>
      simp [reset, Json.orElse_of_none hnone, Json.orElse_of_ne hothers, hp]

/-! ## An edit of an inner record -/

namespace Payload

variable {p : Payload} {k : Bytes} {v : Json} {before after : List (Bytes × Json)}

theorem team_replaced (h : ofJson (.object (before ++ (k, v) :: after)) = .ok p) (hk : text? k = some "team") :
    PayloadTeam.ofJson v = .ok p.team ∧ ∀ w, ofJson (.object (before ++ (k, w) :: after)) =
      (fun t => { p with team := t }) <$> PayloadTeam.ofJson w := by
  obtain ⟨r, hr, hp⟩ := lenient_ofJson.exists_record h
  rw [ofRecord_eq_ok_iff] at hp
  have hfield := record_of_replaced hr hk (by decide)
  refine ⟨?_, fun w => ?_⟩
  · rw [← hp.2.1, Json.orElse_of_some (hfield v).1]
  · obtain ⟨-, r', hr', hw, hothers⟩ := hfield w
    rw [lenient_ofJson.read_eq hr', ofRecord]
    simp only [Json.orElse_of_some hw, Json.orElse_of_ne hothers, ne_eq, String.reduceEq, not_false_eq_true, hp]
    cases PayloadTeam.ofJson w <;> rfl

theorem annotations_replaced (h : ofJson (.object (before ++ (k, v) :: after)) = .ok p)
    (hk : text? k = some "annotations") : asList Annotation.ofJson v = .ok p.annotations ∧
      ∀ w, ofJson (.object (before ++ (k, w) :: after)) =
        (fun as => { p with annotations := as }) <$> asList Annotation.ofJson w := by
  obtain ⟨r, hr, hp⟩ := lenient_ofJson.exists_record h
  rw [ofRecord_eq_ok_iff] at hp
  have hfield := record_of_replaced hr hk (by decide)
  refine ⟨?_, fun w => ?_⟩
  · rw [← hp.2.2.2.2.2.2.2, Json.orElse_of_some (hfield v).1]
  · obtain ⟨-, r', hr', hw, hothers⟩ := hfield w
    rw [lenient_ofJson.read_eq hr', ofRecord]
    simp only [Json.orElse_of_some hw, Json.orElse_of_ne hothers, ne_eq, String.reduceEq, not_false_eq_true, hp]
    cases asList Annotation.ofJson w <;> rfl

/-- **The records that a payload is made of.** -/
inductive Level where
  | whole
  | team
  | note (index : Nat)

/-- The names of the fields at a level. -/
def Level.fieldNames : Level → List String
  | whole => Payload.fieldNames
  | team => PayloadTeam.fieldNames
  | note _ => Annotation.fieldNames

/-- A payload with a field of one of its records left out. -/
def resetAt (p : Payload) : Level → String → Payload
  | .whole, name => p.reset name
  | .team, name => { p with team := p.team.reset name }
  | .note index, name => { p with annotations := p.annotations.modify index (·.reset name) }

/-- **An edit of the members of a record**, from `inner` to `inner'`, and with it of the payload's members, from
`outer` to `outer'`. -/
inductive Edit : Level → (inner inner' outer outer' : List (Bytes × Json)) → Prop
  | whole (ms ms' : List (Bytes × Json)) : Edit .whole ms ms' ms ms'
  | team {k : Bytes} (hk : text? k = some "team") (ms ms' before after : List (Bytes × Json)) :
    Edit .team ms ms' (before ++ (k, .object ms) :: after) (before ++ (k, .object ms') :: after)
  | note {k : Bytes} (hk : text? k = some "annotations") (ms ms' before after : List (Bytes × Json))
      (items items' : List Json) :
    Edit (.note items.length) ms ms' (before ++ (k, .array (items ++ .object ms :: items')) :: after)
      (before ++ (k, .array (items ++ .object ms' :: items')) :: after)

variable {level : Level} {inner inner' outer outer' : List (Bytes × Json)}

/-- Whatever the level, the record there is read by a lenient reader, and its value is put into the payload. -/
theorem Edit.exists_reader (he : Edit level inner inner' outer outer') (h : ofJson (.object outer) = .ok p) :
    ∃ (α : Type) (read : Json → Except Fault α) (fields : Record → Except Fault α) (reset : α → String → α)
      (a : α) (put : α → Payload), Json.Lenient level.fieldNames read fields reset ∧ read (.object inner) = .ok a ∧
      put a = p ∧ (∀ name, put (reset a name) = p.resetAt level name) ∧
      ofJson (.object outer') = put <$> read (.object inner') := by
  cases he with
  | whole =>
    refine ⟨Payload, ofJson, ofRecord, reset, p, fun p => p, lenient_ofJson, h, rfl, fun _ => rfl, ?_⟩
    cases ofJson (.object inner') <;> rfl
  | team hk =>
    obtain ⟨ht, hreplaced⟩ := team_replaced h hk
    exact ⟨PayloadTeam, _, _, _, p.team, fun t => { p with team := t }, PayloadTeam.lenient_ofJson, ht, rfl,
      fun _ => rfl, hreplaced _⟩
  | note hk _ _ before after items items' =>
    obtain ⟨has, hreplaced⟩ := annotations_replaced h hk
    obtain ⟨a, hindex, ha, hitem⟩ := Json.readAll_replaced has
    refine ⟨_, Annotation.ofJson, _, _, a, fun b => { p with annotations := p.annotations.set items.length b },
      Annotation.lenient_ofJson, ha, ?_, fun name => ?_, ?_⟩
    · obtain ⟨hlt, rfl⟩ := List.getElem?_eq_some_iff.1 hindex
      exact congrArg (fun as => { p with annotations := as }) (List.set_getElem_self hlt)
    · rw [resetAt, List.modify_eq_set_getElem?, hindex]
      rfl
    · rw [hreplaced, asList, hitem]
      cases Annotation.ofJson (.object inner') <;> rfl

/-- **What an edit does to the payload that a text stands for.**  Another order of the members, and members whose names
are texts that the record does not know, with any values, change nothing; a known member that is left out resets its
field; one that is given again is refused; so is a member whose name is no text, whatever its value. -/
theorem decode_after_an_edit {s s' : Bytes} (hs : Spells (.object outer) s) (hs' : Spells (.object outer') s')
    (he : Edit level inner inner' outer outer') (h : decode s = .ok p) :
    (∀ extra, (∀ m ∈ extra, ∃ name, text? m.1 = some name ∧ name ∉ level.fieldNames) →
      inner'.Perm (inner ++ extra) → decode s' = .ok p) ∧
    (∀ k v name, text? k = some name → name ∈ level.fieldNames → inner.Perm ((k, v) :: inner') →
      decode s' = .ok (p.resetAt level name)) ∧
    (∀ k v k' w name, text? k = some name → text? k' = some name → name ∈ level.fieldNames → (k, v) ∈ inner →
      inner'.Perm ((k', w) :: inner) → ∃ fault, decode s' = .error fault) ∧
    ∀ k v, text? k = none → (k, v) ∈ inner' → ∃ fault, decode s' = .error fault := by
  simp only [decode, Json.decodeWith, Json.parse?_eq_some_iff.2 hs, Json.parse?_eq_some_iff.2 hs'] at h ⊢
  obtain ⟨α, read, fields, reset, a, put, hlenient, ha, hput, hreset, hread⟩ := he.exists_reader h
  rw [hread]
  have refused : (∃ fault, read (.object inner') = .error fault) →
      ∃ fault, put <$> read (.object inner') = .error fault := by
    rintro ⟨fault, hfault⟩
    exact ⟨fault, by rw [hfault]; rfl⟩
  refine ⟨fun extra hextra hperm => ?_, fun k v name hk hname hperm => ?_,
    fun k v k' w name hk hk' hname hmem hperm => refused ?_, fun k v hk hmem => refused ?_⟩
  · rw [hlenient.of_perm ha hperm hextra, ← hput]
    rfl
  · rw [hlenient.of_removed ha hperm hk hname, ← hreset]
    rfl
  · exact hlenient.of_repeated hperm hk' hname hmem hk
  · exact hlenient.of_no_text hmem hk

/-- An annotation with its value first, behind a member of a name that it does not know. -/
theorem an_annotation_is_read_in_another_order :
    let text (fields : List (String × Json)) : Bytes :=
      (Json.ofFields [("annotations", .array [Json.ofFields fields])]).render
    let key : String × Json := ("key", Json.ofText "state")
    let value : String × Json := ("value", Json.ofText "archived")
    let since : String × Json := ("since", .array [.null, .bool true])
    let p : Payload := { annotations := [{ key := "state", value := "archived" }] }
    decode (text [key, value]) = .ok p ∧ decode (text [since, value, key]) = .ok p := by
  intro text key value since p
  have hspells (fields : List (String × Json)) (h : ∀ f ∈ fields, Spells f.2 f.2.render) :
      Spells (Json.ofFields [("annotations", .array [Json.ofFields fields])]) (text fields) :=
    Json.spells_ofFields (by simpa using Json.spells_array (by simpa using Json.spells_ofFields h))
  have hsince : Spells since.2 since.2.render := Json.spells_array (by simp [Spells.null, Spells.true, Json.render])
  have h : decode (text [key, value]) = .ok p := by decide +kernel
  refine ⟨h, (decode_after_an_edit (hspells [key, value] ?_) (hspells [since, value, key] ?_)
    (.note (Json.text?_escape _) _ _ [] [] [] []) h).1 [(Json.escape "since", since.2)] ?_ ?_⟩
  · simp [key, value, Json.spells_ofText]
  · simp [key, value, hsince, Json.spells_ofText]
  · intro m hm
    rw [List.mem_singleton.1 hm]
    exact ⟨"since", Json.text?_escape _, by decide⟩
  · exact List.reverse_perm ([key, value, since].map fun f => (Json.escape f.1, f.2))

/-- A member behind the rest whose name is half of a pair of surrogates: the name is no text, so it is none that the
record knows, and the payload is refused. -/
theorem a_name_that_is_no_text_is_not_passed_over :
    let half : Bytes := asciiBytes ['\\', 'u', 'd', '8', '0', '0']
    let entries : List (Bytes × Json) := [(Json.escape "id", Json.ofText "a")]
    let more : List (Bytes × Json) := entries ++ [(half, .null)]
    (Spells (.object entries) (Json.object entries).render ∧ decode (Json.object entries).render = .ok { id := "a" }) ∧
      (∀ name ∈ fieldNames, text? half ≠ some name) ∧ Spells (.object more) (Json.object more).render ∧
      decode (Json.object more).render = .error .badText := by
  intro half entries more
  have hread : Json.rawString? (half ++ [ascii '"']) = some (half, []) := by decide +kernel
  have hhalf : Json.IsRaw half := (Json.rawString?_eq_some_iff.1 hread).1
  have hnone : text? half = none := by decide +kernel
  refine ⟨⟨Json.spells_object ?_ ?_, by decide +kernel⟩, ?_, Json.spells_object ?_ ?_, by decide +kernel⟩
  · simp [entries, Json.isRaw_escape]
  · simp [entries, Json.spells_ofText]
  · simp [hnone]
  · simp [more, entries, Json.isRaw_escape, hhalf]
  · simp [more, entries, Json.spells_ofText, Spells.null, Json.render]

end Payload

end AssetGraph
