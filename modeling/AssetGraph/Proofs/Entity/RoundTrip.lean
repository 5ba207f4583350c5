import AssetGraph.Entity.Record
import AssetGraph.Event.Payload
import AssetGraph.Proofs.Instant.Rfc3339
import AssetGraph.Proofs.Json.Record
/-!
# What is written is read back

Entities and payloads are read from their own JSON texts, whatever their strings hold, so no two have one text.
For each there are two facts: its text is one of its tree (`spells_toJson`), and its tree is read as itself
(`ofJson_toJson`).  Both come from those of a record and of its fields.
-/
namespace AssetGraph

namespace Json

variable {i : Instant} {fields : List (String × Json)} {r : Record} {name : String}

theorem asText_ofText (s : String) : asText (ofText s) = .ok s := by
  simp only [asText, ofText, text?_escape]

theorem asInstant_ofInstant (h : i.IsCivil) : asInstant (ofInstant i) = .ok i := by
  simp only [asInstant, ofInstant, asText_ofText, bind, Except.bind, Instant.parse?_render h]

theorem asOptional_ofInstant (h : i.IsCivil) : asOptional asInstant (ofInstant i) = .ok (some i) := by
  have hread : asOptional asInstant (ofInstant i) = some <$> asInstant (ofInstant i) := rfl
  rw [hread, asInstant_ofInstant h]
  rfl

theorem spells_ofInstant (i : Instant) : Spells (ofInstant i) (ofInstant i).render := spells_ofText _

/-- A field of a record that is written down is looked up by comparing names. -/
theorem get?_cons (name : String) (f : String × Json) (r : Record) :
    Record.get? (f :: r) name = if name = f.1 then some f.2 else Record.get? r name := by
  obtain ⟨k, v⟩ := f
  by_cases h : name = k
  · simp [Record.get?, h]
  · simp [Record.get?, List.lookup_cons, beq_false_of_ne h, h]

@[simp] theorem get?_nil (name : String) : Record.get? [] name = none := rfl

theorem readAll_map {α : Type} {read : Json → Except Fault α} {write : α → Json} {as : List α}
    (h : ∀ a ∈ as, read (write a) = .ok a) : readAll read (as.map write) = .ok as := by
  induction as with
  | nil => rfl
  | cons a as ih =>
    obtain ⟨ha, has⟩ := List.forall_mem_cons.1 h
    rw [List.map_cons, readAll, ha, ih has]
    rfl

theorem decodeWith_toJson {α : Type} {write : α → Json} {read : Json → Except Fault α} {a : α}
    (hspells : ∀ a, Spells (write a) (write a).render) (hread : read (write a) = .ok a) :
    decodeWith read (write a).render = .ok a := by
  rw [decodeWith_render (hspells a), hread]

theorem decodeWith_list {α : Type} {write : α → Json} {read : Json → Except Fault α} {as : List α}
    (hspells : ∀ a, Spells (write a) (write a).render) (hread : ∀ a ∈ as, read (write a) = .ok a) :
    decodeWith (asList read) (Json.array (as.map write)).render = .ok as := by
  have hentries : ∀ j ∈ as.map write, Spells j j.render := List.forall_mem_map.2 fun a _ => hspells a
  rw [decodeWith_render (spells_array hentries)]
  exact readAll_map hread

/-- **A form of JSON that loses nothing**: every one of the values is read from its text, and no two of them have
one text. -/
structure IsFaithful {α : Type} (write : α → Json) (read : Json → Except Fault α) (values : Set α) : Prop where
  decode : ∀ a ∈ values, decodeWith read (write a).render = .ok a
  distinct : Set.InjOn (fun a => (write a).render) values

theorem isFaithful_of {α : Type} {write : α → Json} {read : Json → Except Fault α} {values : Set α}
    (hspells : ∀ a, Spells (write a) (write a).render) (hread : ∀ a ∈ values, read (write a) = .ok a) :
    IsFaithful write read values := by
  have hdecode : ∀ a ∈ values, decodeWith read (write a).render = .ok a := fun a ha =>
    decodeWith_toJson hspells (hread a ha)
  refine ⟨hdecode, fun a ha b hb hab => ?_⟩
  have hsame : decodeWith read (write a).render = decodeWith read (write b).render := congrArg _ hab
  rw [hdecode a ha, hdecode b hb] at hsame
  exact Except.ok.inj hsame

end Json

open Json (Spells spells_ofFields spells_ofText spells_ofInstant spells_bool spells_array record_ofFields
  asText_ofText asInstant_ofInstant asOptional_ofInstant readAll_map get?_cons IsFaithful isFaithful_of
  Record.require Record.orElse)

namespace Annotation

theorem spells_toJson (a : Annotation) : Spells a.toJson a.toJson.render :=
  spells_ofFields (by simp [spells_ofText])

theorem ofJson_toJson (a : Annotation) : ofJson a.toJson = .ok a := by
  rw [ofJson, toJson, record_ofFields (by simp) (by simp [fieldNames])]
  simp [bind, Except.bind, pure, Except.pure, Record.orElse, get?_cons, asText_ofText]

end Annotation

namespace PayloadTeam

theorem spells_toJson (t : PayloadTeam) : Spells t.toJson t.toJson.render :=
  spells_ofFields (by simp [spells_ofText])

theorem ofJson_toJson (t : PayloadTeam) : ofJson t.toJson = .ok t := by
  rw [ofJson, toJson, record_ofFields (by simp) (by simp [fieldNames])]
  simp [bind, Except.bind, pure, Except.pure, Record.orElse, get?_cons, asText_ofText]

end PayloadTeam

namespace Payload

theorem spells_toJson (p : Payload) : Spells p.toJson p.toJson.render := by
  refine spells_ofFields ?_
  simp [spells_ofText, spells_bool, PayloadTeam.spells_toJson]
  refine spells_array fun v hv => ?_
  obtain ⟨a, -, rfl⟩ := List.mem_map.1 hv
  exact a.spells_toJson

theorem asList_annotations (as : List Annotation) :
    Json.asList Annotation.ofJson (.array (as.map Annotation.toJson)) = .ok as :=
  readAll_map fun a _ => a.ofJson_toJson

theorem ofJson_toJson (p : Payload) : ofJson p.toJson = .ok p := by
  rw [ofJson, toJson, record_ofFields (by simp) (by simp [fieldNames])]
  simp [bind, Except.bind, pure, Except.pure, Record.orElse, get?_cons, asText_ofText, PayloadTeam.ofJson_toJson,
    asList_annotations, Json.asBool]

end Payload

namespace Asset

/-- The times of an asset can be written. -/
def IsWritable (a : Asset) : Prop := a.firstSeen.IsWritable ∧ a.lastSeen.IsWritable ∧ a.expiration.IsWritable

theorem spells_toJson (a : Asset) : Spells a.toJson a.toJson.render :=
  spells_ofFields (by simp [spells_ofText, spells_ofInstant])

theorem ofJson_toJson {a : Asset} (h : a.IsWritable) : ofJson a.toJson = .ok a := by
  obtain ⟨hfirst, hlast, hexpiration⟩ := h
  rw [ofJson, toJson, record_ofFields (by simp) (by simp [fieldNames])]
  simp [bind, Except.bind, pure, Except.pure, Record.require, get?_cons, asText_ofText,
    asInstant_ofInstant hfirst.isCivil, asInstant_ofInstant hlast.isCivil, asInstant_ofInstant hexpiration.isCivil]

end Asset

namespace Team

theorem spells_toJson (t : Team) : Spells t.toJson t.toJson.render := spells_ofFields (by simp [spells_ofText])

theorem ofJson_toJson (t : Team) : ofJson t.toJson = .ok t := by
  rw [ofJson, toJson, record_ofFields (by simp) (by simp [fieldNames])]
  simp [bind, Except.bind, pure, Except.pure, Record.require, get?_cons, asText_ofText]

end Team

namespace Owns

/-- The times of an ownership can be written. -/
def IsWritable (o : Owns) : Prop := o.startTime.IsWritable ∧ ∀ t ∈ o.endTime, t.IsWritable

theorem spells_toJson (o : Owns) : Spells o.toJson o.toJson.render := by
  refine spells_ofFields ?_
  cases o.endTime <;> simp [spells_ofText, spells_ofInstant, Json.optionalField]

theorem ofJson_toJson {o : Owns} (h : o.IsWritable) : ofJson o.toJson = .ok o := by
  obtain ⟨hstart, hend⟩ := h
  rw [ofJson, toJson]
  obtain ⟨id, teamId, assetId, startTime, endTime⟩ := o
  cases endTime with
  | none =>
    rw [record_ofFields (by simp [Json.optionalField]) (by simp [Json.optionalField, fieldNames])]
    simp [bind, Except.bind, pure, Except.pure, Record.require, Record.orElse, get?_cons, asText_ofText,
      asInstant_ofInstant hstart.isCivil, Json.optionalField]
  | some t =>
    rw [record_ofFields (by simp [Json.optionalField]) (by simp [Json.optionalField, fieldNames])]
    simp [bind, Except.bind, pure, Except.pure, Record.require, Record.orElse, get?_cons, asText_ofText,
      asInstant_ofInstant hstart.isCivil, asOptional_ofInstant (hend t rfl).isCivil, Json.optionalField]

end Owns

namespace ParentOf

/-- The times of a containment can be written. -/
def IsWritable (e : ParentOf) : Prop := e.firstSeen.IsWritable ∧ e.lastSeen.IsWritable ∧ e.expiration.IsWritable

theorem spells_toJson (e : ParentOf) : Spells e.toJson e.toJson.render :=
  spells_ofFields (by simp [spells_ofText, spells_ofInstant])

theorem ofJson_toJson {e : ParentOf} (h : e.IsWritable) : ofJson e.toJson = .ok e := by
  obtain ⟨hfirst, hlast, hexpiration⟩ := h
  rw [ofJson, toJson, record_ofFields (by simp) (by simp [fieldNames])]
  simp [bind, Except.bind, pure, Except.pure, Record.require, get?_cons, asText_ofText,
    asInstant_ofInstant hfirst.isCivil, asInstant_ofInstant hlast.isCivil, asInstant_ofInstant hexpiration.isCivil]

end ParentOf

/-- **Decoding undoes encoding**: payloads and teams with any strings, and assets, ownerships (ended or not) and
containments with any strings and any times of the years 0 to 9999 (leap seconds at the end of a minute included), are
read from their texts as they were, and no two have one text. -/
theorem records_are_read_back_from_their_texts :
    IsFaithful Payload.toJson Payload.ofJson Set.univ ∧
    IsFaithful Asset.toJson Asset.ofJson {a | a.IsWritable} ∧
    IsFaithful Team.toJson Team.ofJson Set.univ ∧
    IsFaithful Owns.toJson Owns.ofJson {o | o.IsWritable} ∧
    IsFaithful ParentOf.toJson ParentOf.ofJson {e | e.IsWritable} :=
  ⟨isFaithful_of Payload.spells_toJson fun p _ => p.ofJson_toJson,
    isFaithful_of Asset.spells_toJson fun _ h => Asset.ofJson_toJson h,
    isFaithful_of Team.spells_toJson fun t _ => t.ofJson_toJson,
    isFaithful_of Owns.spells_toJson fun _ h => Owns.ofJson_toJson h,
    isFaithful_of ParentOf.spells_toJson fun _ h => ParentOf.ofJson_toJson h⟩

/-- An ownership from a leap second on, until the sentinel, under ids that need escapes. -/
theorem an_ownership_is_read_back :
    let o : Owns := { id := "o\"1\\", teamId := "t\n\t1", assetId := "Bjørn/☃",
                      startTime := { second := 1483228799, nano := 1000000001 }, endTime := some Instant.unexpired }
    o.IsWritable ∧ Json.decodeWith Owns.ofJson o.toJson.render = .ok o := by
  have h : Owns.IsWritable { id := "o\"1\\", teamId := "t\n\t1", assetId := "Bjørn/☃",
                             startTime := { second := 1483228799, nano := 1000000001 },
                             endTime := some Instant.unexpired } :=
    ⟨by decide, by rintro t ⟨⟩; decide⟩
  exact ⟨h, records_are_read_back_from_their_texts.2.2.2.1.decode _ h⟩

end AssetGraph
