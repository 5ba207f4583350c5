import AssetGraph.Json.Record
import AssetGraph.Proofs.Json.Grammar
import AssetGraph.Proofs.Json.Text
import Mathlib.Data.List.Perm.Basic
/-!
# Records and their members

What is written of a record is a text of its tree (`spells_ofFields`) and is read as its fields
(`record_ofFields`).  A record is read from any members of which none that is known is given twice
(`record_eq_ok_iff`), and a field is what the one member of its name holds (`get?_record`).  So neither the
order of the members nor members of other names matter (`record_of_perm`), a member that is taken out leaves
its field without a value (`record_of_removed`), and one that is given again is refused (`record_of_repeated`).
-/
namespace AssetGraph.Json

/-! ## Writing -/

theorem renderItems_eq (vs : List Json) : render.renderItems vs = commas (vs.map render) := by
  induction vs with
  | nil => rfl
  | cons v vs ih =>
    cases vs with
    | nil => rw [render.renderItems, List.map_singleton, commas_singleton]
    | cons w vs =>
      rw [render.renderItems, ih]
      simp only [List.map_cons, commas_cons_cons]

/-- The member that an entry is written as. -/
def written (e : Bytes × Json) : Member :=
  { name := e.1, nameText := ascii '"' :: (e.1 ++ [ascii '"']), value := e.2, valueText := e.2.render }

theorem entry_written (e : Bytes × Json) : (written e).entry = e := rfl

theorem renderMembers_eq (entries : List (Bytes × Json)) :
    render.renderMembers entries = commas (entries.map fun e => (written e).text) := by
  induction entries with
  | nil => rfl
  | cons e entries ih =>
    obtain ⟨k, v⟩ := e
    cases entries with
    | nil =>
      rw [render.renderMembers, List.map_singleton, commas_singleton]
      simp [written, Member.text]
    | cons e' entries =>
      rw [render.renderMembers, ih]
      simp [written, Member.text, commas_cons_cons]

theorem spells_ofText (s : String) : Spells (ofText s) (ofText s).render := .string (isRaw_escape s)

theorem spells_bool (b : Bool) : Spells (.bool b) (Json.bool b).render := by
  cases b with
  | false => exact .false
  | true => exact .true

theorem spells_array {vs : List Json} (h : ∀ v ∈ vs, Spells v v.render) :
    Spells (.array vs) (Json.array vs).render := by
  rw [render, renderItems_eq]
  cases vs with
  | nil => exact .emptyArray isBlank_nil
  | cons v vs =>
    let items : List (Json × Bytes) := (v :: vs).map fun v => (v, v.render)
    have hspells : Spells (.array (items.map Prod.fst)) (ascii '[' :: (commas (items.map Prod.snd) ++ [ascii ']'])) :=
      .array (by simp [items]) (by simpa [items] using h)
    simpa only [items, List.map_map, Function.comp_def, List.map_id'] using hspells

theorem spells_object {entries : List (Bytes × Json)} (hraw : ∀ e ∈ entries, IsRaw e.1)
    (h : ∀ e ∈ entries, Spells e.2 e.2.render) : Spells (.object entries) (Json.object entries).render := by
  rw [render, renderMembers_eq]
  cases entries with
  | nil => exact .emptyObject isBlank_nil
  | cons e entries =>
    let ms : List Member := (e :: entries).map written
    have hspells : Spells (.object (ms.map Member.entry))
        (ascii '\x7b' :: (commas (ms.map Member.text) ++ [ascii '\x7d'])) := .object (by simp [ms]) ?_ ?_
    · simpa only [ms, List.map_map, Function.comp_def, entry_written, List.map_id'] using hspells
    all_goals intro m hm
    · obtain ⟨e', he', rfl⟩ := List.mem_map.1 hm
      exact .string (hraw e' he')
    · obtain ⟨e', he', rfl⟩ := List.mem_map.1 hm
      exact h e' he'

theorem spells_ofFields {fields : List (String × Json)} (h : ∀ f ∈ fields, Spells f.2 f.2.render) :
    Spells (ofFields fields) (ofFields fields).render := by
  refine spells_object (fun e he => ?_) fun e he => ?_
  · obtain ⟨f, -, rfl⟩ := List.mem_map.1 he
    exact isRaw_escape f.1
  · obtain ⟨f, hf, rfl⟩ := List.mem_map.1 he
    exact h f hf

/-- What is written is read by the reader of its tree. -/
theorem decodeWith_render {α : Type} {j : Json} (h : Spells j j.render) (read : Json → Except Fault α) :
    decodeWith read j.render = read j := by
  rw [decodeWith, parse?_eq_some_iff.2 h]

/-! ## Reading -/

/-- A member whose name is a text, and the field that it stands for. -/
def Names (m : Bytes × Json) (f : String × Json) : Prop := text? m.1 = some f.1 ∧ m.2 = f.2

/-- The members of a name. -/
def under (name : String) (fs : List (String × Json)) : List (String × Json) := fs.filter fun f => f.1 == name

variable {names : List String} {ms ms' : List (Bytes × Json)} {fs fs' : List (String × Json)} {r : Record}
  {name : String} {v : Json}

theorem namedMembers_eq_ok_iff : namedMembers ms = .ok fs ↔ List.Forall₂ Names ms fs := by
  induction ms generalizing fs with
  | nil => simp [namedMembers, eq_comm]
  | cons m ms ih =>
    obtain ⟨k, v⟩ := m
    rw [namedMembers]
    cases ht : text? k with
    | none =>
      refine iff_of_false (by rintro ⟨⟩) fun h => ?_
      cases h with
      | cons hm _ =>
        rw [Names, ht] at hm
        cases hm.1
    | some t =>
      cases hms : namedMembers ms with
      | error e =>
        refine iff_of_false (by rintro ⟨⟩) fun h => ?_
        cases h with
        | cons _ hrest =>
          rw [← ih, hms] at hrest
          cases hrest
      | ok gs =>
        have hgs := ih.1 hms
        constructor
        · rintro ⟨⟩
          exact .cons ⟨ht, rfl⟩ hgs
        · rintro (_ | ⟨hm, hrest⟩)
          rw [← ih, hms] at hrest
          cases hrest
          obtain ⟨hname, hvalue⟩ := hm
          rw [ht, Option.some.injEq] at hname
          rw [show ((k, v).2 : Json) = v from rfl] at hvalue
          rw [hname, hvalue]
          rfl

theorem under_append (fs fs' : List (String × Json)) : under name (fs ++ fs') = under name fs ++ under name fs' :=
  List.filter_append fs fs'

theorem lookup_eq_under (name : String) (fs : List (String × Json)) :
    fs.lookup name = (under name fs).head?.map (·.2) := by
  induction fs with
  | nil => rfl
  | cons f fs ih =>
    obtain ⟨k, v⟩ := f
    by_cases hk : k = name
    · subst hk
      simp [under]
    · have hk' : (name == k) = false := beq_false_of_ne fun h => hk h.symm
      rw [List.lookup_cons, hk', ih, under, under, List.filter_cons_of_neg (by simpa using hk)]

theorem repeated?_eq_none_iff :
    repeated? names fs = none ↔ ∀ name ∈ names, (under name fs).length ≤ 1 := by
  simp [repeated?, under, List.find?_eq_none]

/-- **Which members make a record**: their names are texts, and none of those asked for is given twice. -/
theorem record_eq_ok_iff : record names (.object ms) = .ok r ↔ ∃ fs, List.Forall₂ Names ms fs ∧
    (∀ name ∈ names, (under name fs).length ≤ 1) ∧ r = fs.filter fun f => names.contains f.1 := by
  simp only [← namedMembers_eq_ok_iff, ← repeated?_eq_none_iff, record]
  cases hms : namedMembers ms with
  | error e => exact iff_of_false (by rintro ⟨⟩) (by rintro ⟨fs, ⟨⟩, -⟩)
  | ok fs =>
    cases hrep : repeated? names fs with
    | some name =>
      refine iff_of_false (by simp [bind, Except.bind, hrep]) ?_
      rintro ⟨fs, ⟨⟩, hnone, -⟩
      rw [hrep] at hnone
      cases hnone
    | none =>
      simp only [bind, Except.bind, hrep, Except.ok.injEq]
      constructor
      · rintro rfl
        exact ⟨fs, rfl, hrep, rfl⟩
      · rintro ⟨fs, rfl, -, rfl⟩
        rfl

/-- **What a field holds**: what the member of its name does. -/
theorem get?_filter (h : name ∈ names) (fs : List (String × Json)) :
    Record.get? (fs.filter fun f => names.contains f.1) name = (under name fs).head?.map (·.2) := by
  rw [Record.get?, lookup_eq_under, under, List.filter_filter, under]
  congr 3
  funext f
  by_cases hf : f.1 = name
  · simp [hf, h]
  · simp [hf]

theorem get?_of_not_mem (h : name ∉ names) (fs : List (String × Json)) :
    Record.get? (fs.filter fun f => names.contains f.1) name = none := by
  rw [Record.get?, lookup_eq_under, under, List.filter_filter, List.filter_eq_nil_iff.2]
  · rfl
  · rintro f -
    by_cases hf : f.1 = name
    · simp [hf, h]
    · simp [hf]

theorem get?_filter_congr (h : name ∈ names → under name fs' = under name fs) :
    Record.get? (fs'.filter fun f => names.contains f.1) name =
      Record.get? (fs.filter fun f => names.contains f.1) name := by
  by_cases hname : name ∈ names
  · rw [get?_filter hname, get?_filter hname, h hname]
  · rw [get?_of_not_mem hname, get?_of_not_mem hname]

/-- One member at most is the same in any order. -/
theorem eq_of_perm_of_length_le {fs gs : List (String × Json)} (h : fs.Perm gs) (hlength : gs.length ≤ 1) :
    fs = gs := by
  match gs, hlength with
  | [], _ => exact List.perm_nil.1 h
  | [f], _ => exact List.perm_singleton.1 h

theorem under_eq_nil {extra : List (String × Json)} (h : ∀ f ∈ extra, f.1 ∉ names) (hname : name ∈ names) :
    under name extra = [] := by
  refine List.filter_eq_nil_iff.2 fun f hf hk => h f hf ?_
  rw [beq_iff_eq] at hk
  exact hk ▸ hname

theorem under_perm (name : String) (h : fs.Perm fs') : (under name fs).Perm (under name fs') := h.filter _

theorem under_cons_self (name : String) (v : Json) (fs : List (String × Json)) :
    under name ((name, v) :: fs) = (name, v) :: under name fs := List.filter_cons_of_pos (by simp)

theorem under_cons_of_ne {name k : String} (h : k ≠ name) (v : Json) (fs : List (String × Json)) :
    under name ((k, v) :: fs) = under name fs := List.filter_cons_of_neg (by simpa using h)

theorem exists_names {P : String → Prop} (h : ∀ m ∈ ms, ∃ name, text? m.1 = some name ∧ P name) :
    ∃ fs, List.Forall₂ Names ms fs ∧ ∀ f ∈ fs, P f.1 := by
  induction ms with
  | nil => exact ⟨[], .nil, by simp⟩
  | cons m ms ih =>
    obtain ⟨⟨name, hname, hP⟩, hms⟩ := List.forall_mem_cons.1 h
    obtain ⟨fs, hfs, hall⟩ := ih hms
    exact ⟨(name, m.2) :: fs, .cons ⟨hname, rfl⟩ hfs, List.forall_mem_cons.2 ⟨hP, hall⟩⟩

/-- **Neither the order of the members nor members of other names matter.** -/
theorem record_of_perm {extra : List (Bytes × Json)} (h : record names (.object ms) = .ok r)
    (hperm : ms'.Perm (ms ++ extra)) (hextra : ∀ m ∈ extra, ∃ name, text? m.1 = some name ∧ name ∉ names) :
    ∃ r', record names (.object ms') = .ok r' ∧ ∀ name, r'.get? name = r.get? name := by
  obtain ⟨fs, hfs, hone, rfl⟩ := record_eq_ok_iff.1 h
  obtain ⟨gs, hgs, hunknown⟩ := exists_names hextra
  obtain ⟨fs', hfs', hperm'⟩ := List.perm_comp_forall₂ hperm (List.rel_append hfs hgs)
  have hunder (name : String) (hname : name ∈ names) : under name fs' = under name fs := by
    refine eq_of_perm_of_length_le ?_ (hone name hname)
    have := under_perm name hperm'
    rwa [under_append, under_eq_nil hunknown hname, List.append_nil] at this
  refine ⟨_, record_eq_ok_iff.2 ⟨fs', hfs', fun name hname => ?_, rfl⟩, fun name => ?_⟩
  · rw [hunder name hname]
    exact hone name hname
  · exact get?_filter_congr (hunder name)

theorem Names.eq {k : Bytes} {f : String × Json} (h : Names (k, v) f) (hk : text? k = some name) :
    f = (name, v) := by
  obtain ⟨hname, hvalue⟩ := h
  rw [hk, Option.some.injEq] at hname
  exact Prod.ext hname.symm hvalue.symm

/-- **A member that is taken out leaves its field without a value**, and no other one. -/
theorem record_of_removed {k : Bytes} (h : record names (.object ms) = .ok r) (hperm : ms.Perm ((k, v) :: ms'))
    (hk : text? k = some name) (hname : name ∈ names) : ∃ r', record names (.object ms') = .ok r' ∧
      r'.get? name = none ∧ ∀ other, other ≠ name → r'.get? other = r.get? other := by
  obtain ⟨fs, hfs, hone, rfl⟩ := record_eq_ok_iff.1 h
  obtain ⟨_, hgs, hperm'⟩ := List.perm_comp_forall₂ hperm.symm hfs
  obtain ⟨f, fs', hf, hfs', rfl⟩ := List.forall₂_cons_left_iff.1 hgs
  rw [hf.eq hk] at hperm'
  have hself : under name fs' = [] := by
    have hlength := (under_perm name hperm').length_eq
    rw [under_cons_self, List.length_cons] at hlength
    have := hone name hname
    exact List.length_eq_zero_iff.1 (by omega)
  have hother (other : String) (hne : other ≠ name) (hmem : other ∈ names) : under other fs' = under other fs := by
    refine eq_of_perm_of_length_le ?_ (hone other hmem)
    have := under_perm other hperm'
    rwa [under_cons_of_ne hne.symm] at this
  refine ⟨_, record_eq_ok_iff.2 ⟨fs', hfs', fun n hn => ?_, rfl⟩, ?_, fun other hne => ?_⟩
  · by_cases hne : n = name
    · rw [hne, hself]
      exact Nat.zero_le 1
    · rw [hother n hne hn]
      exact hone n hn
  · rw [get?_filter hname, hself]
    rfl
  · exact get?_filter_congr (hother other hne)

/-- A member that is put in gives its field, which had no value, that of the member, and no other one. -/
theorem record_of_inserted {k : Bytes} (h : record names (.object ms) = .ok r) (hperm : ms'.Perm ((k, v) :: ms))
    (hk : text? k = some name) (hname : name ∈ names) (hnone : r.get? name = none) :
    ∃ r', record names (.object ms') = .ok r' ∧ r'.get? name = some v ∧
      ∀ other, other ≠ name → r'.get? other = r.get? other := by
  obtain ⟨fs, hfs, hone, rfl⟩ := record_eq_ok_iff.1 h
  have habsent : under name fs = [] := by
    rwa [get?_filter hname, Option.map_eq_none_iff, List.head?_eq_none_iff] at hnone
  obtain ⟨fs', hfs', hperm'⟩ := List.perm_comp_forall₂ hperm (.cons (b := (name, v)) ⟨hk, rfl⟩ hfs)
  have hself : under name fs' = [(name, v)] := by
    have := under_perm name hperm'
    rwa [under_cons_self, habsent, List.perm_singleton] at this
  have hother (other : String) (hne : other ≠ name) (hmem : other ∈ names) : under other fs' = under other fs := by
    refine eq_of_perm_of_length_le ?_ (hone other hmem)
    have := under_perm other hperm'
    rwa [under_cons_of_ne hne.symm] at this
  refine ⟨_, record_eq_ok_iff.2 ⟨fs', hfs', fun n hn => ?_, rfl⟩, ?_, fun other hne => ?_⟩
  · by_cases hne : n = name
    · rw [hne, hself]
      exact le_rfl
    · rw [hother n hne hn]
      exact hone n hn
  · rw [get?_filter hname, hself]
    rfl
  · exact get?_filter_congr (hother other hne)

/-- **A member whose value is another one changes its field**, and no other one. -/
theorem record_of_replaced {k : Bytes} {before after : List (Bytes × Json)}
    (h : record names (.object (before ++ (k, v) :: after)) = .ok r) (hk : text? k = some name)
    (hname : name ∈ names) (w : Json) : r.get? name = some v ∧
      ∃ r', record names (.object (before ++ (k, w) :: after)) = .ok r' ∧ r'.get? name = some w ∧
        ∀ other, other ≠ name → r'.get? other = r.get? other := by
  obtain ⟨less, hless, hnone, hothers⟩ := record_of_removed h List.perm_middle hk hname
  obtain ⟨same, hsame, hv, -⟩ := record_of_inserted hless (v := v) List.perm_middle hk hname hnone
  obtain ⟨r', hr', hw, hothers'⟩ := record_of_inserted hless (v := w) List.perm_middle hk hname hnone
  rw [h] at hsame
  cases hsame
  exact ⟨hv, r', hr', hw, fun other hne => (hothers' other hne).trans (hothers other hne)⟩

/-- **A member that is given again is refused.** -/
theorem record_of_repeated {k k' : Bytes} {w : Json} (hperm : ms'.Perm ((k, v) :: ms)) (hk : text? k = some name)
    (hname : name ∈ names) (hm : (k', w) ∈ ms) (hk' : text? k' = some name) :
    ∃ fault, record names (.object ms') = .error fault := by
  cases h : record names (.object ms') with
  | error fault => exact ⟨fault, rfl⟩
  | ok r =>
    obtain ⟨fs, hfs, hone, -⟩ := record_eq_ok_iff.1 h
    obtain ⟨before, after, rfl⟩ := List.append_of_mem hm
    obtain ⟨_, hgs, hperm'⟩ := List.perm_comp_forall₂ (hperm.trans (List.perm_middle.cons (k, v))).symm hfs
    obtain ⟨f, _, hf, hgs', rfl⟩ := List.forall₂_cons_left_iff.1 hgs
    obtain ⟨g, gs, hg, -, rfl⟩ := List.forall₂_cons_left_iff.1 hgs'
    rw [hf.eq hk, hg.eq hk'] at hperm'
    have hlength := (under_perm name hperm').length_eq
    rw [under_cons_self, under_cons_self, List.length_cons, List.length_cons] at hlength
    have := hone name hname
    omega

/-- **A member whose name is no text is refused**, whatever its value. -/
theorem record_of_no_text {k : Bytes} (hm : (k, v) ∈ ms) (hk : text? k = none) :
    ∃ fault, record names (.object ms) = .error fault := by
  cases h : record names (.object ms) with
  | error fault => exact ⟨fault, rfl⟩
  | ok r =>
    obtain ⟨fs, hfs, -⟩ := record_eq_ok_iff.1 h
    obtain ⟨before, after, rfl⟩ := List.append_of_mem hm
    obtain ⟨_, hgs, -⟩ := List.perm_comp_forall₂ List.perm_middle.symm hfs
    obtain ⟨f, _, ⟨hname, -⟩, -⟩ := List.forall₂_cons_left_iff.1 hgs
    rw [hk] at hname
    cases hname

/-- **What is written of a record is read as its fields.** -/
theorem record_ofFields {fields : List (String × Json)} (hnodup : (fields.map Prod.fst).Nodup)
    (hsub : ∀ f ∈ fields, f.1 ∈ names) : record names (ofFields fields) = .ok fields := by
  refine record_eq_ok_iff.2 ⟨fields, ?_, fun name _ => ?_, ?_⟩
  · rw [List.forall₂_map_left_iff, List.forall₂_same]
    exact fun f _ => ⟨text?_escape f.1, rfl⟩
  · have hsame : (under name fields).map Prod.fst = List.replicate (under name fields).length name := by
      rw [List.eq_replicate_iff]
      refine ⟨List.length_map _, fun n hn => ?_⟩
      obtain ⟨f, hf, rfl⟩ := List.mem_map.1 hn
      exact beq_iff_eq.1 (List.mem_filter.1 hf).2
    have hsublist : ((under name fields).map Prod.fst).Nodup := hnodup.sublist (List.filter_sublist.map _)
    rwa [hsame, List.nodup_replicate] at hsublist
  · refine (List.filter_eq_self.2 fun f hf => ?_).symm
    rw [List.contains_iff_mem]
    exact hsub f hf

end AssetGraph.Json
