import AssetGraph.Proofs.Json.Scalar
import Mathlib.Data.List.DropRight
/-!
# The grammar of JSON texts

`Spells j s`: the bytes `s` are a text of the tree `j`, with blanks wherever JSON allows them.  It says what a
text is without a reader; a tree has many texts.  The reader takes exactly these
(`parse?_eq_some_iff`): its bound is never too low for a text (`value?_of_spells`), at any depth.
-/
namespace AssetGraph.Json

/-- Nothing but blanks. -/
def IsBlank (s : Bytes) : Prop := ∀ b ∈ s, isSpace b = true

/-- Texts with commas between them. -/
def commas (ts : List Bytes) : Bytes := [ascii ','].intercalate ts

/-- **A member of an object as it is written**: a name and a value, and the text of each. -/
structure Member where
  name : Bytes
  nameText : Bytes
  value : Json
  valueText : Bytes

namespace Member

def entry (m : Member) : Bytes × Json := (m.name, m.value)

def text (m : Member) : Bytes := m.nameText ++ ascii ':' :: m.valueText

end Member

/-- **The texts of a tree.** -/
inductive Spells : Json → Bytes → Prop
  | null : Spells .null (asciiBytes ['n', 'u', 'l', 'l'])
  | true : Spells (.bool true) (asciiBytes ['t', 'r', 'u', 'e'])
  | false : Spells (.bool false) (asciiBytes ['f', 'a', 'l', 's', 'e'])
  | number {raw : Bytes} (h : IsNumber raw) : Spells (.number raw) raw
  | string {raw : Bytes} (h : IsRaw raw) : Spells (.string raw) (ascii '"' :: (raw ++ [ascii '"']))
  | emptyArray {w : Bytes} (h : IsBlank w) : Spells (.array []) (ascii '[' :: (w ++ [ascii ']']))
  | array {items : List (Json × Bytes)} (hne : items ≠ []) (h : ∀ i ∈ items, Spells i.1 i.2) :
      Spells (.array (items.map Prod.fst)) (ascii '[' :: (commas (items.map Prod.snd) ++ [ascii ']']))
  | emptyObject {w : Bytes} (h : IsBlank w) : Spells (.object []) (ascii '\x7b' :: (w ++ [ascii '\x7d']))
  | object {ms : List Member} (hne : ms ≠ []) (hname : ∀ m ∈ ms, Spells (.string m.name) m.nameText)
      (hvalue : ∀ m ∈ ms, Spells m.value m.valueText) :
      Spells (.object (ms.map Member.entry)) (ascii '\x7b' :: (commas (ms.map Member.text) ++ [ascii '\x7d']))
  | blank {j : Json} {before s after : Bytes} (hbefore : IsBlank before) (hafter : IsBlank after)
      (h : Spells j s) : Spells j (before ++ s ++ after)

variable {j v : Json} {s w k t r x rest : Bytes} {bound : Nat}

theorem commas_singleton (t : Bytes) : commas [t] = t := List.intercalate_singleton

theorem commas_cons_cons (t u : Bytes) (us : List Bytes) :
    commas (t :: u :: us) = t ++ ascii ',' :: commas (u :: us) := by
  rw [commas, List.intercalate_cons_cons, List.append_assoc]
  rfl

/-! ## Blanks -/

theorem isBlank_nil : IsBlank [] := by simp [IsBlank]

theorem skipSpaces_append (h : IsBlank w) (s : Bytes) : skipSpaces (w ++ s) = skipSpaces s :=
  List.dropWhile_append_of_pos h

theorem skipSpaces_cons {b : UInt8} (h : isSpace b = false) (r : Bytes) : skipSpaces (b :: r) = b :: r := by
  rw [skipSpaces, List.dropWhile_cons_of_neg (by simp [h])]

theorem skipSpaces_skipSpaces (s : Bytes) : skipSpaces (skipSpaces s) = skipSpaces s :=
  List.dropWhile_idempotent isSpace s

theorem skipSpaces_eq_nil_iff : skipSpaces s = [] ↔ IsBlank s := List.dropWhile_eq_nil_iff

/-- What is skipped is blank, and what is not skipped is none. -/
theorem exists_blank {b : UInt8} (h : skipSpaces s = b :: r) :
    isSpace b = false ∧ ∃ w, IsBlank w ∧ s = w ++ b :: r := by
  have hhead := List.head?_dropWhile_not isSpace s
  rw [← skipSpaces, h] at hhead
  refine ⟨hhead, s.takeWhile isSpace, fun _ hb => List.mem_takeWhile_imp hb, ?_⟩
  rw [← h]
  exact List.takeWhile_append_dropWhile.symm

theorem value?_skipSpaces (bound : Nat) (s : Bytes) : value? bound (skipSpaces s) = value? bound s := by
  cases bound with
  | zero => rfl
  | succ bound => rw [value?, value?, skipSpaces_skipSpaces]

theorem items?_skipSpaces (bound : Nat) (s : Bytes) : items? bound (skipSpaces s) = items? bound s := by
  cases bound with
  | zero => rfl
  | succ bound => rw [items?, items?, value?_skipSpaces]

theorem members?_skipSpaces (bound : Nat) (s : Bytes) : members? bound (skipSpaces s) = members? bound s := by
  cases bound with
  | zero => rfl
  | succ bound => rw [members?, members?, skipSpaces_skipSpaces]

theorem value?_blank (h : IsBlank w) (bound : Nat) (s : Bytes) : value? bound (w ++ s) = value? bound s := by
  rw [← value?_skipSpaces, skipSpaces_append h, value?_skipSpaces]

/-- No number begins with a blank, and none goes on with one. -/
theorem goesOn_of_isSpace {b : UInt8} (h : isSpace b = true) : goesOn b = false ∧ b ≠ ascii '-' := by
  simp only [isSpace, Bool.or_eq_true, beq_iff_eq] at h
  rcases h with ((rfl | rfl) | rfl) | rfl <;> exact ⟨rfl, by decide⟩

theorem Stops.blank (h : Stops rest) (hw : IsBlank w) : Stops (w ++ rest) := by
  cases w with
  | nil => exact h
  | cons b w => exact stops_cons (goesOn_of_isSpace (hw b List.mem_cons_self)).1 _

theorem not_isSpace_of_begins {b : UInt8} (h : b = ascii '-' ∨ isDigit b = true) : isSpace b = false := by
  cases hb : isSpace b with
  | false => rfl
  | true =>
    obtain ⟨hgoes, hminus⟩ := goesOn_of_isSpace hb
    simp only [goesOn, Bool.or_eq_false_iff] at hgoes
    rw [hgoes.1.1.1] at h
    exact absurd h (by simpa using hminus)

/-! ## What is written is read -/

/-- A text that is read as a tree, whatever follows; of the blanks behind it, some may be left. -/
def ReadsAs (j : Json) (s : Bytes) : Prop := ∀ bound rest, s.length ≤ bound → Stops rest →
  ∃ x, value? bound (s ++ rest) = some (j, x) ∧ skipSpaces x = skipSpaces rest

/-- A text begins with what ends nothing. -/
theorem Spells.begins (h : Spells j s) (rest : Bytes) :
    ∃ c r, skipSpaces (s ++ rest) = c :: r ∧ c ≠ ascii ']' ∧ c ≠ ascii '\x7d' := by
  induction h generalizing rest with
  | number h =>
    obtain ⟨b, r, rfl, hb⟩ := h.begins
    refine ⟨b, r ++ rest, skipSpaces_cons (not_isSpace_of_begins hb) _, ?_, ?_⟩ <;> rintro rfl <;> revert hb <;>
      decide
  | blank hbefore hafter _ ih =>
    obtain ⟨c, r, hc, hne⟩ := ih (_ ++ rest)
    rw [List.append_assoc, List.append_assoc, skipSpaces_append hbefore]
    exact ⟨c, r, hc, hne⟩
  | _ => exact ⟨_, _, skipSpaces_cons rfl _, by decide, by decide⟩

/-- So do texts with commas between them. -/
theorem begins_commas (h : Spells j s) (u : Bytes) (us : List Bytes) (rest : Bytes) :
    ∃ c r, skipSpaces (commas ((s ++ u) :: us) ++ rest) = c :: r ∧ c ≠ ascii ']' ∧ c ≠ ascii '\x7d' := by
  cases us with
  | nil =>
    rw [commas_singleton, List.append_assoc]
    exact h.begins _
  | cons t us =>
    rw [commas_cons_cons, List.append_assoc, List.append_assoc]
    exact h.begins _

theorem Spells.string_eq (h : Spells (.string k) s) : IsRaw k ∧ ∃ before after, IsBlank before ∧ IsBlank after ∧
    s = before ++ ascii '"' :: (k ++ ascii '"' :: after) := by
  generalize hj : Json.string k = j at h
  induction h with
  | string h =>
    cases hj
    exact ⟨h, [], [], isBlank_nil, isBlank_nil, rfl⟩
  | @blank _ l _ r hbefore hafter _ ih =>
    obtain ⟨hk, before, after, hb, ha, rfl⟩ := ih hj
    refine ⟨hk, l ++ before, after ++ r, ?_, ?_, by simp only [List.append_assoc, List.cons_append]⟩
    · exact fun b hm => (List.mem_append.1 hm).elim (hbefore b) (hb b)
    · exact fun b hm => (List.mem_append.1 hm).elim (ha b) (hafter b)
  | _ => cases hj

theorem items?_last (hv : value? bound s = some (v, x)) (hx : skipSpaces x = ascii ']' :: rest) :
    items? (bound + 1) s = some ([v], rest) := by
  rw [items?, hv]
  dsimp only
  rw [hx]
  rfl

theorem items?_more (hv : value? bound s = some (v, x)) (hx : skipSpaces x = ascii ',' :: r) :
    items? (bound + 1) s = (items? bound r).map fun (vs, rest) => (v :: vs, rest) := by
  rw [items?, hv]
  dsimp only
  rw [hx]
  rfl

theorem items?_of_readsAs {items : List (Json × Bytes)} (hne : items ≠ []) (h : ∀ i ∈ items, ReadsAs i.1 i.2)
    (hb : (commas (items.map Prod.snd)).length + 1 ≤ bound) (rest : Bytes) :
    items? bound (commas (items.map Prod.snd) ++ ascii ']' :: rest) = some (items.map Prod.fst, rest) := by
  induction items generalizing bound with
  | nil => exact absurd rfl hne
  | cons i items ih =>
    obtain ⟨bound, rfl⟩ : ∃ n, bound = n + 1 := ⟨bound - 1, by omega⟩
    have hi := h i List.mem_cons_self
    cases items with
    | nil =>
      rw [List.map_singleton, commas_singleton] at hb ⊢
      obtain ⟨x, hx, hskip⟩ := hi bound (ascii ']' :: rest) (by omega) (stops_cons rfl _)
      exact items?_last hx hskip
    | cons i' items =>
      rw [List.map_cons, List.map_cons, commas_cons_cons] at hb ⊢
      rw [List.length_append, List.length_cons] at hb
      rw [List.append_assoc, List.cons_append]
      obtain ⟨x, hx, hskip⟩ := hi bound (ascii ',' :: (commas (i'.2 :: items.map Prod.snd) ++ ascii ']' :: rest))
        (by omega) (stops_cons rfl _)
      rw [items?_more hx hskip, ← List.map_cons, ih (by simp) (fun i hm => h i (List.mem_cons_of_mem _ hm))
        (by rw [List.map_cons]; omega)]
      rfl

section Member

variable (hs : skipSpaces s = ascii '"' :: r) (hk : rawString? r = some (k, t))
  (ht : skipSpaces t = ascii ':' :: w) (hv : value? bound w = some (v, x))
include hs hk ht hv

theorem members?_last (hx : skipSpaces x = ascii '\x7d' :: rest) :
    members? (bound + 1) s = some ([(k, v)], rest) := by
  simp only [members?, hs, beq_self_eq_true, if_true, hk, ht, hv, hx]
  rfl

theorem members?_more {u : Bytes} (hx : skipSpaces x = ascii ',' :: u) :
    members? (bound + 1) s = (members? bound u).map fun (ms, rest) => ((k, v) :: ms, rest) := by
  simp only [members?, hs, beq_self_eq_true, if_true, hk, ht, hv, hx]

end Member

theorem members?_of_readsAs {ms : List Member} (hne : ms ≠ [])
    (hname : ∀ m ∈ ms, Spells (.string m.name) m.nameText) (h : ∀ m ∈ ms, ReadsAs m.value m.valueText)
    (hb : (commas (ms.map Member.text)).length + 1 ≤ bound) (rest : Bytes) :
    members? bound (commas (ms.map Member.text) ++ ascii '\x7d' :: rest) = some (ms.map Member.entry, rest) := by
  induction ms generalizing bound with
  | nil => exact absurd rfl hne
  | cons m ms ih =>
    obtain ⟨bound, rfl⟩ : ∃ n, bound = n + 1 := ⟨bound - 1, by omega⟩
    have hm := h m List.mem_cons_self
    obtain ⟨hraw, before, after, hbefore, hafter, htext⟩ := (hname m List.mem_cons_self).string_eq
    -- the name, its quotes and the colon, whatever follows
    have hquote (u : Bytes) : skipSpaces (m.text ++ u) =
        ascii '"' :: (m.name ++ ascii '"' :: (after ++ ascii ':' :: (m.valueText ++ u))) := by
      simp only [Member.text, htext, List.append_assoc, List.cons_append]
      rw [skipSpaces_append hbefore, skipSpaces_cons rfl]
    have hcolon (u : Bytes) : skipSpaces (after ++ ascii ':' :: (m.valueText ++ u)) =
        ascii ':' :: (m.valueText ++ u) := by
      rw [skipSpaces_append hafter, skipSpaces_cons rfl]
    have hlength : m.valueText.length ≤ m.text.length := by
      simp only [Member.text, List.length_append, List.length_cons]
      omega
    cases ms with
    | nil =>
      rw [List.map_singleton, commas_singleton] at hb ⊢
      obtain ⟨x, hx, hskip⟩ := hm bound (ascii '\x7d' :: rest) (by omega) (stops_cons rfl _)
      exact members?_last (hquote _) (hraw.rawString? _) (hcolon _) hx hskip
    | cons m' ms =>
      rw [List.map_cons, List.map_cons, commas_cons_cons] at hb ⊢
      rw [List.length_append, List.length_cons] at hb
      rw [List.append_assoc, List.cons_append]
      obtain ⟨x, hx, hskip⟩ := hm bound (ascii ',' :: (commas (m'.text :: ms.map Member.text) ++
        ascii '\x7d' :: rest)) (by omega) (stops_cons rfl _)
      rw [members?_more (hquote _) (hraw.rawString? _) (hcolon _) hx hskip, ← List.map_cons,
        ih (by simp) (fun m hmem => hname m (List.mem_cons_of_mem _ hmem))
          (fun m hmem => h m (List.mem_cons_of_mem _ hmem)) (by rw [List.map_cons]; omega)]
      rfl

theorem value?_number {c : UInt8} (hc : c = ascii '-' ∨ isDigit c = true) (bound : Nat) (r : Bytes) :
    value? (bound + 1) (c :: r) = (number? (c :: r)).map fun (raw, rest) => (.number raw, rest) := by
  have hne (d : UInt8) (hd : ¬ (d = ascii '-' ∨ isDigit d = true)) : (c == d) = false :=
    beq_false_of_ne fun h => hd (h ▸ hc)
  simp only [value?, skipSpaces_cons (not_isSpace_of_begins hc), hne (ascii '"') (by decide),
    hne (ascii '[') (by decide), hne (ascii '\x7b') (by decide), hne (ascii 'n') (by decide),
    hne (ascii 't') (by decide), hne (ascii 'f') (by decide), Bool.false_eq_true, if_false]

theorem value?_array {c : UInt8} (hr : skipSpaces r = c :: s) (hc : c ≠ ascii ']') (bound : Nat) :
    value? (bound + 1) (ascii '[' :: r) = (items? bound r).map fun (vs, rest) => (.array vs, rest) := by
  rw [← items?_skipSpaces bound r, hr]
  simp only [value?, skipSpaces_cons (show isSpace (ascii '[') = false from rfl), hr, beq_self_eq_true, if_true,
    beq_false_of_ne hc, Bool.false_eq_true, if_false]
  rfl

theorem value?_object {c : UInt8} (hr : skipSpaces r = c :: s) (hc : c ≠ ascii '\x7d') (bound : Nat) :
    value? (bound + 1) (ascii '\x7b' :: r) = (members? bound r).map fun (ms, rest) => (.object ms, rest) := by
  rw [← members?_skipSpaces bound r, hr]
  simp only [value?, skipSpaces_cons (show isSpace (ascii '\x7b') = false from rfl), hr, beq_self_eq_true, if_true,
    beq_false_of_ne hc, Bool.false_eq_true, if_false]
  rfl

theorem value?_emptyArray (h : IsBlank w) (bound : Nat) (rest : Bytes) :
    value? (bound + 1) (ascii '[' :: (w ++ ascii ']' :: rest)) = some (.array [], rest) := by
  simp only [value?, skipSpaces_cons (show isSpace (ascii '[') = false from rfl), skipSpaces_append h,
    skipSpaces_cons (show isSpace (ascii ']') = false from rfl), beq_self_eq_true, if_true]
  rfl

theorem value?_emptyObject (h : IsBlank w) (bound : Nat) (rest : Bytes) :
    value? (bound + 1) (ascii '\x7b' :: (w ++ ascii '\x7d' :: rest)) = some (.object [], rest) := by
  simp only [value?, skipSpaces_cons (show isSpace (ascii '\x7b') = false from rfl), skipSpaces_append h,
    skipSpaces_cons (show isSpace (ascii '\x7d') = false from rfl), beq_self_eq_true, if_true]
  rfl

theorem readsAs_cons {b : UInt8}
    (h : ∀ bound rest, t.length ≤ bound → Stops rest → value? (bound + 1) (b :: (t ++ rest)) = some (j, rest)) :
    ReadsAs j (b :: t) := by
  intro bound rest hb hrest
  rw [List.length_cons] at hb
  obtain ⟨bound, rfl⟩ : ∃ n, bound = n + 1 := ⟨bound - 1, by omega⟩
  exact ⟨rest, h bound rest (by omega) hrest, rfl⟩

/-- **What the grammar derives is read**, with a bound that is no lower than the text is long. -/
theorem Spells.readsAs (h : Spells j s) : ReadsAs j s := by
  induction h with
  | blank hbefore hafter _ ih =>
    intro bound rest hb hrest
    rw [List.length_append, List.length_append] at hb
    obtain ⟨x, hx, hskip⟩ := ih bound (_ ++ rest) (by omega) (hrest.blank hafter)
    rw [skipSpaces_append hafter] at hskip
    refine ⟨x, ?_, hskip⟩
    rw [List.append_assoc, List.append_assoc, value?_blank hbefore, hx]
  | number h =>
    obtain ⟨b, r, rfl, hbegins⟩ := h.begins
    refine readsAs_cons fun bound rest hb hrest => ?_
    rw [value?_number hbegins, ← List.cons_append, number?_append h hrest]
    rfl
  | @string raw h =>
    refine readsAs_cons fun bound rest hb hrest => ?_
    rw [List.append_assoc, List.singleton_append]
    have hread : value? (bound + 1) (ascii '"' :: (raw ++ ascii '"' :: rest)) =
        (rawString? (raw ++ ascii '"' :: rest)).map fun (raw, rest) => (.string raw, rest) := rfl
    rw [hread, h.rawString?]
    rfl
  | emptyArray h =>
    refine readsAs_cons fun bound rest hb hrest => ?_
    rw [List.append_assoc]
    exact value?_emptyArray h bound rest
  | emptyObject h =>
    refine readsAs_cons fun bound rest hb hrest => ?_
    rw [List.append_assoc]
    exact value?_emptyObject h bound rest
  | @array items hne h ih =>
    refine readsAs_cons fun bound rest hb hrest => ?_
    rw [List.length_append, List.length_singleton] at hb
    rw [List.append_assoc, List.singleton_append]
    obtain ⟨c, r, hskip, hc, -⟩ : ∃ c r, skipSpaces (commas (items.map Prod.snd) ++ ascii ']' :: rest) = c :: r ∧
        c ≠ ascii ']' ∧ c ≠ ascii '\x7d' := by
      obtain ⟨i, items, rfl⟩ := List.exists_cons_of_ne_nil hne
      simpa using begins_commas (h i List.mem_cons_self) [] (items.map Prod.snd) (ascii ']' :: rest)
    rw [value?_array hskip hc, items?_of_readsAs hne ih hb]
    rfl
  | @object ms hne hname hvalue _ ih =>
    refine readsAs_cons fun bound rest hb hrest => ?_
    rw [List.length_append, List.length_singleton] at hb
    rw [List.append_assoc, List.singleton_append]
    obtain ⟨c, r, hskip, -, hc⟩ : ∃ c r, skipSpaces (commas (ms.map Member.text) ++ ascii '\x7d' :: rest) = c :: r ∧
        c ≠ ascii ']' ∧ c ≠ ascii '\x7d' := by
      obtain ⟨m, ms, rfl⟩ := List.exists_cons_of_ne_nil hne
      exact begins_commas (hname m List.mem_cons_self) _ _ _
    rw [value?_object hskip hc, members?_of_readsAs hne hname ih hb]
    rfl
  | _ => exact readsAs_cons fun bound rest hb hrest => rfl

/-! ## What is read is written -/

/-- A text in front of what is left is one of the tree. -/
def ReadsValues (bound : Nat) : Prop := ∀ s j rest, value? bound s = some (j, rest) →
  ∃ t, s = t ++ rest ∧ Spells j t

def ReadsItems (bound : Nat) : Prop := ∀ s vs rest, items? bound s = some (vs, rest) →
  ∃ items : List (Json × Bytes), items ≠ [] ∧ (∀ i ∈ items, Spells i.1 i.2) ∧ vs = items.map Prod.fst ∧
    s = commas (items.map Prod.snd) ++ ascii ']' :: rest

def ReadsMembers (bound : Nat) : Prop := ∀ s entries rest, members? bound s = some (entries, rest) →
  ∃ ms : List Member, ms ≠ [] ∧ (∀ m ∈ ms, Spells (.string m.name) m.nameText ∧ Spells m.value m.valueText) ∧
    entries = ms.map Member.entry ∧ s = commas (ms.map Member.text) ++ ascii '\x7d' :: rest

theorem after?_eq_some {letters : List Char} (h : after? letters s = some rest) :
    s = asciiBytes letters ++ rest := by
  simp only [after?, Option.ite_none_right_eq_some, Option.some.injEq, List.isPrefixOf_iff_prefix] at h
  obtain ⟨⟨t, rfl⟩, rfl⟩ := h
  simp [asciiBytes]

theorem Spells.before (h : Spells j s) (hw : IsBlank w) : Spells j (w ++ s) := by
  have := h.blank hw isBlank_nil
  rwa [List.append_nil] at this

theorem Spells.behind (h : Spells j s) (hw : IsBlank w) : Spells j (s ++ w) := h.blank isBlank_nil hw

theorem spells_of_string (h : value? (bound + 1) (ascii '"' :: r) = some (j, rest)) :
    ∃ t, ascii '"' :: r = t ++ rest ∧ Spells j t := by
  have hread : value? (bound + 1) (ascii '"' :: r) =
      (rawString? r).map fun (raw, rest) => (.string raw, rest) := rfl
  simp only [hread, Option.map_eq_some_iff, Prod.mk.injEq, Prod.exists] at h
  obtain ⟨raw, rest', h, rfl, rfl⟩ := h
  obtain ⟨hraw, rfl⟩ := rawString?_eq_some_iff.1 h
  exact ⟨_, by simp, .string hraw⟩

theorem spells_of_array (hitems : ReadsItems bound) (h : value? (bound + 1) (ascii '[' :: r) = some (j, rest)) :
    ∃ t, ascii '[' :: r = t ++ rest ∧ Spells j t := by
  cases hskip : skipSpaces r with
  | nil =>
    simp only [value?, skipSpaces_cons (show isSpace (ascii '[') = false from rfl), hskip] at h
    cases h
  | cons c r' =>
    by_cases hc : c = ascii ']'
    · obtain ⟨-, w, hw, rfl⟩ := exists_blank hskip
      rw [hc, value?_emptyArray hw] at h
      cases h
      exact ⟨_, by simp [hc], .emptyArray hw⟩
    · simp only [value?_array hskip hc, Option.map_eq_some_iff, Prod.mk.injEq, Prod.exists] at h
      obtain ⟨vs, rest', h, rfl, rfl⟩ := h
      obtain ⟨items, hne, hspells, rfl, rfl⟩ := hitems _ _ _ h
      exact ⟨_, by simp, .array hne hspells⟩

theorem spells_of_object (hmembers : ReadsMembers bound)
    (h : value? (bound + 1) (ascii '\x7b' :: r) = some (j, rest)) :
    ∃ t, ascii '\x7b' :: r = t ++ rest ∧ Spells j t := by
  cases hskip : skipSpaces r with
  | nil =>
    simp only [value?, skipSpaces_cons (show isSpace (ascii '\x7b') = false from rfl), hskip] at h
    cases h
  | cons c r' =>
    by_cases hc : c = ascii '\x7d'
    · obtain ⟨-, w, hw, rfl⟩ := exists_blank hskip
      rw [hc, value?_emptyObject hw] at h
      cases h
      exact ⟨_, by simp [hc], .emptyObject hw⟩
    · simp only [value?_object hskip hc, Option.map_eq_some_iff, Prod.mk.injEq, Prod.exists] at h
      obtain ⟨entries, rest', h, rfl, rfl⟩ := h
      obtain ⟨ms, hne, hspells, rfl, rfl⟩ := hmembers _ _ _ h
      exact ⟨_, by simp, .object hne (fun m hm => (hspells m hm).1) fun m hm => (hspells m hm).2⟩

/-- A word behind its first letter. -/
theorem spells_of_after {b : UInt8} {letters : List Char} (hv : Spells v (b :: asciiBytes letters))
    (h : ((after? letters r).map fun rest => (v, rest)) = some (j, rest)) :
    ∃ t, b :: r = t ++ rest ∧ Spells j t := by
  simp only [Option.map_eq_some_iff, Prod.mk.injEq] at h
  obtain ⟨rest', h, rfl, rfl⟩ := h
  rw [after?_eq_some h]
  exact ⟨_, rfl, hv⟩

/-- A value that begins with no blank. -/
theorem spells_of_value (hitems : ReadsItems bound) (hmembers : ReadsMembers bound) {b : UInt8}
    (hb : isSpace b = false) (h : value? (bound + 1) (b :: r) = some (j, rest)) :
    ∃ t, b :: r = t ++ rest ∧ Spells j t := by
  by_cases hquote : b = ascii '"'
  · subst hquote
    exact spells_of_string h
  by_cases hbracket : b = ascii '['
  · subst hbracket
    exact spells_of_array hitems h
  by_cases hbrace : b = ascii '\x7b'
  · subst hbrace
    exact spells_of_object hmembers h
  by_cases hn : b = ascii 'n'
  · subst hn
    exact spells_of_after .null h
  by_cases ht : b = ascii 't'
  · subst ht
    exact spells_of_after .true h
  by_cases hf : b = ascii 'f'
  · subst hf
    exact spells_of_after .false h
  simp only [value?, skipSpaces_cons hb, beq_iff_eq, hquote, hbracket, hbrace, hn, ht, hf, if_false,
    Option.map_eq_some_iff, Prod.mk.injEq, Prod.exists] at h
  obtain ⟨raw, rest', h, rfl, rfl⟩ := h
  obtain ⟨hnumber, hr⟩ := number?_eq_some h
  exact ⟨raw, hr, .number hnumber⟩

theorem readsValues_succ (hitems : ReadsItems bound) (hmembers : ReadsMembers bound) : ReadsValues (bound + 1) := by
  intro s j rest h
  rw [← value?_skipSpaces] at h
  cases hskip : skipSpaces s with
  | nil =>
    rw [hskip] at h
    cases h
  | cons b r =>
    obtain ⟨hb, w, hw, rfl⟩ := exists_blank hskip
    rw [hskip] at h
    obtain ⟨t, ht, hspells⟩ := spells_of_value hitems hmembers hb h
    exact ⟨w ++ t, by rw [ht, List.append_assoc], hspells.before hw⟩

theorem readsItems_succ (hvalues : ReadsValues bound) (hitems : ReadsItems bound) : ReadsItems (bound + 1) := by
  intro s vs rest h
  rw [items?] at h
  split at h
  · cases h
  rename_i v r hv
  obtain ⟨t, rfl, ht⟩ := hvalues _ _ _ hv
  split at h
  · cases h
  rename_i b r' hskip
  obtain ⟨-, w, hw, rfl⟩ := exists_blank hskip
  split at h
  · rename_i hb
    rw [beq_iff_eq] at hb
    subst hb
    simp only [Option.map_eq_some_iff, Prod.mk.injEq, Prod.exists] at h
    obtain ⟨vs', rest', h, rfl, rfl⟩ := h
    obtain ⟨items, hne, hspells, rfl, rfl⟩ := hitems _ _ _ h
    obtain ⟨i, items, rfl⟩ := List.exists_cons_of_ne_nil hne
    refine ⟨(v, t ++ w) :: i :: items, by simp, List.forall_mem_cons.2 ⟨ht.behind hw, hspells⟩, rfl, ?_⟩
    simp only [List.map_cons, commas_cons_cons, List.append_assoc, List.cons_append]
  split at h
  · rename_i hb
    rw [beq_iff_eq] at hb
    subst hb
    cases h
    refine ⟨[(v, t ++ w)], by simp, by simpa using ht.behind hw, rfl, ?_⟩
    simp only [List.map_singleton, commas_singleton, List.append_assoc]
  · cases h

theorem readsMembers_succ (hvalues : ReadsValues bound) (hmembers : ReadsMembers bound) :
    ReadsMembers (bound + 1) := by
  intro s entries rest h
  rw [members?] at h
  split at h
  · cases h
  rename_i b r hs
  obtain ⟨-, w, hw, rfl⟩ := exists_blank hs
  split at h
  case isFalse => cases h
  rename_i hb
  rw [beq_iff_eq] at hb
  subst hb
  split at h
  · cases h
  rename_i k r hk
  obtain ⟨hraw, rfl⟩ := rawString?_eq_some_iff.1 hk
  split at h
  · cases h
  rename_i c r hc
  obtain ⟨-, w', hw', rfl⟩ := exists_blank hc
  split at h
  case isFalse => cases h
  rename_i hcolon
  rw [beq_iff_eq] at hcolon
  subst hcolon
  split at h
  · cases h
  rename_i v r hv
  obtain ⟨t, rfl, ht⟩ := hvalues _ _ _ hv
  split at h
  · cases h
  rename_i d r hd
  obtain ⟨-, w'', hw'', rfl⟩ := exists_blank hd
  let m : Member :=
    { name := k, nameText := w ++ (ascii '"' :: (k ++ [ascii '"'])) ++ w', value := v, valueText := t ++ w'' }
  have hm : Spells (.string m.name) m.nameText ∧ Spells m.value m.valueText :=
    ⟨(Spells.string hraw).blank hw hw', ht.behind hw''⟩
  split at h
  · rename_i hcomma
    rw [beq_iff_eq] at hcomma
    subst hcomma
    simp only [Option.map_eq_some_iff, Prod.mk.injEq, Prod.exists] at h
    obtain ⟨entries', rest', h, rfl, rfl⟩ := h
    obtain ⟨ms, hne, hspells, rfl, rfl⟩ := hmembers _ _ _ h
    obtain ⟨m', ms, rfl⟩ := List.exists_cons_of_ne_nil hne
    refine ⟨m :: m' :: ms, by simp, List.forall_mem_cons.2 ⟨hm, hspells⟩, rfl, ?_⟩
    simp [m, Member.text, commas_cons_cons]
  split at h
  · rename_i hbrace
    rw [beq_iff_eq] at hbrace
    subst hbrace
    cases h
    refine ⟨[m], by simp, by simpa using hm, rfl, ?_⟩
    simp [m, Member.text, commas_singleton]
  · cases h

theorem reads_all (bound : Nat) : ReadsValues bound ∧ ReadsItems bound ∧ ReadsMembers bound := by
  induction bound with
  | zero => exact ⟨by rintro s j rest ⟨⟩, by rintro s j rest ⟨⟩, by rintro s j rest ⟨⟩⟩
  | succ bound ih =>
    obtain ⟨hvalues, hitems, hmembers⟩ := ih
    exact ⟨readsValues_succ hitems hmembers, readsItems_succ hvalues hitems, readsMembers_succ hvalues hmembers⟩

/-- **A tree is read from exactly its texts.** -/
theorem parse?_eq_some_iff : parse? s = some j ↔ Spells j s := by
  constructor
  · intro h
    rw [parse?] at h
    split at h
    · rename_i v rest hv
      simp only [Option.ite_none_right_eq_some, Option.some.injEq] at h
      obtain ⟨hrest, rfl⟩ := h
      obtain ⟨t, rfl, ht⟩ := (reads_all _).1 _ _ _ hv
      exact ht.behind (skipSpaces_eq_nil_iff.1 hrest)
    · cases h
  · intro h
    obtain ⟨x, hx, hskip⟩ := h.readsAs (s.length + 1) [] (by omega) stops_nil
    rw [List.append_nil] at hx
    have hnil : skipSpaces x = [] := hskip
    simp only [parse?, hx, hnil, if_true]

end AssetGraph.Json
