/-!
# Parts of a text

`parts sep cs` are the stretches of a text between its separators: one more than there are separators,
none of them holding one (`length_parts`, `not_mem_of_mem_parts`), and joined again by `join`, which
is its inverse (`join_parts`, `parts_join`).  A text has two parts exactly if one separator stands between two stretches
that hold none (`parts_eq_pair_iff`).
-/
namespace AssetGraph.Text

/-- Puts a character in front of the first part. -/
def consPart (c : Char) : List (List Char) → List (List Char)
  | [] => [[c]]
  | p :: ps => (c :: p) :: ps

/-- **The parts of a text between separators.** -/
def parts (sep : Char) : List Char → List (List Char)
  | [] => [[]]
  | c :: cs => if c = sep then [] :: parts sep cs else consPart c (parts sep cs)

/-- Parts with a separator between each two. -/
def join (sep : Char) : List (List Char) → List Char
  | [] => []
  | [p] => p
  | p :: q :: ps => p ++ sep :: join sep (q :: ps)

@[simp] theorem parts_nil (sep : Char) : parts sep [] = [[]] := rfl

theorem parts_ne_nil (sep : Char) (cs : List Char) : parts sep cs ≠ [] := by
  cases cs with
  | nil => simp
  | cons c cs =>
    rw [parts]
    split
    · simp
    · cases parts sep cs <;> simp [consPart]

theorem length_consPart {ps : List (List Char)} (c : Char) (h : ps ≠ []) :
    (consPart c ps).length = ps.length := by
  cases ps with
  | nil => exact absurd rfl h
  | cons p ps => rfl

/-- There is one part more than there are separators. -/
theorem length_parts (sep : Char) (cs : List Char) :
    (parts sep cs).length = cs.count sep + 1 := by
  induction cs with
  | nil => rfl
  | cons c cs ih =>
    by_cases h : c = sep
    · simp [parts, h, ih]
    · simp [parts, h, length_consPart c (parts_ne_nil sep cs), ih]

/-- No part holds a separator. -/
theorem not_mem_of_mem_parts {sep : Char} {cs p : List Char} (h : p ∈ parts sep cs) : sep ∉ p := by
  induction cs generalizing p with
  | nil => simp_all
  | cons c cs ih =>
    rw [parts] at h
    split at h
    · rcases List.mem_cons.1 h with rfl | h
      · simp
      · exact ih h
    · rename_i hc
      cases hp : parts sep cs with
      | nil => exact absurd hp (parts_ne_nil sep cs)
      | cons q qs =>
        rw [hp, consPart] at h
        rcases List.mem_cons.1 h with rfl | h
        · simp only [List.mem_cons, not_or]
          exact ⟨fun e => hc e.symm, ih (hp ▸ List.mem_cons_self)⟩
        · exact ih (hp ▸ List.mem_cons_of_mem q h)

theorem join_consPart {sep c : Char} {ps : List (List Char)} (h : ps ≠ []) :
    join sep (consPart c ps) = c :: join sep ps := by
  cases ps with
  | nil => exact absurd rfl h
  | cons p ps => cases ps <;> rfl

/-- Joining the parts gives the text back. -/
theorem join_parts (sep : Char) (cs : List Char) : join sep (parts sep cs) = cs := by
  induction cs with
  | nil => rfl
  | cons c cs ih =>
    rw [parts]
    split
    · rename_i h
      cases hp : parts sep cs with
      | nil => exact absurd hp (parts_ne_nil sep cs)
      | cons p ps => rw [hp] at ih; simp [join, ih, h]
    · rw [join_consPart (parts_ne_nil sep cs), ih]

theorem parts_eq_singleton {sep : Char} {cs : List Char} (h : sep ∉ cs) : parts sep cs = [cs] := by
  induction cs with
  | nil => rfl
  | cons c cs ih =>
    rw [List.mem_cons, not_or] at h
    rw [parts, if_neg fun e => h.1 e.symm, ih h.2]
    rfl

/-- The first part is what stands before the first separator. -/
theorem parts_append {sep : Char} {p : List Char} (h : sep ∉ p) (cs : List Char) :
    parts sep (p ++ sep :: cs) = p :: parts sep cs := by
  induction p with
  | nil => rw [List.nil_append, parts, if_pos rfl]
  | cons c p ih =>
    rw [List.mem_cons, not_or] at h
    rw [List.cons_append, parts, if_neg fun e => h.1 e.symm, ih h.2]
    rfl

/-- Splitting gives back what was joined, if no part holds a separator. -/
theorem parts_join {sep : Char} {ps : List (List Char)} (hne : ps ≠ []) (h : ∀ p ∈ ps, sep ∉ p) :
    parts sep (join sep ps) = ps := by
  induction ps with
  | nil => exact absurd rfl hne
  | cons p ps ih =>
    obtain ⟨hp, hps⟩ := List.forall_mem_cons.1 h
    cases ps with
    | nil => exact parts_eq_singleton hp
    | cons q ps => rw [join, parts_append hp, ih (List.cons_ne_nil q ps) hps]

theorem parts_eq_pair_iff {sep : Char} {cs p q : List Char} :
    parts sep cs = [p, q] ↔ cs = p ++ sep :: q ∧ sep ∉ p ∧ sep ∉ q := by
  constructor
  · intro h
    have hjoin := join_parts sep cs
    rw [h] at hjoin
    have hfree : ∀ x ∈ [p, q], sep ∉ x := fun x hx => not_mem_of_mem_parts (h ▸ hx)
    exact ⟨hjoin.symm, hfree p List.mem_cons_self, hfree q (List.mem_cons_of_mem p List.mem_cons_self)⟩
  · rintro ⟨rfl, hp, hq⟩
    rw [parts_append hp, parts_eq_singleton hq]

theorem parts_eq_cons_cons_iff {sep : Char} {cs p q : List Char} {qs : List (List Char)} :
    parts sep cs = p :: q :: qs ↔
      ∃ behind, cs = p ++ sep :: behind ∧ sep ∉ p ∧ parts sep behind = q :: qs := by
  constructor
  · intro h
    have hp : sep ∉ p := not_mem_of_mem_parts (h ▸ List.mem_cons_self)
    have hcs : cs = p ++ sep :: join sep (q :: qs) := by
      rw [← join_parts sep cs, h, join]
    refine ⟨join sep (q :: qs), hcs, hp, ?_⟩
    rw [hcs, parts_append hp] at h
    exact (List.cons.inj h).2
  · rintro ⟨behind, rfl, hp, hq⟩
    rw [parts_append hp, hq]

/-- A text has two parts or more exactly if it holds the separator. -/
theorem exists_parts_iff {sep : Char} {cs : List Char} :
    (∃ p q qs, parts sep cs = p :: q :: qs) ↔ sep ∈ cs := by
  have hlen := length_parts sep cs
  rw [← List.count_pos_iff]
  constructor
  · rintro ⟨p, q, qs, h⟩
    rw [h, List.length_cons, List.length_cons] at hlen
    omega
  · intro h
    match hp : parts sep cs with
    | [] => exact absurd hp (parts_ne_nil sep cs)
    | [p] =>
      rw [hp, List.length_singleton] at hlen
      omega
    | p :: q :: qs => exact ⟨p, q, qs, rfl⟩

end AssetGraph.Text
