import AssetGraph.Event.Version
/-!
# Which versions are understood

A version has at most one `v` in front, then the digits of its major number, and two points or more
behind them.  All such versions of the right number are understood.  One plus sign in front of the digits
is let through, too, and nothing else is (`isSupported_is_exact_unless_a_plus_leads`).
-/
namespace AssetGraph.Version

/-- **What a version looks like**: at most one `v`, a sign, and the digits of the major number, however
many of them; the first of two points or more stands right behind. -/
def IsSpelled (sign : List Char) (major : Nat) (cs : List Char) : Prop :=
  ∃ mark lead behind, cs = mark ++ (sign ++ lead ++ '.' :: behind) ∧ (mark = [] ∨ mark = ['v']) ∧
    Decimal.isNumeral lead = true ∧ Decimal.ofDigits lead = major ∧ '.' ∈ behind

variable {sign cs : List Char} {major : Nat}

theorem withoutMark_cases (cs : List Char) : withoutMark cs = cs ∨ cs = 'v' :: withoutMark cs := by
  match cs with
  | [] => exact .inl rfl
  | c :: cs =>
    by_cases hc : c = 'v'
    · exact .inr (by rw [hc, withoutMark])
    · refine .inl ?_
      rw [withoutMark]
      exact fun _ he => hc (List.cons.inj he).1

theorem withoutMark_append {mark : List Char} {c : Char} (h : mark = [] ∨ mark = ['v']) (hc : c ≠ 'v') :
    withoutMark (mark ++ c :: cs) = c :: cs := by
  rcases h with rfl | rfl
  · rcases withoutMark_cases (c :: cs) with hm | hm
    · exact hm
    · exact absurd (List.cons.inj hm).1 hc
  · rfl

/-- The number is what stands in front of the first point, and another point is behind that. -/
theorem major?_eq_some_iff {n : Nat} : major? cs = some n ↔
    ∃ lead behind, withoutMark cs = lead ++ '.' :: behind ∧ '.' ∉ lead ∧ '.' ∈ behind ∧
      Decimal.bounded? Decimal.limit64 lead = some n := by
  constructor
  · intro h
    rw [major?] at h
    split at h
    · rename_i lead p q qs hparts
      obtain ⟨behind, hcs, hlead, hbehind⟩ := Text.parts_eq_cons_cons_iff.1 hparts
      exact ⟨lead, behind, hcs, hlead, Text.exists_parts_iff.1 ⟨p, q, qs, hbehind⟩, h⟩
    · cases h
  · rintro ⟨lead, behind, hcs, hlead, hbehind, hn⟩
    obtain ⟨p, q, qs, hparts⟩ := Text.exists_parts_iff.2 hbehind
    rw [major?, Text.parts_eq_cons_cons_iff.2 ⟨behind, hcs, hlead, hparts⟩]
    exact hn

/-- The sign and the digits are what the mark leaves. -/
theorem withoutMark_spelled {mark lead behind : List Char} (hm : mark = [] ∨ mark = ['v'])
    (hs : sign = [] ∨ sign = ['+']) (hl : Decimal.isNumeral lead = true) :
    withoutMark (mark ++ (sign ++ lead ++ '.' :: behind)) = sign ++ lead ++ '.' :: behind := by
  obtain ⟨d, ds, rfl, -⟩ := Decimal.exists_digit_of_isNumeral hl
  rcases hs with rfl | rfl
  · exact withoutMark_append hm (Decimal.ne_of_isNumeral hl rfl)
  · exact withoutMark_append hm (by decide)

theorem major?_of_isSpelled (h : IsSpelled sign major cs) (hs : sign = [] ∨ sign = ['+'])
    (hmajor : major < Decimal.limit64) : major? cs = some major := by
  obtain ⟨mark, lead, behind, rfl, hm, hl, hn, hb⟩ := h
  refine major?_eq_some_iff.2 ⟨sign ++ lead, behind, withoutMark_spelled hm hs hl, ?_, hb, ?_⟩
  · have hfree : '.' ∉ lead := by
      intro hdot
      simp only [Decimal.isNumeral, Bool.and_eq_true, List.all_eq_true] at hl
      cases hl.2 '.' hdot
    rcases hs with rfl | rfl
    · exact hfree
    · simpa using hfree
  · exact Decimal.bounded?_eq_some_iff_signed.2 ⟨sign, lead, rfl, hs, hl, hn, hmajor⟩

theorem isSpelled_of_major? (h : major? cs = some major) :
    IsSpelled [] major cs ∨ IsSpelled ['+'] major cs := by
  obtain ⟨_, behind, hcs, -, hb, hnum⟩ := major?_eq_some_iff.1 h
  obtain ⟨sign, lead, rfl, hs, hl, hn, -⟩ := Decimal.bounded?_eq_some_iff_signed.1 hnum
  have hspelled : IsSpelled sign major cs := by
    rcases withoutMark_cases cs with hm | hm
    · exact ⟨[], lead, behind, hm ▸ hcs, .inl rfl, hl, hn, hb⟩
    · exact ⟨['v'], lead, behind, hcs ▸ hm, .inr rfl, hl, hn, hb⟩
  rcases hs with rfl | rfl
  · exact .inl hspelled
  · exact .inr hspelled

/-- A version has a sign or has none. -/
theorem not_isSpelled_both : ¬ (IsSpelled [] major cs ∧ IsSpelled ['+'] major cs) := by
  rintro ⟨⟨mark, lead, behind, rfl, hm, hl, -⟩, ⟨mark', lead', behind', he, hm', hl', -⟩⟩
  have hsame := congrArg withoutMark he
  rw [withoutMark_spelled hm (.inl rfl) hl, withoutMark_spelled hm' (.inr rfl) hl'] at hsame
  obtain ⟨d, ds, rfl, -⟩ := Decimal.exists_digit_of_isNumeral hl
  exact Decimal.ne_of_isNumeral hl rfl (List.cons.inj hsame).1

/-- **Which versions are understood.**  Take any text and any major number of 64 bits.  The text is a
version of that number exactly if it is spelled as one, with at most one `v`, digits of that value, any
number of them and zeros in front included, and two points or more; or if it is spelled so but for one
plus sign in front of the digits.  No text is both. -/
theorem isSupported_is_exact_unless_a_plus_leads (version : String) (h : major < Decimal.limit64) :
    (isSupported major version = true ↔
      IsSpelled [] major version.toList ∨ IsSpelled ['+'] major version.toList) ∧
    ¬ (IsSpelled [] major version.toList ∧ IsSpelled ['+'] major version.toList) := by
  refine ⟨?_, not_isSpelled_both⟩
  rw [isSupported_iff]
  refine ⟨isSpelled_of_major?, fun hspelled => ?_⟩
  rcases hspelled with hnone | hplus
  · exact major?_of_isSpelled hnone (.inl rfl) h
  · exact major?_of_isSpelled hplus (.inr rfl) h

/-- Zeros lead the number, and what is behind the first point is none. -/
theorem isSupported_is_exact_unless_a_plus_leads_of_zeros :
    7 < Decimal.limit64 ∧ IsSpelled [] 7 "v0007.x.".toList ∧ isSupported 7 "v0007.x." = true ∧
      ¬ IsSpelled ['+'] 7 "v0007.x.".toList := by
  have h : 7 < Decimal.limit64 := by decide
  have hspelled : IsSpelled [] 7 "v0007.x.".toList :=
    ⟨['v'], "0007".toList, "x.".toList, by decide +kernel, .inr rfl, by decide +kernel, by decide +kernel,
      by decide +kernel⟩
  obtain ⟨hiff, hone⟩ := isSupported_is_exact_unless_a_plus_leads "v0007.x." h
  exact ⟨h, hspelled, hiff.2 (.inl hspelled), fun hplus => hone ⟨hspelled, hplus⟩⟩

/-- **A version with a sign**: it is understood, although it is not spelled as one. -/
theorem isSupported_lets_a_plus_through :
    isSupported 0 "+0.1.0" = true ∧ ¬ IsSpelled [] 0 "+0.1.0".toList ∧
      ¬ ∀ (major : Nat) (version : String), major < Decimal.limit64 →
        (isSupported major version = true ↔ IsSpelled [] major version.toList) := by
  have hplus : IsSpelled ['+'] 0 "+0.1.0".toList :=
    ⟨[], "0".toList, "1.0".toList, by decide +kernel, .inl rfl, by decide +kernel, by decide +kernel,
      by decide +kernel⟩
  have hnone : ¬ IsSpelled [] 0 "+0.1.0".toList := fun h => not_isSpelled_both ⟨h, hplus⟩
  have hsup : isSupported 0 "+0.1.0" = true := by decide +kernel
  exact ⟨hsup, hnone, fun hall => hnone ((hall 0 "+0.1.0" (by decide)).1 hsup)⟩

end AssetGraph.Version
