import AssetGraph.Json.Parser
import Mathlib.Data.List.TakeDrop
import Mathlib.Data.List.TakeWhile
/-!
# The grammar of strings and numbers

Which bytes may stand between the quotes of a string (`IsRaw`), and which make a number (`IsNumber`).  The
readers take exactly these: a string up to its closing quote (`rawString?_eq_some_iff`), a number up to the
first byte that cannot go on with it (`number?_append`, `number?_eq_some`).
-/
namespace AssetGraph.Json

/-! ## Strings -/

/-- **What stands between quotes**: bytes that are no quote, no backslash and no control character, and
escapes. -/
inductive IsRaw : Bytes → Prop
  | nil : IsRaw []
  | plain {b : UInt8} {r : Bytes} (hquote : b ≠ ascii '"') (hslash : b ≠ ascii '\\') (hcontrol : ¬ b < 32)
      (hr : IsRaw r) : IsRaw (b :: r)
  | short {e : UInt8} {r : Bytes} (he : isShortEscape e = true) (hr : IsRaw r) : IsRaw (ascii '\\' :: e :: r)
  | unicode {p q s t : UInt8} {r : Bytes} (hp : isHexDigit p = true) (hq : isHexDigit q = true)
      (hs : isHexDigit s = true) (ht : isHexDigit t = true) (hr : IsRaw r) :
      IsRaw (ascii '\\' :: ascii 'u' :: p :: q :: s :: t :: r)

theorem IsRaw.append {s t : Bytes} (hs : IsRaw s) (ht : IsRaw t) : IsRaw (s ++ t) := by
  induction hs with
  | nil => exact ht
  | plain hquote hslash hcontrol _ ih => exact ih.plain hquote hslash hcontrol
  | short he _ ih => exact ih.short he
  | unicode hp hq hs ht _ ih => exact ih.unicode hp hq hs ht

variable {b : UInt8} {raw r rest s : Bytes}

theorem rawString?_quote (r : Bytes) : rawString? (ascii '"' :: r) = some ([], r) := by
  rw [rawString?.eq_def]
  exact if_pos rfl

theorem rawString?_plain (hquote : b ≠ ascii '"') (hslash : b ≠ ascii '\\') (hcontrol : ¬ b < 32) (r : Bytes) :
    rawString? (b :: r) = (fun (raw, rest) => (b :: raw, rest)) <$> rawString? r := by
  rw [rawString?.eq_def]
  dsimp only
  rw [if_neg (by simpa using hquote), if_neg (by simpa using hslash), if_neg hcontrol]

theorem rawString?_short {e : UInt8} (he : isShortEscape e = true) (r : Bytes) :
    rawString? (ascii '\\' :: e :: r) =
      (fun (raw, rest) => (ascii '\\' :: e :: raw, rest)) <$> rawString? r := by
  have hu : (e == ascii 'u') = false := by
    cases h : e == ascii 'u' with
    | false => rfl
    | true =>
      rw [beq_iff_eq] at h
      rw [h] at he
      exact absurd he (by decide)
  rw [rawString?.eq_def]
  simp only [show (ascii '\\' == ascii '"') = false by decide, Bool.false_eq_true, if_false, beq_self_eq_true,
    if_true, hu, he]

theorem rawString?_unicode {p q s t : UInt8} (hp : isHexDigit p = true) (hq : isHexDigit q = true)
    (hs : isHexDigit s = true) (ht : isHexDigit t = true) (r : Bytes) :
    rawString? (ascii '\\' :: ascii 'u' :: p :: q :: s :: t :: r) =
      (fun (raw, rest) => (ascii '\\' :: ascii 'u' :: p :: q :: s :: t :: raw, rest)) <$> rawString? r := by
  rw [rawString?.eq_def]
  simp only [show (ascii '\\' == ascii '"') = false by decide, Bool.false_eq_true, if_false, beq_self_eq_true,
    if_true, hp, hq, hs, ht, Bool.and_self]

/-- What stands between quotes is read up to the closing one. -/
theorem IsRaw.rawString? (h : IsRaw raw) (rest : Bytes) :
    rawString? (raw ++ ascii '"' :: rest) = some (raw, rest) := by
  induction h with
  | nil => exact rawString?_quote rest
  | plain hquote hslash hcontrol _ ih =>
    rw [List.cons_append, rawString?_plain hquote hslash hcontrol, ih]
    rfl
  | short he _ ih =>
    rw [List.cons_append, List.cons_append, rawString?_short he, ih]
    rfl
  | unicode hp hq hs ht _ ih =>
    simp only [List.cons_append]
    rw [rawString?_unicode hp hq hs ht, ih]
    rfl

theorem isRaw_of_rawString? (h : rawString? s = some (raw, rest)) : IsRaw raw ∧ s = raw ++ ascii '"' :: rest := by
  fun_induction rawString? s generalizing raw with
  | case2 b r hb =>
    cases h
    rw [beq_iff_eq] at hb
    exact ⟨.nil, by rw [hb]; rfl⟩
  | case4 b hquote hslash e he p q s t r hhex ih =>
    simp only [Option.map_eq_map, Option.map_eq_some_iff, Prod.mk.injEq, Prod.exists] at h
    obtain ⟨raw', rest', h, rfl, rfl⟩ := h
    obtain ⟨hr, rfl⟩ := ih h
    simp only [Bool.and_eq_true] at hhex
    rw [beq_iff_eq] at hslash he
    subst hslash he
    exact ⟨hr.unicode hhex.1.1.1 hhex.1.1.2 hhex.1.2 hhex.2, rfl⟩
  | case7 b hquote hslash e r he hshort ih =>
    simp only [Option.map_eq_map, Option.map_eq_some_iff, Prod.mk.injEq, Prod.exists] at h
    obtain ⟨raw', rest', h, rfl, rfl⟩ := h
    obtain ⟨hr, rfl⟩ := ih h
    rw [beq_iff_eq] at hslash
    subst hslash
    exact ⟨hr.short hshort, rfl⟩
  | case10 b r hquote hslash hcontrol ih =>
    simp only [Option.map_eq_map, Option.map_eq_some_iff, Prod.mk.injEq, Prod.exists] at h
    obtain ⟨raw', rest', h, rfl, rfl⟩ := h
    obtain ⟨hr, rfl⟩ := ih h
    rw [beq_iff_eq] at hquote hslash
    exact ⟨hr.plain hquote hslash hcontrol, rfl⟩
  | _ => cases h

/-- **A string is read exactly up to its closing quote.** -/
theorem rawString?_eq_some_iff :
    rawString? s = some (raw, rest) ↔ IsRaw raw ∧ s = raw ++ ascii '"' :: rest := by
  constructor
  · exact isRaw_of_rawString?
  · rintro ⟨h, rfl⟩
    exact h.rawString? rest

/-! ## Numbers -/

/-- One digit or more. -/
def AreDigits (s : Bytes) : Prop := s ≠ [] ∧ ∀ b ∈ s, isDigit b = true

/-- Digits without a zero in front of others. -/
def IsInteger (s : Bytes) : Prop := AreDigits s ∧ (s.head? = some (ascii '0') → s = [ascii '0'])

/-- Nothing, or a point and digits. -/
def IsFraction (s : Bytes) : Prop := s = [] ∨ ∃ ds, AreDigits ds ∧ s = ascii '.' :: ds

/-- Nothing, or the letter of an exponent, perhaps a sign, and digits. -/
def IsExponent (s : Bytes) : Prop := s = [] ∨ ∃ e sign ds, (e = ascii 'e' ∨ e = ascii 'E') ∧
  (sign = [] ∨ sign = [ascii '+'] ∨ sign = [ascii '-']) ∧ AreDigits ds ∧ s = e :: (sign ++ ds)

/-- **A number**: perhaps a minus sign, an integer, a fraction and an exponent. -/
def IsNumber (s : Bytes) : Prop := ∃ sign int frac exp, (sign = [] ∨ sign = [ascii '-']) ∧ IsInteger int ∧
  IsFraction frac ∧ IsExponent exp ∧ s = sign ++ int ++ frac ++ exp

/-- What a byte behind a number may not be, or the number would go on. -/
def goesOn (b : UInt8) : Bool := isDigit b || b == ascii '.' || b == ascii 'e' || b == ascii 'E'

/-- Nothing that a number would go on with stands here. -/
def Stops (rest : Bytes) : Prop := ∀ b, rest.head? = some b → goesOn b = false

theorem stops_nil : Stops [] := by rintro b ⟨⟩

theorem stops_cons (h : goesOn b = false) (r : Bytes) : Stops (b :: r) := by
  rintro c ⟨⟩
  exact h

/-- No digit stands here. -/
def NoDigit (rest : Bytes) : Prop := ∀ b, rest.head? = some b → isDigit b = false

theorem Stops.noDigit (h : Stops rest) : NoDigit rest := by
  intro b hb
  have := h b hb
  simp only [goesOn, Bool.or_eq_false_iff] at this
  exact this.1.1.1

theorem noDigit_cons (h : isDigit b = false) (r : Bytes) : NoDigit (b :: r) := by
  rintro c ⟨⟩
  exact h

theorem digits?_append {ds : Bytes} (h : AreDigits ds) (hrest : NoDigit rest) :
    digits? (ds ++ rest) = some (ds, rest) := by
  have htake : (ds ++ rest).takeWhile isDigit = ds := by
    rw [List.takeWhile_append_of_pos h.2]
    cases rest with
    | nil => simp
    | cons b r => simp [hrest b rfl]
  have hdrop : (ds ++ rest).dropWhile isDigit = rest := by
    rw [List.dropWhile_append_of_pos h.2]
    cases rest with
    | nil => rfl
    | cons b r => simp [hrest b rfl]
  simp only [digits?, List.span_eq_takeWhile_dropWhile, htake, hdrop, List.isEmpty_iff, h.1, if_false]

theorem digits?_eq_some {ds : Bytes} (h : digits? s = some (ds, rest)) : AreDigits ds ∧ s = ds ++ rest := by
  simp only [digits?, List.span_eq_takeWhile_dropWhile, Option.ite_none_left_eq_some, List.isEmpty_iff,
    Option.some.injEq, Prod.mk.injEq] at h
  obtain ⟨hne, rfl, rfl⟩ := h
  exact ⟨⟨hne, fun b hb => List.mem_takeWhile_imp hb⟩, List.takeWhile_append_dropWhile.symm⟩

theorem integer?_append {int : Bytes} (h : IsInteger int) (hrest : NoDigit rest) :
    integer? (int ++ rest) = some (int, rest) := by
  obtain ⟨hds, hzero⟩ := h
  obtain ⟨b, r, rfl⟩ := List.exists_cons_of_ne_nil hds.1
  by_cases hb : b = ascii '0'
  · subst hb
    rw [hzero rfl]
    cases rest with
    | nil => rfl
    | cons c r' =>
      simp only [List.cons_append, List.nil_append, integer?, beq_self_eq_true, if_true, hrest c rfl,
        Bool.false_eq_true, if_false]
  · simp only [List.cons_append, integer?, beq_iff_eq, hb, if_false]
    exact digits?_append hds hrest

theorem integer?_eq_some {int : Bytes} (h : integer? s = some (int, rest)) : IsInteger int ∧ s = int ++ rest := by
  have hzero : IsInteger [ascii '0'] :=
    ⟨⟨by simp, fun b hb => by rw [List.mem_singleton.1 hb]; rfl⟩, fun _ => rfl⟩
  cases s with
  | nil => cases h
  | cons b r =>
    by_cases hb : b = ascii '0'
    · subst hb
      cases r with
      | nil =>
        cases h
        exact ⟨hzero, rfl⟩
      | cons c r =>
        simp only [integer?, beq_self_eq_true, if_true, Option.ite_none_left_eq_some, Option.some.injEq,
          Prod.mk.injEq] at h
        obtain ⟨-, rfl, rfl⟩ := h
        exact ⟨hzero, rfl⟩
    · simp only [integer?, beq_iff_eq, hb, if_false] at h
      obtain ⟨hds, hs⟩ := digits?_eq_some h
      refine ⟨⟨hds, fun hhead => ?_⟩, hs⟩
      cases int with
      | nil => exact absurd rfl hds.1
      | cons c int =>
        cases hhead
        cases hs
        exact absurd rfl hb

theorem fraction?_append {frac : Bytes} (h : IsFraction frac) (hrest : NoDigit rest)
    (hpoint : rest.head? ≠ some (ascii '.')) : fraction? (frac ++ rest) = some (frac, rest) := by
  rcases h with rfl | ⟨ds, hds, rfl⟩
  · cases rest with
    | nil => rfl
    | cons b r =>
      have hb : b ≠ ascii '.' := fun hb => hpoint (congrArg some hb)
      simp only [List.nil_append, fraction?, beq_iff_eq, hb, if_false]
  · simp only [List.cons_append, fraction?, beq_self_eq_true, if_true, digits?_append hds hrest, Option.map_some]

theorem fraction?_eq_some {frac : Bytes} (h : fraction? s = some (frac, rest)) :
    IsFraction frac ∧ s = frac ++ rest := by
  cases s with
  | nil =>
    cases h
    exact ⟨.inl rfl, rfl⟩
  | cons b r =>
    by_cases hb : b = ascii '.'
    · subst hb
      simp only [fraction?, beq_self_eq_true, if_true, Option.map_eq_some_iff, Prod.mk.injEq, Prod.exists] at h
      obtain ⟨ds, rest', h, rfl, rfl⟩ := h
      obtain ⟨hds, rfl⟩ := digits?_eq_some h
      exact ⟨.inr ⟨ds, hds, rfl⟩, rfl⟩
    · simp only [fraction?, beq_iff_eq, hb, if_false, Option.some.injEq, Prod.mk.injEq] at h
      obtain ⟨rfl, rfl⟩ := h
      exact ⟨.inl rfl, rfl⟩

theorem AreDigits.head_ne {ds : Bytes} {c : UInt8} (h : AreDigits ds) (hc : isDigit c = false) :
    ds.head? ≠ some c := by
  intro hhead
  have := h.2 c (List.mem_of_mem_head? hhead)
  rw [hc] at this
  cases this

theorem exponent?_append {exp : Bytes} (h : IsExponent exp) (hrest : Stops rest) :
    exponent? (exp ++ rest) = some (exp, rest) := by
  rcases h with rfl | ⟨e, sign, ds, he, hsign, hds, rfl⟩
  · cases rest with
    | nil => rfl
    | cons b r =>
      have hb := hrest b rfl
      simp only [goesOn, Bool.or_eq_false_iff] at hb
      simp only [List.nil_append, exponent?, hb, Bool.or_self, Bool.false_eq_true, if_false]
  · have hletter : (e == ascii 'e' || e == ascii 'E') = true := by
      rcases he with rfl | rfl <;> rfl
    have hread := digits?_append hds hrest.noDigit
    obtain ⟨d, ds, rfl⟩ := List.exists_cons_of_ne_nil hds.1
    rcases hsign with rfl | rfl | rfl
    · have hplus : d ≠ ascii '+' := fun hd => hds.head_ne (by decide) (congrArg some hd)
      have hminus : d ≠ ascii '-' := fun hd => hds.head_ne (by decide) (congrArg some hd)
      rw [List.cons_append] at hread
      simp only [List.nil_append, List.cons_append, exponent?, hletter, if_true, beq_false_of_ne hplus,
        beq_false_of_ne hminus, Bool.or_self, Bool.false_eq_true, if_false, hread, Option.map_some]
    all_goals
      simp only [List.cons_append, List.nil_append, exponent?, hletter, if_true, beq_self_eq_true, Bool.true_or,
        Bool.or_true] at hread ⊢
      rw [hread]
      rfl

theorem exponent?_eq_some {exp : Bytes} (h : exponent? s = some (exp, rest)) :
    IsExponent exp ∧ s = exp ++ rest := by
  cases s with
  | nil =>
    cases h
    exact ⟨.inl rfl, rfl⟩
  | cons e r =>
    cases he : e == ascii 'e' || e == ascii 'E' with
    | false =>
      simp only [exponent?, he, Bool.false_eq_true, if_false, Option.some.injEq, Prod.mk.injEq] at h
      obtain ⟨rfl, rfl⟩ := h
      exact ⟨.inl rfl, rfl⟩
    | true =>
      simp only [exponent?, he, if_true] at h
      rw [Bool.or_eq_true, beq_iff_eq, beq_iff_eq] at he
      cases r with
      | nil => cases h
      | cons c r =>
        simp only at h
        split at h
        · rename_i hsign
          rw [Bool.or_eq_true, beq_iff_eq, beq_iff_eq] at hsign
          simp only [Option.map_eq_some_iff, Prod.mk.injEq, Prod.exists] at h
          obtain ⟨ds, rest', h, rfl, rfl⟩ := h
          obtain ⟨hds, rfl⟩ := digits?_eq_some h
          refine ⟨.inr ⟨e, [c], ds, he, .inr ?_, hds, rfl⟩, rfl⟩
          exact hsign.imp (congrArg ([·])) (congrArg ([·]))
        · simp only [Option.map_eq_some_iff, Prod.mk.injEq, Prod.exists] at h
          obtain ⟨ds, rest', h, rfl, rfl⟩ := h
          obtain ⟨hds, hr⟩ := digits?_eq_some h
          exact ⟨.inr ⟨e, [], ds, he, .inl rfl, hds, rfl⟩, by rw [hr]; rfl⟩

theorem IsExponent.noDigit {exp : Bytes} (h : IsExponent exp) (hrest : Stops rest) : NoDigit (exp ++ rest) := by
  rcases h with rfl | ⟨e, sign, ds, he, -, -, rfl⟩
  · exact hrest.noDigit
  · exact noDigit_cons (by rcases he with rfl | rfl <;> rfl) _

theorem IsExponent.noPoint {exp : Bytes} (h : IsExponent exp) (hrest : Stops rest) :
    (exp ++ rest).head? ≠ some (ascii '.') := by
  rcases h with rfl | ⟨e, sign, ds, he, -, -, rfl⟩
  · intro hhead
    exact absurd (hrest _ hhead) (by decide)
  · rintro ⟨⟩
    exact absurd he (by decide)

theorem IsFraction.noDigit {frac : Bytes} (h : IsFraction frac) (hrest : NoDigit rest) : NoDigit (frac ++ rest) := by
  rcases h with rfl | ⟨ds, -, rfl⟩
  · exact hrest
  · exact noDigit_cons rfl _

/-- **A number is read up to what cannot go on with it.** -/
theorem number?_append (h : IsNumber raw) (hrest : Stops rest) : number? (raw ++ rest) = some (raw, rest) := by
  obtain ⟨sign, int, frac, exp, hsign, hint, hfrac, hexp, rfl⟩ := h
  have hreadInt := integer?_append hint (hfrac.noDigit (hexp.noDigit hrest))
  have hreadFrac := fraction?_append hfrac (hexp.noDigit hrest) (hexp.noPoint hrest)
  have hreadExp := exponent?_append hexp hrest
  rcases hsign with rfl | rfl
  · obtain ⟨b, r, rfl⟩ := List.exists_cons_of_ne_nil hint.1.1
    have hminus : b ≠ ascii '-' := fun hb => hint.1.head_ne (by decide) (congrArg some hb)
    simp only [List.nil_append, List.append_assoc, List.cons_append] at hreadInt ⊢
    simp only [number?, beq_false_of_ne hminus, Bool.false_eq_true, if_false, hreadInt, hreadFrac, hreadExp, bind,
      Option.bind, pure, List.nil_append, List.append_assoc, List.cons_append]
  · simp only [List.append_assoc, List.cons_append, List.nil_append, number?, beq_self_eq_true, if_true, hreadInt,
      hreadFrac, hreadExp, bind, Option.bind, pure]

/-- **What is read as a number is one.** -/
theorem number?_eq_some (h : number? s = some (raw, rest)) : IsNumber raw ∧ s = raw ++ rest := by
  have hparts {sign u : Bytes} (hsign : sign = [] ∨ sign = [ascii '-'])
      (hu : (do
        let (int, s) ← integer? u
        let (frac, s) ← fraction? s
        let (exp, s) ← exponent? s
        pure (sign ++ int ++ frac ++ exp, s)) = some (raw, rest)) : IsNumber raw ∧ sign ++ u = raw ++ rest := by
    simp only [Option.bind_eq_bind, Option.bind_eq_some_iff, Prod.exists, Option.pure_def, Option.some.injEq,
      Prod.mk.injEq] at hu
    obtain ⟨int, s₁, hu, frac, s₂, hs₁, exp, s₃, hs₂, rfl, rfl⟩ := hu
    obtain ⟨hint, rfl⟩ := integer?_eq_some hu
    obtain ⟨hfrac, rfl⟩ := fraction?_eq_some hs₁
    obtain ⟨hexp, rfl⟩ := exponent?_eq_some hs₂
    exact ⟨⟨sign, int, frac, exp, hsign, hint, hfrac, hexp, rfl⟩, by simp only [List.append_assoc]⟩
  cases s with
  | nil => cases h
  | cons b r =>
    by_cases hb : b = ascii '-'
    · subst hb
      exact hparts (.inr rfl) h
    · simp only [number?, beq_false_of_ne hb, Bool.false_eq_true, if_false] at h
      exact hparts (.inl rfl) h

/-- A number begins with a digit or a minus sign. -/
theorem IsNumber.begins (h : IsNumber raw) : ∃ b r, raw = b :: r ∧ (b = ascii '-' ∨ isDigit b = true) := by
  obtain ⟨sign, int, frac, exp, rfl | rfl, hint, -, -, rfl⟩ := h
  · obtain ⟨b, r, rfl⟩ := List.exists_cons_of_ne_nil hint.1.1
    exact ⟨b, _, rfl, .inr (hint.1.2 b List.mem_cons_self)⟩
  · exact ⟨_, _, rfl, .inl rfl⟩

end AssetGraph.Json
