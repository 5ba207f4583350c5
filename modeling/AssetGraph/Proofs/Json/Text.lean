import AssetGraph.Json.Text
import AssetGraph.Proofs.Json.Scalar
/-!
# Texts as JSON strings

Every text is written as a string that JSON has (`isRaw_escape`), and read back from it (`text?_escape`).
Character by character: what needs an escape has one that is read as its bytes (`unescape?_escapeChar`), and
none of the bytes of the others means anything to a reader (`plain_of_mem_encodeChar`).
-/
namespace AssetGraph.Json

/-- The bytes of a character are its number, or too high to mean anything. -/
theorem toNat_of_mem_encodeChar {c : Char} {b : UInt8} (h : b ∈ Utf8.encodeChar c) :
    b.toNat = c.toNat ∨ 0x80 ≤ b.toNat := by
  have hc : c.toNat < 0xD800 ∨ 0xDFFF < c.toNat ∧ c.toNat < 0x110000 := c.valid
  simp only [Utf8.encodeChar] at h
  generalize c.toNat = n at h hc ⊢
  split at h
  · rw [List.mem_singleton] at h
    exact .inl (by rw [h, Utf8.toNat_byte (by omega)])
  right
  split at h
  · simp only [List.mem_cons, List.not_mem_nil, or_false] at h
    rcases h with rfl | rfl <;> rw [Utf8.toNat_byte (by omega)] <;> omega
  split at h
  · simp only [List.mem_cons, List.not_mem_nil, or_false] at h
    rcases h with rfl | rfl | rfl <;> rw [Utf8.toNat_byte (by omega)] <;> omega
  · simp only [List.mem_cons, List.not_mem_nil, or_false] at h
    rcases h with rfl | rfl | rfl | rfl <;> rw [Utf8.toNat_byte (by omega)] <;> omega

/-- A character that is no control character and none of these two. -/
def IsPlain (c : Char) : Prop := c ≠ '"' ∧ c ≠ '\\' ∧ ¬ c.toNat < 32

/-- The bytes of a plain character stand for themselves. -/
theorem plain_of_mem_encodeChar {c : Char} {b : UInt8} (hc : IsPlain c) (h : b ∈ Utf8.encodeChar c) :
    b ≠ ascii '"' ∧ b ≠ ascii '\\' ∧ ¬ b < 32 := by
  obtain ⟨hquote, hslash, hcontrol⟩ := hc
  have hne {d : Char} (hd : c ≠ d) (hlow : d.toNat < 0x80) : b ≠ ascii d := by
    rintro rfl
    have hnat : (ascii d).toNat = d.toNat := Utf8.toNat_byte (by omega)
    rcases toNat_of_mem_encodeChar h with hb | hb
    · rw [hnat] at hb
      exact hd (Char.toNat_inj.1 hb.symm)
    · omega
  refine ⟨hne hquote (by decide), hne hslash (by decide), fun hlt => ?_⟩
  have hb : b.toNat < 32 := hlt
  have := toNat_of_mem_encodeChar h
  omega

theorem isRaw_of_plain {bs : Bytes} (h : ∀ b ∈ bs, b ≠ ascii '"' ∧ b ≠ ascii '\\' ∧ ¬ b < 32) : IsRaw bs := by
  induction bs with
  | nil => exact .nil
  | cons b bs ih =>
    obtain ⟨⟨hquote, hslash, hcontrol⟩, hbs⟩ := List.forall_mem_cons.1 h
    exact .plain hquote hslash hcontrol (ih hbs)

theorem unescape?_of_plain {bs : Bytes} (h : ∀ b ∈ bs, b ≠ ascii '\\') (r : Bytes) :
    unescape? (bs ++ r) = (bs ++ ·) <$> unescape? r := by
  induction bs with
  | nil => simp
  | cons b bs ih =>
    obtain ⟨hb, hbs⟩ := List.forall_mem_cons.1 h
    rw [List.cons_append, unescape?.eq_def]
    dsimp only
    rw [if_neg (by simpa using hb), ih hbs]
    cases unescape? r <;> rfl

/-- The cases in which a character is written. -/
theorem escapeChar_cases (c : Char) :
    (∃ e x, isShortEscape e = true ∧ shortEscape? e = some x ∧ Utf8.encodeChar c = [x] ∧
      escapeChar c = [ascii '\\', e]) ∨
    (c.toNat < 32 ∧ escapeChar c = [ascii '\\', ascii 'u', ascii '0', ascii '0', hexDigit (c.toNat / 16),
      hexDigit (c.toNat % 16)]) ∨
    (IsPlain c ∧ escapeChar c = Utf8.encodeChar c) := by
  unfold escapeChar
  split
  · rename_i h
    subst h
    exact .inl ⟨ascii '"', ascii '"', rfl, rfl, rfl, rfl⟩
  rename_i hquote
  split
  · rename_i h
    subst h
    exact .inl ⟨ascii '\\', ascii '\\', rfl, rfl, rfl, rfl⟩
  rename_i hslash
  split
  · rename_i h
    subst h
    exact .inl ⟨ascii 'b', 8, rfl, rfl, rfl, rfl⟩
  split
  · rename_i h
    subst h
    exact .inl ⟨ascii 't', 9, rfl, rfl, rfl, rfl⟩
  split
  · rename_i h
    subst h
    exact .inl ⟨ascii 'n', 10, rfl, rfl, rfl, rfl⟩
  split
  · rename_i h
    subst h
    exact .inl ⟨ascii 'f', 12, rfl, rfl, rfl, rfl⟩
  split
  · rename_i h
    subst h
    exact .inl ⟨ascii 'r', 13, rfl, rfl, rfl, rfl⟩
  split
  · rename_i h
    exact .inr (.inl ⟨h, rfl⟩)
  · rename_i h
    exact .inr (.inr ⟨⟨hquote, hslash, h⟩, rfl⟩)

theorem hexDigit_spec {n : Nat} (h : n < 16) : isHexDigit (hexDigit n) = true ∧ hexValue? (hexDigit n) = some n := by
  have hall : ∀ m ∈ List.range 16, isHexDigit (hexDigit m) = true ∧ hexValue? (hexDigit m) = some m := by decide
  exact hall n (List.mem_range.2 h)

theorem isRaw_escapeChar (c : Char) : IsRaw (escapeChar c) := by
  rcases escapeChar_cases c with ⟨e, x, he, -, -, hc⟩ | ⟨hlow, hc⟩ | ⟨hplain, hc⟩ <;> rw [hc]
  · exact .short he .nil
  · exact .unicode rfl rfl (hexDigit_spec (by omega)).1 (hexDigit_spec (by omega)).1 .nil
  · exact isRaw_of_plain fun b hb => plain_of_mem_encodeChar hplain hb

theorem unescape?_short {e x : UInt8} (he : shortEscape? e = some x) (r : Bytes) :
    unescape? (ascii '\\' :: e :: r) = (x :: ·) <$> unescape? r := by
  have hu : (e == ascii 'u') = false := by
    refine beq_false_of_ne ?_
    rintro rfl
    cases he
  rw [unescape?.eq_def]
  simp only [beq_self_eq_true, if_true, hu, Bool.false_eq_true, if_false, he]

theorem hexQuad?_control {n : Nat} (h : n < 32) :
    hexQuad? (ascii '0') (ascii '0') (hexDigit (n / 16)) (hexDigit (n % 16)) = some n := by
  have hzero : hexValue? (ascii '0') = some 0 := rfl
  simp only [hexQuad?, hzero, (hexDigit_spec (show n / 16 < 16 by omega)).2,
    (hexDigit_spec (show n % 16 < 16 by omega)).2, bind, Option.bind, pure, Option.some.injEq]
  omega

theorem unescape?_control {c : Char} (h : c.toNat < 32) (r : Bytes) :
    unescape? (ascii '\\' :: ascii 'u' :: ascii '0' :: ascii '0' :: hexDigit (c.toNat / 16) ::
      hexDigit (c.toNat % 16) :: r) = (Utf8.encodeChar c ++ ·) <$> unescape? r := by
  rw [unescape?.eq_def]
  simp only [beq_self_eq_true, if_true, hexQuad?_control h, Char.ofNat_toNat]
  rw [if_neg (by omega), if_neg (by omega)]

/-- **What is written of a character is read as its bytes**, whatever follows. -/
theorem unescape?_escapeChar (c : Char) (r : Bytes) :
    unescape? (escapeChar c ++ r) = (Utf8.encodeChar c ++ ·) <$> unescape? r := by
  rcases escapeChar_cases c with ⟨e, x, -, hx, hbytes, hc⟩ | ⟨hlow, hc⟩ | ⟨hplain, hc⟩
  · rw [hc, hbytes]
    exact unescape?_short hx r
  · rw [hc]
    exact unescape?_control hlow r
  · rw [hc]
    exact unescape?_of_plain (fun b hb => (plain_of_mem_encodeChar hplain hb).2.1) r

/-- **A text is written as a string that JSON has.** -/
theorem isRaw_escape (s : String) : IsRaw (escape s) := by
  rw [escape]
  induction s.toList with
  | nil => exact .nil
  | cons c cs ih =>
    rw [List.flatMap_cons]
    exact (isRaw_escapeChar c).append ih

theorem unescape?_escape (s : String) : unescape? (escape s) = some (Utf8.encode s) := by
  rw [escape, Utf8.encode]
  induction s.toList with
  | nil => rfl
  | cons c cs ih =>
    rw [List.flatMap_cons, unescape?_escapeChar, ih]
    rfl

/-- **A text is read back.** -/
theorem text?_escape (s : String) : text? (escape s) = some s := by
  rw [text?, unescape?_escape, Option.bind_some, Utf8.decode?_encode]

end AssetGraph.Json
