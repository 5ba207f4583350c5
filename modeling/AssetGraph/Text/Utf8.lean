/-!
# UTF-8

Bytes and texts.  `encode` writes a text; `decode` reads one and, where the bytes are no text, says
where the valid part ends and how many bytes are surely wrong there (`Utf8.Fault`).  A sequence that
stops at the end of the bytes is *incomplete*: more bytes could have completed it.  What is written is
read back (`decode_encode`), and nothing else is read (`decode_eq_ok_iff`).
-/
namespace AssetGraph

abbrev Bytes := List UInt8

namespace Utf8

/-- **Where decoding stopped**: the index of the first byte that starts no character, and the number
of bytes that no continuation can repair, `none` where the bytes ended too early. -/
structure Fault where
  index : Nat
  length : Option Nat
deriving DecidableEq, Repr

def Fault.message (f : Fault) : String :=
  match f.length with
  | some n => s!"invalid utf-8 sequence of {n} bytes from index {f.index}"
  | none => s!"incomplete utf-8 byte sequence from index {f.index}"

/-- The bytes of one character. -/
def encodeChar (c : Char) : Bytes :=
  let n := c.toNat
  if n < 0x80 then [UInt8.ofNat n]
  else if n < 0x800 then [UInt8.ofNat (0xC0 + n / 64), UInt8.ofNat (0x80 + n % 64)]
  else if n < 0x10000 then
    [UInt8.ofNat (0xE0 + n / 4096), UInt8.ofNat (0x80 + n / 64 % 64), UInt8.ofNat (0x80 + n % 64)]
  else
    [UInt8.ofNat (0xF0 + n / 262144), UInt8.ofNat (0x80 + n / 4096 % 64),
      UInt8.ofNat (0x80 + n / 64 % 64), UInt8.ofNat (0x80 + n % 64)]

/-- The bytes of a text. -/
def encode (s : String) : Bytes := s.toList.flatMap encodeChar

/-- A continuation byte. -/
def isTail (b : UInt8) : Bool := 0x80 ≤ b.toNat && b.toNat ≤ 0xBF

/-- The second bytes that a lead byte of three allows: no overlong form and no surrogate. -/
def isSecondOfThree (lead b : UInt8) : Bool :=
  (if lead.toNat == 0xE0 then 0xA0 else 0x80) ≤ b.toNat &&
    b.toNat ≤ (if lead.toNat == 0xED then 0x9F else 0xBF)

/-- The second bytes that a lead byte of four allows: no overlong form and nothing past the last
code point. -/
def isSecondOfFour (lead b : UInt8) : Bool :=
  (if lead.toNat == 0xF0 then 0x90 else 0x80) ≤ b.toNat &&
    b.toNat ≤ (if lead.toNat == 0xF4 then 0x8F else 0xBF)

/-- The low six bits of a continuation byte. -/
def tailBits (b : UInt8) : Nat := b.toNat - 0x80

/-- The characters of the bytes, which start at index `i` of the whole. -/
def decodeFrom (i : Nat) : Bytes → Except Fault (List Char)
  | [] => .ok []
  | a :: r =>
    if a.toNat < 0x80 then (Char.ofNat a.toNat :: ·) <$> decodeFrom (i + 1) r
    else if a.toNat < 0xC2 then .error ⟨i, some 1⟩
    else if a.toNat < 0xE0 then
      match r with
      | [] => .error ⟨i, none⟩
      | b :: r =>
        if isTail b then
          (Char.ofNat ((a.toNat - 0xC0) * 64 + tailBits b) :: ·) <$> decodeFrom (i + 2) r
        else .error ⟨i, some 1⟩
    else if a.toNat < 0xF0 then
      match r with
      | [] => .error ⟨i, none⟩
      | b :: r =>
        if isSecondOfThree a b then
          match r with
          | [] => .error ⟨i, none⟩
          | c :: r =>
            if isTail c then
              (Char.ofNat ((a.toNat - 0xE0) * 4096 + tailBits b * 64 + tailBits c) :: ·) <$>
                decodeFrom (i + 3) r
            else .error ⟨i, some 2⟩
        else .error ⟨i, some 1⟩
    else if a.toNat < 0xF5 then
      match r with
      | [] => .error ⟨i, none⟩
      | b :: r =>
        if isSecondOfFour a b then
          match r with
          | [] => .error ⟨i, none⟩
          | c :: r =>
            if isTail c then
              match r with
              | [] => .error ⟨i, none⟩
              | d :: r =>
                if isTail d then
                  (Char.ofNat ((a.toNat - 0xF0) * 262144 + tailBits b * 4096 + tailBits c * 64 +
                    tailBits d) :: ·) <$> decodeFrom (i + 4) r
                else .error ⟨i, some 3⟩
            else .error ⟨i, some 2⟩
        else .error ⟨i, some 1⟩
    else .error ⟨i, some 1⟩

/-- The text of the bytes, or where they stop being one. -/
def decode (bs : Bytes) : Except Fault String := String.ofList <$> decodeFrom 0 bs

/-- The text of the bytes, where they are one. -/
def decode? (bs : Bytes) : Option String := (decode bs).toOption

@[simp] theorem encode_empty : encode "" = [] := rfl

@[simp] theorem decode_nil : decode [] = .ok "" := rfl

theorem encode_append (s t : String) : encode (s ++ t) = encode s ++ encode t := by
  simp [encode]

/-! ## Reading back -/

theorem decodeFrom_one (i : Nat) {a : UInt8} (r : Bytes) (ha : a.toNat < 0x80) :
    decodeFrom i (a :: r) = (Char.ofNat a.toNat :: ·) <$> decodeFrom (i + 1) r := by
  rw [decodeFrom.eq_def]
  dsimp only
  rw [if_pos ha]

theorem decodeFrom_two (i : Nat) {a b : UInt8} (r : Bytes) (hl : 0xC2 ≤ a.toNat)
    (hu : a.toNat < 0xE0) (hb : isTail b = true) :
    decodeFrom i (a :: b :: r) =
      (Char.ofNat ((a.toNat - 0xC0) * 64 + tailBits b) :: ·) <$> decodeFrom (i + 2) r := by
  rw [decodeFrom.eq_def]
  dsimp only
  rw [if_neg (by omega), if_neg (by omega), if_pos hu, if_pos hb]

theorem decodeFrom_three (i : Nat) {a b c : UInt8} (r : Bytes) (hl : 0xE0 ≤ a.toNat)
    (hu : a.toNat < 0xF0) (hb : isSecondOfThree a b = true) (hc : isTail c = true) :
    decodeFrom i (a :: b :: c :: r) =
      (Char.ofNat ((a.toNat - 0xE0) * 4096 + tailBits b * 64 + tailBits c) :: ·) <$>
        decodeFrom (i + 3) r := by
  rw [decodeFrom.eq_def]
  dsimp only
  rw [if_neg (by omega), if_neg (by omega), if_neg (by omega), if_pos hu, if_pos hb, if_pos hc]

theorem decodeFrom_four (i : Nat) {a b c d : UInt8} (r : Bytes) (hl : 0xF0 ≤ a.toNat)
    (hu : a.toNat < 0xF5) (hb : isSecondOfFour a b = true) (hc : isTail c = true)
    (hd : isTail d = true) :
    decodeFrom i (a :: b :: c :: d :: r) =
      (Char.ofNat ((a.toNat - 0xF0) * 262144 + tailBits b * 4096 + tailBits c * 64 +
        tailBits d) :: ·) <$> decodeFrom (i + 4) r := by
  rw [decodeFrom.eq_def]
  dsimp only
  rw [if_neg (by omega), if_neg (by omega), if_neg (by omega), if_neg (by omega), if_pos hu,
    if_pos hb, if_pos hc, if_pos hd]

/-- A number below 256 fits a byte. -/
theorem toNat_byte {n : Nat} (h : n < 256) : (UInt8.ofNat n).toNat = n := by
  simp [Nat.mod_eq_of_lt h]

theorem isTail_byte {n : Nat} (h : n < 64) : isTail (UInt8.ofNat (0x80 + n)) = true := by
  simp only [isTail, toNat_byte (show 0x80 + n < 256 by omega), Bool.and_eq_true,
    decide_eq_true_eq]
  omega

theorem tailBits_byte {n : Nat} (h : n < 64) : tailBits (UInt8.ofNat (0x80 + n)) = n := by
  have hn : (UInt8.ofNat (0x80 + n)).toNat = 0x80 + n := toNat_byte (by omega)
  unfold tailBits
  omega

/-- The bytes of a character are read as that character, whatever follows. -/
theorem decodeFrom_encodeChar (i : Nat) (c : Char) (r : Bytes) :
    ∃ j, decodeFrom i (encodeChar c ++ r) = (c :: ·) <$> decodeFrom j r := by
  have hv : c.toNat < 0xD800 ∨ 0xDFFF < c.toNat ∧ c.toNat < 0x110000 := c.valid
  have hc := Char.ofNat_toNat c
  unfold encodeChar
  generalize c.toNat = n at hv hc ⊢
  dsimp only
  split
  · refine ⟨i + 1, ?_⟩
    rw [List.singleton_append, decodeFrom_one _ _ (by rw [toNat_byte] <;> omega),
      toNat_byte (by omega), hc]
  split
  · have ha : (UInt8.ofNat (0xC0 + n / 64)).toNat = 0xC0 + n / 64 := toNat_byte (by omega)
    refine ⟨i + 2, ?_⟩
    rw [List.cons_append, List.singleton_append,
      decodeFrom_two _ _ (by omega) (by omega) (isTail_byte (by omega)), ha,
      tailBits_byte (by omega), show (0xC0 + n / 64 - 0xC0) * 64 + n % 64 = n by omega, hc]
  split
  · have ha : (UInt8.ofNat (0xE0 + n / 4096)).toNat = 0xE0 + n / 4096 := toNat_byte (by omega)
    have hb : isSecondOfThree (UInt8.ofNat (0xE0 + n / 4096)) (UInt8.ofNat (0x80 + n / 64 % 64)) =
        true := by
      simp only [isSecondOfThree, ha, toNat_byte (show 0x80 + n / 64 % 64 < 256 by omega),
        Bool.and_eq_true, decide_eq_true_eq, beq_iff_eq]
      constructor <;> split <;> omega
    refine ⟨i + 3, ?_⟩
    rw [List.cons_append, List.cons_append, List.singleton_append,
      decodeFrom_three _ _ (by omega) (by omega) hb (isTail_byte (by omega)), ha,
      tailBits_byte (by omega), tailBits_byte (by omega),
      show (0xE0 + n / 4096 - 0xE0) * 4096 + n / 64 % 64 * 64 + n % 64 = n by omega, hc]
  · have ha : (UInt8.ofNat (0xF0 + n / 262144)).toNat = 0xF0 + n / 262144 :=
      toNat_byte (by omega)
    have hb : isSecondOfFour (UInt8.ofNat (0xF0 + n / 262144))
        (UInt8.ofNat (0x80 + n / 4096 % 64)) = true := by
      simp only [isSecondOfFour, ha, toNat_byte (show 0x80 + n / 4096 % 64 < 256 by omega),
        Bool.and_eq_true, decide_eq_true_eq, beq_iff_eq]
      constructor <;> split <;> omega
    refine ⟨i + 4, ?_⟩
    rw [List.cons_append, List.cons_append, List.cons_append, List.singleton_append,
      decodeFrom_four _ _ (by omega) (by omega) hb (isTail_byte (by omega))
        (isTail_byte (by omega)), ha, tailBits_byte (by omega), tailBits_byte (by omega),
      tailBits_byte (by omega),
      show (0xF0 + n / 262144 - 0xF0) * 262144 + n / 4096 % 64 * 4096 + n / 64 % 64 * 64 + n % 64 =
        n by omega, hc]

theorem decodeFrom_flatMap_encodeChar (i : Nat) (cs : List Char) :
    decodeFrom i (cs.flatMap encodeChar) = .ok cs := by
  induction cs generalizing i with
  | nil => rfl
  | cons c cs ih =>
    obtain ⟨j, hj⟩ := decodeFrom_encodeChar i c (cs.flatMap encodeChar)
    rw [List.flatMap_cons, hj, ih]
    rfl

/-- **What is written is read back.** -/
theorem decode_encode (s : String) : decode (encode s) = .ok s := by
  rw [decode, encode, decodeFrom_flatMap_encodeChar]
  exact congrArg Except.ok String.ofList_toList

@[simp] theorem decode?_encode (s : String) : decode? (encode s) = some s := by
  rw [decode?, decode_encode]
  rfl

/-! ## What is read -/

theorem isTail_iff {b : UInt8} : isTail b = true ↔ 0x80 ≤ b.toNat ∧ b.toNat ≤ 0xBF := by
  simp only [isTail, Bool.and_eq_true, decide_eq_true_eq]

theorem isSecondOfThree_iff {a b : UInt8} : isSecondOfThree a b = true ↔ 0x80 ≤ b.toNat ∧ b.toNat ≤ 0xBF ∧
    (a.toNat = 0xE0 → 0xA0 ≤ b.toNat) ∧ (a.toNat = 0xED → b.toNat ≤ 0x9F) := by
  simp only [isSecondOfThree, Bool.and_eq_true, decide_eq_true_eq, beq_iff_eq]
  split <;> split <;> omega

theorem isSecondOfFour_iff {a b : UInt8} : isSecondOfFour a b = true ↔ 0x80 ≤ b.toNat ∧ b.toNat ≤ 0xBF ∧
    (a.toNat = 0xF0 → 0x90 ≤ b.toNat) ∧ (a.toNat = 0xF4 → b.toNat ≤ 0x8F) := by
  simp only [isSecondOfFour, Bool.and_eq_true, decide_eq_true_eq, beq_iff_eq]
  split <;> split <;> omega

/-- A number that is no surrogate is the number of its character. -/
theorem toNat_ofNat {n : Nat} (h : n < 0xD800 ∨ 0xDFFF < n ∧ n < 0x110000) : (Char.ofNat n).toNat = n := by
  rw [Char.ofNat, dif_pos h]
  rfl

theorem byte_of_toNat {n : Nat} {b : UInt8} (h : n = b.toNat) : UInt8.ofNat n = b := by
  rw [h, UInt8.ofNat_toNat]

theorem encodeChar_one {a : UInt8} (ha : a.toNat < 0x80) : encodeChar (Char.ofNat a.toNat) = [a] := by
  rw [encodeChar, toNat_ofNat (by omega), if_pos ha, byte_of_toNat rfl]

theorem encodeChar_two {a b : UInt8} (hl : 0xC2 ≤ a.toNat) (hu : a.toNat < 0xE0) (hb : isTail b = true) :
    encodeChar (Char.ofNat ((a.toNat - 0xC0) * 64 + tailBits b)) = [a, b] := by
  rw [isTail_iff] at hb
  unfold tailBits
  rw [encodeChar, toNat_ofNat (by omega), if_neg (by omega), if_pos (by omega),
    byte_of_toNat (b := a) (by omega), byte_of_toNat (b := b) (by omega)]

theorem encodeChar_three {a b c : UInt8} (hl : 0xE0 ≤ a.toNat) (hu : a.toNat < 0xF0)
    (hb : isSecondOfThree a b = true) (hc : isTail c = true) :
    encodeChar (Char.ofNat ((a.toNat - 0xE0) * 4096 + tailBits b * 64 + tailBits c)) = [a, b, c] := by
  rw [isSecondOfThree_iff] at hb
  rw [isTail_iff] at hc
  unfold tailBits
  rw [encodeChar, toNat_ofNat (by omega), if_neg (by omega), if_neg (by omega), if_pos (by omega),
    byte_of_toNat (b := a) (by omega), byte_of_toNat (b := b) (by omega), byte_of_toNat (b := c) (by omega)]

theorem encodeChar_four {a b c d : UInt8} (hl : 0xF0 ≤ a.toNat) (hu : a.toNat < 0xF5)
    (hb : isSecondOfFour a b = true) (hc : isTail c = true) (hd : isTail d = true) :
    encodeChar (Char.ofNat ((a.toNat - 0xF0) * 262144 + tailBits b * 4096 + tailBits c * 64 + tailBits d)) =
      [a, b, c, d] := by
  rw [isSecondOfFour_iff] at hb
  rw [isTail_iff] at hc hd
  unfold tailBits
  rw [encodeChar, toNat_ofNat (by omega), if_neg (by omega), if_neg (by omega), if_neg (by omega),
    byte_of_toNat (b := a) (by omega), byte_of_toNat (b := b) (by omega), byte_of_toNat (b := c) (by omega),
    byte_of_toNat (b := d) (by omega)]

/-- What is read behind a character is written behind its bytes. -/
theorem flatMap_encodeChar_of_map {i : Nat} {r bs : Bytes} {c : Char} {cs : List Char}
    (h : (c :: ·) <$> decodeFrom i r = .ok cs) (hc : encodeChar c = bs)
    (ih : ∀ {ds}, decodeFrom i r = .ok ds → ds.flatMap encodeChar = r) :
    cs.flatMap encodeChar = bs ++ r := by
  cases hr : decodeFrom i r with
  | error fault =>
    rw [hr] at h
    cases h
  | ok ds =>
    rw [hr] at h
    cases h
    rw [List.flatMap_cons, hc, ih hr]

theorem flatMap_encodeChar_of_decodeFrom {i : Nat} {bs : Bytes} {cs : List Char}
    (h : decodeFrom i bs = .ok cs) : cs.flatMap encodeChar = bs := by
  fun_induction decodeFrom i bs generalizing cs with
  | case1 => cases h; rfl
  | case2 i a r ha ih => exact flatMap_encodeChar_of_map h (encodeChar_one ha) ih
  | case5 i a ha hl hu b r hb ih =>
    exact flatMap_encodeChar_of_map h (encodeChar_two (by omega) hu hb) ih
  | case9 i a ha hl hm hu b hb c r hc ih =>
    exact flatMap_encodeChar_of_map h (encodeChar_three (by omega) hu hb hc) ih
  | case15 i a ha hl hm hm' hu b hb c hc d r hd ih =>
    exact flatMap_encodeChar_of_map h (encodeChar_four (by omega) hu hb hc hd) ih
  | _ => cases h

/-- **What is read is what was written**: bytes are read as the one text that they are the bytes of. -/
theorem decode_eq_ok_iff {bs : Bytes} {s : String} : decode bs = .ok s ↔ bs = encode s := by
  constructor
  · intro h
    cases hd : decodeFrom 0 bs with
    | error fault =>
      rw [decode, hd] at h
      cases h
    | ok cs =>
      rw [decode, hd] at h
      cases h
      rw [encode, String.toList_ofList, flatMap_encodeChar_of_decodeFrom hd]
  · rintro rfl
    exact decode_encode s

theorem encode_eq_nil_iff {s : String} : encode s = [] ↔ s = "" := by
  constructor
  · intro h
    have hs : decode [] = .ok s := decode_eq_ok_iff.2 h.symm
    cases hs
    rfl
  · rintro rfl
    rfl

/-- A byte below 0x80 is read as the character of its number. -/
theorem head_of_decode {a : UInt8} {r : Bytes} {s : String} (ha : a.toNat < 0x80) (h : decode (a :: r) = .ok s) :
    s.toList.head? = some (Char.ofNat a.toNat) := by
  rw [decode, decodeFrom_one 0 r ha] at h
  cases hr : decodeFrom 1 r with
  | error fault =>
    rw [hr] at h
    cases h
  | ok cs =>
    rw [hr] at h
    cases h
    rw [String.toList_ofList]
    rfl

end Utf8

end AssetGraph
