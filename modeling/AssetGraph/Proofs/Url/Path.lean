import AssetGraph.Url.Parser
import Mathlib.Data.List.Induction
/-!
# Segments and their places

An encoded segment is decoded to what it was made of (`Percent.decode_encode`).  A segment stays in its place unless it
is a single or double dot or holds a tab or a line end (`KeepsPlace`): any other one grows the path by itself
(`foldl_of_keepsPlace`), and where each of several has come out behind the path, each was such (`keepsPlace_of_foldl`).
What a segment does otherwise is said once, by cases (`pushSegment_cases`).
-/
namespace AssetGraph

/-! ## Percent encoding -/

namespace Percent

variable {set : Char → Bool} {c : Char} {cs : List Char}

theorem decode_cons_of_ne (h : c ≠ '%') (r : List Char) : decode (c :: r) = Utf8.encodeChar c ++ decode r := by
  match r with
  | [] => simp [decode]
  | [d] => simp [decode]
  | x :: y :: r => rw [decode, if_neg h]

theorem decode_flatMap_encodeByte (bs : Bytes) (r : List Char) :
    decode (bs.flatMap encodeByte ++ r) = bs ++ decode r := by
  induction bs with
  | nil => rfl
  | cons b bs ih => rw [List.flatMap_cons, List.append_assoc, decode_encodeByte, ih, List.cons_append]

/-- **What is encoded is decoded to its bytes**, if percent signs are encoded. -/
theorem decode_encode (hset : set '%' = true) (cs : List Char) :
    decode (encode set cs) = cs.flatMap Utf8.encodeChar := by
  induction cs with
  | nil => rfl
  | cons c cs ih =>
    have hcons : encode set (c :: cs) = encodeChar set c ++ encode set cs := List.flatMap_cons
    rw [hcons, encodeChar, List.flatMap_cons, ← ih]
    split
    · rename_i hbare
      have hc : c ≠ '%' := by
        rintro rfl
        simp [hset] at hbare
      exact decode_cons_of_ne hc _
    · exact decode_flatMap_encodeByte _ _

theorem isAlphanum_hexDigit {n : Nat} (h : n < 16) : (hexDigit n).isAlphanum = true := by
  have hall : ∀ m ∈ List.range 16, (hexDigit m).isAlphanum = true := by decide
  exact hall n (List.mem_range.2 h)

theorem mem_encode (h : c ∈ encode set cs) : c ∈ cs ∧ set c = false ∨ c = '%' ∨ c.isAlphanum = true := by
  obtain ⟨d, hmem, hd⟩ := List.mem_flatMap.1 h
  rw [encodeChar] at hd
  split at hd
  · rename_i hbare
    rw [List.mem_singleton.1 hd]
    simp only [Bool.and_eq_true, Bool.not_eq_true'] at hbare
    exact .inl ⟨hmem, hbare.2⟩
  · obtain ⟨b, -, hb⟩ := List.mem_flatMap.1 hd
    have hlt := b.toNat_lt
    simp only [encodeByte, List.mem_cons, List.not_mem_nil, or_false] at hb
    obtain rfl | rfl | rfl := hb
    · exact .inr (.inl rfl)
    · exact .inr (.inr (isAlphanum_hexDigit (by omega)))
    · exact .inr (.inr (isAlphanum_hexDigit (by omega)))

/-- A sign that is no letter and no digit is in an encoded text only if it stood there and is left bare. -/
theorem not_mem_encode (hc : c ≠ '%') (hsign : c.isAlphanum = false) (h : c ∉ cs ∨ set c = true) :
    c ∉ encode set cs := by
  intro hmem
  obtain ⟨hin, hbare⟩ | heq | halpha := mem_encode hmem
  · obtain hnot | hset := h
    · exact hnot hin
    · rw [hset] at hbare
      cases hbare
  · exact hc heq
  · rw [hsign] at halpha
    cases halpha

end Percent

theorem Utf8.flatMap_encodeChar_injective {cs ds : List Char}
    (h : cs.flatMap Utf8.encodeChar = ds.flatMap Utf8.encodeChar) : cs = ds := by
  have hdecode := Utf8.decode_encode (String.ofList cs)
  have hsame : Utf8.encode (String.ofList cs) = Utf8.encode (String.ofList ds) := by
    rw [Utf8.encode, Utf8.encode, String.toList_ofList, String.toList_ofList, h]
  rw [hsame, Utf8.decode_encode] at hdecode
  exact (String.ofList_injective (Except.ok.inj hdecode)).symm

theorem Utf8.encode_injective : Function.Injective Utf8.encode :=
  fun _ _ h => String.toList_injective (Utf8.flatMap_encodeChar_injective h)

namespace Url

open Percent (segmentSet)

variable {isSpecial : Bool} {c : Char} {s : List Char} {path : List (List Char)}

/-! ## Dots -/

theorem eq_of_toLower {d : Char} (h : c.toLower = d) :
    c = d ∨ c.toNat + 32 = d.toNat ∧ 65 ≤ c.toNat ∧ c.toNat ≤ 90 := by
  by_cases hupper : c.val ≥ 'A'.val ∧ c.val ≤ 'Z'.val
  · have hlower : c.toLower = _ := dif_pos hupper
    simp only [ge_iff_le, UInt32.le_iff_toNat_le] at hupper
    obtain ⟨hlow, hhigh⟩ : 65 ≤ c.toNat ∧ c.toNat ≤ 90 := hupper
    refine .inr ⟨?_, hlow, hhigh⟩
    rw [← h, hlower]
    have hlt : c.val.toNat + 32 < 2 ^ 32 := by
      have : c.val.toNat = c.toNat := rfl
      omega
    exact (Nat.mod_eq_of_lt hlt).symm
  · have hlower : c.toLower = c := dif_neg hupper
    exact .inl (hlower.symm.trans h)

theorem eq_of_toLower_of_lt {d : Char} (h : c.toLower = d) (hd : d.toNat < 97) : c = d := by
  obtain heq | ⟨hsum, hlow, -⟩ := eq_of_toLower h
  · exact heq
  · omega

theorem decode_dot (h : c.toLower = '.') (r : List Char) : Percent.decode (c :: r) = 46 :: Percent.decode r := by
  rw [eq_of_toLower_of_lt h (by decide), Percent.decode_cons_of_ne (by decide)]
  rfl

theorem decode_encodedDot {x y : Char} (hc : c.toLower = '%') (hx : x.toLower = '2') (hy : y.toLower = 'e')
    (r : List Char) : Percent.decode (c :: x :: y :: r) = 46 :: Percent.decode r := by
  have hvalue : Percent.hexValue? y = some 14 := by
    obtain rfl | ⟨hsum, -, -⟩ := eq_of_toLower hy
    · decide
    · have : y.toNat = 69 := by simpa using hsum
      simp [Percent.hexValue?, this]
  rw [eq_of_toLower_of_lt hc (by decide), eq_of_toLower_of_lt hx (by decide), Percent.decode, if_pos rfl, hvalue]
  rfl

/-- What stands for the path itself is decoded to one dot. -/
theorem decode_of_isSingleDot (h : isSingleDot s = true) : Percent.decode s = [46] := by
  simp only [isSingleDot, List.contains_iff_mem, List.mem_cons, List.not_mem_nil, or_false, List.map_eq_cons_iff,
    List.map_eq_nil_iff] at h
  obtain ⟨a, _, rfl, ha, rfl⟩ | ⟨a, _, rfl, ha, b, _, rfl, hb, e, _, rfl, he, rfl⟩ := h
  · rw [decode_dot ha, Percent.decode]
  · rw [decode_encodedDot ha hb he, Percent.decode]

/-- What stands for the path above is decoded to two dots. -/
theorem decode_of_isDoubleDot (h : isDoubleDot s = true) : Percent.decode s = [46, 46] := by
  simp only [isDoubleDot, List.contains_iff_mem, List.mem_cons, List.not_mem_nil, or_false, List.map_eq_cons_iff,
    List.map_eq_nil_iff] at h
  obtain ⟨a, _, rfl, ha, a', _, rfl, ha', rfl⟩ | ⟨a, _, rfl, ha, a', _, rfl, ha', b', _, rfl, hb', e', _, rfl, he', rfl⟩ |
    ⟨a, _, rfl, ha, b, _, rfl, hb, e, _, rfl, he, a', _, rfl, ha', rfl⟩ |
    ⟨a, _, rfl, ha, b, _, rfl, hb, e, _, rfl, he, a', _, rfl, ha', b', _, rfl, hb', e', _, rfl, he', rfl⟩ := h
  · rw [decode_dot ha, decode_dot ha', Percent.decode]
  · rw [decode_dot ha, decode_encodedDot ha' hb' he', Percent.decode]
  · rw [decode_encodedDot ha hb he, decode_dot ha', Percent.decode]
  · rw [decode_encodedDot ha hb he, decode_encodedDot ha' hb' he', Percent.decode]

theorem isSingleDot_encode (s : List Char) :
    isSingleDot (Percent.encode (segmentSet isSpecial) s) = true ↔ s = ['.'] := by
  constructor
  · intro h
    have hdecode := decode_of_isSingleDot h
    rw [Percent.decode_encode (by cases isSpecial <;> rfl)] at hdecode
    have hbytes : s.flatMap Utf8.encodeChar = ['.'].flatMap Utf8.encodeChar := hdecode
    exact Utf8.flatMap_encodeChar_injective hbytes
  · rintro rfl
    cases isSpecial <;> decide

theorem isDoubleDot_encode (s : List Char) :
    isDoubleDot (Percent.encode (segmentSet isSpecial) s) = true ↔ s = ['.', '.'] := by
  constructor
  · intro h
    have hdecode := decode_of_isDoubleDot h
    rw [Percent.decode_encode (by cases isSpecial <;> rfl)] at hdecode
    have hbytes : s.flatMap Utf8.encodeChar = ['.', '.'].flatMap Utf8.encodeChar := hdecode
    exact Utf8.flatMap_encodeChar_injective hbytes
  · rintro rfl
    cases isSpecial <;> decide

/-! ## Putting segments in -/

/-- **A segment that stays where it is put**: no single or double dot, and without tabs and line ends. -/
def KeepsPlace (s : List Char) : Prop := s ≠ ['.'] ∧ s ≠ ['.', '.'] ∧ ∀ c ∈ s, isIgnored c = false

instance (s : List Char) : Decidable (KeepsPlace s) :=
  decidable_of_iff (s ≠ ['.'] ∧ s ≠ ['.', '.'] ∧ s.all (!isIgnored ·) = true) (by simp [KeepsPlace])

/-- The path that a segment comes behind: an empty one gives way. -/
def root (path : List (List Char)) : List (List Char) := if path == [[]] then [] else path

theorem root_of_ne (h : path ≠ [[]]) : root path = path := if_neg (by simpa using h)

theorem length_root_le (path : List (List Char)) : (root path).length ≤ path.length := by
  rw [root]
  split_ifs <;> simp

/-- What a segment is put in as, once it is no dot. -/
theorem pushSegment_eq (hsingle : s ≠ ['.']) (hdouble : s ≠ ['.', '.']) (path : List (List Char)) :
    pushSegment isSpecial path s =
      let encoded := Percent.encode (segmentSet isSpecial) (s.filter (!isIgnored ·))
      if isDoubleDot encoded then parentPath (root path) ++ [[]]
      else if isSingleDot encoded then root path ++ [[]]
      else root path ++ [encoded] :=
  if_neg (by simp [hsingle, hdouble])

theorem pushSegment_of_keepsPlace (h : KeepsPlace s) (path : List (List Char)) :
    pushSegment isSpecial path s = root path ++ [Percent.encode (segmentSet isSpecial) s] := by
  obtain ⟨hsingle, hdouble, hplain⟩ := h
  have hfilter : s.filter (!isIgnored ·) = s := List.filter_eq_self.2 fun c hc => by simp [hplain c hc]
  rw [pushSegment_eq hsingle hdouble, hfilter]
  dsimp only
  rw [if_neg (by rwa [isDoubleDot_encode]), if_neg (by rwa [isSingleDot_encode])]

theorem length_parentPath_le (path : List (List Char)) : (parentPath path).length ≤ path.length := by
  rw [parentPath]
  split
  · exact Nat.le_refl _
  · rw [List.length_dropLast]
    exact Nat.sub_le _ 1

/-- **What a segment does to a path**: nothing, or it leaves an empty one at the end, or it comes behind it. -/
theorem pushSegment_cases (isSpecial : Bool) (path : List (List Char)) (s : List Char) :
    pushSegment isSpecial path s = path ∨
      (s ≠ [] ∧ ∃ front, front.length ≤ path.length ∧ pushSegment isSpecial path s = front ++ [[]]) ∨
      s ≠ ['.'] ∧ s ≠ ['.', '.'] ∧ pushSegment isSpecial path s =
        root path ++ [Percent.encode (segmentSet isSpecial) (s.filter (!isIgnored ·))] := by
  by_cases hdot : s = ['.'] ∨ s = ['.', '.']
  · exact .inl (if_pos (by simpa using hdot))
  rw [not_or] at hdot
  have hempty (h : s = []) : s.filter (!isIgnored ·) = [] := by rw [h]; rfl
  rw [pushSegment_eq hdot.1 hdot.2]
  dsimp only
  split_ifs with hdouble hsingle
  · rw [isDoubleDot_encode] at hdouble
    refine .inr (.inl ⟨fun h => ?_, _, Nat.le_trans (length_parentPath_le _) (length_root_le path), rfl⟩)
    rw [hempty h] at hdouble
    cases hdouble
  · rw [isSingleDot_encode] at hsingle
    refine .inr (.inl ⟨fun h => ?_, _, length_root_le path, rfl⟩)
    rw [hempty h] at hsingle
    cases hsingle
  · exact .inr (.inr ⟨hdot.1, hdot.2, rfl⟩)

theorem length_pushSegment_le (isSpecial : Bool) (path : List (List Char)) (s : List Char) :
    (pushSegment isSpecial path s).length ≤ path.length + 1 := by
  have hroot := length_root_le path
  obtain h | ⟨-, front, hfront, h⟩ | ⟨-, -, h⟩ := pushSegment_cases isSpecial path s
  · rw [h]
    omega
  · rw [h, List.length_append, List.length_singleton]
    omega
  · rw [h, List.length_append, List.length_singleton]
    omega

variable {ss : List (List Char)}

theorem length_foldl_le (isSpecial : Bool) (path ss : List (List Char)) :
    (ss.foldl (pushSegment isSpecial) path).length ≤ path.length + ss.length := by
  induction ss generalizing path with
  | nil => simp
  | cons s ss ih =>
    have := length_pushSegment_le isSpecial path s
    have := ih (pushSegment isSpecial path s)
    rw [List.foldl_cons, List.length_cons]
    omega

/-- **Segments that keep their place come behind the path**, one by one. -/
theorem foldl_of_keepsPlace (h : ∀ s ∈ ss, KeepsPlace s) (hpath : path ≠ [] ∧ path ≠ [[]]) :
    ss.foldl (pushSegment isSpecial) path = path ++ ss.map (Percent.encode (segmentSet isSpecial)) := by
  induction ss generalizing path with
  | nil => simp
  | cons s ss ih =>
    obtain ⟨hs, hss⟩ := List.forall_mem_cons.1 h
    rw [List.foldl_cons, pushSegment_of_keepsPlace hs, root_of_ne hpath.2, ih hss ?_]
    · simp
    · cases path with
      | nil => exact absurd rfl hpath.1
      | cons p path => simp

/-- The bytes that segments stand for. -/
abbrev bytesOf (cs : List Char) : Bytes := cs.flatMap Utf8.encodeChar

theorem decode_encode_segment (isSpecial : Bool) (s : List Char) :
    Percent.decode (Percent.encode (segmentSet isSpecial) s) = bytesOf s :=
  Percent.decode_encode (by cases isSpecial <;> rfl) s

/-- **Segments that have all come out behind the path have kept their place.** -/
theorem keepsPlace_of_foldl {pre segs : List (List Char)} (hpath : path ≠ [])
    (h : ss.foldl (pushSegment isSpecial) path = pre ++ segs) (hlength : pre.length = path.length)
    (hsegs : segs.map Percent.decode = ss.map bytesOf) : ∀ s ∈ ss, KeepsPlace s := by
  -- the last one has come out, so it was not passed over, nor turned into an empty one, nor made shorter
  induction ss using List.reverseRecOn generalizing segs with
  | nil => simp
  | append_singleton ss s ih =>
    rw [List.map_append, List.map_singleton, List.map_eq_append_iff] at hsegs
    obtain ⟨segs, lasts, rfl, hsegs, hlasts⟩ := hsegs
    obtain ⟨last, rfl, hlast⟩ := List.map_eq_singleton_iff.1 hlasts
    have hcount := congrArg List.length hsegs
    rw [List.length_map, List.length_map] at hcount
    have hbound := length_foldl_le isSpecial path ss
    rw [List.foldl_append, List.foldl_cons, List.foldl_nil, ← List.append_assoc] at h
    obtain heq | ⟨hne, front, hfront, heq⟩ | ⟨hsingle, hdouble, heq⟩ :=
      pushSegment_cases isSpecial (ss.foldl (pushSegment isSpecial) path) s
    · have hlonger := congrArg List.length (heq.symm.trans h)
      rw [List.length_append, List.length_append, List.length_singleton] at hlonger
      omega
    · obtain ⟨-, hempty⟩ := List.append_inj' (heq.symm.trans h) rfl
      rw [← List.singleton_inj.1 hempty] at hlast
      have hbytes : s.flatMap Utf8.encodeChar = [].flatMap Utf8.encodeChar := hlast.symm
      exact absurd (Utf8.flatMap_encodeChar_injective hbytes) hne
    · obtain ⟨hfold, hs⟩ := List.append_inj' (heq.symm.trans h) rfl
      rw [← List.singleton_inj.1 hs, decode_encode_segment] at hlast
      have hplain := List.filter_eq_self.1 (Utf8.flatMap_encodeChar_injective hlast)
      have hroot : ss.foldl (pushSegment isSpecial) path ≠ [[]] := by
        intro hone
        have hnil : pre = [] := (List.append_eq_nil_iff.1 (hfold.symm.trans (by rw [hone]; rfl))).1
        rw [hnil] at hlength
        exact hpath (List.length_eq_zero_iff.1 hlength.symm)
      rw [root_of_ne hroot] at hfold
      have hrest := ih hfold hsegs
      simpa [or_imp, forall_and] using ⟨hrest, hsingle, hdouble, fun c hc => by simpa using hplain c hc⟩

end Url

end AssetGraph
