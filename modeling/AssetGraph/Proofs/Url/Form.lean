import AssetGraph.Proofs.Url.Path
import AssetGraph.Url.Form
import Mathlib.Data.List.Basic
/-!
# Forms are read back

The pairs of a query are those that it was made of, in their order (`decode?_encode`), whatever their names and values
hold.  An encoded text holds no ampersand and no equals sign (`mem_encodeText`), so the signs that a query is split at
are those that were put between its texts; and once its plus signs stand for spaces again, it is percent encoded
(`plusToSpace_encodeText`).
-/
namespace AssetGraph.Form

variable {c : Char} {cs : List Char}

/-- **The signs of an encoded text.** -/
theorem mem_encodeText (h : c ∈ encodeText cs) : isBare c = true ∨ c = '+' ∨ c = '%' := by
  obtain ⟨d, -, hd⟩ := List.mem_flatMap.1 h
  rw [encodeChar] at hd
  split at hd
  · exact .inr (.inl (List.mem_singleton.1 hd))
  · have hmem : c ∈ Percent.encode (!isBare ·) [d] := by simpa [Percent.encode] using hd
    obtain ⟨-, hbare⟩ | heq | halpha := Percent.mem_encode hmem
    · exact .inl (by simpa using hbare)
    · exact .inr (.inr heq)
    · exact .inl (by simp [isBare, halpha])

/-- What separates texts is in none of them. -/
theorem not_mem_encodeText (hbare : isBare c = false) (hplus : c ≠ '+') (hpercent : c ≠ '%') : c ∉ encodeText cs := by
  intro h
  obtain h | h | h := mem_encodeText h
  · rw [hbare] at h
    cases h
  · exact hplus h
  · exact hpercent h

/-- What a percent encoding encodes if spaces may stand for themselves. -/
def spacedSet (c : Char) : Bool := !(isBare c || c == ' ')

theorem plusToSpace_encodeByte (b : UInt8) : plusToSpace (Percent.encodeByte b) = Percent.encodeByte b := by
  have hlt := b.toNat_lt
  have hdigit {n : Nat} (h : n < 16) : Percent.hexDigit n ≠ '+' := fun heq => by
    have halpha := Percent.isAlphanum_hexDigit h
    rw [heq] at halpha
    cases halpha
  simp [plusToSpace, Percent.encodeByte, hdigit (show b.toNat / 16 < 16 by omega),
    hdigit (show b.toNat % 16 < 16 by omega)]

theorem plusToSpace_encodeChar (c : Char) : plusToSpace (encodeChar c) = Percent.encodeChar spacedSet c := by
  by_cases hspace : c = ' '
  · rw [hspace]
    decide
  rw [encodeChar, if_neg hspace, Percent.encodeChar, Percent.encodeChar, spacedSet, beq_false_of_ne hspace,
    Bool.or_false]
  split
  · rename_i hbare
    have hplus : c ≠ '+' := by
      rintro rfl
      simp [isBare] at hbare
    simp [plusToSpace, hplus]
  · rw [plusToSpace, List.map_flatMap]
    exact List.flatMap_congr fun b _ => plusToSpace_encodeByte b

theorem plusToSpace_encodeText (cs : List Char) : plusToSpace (encodeText cs) = Percent.encode spacedSet cs := by
  rw [plusToSpace, encodeText, List.map_flatMap]
  exact List.flatMap_congr fun c _ => plusToSpace_encodeChar c

theorem decodeText?_encodeText (s : String) : decodeText? (encodeText s.toList) = some s := by
  rw [decodeText?, plusToSpace_encodeText, Percent.decode_encode rfl]
  exact Utf8.decode?_encode s

/-- A pair is read up to its first equals sign and behind it. -/
theorem decodePair?_encodePair (p : String × String) : decodePair? (encodePair p) = some p := by
  have hname : ∀ c ∈ encodeText p.1.toList, (c != '=') = true := by
    intro c hc
    rw [bne_iff_ne]
    rintro rfl
    exact not_mem_encodeText rfl (by decide) (by decide) hc
  have htake : (encodePair p).takeWhile (· != '=') = encodeText p.1.toList := by
    simp [encodePair, List.takeWhile_append_of_pos hname]
  have hdrop : ((encodePair p).dropWhile (· != '=')).drop 1 = encodeText p.2.toList := by
    simp [encodePair, List.dropWhile_append_of_pos hname]
  rw [decodePair?, htake, hdrop, decodeText?_encodeText, decodeText?_encodeText]
  rfl

theorem not_mem_encodePair (p : String × String) : '&' ∉ encodePair p := by
  have htext (s : String) : '&' ∉ encodeText s.toList := not_mem_encodeText rfl (by decide) (by decide)
  simp [encodePair, htext]

theorem encodePair_ne_nil (p : String × String) : encodePair p ≠ [] := by simp [encodePair]

theorem mapM_encodePair (pairs : List (String × String)) : (pairs.map encodePair).mapM decodePair? = some pairs := by
  induction pairs with
  | nil => rfl
  | cons p pairs ih =>
    rw [List.map_cons, List.mapM_cons, decodePair?_encodePair, ih]
    rfl

/-- **The pairs of a query are those that it was made of.** -/
theorem decode?_encode (pairs : List (String × String)) : decode? (encode pairs) = some pairs := by
  by_cases hne : pairs = []
  · rw [hne]
    rfl
  have hparts : Text.parts '&' (encode pairs) = pairs.map encodePair :=
    Text.parts_join (by simpa using hne) (List.forall_mem_map.2 fun p _ => not_mem_encodePair p)
  have hfilter : (pairs.map encodePair).filter (!·.isEmpty) = pairs.map encodePair :=
    List.filter_eq_self.2 (List.forall_mem_map.2 fun p _ => by simp [encodePair_ne_nil p])
  rw [decode?, hparts, hfilter, mapM_encodePair]

end AssetGraph.Form
