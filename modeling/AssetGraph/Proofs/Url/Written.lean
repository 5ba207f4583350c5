import AssetGraph.Proofs.Except
import AssetGraph.Proofs.Url.Path
/-!
# Written paths

A path that is read holds nothing in a segment that would end it (`isSegment_of_parse`), nor does one that segments are
put into (`isSegment_foldl`).  So a written path splits into its segments (`parts_pathChars`), and the text of a URL
tells its path (`path_eq_of_render_eq`).
-/
namespace AssetGraph.Url

open Percent (segmentSet pathSet)

variable {u u' : Url} {isSpecial : Bool} {s : List Char} {path ss : List (List Char)}

/-- Characters that may stand between two slashes of a path. -/
def IsSegment (s : List Char) : Prop := '/' ∉ s ∧ '?' ∉ s ∧ '#' ∉ s

theorem isSegment_nil : IsSegment [] := by simp [IsSegment]

theorem isSegment_encode {set : Char → Bool} (hslash : '/' ∉ s ∨ set '/' = true) (hmark : set '?' = true)
    (hhash : set '#' = true) : IsSegment (Percent.encode set s) :=
  ⟨Percent.not_mem_encode (by decide) rfl hslash, Percent.not_mem_encode (by decide) rfl (.inr hmark),
    Percent.not_mem_encode (by decide) rfl (.inr hhash)⟩

/-! ## Paths that are read -/

theorem isSegment_parentPath (h : ∀ s ∈ path, IsSegment s) : ∀ s ∈ parentPath path, IsSegment s := by
  rw [parentPath]
  split
  · exact h
  · exact fun s hs => h s (List.dropLast_subset _ hs)

theorem isSegment_of_isDrive (h : isDrive s = true) : IsSegment (s.take 1 ++ [':']) := by
  unfold isDrive at h
  split at h
  · rename_i c d
    simp only [Bool.and_eq_true] at h
    have hne (d : Char) (hd : d.isAlpha = false) : c ≠ d := by
      rintro rfl
      rw [h.1] at hd
      cases hd
    simp [IsSegment, (hne '/' rfl).symm, (hne '?' rfl).symm, (hne '#' rfl).symm]
  · cases h

theorem forall_mem_append_singleton {P : List Char → Prop} (h : ∀ s ∈ path, P s) (hs : P s) :
    ∀ t ∈ path ++ [s], P t := by
  simpa [or_imp, forall_and] using ⟨h, hs⟩

theorem isSegment_takeSegment (isFile isLast : Bool) (h : ∀ s ∈ path, IsSegment s) (hs : '/' ∉ s) :
    ∀ t ∈ takeSegment isFile path s isLast, IsSegment t := by
  have hempty (p : List (List Char)) (hp : ∀ s ∈ p, IsSegment s) :
      ∀ t ∈ p ++ (if isLast then [[]] else []), IsSegment t := by
    cases isLast with
    | false => simpa using hp
    | true => exact forall_mem_append_singleton hp isSegment_nil
  unfold takeSegment
  dsimp only
  split
  · exact hempty _ (isSegment_parentPath h)
  split
  · exact hempty _ h
  split
  · rename_i hdrive
    simp only [Bool.and_eq_true] at hdrive
    exact forall_mem_append_singleton h (isSegment_of_isDrive hdrive.2)
  · have hsegment : IsSegment (Percent.encode pathSet s) := isSegment_encode (.inl hs) rfl rfl
    exact forall_mem_append_singleton h hsegment

theorem isSegment_takeSegments (isFile : Bool) (h : ∀ s ∈ path, IsSegment s) (hss : ∀ s ∈ ss, '/' ∉ s) :
    ∀ t ∈ takeSegments isFile path ss, IsSegment t := by
  fun_induction takeSegments isFile path ss with
  | case1 path => exact h
  | case2 path last => exact isSegment_takeSegment isFile true h (hss last (by simp))
  | case3 path s t ss ih =>
    obtain ⟨hs, hrest⟩ := List.forall_mem_cons.1 hss
    exact ih (isSegment_takeSegment isFile false h hs) hrest

theorem isSegment_segmentsOf (isFile : Bool) (cs : List Char) : ∀ s ∈ segmentsOf isFile cs, IsSegment s :=
  isSegment_takeSegments isFile (by simp) fun _ hs => Text.not_mem_of_mem_parts hs

theorem isSegment_filePath (h : ∀ s ∈ path, IsSegment s) : ∀ s ∈ filePath path, IsSegment s := by
  rw [filePath]
  split
  · simp [isSegment_nil]
  · rename_i p hp
    exact fun s hs => h s ((List.dropWhile_sublist _).subset hs)

theorem isSegment_fileParts {cs : List Char} {a : Authority} (h : fileParts cs = .ok (a, path)) :
    ∀ s ∈ path, IsSegment s := by
  unfold fileParts at h
  split at h
  · dsimp only at h
    split_ifs at h
    · cases h
      exact isSegment_filePath (isSegment_segmentsOf true _)
    · cases h
      exact isSegment_filePath (isSegment_segmentsOf true _)
    · obtain ⟨host, -, h⟩ := Except.bind_eq_ok_iff.1 h
      cases h
      exact isSegment_filePath (isSegment_segmentsOf true _)
  · cases h
    exact isSegment_filePath (isSegment_segmentsOf true _)

theorem isSegment_pathBehind (isSpecial : Bool) (cs : List Char) : ∀ s ∈ pathBehind isSpecial cs, IsSegment s := by
  rw [pathBehind]
  split
  · simp
  · exact isSegment_segmentsOf false _

theorem isSegment_hierarchy {scheme cs : List Char} {isLast : Bool} {a : Option Authority}
    (h : hierarchy scheme isLast cs = .ok (a, path)) : ∀ s ∈ path, IsSegment s := by
  unfold hierarchy at h
  split at h
  · obtain ⟨parts, hfile, h⟩ := Except.bind_eq_ok_iff.1 h
    cases h
    exact isSegment_fileParts hfile
  split at h
  · obtain ⟨parts, -, h⟩ := Except.bind_eq_ok_iff.1 h
    cases h
    exact isSegment_pathBehind true _
  split at h
  · obtain ⟨parts, -, h⟩ := Except.bind_eq_ok_iff.1 h
    cases h
    exact isSegment_pathBehind false _
  · cases h
    exact isSegment_segmentsOf false _
  · cases h

/-- **A path that is read is one of segments.** -/
theorem isSegment_of_parse {s : String} {u : Url} (h : parse s = .ok u) : ∀ t ∈ u.path, IsSegment t := by
  unfold parse at h
  split at h
  · cases h
  · obtain ⟨parts, hparts, h⟩ := Except.bind_eq_ok_iff.1 h
    cases h
    exact isSegment_hierarchy hparts

/-! ## Paths that segments are put into -/

theorem isSegment_popIfEmpty (h : ∀ s ∈ path, IsSegment s) : ∀ s ∈ popIfEmpty path, IsSegment s := by
  rw [popIfEmpty]
  split
  · exact fun s hs => h s (List.dropLast_subset _ hs)
  · exact h

theorem isSegment_root (h : ∀ s ∈ path, IsSegment s) : ∀ s ∈ root path, IsSegment s := by
  rw [root]
  split
  · simp
  · exact h

theorem isSegment_pushSegment (h : ∀ s ∈ path, IsSegment s) (s : List Char) :
    ∀ t ∈ pushSegment isSpecial path s, IsSegment t := by
  have hencoded (s : List Char) : IsSegment (Percent.encode (Percent.segmentSet isSpecial) s) :=
    isSegment_encode (.inr (by cases isSpecial <;> rfl)) (by cases isSpecial <;> rfl) (by cases isSpecial <;> rfl)
  by_cases hdot : s = ['.'] ∨ s = ['.', '.']
  · rw [pushSegment, if_pos (by simpa using hdot)]
    exact h
  rw [not_or] at hdot
  rw [pushSegment_eq hdot.1 hdot.2]
  dsimp only
  split_ifs
  · exact forall_mem_append_singleton (isSegment_parentPath (isSegment_root h)) isSegment_nil
  · exact forall_mem_append_singleton (isSegment_root h) isSegment_nil
  · exact forall_mem_append_singleton (isSegment_root h) (hencoded _)

theorem isSegment_foldl (h : ∀ s ∈ path, IsSegment s) (ss : List (List Char)) :
    ∀ t ∈ ss.foldl (pushSegment isSpecial) path, IsSegment t := by
  induction ss generalizing path with
  | nil => exact h
  | cons s ss ih => exact ih (isSegment_pushSegment h s)

/-! ## The path of a written URL -/

/-- **A path of segments is split into them**, behind the slash in front of the first. -/
theorem parts_pathChars {u : Url} (h : ∀ s ∈ u.path, IsSegment s) : Text.parts '/' u.pathChars = [] :: u.path := by
  rw [pathChars]
  generalize u.path = path at h
  cases path with
  | nil => rfl
  | cons s path =>
    rw [List.flatMap_cons, List.cons_append, Text.parts, if_pos rfl]
    congr 1
    induction path generalizing s with
    | nil => simpa using Text.parts_eq_singleton (h s (by simp)).1
    | cons t path ih =>
      obtain ⟨hs, hrest⟩ := List.forall_mem_cons.1 h
      rw [List.flatMap_cons, List.cons_append, Text.parts_append hs.1, ih t hrest]

/-- The signs that end a path. -/
def endsPath (c : Char) : Bool := c == '?' || c == '#'

theorem takeWhile_pathChars (h : ∀ s ∈ u.path, IsSegment s) :
    (u.pathChars ++ (u.queryChars ++ u.fragmentChars)).takeWhile (!endsPath ·) = u.pathChars := by
  have hpath : ∀ c ∈ u.pathChars, (!endsPath c) = true := by
    intro c hc
    obtain ⟨s, hs, hc⟩ := List.mem_flatMap.1 hc
    obtain rfl | hc := List.mem_cons.1 hc
    · rfl
    · obtain ⟨-, hmark, hhash⟩ := h s hs
      have hne (d : Char) (hd : d ∉ s) : c ≠ d := fun heq => hd (heq ▸ hc)
      simp [endsPath, hne '?' hmark, hne '#' hhash]
  rw [List.takeWhile_append_of_pos hpath, queryChars, fragmentChars]
  cases u.query <;> cases u.fragment <;> simp [endsPath]

/-- Paths that differ behind one segment that is not empty have the same guard. -/
theorem pathGuard_eq {pre : List (List Char)} {ss' : List (List Char)} (hauthority : u.authority = u'.authority)
    (hs : s ≠ []) (hu : u.path = pre ++ s :: ss) (hu' : u'.path = pre ++ s :: ss') : u.pathGuard = u'.pathGuard := by
  obtain ⟨c, cs, rfl⟩ := List.exists_cons_of_ne_nil hs
  rw [pathGuard, pathGuard, hauthority, hu, hu']
  cases u'.authority with
  | some a => rfl
  | none =>
    match pre with
    | [] => rfl
    | [p] => cases p <;> rfl
    | p :: q :: pre => cases p <;> rfl

/-- **The path of a URL is seen in its text**, next to another one that differs behind a common segment. -/
theorem path_eq_of_render_eq (hscheme : u.scheme = u'.scheme) (hauthority : u.authority = u'.authority)
    (hguard : u.pathGuard = u'.pathGuard) (h : ∀ s ∈ u.path, IsSegment s) (h' : ∀ s ∈ u'.path, IsSegment s)
    (hrender : u.render = u'.render) : u.path = u'.path := by
  have hchars := String.ofList_injective hrender
  have hfront : u.authorityChars = u'.authorityChars := by rw [authorityChars, authorityChars, hauthority]
  rw [renderChars, renderChars, hscheme, hfront, hguard, List.append_cancel_left_eq, List.cons.injEq] at hchars
  simp only [List.append_assoc, List.append_cancel_left_eq] at hchars
  have hpath := congrArg (List.takeWhile (!endsPath ·)) hchars.2
  rw [takeWhile_pathChars h, takeWhile_pathChars h'] at hpath
  have hparts := congrArg (Text.parts '/') hpath
  rw [parts_pathChars h, parts_pathChars h', List.cons.injEq] at hparts
  exact hparts.2

end AssetGraph.Url
