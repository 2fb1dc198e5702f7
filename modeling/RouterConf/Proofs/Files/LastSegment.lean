import RouterConf.Files.Path
import RouterConf.Proofs.Text.Parts

/-!
# How paths end

Files are told apart here by their last names: a configuration, its draft, a record and the draft of
a record never end alike. The last segment of a path is what follows its last slash; a text without
a slash that is put behind a path goes to its last segment.

Main statements: `Path.lastSegment_append`, `Path.lastSegment_withExtension`.
-/

namespace RouterConf

/-! ### The last segment -/

namespace Path

/-- What follows the last slash of a path. -/
def lastSegment (p : Path) : List Char :=
  p.segments.getLastD []

/-- A path has a last segment, though it may be empty. -/
theorem exists_segments_eq (p : Path) : ∃ init, p.segments = init ++ [p.lastSegment] := by
  obtain ⟨init, last, h, -⟩ := Text.splitOn_append (show '/' ∉ [] from List.not_mem_nil) p.toList
  exact ⟨init, by rw [lastSegment, segments, h]; simp⟩

/-- What is put behind a path without a slash goes to its last segment. -/
theorem lastSegment_append (p w : Path) (hw : '/' ∉ w.toList) :
    lastSegment (p ++ w) = p.lastSegment ++ w.toList := by
  obtain ⟨init, last, h, happ⟩ := Text.splitOn_append hw p.toList
  rw [lastSegment, lastSegment, segments, segments, String.toList_append, h, happ]
  simp

/-- A file below a directory ends as its name does. -/
theorem suffix_lastSegment_join (base name w : String) (hw : '/' ∉ w.toList) :
    w.toList <:+ (join base (name ++ w)).lastSegment := by
  -- In each of its cases `join` puts something before the name.
  have form : ∃ q : String, join base (name ++ w) = q ++ w := by
    unfold join
    split
    · exact ⟨name, rfl⟩
    split
    · exact ⟨base ++ name, by rw [String.append_assoc]⟩
    · refine ⟨base ++ "/" ++ name, ?_⟩
      rw [String.append_assoc, String.append_assoc, String.append_assoc]
  obtain ⟨q, hq⟩ := form
  rw [hq, lastSegment_append q w hw]
  exact List.suffix_append _ _

/-- The last segment is what follows the last slash. -/
theorem lastSegment_append_slash (q : List Char) {w : List Char} (hw : '/' ∉ w) :
    lastSegment (String.ofList (q ++ '/' :: w)) = w := by
  rw [lastSegment, segments, String.toList_ofList, Text.splitOn_append_cons,
    Text.splitOn_of_notMem hw]
  simp

/-- A name without a slash is the last segment of where it is put. -/
theorem lastSegment_join (base : Path) {name : String} (h : '/' ∉ name.toList) :
    lastSegment (join base name) = name.toList := by
  -- A name alone is its own only segment.
  have bare : lastSegment name = name.toList := by
    rw [lastSegment, segments, Text.splitOn_of_notMem h]
    rfl
  unfold join
  split
  · exact bare
  split
  · rename_i hb
    rw [Bool.or_eq_true, decide_eq_true_eq, String.isEmpty_iff] at hb
    rcases hb with rfl | hb
    · rw [String.empty_append]
      exact bare
    · -- The base brings its slash with it.
      obtain ⟨q, hq⟩ := List.getLast?_eq_some_iff.1 hb
      have form : base ++ name = String.ofList (q ++ '/' :: name.toList) := by
        rw [← String.toList_inj, String.toList_append, hq, String.toList_ofList]
        simp
      rw [form, lastSegment_append_slash q h]
  · -- The slash is put in between.
    have form : base ++ "/" ++ name = String.ofList (base.toList ++ '/' :: name.toList) := by
      rw [← String.toList_inj, String.toList_append, String.toList_append, String.toList_ofList]
      simp
    rw [form, lastSegment_append_slash _ h]

/-- A path that is put together from segments ends with the last of them. -/
theorem lastSegment_ofReversed {name : List Char} (h : '/' ∉ name) (rest : List (List Char)) :
    lastSegment (ofReversed (name :: rest)) = name := by
  -- By induction on the segments before it, each of which is followed by a slash.
  have form : ∀ init : List (List Char), init ≠ [] →
      ∃ q, List.intercalate ['/'] (init ++ [name]) = q ++ '/' :: name := by
    intro init
    induction init with
    | nil => exact fun hne => absurd rfl hne
    | cons s init ih =>
      intro _
      rw [List.cons_append, List.intercalate_cons_of_ne_nil (by simp)]
      cases init with
      | nil => exact ⟨s, by simp⟩
      | cons s' init =>
        obtain ⟨q, hq⟩ := ih (List.cons_ne_nil _ _)
        exact ⟨s ++ ['/'] ++ q, by rw [hq]; simp⟩
  rw [ofReversed, List.reverse_cons]
  by_cases hr : rest.reverse = []
  · rw [hr, List.nil_append, List.intercalate_singleton, lastSegment, segments,
      String.toList_ofList, Text.splitOn_of_notMem h]
    rfl
  · obtain ⟨q, hq⟩ := form _ hr
    rw [hq, lastSegment_append_slash q h]

/-! ### Replacing an extension -/

/-- A name that ends in an extension has it cut off, unless nothing stands before it. -/
theorem cutExtension_append (stem : List Char) {extension : List Char} (h : '.' ∉ extension) :
    cutExtension (stem ++ '.' :: extension) =
      if stem = [] then ('.' :: extension, none) else (stem, some extension) := by
  -- Seen from the end, the extension goes up to the first dot.
  have plain : ∀ c ∈ extension.reverse, decide (c ≠ '.') = true := by
    intro c hc
    rw [decide_eq_true_eq]
    rintro rfl
    exact h (List.mem_reverse.1 hc)
  have back : (stem ++ '.' :: extension).reverse = extension.reverse ++ '.' :: stem.reverse := by
    simp
  have taken : (stem ++ '.' :: extension).reverse.takeWhile (· ≠ '.') = extension.reverse := by
    rw [back, List.takeWhile_append_of_pos plain, List.takeWhile_cons_of_neg (by simp),
      List.append_nil]
  have dropped : (stem ++ '.' :: extension).reverse.dropWhile (· ≠ '.') = '.' :: stem.reverse := by
    rw [back, List.dropWhile_append_of_pos plain, List.dropWhile_cons_of_neg (by simp)]
  -- So there is a dot, and the extension is not the whole name.
  have shorter : extension.reverse.length ≠ (stem ++ '.' :: extension).length := by
    rw [List.length_reverse, List.length_append, List.length_cons]
    omega
  simp only [cutExtension, taken, dropped, shorter]
  cases stem <;> simp

/-- The extension is what follows the last dot, which is not at the front. -/
theorem cutExtension_eq_some_iff {name extension : List Char} :
    (cutExtension name).2 = some extension ↔
      ∃ stem, stem ≠ [] ∧ name = stem ++ '.' :: extension ∧ '.' ∉ extension := by
  constructor
  · intro h
    by_cases dot : '.' ∈ name
    · obtain ⟨back, front, split, plain⟩ := List.eq_append_cons_of_mem (List.mem_reverse.2 dot)
      have name_eq : name = front.reverse ++ '.' :: back.reverse := by
        rw [← List.reverse_inj, split]
        simp
      have plain : '.' ∉ back.reverse := fun hb => plain (List.mem_reverse.1 hb)
      rw [name_eq, cutExtension_append _ plain] at h
      by_cases empty : front.reverse = []
      · rw [if_pos empty] at h
        cases h
      · rw [if_neg empty] at h
        cases h
        exact ⟨front.reverse, empty, name_eq, plain⟩
    · -- Without a dot the whole name would be the extension.
      have plain : ∀ c ∈ name.reverse, decide (c ≠ '.') = true := by
        intro c hc
        rw [decide_eq_true_eq]
        rintro rfl
        exact dot (List.mem_reverse.1 hc)
      have whole : (name.reverse ++ []).takeWhile (· ≠ '.') = name.reverse := by
        rw [List.takeWhile_append_of_pos plain, List.takeWhile_nil, List.append_nil]
      rw [List.append_nil] at whole
      simp only [cutExtension, whole, List.length_reverse, decide_true, Bool.true_or, if_true] at h
      cases h
  · rintro ⟨stem, nonempty, rfl, plain⟩
    rw [cutExtension_append stem plain, if_neg nonempty]

/-- No slash is in a segment. -/
theorem slash_notMem_lastSegment (p : Path) : '/' ∉ p.lastSegment := by
  obtain ⟨init, h⟩ := p.exists_segments_eq
  exact Text.notMem_of_mem_splitOn (show p.lastSegment ∈ p.segments by rw [h]; simp)

/-- **Where a draft goes.** Replacing an extension leaves the path a sibling: its last segment ends
in the new extension, or it leads upward. -/
theorem lastSegment_withExtension {p : Path} {stem extension : List Char}
    (hp : p.lastSegment = stem ++ '.' :: extension) (h : '.' ∉ extension) {new : String}
    (hn : '/' ∉ new.toList) :
    (p.withExtension new).lastSegment = ['.', '.'] ∨
      '.' :: new.toList <:+ (p.withExtension new).lastSegment := by
  obtain ⟨init, hs⟩ := p.exists_segments_eq
  have reversed : p.segments.reverse = (stem ++ '.' :: extension) :: init.reverse := by
    rw [hs, List.reverse_append, hp]
    rfl
  have hslash := p.slash_notMem_lastSegment
  rw [hp, List.mem_append, not_or] at hslash
  -- Neither what is left of the name nor the new extension has a slash in it.
  have joined : ∀ name : List Char, '/' ∉ name →
      lastSegment (ofReversed ((name ++ '.' :: new.toList) :: init.reverse)) =
        name ++ '.' :: new.toList := by
    intro name hname
    refine lastSegment_ofReversed ?_ _
    rw [List.mem_append, List.mem_cons, not_or, not_or]
    exact ⟨hname, by decide, hn⟩
  rw [withExtension, reversed]
  simp only [cutExtension_append stem h]
  by_cases hstem : stem = []
  · -- A name that starts with its only dot has nothing to cut off.
    right
    rw [if_pos hstem]
    simp only [joined ('.' :: extension) hslash.2]
    exact List.suffix_append _ _
  · rw [if_neg hstem]
    by_cases hdot : stem = ['.']
    · -- The name of two dots is no file, and is left alone.
      left
      rw [hdot]
      exact lastSegment_ofReversed (by decide) _
    · right
      split
      · rename_i heq
        exact absurd (Prod.mk.inj heq).1 hdot
      · rename_i heq
        obtain ⟨rfl, -⟩ := Prod.mk.inj heq
        rw [joined stem hslash.1]
        exact List.suffix_append _ _

end Path

end RouterConf
