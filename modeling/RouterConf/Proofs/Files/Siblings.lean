import RouterConf.Proofs.Files.LastSegment

/-!
# Paths in one directory

Paths with the same segments up to the last one are siblings: whatever a tree looks like, they lie
in one directory. Files are put beside each other here in three ways, below one directory, with a
text behind the name of another file, and with another extension, and all of them make siblings.

What a path is below of (`Path.above`) is a matter of the other segments alone, and so is its parent
as a path (`Path.parent?_eq`).

Main statements: `Path.siblings_join`, `Path.siblings_append`, `Path.siblings_withExtension`,
`Path.parent?_eq`.
-/

namespace RouterConf

namespace Path

variable {p q : Path} {base name : String} {init : List (List Char)} {last : List Char}

/-! ### All segments but the last -/

/-- The segments of a path but for the last one. -/
def above (p : Path) : List (List Char) :=
  p.segments.dropLast

/-- A path is what is above its last segment and the segment. -/
theorem segments_eq (p : Path) : p.segments = p.above ++ [p.lastSegment] := by
  obtain ⟨init, h⟩ := p.exists_segments_eq
  rw [above, h, List.dropLast_concat]

theorem above_eq (h : p.segments = init ++ [last]) : p.above = init := by
  rw [above, h, List.dropLast_concat]

/-- A path is known by its segments. -/
theorem segments_inj : p.segments = q.segments ↔ p = q := by
  refine ⟨fun h => ?_, congrArg segments⟩
  have whole := congrArg (List.intercalate ['/']) h
  rwa [segments, segments, Text.intercalate_splitOn, Text.intercalate_splitOn,
    String.toList_inj] at whole

/-- What is put behind a path without a slash is put behind its last segment. -/
theorem segments_append (p : Path) {w : String} (hw : '/' ∉ w.toList) :
    (p ++ w).segments = p.above ++ [p.lastSegment ++ w.toList] := by
  obtain ⟨init, last, h, happ⟩ := Text.splitOn_append hw p.toList
  rw [above_eq (p := p) h, lastSegment, segments, segments, String.toList_append, happ, h,
    List.getLastD_concat]

/-- The segments from the last one on. -/
theorem segments_reverse (p : Path) : p.segments.reverse = p.lastSegment :: p.above.reverse := by
  rw [segments_eq, List.reverse_append]
  rfl

/-- The same of the names that the segments are, from the last one on. -/
theorem names_reverse (p : Path) : (p.segments.map String.ofList).reverse =
    String.ofList p.lastSegment :: (p.above.map String.ofList).reverse := by
  rw [segments_eq, List.map_append, List.reverse_append]
  rfl

theorem slash_notMem_above (p : Path) {s : List Char} (h : s ∈ p.above) : '/' ∉ s :=
  Text.notMem_of_mem_splitOn (List.dropLast_subset _ h)

/-- A path is absolute if nothing stands before its first slash. -/
theorem isAbsolute_eq (p : Path) : p.isAbsolute = decide (p.above.head? = some []) := by
  unfold isAbsolute above segments
  cases p.toList with
  | nil => rfl
  | cons c cs =>
    by_cases hc : c = '/'
    · rw [Text.splitOn, if_pos hc, List.dropLast_cons_of_ne_nil (Text.splitOn_ne_nil '/' cs)]
      simp [hc]
    · obtain ⟨part, parts, hp⟩ := List.exists_cons_of_ne_nil (Text.splitOn_ne_nil '/' cs)
      rw [Text.splitOn_cons_of_ne hc hp]
      cases parts <;> simp [hc]

/-- A path whose last segment is not empty is not empty. -/
theorem isEmpty_eq_false (h : p.lastSegment ≠ []) : p.isEmpty = false := by
  rw [Bool.eq_false_iff, Ne, String.isEmpty_iff]
  rintro rfl
  exact h rfl

/-- A path whose last segment is long names something in a directory. -/
theorem named_of_suffix {w : List Char} (h : w <:+ p.lastSegment) (long : 2 < w.length) :
    isIdle p.lastSegment = false ∧ p.lastSegment ≠ ['.', '.'] := by
  -- What says nothing has one character at most, and what leads upwards has two.
  have longer : 2 < p.lastSegment.length := Nat.lt_of_lt_of_le long h.length_le
  have other {s : List Char} (short : s.length ≤ 2) : p.lastSegment ≠ s := by
    rintro rfl
    exact absurd longer (Nat.not_lt.2 short)
  rw [isIdle, Bool.or_eq_false_iff, decide_eq_false_iff_not, decide_eq_false_iff_not]
  exact ⟨⟨other (by decide), other (by decide)⟩, other (by decide)⟩

/-- A text that is one segment of a path, and names something in a directory. -/
structure IsName (n : String) : Prop where
  slashless : '/' ∉ n.toList
  named : n ≠ "" ∧ n ≠ "." ∧ n ≠ ".."

theorem IsName.of_length {n : String} (h : '/' ∉ n.toList) (hl : 2 < n.length) : IsName n := by
  refine ⟨h, ?_, ?_, ?_⟩ <;> rintro rfl <;> exact absurd hl (by decide)

/-- What is put behind a name leaves it a name. -/
theorem IsName.append {n e : String} (h : IsName n) (he : '/' ∉ e.toList) : IsName (n ++ e) := by
  have start {w : String} (hw : n ++ e = w) : n.toList <+: w.toList :=
    ⟨e.toList, by rw [← hw, String.toList_append]⟩
  -- A text with a name at its front is not at the front of two dots.
  have short : ¬ n.toList <+: ['.', '.'] := by
    intro hp
    simp only [List.prefix_cons_iff, List.prefix_nil] at hp
    rcases hp with hp | ⟨_, hp, rfl | ⟨_, rfl, rfl⟩⟩
    · exact h.named.1 (String.toList_inj.1 hp)
    · exact h.named.2.1 (String.toList_inj.1 hp)
    · exact h.named.2.2 (String.toList_inj.1 hp)
  refine ⟨?_, fun hn => short ?_, fun hn => short ?_, fun hn => short (start hn)⟩
  · rw [String.toList_append, List.mem_append, not_or]
    exact ⟨h.slashless, he⟩
  · exact (start hn).trans List.nil_prefix
  · exact (start hn).trans (List.prefix_append ['.'] ['.'])

theorem IsName.not_idle {n : String} (h : IsName n) : isIdle n.toList = false := by
  rw [isIdle, Bool.or_eq_false_iff, decide_eq_false_iff_not, decide_eq_false_iff_not]
  exact ⟨fun hn => h.named.1 (String.toList_inj.1 hn),
    fun hn => h.named.2.1 (String.toList_inj.1 hn)⟩

theorem IsName.not_upward {n : String} (h : IsName n) : n.toList ≠ ['.', '.'] := fun hn =>
  h.named.2.2 (String.toList_inj.1 hn)

/-! ### Siblings -/

/-- Paths in one directory, whatever the directories of a tree are. -/
def Siblings (p q : Path) : Prop :=
  p.above = q.above

theorem Siblings.isAbsolute_eq (h : Siblings p q) : p.isAbsolute = q.isAbsolute := by
  rw [Path.isAbsolute_eq, Path.isAbsolute_eq, h]

theorem isAbsolute_append (h : p ≠ "") (w : String) : (p ++ w).isAbsolute = p.isAbsolute := by
  obtain ⟨c, cs, hp⟩ := List.exists_cons_of_ne_nil (fun hn => h (String.toList_eq_nil_iff.1 hn))
  rw [isAbsolute, isAbsolute, String.toList_append, hp, List.cons_append, List.head?_cons,
    List.head?_cons]

theorem isAbsolute_of_slashless (h : '/' ∉ name.toList) : isAbsolute name = false := by
  rw [isAbsolute, decide_eq_false_iff_not]
  intro hn
  exact h (List.mem_of_head? hn)

/-- A path below a directory has the segments of the directory before its own, except for an empty
one at the end that a slash there leaves. -/
theorem exists_segments_join (base : Path) : ∃ init,
    (base.segments = init ∨ base.segments = init ++ [[]]) ∧
    ∀ {q : Path}, q.isAbsolute = false →
      (join base q).segments = init ++ q.segments ∧ (join base q).isAbsolute = base.isAbsolute := by
  by_cases empty : base = ""
  · refine ⟨[], .inr (by rw [empty]; rfl), fun {q} h => ?_⟩
    rw [empty, join_empty_left, List.nil_append]
    exact ⟨rfl, h⟩
  by_cases ending : base.toList.getLast? = some '/'
  · -- The base brings its slash with it.
    obtain ⟨r, hr⟩ := List.getLast?_eq_some_iff.1 ending
    refine ⟨Text.splitOn '/' r, .inr ?_, fun {q} h => ?_⟩
    · rw [segments, hr, Text.splitOn_append_cons]
      rfl
    · have joined : join base q = base ++ q := by
        simp [join, h, ending]
      refine ⟨?_, by rw [joined, isAbsolute_append empty]⟩
      rw [joined, segments, String.toList_append, hr, List.append_assoc, List.singleton_append,
        Text.splitOn_append_cons]
      rfl
  · -- The slash is put in between.
    refine ⟨base.segments, .inl rfl, fun {q} h => ?_⟩
    have joined : join base q = base ++ ("/" ++ q) := by
      rw [← String.append_assoc]
      simp [join, h, ending, empty]
    refine ⟨?_, by rw [joined, isAbsolute_append empty]⟩
    rw [joined, segments, String.toList_append, String.toList_append]
    change Text.splitOn '/' (base.toList ++ '/' :: q.toList) = _
    rw [Text.splitOn_append_cons]
    rfl

/-- What is above a name below a directory are the segments of the directory, except for an empty
one at the end that a slash there leaves. -/
theorem exists_above_join (base : Path) : ∃ init,
    (base.segments = init ∨ base.segments = init ++ [[]]) ∧
    ∀ {name : String}, '/' ∉ name.toList →
      (join base name).above = init ∧ (join base name).isAbsolute = base.isAbsolute := by
  obtain ⟨init, hinit, joined⟩ := exists_segments_join base
  refine ⟨init, hinit, fun {name} h => ?_⟩
  obtain ⟨parts, absolute⟩ := joined (isAbsolute_of_slashless h)
  have alone : segments name = [name.toList] := Text.splitOn_of_notMem h
  rw [alone] at parts
  exact ⟨above_eq parts, absolute⟩

/-- Names below one directory are siblings. -/
theorem siblings_join {name' : String} (h : '/' ∉ name.toList) (h' : '/' ∉ name'.toList) :
    Siblings (join base name) (join base name') := by
  obtain ⟨init, -, joined⟩ := exists_above_join base
  exact (joined h).1.trans (joined h').1.symm

/-- A text behind a name makes the name of a sibling. -/
theorem siblings_append (p : Path) {w : String} (hw : '/' ∉ w.toList) : Siblings (p ++ w) p :=
  above_eq (segments_append p hw)

/-- The segments of a path that is put together from segments. -/
theorem segments_ofReversed {ss : List (List Char)} (hne : ss ≠ []) (h : ∀ s ∈ ss, '/' ∉ s) :
    (ofReversed ss).segments = ss.reverse := by
  rw [segments, ofReversed, String.toList_ofList, Text.splitOn_intercalate]
  · simpa using hne
  · simpa using h

theorem segments_withExtension {stem extension : List Char}
    (hp : p.lastSegment = stem ++ '.' :: extension) (h : '.' ∉ extension) (hne : stem ≠ [])
    (hdot : stem ≠ ['.']) {new : String} (hn : '/' ∉ new.toList) :
    (p.withExtension new).segments = p.above ++ [stem ++ '.' :: new.toList] := by
  have reversed := p.segments_reverse
  rw [hp] at reversed
  have slashless := p.slash_notMem_lastSegment
  rw [hp, List.mem_append, not_or] at slashless
  -- The cut is at the last dot, and the stem is what the path goes on with.
  have replaced : p.withExtension new =
      ofReversed ((stem ++ '.' :: new.toList) :: p.above.reverse) := by
    rw [withExtension, reversed]
    simp only [cutExtension_append stem h, if_neg hne]
    split
    · rename_i heq
      exact absurd (Prod.mk.inj heq).1 hdot
    · rename_i heq
      rw [(Prod.mk.inj heq).1]
  rw [replaced, segments_ofReversed (List.cons_ne_nil _ _), List.reverse_cons, List.reverse_reverse]
  rw [List.forall_mem_cons]
  refine ⟨?_, fun s hs => p.slash_notMem_above (List.mem_reverse.1 hs)⟩
  rw [List.mem_append, List.mem_cons, not_or, not_or]
  exact ⟨slashless.1, by decide, hn⟩

/-- Another extension makes the name of a sibling. -/
theorem siblings_withExtension {stem extension : List Char}
    (hp : p.lastSegment = stem ++ '.' :: extension) (h : '.' ∉ extension) (hne : stem ≠ [])
    (hdot : stem ≠ ['.']) {new : String} (hn : '/' ∉ new.toList) :
    Siblings (p.withExtension new) p ∧
      (p.withExtension new).lastSegment = stem ++ '.' :: new.toList := by
  have parts := segments_withExtension hp h hne hdot hn
  refine ⟨above_eq parts, ?_⟩
  rw [lastSegment, parts, List.getLastD_concat]

/-- An extension that starts with the one before it is the rest of it put behind the path. -/
theorem withExtension_extended {stem extension : List Char}
    (hp : p.lastSegment = stem ++ '.' :: extension) (h : '.' ∉ extension) (hne : stem ≠ [])
    (hdot : stem ≠ ['.']) {w : String} (hw : '/' ∉ w.toList) :
    p.withExtension (String.ofList extension ++ w) = p ++ w := by
  have slashless : '/' ∉ (String.ofList extension ++ w).toList := by
    -- The extension is a part of the last segment, so that it has no slash.
    have whole := p.slash_notMem_lastSegment
    rw [hp, List.mem_append, List.mem_cons, not_or, not_or] at whole
    rw [String.toList_append, String.toList_ofList, List.mem_append, not_or]
    exact ⟨whole.2.2, hw⟩
  rw [← segments_inj, segments_withExtension hp h hne hdot slashless, segments_append p hw, hp,
    String.toList_append, String.toList_ofList, List.append_assoc, List.cons_append]

/-- A name that has its only dot at the front is no extension, and another is put behind it. -/
theorem withExtension_of_front {name : List Char} (hp : p.lastSegment = '.' :: name)
    (h : '.' ∉ name) {new : String} (hn : '/' ∉ new.toList) :
    p.withExtension new = p ++ ("." ++ new) := by
  have reversed := p.segments_reverse
  rw [hp] at reversed
  have slashless := p.slash_notMem_lastSegment
  rw [hp, List.mem_cons, not_or] at slashless
  have behind : '/' ∉ ("." ++ new).toList := by
    rw [String.toList_append, List.mem_append, not_or]
    exact ⟨by decide, hn⟩
  -- With nothing in front of its only dot, the name is all stem.
  have whole : cutExtension ('.' :: name) = ('.' :: name, none) := by
    have cut := cutExtension_append [] h
    rwa [if_pos rfl] at cut
  rw [← segments_inj, segments_append p behind, hp, withExtension, reversed]
  simp only [whole]
  rw [segments_ofReversed (List.cons_ne_nil _ _), List.reverse_cons, List.reverse_reverse,
    String.toList_append]
  · rfl
  · rw [List.forall_mem_cons]
    refine ⟨?_, fun s hs => p.slash_notMem_above (List.mem_reverse.1 hs)⟩
    simp only [List.mem_append, List.mem_cons, not_or]
    exact ⟨slashless, by decide, hn⟩

/-- What is left of a name without its extension is a part of the name. -/
theorem cutExtension_subset (name : List Char) : (cutExtension name).1 ⊆ name := by
  have stem : ((name.reverse.dropWhile (· ≠ '.')).drop 1).reverse ⊆ name := by
    intro c hc
    have later := List.mem_of_mem_drop (List.mem_reverse.1 hc)
    exact List.mem_reverse.1 ((List.dropWhile_suffix _).subset later)
  unfold cutExtension
  dsimp only
  split
  · exact List.Subset.refl name
  · exact stem

/-- Another extension makes a sibling, whatever the name is. -/
theorem siblings_of_withExtension (p : Path) {new : String} (hn : '/' ∉ new.toList) :
    Siblings (p.withExtension new) p := by
  -- Only the last segment is replaced, by one that has no slash either.
  have replaced : ∀ name : List Char, '/' ∉ name →
      (ofReversed (name :: p.above.reverse)).above = p.above := by
    intro name hname
    have parts := segments_ofReversed (List.cons_ne_nil name p.above.reverse)
      (List.forall_mem_cons.2
        ⟨hname, fun s hs => p.slash_notMem_above (List.mem_reverse.1 hs)⟩)
    rw [List.reverse_cons, List.reverse_reverse] at parts
    exact above_eq parts
  have slashless : '/' ∉ (cutExtension p.lastSegment).1 := fun h =>
    p.slash_notMem_lastSegment (cutExtension_subset _ h)
  rw [Siblings, withExtension, segments_reverse]
  dsimp only
  split
  · exact replaced _ (by decide)
  · rename_i stem _ _ heq
    rw [heq] at slashless
    refine replaced _ ?_
    rw [List.mem_append, List.mem_cons, not_or, not_or]
    exact ⟨slashless, by decide, hn⟩

/-! ### The parent -/

theorem dropIdle_cons_of_not_isIdle {s : List Char} (h : isIdle s = false)
    (ss : List (List Char)) : dropIdle (s :: ss) = s :: ss := by
  cases ss with
  | nil => rfl
  | cons s' ss => simp [dropIdle, h]

/-- What is dropped says nothing, and what is left starts with a segment that says something, unless
it is the first segment of the path. -/
theorem exists_dropIdle_eq {ss : List (List Char)} (hne : ss ≠ []) : ∃ idle s rest,
    ss = idle ++ s :: rest ∧ (∀ s ∈ idle, isIdle s = true) ∧ dropIdle ss = s :: rest ∧
      (rest = [] ∨ isIdle s = false) := by
  induction ss with
  | nil => exact absurd rfl hne
  | cons s ss ih =>
    cases ss with
    | nil => exact ⟨[], s, [], rfl, by simp, rfl, .inl rfl⟩
    | cons s' ss =>
      by_cases hs : isIdle s = true
      · obtain ⟨idle, s'', rest, hss, hidle, hdrop, hrest⟩ := ih (List.cons_ne_nil _ _)
        refine ⟨s :: idle, s'', rest, by rw [hss, List.cons_append], ?_, ?_, hrest⟩
        · exact List.forall_mem_cons.2 ⟨hs, hidle⟩
        · simp [dropIdle, hs, hdrop]
      · rw [Bool.not_eq_true] at hs
        exact ⟨[], s, s' :: ss, rfl, by simp, dropIdle_cons_of_not_isIdle hs _, .inr hs⟩

theorem fileName?_eq (active : isIdle p.lastSegment = false) (named : p.lastSegment ≠ ['.', '.']) :
    p.fileName? = some (String.ofList p.lastSegment) := by
  rw [fileName?, segments_reverse, dropIdle_cons_of_not_isIdle active]
  simp [active, named]

/-- A path that ends in a name has the extension of that name. -/
theorem extension?_eq (active : isIdle p.lastSegment = false) (named : p.lastSegment ≠ ['.', '.']) :
    p.extension? = (cutExtension p.lastSegment).2.map String.ofList := by
  rw [extension?, fileName?_eq active named, Option.bind_some, String.toList_ofList]

/-- The directory that segments lead to, as a path. -/
def ofAbove (above : List (List Char)) : Path :=
  match dropIdle above.reverse with
  | [] => ""
  | [[]] => "/"
  | rest => ofReversed rest

/-- **The parent of a path** that ends in a segment which says something. -/
theorem parent?_eq (h : isIdle p.lastSegment = false) : parent? p = some (ofAbove p.above) := by
  rw [parent?, segments_reverse, dropIdle_cons_of_not_isIdle h, ofAbove]
  by_cases hne : p.above.reverse = []
  · rw [hne]
    have named : p.lastSegment.isEmpty = false := by
      cases hl : p.lastSegment with
      | nil => simp [hl, isIdle] at h
      | cons c cs => rfl
    simp only [named]
    rfl
  · obtain ⟨-, s, rest, -, -, hdrop, -⟩ := exists_dropIdle_eq hne
    obtain ⟨r, rs, hr⟩ := List.exists_cons_of_ne_nil hne
    rw [hr] at hdrop ⊢
    simp only [hdrop]
    rcases s with _ | ⟨c, cs⟩ <;> cases rest <;> rfl

/-- The directory of siblings has their segments, up to some that say nothing. -/
theorem ofAbove_cases {above : List (List Char)} (h : ∀ s ∈ above, '/' ∉ s) :
    above = [] ∧ ofAbove above = "" ∨
      (∃ idle, (∀ s ∈ idle, isIdle s = true) ∧ above = [] :: idle ∧ ofAbove above = "/") ∨
      ∃ idle, (∀ s ∈ idle, isIdle s = true) ∧ above = (ofAbove above).segments ++ idle ∧
        (ofAbove above).isAbsolute = decide (above.head? = some []) ∧
        (ofAbove above = "." ∨ isIdle (ofAbove above).lastSegment = false) := by
  by_cases hne : above.reverse = []
  · refine .inl ⟨by simpa using hne, ?_⟩
    rw [ofAbove, hne]
    rfl
  obtain ⟨idle, s, rest, hss, hidle, hdrop, hrest⟩ := exists_dropIdle_eq hne
  have forward : above = (s :: rest).reverse ++ idle.reverse := by
    rw [← List.reverse_append, ← hss, List.reverse_reverse]
  have silent : ∀ s ∈ idle.reverse, isIdle s = true := fun s hs => hidle s (List.mem_reverse.1 hs)
  by_cases root : s = [] ∧ rest = []
  · obtain ⟨rfl, rfl⟩ := root
    exact .inr (.inl ⟨idle.reverse, silent, forward, by rw [ofAbove, hdrop]⟩)
  · have path : ofAbove above = ofReversed (s :: rest) := by
      rw [ofAbove, hdrop]
      rcases s with _ | ⟨c, cs⟩ <;> cases rest <;> first | rfl | exact absurd ⟨rfl, rfl⟩ root
    have segments : (ofAbove above).segments = (s :: rest).reverse := by
      rw [path]
      refine segments_ofReversed (List.cons_ne_nil _ _) fun s' hs' => h s' ?_
      rw [forward]
      exact List.mem_append_left _ (List.mem_reverse.2 hs')
    refine .inr (.inr ⟨idle.reverse, silent, by rw [segments, ← forward], ?_, ?_⟩)
    · rw [isAbsolute_eq, Path.above, segments, forward, List.reverse_cons, List.dropLast_concat]
      -- The first segment is above the last one, or it is the only one and is not empty.
      cases hr : rest.reverse with
      | nil =>
        have alone : rest = [] := by simpa using hr
        simp [show s ≠ [] from fun hs => root ⟨hs, alone⟩]
      | cons first others => rfl
    · rcases hrest with alone | active
      · have named : s ≠ [] := fun hs => root ⟨hs, alone⟩
        by_cases hs : isIdle s = true
        · left
          have dot : s = ['.'] := by simpa [isIdle, named] using hs
          rw [path, dot, alone]
          rfl
        · right
          rw [lastSegment, segments, List.reverse_cons, List.getLastD_concat]
          simpa using hs
      · right
        rw [lastSegment, segments, List.reverse_cons, List.getLastD_concat, active]

end Path

end RouterConf
