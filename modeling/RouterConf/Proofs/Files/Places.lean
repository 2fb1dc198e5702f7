import RouterConf.Proofs.Files.Directories

/-!
# Where paths lead

Without links a path can be resolved by its text: empty segments and single dots stay, two dots go
up, and a name goes down. What a tree says of a path is never anything else (`FileTree.walk_eq`);
the tree only decides whether the path can be resolved at all.

So it can be told from a path alone which places it leads through on its way (`Path.Passes`). A path
that goes down before it goes up stays below the directory that it is put below
(`Path.IsInward`, `Path.passes_join`).

Main statements: `FileTree.walk_eq`, `FileTree.Denotes.eq_folder`, `Path.passes_join`,
`Path.passes_of_parent?`.
-/

namespace RouterConf

/-! ### Following segments -/

namespace Location

variable {l w : Location}

/-- Where one segment leads. -/
def enter (l : Location) (segment : String) : Location :=
  if segment = "" ∨ segment = "." then l
  else if segment = ".." then l.dropLast
  else l ++ [segment]

/-- Where segments lead, one after the other. -/
def follow (l : Location) (segments : List String) : Location :=
  segments.foldl enter l

/-- To follow some segments is to follow the first ones and then the others. -/
theorem follow_append (l : Location) (ss ss' : List String) :
    follow l (ss ++ ss') = follow (follow l ss) ss' :=
  List.foldl_append

/-- Segments that say nothing lead nowhere. -/
theorem follow_silent {ss : List String} (h : ∀ s ∈ ss, s = "" ∨ s = ".") (l : Location) :
    follow l ss = l := by
  induction ss with
  | nil => rfl
  | cons s ss ih =>
    rw [List.forall_mem_cons] at h
    change follow (enter l s) ss = l
    rw [enter, if_pos h.1]
    exact ih h.2

/-- A segment that says nothing is empty or a dot. -/
theorem silent_of_isIdle {s : List Char} (h : Path.isIdle s = true) :
    String.ofList s = "" ∨ String.ofList s = "." := by
  simp only [Path.isIdle, Bool.or_eq_true, decide_eq_true_eq] at h
  rcases h with rfl | rfl
  · exact .inl rfl
  · exact .inr rfl

/-- The same for segments as they stand in a path. -/
theorem follow_idle {ss : List (List Char)} (h : ∀ s ∈ ss, Path.isIdle s = true) (l : Location) :
    follow l (ss.map String.ofList) = l := by
  refine follow_silent ?_ l
  intro s hs
  obtain ⟨s', hs', rfl⟩ := List.mem_map.1 hs
  exact silent_of_isIdle (h s' hs')

/-- A segment that says something leads up, or down by its name. -/
theorem enter_of_active {s : List Char} (h : Path.isIdle s = false) (l : Location) :
    enter l (String.ofList s) = if s = ['.', '.'] then l.dropLast else l ++ [String.ofList s] := by
  obtain ⟨-, named, no_dot⟩ := Path.ofList_ne h
  have upward : String.ofList s = ".." ↔ s = ['.', '.'] := String.ofList_inj
  simp only [enter, named, no_dot, or_self, if_false, upward]

/-- A place below another, which it is not itself. -/
def Below (w l : Location) : Prop :=
  w <+: l ∧ l ≠ w

/-- A name below a place, or below one that is below it, is below it. -/
theorem below_append_singleton (h : w <+: l) (n : String) : Below w (l ++ [n]) := by
  refine ⟨h.trans (List.prefix_append l [n]), ?_⟩
  intro same
  have longer := h.length_le
  rw [← same, List.length_append, List.length_singleton] at longer
  omega

end Location

open Location (follow enter Below)

namespace Path

variable {p q base : Path} {home l : Location}

/-- Where the resolution of a path starts. -/
def start (home : Location) (p : Path) : Location :=
  if p.isAbsolute then [] else home

/-- Where a path leads, if it can be resolved. -/
def place (home : Location) (p : Path) : Location :=
  follow (p.start home) (p.segments.map String.ofList)

/-- Where all segments of a path but the last one lead. -/
def folder (home : Location) (p : Path) : Location :=
  follow (p.start home) (p.above.map String.ofList)

/-- The places that a path leads through, its own one included. -/
def Passes (home : Location) (p : Path) (l : Location) : Prop :=
  ∃ init, init <+: p.segments ∧ l = follow (p.start home) (init.map String.ofList)

/-- A path leads through the place that it leads to. -/
theorem passes_place (home : Location) (p : Path) : p.Passes home (p.place home) :=
  ⟨p.segments, List.prefix_refl _, rfl⟩

/-- Siblings have one folder. -/
theorem Siblings.folder_eq (h : Siblings p q) (home : Location) :
    p.folder home = q.folder home := by
  rw [folder, folder, start, start, h.isAbsolute_eq, h]

/-- A path that ends in a name leads to that name in its folder. -/
theorem place_eq (active : isIdle p.lastSegment = false) (named : p.lastSegment ≠ ['.', '.'])
    (home : Location) : p.place home = p.folder home ++ [String.ofList p.lastSegment] := by
  rw [place, segments_eq, List.map_append, Location.follow_append]
  change enter (p.folder home) (String.ofList p.lastSegment) = _
  rw [Location.enter_of_active active, if_neg named]

/-! ### The parent of a path -/

/-- The segments of the parent of a path are the first ones of the path, and the parent starts
where the path does. -/
theorem exists_ofAbove_of_parent? (h : parent? p = some q) : ∃ init rest, rest ≠ [] ∧
    p.segments = init ++ rest ∧ q = ofAbove init ∧
    p.isAbsolute = decide (init.head? = some []) := by
  have nonempty : p.segments.reverse ≠ [] := by
    rw [segments_eq]
    simp
  obtain ⟨idle, s, rest, split, -, dropped, -⟩ := exists_dropIdle_eq nonempty
  have forward : p.segments = rest.reverse ++ (s :: idle.reverse) := by
    rw [← List.reverse_inj, split]
    simp
  refine ⟨rest.reverse, s :: idle.reverse, List.cons_ne_nil _ _, forward, ?_⟩
  have head : p.isAbsolute = decide ((rest.reverse ++ (s :: idle.reverse).dropLast).head? =
      some []) := by
    rw [isAbsolute_eq, above, forward, List.dropLast_append_of_ne_nil (List.cons_ne_nil _ _)]
  rw [parent?, dropped] at h
  cases rest with
  | nil =>
    -- Of a path of one segment, which is not empty, the parent is the empty path.
    have named : s ≠ [] := by
      rintro rfl
      cases h
    dsimp only at h
    split at h
    · cases h
    refine ⟨(Option.some.inj h).symm, ?_⟩
    rw [head]
    cases idle.reverse <;> simp [named]
  | cons s' rest =>
    refine ⟨?_, ?_⟩
    · rw [ofAbove, List.reverse_reverse]
      obtain ⟨-, first, others, -, -, dropped', -⟩ := exists_dropIdle_eq (List.cons_ne_nil s' rest)
      dsimp only at h
      rw [dropped'] at h ⊢
      rcases first with _ | ⟨c, cs⟩ <;> cases others <;> exact (Option.some.inj h).symm
    · rw [head]
      cases hr : (s' :: rest).reverse with
      | nil => simp at hr
      | cons first others => rfl

/-- The parent of a path leads through nothing else than the path. -/
theorem passes_of_parent? (h : parent? p = some q) (hl : q.Passes home l) : p.Passes home l := by
  obtain ⟨init, rest, -, split, rfl, absolute⟩ := exists_ofAbove_of_parent? h
  have slashless : ∀ s ∈ init, '/' ∉ s := by
    intro s hs
    have part : s ∈ p.segments := by
      rw [split]
      exact List.mem_append_left _ hs
    exact Text.notMem_of_mem_splitOn part
  obtain ⟨parts, hparts, rfl⟩ := hl
  -- The parent is an initial part of the path, unless it says nothing at all.
  have silent (h : ∀ s ∈ (ofAbove init).segments, isIdle s = true) :
      follow ((ofAbove init).start home) (parts.map String.ofList) =
        (ofAbove init).start home :=
    Location.follow_idle (fun s hs => h s (hparts.subset hs)) _
  rcases ofAbove_cases slashless with
    ⟨rfl, parent⟩ | ⟨idle, -, rfl, parent⟩ | ⟨idle, -, same, start, -⟩
  · refine ⟨[], List.nil_prefix, ?_⟩
    rw [silent (by rw [parent]; decide), parent, Path.start, Path.start, absolute]
    rfl
  · refine ⟨[], List.nil_prefix, ?_⟩
    rw [silent (by rw [parent]; decide), parent, Path.start, Path.start, absolute]
    rfl
  · refine ⟨parts, ?_, ?_⟩
    · rw [split, same, List.append_assoc]
      exact hparts.trans (List.prefix_append _ _)
    · rw [Path.start, Path.start, absolute, start]

/-! ### Paths below a directory -/

/-- What segments lead to that never go above where they start, if `depth` names of it may be
taken back. -/
def stays : (depth : Nat) → List (List Char) → Bool
  | _, [] => true
  | depth, s :: ss =>
    if isIdle s then stays depth ss
    else if s = ['.', '.'] then 0 < depth && stays (depth - 1) ss
    else stays (depth + 1) ss

/-- **A path that goes inward.** It is relative, and up to its last segment it never goes above
where it starts. -/
def IsInward (p : Path) : Prop :=
  p.isAbsolute = false ∧ stays 0 p.above = true

instance (p : Path) : Decidable p.IsInward :=
  inferInstanceAs (Decidable (_ ∧ _))

/-- Whether a path goes inward does not depend on its last segment. -/
theorem IsInward.of_siblings (h : p.IsInward) (hq : Siblings q p) : q.IsInward := by
  refine ⟨by rw [hq.isAbsolute_eq, h.1], ?_⟩
  rw [hq]
  exact h.2

/-- A name alone goes inward. -/
theorem isInward_of_slashless {name : String} (h : '/' ∉ name.toList) : IsInward name := by
  refine ⟨isAbsolute_of_slashless h, ?_⟩
  rw [above, segments, Text.splitOn_of_notMem h]
  rfl

/-- Segments that never go above where they start lead to places below it, all the way. -/
theorem prefix_follow_append {ss init : List (List Char)} (part : init <+: ss) (w down : Location)
    (h : stays down.length ss = true) : w <+: follow (w ++ down) (init.map String.ofList) := by
  induction ss generalizing init down with
  | nil =>
    rw [List.prefix_nil.1 part]
    exact List.prefix_append w down
  | cons s ss ih =>
    cases init with
    | nil => exact List.prefix_append w down
    | cons s' init =>
      obtain ⟨rfl, rest⟩ := List.cons_prefix_cons.1 part
      change w <+: follow (enter (w ++ down) (String.ofList s')) (init.map String.ofList)
      unfold stays at h
      split_ifs at h with idle up
      · -- As many names have been gone down as may be taken back, so the place stays below.
        rw [enter, if_pos (Location.silent_of_isIdle idle)]
        exact ih rest _ h
      · rw [Location.enter_of_active (by simpa using idle), if_pos up]
        -- The name that is taken back is not one of the directory.
        rw [Bool.and_eq_true, decide_eq_true_eq] at h
        rw [List.dropLast_append_of_ne_nil (List.ne_nil_of_length_pos h.1)]
        refine ih rest _ ?_
        rw [List.length_dropLast]
        exact h.2
      · rw [Location.enter_of_active (by simpa using idle), if_neg up, List.append_assoc]
        refine ih rest _ ?_
        rw [List.length_append, List.length_singleton]
        exact h

/-- The same, from the directory itself. -/
theorem prefix_follow {ss init : List (List Char)} (part : init <+: ss) (h : stays 0 ss = true)
    (w : Location) : w <+: follow w (init.map String.ofList) := by
  have inside := prefix_follow_append part w [] h
  rwa [List.append_nil] at inside

/-- A path below a directory starts where the directory does and goes on from where it leads. -/
theorem exists_segments_of_join (hq : q.isAbsolute = false) (base : Path) (home : Location) :
    ∃ first, first <+: base.segments ∧ (join base q).segments = first ++ q.segments ∧
      (join base q).start home = base.start home ∧
      follow (base.start home) (first.map String.ofList) = base.place home := by
  obtain ⟨first, same, joined⟩ := exists_segments_join base
  obtain ⟨parts, absolute⟩ := joined hq
  refine ⟨first, ?_, parts, by rw [start, start, absolute], ?_⟩
  · rcases same with same | same
    · exact same ▸ List.prefix_refl first
    · exact same ▸ List.prefix_append first [[]]
  · rcases same with same | same <;> rw [place, same]
    -- A slash at the end leads nowhere else.
    rw [List.map_append, Location.follow_append]
    rfl

/-- The folder of a path below a directory is found by going on from where that leads. -/
theorem folder_join (hq : q.isAbsolute = false) (base : Path) (home : Location) :
    (join base q).folder home = follow (base.place home) (q.above.map String.ofList) := by
  obtain ⟨first, -, parts, start, leads⟩ := exists_segments_of_join hq base home
  rw [segments_eq q, ← List.append_assoc] at parts
  rw [folder, start, above_eq parts, List.map_append, Location.follow_append, leads]

/-- The folder of an inward path is the directory that it is put below, or lies below it. -/
theorem IsInward.prefix_folder (h : q.IsInward) (base : Path) (home : Location) :
    base.place home <+: (join base q).folder home := by
  rw [folder_join h.1]
  exact prefix_follow (List.prefix_refl _) h.2 _

/-- **A path that goes inward to a name** leads through places below the directory that it is put
below, once it has come through those that lead there. -/
theorem passes_join (inward : q.IsInward) (active : isIdle q.lastSegment = false)
    (named : q.lastSegment ≠ ['.', '.']) (h : (join base q).Passes home l) :
    base.Passes home l ∨ Below (base.place home) l := by
  obtain ⟨init, hinit, rfl⟩ := h
  obtain ⟨first, part, parts, start, leads⟩ := exists_segments_of_join inward.1 base home
  rw [start]
  rw [parts] at hinit
  -- A part of the whole path ends within the directory, or it goes on into the path below it.
  rcases List.prefix_or_prefix_of_prefix hinit (List.prefix_append first _) with short | ⟨rest, rfl⟩
  · exact .inl ⟨init, short.trans part, rfl⟩
  rw [List.prefix_append_right_inj, segments_eq] at hinit
  rw [List.map_append, Location.follow_append, leads]
  rcases List.prefix_concat_iff.1 hinit with rfl | hinit
  · -- The path itself is a name in its folder.
    rw [List.map_append, Location.follow_append]
    change _ ∨ Below _ (enter _ (String.ofList q.lastSegment))
    rw [Location.enter_of_active active, if_neg named]
    exact .inr (Location.below_append_singleton (prefix_follow (List.prefix_refl _) inward.2 _) _)
  · have inside := prefix_follow hinit inward.2 (base.place home)
    by_cases same : follow (base.place home) (rest.map String.ofList) = base.place home
    · rw [same]
      exact .inl (passes_place home base)
    · exact .inr ⟨inside, same⟩

end Path

/-! ### Trees lead nowhere else -/

namespace FileTree

variable {t : FileTree} {p : Path} {l d : Location} {n : String} {slash : Bool}

/-- **Where segments lead in a tree**, if they can be resolved there, is told by the segments. -/
theorem walk_eq {start : Location} {ss : List String} (h : t.walk start ss = .ok l) :
    l = follow start ss := by
  induction ss generalizing start with
  | nil => exact (Except.ok.inj h).symm
  | cons s ss ih =>
    change l = follow (enter start s) ss
    unfold walk at h
    unfold enter
    split_ifs at h ⊢
    · exact ih h
    · exact ih h
    · split at h
      · cases h
      · cases h
      · exact ih h

/-- An entry that a path names is in its place. -/
theorem place_of_locate (h : t.locate p = .ok (.entry d n slash)) : d ++ [n] = p.place t.home := by
  obtain ⟨before, named, walked, no_dot, not_up, -⟩ := locate_eq_ok_entry h
  -- What comes after the name are empty segments.
  obtain ⟨not_blank, rest, split, blank⟩ := exists_segments_eq_of_dropWhile named
  have there : d = follow (p.start t.home) before.reverse := walk_eq walked
  rw [Path.place, split, Location.follow_append, Location.follow_append, ← there,
    Location.follow_silent fun s hs => .inl (blank s hs)]
  change _ = enter d n
  rw [enter, if_neg (not_or.2 ⟨not_blank, no_dot⟩), if_neg not_up]

/-- What a path denotes is in its folder. -/
theorem Denotes.eq_folder (h : t.Denotes p l) : ∃ n, l = p.folder t.home ++ [n] := by
  obtain ⟨d, n, located, -, rfl⟩ := h
  obtain ⟨before, named, walked, -, -, no_slash⟩ := locate_eq_ok_entry located
  have reversed := p.names_reverse
  -- Without a slash at the end the name is the last segment.
  rw [reversed, List.head?_cons, eq_comm, decide_eq_false_iff_not, Option.some.injEq] at no_slash
  rw [reversed, List.dropWhile_cons_of_neg (by simpa using no_slash)] at named
  obtain ⟨-, rfl⟩ := List.cons.inj named
  rw [List.reverse_reverse] at walked
  exact ⟨n, by rw [walk_eq walked]; rfl⟩

/-- A directory that is made is made in the place of its path. -/
theorem makeDirectory_place {t' : FileTree} (h : t.makeDirectory p = .ok t') :
    t.get? (p.place t.home) = none ∧ t' = t.insert (p.place t.home) .directory := by
  unfold makeDirectory at h
  rcases hl : t.locate p with e | ⟨d, n, slash⟩ | d
  · simp [hl, bind, Except.bind] at h
  · -- Where an entry is named, its place is that of the path.
    rw [← place_of_locate hl]
    rcases he : t.entry? d n with e | e
    · simp [hl, he, bind, Except.bind] at h
    · obtain ⟨-, rfl⟩ := entry?_eq_ok he
      rcases hg : t.get? (d ++ [n]) with _ | e
      · simp [hl, he, hg, bind, Except.bind, pure, Except.pure] at h
        exact ⟨rfl, h.symm⟩
      · simp [hl, he, hg, bind, Except.bind] at h
  · simp [hl, bind, Except.bind] at h

end FileTree

end RouterConf
