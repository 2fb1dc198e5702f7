import RouterConf.Proofs.Files.Changes
import RouterConf.Proofs.Files.Siblings

/-!
# Making directories

To make a directory is to make first the one above it, where that is missing. A path can be
resolved once its parent has been made, since the two go through the same segments
(`FileTree.reach_ofAbove`), and what is a directory once stays one. So a directory that has been
made need not be made again.

A directory that cannot be made cannot be made by trying again either, but what the first try has
made on the way stays, and the second one may go wrong earlier. The two are told the same, except
that a file which the first one has found in the place of a directory may be found by the second one
on its way (`OsError.Again`).

Main statements: `FileTree.reach_ofAbove`, `FileTree.attempt`, `FileTree.makeDirectories_again`,
`Change.ensureParent_ok`, `Change.ensureParent_again`.
-/

namespace RouterConf

open FileTree (Grows)

/-- Why a system refuses a path for its text alone, whatever there is. -/
def Path.refusal? (p : Path) : Option OsError :=
  if p.toList.contains '\x00' then some .nullInPath
  else if FileTree.maxPath < p.utf8ByteSize then some .nameTooLong
  else none

/-- What is refused for its text is not missing. -/
theorem Path.refusal?_ne_notFound (p : Path) : p.refusal? ≠ some .notFound := by
  unfold refusal?
  split_ifs <;> simp

/-- A path is not refused if it is not with more behind it. -/
theorem Path.refusal?_of_append {p w : Path} (h : (p ++ w).refusal? = none) :
    p.refusal? = none := by
  unfold refusal? at h ⊢
  split_ifs at h with null long
  rw [if_neg, if_neg]
  · rw [String.utf8ByteSize_append] at long
    exact fun hl => long (Nat.lt_of_lt_of_le hl (Nat.le_add_right _ _))
  · rw [String.toList_append, List.contains_append, Bool.or_eq_true, not_or] at null
    exact null.1

/-- A segment that says something is neither empty nor a dot. -/
theorem Path.ofList_ne {s : List Char} (h : isIdle s = false) :
    s ≠ [] ∧ String.ofList s ≠ "" ∧ String.ofList s ≠ "." := by
  simp only [isIdle, Bool.or_eq_false_iff, decide_eq_false_iff_not] at h
  exact ⟨h.1, fun hn => h.1 (String.ofList_inj.1 hn), fun hn => h.2 (String.ofList_inj.1 hn)⟩

/-- A last segment that says something and does not lead upward is a name. -/
theorem Path.isName_lastSegment {p : Path} (h : isIdle p.lastSegment = false)
    (up : p.lastSegment ≠ ['.', '.']) : IsName (String.ofList p.lastSegment) := by
  obtain ⟨-, named, no_dot⟩ := ofList_ne h
  refine ⟨?_, named, no_dot, fun hn => up (String.ofList_inj.1 hn)⟩
  rw [String.toList_ofList]
  exact p.slash_notMem_lastSegment

/-- A path of nothing but slashes is absolute. -/
theorem Path.isAbsolute_of_blank {p : Path} (nonempty : p ≠ "")
    (blank : ∀ s ∈ p.segments.map String.ofList, s = "") : p.isAbsolute = true := by
  obtain ⟨c, cs, hp⟩ :=
    List.exists_cons_of_ne_nil fun hn => nonempty (String.toList_eq_nil_iff.1 hn)
  rw [isAbsolute, hp, List.head?_cons, decide_eq_true_eq, Option.some.injEq]
  by_contra other
  -- Anything else would be at the front of the first segment.
  obtain ⟨part, parts, split⟩ := List.exists_cons_of_ne_nil (Text.splitOn_ne_nil '/' cs)
  rw [segments, hp, Text.splitOn_cons_of_ne other split, List.map_cons,
    List.forall_mem_cons] at blank
  exact List.cons_ne_nil _ _ (String.ofList_eq_empty_iff.1 blank.1)

namespace FileTree

variable {t t' t₁ : FileTree} {p q : Path} {l : Location} {e : OsError}

/-! ### The directory of a path -/

/-- The directory in which the last segment of a path lies. -/
def directoryOf (t : FileTree) (p : Path) : Except OsError Location :=
  t.walk (if p.isAbsolute then [] else t.home) (p.above.map String.ofList)

/-- The directory that all segments of a path lead to. -/
def reach (t : FileTree) (p : Path) : Except OsError Location :=
  t.walk (if p.isAbsolute then [] else t.home) (p.segments.map String.ofList)

/-- To follow some segments is to follow the first ones and then the others. -/
theorem walk_append (t : FileTree) (l : Location) (ss ss' : List String) :
    t.walk l (ss ++ ss') = t.walk l ss >>= fun l' => t.walk l' ss' := by
  induction ss generalizing l with
  | nil => rfl
  | cons s ss ih =>
    rw [List.cons_append, walk, walk]
    split_ifs
    · exact ih l
    · exact ih _
    · rfl
    · rcases t.get? (l ++ [s]) with _ | c | _
      · rfl
      · rfl
      · exact ih _

/-- Segments that say nothing lead nowhere else. -/
theorem walk_silent (t : FileTree) (l : Location) {ss : List String}
    (h : ∀ s ∈ ss, s = "" ∨ s = ".") : t.walk l ss = .ok l := by
  induction ss with
  | nil => rfl
  | cons s ss ih =>
    rw [List.forall_mem_cons] at h
    rw [walk, if_pos h.1, ih h.2]

/-- The same for segments as they stand in a path. -/
theorem walk_idle (t : FileTree) (l : Location) {idle : List (List Char)}
    (h : ∀ s ∈ idle, Path.isIdle s = true) : t.walk l (idle.map String.ofList) = .ok l := by
  refine t.walk_silent l fun s hs => ?_
  obtain ⟨cs, hcs, rfl⟩ := List.mem_map.1 hs
  have silent := h cs hcs
  simp only [Path.isIdle, Bool.or_eq_true, decide_eq_true_eq] at silent
  rcases silent with rfl | rfl
  · exact .inl rfl
  · exact .inr rfl

/-- A path is followed through its directory to its last segment. -/
theorem reach_eq (t : FileTree) (p : Path) :
    t.reach p = t.directoryOf p >>= fun d => t.walk d [String.ofList p.lastSegment] := by
  rw [reach, Path.segments_eq, List.map_append, walk_append]
  rfl

/-- Where what a path names leads as a directory. -/
def Target.leads (t : FileTree) : Target → Except OsError Location
  | .reached d => .ok d
  | .entry d n _ => t.walk d [n]

/-- All segments of a path lead where what it names does. -/
theorem reach_of_locate {target : Target} (h : t.locate p = .ok target) :
    t.reach p = target.leads t := by
  unfold locate at h
  split at h
  · cases h
  split at h
  · cases h
  rename_i nonempty
  split at h
  · cases h
  dsimp only at h
  unfold reach
  split at h
  · -- A path of nothing but slashes names the root.
    rename_i named
    cases h
    rw [List.dropWhile_eq_nil_iff] at named
    have blank : ∀ s ∈ p.segments.map String.ofList, s = "" := by
      intro s hs
      simpa using named s (List.mem_reverse.2 hs)
    have absolute : p.isAbsolute = true := Path.isAbsolute_of_blank (by simpa using nonempty) blank
    rw [t.walk_silent _ fun s hs => .inl (blank s hs), if_pos absolute]
    rfl
  · -- The segments behind the last one are empty, so following them changes nothing.
    rename_i last before named
    obtain ⟨-, blank, split, empty⟩ := exists_segments_eq_of_dropWhile named
    rw [split, walk_append, walk_append]
    rcases hw : t.walk (if p.isAbsolute then [] else t.home) before.reverse with e | d
    · rw [hw] at h
      cases h
    -- Dots were passed over when the path was located; as segments they lead to the same place.
    have silent (d : Location) : t.walk d blank = .ok d :=
      t.walk_silent d fun s hs => .inl (empty s hs)
    rw [hw] at h
    simp only [bind, Except.bind, pure, Except.pure, silent] at h ⊢
    by_cases dot : last = "."
    · rw [if_pos dot] at h
      cases h
      rw [dot]
      rfl
    by_cases up : last = ".."
    · rw [if_neg dot, if_pos up] at h
      cases h
      rw [up]
      rfl
    · rw [if_neg dot, if_neg up] at h
      cases h
      rw [Target.leads]
      rcases t.walk d [last] <;> rfl

/-- Where a path leads as a directory it leads from then on. -/
theorem Grows.reach (hg : Grows t t') (h : t.reach p = .ok l) : t'.reach p = .ok l := by
  unfold FileTree.reach at h ⊢
  rw [hg.home]
  exact hg.walk h

/-- A name leads to the directory of that name, if there is one. -/
theorem walk_name (t : FileTree) (d : Location) {n : String} (hn : Path.IsName n) :
    t.walk d [n] =
      if maxName < n.utf8ByteSize then .error .nameTooLong
      else
        match t.get? (d ++ [n]) with
        | none => .error .notFound
        | some (.file _) => .error .notADirectory
        | some .directory => .ok (d ++ [n]) := by
  rw [walk]
  exact (if_neg (not_or.2 ⟨hn.named.1, hn.named.2.1⟩)).trans (if_neg hn.named.2.2)

/-- A directory is reached by its name. -/
theorem reach_of_directory {d : Location} {n : String} (hd : t.directoryOf p = .ok d)
    (hn : Path.IsName n) (hl : p.lastSegment = n.toList) (size : n.utf8ByteSize ≤ maxName)
    (there : t.get? (d ++ [n]) = some .directory) : t.reach p = .ok (d ++ [n]) := by
  rw [reach_eq, hd, hl, String.ofList_toList]
  change t.walk d [n] = _
  rw [walk_name t d hn, if_neg (Nat.not_lt.2 size), there]

/-- Siblings lie in one directory. -/
theorem directoryOf_congr (h : Path.Siblings p q) : t.directoryOf p = t.directoryOf q := by
  rw [directoryOf, directoryOf, h.isAbsolute_eq, h]

/-- A name below a directory lies in it. -/
theorem directoryOf_join (t : FileTree) (base : Path) {name : String} (h : '/' ∉ name.toList) :
    t.directoryOf (Path.join base name) = t.reach base := by
  obtain ⟨init, same | same, joined⟩ := Path.exists_above_join base
  all_goals
    obtain ⟨above, absolute⟩ := joined h
    rw [directoryOf, reach, above, absolute, same]
  -- A slash at the end leads nowhere else.
  rw [List.map_append, walk_append]
  have silent := fun l => t.walk_idle l (show ∀ s ∈ [[]], Path.isIdle s = true by decide)
  simp only [silent]
  rcases t.walk _ (init.map String.ofList) <;> rfl

/-- The parent of a path is the directory that it lies in. -/
theorem reach_ofAbove (t : FileTree) (p : Path) :
    t.reach (Path.ofAbove p.above) = t.directoryOf p := by
  have start (idle : List (List Char)) (h : ∀ s ∈ idle, Path.isIdle s = true) (l : Location)
      (ss : List (List Char)) :
      t.walk l ((ss ++ idle).map String.ofList) = t.walk l (ss.map String.ofList) := by
    rw [List.map_append, walk_append]
    simp only [t.walk_idle _ h]
    rcases t.walk l (ss.map String.ofList) <;> rfl
  unfold directoryOf
  rw [Path.isAbsolute_eq]
  rcases Path.ofAbove_cases (fun s hs => p.slash_notMem_above hs) with
    ⟨none, parent⟩ | ⟨idle, silent, root, parent⟩ | ⟨idle, silent, same, absolute, -⟩
  · rw [parent, none]
    rfl
  · rw [parent, root]
    exact (start idle silent [] [[]]).symm
  · generalize Path.ofAbove p.above = parent at same absolute ⊢
    rw [← absolute, same, start idle silent, reach]

/-- A path whose last segment says something names an entry of its directory, or leads upward. -/
theorem locate_eq (h : Path.isIdle p.lastSegment = false) : t.locate p =
    match p.refusal? with
    | some e => .error e
    | none => do
      let d ← t.directoryOf p
      if p.lastSegment = ['.', '.'] then return .reached d.dropLast
      else return .entry d (String.ofList p.lastSegment) false := by
  obtain ⟨ne, named, no_dot⟩ := Path.ofList_ne h
  have upward : String.ofList p.lastSegment = ".." ↔ p.lastSegment = ['.', '.'] :=
    String.ofList_inj
  have reversed := p.names_reverse
  unfold locate Path.refusal?
  dsimp only
  rw [reversed, List.dropWhile_cons_of_neg (by simpa using named), List.head?_cons,
    Path.isEmpty_eq_false ne]
  by_cases null : p.toList.contains '\x00' = true
  · rw [if_pos null, if_pos null]
  by_cases long : maxPath < p.utf8ByteSize
  · rw [if_neg null, if_neg null, if_neg Bool.false_ne_true, if_pos long, if_pos long]
  · rw [if_neg null, if_neg null, if_neg Bool.false_ne_true, if_neg long, if_neg long]
    simp only [List.reverse_reverse, no_dot, upward, named, if_false, Option.some.injEq,
      decide_false]
    rfl

/-- Where a file is denoted, so is one whose name is only the front of that name. -/
theorem exists_denotes_of_append {w : String} (active : Path.isIdle p.lastSegment = false)
    (named : p.lastSegment ≠ ['.', '.']) (hw : '/' ∉ w.toList) (h : t.Denotes (p ++ w) l) :
    ∃ l', t.Denotes p l' := by
  have behind := Path.lastSegment_append p w hw
  have active' : Path.isIdle (p ++ w).lastSegment = false := by
    have longer := ((Path.isName_lastSegment active named).append hw).not_idle
    rwa [String.toList_append, String.toList_ofList, ← behind] at longer
  have named' := h.getLast?.2
  obtain ⟨d, n, located, size, -⟩ := h
  rw [locate_eq active', directoryOf_congr (Path.siblings_append p hw)] at located
  -- Neither is the longer path refused nor its directory missing, and the name fits.
  cases refused : (p ++ w).refusal? with
  | some e =>
    rw [refused] at located
    cases located
  | none =>
    rw [refused] at located
    cases hd : t.directoryOf p with
    | error e =>
      rw [hd] at located
      cases located
    | ok d' =>
      rw [hd] at located
      dsimp only [bind, Except.bind] at located
      rw [if_neg named'] at located
      cases located
      refine ⟨_, d, String.ofList p.lastSegment, ?_, ?_, rfl⟩
      · rw [locate_eq active, Path.refusal?_of_append refused, hd]
        exact if_neg named
      · rw [behind, String.ofList_append, String.utf8ByteSize_append] at size
        exact Nat.le_trans (Nat.le_add_right _ _) size

/-- What a path with a name at its end leads to is at the location that it denotes. -/
theorem exists_denotes_of_status (active : Path.isIdle p.lastSegment = false)
    (named : p.lastSegment ≠ ['.', '.']) {entry : FileEntry} (h : t.status p = .ok entry) :
    ∃ l, t.Denotes p l ∧ t.get? l = some entry := by
  have located := t.locate_eq active
  unfold status at h
  cases refused : p.refusal? with
  | some e =>
    rw [located, refused] at h
    cases h
  | none =>
    rw [refused] at located
    cases hd : t.directoryOf p with
    | error e =>
      rw [located, hd] at h
      cases h
    | ok d =>
      have there : t.locate p = .ok (.entry d (String.ofList p.lastSegment) false) := by
        rw [located, hd]
        exact if_neg named
      rw [there] at h
      by_cases long : maxName < (String.ofList p.lastSegment).utf8ByteSize
      · simp [bind, Except.bind, entry?, long] at h
      · refine ⟨_, ⟨d, _, there, Nat.not_lt.1 long, rfl⟩, ?_⟩
        rcases he : t.get? (d ++ [String.ofList p.lastSegment]) with _ | c | _ <;>
          simp [bind, Except.bind, pure, Except.pure, entry?, long, he] at h ⊢
        · exact h
        · exact h

/-- Nothing is found at a path with a name at its end if nothing is where it leads. -/
theorem pathExists_eq_false_of_denotes (active : Path.isIdle p.lastSegment = false)
    (named : p.lastSegment ≠ ['.', '.']) (h : ∀ l, t.Denotes p l → t.get? l = none) :
    t.pathExists p = false := by
  unfold pathExists
  cases hs : t.status p with
  | error e => rfl
  | ok entry =>
    obtain ⟨l, hl, there⟩ := exists_denotes_of_status active named hs
    rw [h l hl] at there
    cases there

/-! ### Making one directory -/

/-- **What comes of a path as a directory**: what making it yields, whether it is there already, and
where it leads. -/
inductive Attempt : (outcome : Except OsError FileTree) → (there : Bool) →
    (leads : Except OsError Location) → Prop where
  /-- The way there fails, or the name is too long. -/
  | astray {e : OsError} (he : e ≠ .alreadyExists) : Attempt (.error e) false (.error e)
  | there (l : Location) : Attempt (.error .alreadyExists) true (.ok l)
  /-- A file is in its place. -/
  | file : Attempt (.error .alreadyExists) false (.error .notADirectory)
  | made (t' : FileTree) : Attempt (.ok t') false (.error .notFound)

/-- That something exists already is not why a path cannot be followed. -/
theorem walk_ne_alreadyExists (t : FileTree) (l : Location) (ss : List String) :
    t.walk l ss ≠ .error .alreadyExists := by
  induction ss generalizing l with
  | nil => simp
  | cons s ss ih =>
    rw [walk]
    split_ifs
    · exact ih l
    · exact ih _
    · simp
    · rcases t.get? (l ++ [s]) with _ | c | _
      · simp
      · simp
      · exact ih _

/-- Every path that is not refused for its text is such an attempt. -/
theorem attempt (h : Path.isIdle p.lastSegment = false) (hr : p.refusal? = none) :
    Attempt (t.makeDirectory p) (t.isDirectory p) (t.reach p) := by
  have located := t.locate_eq h
  simp only [hr] at located
  rw [reach_eq]
  unfold makeDirectory isDirectory status
  rw [located]
  rcases hd : t.directoryOf p with e | d
  · -- The directory that the path lies in cannot be reached.
    refine Attempt.astray fun he => ?_
    rw [he] at hd
    exact t.walk_ne_alreadyExists _ _ hd
  · by_cases up : p.lastSegment = ['.', '.']
    · simpa [bind, Except.bind, pure, Except.pure, up, walk] using Attempt.there d.dropLast
    rw [show (Except.ok d >>= fun d => t.walk d [String.ofList p.lastSegment]) =
      t.walk d [String.ofList p.lastSegment] from rfl, t.walk_name d (Path.isName_lastSegment h up)]
    by_cases long : maxName < (String.ofList p.lastSegment).utf8ByteSize
    · simpa [bind, Except.bind, pure, Except.pure, up, entry?, long] using
        Attempt.astray (e := .nameTooLong) (by simp)
    · rcases he : t.get? (d ++ [String.ofList p.lastSegment]) with _ | c | _
      · simpa [bind, Except.bind, pure, Except.pure, up, entry?, long, he] using Attempt.made _
      · simpa [bind, Except.bind, pure, Except.pure, up, entry?, long, he] using Attempt.file
      · simpa [bind, Except.bind, pure, Except.pure, up, entry?, long, he] using Attempt.there _

/-- A directory, or the empty path, which stands for where one is. -/
def There (t : FileTree) (p : Path) : Prop :=
  p = "" ∨ t.isDirectory p = true

/-- A path is to a directory just if a directory is what it leads to. -/
theorem isDirectory_iff : t.isDirectory p = true ↔ t.status p = .ok .directory := by
  unfold isDirectory
  rcases t.status p with e | c | _ <;> simp

/-- A path is to a directory just if it leads to one upwards or on the spot, or if a directory is
under the name that it ends in, with or without a slash after the name. -/
theorem isDirectory_iff_locate : t.isDirectory p = true ↔
    (∃ d, t.locate p = .ok (.reached d)) ∨
      ∃ d n slash, t.locate p = .ok (.entry d n slash) ∧ n.utf8ByteSize ≤ maxName ∧
        t.get? (d ++ [n]) = some .directory := by
  rw [isDirectory_iff, status]
  rcases t.locate p with e | ⟨d, n, slash⟩ | d
  · simp [bind, Except.bind]
  · by_cases long : maxName < n.utf8ByteSize
    · simp [bind, Except.bind, entry?, long, Nat.not_le.2 long, and_assoc]
    · -- With a slash behind its name a file is no directory, and without one it is a file.
      rcases he : t.get? (d ++ [n]) with _ | c | _ <;> cases slash <;>
        simp [bind, Except.bind, pure, Except.pure, entry?, long, Nat.not_lt.1 long, he, and_assoc]
  · simp [bind, Except.bind, pure, Except.pure]

/-- What is a directory is one from then on. -/
theorem isDirectory_of_grows (hg : Grows t t') (h : t.isDirectory p = true) :
    t'.isDirectory p = true := by
  rw [isDirectory_iff_locate] at h ⊢
  rcases h with ⟨d, hl⟩ | ⟨d, n, slash, hl, hn, there⟩
  · exact .inl ⟨d, hg.locate hl⟩
  · exact .inr ⟨d, n, slash, hg.locate hl, hn, hg.directory there⟩

/-- A directory that has been made is one. -/
theorem isDirectory_of_makeDirectory (h : t.makeDirectory p = .ok t') :
    t'.isDirectory p = true := by
  have hg := (changesOnly_makeDirectory h []).toGrows
  obtain ⟨d, n, slash, hl, hn, -, rfl⟩ := makeDirectory_ok h
  refine isDirectory_iff_locate.2 (.inr ⟨d, n, slash, hg.locate hl, hn, ?_⟩)
  rw [get?_insert t (by simp), if_pos rfl]

/-- A directory that is there cannot be made. -/
theorem makeDirectory_of_isDirectory (h : t.isDirectory p = true) :
    t.makeDirectory p = .error .alreadyExists := by
  unfold makeDirectory
  rcases isDirectory_iff_locate.1 h with ⟨d, hl⟩ | ⟨d, n, slash, hl, hn, there⟩
  · rw [hl]
    rfl
  · rw [hl]
    simp [bind, Except.bind, entry?, Nat.not_lt.2 hn, there]

/-! ### Making directories -/

/-- A directory that is there need not be made. -/
theorem makeDirectoriesWith_of_isDirectory (h : t.isDirectory p = true) (fuel : Nat) :
    t.makeDirectoriesWith p (fuel + 1) = (.ok (), t) := by
  rw [makeDirectoriesWith, makeDirectory_of_isDirectory h]
  simp only [h, if_true, ite_self]

/-- A directory that has been made is there. -/
theorem makeDirectoriesWith_ok {fuel : Nat}
    (h : t.makeDirectoriesWith p fuel = (.ok (), t₁)) : t₁.There p := by
  cases fuel with
  | zero => cases h
  | succ fuel =>
    unfold makeDirectoriesWith at h
    split at h
    · exact .inl (String.isEmpty_iff.1 ‹_›)
    right
    split at h
    · cases h
      exact isDirectory_of_makeDirectory ‹_›
    · split at h
      · cases h
      · split at h
        · cases h
        · split at h
          · cases h
            exact isDirectory_of_makeDirectory ‹_›
          · split at h <;> cases h
            assumption
    · split at h <;> cases h
      assumption

/-- If a directory cannot be made, nothing has been made, or the directory above it has been missing
and could not be made or did not help. -/
theorem makeDirectoriesWith_error {fuel : Nat}
    (h : t.makeDirectoriesWith p (fuel + 1) = (.error e, t₁)) :
    t₁ = t ∨ ∃ parent, Path.parent? p = some parent ∧ t.makeDirectory p = .error .notFound ∧
      (t.makeDirectoriesWith parent fuel = (.error e, t₁) ∨
        t.makeDirectoriesWith parent fuel = (.ok (), t₁) ∧ t₁.makeDirectory p = .error e ∧
          t₁.isDirectory p = false) := by
  unfold makeDirectoriesWith at h
  split at h
  · cases h
  split at h
  · cases h
  · rename_i missing
    split at h
    · cases h
      exact .inl rfl
    · rename_i parent hp
      refine .inr ⟨parent, hp, missing, ?_⟩
      split at h
      · cases h
        exact .inl ‹_›
      · split at h
        · cases h
        · split at h <;> cases h
          exact .inr ⟨‹_›, ‹_›, Bool.eq_false_iff.2 ‹_›⟩
  · split at h <;> cases h
    exact .inl rfl

/-- Only the empty path is not found whatever the tree. -/
theorem isEmpty_eq_false (h : t.locate p ≠ .error .notFound) : p.isEmpty = false := by
  rw [Bool.eq_false_iff, Ne, String.isEmpty_iff]
  rintro rfl
  exact h rfl

/-- A path that is refused other than for what is missing is refused as a directory, too. -/
theorem makeDirectories_of_locate_error (h : t.locate p = .error e) (he : e ≠ .notFound) :
    t.makeDirectories p = (.error e, t) := by
  have named : p.isEmpty = false := isEmpty_eq_false (t := t) (by simpa [h] using he)
  have refused : t.makeDirectory p = .error e := by
    rw [makeDirectory, h]
    rfl
  have none_there : t.isDirectory p = false := by
    rw [isDirectory, status, h]
    rfl
  rw [makeDirectories, makeDirectoriesWith, refused, named, none_there]
  cases e <;> first | exact absurd rfl he | rfl

/-- No file is in the place of a directory, be it there or not. -/
def NoFileAt (t : FileTree) (l : Location) : Prop :=
  ∀ c, t.get? l ≠ some (.file c)

section Entry

variable {d : Location} {n : String} {slash : Bool}

/-- Where only the last directory of a path may be missing, nothing is to be done but to make it. -/
theorem makeDirectories_of_locate (h : t.locate p = .ok (.entry d n slash)) :
    t.makeDirectories p =
      if maxName < n.utf8ByteSize then (.error .nameTooLong, t)
      else
        match t.get? (d ++ [n]) with
        | none => (.ok (), t.insert (d ++ [n]) .directory)
        | some (.file _) => (.error .alreadyExists, t)
        | some .directory => (.ok (), t) := by
  have named : p.isEmpty = false := isEmpty_eq_false (t := t) (by simp [h])
  unfold makeDirectories makeDirectoriesWith makeDirectory isDirectory status
  rw [h, named]
  by_cases long : maxName < n.utf8ByteSize
  · simp [bind, Except.bind, entry?, long]
  · -- What is in the place of the directory decides: nothing, a file, or a directory.
    rcases hg : t.get? (d ++ [n]) with _ | c | _
    · simp [bind, Except.bind, pure, Except.pure, entry?, long, hg]
    · cases slash <;> simp [bind, Except.bind, pure, Except.pure, entry?, long, hg]
    · simp [bind, Except.bind, pure, Except.pure, entry?, long, hg]

/-- With no file in its place, the directory is there in the end, and all else is as it was. -/
theorem makeDirectories_of_no_file (h : t.locate p = .ok (.entry d n slash))
    (hn : n.utf8ByteSize ≤ maxName) (free : t.NoFileAt (d ++ [n])) :
    ∃ t', t.makeDirectories p = (.ok (), t') ∧ Grows t t' ∧
      ∀ l, t'.get? l = if l = d ++ [n] then some .directory else t.get? l := by
  rw [makeDirectories_of_locate h, if_neg (Nat.not_lt.2 hn)]
  rcases hg : t.get? (d ++ [n]) with _ | c | _
  · exact ⟨_, rfl, grows_insert_directory (by simp) t, get?_insert t (by simp) _⟩
  · exact absurd hg (free c)
  · refine ⟨t, rfl, Grows.refl t, fun l => ?_⟩
    split
    · rename_i hl
      rw [hl, hg]
    · rfl

end Entry

/-- The directory of a path can be reached once its parent is there. -/
theorem exists_directoryOf
    (h : t.There (Path.ofAbove p.above)) :
    ∃ d, t.directoryOf p = .ok d := by
  rw [← reach_ofAbove]
  rcases Path.ofAbove_cases (fun s hs => p.slash_notMem_above hs) with
    ⟨-, parent⟩ | ⟨_, -, -, parent⟩ | ⟨_, -, -, -, parent | active⟩
  · exact ⟨t.home, by rw [parent]; rfl⟩
  · exact ⟨[], by rw [parent]; rfl⟩
  · exact ⟨t.home, by rw [parent]; rfl⟩
  · generalize Path.ofAbove p.above = parent at h active ⊢
    have there : t.isDirectory parent = true := by
      refine h.resolve_left ?_
      rintro rfl
      cases active
    -- A directory that is there has a path that is not refused, and following it leads to it.
    cases hr : parent.refusal? with
    | some e =>
      rw [isDirectory_iff] at there
      unfold status at there
      rw [locate_eq active, hr] at there
      cases there
    | none =>
      have att := attempt (t := t) active hr
      rw [there] at att
      generalize t.makeDirectory parent = outcome at att
      generalize t.reach parent = leads at att ⊢
      cases att
      exact ⟨_, rfl⟩

/-- A parent that is not there says something in its last segment. -/
theorem parent_active
    (h : ¬ t.There (Path.ofAbove p.above)) :
    Path.isIdle (Path.ofAbove p.above).lastSegment = false := by
  rw [There, not_or] at h
  rcases Path.ofAbove_cases (fun s hs => p.slash_notMem_above hs) with
    ⟨-, parent⟩ | ⟨_, -, -, parent⟩ | ⟨_, -, -, -, parent | active⟩
  · exact absurd parent h.1
  · rw [parent] at h
    exact absurd rfl h.2
  · rw [parent] at h
    exact absurd rfl h.2
  · exact active

/-- What is not found is not refused for its text. -/
theorem refusal?_of_missing (active : Path.isIdle p.lastSegment = false)
    (h : t.makeDirectory p = .error .notFound) : p.refusal? = none := by
  unfold makeDirectory at h
  rw [locate_eq active] at h
  rcases hr : p.refusal? with _ | r
  · rfl
  · rw [hr] at h
    have refused : r = .notFound := by simpa [bind, Except.bind] using h
    exact absurd (refused ▸ hr) p.refusal?_ne_notFound

/-- Once its directory is reached, no path is refused for something missing. -/
theorem makeDirectory_ne_notFound (active : Path.isIdle p.lastSegment = false)
    (hr : p.refusal? = none) {d : Location} (hd : t.directoryOf p = .ok d) :
    t.makeDirectory p ≠ .error .notFound := by
  unfold makeDirectory
  rw [locate_eq active, hr, hd]
  by_cases up : p.lastSegment = ['.', '.']
  · simp [bind, Except.bind, pure, Except.pure, up]
  · by_cases long : maxName < (String.ofList p.lastSegment).utf8ByteSize
    · simp [bind, Except.bind, pure, Except.pure, up, entry?, long]
    · rcases he : t.get? (d ++ [String.ofList p.lastSegment]) with _ | e <;>
        simp [bind, Except.bind, pure, Except.pure, up, entry?, long, he]

/-- What cannot be reached cannot be made. -/
theorem makeDirectory_of_directoryOf_error (active : Path.isIdle p.lastSegment = false)
    (hr : p.refusal? = none) (hd : t.directoryOf p = .error e) :
    t.makeDirectory p = .error e ∧ t.isDirectory p = false := by
  unfold makeDirectory isDirectory status
  rw [locate_eq active, hr, hd]
  exact ⟨rfl, rfl⟩

/-- What cannot be made because it is not found has not been there. -/
theorem makeDirectoriesWith_error_of_there {fuel : Nat} (there : t.There p)
    (h : t.makeDirectoriesWith p fuel = (.error e, t₁)) : t₁ = t := by
  cases fuel with
  | zero =>
    cases h
    rfl
  | succ fuel =>
    rcases there with rfl | there
    · cases h
    · rw [makeDirectoriesWith_of_isDirectory there] at h
      cases h

end FileTree

/-- **What a second try says**: the same as the first, or that a file is in the way where the first
try found that it is there. -/
def OsError.Again (e e' : OsError) : Prop :=
  e' = e ∨ e = .alreadyExists ∧ e' = .notADirectory

/-- A third try tells no more than a second one. -/
theorem OsError.Again.trans {e e' e'' : OsError} (h : e.Again e') (h' : e'.Again e'') :
    e.Again e'' := by
  rcases h with rfl | ⟨rfl, rfl⟩ <;> rcases h' with rfl | ⟨h', rfl⟩
  · exact .inl rfl
  · exact .inr ⟨h', rfl⟩
  · exact .inr ⟨rfl, rfl⟩
  · cases h'

namespace FileTree

variable {t t' t₁ : FileTree} {p : Path} {e : OsError}

/-- The way to a path fails as making its parent does. -/
theorem exists_again_of_attempt {outcome : Except OsError FileTree}
    {leads : Except OsError Location} {e : OsError} (h : Attempt outcome false leads)
    (failed : outcome = .error e) : ∃ e', leads = .error e' ∧ e.Again e' := by
  cases h with
  | astray he =>
    cases failed
    exact ⟨_, rfl, .inl rfl⟩
  | file =>
    cases failed
    exact ⟨_, rfl, .inr ⟨rfl, rfl⟩⟩
  | made t' => cases failed

/-- A path that is refused for its text is refused before anything is made. -/
theorem makeDirectoriesWith_error_of_refused (active : Path.isIdle p.lastSegment = false)
    (hr : p.refusal? ≠ none) {fuel : Nat} (h : t.makeDirectoriesWith p fuel = (.error e, t₁)) :
    t₁ = t := by
  cases fuel with
  | zero =>
    cases h
    rfl
  | succ fuel =>
    rcases makeDirectoriesWith_error h with same | ⟨_, -, missing, -⟩
    · exact same
    · exact absurd (refusal?_of_missing active missing) hr

/-- **A directory that cannot be made** cannot be made by trying again: nothing had been made, or
what stopped the first try stops the second one at once. -/
theorem makeDirectoriesWith_again (active : Path.isIdle p.lastSegment = false) {fuel : Nat}
    (h : t.makeDirectoriesWith p fuel = (.error e, t₁)) :
    t₁ = t ∨ ∃ e', t₁.makeDirectory p = .error e' ∧ e' ≠ .notFound ∧ t₁.isDirectory p = false ∧
      e.Again e' := by
  induction fuel generalizing p e t₁ with
  | zero =>
    cases h
    exact .inl rfl
  | succ fuel ih =>
    rcases makeDirectoriesWith_error h with same | ⟨parent, hp, missing, tried⟩
    · exact .inl same
    have hr := refusal?_of_missing active missing
    rw [Path.parent?_eq active, Option.some.injEq] at hp
    subst hp
    rcases tried with failed | ⟨made, failed, no⟩
    · -- What is in the way of the parent is in the way of the path.
      by_cases there : t.There (Path.ofAbove p.above)
      · exact .inl (makeDirectoriesWith_error_of_there there failed)
      have active' := parent_active there
      by_cases hr' : (Path.ofAbove p.above).refusal? = none
      · rcases ih active' failed with same | ⟨e', failed', found, no, again⟩
        · exact .inl same
        -- The parent could not be made, so it cannot be followed either, and the path goes through
        -- it.
        have att := attempt (t := t₁) active' hr'
        rw [no] at att
        obtain ⟨e'', leads, again'⟩ := exists_again_of_attempt att failed'
        rw [reach_ofAbove] at leads
        obtain ⟨failed'', no'⟩ := makeDirectory_of_directoryOf_error active hr leads
        refine .inr ⟨e'', failed'', ?_, no', again.trans again'⟩
        rintro rfl
        rcases again' with rfl | ⟨-, h⟩
        · exact found rfl
        · cases h
      · exact .inl (makeDirectoriesWith_error_of_refused active' hr' failed)
    · -- The parent is there, so that the path itself has been tried to its end.
      obtain ⟨d, hd⟩ := exists_directoryOf (makeDirectoriesWith_ok made)
      have found := makeDirectory_ne_notFound active hr hd
      rw [failed] at found
      exact .inr ⟨e, failed, fun he => found (congrArg _ he), no, .inl rfl⟩

/-- **To try again is of no use**: the tree stays, and the same reason is given again. -/
theorem makeDirectories_again (active : Path.isIdle p.lastSegment = false)
    (h : t.makeDirectories p = (.error e, t₁)) :
    ∃ e', t₁.makeDirectories p = (.error e', t₁) ∧ e.Again e' := by
  rcases makeDirectoriesWith_again active h with rfl | ⟨e', failed, found, no, again⟩
  · exact ⟨e, h, .inl rfl⟩
  · refine ⟨e', ?_, again⟩
    rw [makeDirectories, makeDirectoriesWith, Path.isEmpty_eq_false (Path.ofList_ne active).1,
      failed]
    cases e' <;> first | exact absurd rfl found | simp [no]

end FileTree

namespace Change

variable {t t₁ : FileTree} {p q : Path}

/-- The directory of a path that says something in its last segment is made by its other segments
alone. -/
theorem ensureParent_eq (active : Path.isIdle p.lastSegment = false) : ensureParent p =
    if (Path.ofAbove p.above).isEmpty then pure () else makeDirectories (Path.ofAbove p.above) := by
  rw [ensureParent, Path.parent?_eq active]

/-- Siblings have one directory to be made. -/
theorem ensureParent_congr (h : Path.Siblings p q) (active : Path.isIdle p.lastSegment = false)
    (active' : Path.isIdle q.lastSegment = false) : ensureParent p = ensureParent q := by
  rw [ensureParent_eq active, ensureParent_eq active', h]

/-- **Once the directory of a path has been made**, it can be reached and need not be made again. -/
theorem ensureParent_ok (active : Path.isIdle p.lastSegment = false)
    (h : ensureParent p t = .ok () t₁) : (∃ d, t₁.directoryOf p = .ok d) ∧
      ∀ {t₂}, Grows t₁ t₂ → ensureParent p t₂ = .ok () t₂ := by
  rw [ensureParent_eq active] at h ⊢
  split_ifs at h ⊢ with empty
  · exact ⟨FileTree.exists_directoryOf (.inl (String.isEmpty_iff.1 empty)), fun _ => rfl⟩
  · have there := (FileTree.makeDirectoriesWith_ok (makeDirectories_eq_ok.1 h)).resolve_left
      fun hn => empty (String.isEmpty_iff.2 hn)
    refine ⟨FileTree.exists_directoryOf (.inr there), fun {t₂} hg => makeDirectories_eq_ok.2 ?_⟩
    exact FileTree.makeDirectoriesWith_of_isDirectory (FileTree.isDirectory_of_grows hg there) _

/-- **A directory of a path that cannot be made** cannot be made by trying again. -/
theorem ensureParent_again (active : Path.isIdle p.lastSegment = false) {f : FileFault}
    (h : ensureParent p t = .error f t₁) :
    Path.parent? p = some f.path ∧
      ∃ e, ensureParent p t₁ = .error ⟨f.path, e⟩ t₁ ∧ f.cause.Again e := by
  rw [Path.parent?_eq active, Option.some.injEq]
  rw [ensureParent_eq active] at h ⊢
  split_ifs at h ⊢ with empty
  · cases h
  · obtain ⟨cause, failed, rfl⟩ := makeDirectories_eq_error.1 h
    refine ⟨rfl, ?_⟩
    -- A parent that is there would not have been refused.
    by_cases there : t.There (Path.ofAbove p.above)
    · obtain rfl := FileTree.makeDirectoriesWith_error_of_there there failed
      exact ⟨cause, h, .inl rfl⟩
    · obtain ⟨e, failed', again⟩ :=
        FileTree.makeDirectories_again (FileTree.parent_active there) failed
      exact ⟨e, makeDirectories_eq_error.2 ⟨e, failed', rfl⟩, again⟩

end Change

end RouterConf
