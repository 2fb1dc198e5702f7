import Mathlib.Data.List.TakeWhile
import Mathlib.Tactic.SplitIfs
import RouterConf.Files.Change
import RouterConf.Proofs.Files.LastSegment

/-!
# What an operation may touch

A path denotes a location: the directory that its segments lead to, with its last name. Which
location that is depends on the directories of the tree alone, and no operation here takes a
directory away. So a location that a path denotes once it denotes from then on
(`FileTree.Grows.denotes`), and what an operation touches can be said in terms of the paths that it
is given and the tree that it leaves.

* `FileTree.Grows t t'`: every directory of `t` is one of `t'`.
* `FileTree.ChangesOnly ps t t'`: in addition, all that the two trees differ in is at locations that
  the paths `ps` denote, apart from new directories.

Both are preorders. A file that no path of `ps` denotes is there before and after.

Main statements: `FileTree.ChangesOnly.trans`, `FileTree.ChangesOnly.get?_file`.
-/

namespace RouterConf.FileTree

variable {t t' t'' : FileTree} {p q : Path} {ps : List Path} {l l' : Location}

/-! ### Locations of paths -/

/-- A path without a slash at its end names an entry of a directory. -/
def Denotes (t : FileTree) (p : Path) (l : Location) : Prop :=
  ∃ directory name, t.locate p = .ok (.entry directory name false) ∧
    name.utf8ByteSize ≤ maxName ∧ l = directory ++ [name]

/-- A path denotes one location. -/
theorem Denotes.unique (h : t.Denotes p l) (h' : t.Denotes p l') : l = l' := by
  obtain ⟨d, n, hl, -, rfl⟩ := h
  obtain ⟨d', n', hl', -, rfl⟩ := h'
  rw [hl] at hl'
  cases hl'
  rfl

/-- The root is not an entry of a directory, so no path denotes it. -/
theorem Denotes.ne_nil (h : t.Denotes p l) : l ≠ [] := by
  obtain ⟨d, n, -, -, rfl⟩ := h
  simp

/-- Seen from its end, a path begins with its last segment. -/
theorem reverse_segments (p : Path) :
    ∃ before, (p.segments.map String.ofList).reverse = String.ofList p.lastSegment :: before := by
  obtain ⟨init, h⟩ := p.exists_segments_eq
  exact ⟨(init.map String.ofList).reverse, by rw [h]; simp⟩

/-- The last segment that is not empty, with what is before it and the empty ones after it. -/
theorem exists_segments_eq_of_dropWhile {ss before : List String} {last : String}
    (h : ss.reverse.dropWhile (· = "") = last :: before) :
    last ≠ "" ∧ ∃ blank, ss = before.reverse ++ [last] ++ blank ∧ ∀ s ∈ blank, s = "" := by
  refine ⟨?_, (ss.reverse.takeWhile (· = "")).reverse, ?_, fun s hs => ?_⟩
  · rintro rfl
    -- What is not skipped is not empty.
    have head := List.head?_dropWhile_not (fun s : String => decide (s = "")) ss.reverse
    rw [h] at head
    cases head
  · rw [← List.reverse_inj, List.reverse_append, List.reverse_reverse, List.reverse_append,
      List.reverse_reverse, List.reverse_singleton, List.singleton_append, ← h]
    exact List.takeWhile_append_dropWhile.symm
  · have empty := List.mem_takeWhile_imp (List.mem_reverse.1 hs)
    simpa using empty

/-- An entry is named by a segment that leads from the directory that the others lead to. -/
theorem locate_eq_ok_entry {directory : Location} {name : String} {slash : Bool}
    (h : t.locate p = .ok (.entry directory name slash)) :
    ∃ before, (p.segments.map String.ofList).reverse.dropWhile (· = "") = name :: before ∧
      t.walk (if p.isAbsolute then [] else t.home) before.reverse = .ok directory ∧
      name ≠ "." ∧ name ≠ ".." ∧
      slash = decide ((p.segments.map String.ofList).reverse.head? = some "") := by
  unfold locate at h
  split at h
  · cases h
  split at h
  · cases h
  split at h
  · cases h
  dsimp only at h
  split at h
  · cases h
  · -- What is left is a last segment, with the walk over those before it.
    rename_i last before hd
    rcases hw : t.walk (if p.isAbsolute then [] else t.home) before.reverse with e | d
    · rw [hw] at h
      cases h
    rw [hw] at h
    simp only [bind, Except.bind, pure, Except.pure] at h
    split at h
    · cases h
    split at h
    · cases h
    cases h
    exact ⟨before, hd, hw, ‹_›, ‹_›, rfl⟩

/-- The name of a denoted location is the last segment of the path, and does not lead upward. -/
theorem Denotes.getLast? (h : t.Denotes p l) :
    l.getLast? = some (String.ofList p.lastSegment) ∧ p.lastSegment ≠ ['.', '.'] := by
  obtain ⟨d, n, hl, -, rfl⟩ := h
  obtain ⟨before, hd, -, -, hup, hslash⟩ := locate_eq_ok_entry hl
  obtain ⟨before', hb⟩ := reverse_segments p
  -- There is no slash at the end, so the last segment is not empty, and none is skipped.
  rw [hb, List.head?_cons, eq_comm, decide_eq_false_iff_not, Option.some.injEq] at hslash
  rw [hb, List.dropWhile_cons_of_neg (by simpa using hslash)] at hd
  obtain ⟨rfl, -⟩ := List.cons.inj hd
  refine ⟨by simp, ?_⟩
  intro hdots
  rw [hdots] at hup
  exact hup rfl

/-- Paths whose last segments end differently denote different locations. -/
theorem Denotes.ne_of_suffix {w w' : List Char} (h : t.Denotes p l) (h' : t'.Denotes q l')
    (hw : w <:+ p.lastSegment) (hw' : w' <:+ q.lastSegment) (hne : ¬ w <:+ w') (hne' : ¬ w' <:+ w) :
    l ≠ l' := by
  rintro rfl
  -- One location has one last name, and of two ends of it one is an end of the other.
  have same := h.getLast?.1.symm.trans h'.getLast?.1
  rw [Option.some.injEq, String.ofList_inj] at same
  rw [← same] at hw'
  rcases List.suffix_or_suffix_of_suffix hw hw' with hs | hs
  · exact hne hs
  · exact hne' hs

/-! ### Directories persist -/

/-- Every directory of `t` is one of `t'`, seen from the same home. -/
structure Grows (t t' : FileTree) : Prop where
  home : t'.home = t.home
  directory : ∀ {l}, t.get? l = some .directory → t'.get? l = some .directory

namespace Grows

/-- A tree grows to itself. -/
theorem refl (t : FileTree) : Grows t t :=
  ⟨rfl, id⟩

/-- Directories that persist over two steps persist over both. -/
theorem trans (h : Grows t t') (h' : Grows t' t'') : Grows t t'' :=
  ⟨h'.home.trans h.home, fun hl => h'.directory (h.directory hl)⟩

/-- Where segments lead they lead from then on. -/
theorem walk (h : Grows t t') {start : Location} {segments : List String}
    (hw : t.walk start segments = .ok l) : t'.walk start segments = .ok l := by
  induction segments generalizing start with
  | nil => exact hw
  | cons segment rest ih =>
    unfold FileTree.walk at hw ⊢
    split_ifs at hw ⊢
    · exact ih hw
    · exact ih hw
    · -- A walk that succeeds goes from directory to directory, and these are there later, too.
      split at hw
      · cases hw
      · cases hw
      · rename_i hd
        rw [h.directory hd]
        exact ih hw

/-- What a path names it names from then on. -/
theorem locate (h : Grows t t') {target : Target} (hl : t.locate p = .ok target) :
    t'.locate p = .ok target := by
  unfold FileTree.locate at hl ⊢
  rw [h.home]
  split_ifs at hl ⊢
  all_goals
    dsimp only at hl ⊢
    split at hl
    · exact hl
    · -- The syntax of the path is judged alike, so it is the walk that matters.
      rename_i last before _
      rcases hw : t.walk _ before.reverse with e | d
      · rw [hw] at hl
        cases hl
      · rw [hw] at hl
        rw [h.walk hw]
        exact hl

/-- What a path denotes it denotes from then on. -/
theorem denotes (h : Grows t t') (hl : t.Denotes p l) : t'.Denotes p l := by
  obtain ⟨d, n, hl, hn, rfl⟩ := hl
  exact ⟨d, n, h.locate hl, hn, rfl⟩

end Grows

/-! ### The changes of an operation -/

/-- **Only what the paths denote is changed**, apart from new directories. The locations are those
of the tree afterwards: a path may lead somewhere only once its directories have been made. -/
structure ChangesOnly (ps : List Path) (t t' : FileTree) : Prop extends Grows t t' where
  other : ∀ {l}, (∀ p ∈ ps, ¬ t'.Denotes p l) →
    t'.get? l = t.get? l ∨ t.get? l = none ∧ t'.get? l = some .directory

namespace ChangesOnly

/-- Where nothing is done, nothing is changed. -/
theorem refl (ps : List Path) (t : FileTree) : ChangesOnly ps t t :=
  ⟨Grows.refl t, fun _ => .inl rfl⟩

/-- Two steps that touch the same paths touch only these together. -/
theorem trans (h : ChangesOnly ps t t') (h' : ChangesOnly ps t' t'') : ChangesOnly ps t t'' := by
  refine ⟨h.toGrows.trans h'.toGrows, fun {l} hl => ?_⟩
  -- What is not denoted at the end was not denoted half-way either.
  have early : ∀ p ∈ ps, ¬ t'.Denotes p l := fun p hp hd => hl p hp (h'.denotes hd)
  rcases h.other early with same | ⟨before, made⟩
  · rw [← same]
    exact h'.other hl
  · exact .inr ⟨before, h'.directory made⟩

/-- More paths may be allowed. -/
theorem mono {qs : List Path} (h : ChangesOnly ps t t') (hsub : ps ⊆ qs) : ChangesOnly qs t t' :=
  ⟨h.toGrows, fun hl => h.other fun p hp => hl p (hsub hp)⟩

/-- **A file that is not touched** is there before exactly if it is there afterwards. -/
theorem get?_file (h : ChangesOnly ps t t') {c : FileContent} (hl : ∀ p ∈ ps, ¬ t'.Denotes p l) :
    t'.get? l = some (.file c) ↔ t.get? l = some (.file c) := by
  rcases h.other hl with same | ⟨before, made⟩
  · rw [same]
  · rw [before, made]
    simp

end ChangesOnly

/-! ### Files by path -/

/-- A path leads to a file exactly if it denotes the location of one. -/
theorem status_eq_file_iff {c : FileContent} :
    t.status p = .ok (.file c) ↔ ∃ l, t.Denotes p l ∧ t.get? l = some (.file c) := by
  constructor
  · intro h
    unfold status at h
    rcases hl : t.locate p with e | ⟨d, n, slash⟩ | d
    · simp [hl, bind, Except.bind] at h
    · rw [hl] at h
      unfold entry? at h
      -- A file has a name that is not too long and no slash after it.
      by_cases hn : maxName < n.utf8ByteSize
      · simp [hn, bind, Except.bind] at h
      · rcases he : t.get? (d ++ [n]) with _ | c' | _
        · simp [hn, he, bind, Except.bind] at h
        · cases slash
          · simp [hn, he, bind, Except.bind, pure, Except.pure] at h
            exact ⟨d ++ [n], ⟨d, n, hl, by omega, rfl⟩, by rw [he, h]⟩
          · simp [hn, he, bind, Except.bind] at h
        · simp [hn, he, bind, Except.bind, pure, Except.pure] at h
    · simp [hl, bind, Except.bind, pure, Except.pure] at h
  · rintro ⟨l, ⟨d, n, hl, hn, rfl⟩, he⟩
    simp [status, hl, entry?, Nat.not_lt.2 hn, he, bind, Except.bind, pure, Except.pure]

/-- What is at the location of a path is what the path leads to. -/
theorem Denotes.status_eq (h : t.Denotes p l) (h' : t'.Denotes p l) (same : t'.get? l = t.get? l) :
    t'.status p = t.status p := by
  obtain ⟨d, n, hl, hn, rfl⟩ := h
  obtain ⟨d', n', hl', hn', hd⟩ := h'
  -- The two locations are one, so they have the directory and the name in common.
  obtain ⟨rfl, hn⟩ := List.append_inj' hd rfl
  obtain rfl : n = n' := by simpa using hn
  simp only [status, hl, hl', entry?, if_neg (Nat.not_lt.2 hn'), same, bind, Except.bind]

/-- A file at a path that is not touched is read as before. -/
theorem ChangesOnly.status_file (h : ChangesOnly ps t t') {c : FileContent}
    (hp : t.status p = .ok (.file c))
    (apart : ∀ q ∈ ps, ∀ l, t'.Denotes p l → ¬ t'.Denotes q l) : t'.status p = .ok (.file c) := by
  obtain ⟨l, hl, he⟩ := status_eq_file_iff.1 hp
  have hl' := h.denotes hl
  exact status_eq_file_iff.2 ⟨l, hl', (h.get?_file fun q hq => apart q hq l hl').2 he⟩

end RouterConf.FileTree
