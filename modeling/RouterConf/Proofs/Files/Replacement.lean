import RouterConf.Proofs.Files.NewDirectories

/-!
# A file is replaced as a whole or not at all

To replace a file is to make its directory, to write the new text under the name of a draft, and to
move the draft into the place of the file. Each of the three may fail, on a tree of any shape: there
may be a file where a directory is needed, or a directory in the place of the draft or of the file.

Whatever happens, there is never a part of the new text under the name of the file:

* `Change.Replaced`: the file holds the new text, and the draft is gone;
* `Change.Refused`: the file is what it was. The fault says how far the replacement got, and with
  that what has become of a draft that was there before: it is as it was, unless the new one could
  be written over it, and then it is gone.

All other files are as they were, and no directory is new but the one that the file lies in and
those that lead there (`FileTree.Spares`).

Main statement: `Change.replace_whole`.
-/

namespace RouterConf

open FileTree (ChangesOnly MakesOnly)

variable {t t' : FileTree} {p : Path} {ps ds : List Path} {l : Location} {e : FileFault}

namespace FileTree

/-! ### What else has changed -/

/-- **All but what the paths `ps` denote is as it was**, except for directories that were not there
on the way to one of `ds`. -/
structure Spares (ps ds : List Path) (t t' : FileTree) : Prop where
  home : t'.home = t.home
  other : ∀ {l}, (∀ p ∈ ps, ¬ t'.Denotes p l) → t'.get? l = t.get? l ∨
    t.get? l = none ∧ t'.get? l = some .directory ∧ ∃ d ∈ ds, d.Passes t.home l

/-- If only the paths `ps` were touched, then what else is new is a directory on one of the ways. -/
theorem Spares.of_changesOnly (touched : ChangesOnly ps t t') (made : MakesOnly ds t t') :
    Spares ps ds t t' := by
  refine ⟨touched.home, fun {l} hl => (touched.other hl).imp_right ?_⟩
  rintro ⟨free, new⟩
  -- A directory that is new has not been there before, and so it is on the way.
  rcases made.directory new with old | way
  · rw [old] at free
    cases free
  · exact ⟨free, new, way⟩

/-- **What a path leads to it leads to afterwards**, as long as only other files change. -/
theorem ChangesOnly.status_ok (h : ChangesOnly ps t t') {entry : FileEntry}
    (hp : t.status p = .ok entry) (apart : ∀ q ∈ ps, ∀ l, t'.Denotes p l → ¬ t'.Denotes q l) :
    t'.status p = .ok entry := by
  cases entry with
  | file c => exact h.status_file hp apart
  | directory => exact isDirectory_iff.1 (isDirectory_of_grows h.toGrows (isDirectory_iff.2 hp))

end FileTree

namespace Change

/-! ### The two ways in which a replacement ends -/

/-- **A file that has been replaced.** -/
structure Replaced (p : Path) (text : String) (t t' : FileTree) : Prop where
  held : t'.status p = .ok (.file (.text text))
  free : t'.pathExists (draftOf p) = false
  others : t.Spares [p, draftOf p] (Path.parent? p).toList t'

/-- **A file that has not been replaced.** -/
structure Refused (p : Path) (e : FileFault) (t t' : FileTree) : Prop where
  /-- Whatever was there is there, be it a file or a directory. -/
  there : ∀ {entry}, t.status p = .ok entry → t'.status p = .ok entry
  /-- No file is new, and none holds anything new, the draft included. -/
  nothing_new : ∀ {l c}, t'.get? l = some (.file c) → t.get? l = some (.file c)
  others : t.Spares [draftOf p] (Path.parent? p).toList t'
  /-- Either the directory could not be made or the draft not be written, and then the draft is not
  touched either; or the draft could not be moved, and then it has been removed. -/
  draft : (Path.parent? p = some e.path ∨ e.path = draftOf p) ∧
      t.Spares [] (Path.parent? p).toList t' ∨
    e.path = p ∧ t'.pathExists (draftOf p) = false

/-- The draft of a file is never in the place of the file. -/
theorem status_of_changesOnly_draft (h : ChangesOnly [draftOf p] t t') {entry : FileEntry}
    (hp : t.status p = .ok entry) : t'.status p = .ok entry := by
  refine h.status_ok hp fun q hq l hl hq' => ?_
  rw [List.mem_singleton.1 hq] at hq'
  exact draftOf_apart p hq' hl

/-- **A file is replaced as a whole or not at all**, whatever tree it is in, and nothing else is
changed on the way. -/
theorem replace_whole (p : Path) (text : String) (t : FileTree) :
    match replace p text t with
    | .ok () t' => Replaced p text t t'
    | .error e t' => Refused p e t t' := by
  -- Directories are made in one place only, for the parent of the file.
  have made := within_replace_of_ensureParent (within_ensureParent_parent p) text
  cases h : replace p text t with
  | ok _ t' =>
    -- The draft has been moved, so its place is free again.
    obtain ⟨held, l, draft, free⟩ := replace_ok h
    exact ⟨held, FileTree.pathExists_eq_false draft free,
      .of_changesOnly ((Touches.replace p text).ok h) (made.ok h)⟩
  | error e t' =>
    obtain ⟨touched, nothing_new⟩ := replace_error h
    refine ⟨status_of_changesOnly_draft touched, nothing_new,
      .of_changesOnly touched (made.error h), ?_⟩
    rcases replace_error_cases h with ⟨early, kept⟩ | ⟨moved, t₁, l, -, draft, free, rfl⟩
    · exact .inl ⟨early, .of_changesOnly kept (made.error h)⟩
    · -- Where the draft was written, nothing is left.
      have erased := (changesOnly_insert_erase draft free (.text text)).toGrows
      refine .inr ⟨moved, FileTree.pathExists_eq_false (erased.denotes draft) ?_⟩
      rw [FileTree.get?_erase _ draft.ne_nil, if_pos rfl]

end Change

end RouterConf
