import RouterConf.Proofs.Files.Directories

/-!
# Changes that have nothing left to do

A change that is made twice need not do anything the second time. Directories that have been made
are there from then on, so that a path whose directory was made once is passed over as long as no
directory goes (`Change.Settled`). A file is written again in the same way: its text goes to the
draft, which is gone since the last time, and from there into the place of the file, which is
still there (`FileTree.InPlace`). What is left is the new text, and nothing else has changed.

Where only one directory may be missing, only one is made (`Change.get?_of_makeDirectories_join`).

Main statements: `Change.settled_ensureParent`, `Change.write_rename_inPlace`,
`Change.inPlace_of_replace`, `Change.replace_inPlace`.
-/

namespace RouterConf

open FileTree (Grows AgreeBut)

variable {t t' t₁ : FileTree} {p q base : Path} {l l' d : Location} {s text : String}

/-! ### Operations on known locations -/

namespace FileTree

/-- A file can be written where no directory is. -/
theorem write_of_denotes (hd : t.Denotes p l) (hn : t.get? l ≠ some .directory)
    (c : FileContent) : t.write p c = .ok (t.insert l (.file c)) := by
  obtain ⟨d, n, hl, hsize, rfl⟩ := hd
  -- A file may be written where nothing is or over another one.
  rcases he : t.get? (d ++ [n]) with _ | c' | _
  · simp [write, hl, entry?, Nat.not_lt.2 hsize, he, bind, Except.bind, pure, Except.pure]
  · simp [write, hl, entry?, Nat.not_lt.2 hsize, he, bind, Except.bind, pure, Except.pure]
  · exact absurd he hn

/-- A file can be moved to where no directory is. -/
theorem rename_of_denotes {c : FileContent} (hd : t.Denotes p l) (hc : t.get? l = some (.file c))
    (hd' : t.Denotes q l') (hn : t.get? l' ≠ some .directory) :
    t.rename p q = .ok ((t.erase l).insert l' (.file c)) := by
  obtain ⟨d, n, hl, hsize, rfl⟩ := hd
  obtain ⟨d', n', hl', hsize', rfl⟩ := hd'
  rcases he : t.get? (d' ++ [n']) with _ | c' | _
  · simp [rename, hl, hl', entry?, Nat.not_lt.2 hsize, Nat.not_lt.2 hsize', hc, he, bind,
      Except.bind, pure, Except.pure]
  · simp [rename, hl, hl', entry?, Nat.not_lt.2 hsize, Nat.not_lt.2 hsize', hc, he, bind,
      Except.bind, pure, Except.pure]
  · exact absurd he hn

/-- A file cannot be moved to where a directory is. -/
theorem rename_of_directory {c : FileContent} (hd : t.Denotes p l)
    (hc : t.get? l = some (.file c)) (hd' : t.Denotes q l') (hn : t.get? l' = some .directory) :
    t.rename p q = .error .isADirectory := by
  obtain ⟨d, n, hl, hsize, rfl⟩ := hd
  obtain ⟨d', n', hl', hsize', rfl⟩ := hd'
  simp [rename, hl, hl', entry?, Nat.not_lt.2 hsize, Nat.not_lt.2 hsize', hc, hn, bind, Except.bind]

/-! ### Trees that agree -/

namespace AgreeBut

variable {ls : List Location}

/-- Trees that agree but for some files, one after the other. -/
theorem trans {t'' : FileTree} (h : AgreeBut ls t t') (h' : AgreeBut ls t' t'') :
    AgreeBut ls t t'' :=
  ⟨h'.home.trans h.home, fun hl => (h'.other hl).trans (h.other hl), h.before, h'.after⟩

/-- Where the one file is the same as well, nothing is different. -/
theorem of_same (h : AgreeBut [l] t t') (same : t'.get? l = t.get? l) : AgreeBut [] t t' := by
  refine ⟨h.home, fun {l'} _ => ?_, by simp, by simp⟩
  by_cases hl : l' = l
  · rw [hl, same]
  · exact h.other (by simpa using hl)

/-- What agrees in all is as good as the same tree. -/
theorem of_nil (h : AgreeBut [] t t') (h' : AgreeBut ls t' t₁) : AgreeBut ls t t₁ := by
  refine ⟨h'.home.trans h.home, fun hl => (h'.other hl).trans (h.other (by simp)), ?_, h'.after⟩
  intro l hl
  rw [← h.other (by simp)]
  exact h'.before l hl

end AgreeBut

/-! ### Files in their places -/

/-- **A file in its place.** It holds a text, and nothing is left of the draft that it was written
as. -/
structure InPlace (t : FileTree) (draft p : Path) (l : Location) (text : String) : Prop where
  target : t.Denotes p l
  held : t.get? l = some (.file (.text text))
  free : ∃ l', t.Denotes draft l' ∧ t.get? l' = none

/-- A file stays in its place where others change. -/
theorem InPlace.of_agreeBut {ls : List Location} (h : t.InPlace q p l text)
    (agree : AgreeBut ls t t') (hl : l ∉ ls) (hq : ∀ l', t.Denotes q l' → l' ∉ ls) :
    t'.InPlace q p l text := by
  obtain ⟨l', draft, free⟩ := h.free
  refine ⟨agree.grows.denotes h.target, ?_, l', agree.grows.denotes draft, ?_⟩
  · rw [agree.other hl, h.held]
  · rw [agree.other (hq l' draft), free]

/-! ### The directory that a path is put below -/

/-- Where a path below a directory leads somewhere, the directory does. -/
theorem exists_reach_of_directoryOf_join (hq : q.isAbsolute = false)
    (h : t.directoryOf (Path.join base q) = .ok d) : ∃ w, t.reach base = .ok w := by
  obtain ⟨init, same, joined⟩ := Path.exists_segments_join base
  obtain ⟨parts, absolute⟩ := joined hq
  rw [Path.segments_eq q, ← List.append_assoc] at parts
  rw [directoryOf, Path.above_eq parts, absolute, List.map_append, walk_append] at h
  cases hw : t.walk (if base.isAbsolute then [] else t.home) (init.map String.ofList) with
  | error e =>
    rw [hw] at h
    cases h
  | ok w =>
    refine ⟨w, ?_⟩
    rcases same with same | same <;> rw [reach, same]
    · exact hw
    · -- A slash at the end leads nowhere else.
      rw [List.map_append, walk_append, hw]
      exact t.walk_idle w (show ∀ s ∈ [[]], Path.isIdle s = true by decide)

end FileTree

namespace Change

/-! ### Directories that have been made -/

/-- **A change that has nothing left to do**: it succeeds and leaves all as it is, now and as long
as all directories stay. -/
def Settled (change : Change Unit) (t : FileTree) : Prop :=
  ∀ t', Grows t t' → change t' = .ok () t'

/-- What has nothing left to do has none later on. -/
theorem Settled.of_grows {change : Change Unit} (h : Settled change t) (hg : Grows t t') :
    Settled change t' :=
  fun _ hg' => h _ (hg.trans hg')

/-- Directories that have been made need not be made again. -/
theorem settled_makeDirectories (h : makeDirectories p t = .ok () t₁) :
    Settled (makeDirectories p) t₁ := by
  intro t₂ hg
  rw [makeDirectories_eq_ok]
  -- The empty path names no directory, and none is made for it.
  rcases FileTree.makeDirectoriesWith_ok (makeDirectories_eq_ok.1 h) with rfl | there
  · rfl
  · exact FileTree.makeDirectoriesWith_of_isDirectory (FileTree.isDirectory_of_grows hg there) _

/-- **The directory of a path need not be made again**, whatever the path is. -/
theorem settled_ensureParent (h : ensureParent p t = .ok () t₁) :
    Settled (ensureParent p) t₁ := by
  unfold ensureParent at h ⊢
  cases hp : Path.parent? p with
  | none => exact fun _ _ => rfl
  | some parent =>
    simp only [hp] at h
    dsimp only
    split_ifs at h ⊢ with empty
    · exact fun _ _ => rfl
    · exact settled_makeDirectories h

/-- Below a directory that is there, making one makes no other. -/
theorem get?_of_makeDirectories_join {n : String} (hn : Path.IsName n)
    (hr : t.reach base = .ok d) (h : makeDirectories (Path.join base n) t = .ok () t')
    (hl : l ≠ d ++ [n]) : t'.get? l = t.get? l := by
  have last := Path.lastSegment_join base hn.slashless
  have located := t.locate_eq (p := Path.join base n) (by rw [last]; exact hn.not_idle)
  rw [t.directoryOf_join base hn.slashless, hr, last, String.ofList_toList] at located
  rw [makeDirectories_eq_ok] at h
  cases refused : (Path.join base n).refusal? with
  | some e =>
    -- A path that is refused for its text cannot have been made.
    rw [refused] at located
    have found : e ≠ .notFound := fun he => Path.refusal?_ne_notFound _ (he ▸ refused)
    rw [FileTree.makeDirectories_of_locate_error located found] at h
    cases h
  | none =>
    rw [refused] at located
    have entry : t.locate (Path.join base n) = .ok (.entry d n false) :=
      located.trans (if_neg hn.not_upward)
    rw [FileTree.makeDirectories_of_locate entry] at h
    split_ifs at h with long
    · cases h
    · split at h <;> cases h
      · rw [FileTree.get?_insert t (by simp), if_neg hl]
      · rfl

/-! ### Files that are written again -/

/-- **A file in its place can be written again.** It holds the new text then, and all else is as it
was. -/
theorem write_rename_inPlace (h : t.InPlace q p l text) (s : String) : ∃ t₁ t',
    write q s t = .ok () t₁ ∧ rename q p t₁ = .ok () t' ∧ AgreeBut [l] t t' ∧
      t'.InPlace q p l s := by
  obtain ⟨target, held, l', draft, free⟩ := h
  have apart : l' ≠ l := by
    rintro rfl
    rw [held] at free
    cases free
  have no_directory : t.get? l' ≠ some .directory := by simp [free]
  have grows := FileTree.grows_insert_file draft.ne_nil no_directory (.text s)
  have written := FileTree.get?_insert t draft.ne_nil (.file (.text s))
  have target_held : (t.insert l' (.file (.text s))).get? l = some (.file (.text text)) := by
    rw [written, if_neg (Ne.symm apart), held]
  have draft_held : (t.insert l' (.file (.text s))).get? l' = some (.file (.text s)) := by
    rw [written, if_pos rfl]
  -- The draft is written where nothing is, and moving it leaves nothing there again.
  have moved : ∀ k, (((t.insert l' (.file (.text s))).erase l').insert l (.file (.text s))).get? k =
      if k = l then some (.file (.text s)) else t.get? k := by
    intro k
    rw [FileTree.get?_insert _ target.ne_nil, FileTree.get?_erase _ draft.ne_nil, written]
    by_cases hk : k = l'
    · rw [hk, if_neg apart, if_neg apart, if_pos rfl, free]
    · rw [if_neg hk, if_neg hk]
  have agree : AgreeBut [l] t
      (((t.insert l' (.file (.text s))).erase l').insert l (.file (.text s))) := by
    refine ⟨rfl, fun {k} hk => ?_, ?_, ?_⟩
    · rw [moved, if_neg (by simpa using hk)]
    · simp [held]
    · simp [moved]
  refine ⟨_, _, ofStep_eq_ok.2 (FileTree.write_of_denotes draft no_directory _),
    ofStep_eq_ok.2 (FileTree.rename_of_denotes (grows.denotes draft) draft_held
      (grows.denotes target) ?_), agree, ?_⟩
  · simp [target_held]
  · refine ⟨agree.grows.denotes target, ?_, l', agree.grows.denotes draft, ?_⟩
    · rw [moved, if_pos rfl]
    · rw [moved, if_neg apart, free]

/-- A file that has been replaced is in its place, in a directory that need not be made again. -/
theorem inPlace_of_replace (h : replace p text t = .ok () t') :
    Settled (ensureParent p) t' ∧ ∃ l, t'.InPlace (draftOf p) p l text := by
  obtain ⟨held, draft⟩ := replace_ok h
  obtain ⟨l, target, held⟩ := FileTree.status_eq_file_iff.1 held
  refine ⟨?_, l, target, held, draft⟩
  obtain ⟨_, t₁, made, h⟩ := run_bind_eq_ok.1 h
  -- What has been made for the parent is still there, since the two steps after it take away no
  -- directory.
  have touches : Touches [p, draftOf p] (write (draftOf p) text >>= fun _ =>
      orUndo (rename (draftOf p) p) (ofStep (draftOf p) fun t => t.remove (draftOf p))) :=
    .bind (.write _ text (by simp)) fun _ => .orUndo (.rename (by simp) (by simp))
      (.remove (by simp))
  exact (settled_ensureParent made).of_grows (touches.ok h).toGrows

/-- **To replace a file by itself** changes nothing. -/
theorem replace_inPlace (settled : Settled (ensureParent p) t)
    (h : t.InPlace (draftOf p) p l text) :
    ∃ t', replace p text t = .ok () t' ∧ AgreeBut [] t t' := by
  obtain ⟨t₁, t', written, moved, agree, again⟩ := write_rename_inPlace h text
  refine ⟨t', ?_, agree.of_same (by rw [again.held, h.held])⟩
  -- The draft is moved, so that there is nothing to undo.
  have kept : orUndo (rename (draftOf p) p)
      (ofStep (draftOf p) fun t => t.remove (draftOf p)) t₁ = .ok () t' := by
    rw [orUndo, moved]
  exact run_bind_eq_ok.2 ⟨(), t, settled t (Grows.refl t), run_bind_eq_ok.2 ⟨(), t₁, written, kept⟩⟩

end Change

end RouterConf
