import RouterConf.Proofs.Files.Places

/-!
# Which directories are made

What a change may touch sets new directories aside (`FileTree.ChangesOnly`). Where these can be is
said here: only where a path leads that the change makes directories for, or where that path leads
through on its way (`FileTree.MakesOnly`).

Main statements: `FileTree.makesOnly_makeDirectories`, `Change.within_ensureParent`,
`Change.within_replace`.
-/

namespace RouterConf

variable {t t' t'' : FileTree} {p q : Path} {ps qs : List Path} {l : Location}

namespace FileTree

/-- **New directories only on the way.** Every directory is an old one, or one of the paths leads
through it. -/
structure MakesOnly (ps : List Path) (t t' : FileTree) : Prop where
  home : t'.home = t.home
  directory : ∀ {l}, t'.get? l = some .directory →
    t.get? l = some .directory ∨ ∃ p ∈ ps, p.Passes t.home l

namespace MakesOnly

/-- What changes nothing makes no directory. -/
theorem refl (ps : List Path) (t : FileTree) : MakesOnly ps t t :=
  ⟨rfl, .inl⟩

/-- Two changes one after the other make what either of them makes. -/
theorem trans (h : MakesOnly ps t t') (h' : MakesOnly ps t' t'') : MakesOnly ps t t'' := by
  refine ⟨h'.home.trans h.home, fun {l} hl => ?_⟩
  -- A directory that the second change has not made was there before it, and may come from the
  -- first.
  rcases h'.directory hl with earlier | ⟨p, hp, passes⟩
  · exact h.directory earlier
  · rw [h.home] at passes
    exact .inr ⟨p, hp, passes⟩

/-- Paths that lead through more places allow for more directories. -/
theorem mono (h : MakesOnly ps t t')
    (hsub : ∀ p ∈ ps, ∀ l, p.Passes t.home l → ∃ q ∈ qs, q.Passes t.home l) :
    MakesOnly qs t t' := by
  refine ⟨h.home, fun {l} hl => ?_⟩
  rcases h.directory hl with old | ⟨p, hp, passes⟩
  · exact .inl old
  · exact .inr (hsub p hp l passes)

/-- More paths allow for more directories. -/
theorem of_subset (h : MakesOnly ps t t') (hsub : ps ⊆ qs) : MakesOnly qs t t' :=
  h.mono fun p hp _ passes => ⟨p, hsub hp, passes⟩

end MakesOnly

/-- A file that is put somewhere makes no directory. -/
theorem makesOnly_insert_file (hl : l ≠ []) (c : FileContent) :
    MakesOnly ps t (t.insert l (.file c)) := by
  refine ⟨rfl, fun {l'} hl' => ?_⟩
  rw [get?_insert t hl] at hl'
  split at hl'
  · cases hl'
  · exact .inl hl'

/-- What is taken away makes no directory. -/
theorem makesOnly_erase (hl : l ≠ []) : MakesOnly ps t (t.erase l) :=
  ⟨rfl, fun hl' => .inl ((grows_of_erase hl).directory hl')⟩

/-- One directory is made where its path leads. -/
theorem makesOnly_makeDirectory (h : t.makeDirectory p = .ok t') : MakesOnly [p] t t' := by
  obtain ⟨free, rfl⟩ := makeDirectory_place h
  -- The root is always there, so what is made is somewhere else.
  have named : p.place t.home ≠ [] := by
    intro root
    rw [root, get?_root] at free
    cases free
  refine ⟨rfl, fun {l} hl => ?_⟩
  rw [get?_insert t named] at hl
  split at hl
  · rename_i same
    rw [same]
    exact .inr ⟨p, List.mem_singleton_self p, p.passes_place _⟩
  · exact .inl hl

/-- To make directories makes none but those on the way, whether it succeeds or not. -/
theorem makesOnly_makeDirectoriesWith (fuel : Nat) (t : FileTree) (p : Path) :
    MakesOnly [p] t (t.makeDirectoriesWith p fuel).2 := by
  -- By induction over the directories above, from the topmost one that is missing down to the path.
  refine makeDirectoriesWith_induct (R := fun p => MakesOnly [p]) (fun p => MakesOnly.refl [p])
    MakesOnly.trans makesOnly_makeDirectory (fun {p parent t t'} above made => ?_) fuel t p
  -- The way to the directory above is a part of the way to this one.
  refine made.mono fun q hq l passes => ⟨p, List.mem_singleton_self p, ?_⟩
  rw [List.mem_singleton.1 hq] at passes
  exact Path.passes_of_parent? above passes

/-- The same, with as much fuel as the path needs. -/
theorem makesOnly_makeDirectories (t : FileTree) (p : Path) :
    MakesOnly [p] t (t.makeDirectories p).2 :=
  makesOnly_makeDirectoriesWith _ t p

end FileTree

open FileTree (MakesOnly)

namespace Change

/-- **A change within a relation.** The tree after it is related to the tree before it, whether it
succeeds or not. -/
structure Within (R : FileTree → FileTree → Prop) {α : Type} (change : Change α) : Prop where
  ok : ∀ {t t' : FileTree} {a : α}, change t = .ok a t' → R t t'
  error : ∀ {t t' : FileTree} {e : FileFault}, change t = .error e t' → R t t'

variable {R : FileTree → FileTree → Prop} {α β : Type}

/-- A step that does nothing stays within every reflexive relation. -/
theorem within_pure (refl : ∀ t, R t t) (a : α) : Within R (pure a : Change α) := by
  refine ⟨?_, ?_⟩
  · rintro t t' b ⟨⟩
    exact refl t
  · rintro t t' e ⟨⟩

/-- Two steps one after the other stay within a transitive relation that each of them stays within.
-/
theorem within_bind (trans : ∀ {t t₁ t'}, R t t₁ → R t₁ t' → R t t') {m : Change α}
    {f : α → Change β} (hm : Within R m) (hf : ∀ a, Within R (f a)) : Within R (m >>= f) := by
  refine ⟨fun h => ?_, fun h => ?_⟩
  · obtain ⟨a, t₁, h₁, h₂⟩ := run_bind_eq_ok.1 h
    exact trans (hm.ok h₁) ((hf a).ok h₂)
  · -- A chain that fails has failed at its first step, or after that step had changed the tree.
    rcases run_bind_eq_error.1 h with h₁ | ⟨a, t₁, h₁, h₂⟩
    · exact hm.error h₁
    · exact trans (hm.ok h₁) ((hf a).error h₂)

/-- An operation that changes nothing when it fails has to be looked at only where it succeeds. -/
theorem within_ofStep (refl : ∀ t, R t t) {step : FileTree → Except OsError FileTree}
    (h : ∀ {t t'}, step t = .ok t' → R t t') (p : Path) : Within R (ofStep p step) := by
  refine ⟨fun hr => h (ofStep_eq_ok.1 hr), fun {t t' e} hr => ?_⟩
  obtain ⟨_, -, -, rfl⟩ := ofStep_eq_error.1 hr
  exact refl t'

/-- A step that is undone when it fails: the tree goes through the failure, and then through the
undoing, whatever becomes of that. -/
theorem within_orUndo (trans : ∀ {t t₁ t'}, R t t₁ → R t₁ t' → R t t') {step undo : Change Unit}
    (hs : Within R step) (hu : Within R undo) : Within R (orUndo step undo) := by
  refine ⟨fun h => hs.ok (orUndo_eq_ok h), fun h => ?_⟩
  obtain ⟨t₁, h₁, h₂ | ⟨e', h₂⟩⟩ := orUndo_eq_error h
  · exact trans (hs.error h₁) (hu.ok h₂)
  · exact trans (hs.error h₁) (hu.error h₂)

/-- To make directories yields one tree whether it succeeds or not, so one fact about that tree is
enough. -/
theorem within_makeDirectories_of (h : ∀ t, R t (t.makeDirectories p).2) :
    Within R (makeDirectories p) := by
  refine ⟨fun {t t' _} hr => ?_, fun {t t' _} hr => ?_⟩
  · have made := h t
    rwa [makeDirectories_eq_ok.1 hr] at made
  · have made := h t
    obtain ⟨_, failed, -⟩ := makeDirectories_eq_error.1 hr
    rwa [failed] at made

/-- To make the directory of a path is to do nothing or to make its parent. -/
theorem within_ensureParent_of (refl : ∀ t, R t t)
    (h : ∀ parent ∈ Path.parent? p, Within R (makeDirectories parent)) :
    Within R (ensureParent p) := by
  unfold ensureParent
  cases hp : Path.parent? p with
  | none => exact within_pure refl ()
  | some parent =>
    dsimp only
    split
    · exact within_pure refl ()
    · exact h parent hp

/-! ### The directories that changes make -/

/-- To make directories along one of the paths makes no others. -/
theorem within_makeDirectories (hp : p ∈ ps) : Within (MakesOnly ps) (makeDirectories p) := by
  have sub : [p] ⊆ ps := by simpa using hp
  exact within_makeDirectories_of fun t => (FileTree.makesOnly_makeDirectories t p).of_subset sub

/-- To make the directory of a path makes none but those on the way to that directory. -/
theorem within_ensureParent_parent (p : Path) :
    Within (MakesOnly (Path.parent? p).toList) (ensureParent p) :=
  within_ensureParent_of (MakesOnly.refl _) fun _ hp =>
    within_makeDirectories (Option.mem_toList.2 hp)

/-- So it makes none but those on the way to the path. -/
theorem within_ensureParent (hp : p ∈ ps) : Within (MakesOnly ps) (ensureParent p) := by
  have way {t t' : FileTree} (made : MakesOnly (Path.parent? p).toList t t') :
      MakesOnly ps t t' := by
    refine made.mono fun q hq l passes => ⟨p, hp, ?_⟩
    exact Path.passes_of_parent? (Option.mem_toList.1 hq) passes
  have made := within_ensureParent_parent p
  exact ⟨fun h => way (made.ok h), fun h => way (made.error h)⟩

/-- To write a file makes no directory. -/
theorem within_write (ps : List Path) (p : Path) (s : String) :
    Within (MakesOnly ps) (write p s) := by
  refine within_ofStep (MakesOnly.refl ps) (fun h => ?_) p
  obtain ⟨l, hl, -, rfl⟩ := FileTree.write_ok h
  exact FileTree.makesOnly_insert_file hl.ne_nil _

/-- To move a file makes no directory. -/
theorem within_rename (ps : List Path) (p q : Path) : Within (MakesOnly ps) (rename p q) := by
  refine within_ofStep (MakesOnly.refl ps) (fun h => ?_) q
  obtain ⟨l, l', c, hl, hl', -, -, rfl⟩ := FileTree.rename_ok h
  exact (FileTree.makesOnly_erase hl.ne_nil).trans (FileTree.makesOnly_insert_file hl'.ne_nil _)

/-- To remove a file makes no directory. -/
theorem within_remove (ps : List Path) (p : Path) :
    Within (MakesOnly ps) (ofStep p fun t => t.remove p) := by
  refine within_ofStep (MakesOnly.refl ps) (fun h => ?_) p
  obtain ⟨l, c, hl, -, rfl⟩ := FileTree.remove_ok h
  exact FileTree.makesOnly_erase hl.ne_nil

/-- To replace a file makes no directories but those that are made for it. -/
theorem within_replace_of_ensureParent (h : Within (MakesOnly ps) (ensureParent p)) (s : String) :
    Within (MakesOnly ps) (replace p s) := by
  -- A replacement makes the directory first; it then writes the draft, moves it, and removes it if
  -- it could not be moved.
  refine within_bind (R := MakesOnly ps) MakesOnly.trans h fun _ =>
    within_bind (R := MakesOnly ps) MakesOnly.trans (within_write ps _ s) fun _ =>
      within_orUndo (R := MakesOnly ps) MakesOnly.trans ?_ ?_
  · exact within_rename ps _ _
  · exact within_remove ps _

/-- To replace a file makes directories only on the way to it. -/
theorem within_replace (hp : p ∈ ps) (s : String) : Within (MakesOnly ps) (replace p s) :=
  within_replace_of_ensureParent (within_ensureParent hp) s

end Change

end RouterConf
