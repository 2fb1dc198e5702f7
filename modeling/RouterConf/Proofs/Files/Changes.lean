import RouterConf.Proofs.Files.Operations

/-!
# What changes do

A change is a chain of operations of which any may fail after others have taken effect. Which paths
it may touch is put together from its operations (`Change.Touches`), whatever becomes of it. What it
leaves when it succeeds, or when it fails, is said by one statement each.

Main statements: `Change.replace_ok`, `Change.replace_error_cases`, `Change.replace_error`,
`Change.removeIfPresent_ok`, `Change.pathExists_of_removeIfPresent`.
-/

namespace RouterConf

open FileTree (Denotes ChangesOnly)

variable {t t' : FileTree} {p q : Path} {ps : List Path} {l : Location}

/-! ### Steps one after the other -/

section Steps

variable {ε σ α β : Type} {m : EStateM ε σ α} {f : α → EStateM ε σ β} {s s' : σ}

/-- A chain succeeds if its first step does, and its rest from where that has left the state. -/
theorem run_bind_eq_ok {b : β} :
    (m >>= f) s = .ok b s' ↔ ∃ a s₁, m s = .ok a s₁ ∧ f a s₁ = .ok b s' := by
  change EStateM.bind m f s = .ok b s' ↔ _
  unfold EStateM.bind
  cases m s with
  | ok a s₁ => simp [and_assoc]
  | error e s₁ => simp

/-- A chain fails at its first step, or after it. -/
theorem run_bind_eq_error {e : ε} :
    (m >>= f) s = .error e s' ↔
      m s = .error e s' ∨ ∃ a s₁, m s = .ok a s₁ ∧ f a s₁ = .error e s' := by
  change EStateM.bind m f s = .error e s' ↔ _
  unfold EStateM.bind
  cases m s with
  | ok a s₁ => simp [and_assoc]
  | error e s₁ => simp

end Steps

namespace Change

/-- An operation as a change succeeds when the operation does. -/
theorem ofStep_eq_ok {step : FileTree → Except OsError FileTree} :
    ofStep p step t = .ok () t' ↔ step t = .ok t' := by
  unfold ofStep
  cases step t <;> simp

/-- An operation as a change fails with the path that it is for, and leaves the tree. -/
theorem ofStep_eq_error {step : FileTree → Except OsError FileTree} {e : FileFault} :
    ofStep p step t = .error e t' ↔ ∃ cause, step t = .error cause ∧ e = ⟨p, cause⟩ ∧ t' = t := by
  unfold ofStep
  cases step t <;> simp [eq_comm]

/-- To make directories as a change succeeds when they have been made. -/
theorem makeDirectories_eq_ok :
    makeDirectories p t = .ok () t' ↔ t.makeDirectories p = (.ok (), t') := by
  unfold makeDirectories
  rcases t.makeDirectories p with ⟨_ | _, t₁⟩ <;> simp

/-- To make directories as a change fails with the tree as it is by then. -/
theorem makeDirectories_eq_error {e : FileFault} :
    makeDirectories p t = .error e t' ↔
      ∃ cause, t.makeDirectories p = (.error cause, t') ∧ e = ⟨p, cause⟩ := by
  unfold makeDirectories
  rcases t.makeDirectories p with ⟨cause | _, t₁⟩
  · constructor
    · rintro ⟨⟩
      exact ⟨cause, rfl, rfl⟩
    · rintro ⟨_, h, rfl⟩
      cases h
      rfl
  · simp

/-- A directory that cannot be made is the one that the fault names. -/
theorem ensureParent_error {e : FileFault} (h : ensureParent p t = .error e t') :
    Path.parent? p = some e.path := by
  unfold ensureParent at h
  -- There is nothing to be made, or only the directory above is.
  cases hp : Path.parent? p with
  | none =>
    rw [hp] at h
    cases h
  | some parent =>
    rw [hp] at h
    dsimp only at h
    split at h
    · cases h
    · obtain ⟨_, -, rfl⟩ := makeDirectories_eq_error.1 h
      rfl

/-- **A change that touches nothing else.** Whether it succeeds or not, only what the paths denote
is changed, apart from new directories. -/
structure Touches {α : Type} (ps : List Path) (change : Change α) : Prop where
  ok : ∀ {t t' : FileTree} {a : α}, change t = .ok a t' → ChangesOnly ps t t'
  error : ∀ {t t' : FileTree} {e : FileFault}, change t = .error e t' → ChangesOnly ps t t'

namespace Touches

variable {α β : Type}

/-- What does nothing touches nothing. -/
theorem pure (a : α) : Touches ps (pure a : Change α) := by
  refine ⟨?_, ?_⟩
  · rintro t t' b ⟨⟩
    exact .refl ps t
  · rintro t t' e ⟨⟩

/-- **A chain touches what its steps touch**, wherever it ends. -/
theorem bind {m : Change α} {f : α → Change β} (hm : Touches ps m) (hf : ∀ a, Touches ps (f a)) :
    Touches ps (m >>= f) := by
  refine ⟨fun h => ?_, fun h => ?_⟩
  · obtain ⟨a, t₁, h₁, h₂⟩ := run_bind_eq_ok.1 h
    exact (hm.ok h₁).trans ((hf a).ok h₂)
  · -- If the rest fails, the first step has already touched something.
    rcases run_bind_eq_error.1 h with h₁ | ⟨a, t₁, h₁, h₂⟩
    · exact hm.error h₁
    · exact (hm.ok h₁).trans ((hf a).error h₂)

/-- An operation that changes nothing when it fails has to be looked at only where it succeeds. -/
theorem ofStep {step : FileTree → Except OsError FileTree}
    (h : ∀ {t t'}, step t = .ok t' → ChangesOnly ps t t') (p : Path) :
    Touches ps (Change.ofStep p step) := by
  refine ⟨fun hr => h (ofStep_eq_ok.1 hr), fun {t t' e} hr => ?_⟩
  obtain ⟨_, _, _, rfl⟩ := ofStep_eq_error.1 hr
  exact .refl ps t'

/-- To make directories touches no file. -/
theorem makeDirectories (p : Path) : Touches ps (Change.makeDirectories p) := by
  refine ⟨fun {t t' _} hr => ?_, fun {t t' _} hr => ?_⟩
  · have made := FileTree.changesOnly_makeDirectories t p ps
    rwa [makeDirectories_eq_ok.1 hr] at made
  · have made := FileTree.changesOnly_makeDirectories t p ps
    obtain ⟨_, h, _⟩ := makeDirectories_eq_error.1 hr
    rwa [h] at made

/-- To make the directory of a path touches no file. -/
theorem ensureParent (p : Path) : Touches ps (Change.ensureParent p) := by
  unfold Change.ensureParent
  split
  · exact .pure ()
  · split
    · exact .pure ()
    · exact .makeDirectories _

/-- To write touches the file that is written. -/
theorem write (p : Path) (s : String) (hp : p ∈ ps) : Touches ps (Change.write p s) := by
  refine .ofStep (fun h => ?_) p
  obtain ⟨l, hl, hn, rfl⟩ := FileTree.write_ok h
  exact FileTree.changesOnly_insert_file hl hn _ hp

/-- To move a file touches where it was and where it comes to. -/
theorem rename (hp : p ∈ ps) (hq : q ∈ ps) : Touches ps (Change.rename p q) := by
  refine .ofStep (fun h => ?_) q
  -- A file that is moved goes from the one location and comes to the other.
  obtain ⟨l, l', c, hl, hl', hc, hn, rfl⟩ := FileTree.rename_ok h
  have erased := FileTree.changesOnly_erase_file hl hc hp
  refine erased.trans (FileTree.changesOnly_insert_file (erased.denotes hl') ?_ _ hq)
  rw [FileTree.get?_erase _ hl.ne_nil]
  split
  · simp
  · exact hn

/-- To remove touches the file that is removed. -/
theorem remove (hp : p ∈ ps) : Touches ps (Change.ofStep p fun t => t.remove p) := by
  refine .ofStep (fun h => ?_) p
  obtain ⟨l, c, hl, hc, rfl⟩ := FileTree.remove_ok h
  exact FileTree.changesOnly_erase_file hl hc hp

end Touches

/-! ### Removing a file -/

/-- A removal that succeeds has taken a file away, or has found none. -/
theorem removeIfPresent_ok (h : removeIfPresent p t = .ok () t') :
    (∃ l c, t.Denotes p l ∧ t.get? l = some (.file c) ∧ t' = t.erase l) ∨
      t.remove p = .error .notFound ∧ t' = t := by
  unfold removeIfPresent at h
  split at h
  · cases h
    exact .inl (FileTree.remove_ok ‹_›)
  · cases h
    exact .inr ⟨‹_›, rfl⟩
  · cases h

/-- A removal that fails changes nothing. -/
theorem removeIfPresent_error {e : FileFault} (h : removeIfPresent p t = .error e t') :
    t' = t := by
  unfold removeIfPresent at h
  split at h <;> cases h
  rfl

/-- Removing a file makes no directory. -/
theorem grows_of_removeIfPresent (h : removeIfPresent p t = .ok () t') : FileTree.Grows t' t := by
  rcases removeIfPresent_ok h with ⟨l, c, hl, -, rfl⟩ | ⟨-, rfl⟩
  · exact FileTree.grows_of_erase hl.ne_nil
  · exact FileTree.Grows.refl _

/-- **A file that is to go** is gone, whether or not it was there. -/
theorem removeIfPresent_of_denotes (hd : t.Denotes p l) (hn : t.get? l ≠ some .directory) :
    ∃ t', removeIfPresent p t = .ok () t' ∧ t.Without [l] t' := by
  unfold removeIfPresent
  cases he : t.get? l with
  | none =>
    rw [FileTree.remove_of_none hd he]
    exact ⟨t, rfl, .of_none he⟩
  | some entry =>
    cases entry with
    | file c =>
      rw [FileTree.remove_of_file hd he]
      exact ⟨t.erase l, rfl, .erase hd.ne_nil⟩
    | directory => exact absurd he hn

/-- Without a file, a path that does not denote it leads where it led, or still nowhere. -/
theorem toOption_status_of_removeIfPresent (h : removeIfPresent q t = .ok () t')
    (apart : ∀ l, t.Denotes p l → ¬ t.Denotes q l) :
    (t'.status p).toOption = (t.status p).toOption := by
  rcases removeIfPresent_ok h with ⟨l, c, hl, hc, rfl⟩ | ⟨-, rfl⟩
  · exact FileTree.toOption_status_erase hl.ne_nil hc fun hp => apart l hp hl
  · rfl

/-- **What was to go is gone** under every path, and everything else is still there. -/
theorem pathExists_of_removeIfPresent (h : removeIfPresent q t = .ok () t') :
    t'.pathExists p = true ↔ t.pathExists p = true ∧ ¬ t.SamePlace p q := by
  by_cases same : t.SamePlace p q
  · have gone : t'.pathExists p = false := by
      -- The file has been taken away, or there was none to begin with.
      rcases removeIfPresent_ok h with ⟨l, c, hl, hc, rfl⟩ | ⟨missing, rfl⟩
      · exact FileTree.pathExists_eq_false
          ((FileTree.grows_erase_file hl.ne_nil hc).denotes (same.denotes_iff.2 hl))
          (by rw [FileTree.get?_erase _ hl.ne_nil, if_pos rfl])
      · rw [same.pathExists_eq]
        exact FileTree.pathExists_of_remove_eq_notFound missing
    simp [gone, same]
  · have apart : ∀ l, t.Denotes p l → ¬ t.Denotes q l := fun l hp hq => same (.inr ⟨l, hp, hq⟩)
    rw [FileTree.pathExists_congr (toOption_status_of_removeIfPresent h apart)]
    exact ⟨fun there => ⟨there, same⟩, And.left⟩

/-- To remove what may be there touches only that. -/
theorem Touches.removeIfPresent (hp : p ∈ ps) : Touches ps (Change.removeIfPresent p) := by
  refine ⟨fun {t t' _} h => ?_, fun {t t' e} h => ?_⟩
  · rcases removeIfPresent_ok h with ⟨l, c, hl, hc, rfl⟩ | ⟨-, rfl⟩
    · exact FileTree.changesOnly_erase_file hl hc hp
    · exact .refl ps t'
  · rw [removeIfPresent_error h]
    exact .refl ps t

/-! ### Replacing a file -/

/-- A step that may be undone succeeds when it need not be. -/
theorem orUndo_eq_ok {step undo : Change Unit} (h : orUndo step undo t = .ok () t') :
    step t = .ok () t' := by
  unfold orUndo at h
  split at h
  · rw [‹step t = _›]
    exact h
  · split at h <;> cases h

/-- A step that is undone fails with its own error, whatever becomes of the undoing. -/
theorem orUndo_eq_error {step undo : Change Unit} {e : FileFault}
    (h : orUndo step undo t = .error e t') :
    ∃ t₁, step t = .error e t₁ ∧ (undo t₁ = .ok () t' ∨ ∃ e', undo t₁ = .error e' t') := by
  unfold orUndo at h
  split at h
  · cases h
  · rename_i e₁ t₁ hs
    refine ⟨t₁, ?_⟩
    split at h <;> cases h
    · exact ⟨hs, .inl ‹_›⟩
    · exact ⟨hs, .inr ⟨_, ‹_›⟩⟩

/-- A step that may be undone touches what either of the two touches. -/
theorem Touches.orUndo {step undo : Change Unit} (hs : Touches ps step) (hu : Touches ps undo) :
    Touches ps (Change.orUndo step undo) := by
  refine ⟨fun h => hs.ok (orUndo_eq_ok h), fun h => ?_⟩
  obtain ⟨t₁, h₁, h₂ | ⟨e', h₂⟩⟩ := orUndo_eq_error h
  · exact (hs.error h₁).trans (hu.ok h₂)
  · exact (hs.error h₁).trans (hu.error h₂)

/-- A text that is written under one name and moved to another is there, and no longer here. -/
theorem write_rename_ok {s : String} {t₁ : FileTree} (hw : write q s t = .ok () t₁)
    (hr : rename q p t₁ = .ok () t') (apart : ∀ l, t'.Denotes q l → ¬ t'.Denotes p l) :
    t'.status p = .ok (.file (.text s)) ∧ ∃ l, t'.Denotes q l ∧ t'.get? l = none := by
  obtain ⟨l, hl, hn, ht₁⟩ := FileTree.write_ok (ofStep_eq_ok.1 hw)
  obtain ⟨l₁, l', c, hl₁, hl', hc, hn', rfl⟩ := FileTree.rename_ok (ofStep_eq_ok.1 hr)
  have written := (Touches.write q s (List.mem_singleton_self q)).ok hw
  have moved : ChangesOnly [q, p] t₁ _ := (Touches.rename (by simp) (by simp)).ok hr
  -- What is moved is what has just been written.
  obtain rfl := (written.denotes hl).unique hl₁
  rw [ht₁, FileTree.get?_insert _ hl.ne_nil, if_pos rfl] at hc
  cases hc
  have hq := moved.denotes hl₁
  have hp := moved.denotes hl'
  -- Where the two names led to one file, moving it would have left it at both.
  have hne : l ≠ l' := by
    rintro rfl
    exact apart l hq hp
  refine ⟨FileTree.status_eq_file_iff.2 ⟨l', hp, ?_⟩, l, hq, ?_⟩
  · rw [FileTree.get?_insert _ hl'.ne_nil, if_pos rfl]
  · rw [FileTree.get?_insert _ hl'.ne_nil, if_neg hne, FileTree.get?_erase _ hl.ne_nil, if_pos rfl]

/-- A draft is never where the file is that it is written for. -/
theorem draftOf_apart (p : Path) (hd : t.Denotes (draftOf p) l) : ¬ t'.Denotes p l := by
  intro hp
  -- The name of the draft is longer by its ending.
  have same := hd.getLast?.1.symm.trans hp.getLast?.1
  rw [draftOf, Path.lastSegment_append _ _ (by decide), Option.some.injEq,
    String.ofList_inj] at same
  have := congrArg List.length same
  simp at this

/-- To replace a file touches the file and its draft. -/
theorem Touches.replace (p : Path) (s : String) : Touches [p, draftOf p] (Change.replace p s) := by
  -- The directory, the draft, and the move, which is undone by removing the draft.
  refine .bind (.ensureParent p) fun _ => .bind (.write _ s (by simp)) fun _ => .orUndo ?_ ?_
  · exact .rename (by simp) (by simp)
  · exact .remove (by simp)

/-- **A file that is replaced** holds the new text, and its draft is gone. -/
theorem replace_ok {s : String} (h : replace p s t = .ok () t') :
    t'.status p = .ok (.file (.text s)) ∧ ∃ l, t'.Denotes (draftOf p) l ∧ t'.get? l = none := by
  -- The directory is made, the draft written, and the draft moved.
  obtain ⟨_, t₁, -, h⟩ := run_bind_eq_ok.1 h
  obtain ⟨_, t₂, hw, h⟩ := run_bind_eq_ok.1 h
  exact write_rename_ok hw (orUndo_eq_ok h) fun l => draftOf_apart p

/-- **How far a replacement gets that fails.** The directory cannot be made, or the draft cannot be
written, and then no file is changed. Or the draft has been written and cannot be moved, and then it
has been removed again. -/
theorem replace_error_cases {s : String} {e : FileFault} (h : replace p s t = .error e t') :
    (Path.parent? p = some e.path ∨ e.path = draftOf p) ∧ ChangesOnly [] t t' ∨
      e.path = p ∧ ∃ t₁ l, ChangesOnly [] t t₁ ∧ t₁.Denotes (draftOf p) l ∧
        t₁.get? l ≠ some .directory ∧ t' = (t₁.insert l (.file (.text s))).erase l := by
  rcases run_bind_eq_error.1 h with h | ⟨_, t₁, h₁, h⟩
  · have parent : ChangesOnly [] t t' := (Touches.ensureParent p).error h
    exact .inl ⟨.inl (ensureParent_error h), parent⟩
  have parent : ChangesOnly [] t t₁ := (Touches.ensureParent p).ok h₁
  rcases run_bind_eq_error.1 h with h | ⟨_, t₂, hw, h⟩
  · -- A draft that cannot be written changes nothing.
    obtain ⟨_, -, rfl, rfl⟩ := ofStep_eq_error.1 h
    exact .inl ⟨.inr rfl, parent⟩
  have written := (Touches.write (draftOf p) s (List.mem_singleton_self _)).ok hw
  obtain ⟨l, hl, hn, rfl⟩ := FileTree.write_ok (ofStep_eq_ok.1 hw)
  obtain ⟨t₃, hr, undone⟩ := orUndo_eq_error h
  obtain ⟨_, -, rfl, rfl⟩ := ofStep_eq_error.1 hr
  -- The draft has just been written, so it can be removed.
  have hc : (t₁.insert l (.file (.text s))).get? l = some (.file (.text s)) := by
    rw [FileTree.get?_insert _ hl.ne_nil, if_pos rfl]
  have removed := FileTree.remove_of_file (written.denotes hl) hc
  rcases undone with undone | ⟨_, undone⟩
  · have same := ofStep_eq_ok.1 undone
    rw [removed] at same
    exact .inr ⟨rfl, t₁, l, parent, hl, hn, (Except.ok.inj same).symm⟩
  · obtain ⟨_, failed, -⟩ := ofStep_eq_error.1 undone
    rw [removed] at failed
    cases failed

/-- What has been written where no directory is and removed again is gone, and all else is as it
was. -/
theorem changesOnly_insert_erase (hd : t.Denotes p l) (hn : t.get? l ≠ some .directory)
    (c : FileContent) : ChangesOnly [p] t ((t.insert l (.file c)).erase l) := by
  have written := FileTree.changesOnly_insert_file hd hn c (List.mem_singleton_self p)
  have there : (t.insert l (.file c)).get? l = some (.file c) := by
    rw [FileTree.get?_insert _ hd.ne_nil, if_pos rfl]
  exact written.trans (FileTree.changesOnly_erase_file (written.denotes hd) there (by simp))

/-- **A file that is not replaced** is as it was, and so is every other, except that nothing is left
of a draft that may have been there. -/
theorem replace_error {s : String} {e : FileFault} (h : replace p s t = .error e t') :
    ChangesOnly [draftOf p] t t' ∧
      ∀ {l c}, t'.get? l = some (.file c) → t.get? l = some (.file c) := by
  rcases replace_error_cases h with ⟨-, parent⟩ | ⟨-, t₁, l, parent, hl, hn, rfl⟩
  · exact ⟨parent.mono (by simp), (parent.get?_file (by simp)).1⟩
  · refine ⟨(parent.mono (by simp)).trans (changesOnly_insert_erase hl hn _), fun {l' c} hl' => ?_⟩
    -- What is there now is not the draft, and so it was there before the draft was written.
    rw [FileTree.get?_erase _ hl.ne_nil] at hl'
    split_ifs at hl' with hne
    rw [FileTree.get?_insert _ hl.ne_nil, if_neg hne] at hl'
    exact (parent.get?_file (by simp)).1 hl'

end Change

end RouterConf
