import RouterConf.Proofs.Files.Changes
import RouterConf.Proofs.Record.RoundTrip

/-!
# Records among files

A record is kept in a file of its own, which is written under another name first. The file of a
record ends in `.json` and its draft in `.json.tmp`, so that no draft is ever taken for a record;
and a record that has been saved is what is loaded from then on, until something touches its file.

Main statements: `RecordStore.load_of_save`, `RecordStore.save_error`, `RecordStore.load_of_remove`,
`RecordStore.load_of_remove_cases`, `RecordStore.load_of_changesOnly`.
-/

namespace RouterConf

/-- No type has a dash, so that a key tells type and name apart. -/
theorem SectionId.eq_of_fileKey_eq {id id' : SectionId} (h : id.fileKey = id'.fileKey) :
    id = id' := by
  obtain ⟨k, n⟩ := id
  obtain ⟨k', n'⟩ := id'
  have chars : k.type.toList ++ '-' :: n.toList = k'.type.toList ++ '-' :: n'.toList := by
    simpa [fileKey, String.toList_append] using congrArg String.toList h
  have types : ∀ k : SectionKind, '-' ∉ k.type.toList := by
    intro k
    cases k <;> decide
  -- What stands before the first dash is the type; a name may have dashes of its own.
  have parts := congrArg (Text.splitOn '-') chars
  rw [Text.splitOn_append_cons, Text.splitOn_append_cons, Text.splitOn_of_notMem (types k),
    Text.splitOn_of_notMem (types k')] at parts
  have hk := (List.cons.inj parts).1
  rw [hk, List.append_cancel_left_eq, List.cons.injEq] at chars
  -- No two kinds have one type.
  have kinds : k = k' := by
    revert hk
    cases k <;> cases k' <;> decide
  rw [kinds, String.toList_inj.1 chars.2]

namespace RecordStore

open FileTree (Denotes ChangesOnly)
open Change (Touches)

variable {store : RecordStore} {id id' : SectionId} {t t' : FileTree} {ps : List Path}
  {l : Location} {r : ApplyRecord} {paths : InstancePaths} {now : Timestamp}

/-! ### Names of records and drafts -/

/-- A record ends in `.json`. -/
theorem suffix_lastSegment_pathOf (store : RecordStore) (id : SectionId) :
    ".json".toList <:+ (store.pathOf id).lastSegment :=
  Path.suffix_lastSegment_join _ _ _ (by decide)

/-- A draft ends in `.json.tmp`, unless the record has a name of dots that the draft leads upward
for. -/
theorem lastSegment_draftOf (store : RecordStore) (id : SectionId) :
    (store.draftOf id).lastSegment = ['.', '.'] ∨
      ".json.tmp".toList <:+ (store.draftOf id).lastSegment := by
  obtain ⟨stem, h⟩ := suffix_lastSegment_pathOf store id
  have ends := Path.lastSegment_withExtension h.symm (by decide)
    (show '/' ∉ "json.tmp".toList by decide)
  exact ends

/-- A draft that is anywhere ends in `.json.tmp`. -/
theorem suffix_of_denotes_draftOf (h : t.Denotes (store.draftOf id) l) :
    ".json.tmp".toList <:+ (store.draftOf id).lastSegment :=
  (lastSegment_draftOf store id).resolve_left h.getLast?.2

/-- The draft of a record is never where a record is. -/
theorem draftOf_apart (h : t.Denotes (store.draftOf id) l) :
    ¬ t'.Denotes (store.pathOf id') l := fun h' =>
  h.ne_of_suffix h' (suffix_of_denotes_draftOf h) (suffix_lastSegment_pathOf store id')
    (by decide) (by decide) rfl

/-- Neither the type nor the name brings a slash, so the name of the file is the key. -/
theorem lastSegment_pathOf (store : RecordStore) (h : '/' ∉ id.name.toList) :
    (store.pathOf id).lastSegment = (id.fileKey ++ ".json").toList := by
  refine Path.lastSegment_join _ ?_
  have slashless : '/' ∉ id.kind.type.toList := by cases id.kind <;> decide
  simp [SectionId.fileKey, String.toList_append, slashless, h]

/-- **Records have files of their own.** If no name has a slash in it, the records of two identities
are never in one place. -/
theorem pathOf_apart (hn : '/' ∉ id.name.toList) (hn' : '/' ∉ id'.name.toList) (hne : id ≠ id')
    (h : t.Denotes (store.pathOf id) l) : ¬ t'.Denotes (store.pathOf id') l := by
  intro h'
  -- In one place there is one last name, and that is the key with its ending.
  have same := h.getLast?.1.symm.trans h'.getLast?.1
  rw [lastSegment_pathOf store hn, lastSegment_pathOf store hn', String.ofList_toList,
    String.ofList_toList, Option.some.injEq, ← String.toList_inj, String.toList_append,
    String.toList_append, List.append_cancel_right_eq, String.toList_inj] at same
  exact hne (SectionId.eq_of_fileKey_eq same)

/-! ### Saving and removing -/

/-- A save touches the record and its draft only. -/
theorem touches_save (store : RecordStore) (id : SectionId) (paths : InstancePaths)
    (now : Timestamp) : Touches [store.pathOf id, store.draftOf id] (store.save id paths now) := by
  refine .bind (.makeDirectories _) fun _ => .bind (.write _ _ (by simp)) fun _ =>
    .bind (.rename (by simp) (by simp)) fun _ => .pure _

/-- **A record that is saved** is in its file, and its draft is gone. -/
theorem save_ok (h : store.save id paths now t = .ok r t') :
    r = ⟨id, now, paths⟩ ∧ t'.status (store.pathOf id) = .ok (.file (.text r.text)) ∧
      ∃ l, t'.Denotes (store.draftOf id) l ∧ t'.get? l = none := by
  obtain ⟨_, t₁, -, h⟩ := run_bind_eq_ok.1 h
  obtain ⟨_, t₂, hw, h⟩ := run_bind_eq_ok.1 h
  obtain ⟨_, t₃, hr, h⟩ := run_bind_eq_ok.1 h
  cases h
  exact ⟨rfl, Change.write_rename_ok hw hr fun l => draftOf_apart⟩

/-- **A record that is not saved** leaves every file but its draft as it was. -/
theorem save_error {e : FileFault} (h : store.save id paths now t = .error e t') :
    ChangesOnly [store.draftOf id] t t' := by
  rcases run_bind_eq_error.1 h with h | ⟨_, t₁, h₁, h⟩
  · exact (Touches.makeDirectories _).error h
  have made : ChangesOnly [store.draftOf id] t t₁ := (Touches.makeDirectories _).ok h₁
  rcases run_bind_eq_error.1 h with h | ⟨_, t₂, hw, h⟩
  · exact made.trans ((Touches.write _ _ (by simp)).error h)
  have written : ChangesOnly [store.draftOf id] t₁ t₂ := (Touches.write _ _ (by simp)).ok hw
  rcases run_bind_eq_error.1 h with h | ⟨_, t₃, -, h⟩
  · -- A record that is not moved into place has been written as a draft.
    obtain ⟨_, -, -, rfl⟩ := Change.ofStep_eq_error.1 h
    exact made.trans written
  · cases h

/-- A remove touches the record only. -/
theorem touches_remove (store : RecordStore) (id : SectionId) :
    Touches [store.pathOf id] (store.remove id) :=
  .removeIfPresent (by simp)

/-! ### Loading -/

/-- What is loaded is what the file holds. -/
theorem load_eq_some_iff : store.load id t = .ok (some r) ↔
    ∃ s, t.status (store.pathOf id) = .ok (.file (.text s)) ∧ ApplyRecord.ofText? s = some r := by
  constructor
  · intro h
    unfold load at h
    dsimp only at h
    split at h
    · split at h
      · cases h
      · split at h
        · cases h
        · cases h
          exact ⟨_, FileTree.readText_eq_ok_iff.1 ‹_›, ‹_›⟩
    · cases h
  · rintro ⟨s, hs, hr⟩
    exact load_of_text hs hr

/-- **A record that has been saved is loaded.** -/
theorem load_of_save (hn : now.isValid = true) (h : store.save id paths now t = .ok r t') :
    store.load id t' = .ok (some ⟨id, now, paths⟩) := by
  obtain ⟨rfl, hs, -⟩ := save_ok h
  exact load_of_text hs (ApplyRecord.ofText?_text hn)

/-- **A record whose file is not touched** is loaded as before. -/
theorem load_of_changesOnly (h : ChangesOnly ps t t')
    (apart : ∀ p ∈ ps, ∀ l, t'.Denotes (store.pathOf id) l → ¬ t'.Denotes p l)
    (hr : store.load id t = .ok (some r)) : store.load id t' = .ok (some r) := by
  -- The file still holds the text that the record was read from.
  obtain ⟨s, hs, hr⟩ := load_eq_some_iff.1 hr
  exact load_of_text (h.status_file hs apart) hr

/-- **A record that has been removed** is no longer loaded. -/
theorem load_of_remove (h : store.remove id t = .ok () t') : store.load id t' = .ok none := by
  refine load_of_missing ?_
  -- Either a file was taken away or there was none.
  rcases Change.removeIfPresent_ok h with ⟨l, c, hl, hc, rfl⟩ | ⟨missing, rfl⟩
  · have erased := FileTree.changesOnly_erase_file hl hc (List.mem_singleton_self _)
    refine FileTree.pathExists_eq_false (erased.denotes hl) ?_
    rw [FileTree.get?_erase _ hl.ne_nil, if_pos rfl]
  · exact FileTree.pathExists_of_remove_eq_notFound missing

/-- Loading does not ask why a path leads nowhere. -/
theorem load_eq_of_toOption
    (h : (t'.status (store.pathOf id)).toOption = (t.status (store.pathOf id)).toOption) :
    store.load id t' = store.load id t := by
  unfold load FileTree.pathExists FileTree.readText FileTree.read
  dsimp only
  rcases hs : t.status (store.pathOf id) with e | entry <;>
    rcases hs' : t'.status (store.pathOf id) with e' | entry' <;> rw [hs, hs'] at h <;>
    cases h <;> rfl

/-- **When a record is removed**, another that is in the same file is no longer loaded either, and
any other is loaded, or cannot be loaded, as before. -/
theorem load_of_remove_cases (h : store.remove id t = .ok () t') (id' : SectionId) :
    store.load id' t' = store.load id' t ∨
      store.load id' t' = .ok none ∧
        ∃ l, t.Denotes (store.pathOf id') l ∧ t.Denotes (store.pathOf id) l := by
  rcases Change.removeIfPresent_ok h with ⟨l, c, hl, hc, rfl⟩ | ⟨-, rfl⟩
  · -- What goes is one file, and a path that is not to it leads where it led.
    by_cases hl' : t.Denotes (store.pathOf id') l
    · have erased := (FileTree.grows_erase_file hl.ne_nil hc).denotes hl'
      refine .inr ⟨load_of_missing (FileTree.pathExists_eq_false erased ?_), l, hl', hl⟩
      rw [FileTree.get?_erase _ hl.ne_nil, if_pos rfl]
    · exact .inl (load_eq_of_toOption (FileTree.toOption_status_erase hl.ne_nil hc hl'))
  · exact .inl rfl

end RecordStore

end RouterConf
