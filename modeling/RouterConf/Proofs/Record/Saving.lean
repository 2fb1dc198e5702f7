import RouterConf.Proofs.Files.Replacement
import RouterConf.Proofs.Files.Settled
import RouterConf.Proofs.Record.Store

/-!
# Records that cannot be saved

To save a record is to make the directory of the records, to write a draft there, and to move the
draft into the place of the record. If the directory cannot be made or the draft not be written, no
file is changed. Once the draft has been written, there is only one thing that can go wrong: the
draft lies beside the record under a longer name (`RecordStore.draftOf_eq`), so the place of the
record can be reached, and the move fails only if a directory is there.

In that case the draft is left where it is (`RecordStore.Stranded`), unlike that of a configuration,
which goes again (`Change.Refused`).

Main statements: `RecordStore.save_error_cases`, `RecordStore.save_failure`.
-/

namespace RouterConf.RecordStore

open FileTree (ChangesOnly MakesOnly)
open Change (Within)

variable {store : RecordStore} {id : SectionId} {t t' : FileTree} {l : Location} {e : FileFault}
  {paths : InstancePaths} {now : Timestamp}

/-! ### The draft beside the record -/

/-- The path of a record ends in a name. -/
theorem named_pathOf (store : RecordStore) (id : SectionId) :
    Path.isIdle (store.pathOf id).lastSegment = false ∧
      (store.pathOf id).lastSegment ≠ ['.', '.'] :=
  Path.named_of_suffix (suffix_lastSegment_pathOf store id) (by decide)

/-- The draft has the name of the record with something behind it, unless it leads upward. -/
theorem draftOf_eq (h : (store.draftOf id).lastSegment ≠ ['.', '.']) :
    ∃ w : String, '/' ∉ w.toList ∧ store.draftOf id = store.pathOf id ++ w := by
  obtain ⟨stem, ends⟩ := suffix_lastSegment_pathOf store id
  have split : (store.pathOf id).lastSegment = stem ++ '.' :: ['j', 's', 'o', 'n'] := ends.symm
  by_cases front : stem = []
  · rw [front, List.nil_append] at split
    exact ⟨_, by decide, Path.withExtension_of_front split (by decide) (by decide)⟩
  by_cases dot : stem = ['.']
  · -- A name of two dots is what is left of `..json`.
    rw [dot] at split
    refine absurd ?_ h
    rw [draftOf, Path.withExtension, Path.segments_reverse, split]
    exact Path.lastSegment_ofReversed (by decide) _
  · exact ⟨_, by decide, Path.withExtension_extended (w := ".tmp") split (by decide) front dot
      (by decide)⟩

/-- Where a draft can be, a record can be. -/
theorem exists_denotes_pathOf (h : t.Denotes (store.draftOf id) l) :
    ∃ l', t.Denotes (store.pathOf id) l' := by
  obtain ⟨w, slashless, beside⟩ := draftOf_eq h.getLast?.2
  rw [beside] at h
  -- A name that is shorter fits where the longer one does.
  obtain ⟨active, named⟩ := named_pathOf store id
  exact FileTree.exists_denotes_of_append active named slashless h

/-! ### What is left -/

/-- A save makes no directory but that of the records and those on the way to it. -/
theorem within_save (store : RecordStore) (id : SectionId) (paths : InstancePaths)
    (now : Timestamp) : Within (MakesOnly [store.directory]) (store.save id paths now) := by
  have made := Change.within_makeDirectories (List.mem_singleton_self store.directory)
  refine Change.within_bind (R := MakesOnly [store.directory]) MakesOnly.trans made fun _ =>
    Change.within_bind (R := MakesOnly [store.directory]) MakesOnly.trans ?_ fun _ =>
      Change.within_bind (R := MakesOnly [store.directory]) MakesOnly.trans ?_ fun _ => ?_
  · exact Change.within_write _ _ _
  · exact Change.within_rename _ _ _
  · exact Change.within_pure (MakesOnly.refl _) _

/-- **How far a save gets that fails.** Either no file is touched, or a directory is in the place of
the record, and the draft that has been written is left. -/
theorem save_error_cases (h : store.save id paths now t = .error e t') :
    ChangesOnly [] t t' ∨
      e = ⟨store.pathOf id, .isADirectory⟩ ∧ t'.isDirectory (store.pathOf id) = true ∧
        t'.status (store.draftOf id) = .ok (.file (.text (ApplyRecord.text ⟨id, now, paths⟩))) := by
  rcases run_bind_eq_error.1 h with h | ⟨_, t₁, h₁, h⟩
  · exact .inl ((Change.Touches.makeDirectories _).error h)
  have made : ChangesOnly [] t t₁ := (Change.Touches.makeDirectories _).ok h₁
  rcases run_bind_eq_error.1 h with h | ⟨_, t₂, hw, h⟩
  · -- A draft that cannot be written changes nothing.
    obtain ⟨_, -, -, rfl⟩ := Change.ofStep_eq_error.1 h
    exact .inl made
  have written := (Change.Touches.write _ _ (List.mem_singleton_self _)).ok hw
  obtain ⟨l, hl, -, ht₂⟩ := FileTree.write_ok (Change.ofStep_eq_ok.1 hw)
  have draft := written.denotes hl
  have held : t₂.get? l = some (.file (.text (ApplyRecord.text ⟨id, now, paths⟩))) := by
    rw [ht₂, FileTree.get?_insert _ hl.ne_nil, if_pos rfl]
  -- The place of the record can be reached, so only a directory there is in the way.
  obtain ⟨l', place⟩ := exists_denotes_pathOf draft
  rcases run_bind_eq_error.1 h with h | ⟨_, _, -, h⟩
  · obtain ⟨cause, hr, rfl, rfl⟩ := Change.ofStep_eq_error.1 h
    -- Anything but a directory would have given way to the draft.
    have there : t'.get? l' = some .directory := by
      by_contra free
      rw [FileTree.rename_of_denotes draft held place free] at hr
      cases hr
    rw [FileTree.rename_of_directory draft held place there] at hr
    cases hr
    exact .inr ⟨rfl, FileTree.isDirectory_of_denotes place there,
      FileTree.status_eq_file_iff.2 ⟨l, draft, held⟩⟩
  · cases h

/-- **A record whose draft has been stranded**: the draft holds the whole text, and cannot take the
place of the record, since a directory is there. -/
structure Stranded (store : RecordStore) (r : ApplyRecord) (e : FileFault) (t t' : FileTree) :
    Prop where
  fault : e = ⟨store.pathOf r.section_, .isADirectory⟩
  blocked : t'.isDirectory (store.pathOf r.section_) = true
  draft : t'.status (store.draftOf r.section_) = .ok (.file (.text r.text))
  others : t.Spares [store.draftOf r.section_] [store.directory] t'

/-- **What a save leaves that fails.** As long as no directory is in the place of the record, every
file is as it was and none is new, and no directory is new but that of the records and those that
lead there. If one is in that place, the draft may be stranded, and nothing else is changed. -/
theorem save_failure (h : store.save id paths now t = .error e t') :
    (t'.isDirectory (store.pathOf id) = false →
      (∀ l c, t'.get? l = some (.file c) ↔ t.get? l = some (.file c)) ∧
        t.Spares [] [store.directory] t') ∧
    (t.Spares [] [store.directory] t' ∨ Stranded store ⟨id, now, paths⟩ e t t') := by
  have made := (within_save store id paths now).error h
  -- Files are only touched once the draft is written, and then a directory is in the way.
  rcases save_error_cases h with kept | ⟨fault, blocked, draft⟩
  · have spared : t.Spares [] [store.directory] t' := .of_changesOnly kept made
    exact ⟨fun _ => ⟨fun l c => kept.get?_file (by simp), spared⟩, .inl spared⟩
  · refine ⟨fun free => ?_, .inr ⟨fault, blocked, draft, .of_changesOnly (save_error h) made⟩⟩
    rw [blocked] at free
    cases free

/-! ### Two trees on which a save fails -/

/-- A file is in the place of the directory of the records. -/
def storeBlocked : FileTree where
  home := []
  entries := [(["state"], .file (.text ""))]

/-- A directory is in the place of a record. -/
def recordBlocked : FileTree where
  home := []
  entries := [(["state"], .directory), (["state", "dnsmasq-main.json"], .directory)]

/-- Where the directory cannot be made, all files are as they were. -/
theorem save_failure_storeBlocked : ∃ e t',
    save ⟨"state"⟩ ⟨.dnsmasq, "main"⟩ ⟨"c", "l", "p"⟩ .epoch storeBlocked = .error e t' ∧
      ∀ l c, t'.get? l = some (.file c) ↔ storeBlocked.get? l = some (.file c) := by
  have blocked : save ⟨"state"⟩ ⟨.dnsmasq, "main"⟩ ⟨"c", "l", "p"⟩ .epoch storeBlocked =
      .error ⟨"state", .alreadyExists⟩ storeBlocked := rfl
  exact ⟨_, _, blocked, ((save_failure blocked).1 rfl).1⟩

/-- The draft of a record that is blocked stays where it is. -/
theorem save_recordBlocked : ∃ e t' c,
    save ⟨"state"⟩ ⟨.dnsmasq, "main"⟩ ⟨"c", "l", "p"⟩ .epoch recordBlocked = .error e t' ∧
      t'.get? ["state", "dnsmasq-main.json.tmp"] = some (.file c) :=
  ⟨_, _, _, rfl, rfl⟩

/-- **A save that fails may leave its draft.** -/
theorem save_strands_draft :
    ¬ ∀ (store : RecordStore) (id : SectionId) (paths : InstancePaths) (now : Timestamp)
      (t t' : FileTree) (e : FileFault), store.save id paths now t = .error e t' →
        ∀ l c, t'.get? l = some (.file c) ↔ t.get? l = some (.file c) := by
  intro kept
  obtain ⟨e, t', c, stranded, there⟩ := save_recordBlocked
  have before := (kept _ _ _ _ _ _ _ stranded _ _).1 there
  cases before

end RouterConf.RecordStore
