import RouterConf.Proofs.Files.Correspondence
import RouterConf.Proofs.Record.Store

/-!
# Records at other times

A record holds the time at which it was kept, and nothing reads that time. Trees whose files are the
same but for the times in records are alike to the store: what is loaded names the same paths, and
keeping or dropping a record ends alike.

Main statements: `RecordStore.load_cases`, `RecordStore.parallel_save`.
-/

namespace RouterConf

/-- The same content, or two records of the same paths that were kept at different times. -/
def FileContent.SameButTime (c c' : FileContent) : Prop :=
  c = c' ∨ ∃ (id : SectionId) (paths : InstancePaths) (now now' : Timestamp),
    now.isValid = true ∧ now'.isValid = true ∧
      c = .text (ApplyRecord.text ⟨id, now, paths⟩) ∧
      c' = .text (ApplyRecord.text ⟨id, now', paths⟩)

namespace RecordStore

open FileContent (SameButTime)
open Change (InParallel)

variable {t t' : FileTree}

/-- **What is loaded is the same but for its time.** -/
theorem load_cases (store : RecordStore) (id : SectionId) (h : t.Corresponds SameButTime t') :
    (∃ e, store.load id t = .error e ∧ store.load id t' = .error e) ∨
      store.load id t = .ok none ∧ store.load id t' = .ok none ∨
      ∃ r r', store.load id t = .ok (some r) ∧ store.load id t' = .ok (some r') ∧
        r.section_ = r'.section_ ∧ r.paths = r'.paths := by
  rcases h.status_cases (store.pathOf id) with ⟨e, hs, hs'⟩ | ⟨hs, hs'⟩ | ⟨c, c', hc, hs, hs'⟩
  · -- No file, no record; a directory cannot be read; a file holds the same text, or two
    -- records that differ in their times.
    refine .inr (.inl ⟨load_of_missing ?_, load_of_missing ?_⟩) <;> simp [FileTree.pathExists, *]
  · refine .inl ⟨.io ⟨store.pathOf id, .isADirectory⟩, ?_, ?_⟩ <;>
      simp [load, FileTree.pathExists, FileTree.readText, FileTree.read, bind, Except.bind, *]
  · rcases hc with rfl | ⟨id', paths, now, now', hn, hn', rfl, rfl⟩
    · rw [load_eq_of_toOption (congrArg Except.toOption (hs.trans hs'.symm))]
      rcases store.load id t' with e | _ | r
      · exact .inl ⟨e, rfl, rfl⟩
      · exact .inr (.inl ⟨rfl, rfl⟩)
      · exact .inr (.inr ⟨r, r, rfl, rfl, rfl, rfl⟩)
    · exact .inr (.inr ⟨_, _, load_of_text hs (ApplyRecord.ofText?_text hn),
        load_of_text hs' (ApplyRecord.ofText?_text hn'), rfl, rfl⟩)

/-- A record that is kept at two times on trees that are the same but for times. -/
theorem parallel_save (store : RecordStore) (id : SectionId) (paths : InstancePaths)
    {now now' : Timestamp} (hn : now.isValid = true) (hn' : now'.isValid = true) :
    InParallel SameButTime (store.save id paths now) (store.save id paths now') :=
  .bind (InParallel.makeDirectories _) fun _ =>
    .bind (InParallel.write _ (.inr ⟨id, paths, now, now', hn, hn', rfl, rfl⟩)) fun _ =>
      .bind (InParallel.rename _ _) fun _ => .pure trivial

/-- A record that is dropped from trees that are the same but for times. -/
theorem parallel_remove (store : RecordStore) (id : SectionId) :
    InParallel SameButTime (store.remove id) (store.remove id) :=
  InParallel.removeIfPresent _

end RecordStore

end RouterConf
