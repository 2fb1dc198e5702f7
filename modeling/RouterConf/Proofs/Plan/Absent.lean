import RouterConf.Host.Minimal
import RouterConf.Plan.System
import RouterConf.Proofs.Files.Absence
import RouterConf.Proofs.Record.Store

/-!
# Tearing down what is not there

A teardown asks a process to end, removes files, and gives up a record. Each of the three counts as
done if there is nothing to be done. But whether nothing is there is found out in different ways: a
record is looked for at its path, while the other steps go ahead and look at the error.

So they agree only if something is missing on the way (`FileTree.Absence` with `.notFound`). Then
all of them succeed and change nothing. If the path is not even led to what is missing, since a file
is in the way or a name is too long, a record is still taken as never made, but to remove it is an
error, and so it is to remove a file or to look for a process.

Main statement: `Executor.teardown_absent_exact`.
-/

namespace RouterConf

variable {t : FileTree} {p : Path} {e : OsError} {m : Machine} {store : RecordStore}
  {id : SectionId}

/-- Where nothing is, only what is missing counts as removed. -/
theorem Change.removeIfPresent_of_absence (h : t.Absence p e) :
    removeIfPresent p t = if e = .notFound then .ok () t else .error ⟨p, e⟩ t := by
  rw [removeIfPresent, FileTree.remove_of_status_error h.status_eq]
  cases e <;> rfl

/-- Every reason why nothing is at its path makes a record one that was never made. -/
theorem RecordStore.load_eq_none_iff :
    store.load id t = .ok none ↔ ∃ e, t.Absence (store.pathOf id) e := by
  rw [← FileTree.pathExists_eq_false_iff]
  refine ⟨fun h => ?_, load_of_missing⟩
  rw [Bool.eq_false_iff]
  intro there
  unfold load at h
  dsimp only at h
  rw [if_pos there] at h
  -- Whatever is there is either a record or an error.
  split at h
  · cases h
  · split at h <;> cases h

namespace Executor

variable {host : Host}

/-- So it is with the action that removes a file, -/
theorem removeFile_of_absence (h : m.files.Absence p e) : system host (.removeFile p) m =
    if e = .notFound then .ok () m else .error (.io ⟨p, e⟩) m := by
  simp only [system, onFiles, Change.removeIfPresent_of_absence h]
  by_cases missing : e = .notFound
  · simp only [missing, if_true]
  · simp only [missing, if_false]

/-- and with the one that asks a process to end, since it has to read the file first. -/
theorem killPidFile_of_absence (h : m.files.Absence p e) : system host (.killPidFile p) m =
    if e = .notFound then .ok () m else .error (.io ⟨p, e⟩) m := by
  simp only [system, killPidFile, FileTree.readText_eq, h.status_eq]
  cases e <;> rfl

/-- **Tearing down where nothing is.** If something is missing on the way, it succeeds and changes
nothing, be it a file, a process or a record. For any other reason why nothing is there, it fails
with that reason at the path, and changes nothing either, although a record is not found for any of
these reasons. -/
theorem teardown_absent_exact (host : Host) (m : Machine) :
    (∀ p, m.files.pathExists p = false ↔ ∃ e, m.files.Absence p e) ∧
      (∀ p, m.files.Absence p .notFound →
        system host (.removeFile p) m = .ok () m ∧ system host (.killPidFile p) m = .ok () m) ∧
      (∀ p e, m.files.Absence p e → e ≠ .notFound →
        system host (.removeFile p) m = .error (.io ⟨p, e⟩) m ∧
          system host (.killPidFile p) m = .error (.io ⟨p, e⟩) m) ∧
      ∀ (store : RecordStore) id,
        (store.load id m.files = .ok none ↔ ∃ e, m.files.Absence (store.pathOf id) e) ∧
          (m.files.Absence (store.pathOf id) .notFound →
            store.remove id m.files = .ok () m.files) ∧
          ∀ e, m.files.Absence (store.pathOf id) e → e ≠ .notFound →
            store.remove id m.files = .error ⟨store.pathOf id, e⟩ m.files := by
  refine ⟨fun p => FileTree.pathExists_eq_false_iff, fun p h => ?_, fun p e h other => ?_,
    fun store id => ⟨RecordStore.load_eq_none_iff, fun h => ?_, fun e h other => ?_⟩⟩
  · exact ⟨removeFile_of_absence h, killPidFile_of_absence h⟩
  · rw [removeFile_of_absence h, killPidFile_of_absence h, if_neg other]
    exact ⟨rfl, rfl⟩
  · exact Change.removeIfPresent_of_absence h
  · exact (Change.removeIfPresent_of_absence h).trans (if_neg other)

/-- A tree with one file, which some paths go on behind. -/
def fileAsDirectory : FileTree where
  home := []
  entries := [(["f"], .file (.text "x"))]

/-- Beside the file a path is missing, and behind it a path is in the file. -/
theorem absence_fileAsDirectory : fileAsDirectory.Absence "d/gone" .notFound ∧
    fileAsDirectory.Absence "f/gone" .notADirectory :=
  ⟨FileTree.status_eq_error_iff.1 rfl, FileTree.status_eq_error_iff.1 rfl⟩

/-- All succeeds beside the file; behind it nothing does, though no record is found there. -/
theorem teardown_absent_exact_fileAsDirectory :
    system .minimal (.removeFile "d/gone") ⟨fileAsDirectory, []⟩ = .ok () ⟨fileAsDirectory, []⟩ ∧
      system .minimal (.killPidFile "d/gone") ⟨fileAsDirectory, []⟩ =
        .ok () ⟨fileAsDirectory, []⟩ ∧
      system .minimal (.removeFile "f/gone") ⟨fileAsDirectory, []⟩ =
        .error (.io ⟨"f/gone", .notADirectory⟩) ⟨fileAsDirectory, []⟩ ∧
      RecordStore.load ⟨"f"⟩ ⟨.dnsmasq, "m"⟩ fileAsDirectory = .ok none ∧
      RecordStore.remove ⟨"f"⟩ ⟨.dnsmasq, "m"⟩ fileAsDirectory =
        .error ⟨"f/dnsmasq-m.json", .notADirectory⟩ fileAsDirectory := by
  obtain ⟨missing, inFile⟩ := absence_fileAsDirectory
  -- The path of the record goes on behind the file as well.
  have record : fileAsDirectory.Absence (RecordStore.pathOf ⟨"f"⟩ ⟨.dnsmasq, "m"⟩) .notADirectory :=
    FileTree.status_eq_error_iff.1 rfl
  obtain ⟨-, done, failed, records⟩ := teardown_absent_exact .minimal ⟨fileAsDirectory, []⟩
  obtain ⟨loaded, -, kept⟩ := records ⟨"f"⟩ ⟨.dnsmasq, "m"⟩
  exact ⟨(done _ missing).1, (done _ missing).2, (failed _ _ inFile (by decide)).1,
    loaded.2 ⟨_, record⟩, kept _ record (by decide)⟩

/-- **Tearing down what is not there may fail**, and so may giving up a record that is not found. -/
theorem not_teardown_absent :
    (¬ ∀ (host : Host) (m : Machine) (p : Path), '\x00' ∉ p.toList →
      m.files.pathExists p = false →
        system host (.removeFile p) m = .ok () m ∧ system host (.killPidFile p) m = .ok () m) ∧
    ¬ ∀ (store : RecordStore) (id : SectionId) (t : FileTree), store.load id t = .ok none →
      store.remove id t = .ok () t := by
  constructor
  · intro done
    have removed := (done .minimal ⟨fileAsDirectory, []⟩ "f/gone" (by decide) rfl).1
    rw [removeFile_of_absence absence_fileAsDirectory.2] at removed
    cases removed
  · intro done
    have removed := done ⟨"f"⟩ ⟨.dnsmasq, "m"⟩ fileAsDirectory rfl
    cases removed

end Executor

end RouterConf
