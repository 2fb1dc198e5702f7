import RouterConf.Files.Change
import RouterConf.Record.Basic

/-!
# The record store

Records are files of one directory, one for each identity. A record that is not there means that
nothing was applied; one that cannot be read is an error.

Main statements: `RecordStore.load_of_missing`, `RecordStore.load_of_text`.
-/

namespace RouterConf

inductive RecordError where
  | io (fault : FileFault)
  | malformed
  deriving DecidableEq, Repr

/-- The records in a directory. -/
structure RecordStore where
  directory : Path
  deriving DecidableEq, Repr, Inhabited

namespace RecordStore

def pathOf (store : RecordStore) (id : SectionId) : Path :=
  Path.join store.directory (id.fileKey ++ ".json")

def load (store : RecordStore) (id : SectionId) (t : FileTree) :
    Except RecordError (Option ApplyRecord) :=
  let path := store.pathOf id
  if t.pathExists path then
    match t.readText path with
    | .error e => .error (.io ⟨path, e⟩)
    | .ok text =>
      match ApplyRecord.ofText? text with
      | none => .error .malformed
      | some record => .ok (some record)
  else .ok none

theorem load_of_missing {store : RecordStore} {id : SectionId} {t : FileTree}
    (h : t.pathExists (store.pathOf id) = false) : store.load id t = .ok none := by
  simp [load, h]

/-- A file is loaded as the record that its text holds. -/
theorem load_of_text {store : RecordStore} {id : SectionId} {t : FileTree} {text : String}
    {record : ApplyRecord} (h : t.status (store.pathOf id) = .ok (.file (.text text)))
    (hr : ApplyRecord.ofText? text = some record) : store.load id t = .ok (some record) := by
  have he : t.pathExists (store.pathOf id) = true := by simp [FileTree.pathExists, h]
  simp [load, he, FileTree.readText_eq_ok_iff.2 h, hr]

/-- The file that the record of an identity is written to first. -/
def draftOf (store : RecordStore) (id : SectionId) : Path :=
  Path.withExtension (store.pathOf id) "json.tmp"

/-- Keeps a record of paths in place of the one before, and yields it. -/
def save (store : RecordStore) (id : SectionId) (paths : InstancePaths) (now : Timestamp) :
    Change ApplyRecord := do
  Change.makeDirectories store.directory
  -- Unlike that of a configuration, a draft that cannot be moved is left where it is.
  let record : ApplyRecord := { section_ := id, appliedAt := now, paths }
  Change.write (store.draftOf id) record.text
  Change.rename (store.draftOf id) (store.pathOf id)
  return record

def remove (store : RecordStore) (id : SectionId) : Change Unit :=
  Change.removeIfPresent (store.pathOf id)

end RecordStore

end RouterConf
