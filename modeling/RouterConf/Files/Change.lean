import RouterConf.Files.Access

/-!
# Changes to files

A change is a step that turns one file tree into another and may fail on the way. What it did before
it failed stays done. A file is replaced by writing its new text beside it and moving that into its
place, so that there is never a file with half of its text.

Every operation is carried out as a whole or refused, and the tree decides which: refusals for want
of a permission and writes that break off in the middle, as on a full disk, are outside the model.
-/

namespace RouterConf

/-- A refusal of the system together with the path that it concerns. -/
structure FileFault where
  path : Path
  cause : OsError
  deriving DecidableEq, Repr, Inhabited

def FileFault.message (f : FileFault) : String :=
  "I/O error at " ++ f.path ++ ": " ++ f.cause.message

abbrev Change :=
  EStateM FileFault FileTree

namespace Change

/-- An operation that changes nothing when it fails; `p` is the path that a fault names. -/
def ofStep (p : Path) (step : FileTree → Except OsError FileTree) : Change Unit := fun t =>
  match step t with
  | .ok t' => .ok () t'
  | .error e => .error ⟨p, e⟩ t

/-- Makes a directory with all that lead to it, where they are missing. -/
def makeDirectories (p : Path) : Change Unit := fun t =>
  match t.makeDirectories p with
  | (.ok (), t') => .ok () t'
  | (.error e, t') => .error ⟨p, e⟩ t'

/-- Makes the directory that a path lies in, unless the path names none. -/
def ensureParent (p : Path) : Change Unit :=
  match Path.parent? p with
  | none => pure ()
  | some parent => if parent.isEmpty then pure () else makeDirectories parent

def write (p : Path) (text : String) : Change Unit :=
  ofStep p fun t => t.write p (.text text)

/-- Puts an entry where a path leads, with the directories on the way. -/
def supply (p : Path) (entry : FileEntry) : Change Unit :=
  match entry with
  | .directory => makeDirectories p
  | .file content => do
    ensureParent p
    ofStep p fun t => t.write p content

def rename (source target : Path) : Change Unit :=
  ofStep target fun t => t.rename source target

/-- Removes a file; one that is not there is as good as removed. -/
def removeIfPresent (p : Path) : Change Unit := fun t =>
  match t.remove p with
  | .ok t' => .ok () t'
  | .error .notFound => .ok () t
  | .error e => .error ⟨p, e⟩ t

/-- A step, or if it fails, another after it; the failure of the step stands either way. -/
def orUndo (step undo : Change Unit) : Change Unit := fun t =>
  match step t with
  | .ok () t' => .ok () t'
  | .error e t' =>
    match undo t' with
    | .ok () t'' => .error e t''
    | .error _ t'' => .error e t''

/-- The name under which the new text of a file is written first. -/
def draftOf (p : Path) : Path :=
  p ++ ".pdconf.tmp"

/-- Puts a text into a file as a whole, with the directory that the file lies in. -/
def replace (p : Path) (text : String) : Change Unit := do
  ensureParent p
  -- If the draft cannot take the place of the file, it goes again.
  write (draftOf p) text
  orUndo (rename (draftOf p) p) (ofStep (draftOf p) fun t => t.remove (draftOf p))

end Change

end RouterConf
