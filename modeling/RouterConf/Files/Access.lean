import RouterConf.Files.Path
import RouterConf.Files.Tree

/-!
# Access to files by path

The operations on files as a system offers them: a path is resolved segment by segment, every
directory on the way has to exist, and each operation has its own errors. The operations that change
nothing when they fail are functions to a new tree; the creation of nested directories, which may
stop half-way, yields the tree in either case. Links and permissions are left out, as they are of
file trees.

Main statement: `FileTree.readText_eq_ok_iff`.
-/

namespace RouterConf

inductive OsError where
  | notFound
  | permissionDenied
  | busy
  | alreadyExists
  | notADirectory
  | isADirectory
  | nameTooLong
  | notText
  /-- A path holds a null character. -/
  | nullInPath
  /-- An argument of a program holds a null character. -/
  | nullInArgument
  | notPermitted
  deriving DecidableEq, Repr, Inhabited

def OsError.message : OsError → String
  | notFound => "No such file or directory (os error 2)"
  | permissionDenied => "Permission denied (os error 13)"
  | busy => "Device or resource busy (os error 16)"
  | alreadyExists => "File exists (os error 17)"
  | notADirectory => "Not a directory (os error 20)"
  | isADirectory => "Is a directory (os error 21)"
  | nameTooLong => "File name too long (os error 36)"
  | notText => "stream did not contain valid UTF-8"
  | nullInPath => "file name contained an unexpected NUL byte"
  | nullInArgument => "nul byte found in provided data"
  | notPermitted => "Operation not permitted (os error 1)"

namespace FileTree

/-! ### Resolution -/

def maxName : Nat := 255

def maxPath : Nat := 4095

/-- The directory that segments lead to from another. -/
def walk (t : FileTree) (from_ : Location) : List String → Except OsError Location
  | [] => .ok from_
  | segment :: rest =>
    if segment = "" ∨ segment = "." then t.walk from_ rest
    -- The root lies in itself.
    else if segment = ".." then t.walk from_.dropLast rest
    else if maxName < segment.utf8ByteSize then .error .nameTooLong
    else
      match t.get? (from_ ++ [segment]) with
      | none => .error .notFound
      | some (.file _) => .error .notADirectory
      | some .directory => t.walk (from_ ++ [segment]) rest

@[simp] theorem walk_nil (t : FileTree) (l : Location) : t.walk l [] = .ok l := rfl

/-- What a path names: an entry of a directory, whether with a slash after it, or a directory that
the path reaches without naming it. -/
inductive Target where
  | entry (directory : Location) (name : String) (slash : Bool)
  | reached (directory : Location)
  deriving DecidableEq, Repr

/-- Resolves a path up to its last segment that is not empty. -/
def locate (t : FileTree) (p : Path) : Except OsError Target :=
  if p.toList.contains '\x00' then .error .nullInPath
  else if p.isEmpty then .error .notFound
  else if maxPath < p.utf8ByteSize then .error .nameTooLong
  else
    let start := if p.isAbsolute then [] else t.home
    -- Slashes at the end change not what is named but what it has to be.
    let reversed := (p.segments.map String.ofList).reverse
    match reversed.dropWhile (· = "") with
    | [] => .ok (.reached [])
    | last :: before => do
      let directory ← t.walk start before.reverse
      if last = "." then return .reached directory
      else if last = ".." then return .reached directory.dropLast
      else return .entry directory last (reversed.head? = some "")

/-- The entry of a name in a directory, if there is one. -/
def entry? (t : FileTree) (directory : Location) (name : String) :
    Except OsError (Option FileEntry) :=
  if maxName < name.utf8ByteSize then .error .nameTooLong
  else .ok (t.get? (directory ++ [name]))

/-- What a path leads to. A file may not have a slash after its name. -/
def status (t : FileTree) (p : Path) : Except OsError FileEntry := do
  match ← t.locate p with
  | .reached _ => return .directory
  | .entry directory name slash =>
    match ← t.entry? directory name with
    | none => .error .notFound
    | some (.file content) => if slash then .error .notADirectory else return .file content
    | some .directory => return .directory

def pathExists (t : FileTree) (p : Path) : Bool :=
  match t.status p with
  | .ok _ => true
  | .error _ => false

def isDirectory (t : FileTree) (p : Path) : Bool :=
  match t.status p with
  | .ok .directory => true
  | _ => false

def isFile (t : FileTree) (p : Path) : Bool :=
  match t.status p with
  | .ok (.file _) => true
  | _ => false

/-! ### Reading -/

def read (t : FileTree) (p : Path) : Except OsError FileContent := do
  match ← t.status p with
  | .file content => return content
  | .directory => .error .isADirectory

def readText (t : FileTree) (p : Path) : Except OsError String := do
  match ← t.read p with
  | .text s => return s
  | .raw _ => .error .notText

/-- A text is read exactly where a path leads to a file that holds it. -/
theorem readText_eq_ok_iff {t : FileTree} {p : Path} {s : String} :
    t.readText p = .ok s ↔ t.status p = .ok (.file (.text s)) := by
  unfold readText read
  cases t.status p with
  | error e => simp [bind, Except.bind]
  | ok entry =>
    rcases entry with content | _
    · cases content <;> simp [bind, Except.bind, pure, Except.pure]
    · simp [bind, Except.bind]

/-- The names in a directory, in no particular order. -/
def readDirectory (t : FileTree) (p : Path) : Except OsError (List String) := do
  match ← t.locate p with
  | .reached l => return t.names l
  | .entry directory name _ =>
    match ← t.entry? directory name with
    | none => .error .notFound
    | some (.file _) => .error .notADirectory
    | some .directory => return t.names (directory ++ [name])

/-! ### Writing -/

/-- The tree with a file at a path, in place of one that is there already. -/
def write (t : FileTree) (p : Path) (content : FileContent) : Except OsError FileTree := do
  match ← t.locate p with
  | .reached _ => .error .isADirectory
  | .entry directory name slash =>
    -- A slash after the name asks for a directory, which a write never makes.
    if slash then .error .isADirectory
    else
      match ← t.entry? directory name with
      | some .directory => .error .isADirectory
      | _ => return t.insert (directory ++ [name]) (.file content)

def remove (t : FileTree) (p : Path) : Except OsError FileTree := do
  match ← t.locate p with
  | .reached _ => .error .isADirectory
  | .entry directory name slash =>
    match ← t.entry? directory name with
    | none => .error .notFound
    | some .directory => .error .isADirectory
    | some (.file _) =>
      if slash then .error .notADirectory else return t.erase (directory ++ [name])

/-- The tree without what is at a path, be it a file or a directory with all in it. -/
def removeTree (t : FileTree) (p : Path) : Except OsError FileTree := do
  match ← t.status p, ← t.locate p with
  | .directory, .entry directory name _ => return t.eraseAll (directory ++ [name])
  -- What is reached without a name cannot be taken out of a directory.
  | .directory, .reached _ => .error .busy
  | .file _, _ => t.remove p

/-- The tree with a file moved to another path, in place of one that is there already. -/
def rename (t : FileTree) (source target : Path) : Except OsError FileTree := do
  let source ← t.locate source
  let target ← t.locate target
  match source, target with
  | .entry d n slash, .entry d' n' slash' =>
    match ← t.entry? d n with
    | none => .error .notFound
    | some .directory => .error .isADirectory
    | some (.file content) =>
      -- A name of the target that is too long is found before its slash.
      let there ← t.entry? d' n'
      if slash || slash' then .error .notADirectory
      else
        match there with
        | some .directory => .error .isADirectory
        | _ => return (t.erase (d ++ [n])).insert (d' ++ [n']) (.file content)
  -- Neither can what is reached without a name be moved, nor anything into its place.
  | _, _ => .error .busy

def makeDirectory (t : FileTree) (p : Path) : Except OsError FileTree := do
  match ← t.locate p with
  | .reached _ => .error .alreadyExists
  | .entry directory name _ =>
    match ← t.entry? directory name with
    | some _ => .error .alreadyExists
    | none => return t.insert (directory ++ [name]) .directory

/-- A directory with all that lead to it, made where they are missing. `fuel` bounds how many of
them may be missing. -/
def makeDirectoriesWith (t : FileTree) (p : Path) : (fuel : Nat) → Except OsError Unit × FileTree
  | 0 => (.error .notFound, t)
  | fuel + 1 =>
    if p.isEmpty then (.ok (), t)
    else
      match t.makeDirectory p with
      | .ok t => (.ok (), t)
      | .error .notFound =>
        -- The directory above is missing: it is made first, and then this one is tried again.
        match Path.parent? p with
        | none => (.error .notFound, t)
        | some parent =>
          match t.makeDirectoriesWith parent fuel with
          | (.error e, t) => (.error e, t)
          | (.ok (), t) =>
            match t.makeDirectory p with
            | .ok t => (.ok (), t)
            -- A directory that is there already is as good as made.
            | .error e => if t.isDirectory p then (.ok (), t) else (.error e, t)
      | .error e => if t.isDirectory p then (.ok (), t) else (.error e, t)

/-- A directory with all that lead to it, made where they are missing. What was made stays, even if
the rest cannot be made. -/
def makeDirectories (t : FileTree) (p : Path) : Except OsError Unit × FileTree :=
  t.makeDirectoriesWith p (p.length + 1)

end FileTree

end RouterConf
