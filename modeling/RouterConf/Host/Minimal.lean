import RouterConf.Host.Script

/-!
# A minimal host

A host with very few programs and no processes. Programs are found by name alone, or by a path to
the directories where hosts keep them. No file of a tree is a program.
-/

namespace RouterConf

namespace Host

def minimalPrograms : List String :=
  ["true", "false", "echo", "sh"]

/-- The program that a name or a path means. -/
def findProgram (t : FileTree) (program : String) : Except OsError String :=
  if program.isEmpty then .error .notFound
  else if program.toList.contains '/' then
    match minimalPrograms.find? fun name =>
        program = "/bin/" ++ name || program = "/usr/bin/" ++ name with
    | some name => .ok name
    | none =>
      match t.status program with
      | .ok _ => .error .permissionDenied
      | .error e => .error e
  else if program = "." ∨ program = ".." then .error .permissionDenied
  else if FileTree.maxName < program.utf8ByteSize then .error .nameTooLong
  else if minimalPrograms.contains program then .ok program
  else .error .notFound

def runProgram (program : String) (arguments : List String) (t : FileTree) :
    ExitStatus × FileTree :=
  match program, arguments with
  | "false", _ => (.code 1, t)
  | "sh", "-c" :: script :: _ => Script.run script t
  | "sh", ["-c"] => (.code 2, t)
  | "sh", [] => (.code 0, t)
  | "sh", file :: _ =>
    if file.toList.head? = some '-' then (.code 2, t)
    else
      match t.readText file with
      | .ok script => Script.run script t
      | .error _ => (.code 2, t)
  | _, _ => (.code 0, t)

def minimal : Host where
  spawn := fun program arguments t =>
    match findProgram t program with
    | .error e => (.error e, t)
    | .ok name =>
      let (status, t') := runProgram name arguments t
      (.ok status, t')
  terminate := fun _ => .absent

end Host

end RouterConf
