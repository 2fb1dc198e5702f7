import RouterConf.Decimal.Integer
import RouterConf.Plan.Executor
import RouterConf.Text.Blank

/-!
# Executing on a machine

The executor that really does what the actions say. A process is asked to end only if its file holds
the number of one; a file that is not there stands for a process that has ended already, and so does
a process that the host does not know.
-/

namespace RouterConf

namespace Executor

/-- The number of a process in a text, between blanks. -/
def pidOfText (text : String) : Option Nat :=
  (Decimal.readInt 1 (2 ^ 31 - 1) (Text.trim text).toList).map Int.toNat

def onFiles (change : Change Unit) : EStateM ActionError Machine Unit := fun m =>
  match change m.files with
  | .ok () files => .ok () { m with files }
  | .error fault files => .error (.io fault) { m with files }

def start (host : Host) (argv : List String) : EStateM ActionError Machine Unit := fun m =>
  match argv with
  | [] => .error .emptyCommand m
  | program :: arguments =>
    if argv.any fun word => word.toList.contains '\x00' then
      .error (.spawn program .nullInArgument) m
    else
      match host.spawn program arguments m.files with
      | (.error e, files) => .error (.spawn program e) { m with files }
      | (.ok status, files) =>
        if status.isSuccess then .ok () { m with files }
        else .error (.exitStatus program status) { m with files }

def terminate (host : Host) (pid : Nat) : EStateM ActionError Machine Unit := fun m =>
  let m' := { m with signalled := m.signalled ++ [pid] }
  match host.terminate pid with
  | .delivered => .ok () m'
  -- A process that is gone has ended, which is all that was asked for.
  | .absent => .ok () m'
  | .refused cause => .error (.signal pid cause) m'

/-- Asks the process whose number is in a file to end. -/
def killPidFile (host : Host) (pidFile : Path) : EStateM ActionError Machine Unit := fun m =>
  match m.files.readText pidFile with
  | .error .notFound => .ok () m
  | .error e => .error (.io ⟨pidFile, e⟩) m
  | .ok contents =>
    match pidOfText contents with
    | none => .error (.invalidPid pidFile contents) m
    | some pid => terminate host pid m

/-- Carries out actions on a machine. -/
def system (host : Host) : Executor Machine
  | .start argv => start host argv
  | .killPidFile pidFile => killPidFile host pidFile
  | .removeFile path => onFiles (Change.removeIfPresent path)

def removing : Executor Machine
  | .removeFile path => onFiles (Change.removeIfPresent path)
  | _ => pure ()

end Executor

end RouterConf
