import RouterConf.Cli.Arguments
import RouterConf.Cli.Report
import RouterConf.Plan.System
import RouterConf.Section.Source

/-!
# Commands

What each command does to the files of a host, what it prints and how it exits. A command that fails
says why on the error channel: first what it was about, then the errors from which that stems.

Main statement: `Command.revert_dry_files`.
-/

namespace RouterConf

namespace LoadError

def causes : LoadError → List String
  | io _ cause => [cause.message]
  | parse _ => ["not a list of sections"]
  | invalid _ cause => [cause.message]
  | sourceNotFound _ => []

end LoadError

/-- What a command leaves behind besides files. -/
structure Outcome where
  exit : Nat := 0
  output : String := ""
  errors : String := ""
  deriving DecidableEq, Repr, Inhabited

namespace Command

/-! ### Failures -/

/-- A text with `indent` before every line but the first. -/
def indented (indent s : String) : String :=
  ("\n" ++ indent).intercalate (Table.lines s)

/-- The errors from which a failure stems; several are numbered. -/
def causesText : List String → String
  | [] => ""
  | [cause] => "\n\nCaused by:\n    " ++ indented "    " cause
  | causes =>
    "\n\nCaused by:" ++ String.join (causes.zipIdx.map fun (cause, i) =>
      let number := toString i
      "\n" ++ "".pushn ' ' (5 - number.length) ++ number ++ ": " ++ indented "       " cause)

def failed (output about : String) (causes : List String) : Outcome :=
  { exit := 1, output, errors := "Error: " ++ about ++ causesText causes ++ "\n" }

def loadFailed (source : Path) (e : LoadError) : Outcome :=
  failed "" ("failed to load sections from " ++ source) (e.message :: e.causes)

def compilerFailed (e : CompileError) : Outcome :=
  failed "" "failed to initialise dnsmasq compiler" (e.message :: e.causes)

def commitFailed (e : CompileError) : Outcome :=
  failed "" "failed to drop apply records after teardown" (e.message :: e.causes)

/-! ### The commands -/

def sections (source : Path) (json : Bool) (t : FileTree) : Outcome :=
  match Source.loadIndex t source with
  | .error e => loadFailed source e
  | .ok x =>
    { output := if json then Report.sectionsJson x.toList else Report.sectionsTable x.toList }

/-- The end of a cycle: it succeeds if no section and no action failed. -/
def finish (operation : String) (p : Plan) (report : Option ExecutionReport) (json : Bool) :
    Outcome :=
  let output :=
    if json then Report.line (Report.planJson operation p report).text
    else Report.planText operation p report
  let failedActions := (report.map (·.failures.length)).getD 0
  if p.isSuccess && failedActions = 0 then { output }
  else
    failed output (operation ++ " finished with " ++ toString p.failures.length ++
      " failed section(s) and " ++ toString failedActions ++ " failed action(s)") []

def carryOut (host : Host) (p : Plan) (t : FileTree) : ExecutionReport × FileTree :=
  let (report, m) := runPlan (Executor.system host) p.actions { files := t }
  (report, m.files)

def apply (host : Host) (now : Timestamp) (source : Path) (settings : Settings)
    (execute json : Bool) (t : FileTree) : Outcome × FileTree :=
  match Source.loadIndex t source with
  | .error e => (loadFailed source e, t)
  | .ok x =>
    match Compiler.ofSettings t settings with
    | .error e => (compilerFailed e, t)
    | .ok c =>
      let (p, st) := c.applyAll now x { files := t }
      if execute then
        let (report, files) := carryOut host p st.files
        (finish "apply" p (some report) json, files)
      else (finish "apply" p none json, st.files)

def revert (host : Host) (source : Path) (settings : Settings) (execute json : Bool)
    (t : FileTree) : Outcome × FileTree :=
  match Source.loadIndex t source with
  | .error e => (loadFailed source e, t)
  | .ok x =>
    match Compiler.ofSettings t settings with
    | .error e => (compilerFailed e, t)
    | .ok c =>
      let p := c.revertAll { files := t } x
      if execute then
        let (report, files) := carryOut host p t
        match c.commitRevert p report { files } with
        | .error e st => (commitFailed e, st.files)
        | .ok _ st => (finish "revert" p (some report) json, st.files)
      else (finish "revert" p none json, t)

/-- A teardown that is only planned leaves all files as they are. -/
theorem revert_dry_files (host : Host) (source : Path) (settings : Settings) (json : Bool)
    (t : FileTree) : (revert host source settings false json t).2 = t := by
  unfold revert
  split
  · rfl
  · split <;> rfl

def run (host : Host) (now : Timestamp) (environment : Option Path) (arguments : List String)
    (t : FileTree) : Outcome × FileTree :=
  match Invocation.ofArguments? environment arguments with
  | none => ({ exit := 2, errors := "error: invalid arguments\n" }, t)
  | some .version => ({ output := Report.line ("pdconf " ++ Report.version) }, t)
  | some .help => ({ output := Report.line "Usage: pdconf <sections|apply|revert> <SOURCE>" }, t)
  | some (.sections source json) => (sections source json t, t)
  | some (.apply source settings execute json) => apply host now source settings execute json t
  | some (.revert source settings execute json) => revert host source settings execute json t

end Command

end RouterConf
