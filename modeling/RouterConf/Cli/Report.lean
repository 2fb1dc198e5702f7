import RouterConf.Cli.Table
import RouterConf.Dnsmasq.Lifecycle

/-!
# Reports

What the commands print: the sections of a source, or the plan of a cycle with what became of it if
it was carried out, either as a table for reading or as JSON for other programs.
-/

namespace RouterConf

namespace Report

def version : String :=
  "0.1.0"

def line (s : String) : String :=
  s ++ "\n"

/-! ### Sections -/

def optionJson : OptionValue → Json
  | .text s => .ofText s
  | .integer n => .ofInt n
  | .flag b => .bool b
  | .list items => .list (items.map .ofText)

def setOptions (o : Options) : List (String × OptionValue) :=
  o.filterMap fun (name, value) => value.map fun v => (name, v)

/-- A section as JSON, its options in the order of their names. -/
def sectionJson (s : Section) : Json :=
  let options := (setOptions s.options).mergeSort fun a b => a.1 ≤ b.1
  .ofFields [("kind", .ofText s.id.kind.file), ("type", .ofText s.id.kind.type),
    ("name", .ofText s.id.name), ("source", .ofText s.source),
    ("options", .ofFields (options.map fun (name, value) => (name, optionJson value)))]

def summary (s : Section) : String :=
  " ".intercalate ((setOptions s.options).map fun (name, value) => name ++ "=" ++ value.shown)

def sectionsTable (sections : List Section) : String :=
  let header := line ("pdconf v" ++ version ++ " | " ++ toString sections.length ++ " sections")
  if sections.isEmpty then header ++ line "No sections declared."
  else
    let table : Table :=
      { header := ["section", "name", "options", "source"]
        rows := sections.map fun s => [s.id.kind.text, s.id.name, summary s, s.source] }
    header ++ line table.text

def sectionsJson (sections : List Section) : String :=
  line (Json.list (sections.map sectionJson)).text

/-! ### Plans -/

def failureJson (owner : SectionId) (message : String) : Json :=
  .ofFields [("section", .ofText owner.text), ("error", .ofText message)]

def executionJson (r : ExecutionReport) : Json :=
  .ofFields [("executed", .ofInt r.executed),
    ("failures", .list (r.failures.map fun (p, e) =>
      failureJson p.owner (p.action.text ++ ": " ++ e.message)))]

/-- A plan as JSON, and what became of it if it was carried out. -/
def planJson (operation : String) (p : Plan) (report : Option ExecutionReport) : Json :=
  .ofFields ([("operation", .ofText operation),
    ("actions", .list (p.actions.map PlannedAction.json)),
    ("failures", .list (p.failures.map fun (id, e) => failureJson id e.message))] ++
    (report.map fun r => ("execution", executionJson r)).toList)

def actionTable (actions : List PlannedAction) : Table :=
  { header := ["priority", "section", "action"]
    rows := actions.map fun a => [toString a.priority, a.owner.text, a.action.text] }

/-- A plan for reading, and what became of it if it was carried out. -/
def planText (operation : String) (p : Plan) (report : Option ExecutionReport) : String :=
  let header := line ("pdconf v" ++ version ++ " | " ++ operation ++ " | " ++
    toString p.actions.length ++ " action(s) | " ++ toString p.failures.length ++
    " failed section(s)")
  let actions :=
    if p.actions.isEmpty then line "Nothing to do." else line (actionTable p.actions).text
  let failures := p.failures.map fun (id, e) => line ("✗ " ++ id.text ++ ": " ++ e.message)
  let outcome := match report with
    | some r =>
      line ("✓ executed " ++ toString r.executed ++ " action(s)") ::
        r.failures.map fun (a, e) =>
          line ("✗ " ++ a.owner.text ++ ": " ++ a.action.text ++ " failed: " ++ e.message)
    | none =>
      if p.actions.isEmpty then []
      else [line "Re-run with --execute to carry out these actions."]
  header ++ actions ++ String.join (failures ++ outcome)

end Report

end RouterConf
