import RouterConf.Files.Path
import RouterConf.Json.Reader
import RouterConf.Section.Kind
import RouterConf.Time.Timestamp

/-!
# Records of what was applied

When a daemon instance is applied, a record is kept of where its files are, so that it can be taken
down later even if its section has changed by then. The record is written as JSON.

Main statements: `InstancePaths.ofJson?_json`, `SectionId.ofJson?_json`.
-/

namespace RouterConf

/-- Where the files of a daemon instance are. -/
structure InstancePaths where
  config : Path
  lease : Path
  pid : Path
  deriving DecidableEq, Repr, Inhabited

/-- What was applied, when, and with which files. -/
structure ApplyRecord where
  section_ : SectionId
  appliedAt : Timestamp
  paths : InstancePaths
  deriving DecidableEq, Repr, Inhabited

namespace SectionId

def json (id : SectionId) : Json :=
  .ofFields [("kind", .ofText id.kind.tag), ("name", .ofText id.name)]

/-- The kind in a record: its name, or an object with its name as the only key and null under it. -/
def kindOfJson? : Json → Option SectionKind
  | .string s => s.bind SectionKind.ofTag
  | .object [(some tag, .null)] => SectionKind.ofTag tag
  | _ => none

def ofJson? (v : Json) : Option SectionId := do
  match ← v.members ["kind", "name"] with
  | [kind, name] => return ⟨← kindOfJson? kind, ← name.text?⟩
  | _ => none

@[simp] theorem ofJson?_json (id : SectionId) : ofJson? id.json = some id := by
  simp [ofJson?, json, Json.members, Json.ofFields, Json.field?, Json.ofText, kindOfJson?,
    Json.text?]

end SectionId

namespace InstancePaths

def json (p : InstancePaths) : Json :=
  .ofFields [("config_file", .ofText p.config), ("lease_file", .ofText p.lease),
    ("pid_file", .ofText p.pid)]

def ofJson? (v : Json) : Option InstancePaths := do
  match ← v.members ["config_file", "lease_file", "pid_file"] with
  | [config, lease, pid] => return ⟨← config.text?, ← lease.text?, ← pid.text?⟩
  | _ => none

@[simp] theorem ofJson?_json (p : InstancePaths) : ofJson? p.json = some p := by
  simp [ofJson?, json, Json.members, Json.ofFields, Json.field?, Json.ofText, Json.text?]

end InstancePaths

namespace ApplyRecord

def json (r : ApplyRecord) : Json :=
  .ofFields [("section", r.section_.json), ("applied_at", .ofText r.appliedAt.text),
    ("paths", r.paths.json)]

def ofJson? (v : Json) : Option ApplyRecord := do
  match ← v.members ["section", "applied_at", "paths"] with
  | [section_, appliedAt, paths] =>
    return {
      section_ := ← SectionId.ofJson? section_
      appliedAt := ← Timestamp.ofText? (← appliedAt.text?)
      paths := ← InstancePaths.ofJson? paths }
  | _ => none

def text (r : ApplyRecord) : String :=
  r.json.text

def ofText? (s : String) : Option ApplyRecord :=
  (Json.ofString? s).bind ofJson?

end ApplyRecord

end RouterConf
