import RouterConf.Decimal.Integer
import RouterConf.Files.Change
import RouterConf.Json.Reader

/-!
# Snapshots of files

A snapshot is a file tree written as one JSON object: every path below the home location with the
text of its file, or with the list of its bytes where they are no text, or with null for a
directory.
-/

namespace RouterConf

namespace Snapshot

/-- The home location of the trees that snapshots describe. -/
def home : Location :=
  ["home"]

/-! ### Reading -/

def byte? : Json → Option UInt8
  | .number digits => ((Decimal.readNat 10 digits.toList).filter (· < 256)).map UInt8.ofNat
  | _ => none

def bytes? (items : List Json) : Option ByteArray :=
  (items.mapM byte?).map fun bytes => ⟨bytes.toArray⟩

def entry? : Json → Option FileEntry
  | .null => some .directory
  | .string s => s.map fun text => .file (.text text)
  | .list items => (bytes? items).map fun bytes => .file (.ofBytes bytes)
  | _ => none

/-- A tree with one more entry, and with the directories that lead to it. -/
def add (t : FileTree) (field : Option String × Json) : Option FileTree := do
  match Change.supply (← field.1) (← entry? field.2) t with
  | .ok () t' => return t'
  | .error _ _ => none

def ofText? (s : String) : Option FileTree := do
  match ← Json.ofString? s with
  | .object fields => fields.foldlM add (FileTree.withHome home)
  | _ => none

/-! ### Writing -/

def entryJson : FileEntry → Json
  | .directory => .null
  | .file (.text s) => .ofText s
  | .file (.raw bytes) => .list (bytes.toList.map fun b => .ofInt b.toNat)

def text (t : FileTree) : String :=
  let below := t.entries.filterMap fun (l, e) =>
    if t.home.isPrefixOf l && t.home.length < l.length then
      some ("/".intercalate (l.drop t.home.length), entryJson e)
    else none
  (Json.ofFields (below.mergeSort fun a b => a.1 ≤ b.1)).text

end Snapshot

end RouterConf
