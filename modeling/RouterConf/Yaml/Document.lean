import RouterConf.Yaml.Node
import RouterConf.Yaml.Token.Lexer
import RouterConf.Yaml.Value

/-!
# Documents

A document is its root node with aliases linked to anchors, and it is read as values under two
limits: collections nest at most 128 deep, and aliases are followed at most a hundred times as often
as the document has marks.

Anchors are numbered by how many different names were anchored before them. An alias refers to the
node that last took the number of its name, which for a name that is never anchored twice is the
node with that anchor.
-/

namespace RouterConf.Yaml

/-! ### Linking -/

namespace Node

/-- Anchored names with their numbers, latest first. -/
abbrev Names := List (String × Nat)

/-- Gives a name the next number: how many different names there are already. -/
def Names.take (names : Names) (name : String) : Names × Nat :=
  let n := names.length
  ((name, n) :: names.filter (·.1 != name), n)

/-- The properties of a node with its anchor numbered. -/
def Properties.link (names : Names) (p : Properties String) : Names × Properties Nat :=
  match p.anchor with
  | none => (names, { tag := p.tag })
  | some name =>
    let (names, n) := names.take name
    (names, { anchor := some n, tag := p.tag })

mutual

/-- The node with anchors and aliases numbered; an alias whose name is not anchored before it is an
error. -/
def link (names : Names) : Node String → Option (Names × Node Nat)
  | .aliasOf name => (names.lookup name).map fun n => (names, .aliasOf n)
  | .scalar p text plain =>
    let (names, p) := Properties.link names p
    some (names, .scalar p text plain)
  | .sequence p items => do
    let (names, p) := Properties.link names p
    let (names, items) ← linkItems names items
    return (names, .sequence p items)
  | .mapping p entries => do
    let (names, p) := Properties.link names p
    let (names, entries) ← linkEntries names entries
    return (names, .mapping p entries)

def linkItems (names : Names) : List (Node String) → Option (Names × List (Node Nat))
  | [] => some (names, [])
  | n :: ns => do
    let (names, n) ← link names n
    let (names, ns) ← linkItems names ns
    return (names, n :: ns)

def linkEntries (names : Names) :
    List (Node String × Node String) → Option (Names × List (Node Nat × Node Nat))
  | [] => some (names, [])
  | (k, v) :: es => do
    let (names, k) ← link names k
    let (names, v) ← link names v
    let (names, es) ← linkEntries names es
    return (names, (k, v) :: es)

end

mutual

/-- The anchored nodes in the order of their beginnings. -/
def anchored : Node Nat → List (Nat × Node Nat)
  | .aliasOf _ => []
  | .scalar p text plain => p.anchor.toList.map (·, .scalar p text plain)
  | .sequence p items =>
    p.anchor.toList.map (·, .sequence p items) ++ anchoredItems items
  | .mapping p entries =>
    p.anchor.toList.map (·, .mapping p entries) ++ anchoredEntries entries

def anchoredItems : List (Node Nat) → List (Nat × Node Nat)
  | [] => []
  | n :: ns => anchored n ++ anchoredItems ns

def anchoredEntries : List (Node Nat × Node Nat) → List (Nat × Node Nat)
  | [] => []
  | (k, v) :: es => anchored k ++ anchored v ++ anchoredEntries es

end

end Node

/-- A document: its root, the nodes that its anchors name, and how often aliases may be followed. -/
structure Document where
  root : Node Nat
  anchors : List (Nat × Node Nat)
  budget : Nat

namespace Document

/-- The document with this root, if every alias has an anchor. -/
def ofRoot (root : Node String) : Option Document :=
  (root.link []).map fun (_, n) =>
    { root := n, anchors := n.anchored.reverse, budget := 100 * root.size }

/-- The document of a text; a text without one is read as an empty scalar. -/
def parse (text : String) : Option Document := do
  let tokens ← Token.scan text
  let root ← Grammar.document? tokens
  ofRoot (root.getD .empty)

/-- Reading a document, while counting how often aliases may still be followed. -/
abbrev Reader := StateT Nat Option

def refuse {α : Type} : Reader α :=
  fun _ => none

/-- The node itself, or the one that an alias refers to; the latter uses up one step of the
budget. -/
def follow (d : Document) : Node Nat → Reader (Node Nat)
  | .aliasOf n => fun budget =>
    if budget = 0 then none else (d.anchors.lookup n).map (·, budget - 1)
  | node => pure node

/-! ### Values -/

def tagText (tag : Tag) : Option String :=
  String.fromUTF8? ⟨tag.toArray⟩

/-- The name of a tag that makes a tagged value: one that starts with an exclamation mark, without
it where more follows. -/
def localTag (tag : Option Tag) : Option String :=
  match tag with
  | some (0x21 :: rest) => tagText (if rest.isEmpty then [0x21] else rest)
  | _ => none

def standardTag (name : String) : Tag :=
  ("tag:yaml.org,2002:" ++ name).toUTF8.toList

/-- The value of a scalar. A type that is forced has to fit; any other foreign tag makes a text. -/
def scalarValue (tag : Option Tag) (text : String) (plain : Bool) : Option Value :=
  match tag with
  | none => if plain then Value.ofPlain text else some (.text text)
  | some t =>
    if t = standardTag "bool" then (Value.boolOfText text).map .bool
    else if t = standardTag "int" then (Value.intOfText text.toList).join
    else if t = standardTag "float" then (Value.floatOfText text).map .float
    else if t = standardTag "null" then (if Value.isNullText text then some .null else none)
    -- Tags of an application do not say what the type is.
    else if t.head? = some 0x21 && plain then Value.ofPlain text
    else some (.text text)

/-- The entries of a mapping in order; a key that comes twice is an error. -/
def entriesWith (value : Bool → Node Nat → Reader Value) (tagged : Bool) :
    List (Value × Value) → List (Node Nat × Node Nat) → Reader (List (Value × Value))
  | done, [] => pure done.reverse
  | done, (k, v) :: es => do
    let key ← value tagged k
    -- The key is refused before its value is read.
    if done.any (fun (k', _) => k'.same key) then refuse
    else
      let item ← value false v
      entriesWith value tagged ((key, item) :: done) es

/-- The value of a node whose tag is dealt with. `inner` reads what is nested, unless the limit is
reached. -/
def content (inner : Option (Bool → Node Nat → Reader Value)) (tagged : Bool) :
    Node Nat → Reader Value
  | .aliasOf _ => refuse
  | .scalar p text plain => fun budget =>
    (scalarValue (if tagged then none else p.tag) text plain).map (·, budget)
  | .sequence _ items =>
    match inner with
    | none => refuse
    | some value => .list <$> items.mapM (value false)
  | .mapping _ entries =>
    match inner with
    | none => refuse
    | some value => .map <$> entriesWith value tagged [] entries

def tagOf : Node Nat → Option Tag
  | .aliasOf _ => none
  | .scalar p .. => p.tag
  | .sequence p _ => p.tag
  | .mapping p _ => p.tag

/-- The value of a node. Keys of a tagged mapping are read as if their own tags were dealt with. -/
def valueWith (d : Document) (inner : Option (Bool → Node Nat → Reader Value)) (tagged : Bool)
    (node : Node Nat) : Reader Value := do
  let target ← d.follow node
  -- An alias leads to a node whose own tag has yet to be dealt with.
  let tagged := tagged && match node with
    | .aliasOf _ => false
    | _ => true
  match if tagged then none else localTag (tagOf target) with
  | some name => .tagged name <$> content inner true target
  | none => content inner tagged target

/-- The value of a node in which collections nest at most `depth` deep. -/
def value (d : Document) : (depth : Nat) → Bool → Node Nat → Reader Value
  | 0 => d.valueWith none
  | depth + 1 => d.valueWith (some (d.value depth))

/-! ### Shapes

What a reader asks for that knows the shape of the document beforehand. -/

def maxDepth : Nat := 128

/-- Whether a node is a plain scalar without text, which stands for an empty collection. -/
def isUnwritten : Node Nat → Bool
  | .scalar _ text plain => plain && text.isEmpty
  | _ => false

/-- The items of a sequence, or none for an unwritten node. -/
def items (d : Document) (node : Node Nat) : Reader (List (Node Nat)) := do
  match ← d.follow node with
  | .sequence _ items => return items
  | node => if isUnwritten node then return [] else refuse

/-- The entries of a mapping, or none for an unwritten node. -/
def entries (d : Document) (node : Node Nat) : Reader (List (Node Nat × Node Nat)) := do
  match ← d.follow node with
  | .mapping _ entries => return entries
  | node => if isUnwritten node then return [] else refuse

/-- The text of a scalar of any kind, as it is written. -/
def scalar (d : Document) (node : Node Nat) : Reader String := do
  match ← d.follow node with
  | .scalar _ text _ => return text
  | _ => refuse

/-- A mapping as values, nested at most `depth` deep. -/
def mapping (d : Document) (depth : Nat) (node : Node Nat) : Reader (List (Value × Value)) := do
  match ← d.entries node with
  | [] => return []
  | es => match depth with
    | 0 => refuse
    | depth + 1 => entriesWith (d.value depth) false [] es

end Document

end RouterConf.Yaml
