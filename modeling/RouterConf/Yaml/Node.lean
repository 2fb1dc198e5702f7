import RouterConf.Yaml.Token

/-!
# Nodes of a YAML document

A document is a tree of scalars, sequences, mappings and aliases. A node may carry an anchor, which
aliases refer to, and a tag. `ρ` is what anchors and aliases are named by: their names as written,
or the numbers that linking gives them.

The grammar reads a node off a list of tokens; its parts call each other with less fuel each time,
and never need more than twice the number of tokens.
-/

namespace RouterConf.Yaml

/-- What a node may carry beside its content. -/
structure Properties (ρ : Type) where
  anchor : Option ρ := none
  tag : Option Tag := none
  deriving Repr

inductive Node (ρ : Type) where
  | aliasOf (target : ρ)
  | scalar (properties : Properties ρ) (text : String) (plain : Bool)
  | sequence (properties : Properties ρ) (items : List (Node ρ))
  | mapping (properties : Properties ρ) (entries : List (Node ρ × Node ρ))
  deriving Repr

namespace Node

variable {ρ : Type}

/-- A scalar that is not written at all. -/
def empty : Node ρ :=
  .scalar {} "" true

instance : Inhabited (Node ρ) := ⟨empty⟩

mutual

/-- The number of marks that a reader of the document meets: one for a scalar or an alias, the two
ends of a collection and what lies between. -/
def size : Node ρ → Nat
  | .aliasOf _ => 1
  | .scalar .. => 1
  | .sequence _ items => 2 + sizeItems items
  | .mapping _ entries => 2 + sizeEntries entries

def sizeItems : List (Node ρ) → Nat
  | [] => 0
  | n :: ns => n.size + sizeItems ns

def sizeEntries : List (Node ρ × Node ρ) → Nat
  | [] => 0
  | (k, v) :: es => k.size + v.size + sizeEntries es

end

end Node

/-! ### The grammar of nodes -/

namespace Grammar

/-- The tag handles that are known, with what they stand for. -/
abbrev Handles := List (String × Tag)

/-- A node and the tokens after it. -/
abbrev Read := Option (Node String × List Token)

/-- A tag with its handle replaced. An unknown handle is an error. -/
def resolveTag (handles : Handles) (handle : String) (suffix : Tag) : Option Tag :=
  if handle.isEmpty then some suffix else (handles.lookup handle).map (· ++ suffix)

/-- The anchor and the tag before a node, each at most once and in either order. -/
def properties (handles : Handles) : List Token → Option (Properties String × List Token)
  | .anchor a :: .tag h s :: ts => do return (⟨some a, some (← resolveTag handles h s)⟩, ts)
  | .tag h s :: .anchor a :: ts => do return (⟨some a, some (← resolveTag handles h s)⟩, ts)
  | .anchor a :: ts => some (⟨some a, none⟩, ts)
  | .tag h s :: ts => do return (⟨none, some (← resolveTag handles h s)⟩, ts)
  | ts => some ({}, ts)

def stopsAt (stops : List Token) (ts : List Token) : Bool :=
  ts.head?.any (stops.contains ·)

mutual

/-- A node; a block collection only if `block`, and a sequence whose dashes stand at the column of
the enclosing mapping only if `indentless`. -/
def node (handles : Handles) (block indentless : Bool) (ts : List Token) : (fuel : Nat) → Read
  | 0 => none
  | fuel + 1 =>
    match ts with
    | .aliasOf name :: ts => some (.aliasOf name, ts)
    | ts => do
      let (p, ts) ← properties handles ts
      match ts with
      | .scalar text plain :: ts => return (.scalar p text plain, ts)
      | .flowSequenceStart :: ts =>
        let (items, ts) ← flowItems handles true ts fuel
        return (.sequence p items, ts)
      | .flowMappingStart :: ts =>
        let (entries, ts) ← flowEntries handles true ts fuel
        return (.mapping p entries, ts)
      | ts =>
        -- No flow collection and no scalar: a block collection, or properties alone.
        if indentless && stopsAt [.blockEntry] ts then
          let (items, ts) ← indentlessItems handles ts fuel
          return (.sequence p items, ts)
        else if block && stopsAt [.blockSequenceStart] ts then
          let (items, ts) ← blockItems handles ts.tail fuel
          return (.sequence p items, ts)
        else if block && stopsAt [.blockMappingStart] ts then
          let (entries, ts) ← blockEntries handles ts.tail fuel
          return (.mapping p entries, ts)
        else if p.anchor.isSome || p.tag.isSome then return (.scalar p "" true, ts)
        else none

/-- A node, or the empty scalar if one of `stops` comes next. -/
def nodeUnless (handles : Handles) (block indentless : Bool) (stops ts : List Token) :
    (fuel : Nat) → Read
  | 0 => none
  | fuel + 1 =>
    if stopsAt stops ts then some (.empty, ts) else node handles block indentless ts fuel

def blockItems (handles : Handles) (ts : List Token) :
    (fuel : Nat) → Option (List (Node String) × List Token)
  | 0 => none
  | fuel + 1 =>
    match ts with
    | .blockEntry :: ts => do
      let (item, ts) ← nodeUnless handles true false [.blockEntry, .blockEnd] ts fuel
      let (items, ts) ← blockItems handles ts fuel
      return (item :: items, ts)
    | .blockEnd :: ts => some ([], ts)
    | _ => none

/-- The items of a sequence without indentation of its own; it ends where no dash follows. -/
def indentlessItems (handles : Handles) (ts : List Token) :
    (fuel : Nat) → Option (List (Node String) × List Token)
  | 0 => none
  | fuel + 1 =>
    match ts with
    | .blockEntry :: ts => do
      let (item, ts) ←
        nodeUnless handles true false [.blockEntry, .key, .value, .blockEnd] ts fuel
      let (items, ts) ← indentlessItems handles ts fuel
      return (item :: items, ts)
    | ts => some ([], ts)

def blockEntries (handles : Handles) (ts : List Token) :
    (fuel : Nat) → Option (List (Node String × Node String) × List Token)
  | 0 => none
  | fuel + 1 =>
    match ts with
    | .key :: ts => do
      let stops := [Token.key, .value, .blockEnd]
      let (k, ts) ← nodeUnless handles true true stops ts fuel
      let (v, ts) ← valueAfter handles true stops ts fuel
      let (entries, ts) ← blockEntries handles ts fuel
      return ((k, v) :: entries, ts)
    | .blockEnd :: ts => some ([], ts)
    | _ => none

/-- The value of an entry: empty where no colon follows the key. -/
def valueAfter (handles : Handles) (block : Bool) (stops ts : List Token) :
    (fuel : Nat) → Read
  | 0 => none
  | fuel + 1 =>
    match ts with
    | .value :: ts => nodeUnless handles block block stops ts fuel
    | ts => some (.empty, ts)

/-- The items of a flow sequence up to its end. An item may be a single pair. -/
def flowItems (handles : Handles) (first : Bool) (ts : List Token) :
    (fuel : Nat) → Option (List (Node String) × List Token)
  | 0 => none
  | fuel + 1 =>
    match ts with
    | .flowSequenceEnd :: ts => some ([], ts)
    | ts => do
      let ts ← if first then some ts else if stopsAt [.flowEntry] ts then some ts.tail else none
      match ts with
      | .flowSequenceEnd :: ts => return ([], ts)
      | .key :: ts =>
        -- A pair without a key swallows the token that shows the key to be missing.
        let (k, ts) ←
          if stopsAt [.value, .flowEntry, .flowSequenceEnd] ts then some (.empty, ts.tail)
          else node handles false false ts fuel
        let (v, ts) ← valueAfter handles false [.flowEntry, .flowSequenceEnd] ts fuel
        let (items, ts) ← flowItems handles false ts fuel
        return (.mapping {} [(k, v)] :: items, ts)
      | ts =>
        let (item, ts) ← node handles false false ts fuel
        let (items, ts) ← flowItems handles false ts fuel
        return (item :: items, ts)

/-- The entries of a flow mapping up to its end. An entry may be a key alone. -/
def flowEntries (handles : Handles) (first : Bool) (ts : List Token) :
    (fuel : Nat) → Option (List (Node String × Node String) × List Token)
  | 0 => none
  | fuel + 1 =>
    match ts with
    | .flowMappingEnd :: ts => some ([], ts)
    | ts => do
      let ts ← if first then some ts else if stopsAt [.flowEntry] ts then some ts.tail else none
      match ts with
      | .flowMappingEnd :: ts => return ([], ts)
      | .key :: ts =>
        let (k, ts) ←
          nodeUnless handles false false [.value, .flowEntry, .flowMappingEnd] ts fuel
        let (v, ts) ← valueAfter handles false [.flowEntry, .flowMappingEnd] ts fuel
        let (entries, ts) ← flowEntries handles false ts fuel
        return ((k, v) :: entries, ts)
      | ts =>
        let (k, ts) ← node handles false false ts fuel
        let (entries, ts) ← flowEntries handles false ts fuel
        return ((k, .empty) :: entries, ts)

end

/-! ### Documents -/

/-- The handles that every document knows. -/
def standardHandles : Handles :=
  [("!", "!".toUTF8.toList), ("!!", "tag:yaml.org,2002:".toUTF8.toList)]

/-- The directives before a document: at most one version, which is 1.1 or 1.2, and at most one
tag directive for each handle. -/
def directives (version : Bool) (handles : Handles) : List Token → Option (Handles × List Token)
  | .versionDirective major minor :: ts =>
    if version || major != 1 || (minor != 1 && minor != 2) then none
    else directives true handles ts
  | .tagDirective handle lead :: ts =>
    if (handles.lookup handle).isSome then none
    else directives version (handles ++ [(handle, lead)]) ts
  | ts => some (handles, ts)

/-- The root of the first document, with the tokens after it; a document that starts with a marker
may be empty. -/
def firstDocument (ts : List Token) : Read :=
  let fuel := 4 * ts.length + 4
  match ts with
  | .versionDirective .. :: _ | .tagDirective .. :: _ | .documentStart :: _ => do
    let (handles, ts) ← directives false [] ts
    match ts with
    | .documentStart :: ts =>
      match ts with
      | [] => return (.empty, [])
      | .versionDirective .. :: _ | .tagDirective .. :: _ | .documentStart :: _
      | .documentEnd :: _ => return (.empty, ts)
      | ts => node (handles ++ standardHandles) true false ts fuel
    | _ => none
  | ts => node standardHandles true false ts fuel

/-- The only document of a stream, or nothing for a stream without one. More than one document is an
error. -/
def document? (ts : List Token) : Option (Option (Node String)) :=
  if ts.isEmpty then some none
  else do
    let (root, ts) ← firstDocument ts
    if ts.all (· == .documentEnd) then return some root else none

end Grammar

end RouterConf.Yaml
