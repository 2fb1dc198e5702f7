import RouterConf.Section.Basic
import RouterConf.Yaml.Document

/-!
# Sections of a document

A document is a list of sections, each a mapping with the texts `kind`, `type` and `name` and
perhaps a mapping `options`; other keys are ignored. The whole document is read before any section
is validated.
-/

namespace RouterConf

open Yaml

namespace RawSection

structure Fields where
  file : Option String := none
  type : Option String := none
  name : Option String := none
  options : Option (List (Value × Value)) := none

/-- The fields of a section, given its entries. A field that comes twice is an error. Options lie in
collections nested at most `depth` deep. -/
def readFields (d : Document) (depth : Nat) (f : Fields) :
    List (Node Nat × Node Nat) → Document.Reader Fields
  | [] => pure f
  | (k, v) :: es => do
    let key ← d.scalar k
    let f ←
      if key = "kind" then
        if f.file.isSome then Document.refuse else
          pure { f with file := some (← d.scalar v) }
      else if key = "type" then
        if f.type.isSome then Document.refuse else
          pure { f with type := some (← d.scalar v) }
      else if key = "name" then
        if f.name.isSome then Document.refuse else
          pure { f with name := some (← d.scalar v) }
      else if key = "options" then
        if f.options.isSome then Document.refuse else
          pure { f with options := some (← d.mapping depth v) }
      -- The value of another key is not even looked at.
      else pure f
    readFields d depth f es

/-- A section; all fields but the options have to be there. -/
def read (d : Document) (depth : Nat) (node : Node Nat) : Document.Reader RawSection := do
  let f ← readFields d depth {} (← d.entries node)
  match f.file, f.type, f.name with
  | some file, some type, some name =>
    return { file, type, name, options := f.options.getD [] }
  | _, _, _ => Document.refuse

/-- The sections of a document in order. The list and a section are collections themselves. -/
def listOfDocument (d : Document) : Option (List RawSection) :=
  let reader := do (← d.items d.root).mapM (read d (Document.maxDepth - 2))
  (reader.run d.budget).map (·.1)

/-- The sections that a text declares, if it is a document that lists sections. -/
def listOfText (text : String) : Option (List RawSection) :=
  (Document.parse text).bind listOfDocument

end RawSection

end RouterConf
