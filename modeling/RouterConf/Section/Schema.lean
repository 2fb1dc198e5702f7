import RouterConf.Section.Kind
import RouterConf.Text.Blank
import RouterConf.Yaml.Value

/-!
# Option schemas

Every kind of section declares the options that it may have: their names, types, whether they are
required, and their defaults. Raw values pass through `Schema.instantiate` once and come out as
`Options`, where every declared option has an entry and every value is of the declared type.

Main statement: `Options.get?_cons`.
-/

namespace RouterConf

open Yaml (Value)

inductive OptionType where
  | text
  | integer
  | flag
  | list
  deriving DecidableEq, Repr, Inhabited

def OptionType.label : OptionType → String
  | text => "a string"
  | integer => "an integer"
  | flag => "a boolean"
  | list => "a list of strings"

inductive OptionValue where
  | text (s : String)
  | integer (n : Int)
  | flag (b : Bool)
  | list (items : List String)
  deriving DecidableEq, Repr, Inhabited

namespace OptionValue

def type : OptionValue → OptionType
  | text _ => .text
  | integer _ => .integer
  | flag _ => .flag
  | list _ => .list

/-- How a value is shown: a flag as a digit, the items of a list with spaces between. -/
def shown : OptionValue → String
  | text s => s
  | integer n => toString n
  | flag b => if b then "1" else "0"
  | list items => " ".intercalate items

end OptionValue

/-- The declaration of an option. Without a default it stays unset where it is not given. -/
structure OptionSpec where
  name : String
  type : OptionType
  required : Bool := false
  default? : Option OptionValue := none
  deriving DecidableEq, Repr, Inhabited

/-- The declared options of a section, in the order in which they are listed. -/
abbrev Schema := List OptionSpec

/-- The options of a section in schema order, each set or unset. -/
abbrev Options := List (String × Option OptionValue)

namespace Options

/-- The value of the first option of a name, if it is set. -/
def get? (o : Options) (name : String) : Option OptionValue :=
  ((o.find? fun entry => entry.1 == name).map (·.2)).join

theorem get?_cons (entry : String × Option OptionValue) (o : Options) (name : String) :
    get? (entry :: o) name = if entry.1 = name then entry.2 else get? o name := by
  by_cases h : entry.1 = name <;> simp [get?, h]

def text? (o : Options) (name : String) : Option String :=
  match o.get? name with
  | some (.text s) => some s
  | _ => none

def integer? (o : Options) (name : String) : Option Int :=
  match o.get? name with
  | some (.integer n) => some n
  | _ => none

/-- The value of a flag; an unset one is false. -/
def flag (o : Options) (name : String) : Bool :=
  o.get? name == some (.flag true)

def list? (o : Options) (name : String) : Option (List String) :=
  match o.get? name with
  | some (.list items) => some items
  | _ => none

def names (o : Options) : List String :=
  o.map (·.1)

end Options

/-! ### Errors -/

inductive ValidationError where
  | unknownSection (file type : String)
  | missingField (owner option : String)
  | unknownOption (owner option : String)
  | invalidValue (owner option : String) (expected : OptionType) (found : String)
  deriving DecidableEq, Repr

def ValidationError.message : ValidationError → String
  | unknownSection file type => "unknown section type " ++ file ++ "." ++ type
  | missingField s o => "section " ++ s ++ ": missing required option '" ++ o ++ "'"
  | unknownOption s o => "section " ++ s ++ ": unknown option '" ++ o ++ "'"
  | invalidValue s o expected found =>
    "section " ++ s ++ ": option '" ++ o ++ "' expects " ++ expected.label ++ ", got " ++ found

/-! ### Coercion -/

/-- The words for true and false in a text. -/
def flagOfText (s : String) : Option Bool :=
  let word := Text.asciiLower (Text.trim s)
  if ["1", "true", "yes", "on", "enabled"].contains word then some true
  else if ["0", "false", "no", "off", "disabled"].contains word then some false
  else none

def int64? (n : Int) : Option Int :=
  if Decimal.minInt64 ≤ n ∧ n ≤ Decimal.maxInt64 then some n else none

/-- A raw value as one of a type. A single scalar makes a list of one item. -/
def OptionType.coerce (type : OptionType) (raw : Value) : Option OptionValue :=
  match type with
  | .text => raw.scalarText.map .text
  | .integer =>
    match raw with
    | .int n => (int64? n).map .integer
    | .text s => (Decimal.readInt64 (Text.trim s)).map .integer
    | _ => none
  | .flag =>
    match raw with
    | .bool b => some (.flag b)
    | .int n => if n = 0 then some (.flag false) else if n = 1 then some (.flag true) else none
    | .text s => (flagOfText s).map .flag
    | _ => none
  | .list =>
    match raw with
    | .list items => (items.mapM Value.scalarText).map .list
    -- A text is not split at its blanks.
    | other => other.scalarText.map fun s => .list [s]

/-! ### Instantiation -/

/-- The name under which a raw key is looked for in a schema. -/
def keyName (key : Value) : String :=
  key.scalarText.getD ""

namespace Schema

def declares (schema : Schema) (name : String) : Bool :=
  schema.any fun spec => spec.name = name

/-- The name of the first key that no option has. -/
def stray? (schema : Schema) (raw : List (Value × Value)) : Option String :=
  (raw.map fun entry => keyName entry.1).find? fun name => !schema.declares name

/-- The value given for an option; null counts as absent. -/
def given? (raw : List (Value × Value)) (spec : OptionSpec) : Option Value :=
  match Value.get? raw spec.name with
  | some .null => none
  | other => other

def entry (owner : String) (raw : List (Value × Value)) (spec : OptionSpec) :
    Except ValidationError (String × Option OptionValue) :=
  match given? raw spec with
  | some value =>
    match spec.type.coerce value with
    | some v => .ok (spec.name, some v)
    | none => .error (.invalidValue owner spec.name spec.type value.describe)
  | none =>
    if spec.required then .error (.missingField owner spec.name)
    else .ok (spec.name, spec.default?)

/-- The options that raw values denote. Unknown keys are found first, then faults in the order of
the schema. `owner` names the section in errors. -/
def instantiate (owner : String) (schema : Schema) (raw : List (Value × Value)) :
    Except ValidationError Options :=
  match schema.stray? raw with
  | some option => .error (.unknownOption owner option)
  | none => schema.mapM (entry owner raw)

end Schema

end RouterConf
