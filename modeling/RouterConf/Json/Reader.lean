import RouterConf.Json.Basic

/-!
# Reading JSON

The grammar of JSON, strictly: no comments, no comma at the end of a list, nothing after the value.
An escape for half of a surrogate pair is allowed by the grammar but stands for no character; a text
with one is kept as no text, so that a reader of the value may skip it.

Main statement: `Json.literal_quote`.
-/

namespace RouterConf

namespace Json

/-! ### Texts -/

def hexValue (c : Char) : Option Nat :=
  if '0' ≤ c ∧ c ≤ '9' then some (c.toNat - 48)
  else if 'a' ≤ c ∧ c ≤ 'f' then some (c.toNat - 87)
  else if 'A' ≤ c ∧ c ≤ 'F' then some (c.toNat - 55)
  else none

def hexUnit (a b c d : Char) : Option Nat := do
  return ((← hexValue a) * 16 + (← hexValue b)) * 256 + ((← hexValue c) * 16 + (← hexValue d))

def escaped : Char → Option Char
  | '\x22' => some '\x22'
  | '\\' => some '\\'
  | '/' => some '/'
  | 'b' => some '\x08'
  | 'f' => some '\x0c'
  | 'n' => some '\n'
  | 'r' => some '\r'
  | 't' => some '\t'
  | _ => none

/-- A part of a text: a character, or a unit of sixteen bits that an escape gives by number. -/
inductive TextPart where
  | char (c : Char)
  | unit (n : Nat)
  deriving DecidableEq, Repr

def isHigh (n : Nat) : Bool :=
  0xD800 ≤ n && n < 0xDC00

def isLow (n : Nat) : Bool :=
  0xDC00 ≤ n && n < 0xE000

/-- The characters that parts stand for; two units may pair up for one, and half a pair stands for
none. -/
def joinParts : List TextPart → Option (List Char)
  | [] => some []
  | .char c :: rest => (joinParts rest).map (c :: ·)
  | .unit n :: .unit m :: rest =>
    if isHigh n && isLow m then
      (joinParts rest).map (Char.ofNat (0x10000 + (n - 0xD800) * 0x400 + (m - 0xDC00)) :: ·)
    else if isHigh n || isLow n then none
    -- The second unit may be the first half of the next pair.
    else (joinParts (.unit m :: rest)).map (Char.ofNat n :: ·)
  | .unit n :: rest =>
    if isHigh n || isLow n then none else (joinParts rest).map (Char.ofNat n :: ·)

/-- The parts of a text up to its closing quote, and what follows. -/
def literal : List Char → Option (List TextPart × List Char)
  | [] => none
  | '\x22' :: rest => some ([], rest)
  | '\\' :: 'u' :: a :: b :: c :: d :: rest => do
    let n ← hexUnit a b c d
    let (parts, rest) ← literal rest
    return (.unit n :: parts, rest)
  | '\\' :: c :: rest => do
    let c ← escaped c
    let (parts, rest) ← literal rest
    return (.char c :: parts, rest)
  | c :: rest => do
    -- Control characters have to be escaped.
    if c.toNat < 32 then none
    else
      let (parts, rest) ← literal rest
      return (.char c :: parts, rest)

@[simp] theorem literal_quote (rest : List Char) : literal ('\x22' :: rest) = some ([], rest) := by
  rw [literal]

/-- A text after its opening quote. -/
def readText (cs : List Char) : Option (Option String × List Char) := do
  let (parts, rest) ← literal cs
  return ((joinParts parts).map String.ofList, rest)

/-! ### Numbers -/

def digits (cs : List Char) : Option (List Char × List Char) :=
  let ds := cs.takeWhile Char.isDigit
  if ds.isEmpty then none else some (ds, cs.dropWhile Char.isDigit)

/-- The digits before the point: a zero is not followed by more. -/
def wholePart : List Char → Option (List Char × List Char)
  | '0' :: rest =>
    match rest with
    | [] => some (['0'], [])
    | c :: rest => if c.isDigit then none else some (['0'], c :: rest)
  | cs => digits cs

def fractionPart : List Char → Option (List Char × List Char)
  | '.' :: rest => do
    let (ds, rest) ← digits rest
    return ('.' :: ds, rest)
  | cs => some ([], cs)

def exponentPart : List Char → Option (List Char × List Char)
  | [] => some ([], [])
  | e :: rest =>
    if e = 'e' ∨ e = 'E' then
      match rest with
      | '+' :: rest => do
        let (ds, rest) ← digits rest
        return (e :: '+' :: ds, rest)
      | '-' :: rest => do
        let (ds, rest) ← digits rest
        return (e :: '-' :: ds, rest)
      | rest => do
        let (ds, rest) ← digits rest
        return (e :: ds, rest)
    else some ([], e :: rest)

def readNumber (cs : List Char) : Option (Json × List Char) := do
  let (sign, rest) := match cs with
    | '-' :: rest => (['-'], rest)
    | cs => ([], cs)
  let (whole, rest) ← wholePart rest
  let (fraction, rest) ← fractionPart rest
  let (exponent, rest) ← exponentPart rest
  return (number (String.ofList (sign ++ whole ++ fraction ++ exponent)), rest)

/-! ### Values -/

/-- The blanks that may stand between the parts of a value. -/
def isSpace (c : Char) : Bool :=
  c = ' ' || c = '\n' || c = '\t' || c = '\r'

def skipSpace (cs : List Char) : List Char :=
  cs.dropWhile isSpace

def readKey (cs : List Char) : Option (Option String × List Char) :=
  match skipSpace cs with
  | '\x22' :: rest => do
    let (key, rest) ← readText rest
    match skipSpace rest with
    | ':' :: rest => return (key, rest)
    | _ => none
  | _ => none

mutual

/-- A value, and what follows. `fuel` bounds the number of values and marks in the text. -/
def readValue : (fuel : Nat) → List Char → Option (Json × List Char)
  | 0, _ => none
  | fuel + 1, cs =>
    match skipSpace cs with
    | 'n' :: 'u' :: 'l' :: 'l' :: rest => some (null, rest)
    | 't' :: 'r' :: 'u' :: 'e' :: rest => some (bool true, rest)
    | 'f' :: 'a' :: 'l' :: 's' :: 'e' :: rest => some (bool false, rest)
    | '\x22' :: rest => do
      let (s, rest) ← readText rest
      return (string s, rest)
    | '[' :: rest =>
      match skipSpace rest with
      | ']' :: rest => some (list [], rest)
      | rest => do
        let (item, rest) ← readValue fuel rest
        let (items, rest) ← readItems fuel rest
        return (list (item :: items), rest)
    | '\x7b' :: rest =>
      match skipSpace rest with
      | '\x7d' :: rest => some (object [], rest)
      | rest => do
        let (key, rest) ← readKey rest
        let (value, rest) ← readValue fuel rest
        let (fields, rest) ← readFields fuel rest
        return (object ((key, value) :: fields), rest)
    | rest => readNumber rest

/-- The items of a list after the first, and what follows its bracket. -/
def readItems : (fuel : Nat) → List Char → Option (List Json × List Char)
  | 0, _ => none
  | fuel + 1, cs =>
    match skipSpace cs with
    | ']' :: rest => some ([], rest)
    | ',' :: rest => do
      let (item, rest) ← readValue fuel rest
      let (items, rest) ← readItems fuel rest
      return (item :: items, rest)
    | _ => none

/-- The fields of an object after the first, and what follows its bracket. -/
def readFields : (fuel : Nat) → List Char → Option (List (Option String × Json) × List Char)
  | 0, _ => none
  | fuel + 1, cs =>
    match skipSpace cs with
    | '\x7d' :: rest => some ([], rest)
    | ',' :: rest => do
      let (key, rest) ← readKey rest
      let (value, rest) ← readValue fuel rest
      let (fields, rest) ← readFields fuel rest
      return ((key, value) :: fields, rest)
    | _ => none

end

def ofString? (s : String) : Option Json :=
  let cs := s.toList
  match readValue (cs.length + 1) cs with
  | some (v, rest) => if (skipSpace rest).isEmpty then some v else none
  | none => none

/-! ### Access -/

def text? : Json → Option String
  | string s => s
  | _ => none

/-- The value of a field that is there exactly once. -/
def field? (fields : List (Option String × Json)) (name : String) : Option Json :=
  match fields.filter fun entry => entry.1 = some name with
  | [(_, value)] => some value
  | _ => none

/-- The values of a record with these fields. It may be written as an object, which may have more
fields, or as the list of the values in order. -/
def members (names : List String) : Json → Option (List Json)
  | list items => if items.length = names.length then some items else none
  | object fields =>
    if fields.all fun entry => entry.1.isSome then names.mapM (field? fields) else none
  | _ => none

end Json

end RouterConf
