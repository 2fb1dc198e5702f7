import RouterConf.Decimal.Binary64

/-!
# Values of a YAML document

The values that a document denotes, the reading of plain scalars, and the sameness of values that
decides whether a key is repeated.
-/

namespace RouterConf.Yaml

open Decimal (Binary64)

/-- A value. Integers are those of 64 bits, signed or unsigned. -/
inductive Value where
  | null
  | bool (b : Bool)
  | int (n : Int)
  | float (x : Binary64)
  | text (s : String)
  | list (items : List Value)
  | map (entries : List (Value × Value))
  | tagged (tag : String) (value : Value)
  deriving Repr, Inhabited

namespace Value

/-! ### Sameness -/

mutual

/-- Whether two values are the same key. The order of a mapping does not matter, and neither does
the mark in front of a tag. -/
def same : Value → Value → Bool
  | .null, .null => true
  | .bool a, .bool b => a == b
  | .int a, .int b => a == b
  | .float a, .float b => a.same b
  | .text a, .text b => a == b
  | .list as, .list bs => sameItems as bs
  | .map as, .map bs => as.length == bs.length && sameEntries as bs
  | .tagged t a, .tagged u b =>
    t.toList.dropWhile (· = '!') == u.toList.dropWhile (· = '!') && same a b
  | _, _ => false

/-- Whether two lists hold the same values in order. -/
def sameItems : List Value → List Value → Bool
  | [], [] => true
  | a :: as, b :: bs => same a b && sameItems as bs
  | _, _ => false

/-- Whether each of some entries is among others. -/
def sameEntries : List (Value × Value) → List (Value × Value) → Bool
  | [], _ => true
  | (k, v) :: as, bs => bs.any (fun (k', v') => same k k' && same v v') && sameEntries as bs

end

/-- The entries with a key set: a repeated key takes the new value and keeps its place. -/
def insert (entries : List (Value × Value)) (key value : Value) : List (Value × Value) :=
  if entries.any (fun (k, _) => same k key) then
    entries.map fun (k, v) => if same k key then (k, value) else (k, v)
  else entries ++ [(key, value)]

def get? (entries : List (Value × Value)) (name : String) : Option Value :=
  (entries.find? fun
    | (.text k, _) => k == name
    | _ => false).map (·.2)

/-! ### Plain scalars -/

/-- The written forms of the null value, the empty one apart. -/
def isNullText (s : String) : Bool :=
  s = "null" || s = "Null" || s = "NULL" || s = "~"

def boolOfText (s : String) : Option Bool :=
  if s = "true" || s = "True" || s = "TRUE" then some true
  else if s = "false" || s = "False" || s = "FALSE" then some false
  else none

/-- Digits after a leading zero are no number. -/
def isPaddedNumber (cs : List Char) : Bool :=
  let cs := match cs with
    | '-' :: r => r
    | '+' :: r => r
    | r => r
  cs.length > 1 && cs.head? = some '0' && cs.all Char.isDigit

/-- Digits of a radix that a lower-case letter after a zero names, and what to do if there is no
such radix. -/
def radixDigits (cs : List Char) (otherwise : Option Nat) : Option Nat :=
  let tagged (radix : Nat) (r : List Char) := Decimal.readNat radix r <|> otherwise
  match cs with
  | '0' :: 'x' :: r => tagged 16 r
  | '0' :: 'o' :: r => tagged 8 r
  | '0' :: 'b' :: r => tagged 2 r
  | _ => otherwise

/-- A whole number of any size: decimal, or in radix 16, 8 or 2. -/
def wholeOfText (cs : List Char) : Option Int :=
  let padded := isPaddedNumber cs
  match cs with
  | '-' :: r =>
    (radixDigits r (if padded then none else Decimal.readNat 10 r)).map fun n => -(n : Int)
  | '+' :: r => (radixDigits r (if padded then none else Decimal.readNat 10 r)).map Int.ofNat
  | r => (radixDigits r (if padded then none else Decimal.readNat 10 r)).map Int.ofNat

/-- A whole number as a value. One that takes more than 64 bits and at most 128 is refused, by the
inner `none`; one beyond that is no whole number. -/
def intOfText (cs : List Char) : Option (Option Value) :=
  (wholeOfText cs).bind fun n =>
    if -2 ^ 63 ≤ n ∧ n < 2 ^ 64 then some (some (.int n))
    else if -2 ^ 127 ≤ n ∧ n < 2 ^ 128 then some none
    else none

/-- A floating-point number: a decimal in range, or a name of infinity or of the undefined number.
-/
def floatOfText (s : String) : Option Binary64 :=
  let unsigned := match s.toList with
    | '+' :: r => r
    | r => r
  let name := String.ofList unsigned
  if name = ".inf" || name = ".Inf" || name = ".INF" then some (.infinite false)
  else if s = "-.inf" || s = "-.Inf" || s = "-.INF" then some (.infinite true)
  else if s = ".nan" || s = ".NaN" || s = ".NAN" then some .nan
  else if s.toList.head? = some '+' && (unsigned.head? = some '+' || unsigned.head? = some '-') then
    none
  else (Binary64.readFinite unsigned).filter Binary64.isFinite

/-- The value of a plain scalar. Only a whole number that is too large is refused. -/
def ofPlain (s : String) : Option Value :=
  if s.isEmpty || isNullText s then some .null
  else match boolOfText s with
    | some b => some (.bool b)
    | none =>
      match intOfText s.toList with
      | some v => v
      | none =>
        if isPaddedNumber s.toList then some (.text s)
        else match floatOfText s with
          | some x => some (.float x)
          | none => some (.text s)

/-! ### Text of values -/

/-- The text that a scalar value has where text is wanted; null, collections and tagged values have
none. -/
def scalarText : Value → Option String
  | .text s => some s
  | .int n => some (toString n)
  | .float x => some x.text
  | .bool b => some (if b then "true" else "false")
  | _ => none

def describe : Value → String
  | .null => "null"
  | .bool b => if b then "boolean true" else "boolean false"
  | .int n => "number " ++ toString n
  | .float x => "number " ++ x.text
  | .text s => "'" ++ s ++ "'"
  | .list _ => "a list"
  | .map _ => "a mapping"
  | .tagged .. => "a tagged value"

end Value

end RouterConf.Yaml
