import RouterConf.Decimal.Integer
import RouterConf.Text.Blank
import RouterConf.Time.Date

/-!
# Points in time

A point in time is kept in universal time, to the nanosecond. It is written as a date and a time of
day with a `Z`; it is read with any offset from universal time, which has to be stated, and with
blanks between the parts.
-/

namespace RouterConf

/-- A point in time. The second sixty is a leap second. -/
structure Timestamp where
  date : Date
  hour : Nat
  minute : Nat
  second : Nat
  nanos : Nat
  deriving DecidableEq, Repr, Inhabited

namespace Timestamp

def isYear (year : Int) : Bool :=
  -262143 ≤ year && year ≤ 262142

def isValid (t : Timestamp) : Bool :=
  isYear t.date.year && t.date.isValid && t.hour < 24 && t.minute < 60 && t.second ≤ 60 &&
    t.nanos < 1000000000

def epoch : Timestamp :=
  { date := ⟨1970, 1, 1⟩, hour := 0, minute := 0, second := 0, nanos := 0 }

/-! ### Writing -/

def lastDigits : (width : Nat) → Nat → List Char
  | 0, _ => []
  | width + 1, n => lastDigits width (n / 10) ++ [Char.ofNat (48 + n % 10)]

/-- A year: four digits, or a sign and at least four digits beyond them. -/
def yearText (year : Int) : List Char :=
  if 0 ≤ year ∧ year ≤ 9999 then lastDigits 4 year.toNat
  else
    (if year < 0 then '-' else '+') ::
      lastDigits (max 4 (toString year.natAbs).length) year.natAbs

/-- The fraction of a second in groups of three digits, as many as it takes. -/
def fractionText (nanos : Nat) : List Char :=
  if nanos = 0 then []
  else if nanos % 1000000 = 0 then '.' :: lastDigits 3 (nanos / 1000000)
  else if nanos % 1000 = 0 then '.' :: lastDigits 6 (nanos / 1000)
  else '.' :: lastDigits 9 nanos

def text (t : Timestamp) : String :=
  String.ofList (yearText t.date.year ++ '-' :: lastDigits 2 t.date.month ++
    '-' :: lastDigits 2 t.date.day ++ 'T' :: lastDigits 2 t.hour ++ ':' :: lastDigits 2 t.minute ++
    ':' :: lastDigits 2 t.second ++ fractionText t.nanos ++ ['Z'])

/-! ### Reading -/

def skipBlank (cs : List Char) : List Char :=
  cs.dropWhile Text.isBlank

/-- A number of at least one digit and at most `width`, and what follows. -/
def readField (width : Nat) (cs : List Char) : Option (Nat × List Char) := do
  let ds := (cs.take width).takeWhile Char.isDigit
  return (← Decimal.readNat 10 ds, cs.drop ds.length)

/-- A year: at most four digits, or a sign and any number of digits. -/
def readYear (cs : List Char) : Option (Int × List Char) :=
  match cs with
  | '-' :: rest => (readField rest.length rest).map fun (n, rest) => (-(n : Int), rest)
  | '+' :: rest => (readField rest.length rest).map fun (n, rest) => ((n : Int), rest)
  | cs => (readField 4 cs).map fun (n, rest) => ((n : Int), rest)

/-- A mark, with blanks before it allowed, then a number of at most two digits, with blanks before
it allowed, and what follows. -/
def readMarked (mark : Char) (cs : List Char) : Option (Nat × List Char) :=
  match skipBlank cs with
  | [] => none
  | c :: rest => if c = mark then readField 2 (skipBlank rest) else none

/-- The fraction of a second, if there is one: what is finer than a nanosecond is dropped. -/
def readFraction (cs : List Char) : Option (Nat × List Char) :=
  match cs with
  | '.' :: rest => do
    -- Nine digits are nanoseconds; the rest is passed over.
    let ds := rest.takeWhile Char.isDigit
    let kept := ds.take 9
    let n ← Decimal.readNat 10 kept
    return (n * 10 ^ (9 - kept.length), rest.drop ds.length)
  | cs => some (0, cs)

/-- The minutes between an offset's two digits of hours and its two digits of minutes. -/
def readOffsetMinutes (cs : List Char) : Option (Nat × List Char) :=
  match cs with
  | a :: b :: rest => do
    let hours ← Decimal.readNat 10 [a, b]
    match rest.dropWhile fun c => c = ':' || Text.isBlank c with
    | a :: b :: rest =>
      let minutes ← Decimal.readNat 10 [a, b]
      if minutes < 60 then return (hours * 60 + minutes, rest) else none
    | _ => none
  | _ => none

/-- Whether a text starts with the abbreviation of universal time, in either case. -/
def isUniversal (cs : List Char) : Bool :=
  (cs.take 3).map Char.toLower = ['u', 't', 'c']

def readOffset (cs : List Char) : Option (Int × List Char) :=
  if isUniversal cs then some (0, cs.drop 3)
  else
    match cs with
    | [] => none
    | c :: rest =>
      if c = 'Z' ∨ c = 'z' then some (0, rest)
      else if c = '+' then (readOffsetMinutes rest).map fun (n, rest) => ((n : Int), rest)
      else if c = '-' ∨ c = '−' then
        (readOffsetMinutes rest).map fun (n, rest) => (-(n : Int), rest)
      else none

/-- The point in time that is `minutes` earlier. -/
def before (t : Timestamp) (minutes : Int) : Timestamp :=
  if minutes = 0 then t
  else
    -- Offsets are whole minutes: the second stays, even a leap second.
    let total := t.date.number * 1440 + (t.hour * 60 + t.minute : Nat) - minutes
    let ofDay := (total % 1440).toNat
    { t with date := Date.ofNumber (total / 1440), hour := ofDay / 60, minute := ofDay % 60 }

/-- The time of day after the mark between date and time, and what follows. -/
def readTime (date : Date) (cs : List Char) : Option (Timestamp × List Char) := do
  let (hour, rest) ← readField 2 (skipBlank cs)
  let (minute, rest) ← readMarked ':' rest
  let (second, rest) ← readMarked ':' rest
  let (nanos, rest) ← readFraction rest
  return ({ date, hour, minute, second, nanos }, rest)

def ofText? (s : String) : Option Timestamp := do
  let (year, rest) ← readYear (skipBlank s.toList)
  let (month, rest) ← readMarked '-' rest
  let (day, rest) ← readMarked '-' rest
  match rest with
  | [] => none
  | c :: rest =>
    if ['t', 'T', ' '].contains c then
      let (t, rest) ← readTime ⟨year, month, day⟩ rest
      let (offset, rest) ← readOffset (skipBlank rest)
      let utc := t.before offset
      -- An offset may lead out of the years that there are.
      if (skipBlank rest).isEmpty && t.isValid && offset.natAbs < 1440 && isYear utc.date.year then
        return utc
      else none
    else none

end Timestamp

end RouterConf
