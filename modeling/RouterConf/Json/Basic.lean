import RouterConf.Text.Quoted

/-!
# JSON values and their written form

Values are written over several lines, two more spaces deep for every level; an empty list or object
stays on its line. A text is escaped only where the format demands it.

Main statement: `Json.escape_eq_self`.
-/

namespace RouterConf

inductive Json where
  | null
  | bool (b : Bool)
  /-- A number as it is written. -/
  | number (digits : String)
  /-- A text, or none where an escape stands for half of a character only. -/
  | string (s : Option String)
  | list (items : List Json)
  /-- The fields in order; a key may be repeated. -/
  | object (fields : List (Option String × Json))
  deriving Inhabited

namespace Json

def ofText (s : String) : Json :=
  string (some s)

def ofInt (n : Int) : Json :=
  number (toString n)

def ofFields (fields : List (String × Json)) : Json :=
  object (fields.map fun (key, value) => (some key, value))

/-! ### Writing -/

/-- The written form of one character inside a text. -/
def escape (c : Char) : List Char :=
  if c = '\x22' ∨ c = '\\' then ['\\', c]
  else if c = '\n' then ['\\', 'n']
  else if c = '\r' then ['\\', 'r']
  else if c = '\t' then ['\\', 't']
  else if c = '\x08' then ['\\', 'b']
  else if c = '\x0c' then ['\\', 'f']
  else if c.toNat < 32 then
    ['\\', 'u', '0', '0', Text.hexDigit (c.toNat / 16), Text.hexDigit (c.toNat % 16)]
  else [c]

/-- Only quotes, backslashes and control characters are escaped. -/
theorem escape_eq_self {c : Char} (h : 32 ≤ c.toNat) (hq : c ≠ '\x22') (hb : c ≠ '\\') :
    escape c = [c] := by
  have low : ∀ d : Char, d.toNat < 32 → c ≠ d := by
    rintro d hd rfl
    omega
  have hn := low '\n' (by decide)
  have hr := low '\r' (by decide)
  have ht := low '\t' (by decide)
  have h8 := low '\x08' (by decide)
  have hc := low '\x0c' (by decide)
  simp [escape, hq, hb, hn, hr, ht, h8, hc, Nat.not_lt.2 h]

def writeText (s : Option String) : List Char :=
  ['\x22'] ++ (s.getD "").toList.flatMap escape ++ ['\x22']

def lineAt (level : Nat) : List Char :=
  '\n' :: List.replicate (2 * level) ' '

mutual

/-- A value that starts on a line of this level. -/
def write (level : Nat) : Json → List Char
  | null => ['n', 'u', 'l', 'l']
  | bool true => ['t', 'r', 'u', 'e']
  | bool false => ['f', 'a', 'l', 's', 'e']
  | number digits => digits.toList
  | string s => writeText s
  | list [] => ['[', ']']
  | list (item :: items) =>
    '[' :: lineAt (level + 1) ++ write (level + 1) item ++ writeItems (level + 1) items ++
      lineAt level ++ [']']
  | object [] => ['\x7b', '\x7d']
  | object ((key, value) :: fields) =>
    '\x7b' :: lineAt (level + 1) ++ writeText key ++ [':', ' '] ++ write (level + 1) value ++
      writeFields (level + 1) fields ++ lineAt level ++ ['\x7d']

/-- The items of a list after the first. -/
def writeItems (level : Nat) : List Json → List Char
  | [] => []
  | item :: items => ',' :: lineAt level ++ write level item ++ writeItems level items

/-- The fields of an object after the first. -/
def writeFields (level : Nat) : List (Option String × Json) → List Char
  | [] => []
  | (key, value) :: fields =>
    ',' :: lineAt level ++ writeText key ++ [':', ' '] ++ write level value ++
      writeFields level fields

end

def text (v : Json) : String :=
  String.ofList (v.write 0)

end Json

end RouterConf
