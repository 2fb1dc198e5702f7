/-!
# Whole numbers in positional notation

Reading a whole number written in digits of a radix, with an optional sign and between two bounds.
Digits are the ASCII ones; there is no grouping and no surrounding space.

Main statement: `digitsValue_append_singleton`.
-/

namespace RouterConf.Decimal

-- Powers of numbers are the built-in ones, whatever else is in scope.
attribute [instance(2000), default_instance(20000)] instPowNat

/-- The value of an ASCII digit or letter below `radix`. -/
def digitValue (radix : Nat) (c : Char) : Option Nat :=
  let value :=
    if c.isDigit then c.toNat - 48
    else if 'a' ≤ c ∧ c ≤ 'z' then c.toNat - 87
    else if 'A' ≤ c ∧ c ≤ 'Z' then c.toNat - 55
    else radix
  if value < radix then some value else none

/-- The value of a sequence of digits, `0` for none; fails at the first character that is no
digit. -/
def digitsValue (radix : Nat) (cs : List Char) : Option Nat :=
  cs.foldlM (fun n c => (digitValue radix c).map (radix * n + ·)) 0

@[simp] theorem digitsValue_nil (radix : Nat) : digitsValue radix [] = some 0 := rfl

theorem digitsValue_append_singleton (radix : Nat) (cs : List Char) (c : Char) :
    digitsValue radix (cs ++ [c]) =
      (digitsValue radix cs).bind fun n => (digitValue radix c).map (radix * n + ·) := by
  simp [digitsValue, List.foldlM_append]

/-- A number in `radix`: at least one digit and nothing else. -/
def readNat (radix : Nat) (cs : List Char) : Option Nat :=
  if cs.isEmpty then none else digitsValue radix cs

def readPlusNat (radix : Nat) : List Char → Option Nat
  | '+' :: cs => readNat radix cs
  | cs => readNat radix cs

def readSigned (radix : Nat) : List Char → Option Int
  | '-' :: cs => (readNat radix cs).map fun n => -(n : Int)
  | cs => (readPlusNat radix cs).map Int.ofNat

/-- A decimal number with an optional sign that lies between `lo` and `hi`. -/
def readInt (lo hi : Int) (cs : List Char) : Option Int :=
  (readSigned 10 cs).filter fun n => lo ≤ n && n ≤ hi

def minInt64 : Int := -2 ^ 63

def maxInt64 : Int := 2 ^ 63 - 1

/-- A decimal number with an optional sign that fits 64 bits. -/
def readInt64 (s : String) : Option Int :=
  readInt minInt64 maxInt64 s.toList

end RouterConf.Decimal
