import RouterConf.Decimal.Integer

/-!
# Binary floating-point numbers of 64 bits

A value is kept as sign, coefficient and exponent, so that reading and writing it is exact
arithmetic on whole numbers. Reading rounds a decimal to the nearest value, a tie to the even
coefficient. Writing takes the fewest digits that read back as the value and of those the nearest.

Main statement: `roundQuotient_of_dvd`.
-/

namespace RouterConf.Decimal

/-- A floating-point value. A finite one is `coefficient * 2 ^ exponent`, negated by its sign. -/
inductive Binary64 where
  | nan
  | infinite (negative : Bool)
  | finite (negative : Bool) (coefficient : Nat) (exponent : Int)
  deriving DecidableEq, Repr, Inhabited

namespace Binary64

/-! ### Rounding

The coefficient of a value has at most 53 binary digits and its exponent is at least that of the
least positive value. -/

def precision : Nat := 53

/-- The exponent of the least positive value. -/
def minExponent : Int := -1074

def maxExponent : Int := 971

/-- The quotient rounded to the nearest whole number, a tie to the even one. -/
def roundQuotient (num den : Nat) : Nat :=
  let q := num / den
  let twice := 2 * (num % den)
  if twice < den then q
  else if den < twice then q + 1
  else if q % 2 = 0 then q else q + 1

/-- An exact quotient is not changed by rounding. -/
theorem roundQuotient_of_dvd {num den : Nat} (hpos : 0 < den) (h : den ∣ num) :
    roundQuotient num den = num / den := by
  have h0 : num % den = 0 := Nat.mod_eq_zero_of_dvd h
  simp [roundQuotient, h0, hpos]

/-- The number of binary digits of a number. -/
def bitLength (n : Nat) : Nat :=
  if n = 0 then 0 else n.log2 + 1

/-- Two whole numbers whose quotient is `num / (den * 2 ^ e)`. -/
def scaled (num den : Nat) (e : Int) : Nat × Nat :=
  if 0 ≤ e then (num, den * 2 ^ e.toNat) else (num * 2 ^ (-e).toNat, den)

/-- The greatest exponent at which `num / den` may still have a full coefficient: at it or one below
the rounded coefficient has 53 digits. -/
def startExponent (num den : Nat) : Int :=
  max minExponent ((bitLength num : Int) - bitLength den - precision)

/-- The value nearest to the quotient of two positive numbers. -/
def ofQuotient (negative : Bool) (num den : Nat) : Binary64 :=
  let e₀ := startExponent num den
  let (n₀, d₀) := scaled num den e₀
  -- The first exponent is at most one too small.
  let e := if n₀ / d₀ < 2 ^ precision then e₀ else e₀ + 1
  let (n, d) := scaled num den e
  let m := roundQuotient n d
  -- Rounding up may carry into one digit more, and the coefficient is then a power of two.
  let (m, e) := if m < 2 ^ precision then (m, e) else (m / 2, e + 1)
  if maxExponent < e then infinite negative
  else if m = 0 then finite negative 0 minExponent
  else finite negative m e

/-- The value nearest to `digits * 10 ^ exponent`. Exponents far outside the range are settled
without computing the power. -/
def ofDecimal (negative : Bool) (digits : Nat) (exponent : Int) : Binary64 :=
  if digits = 0 then finite negative 0 minExponent
  else
    let magnitude : Int := (Nat.toDigits 10 digits).length + exponent
    -- The values lie well between `10 ^ -400` and `10 ^ 400`.
    if 400 < magnitude then infinite negative
    else if magnitude < -400 then finite negative 0 minExponent
    else if 0 ≤ exponent then ofQuotient negative (digits * 10 ^ exponent.toNat) 1
    else ofQuotient negative digits (10 ^ (-exponent).toNat)

/-! ### Reading -/

/-- The digits at the front of a text and what follows them. -/
def spanDigits (cs : List Char) : List Char × List Char :=
  (cs.takeWhile Char.isDigit, cs.dropWhile Char.isDigit)

/-- An exponent part: nothing, or a letter, an optional sign and digits. -/
def readExponent : List Char → Option Int
  | [] => some 0
  | c :: cs => if c = 'e' ∨ c = 'E' then readSigned 10 cs else none

/-- A finite decimal: an optional sign, digits with an optional point among or beside them, and an
optional exponent. -/
def readFinite (cs : List Char) : Option Binary64 :=
  let (negative, cs) := match cs with
    | '-' :: r => (true, r)
    | '+' :: r => (false, r)
    | r => (false, r)
  let (whole, rest) := spanDigits cs
  let (fraction, rest) := match rest with
    | '.' :: r => spanDigits r
    | r => ([], r)
  if whole.isEmpty && fraction.isEmpty then none
  else do
    let exponent ← readExponent rest
    let digits ← digitsValue 10 (whole ++ fraction)
    return ofDecimal negative digits (exponent - fraction.length)

def isFinite : Binary64 → Bool
  | finite .. => true
  | _ => false

/-! ### Shortest digits -/

/-- The decimal points that read back as a value, as `lo .. hi` in units of `1 / den`, with the
value itself at `mid`. The ends count only for an even coefficient. -/
structure Interval where
  lo : Nat
  mid : Nat
  hi : Nat
  den : Nat
  closed : Bool
  deriving Repr

/-- The interval of a positive value. Below a power of two the next value is half as far. -/
def interval (coefficient : Nat) (exponent : Int) : Interval :=
  let lowGap := if coefficient = 2 ^ (precision - 1) ∧ minExponent < exponent then 1 else 2
  -- Everything is counted in quarters of the last place, so that all ends are whole.
  let e := exponent - 2
  let unit := if 0 ≤ e then 2 ^ e.toNat else 1
  let den := if 0 ≤ e then 1 else 2 ^ (-e).toNat
  { lo := (4 * coefficient - lowGap) * unit
    mid := 4 * coefficient * unit
    hi := (4 * coefficient + 2) * unit
    den := den
    closed := coefficient % 2 = 0 }

def Interval.contains (i : Interval) (d : Nat) (k : Int) : Bool :=
  let value := d * 10 ^ k.toNat * i.den
  let scale := 10 ^ (-k).toNat
  if i.closed then i.lo * scale ≤ value && value ≤ i.hi * scale
  else i.lo * scale < value && value < i.hi * scale

/-- The point of the grid `10 ^ k` that reads back as the value and is nearest to it, if there is
one; a tie goes to the even digit. -/
def Interval.onGrid (i : Interval) (k : Int) : Option Nat :=
  let num := i.mid * 10 ^ (-k).toNat
  let den := i.den * 10 ^ k.toNat
  let below := num / den
  -- Of all points of the grid only the two next to the value can be nearest to it.
  let nearest := roundQuotient num den
  let other := if nearest = below then below + 1 else below
  if i.contains nearest k then some nearest
  else if i.contains other k then some other
  else none

/-- The first grid at or below `10 ^ k` that has a point in the interval, and that point. -/
def Interval.search (i : Interval) (k : Int) : Nat → Nat × Int
  | 0 => (0, k)
  | fuel + 1 =>
    match i.onGrid k with
    -- Zero is no text of a positive value, however wide the interval is.
    | some d => if d = 0 then i.search (k - 1) fuel else (d, k)
    | none => i.search (k - 1) fuel

/-- A number without its trailing decimal zeros, and how many there were. -/
def stripZeros (d : Nat) : Nat → Nat × Nat
  | 0 => (d, 0)
  | fuel + 1 =>
    if d % 10 = 0 ∧ d ≠ 0 then
      let (r, n) := stripZeros (d / 10) fuel
      (r, n + 1)
    else (d, 0)

/-- The fewest digits `d` and the exponent `k` for which `d * 10 ^ k` reads back as a positive
value. -/
def shortest (coefficient : Nat) (exponent : Int) : Nat × Int :=
  let i := interval coefficient exponent
  let whole := (Nat.toDigits 10 (i.hi / i.den)).length
  let (d, k) := i.search whole 400
  let (d, zeros) := stripZeros d 20
  (d, k + zeros)

/-! ### Writing -/

/-- The layout of a decimal: positional from `10 ^ -5` up to `10 ^ 16`, else with an exponent; a
whole number keeps one zero after the point. -/
def layout (digits : List Char) (k : Int) : List Char :=
  let length : Int := digits.length
  let point := length + k
  if 0 ≤ k ∧ point ≤ 16 then digits ++ List.replicate k.toNat '0' ++ ['.', '0']
  else if 0 < point ∧ point ≤ 16 then digits.take point.toNat ++ '.' :: digits.drop point.toNat
  else if -5 < point ∧ point ≤ 0 then
    ['0', '.'] ++ List.replicate (-point).toNat '0' ++ digits
  else
    let exponent := (toString (point - 1)).toList
    match digits with
    | [d] => d :: 'e' :: exponent
    | d :: ds => d :: '.' :: ds ++ 'e' :: exponent
    | [] => []

def text : Binary64 → String
  | nan => ".nan"
  | infinite negative => if negative then "-.inf" else ".inf"
  | finite negative coefficient exponent =>
    let body :=
      if coefficient = 0 then ['0', '.', '0']
      else
        let (d, k) := shortest coefficient exponent
        layout (Nat.toDigits 10 d) k
    String.ofList (if negative then '-' :: body else body)

/-- Equality of values as numbers: the two zeros are one number. -/
def same : Binary64 → Binary64 → Bool
  | finite n m e, finite n' m' e' => (m = 0 && m' = 0) || (n == n' && m == m' && e == e')
  | a, b => a == b

end Binary64

end RouterConf.Decimal
