import RouterConf.Text.Boundaries

/-!
# Quoted text

The quoted form of a text: between double quotes, with a backslash escape for every character that
cannot be read off a page. It is used where a message shows the contents of a file.

Main statement: `escape_eq_self`.
-/

namespace RouterConf.Text

/-- One hexadecimal digit in lower case. -/
def hexDigit (n : Nat) : Char :=
  if n < 10 then Char.ofNat (48 + n) else Char.ofNat (87 + n)

/-- The hexadecimal digits of a number, most significant first and without leading zeros. -/
def hexDigits (n : Nat) : List Char :=
  if n < 16 then [hexDigit n] else hexDigits (n / 16) ++ [hexDigit (n % 16)]
termination_by n
decreasing_by omega

def isShown (c : Char) : Bool :=
  !inClass c.toNat hiddenBoundaries

def escape (c : Char) : List Char :=
  if c = '\x00' then ['\\', '0']
  else if c = '\t' then ['\\', 't']
  else if c = '\r' then ['\\', 'r']
  else if c = '\n' then ['\\', 'n']
  else if c = '\\' ∨ c = '"' then ['\\', c]
  else if isShown c then [c]
  else ['\\', 'u', '\x7b'] ++ hexDigits c.toNat ++ ['\x7d']

def quoted (s : String) : String :=
  String.ofList (['"'] ++ s.toList.flatMap escape ++ ['"'])

/-- A shown character other than the quote and the backslash stands for itself. -/
theorem escape_eq_self {c : Char} (h : isShown c = true) (hq : c ≠ '"') (hb : c ≠ '\\') :
    escape c = [c] := by
  have hidden : ∀ d : Char, isShown d = false → c ≠ d := by
    rintro d hd rfl
    simp [h] at hd
  have h0 := hidden '\x00' (by decide +kernel)
  have ht := hidden '\t' (by decide +kernel)
  have hr := hidden '\r' (by decide +kernel)
  have hn := hidden '\n' (by decide +kernel)
  simp [escape, h, hq, hb, h0, ht, hr, hn]

end RouterConf.Text
