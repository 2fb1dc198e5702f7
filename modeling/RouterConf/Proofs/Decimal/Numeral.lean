import Mathlib.Data.List.Basic
import Mathlib.Data.List.Induction
import Mathlib.Tactic.SplitIfs
import RouterConf.Decimal.Integer
import RouterConf.Text.Blank

/-!
# Numerals

What a row of digits denotes is said here apart from how it is read: the digits are counted off from
the left by Horner's rule (`Nat.ofDigitChars`), and there has to be at least one (`IsNumeral`). The
readers accept just the numerals, with the signs that each of them knows
(`readNat_eq_some_iff`, `readPlusNat_eq_some_iff`, `readInt64_eq_some_iff`).

A number has many numerals, since zeros may stand in front, and one that is written: the numeral
without such zeros is `Nat.toDigits` (`IsNumeral.eq_toDigits`). Where zeros in front are refused,
what is read is what is written.
-/

namespace RouterConf.Decimal

/-! ### What digits denote -/

/-- **Decimal digits and the number that they denote**: at least one digit and nothing else. -/
structure IsNumeral (cs : List Char) (n : Nat) : Prop where
  nonempty : cs ≠ []
  digits : ∀ c ∈ cs, c.isDigit = true
  value : Nat.ofDigitChars 10 cs 0 = n

/-- Digits with or without a plus sign. -/
inductive IsUnsigned : List Char → Nat → Prop
  | plain {cs : List Char} {n : Nat} : IsNumeral cs n → IsUnsigned cs n
  | plus {cs : List Char} {n : Nat} : IsNumeral cs n → IsUnsigned ('+' :: cs) n

/-- Digits with or without a sign. -/
inductive IsSigned : List Char → Int → Prop
  | unsigned {cs : List Char} {n : Nat} : IsUnsigned cs n → IsSigned cs n
  | minus {cs : List Char} {n : Nat} : IsNumeral cs n → IsSigned ('-' :: cs) (-n)

variable {cs : List Char} {n : Nat}

/-! ### Reading -/

/-- The ten digits are in a row of code points, from that of zero on. -/
theorem toNat_of_isDigit {c : Char} (h : c.isDigit = true) : 48 ≤ c.toNat ∧ c.toNat ≤ 57 := by
  simp only [Char.isDigit, Bool.and_eq_true, decide_eq_true_eq, ge_iff_le,
    UInt32.le_iff_toNat_le] at h
  exact h

/-- The digits are in one range of code points, and no blank is in it. -/
theorem isBlank_of_isDigit {c : Char} (h : c.isDigit = true) : Text.isBlank c = false := by
  have bounds := toNat_of_isDigit h
  simp only [Text.isBlank, Bool.or_eq_false_iff, Bool.and_eq_false_iff, decide_eq_false_iff_not,
    beq_eq_false_iff_ne]
  omega

/-- Letters are digits of greater radices only. -/
theorem digitValue_ten (c : Char) :
    digitValue 10 c = if c.isDigit then some (c.toNat - 48) else none := by
  unfold digitValue
  by_cases h : c.isDigit = true
  · have bounds := toNat_of_isDigit h
    rw [if_pos h, if_pos h]
    exact if_pos (by omega)
  · rw [if_neg h, if_neg h]
    -- The value of a letter is ten at least, and that of any other character the radix.
    refine if_neg ?_
    split_ifs with lower upper
    · have : 97 ≤ c.toNat := lower.1
      omega
    · have : 65 ≤ c.toNat := upper.1
      omega
    · omega

/-- Digits that follow others go on with the value of those. -/
theorem foldlM_digitValue (cs : List Char) (n : Nat) :
    cs.foldlM (fun n c => (digitValue 10 c).map (10 * n + ·)) n =
      if cs.all Char.isDigit then some (Nat.ofDigitChars 10 cs n) else none := by
  induction cs generalizing n with
  | nil => simp
  | cons c cs ih =>
    rw [List.foldlM_cons, digitValue_ten, Nat.ofDigitChars_cons]
    by_cases h : c.isDigit = true
    · rw [if_pos h, Option.map_some, Option.bind_eq_bind, Option.bind_some, ih]
      simp [h]
    · rw [if_neg h]
      simp [h]

/-- **A natural number** is read just from its numerals; in particular no sign is taken. -/
theorem readNat_eq_some_iff : readNat 10 cs = some n ↔ IsNumeral cs n := by
  unfold readNat digitsValue
  rw [foldlM_digitValue]
  constructor
  · intro h
    split_ifs at h with empty digits
    exact ⟨by simpa using empty, List.all_eq_true.1 digits, Option.some.inj h⟩
  · rintro ⟨nonempty, digits, rfl⟩
    rw [if_neg (by simpa using nonempty), if_pos (List.all_eq_true.2 digits)]

/-- A numeral begins with a digit. So a text that begins with a sign is none. -/
theorem IsNumeral.cons_isDigit {c : Char} (h : IsNumeral (c :: cs) n) : c.isDigit = true :=
  h.digits c List.mem_cons_self

/-- Where a plus sign may stand, it is all that is read beyond the numerals. -/
theorem readPlusNat_eq_some_iff : readPlusNat 10 cs = some n ↔ IsUnsigned cs n := by
  unfold readPlusNat
  split
  · rename_i rest
    rw [readNat_eq_some_iff]
    constructor
    · exact .plus
    · rintro (h | h)
      · -- A plus sign is no digit.
        exact absurd h.cons_isDigit (by decide)
      · exact h
  · rename_i unsigned
    rw [readNat_eq_some_iff]
    constructor
    · -- Nothing is in front, so the constructor with the sign does not apply.
      exact .plain
    · intro h
      cases h with
      | plain h => exact h
      | plus h => exact absurd rfl (unsigned _)

theorem IsUnsigned.isDigit_or_plus {c : Char} (h : IsUnsigned cs n) (hc : c ∈ cs) :
    c.isDigit = true ∨ c = '+' := by
  cases h with
  | plain h => exact .inl (h.digits c hc)
  | plus h => exact (List.mem_cons.1 hc).symm.imp_left (h.digits c)

theorem IsUnsigned.head_ne {c : Char} (h : IsUnsigned (c :: cs) n) : c ≠ '-' := by
  rintro rfl
  cases h with
  | plain h => exact absurd h.cons_isDigit (by decide)

/-- **A number with a sign** is read just from the numerals with or without one. -/
theorem readSigned_eq_some_iff {n : Int} : readSigned 10 cs = some n ↔ IsSigned cs n := by
  unfold readSigned
  split
  · rename_i rest
    -- The number is read as a natural number, and only then is it one with a sign.
    have negated : ((do let k ← readNat 10 rest; pure (k : Int)) : Option Int).map (-·) = some n ↔
        ∃ k, readNat 10 rest = some k ∧ -(k : Int) = n := by
      cases readNat 10 rest <;> simp
    rw [negated]
    constructor
    · rintro ⟨k, h, rfl⟩
      exact .minus (readNat_eq_some_iff.1 h)
    · intro h
      cases h with
      | unsigned h => exact absurd rfl h.head_ne
      | minus h => exact ⟨_, readNat_eq_some_iff.2 h, rfl⟩
  · rename_i unsigned
    rw [Option.map_eq_some_iff]
    constructor
    · rintro ⟨k, h, rfl⟩
      exact .unsigned (readPlusNat_eq_some_iff.1 h)
    · intro h
      cases h with
      | unsigned h => exact ⟨_, readPlusNat_eq_some_iff.2 h, rfl⟩
      | minus h => exact absurd rfl (unsigned _)

/-- **A number of 64 bits** is read just from its numerals with or without a sign. -/
theorem readInt64_eq_some_iff {s : String} {n : Int} :
    readInt64 s = some n ↔ IsSigned s.toList n ∧ minInt64 ≤ n ∧ n ≤ maxInt64 := by
  unfold readInt64 readInt
  rw [Option.filter_eq_some_iff, readSigned_eq_some_iff]
  simp

/-! ### Writing -/

/-- What is written of a number is one of its numerals. -/
theorem isNumeral_toDigits (n : Nat) : IsNumeral (Nat.toDigits 10 n) n where
  nonempty := Nat.toDigits_ne_nil
  digits _ hc := Nat.isDigit_of_mem_toDigits (by decide) (by decide) hc
  value := Nat.ofDigitChars_ten_toDigits

/-- A digit is what is written of its value. -/
theorem digitChar_of_isDigit {c : Char} (h : c.isDigit = true) :
    Nat.digitChar (c.toNat - 48) = c := by
  have bounds := toNat_of_isDigit h
  refine Char.toNat_inj.1 ?_
  rw [Nat.toNat_digitChar_of_lt_ten (by omega)]
  omega

/-- Only zero is written with a zero in front. -/
theorem head?_toDigits (h : 0 < n) : (Nat.toDigits 10 n).head? ≠ some '0' := by
  induction n using Nat.base_induction 10 (by decide) with
  | single m hm =>
    rw [Nat.toDigits_of_lt_base hm]
    simp
    omega
  | digit m k hk hm ih =>
    rw [← Nat.toDigits_append_toDigits (by decide) hm hk,
      List.head?_append_of_ne_nil _ Nat.toDigits_ne_nil]
    exact ih hm

/-- **A number is written in one way** if no zero may stand in front of other digits. -/
theorem IsNumeral.eq_toDigits (h : IsNumeral cs n)
    (lead : 1 < cs.length → cs.head? ≠ some '0') : cs = Nat.toDigits 10 n := by
  -- The last digit is taken off, as it is the one that the value ends with.
  induction cs using List.reverseRecOn generalizing n with
  | nil => exact absurd rfl h.nonempty
  | append_singleton init c ih =>
    have digit : c.isDigit = true := h.digits c (by simp)
    have bounds := toNat_of_isDigit digit
    have value : 10 * Nat.ofDigitChars 10 init 0 + (c.toNat - 48) = n := by
      have := h.value
      rwa [Nat.ofDigitChars_append, Nat.ofDigitChars_cons, Nat.ofDigitChars_nil] at this
    have last : [c] = Nat.toDigits 10 (c.toNat - 48) := by
      rw [Nat.toDigits_of_lt_base (by omega), digitChar_of_isDigit digit]
    -- A single digit is written as itself; of several, those in front are written by induction.
    by_cases empty : init = []
    · subst empty
      rw [List.nil_append, last, ← value]
      simp
    · have several : 1 < (init ++ [c]).length := by
        have := List.length_pos_iff.2 empty
        rw [List.length_append, List.length_singleton]
        omega
      have front : init.head? ≠ some '0' := by
        have := lead several
        rwa [List.head?_append_of_ne_nil _ empty] at this
      have written := ih ⟨empty, fun d hd => h.digits d (by simp [hd]), rfl⟩ fun _ => front
      -- The digits before the last one are not the numeral of zero.
      have positive : 0 < Nat.ofDigitChars 10 init 0 := by
        refine Nat.pos_of_ne_zero fun zero => front ?_
        rw [written, zero, Nat.toDigits_zero]
        rfl
      calc init ++ [c]
          = Nat.toDigits 10 (Nat.ofDigitChars 10 init 0) ++ Nat.toDigits 10 (c.toNat - 48) := by
            rw [← written, ← last]
        _ = Nat.toDigits 10 (10 * Nat.ofDigitChars 10 init 0 + (c.toNat - 48)) :=
            Nat.toDigits_append_toDigits (by decide) positive (by omega)
        _ = Nat.toDigits 10 n := by rw [value]

end RouterConf.Decimal
