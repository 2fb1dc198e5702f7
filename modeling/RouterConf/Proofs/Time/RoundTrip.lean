import RouterConf.Proofs.Decimal.Numeral
import RouterConf.Time.Timestamp

/-!
# Written points in time are read back

Every field of a point in time is written with a fixed number of digits, except a year of more than
four. So a field is read back from what was written whatever stands after it
(`Timestamp.readField_lastDigits`), and the marks between the fields keep them apart.

Main statement: `Timestamp.ofText?_text`.
-/

namespace RouterConf.Timestamp

/-! ### Digits -/

/-- The character of a decimal digit is a digit, with that value. -/
theorem digit_ofNat {d : Nat} (h : d < 10) :
    (Char.ofNat (48 + d)).isDigit = true ∧
      Decimal.digitValue 10 (Char.ofNat (48 + d)) = some d := by
  revert d
  decide

/-- A field has as many digits as it is wide. -/
@[simp] theorem length_lastDigits (width n : Nat) : (lastDigits width n).length = width := by
  induction width generalizing n with
  | zero => rfl
  | succ width ih => rw [lastDigits, List.length_append, ih, List.length_singleton]

/-- It has digits only. -/
theorem isDigit_of_mem_lastDigits {width n : Nat} {c : Char} (h : c ∈ lastDigits width n) :
    c.isDigit = true := by
  induction width generalizing n with
  | zero => cases h
  | succ width ih =>
    rw [lastDigits, List.mem_append, List.mem_singleton] at h
    rcases h with h | rfl
    · exact ih h
    · exact (digit_ofNat (Nat.mod_lt n (by omega))).1

/-- A field that is not empty begins with a digit. -/
theorem exists_lastDigits_eq_cons {width : Nat} (hw : 0 < width) (n : Nat) :
    ∃ c cs, lastDigits width n = c :: cs ∧ c.isDigit = true := by
  cases h : lastDigits width n with
  | nil =>
    have := length_lastDigits width n
    rw [h, List.length_nil] at this
    omega
  | cons c cs => exact ⟨c, cs, rfl, isDigit_of_mem_lastDigits (by rw [h]; exact List.mem_cons_self)⟩

/-- The last digits of a number have the value of what the number leaves over. -/
theorem digitsValue_lastDigits (width n : Nat) :
    Decimal.digitsValue 10 (lastDigits width n) = some (n % 10 ^ width) := by
  induction width generalizing n with
  | zero => simp [lastDigits, Nat.mod_one]
  | succ width ih =>
    -- Horner's rule: the last digit is added to ten times the value of those before it.
    rw [lastDigits, Decimal.digitsValue_append_singleton, ih, Option.bind_some,
      (digit_ofNat (Nat.mod_lt n (by omega))).2, Option.map_some, Nat.pow_succ',
      Nat.mod_mul, Nat.add_comm]

/-- Enough digits of a number have its value. -/
theorem readNat_lastDigits {width n : Nat} (hw : 0 < width) (h : n < 10 ^ width) :
    Decimal.readNat 10 (lastDigits width n) = some n := by
  obtain ⟨c, cs, hc, -⟩ := exists_lastDigits_eq_cons hw n
  rw [Decimal.readNat, if_neg (by simp [hc]), digitsValue_lastDigits, Nat.mod_eq_of_lt h]

/-- Digits are taken up to the first character that is none. -/
theorem takeWhile_lastDigits (width n : Nat) {rest : List Char}
    (h : ∀ c ∈ rest.head?, c.isDigit = false) :
    (lastDigits width n ++ rest).takeWhile Char.isDigit = lastDigits width n := by
  rw [List.takeWhile_append_of_pos fun c hc => isDigit_of_mem_lastDigits hc]
  cases rest with
  | nil => simp
  | cons c rest => simp [h c (by simp)]

/-- A field is read back from as many digits as it may have, or from fewer before a mark. -/
theorem readField_lastDigits {width n : Nat} {rest : List Char} {most : Nat} (hw : 0 < width)
    (h : n < 10 ^ width)
    (hm : width = most ∨ width ≤ most ∧ ∀ c ∈ rest.head?, c.isDigit = false) :
    readField most (lastDigits width n ++ rest) = some (n, rest) := by
  have taken : ((lastDigits width n ++ rest).take most).takeWhile Char.isDigit =
      lastDigits width n := by
    -- Either the width of the field ends the digits, or the mark after them does.
    rcases hm with rfl | ⟨hle, hr⟩
    · rw [List.take_left' (length_lastDigits _ _), ← List.append_nil (lastDigits width n),
        takeWhile_lastDigits _ _ (by simp), List.append_nil]
    · rw [List.take_append, length_lastDigits,
        List.take_of_length_le (by rw [length_lastDigits]; exact hle), takeWhile_lastDigits]
      intro c hc
      rw [List.head?_take] at hc
      split at hc
      · cases hc
      · exact hr c hc
  rw [readField, taken, readNat_lastDigits hw h, length_lastDigits,
    List.drop_left' (length_lastDigits _ _)]
  rfl

/-- There are no blanks to be skipped before a field. -/
theorem skipBlank_lastDigits {width : Nat} (hw : 0 < width) (n : Nat) (rest : List Char) :
    skipBlank (lastDigits width n ++ rest) = lastDigits width n ++ rest := by
  obtain ⟨c, cs, hc, digit⟩ := exists_lastDigits_eq_cons hw n
  rw [hc, List.cons_append, skipBlank,
    List.dropWhile_cons_of_neg (by simp [Decimal.isBlank_of_isDigit digit])]

/-- A field of two digits is read back after its mark. -/
theorem readMarked_lastDigits {mark : Char} (hm : Text.isBlank mark = false) {n : Nat}
    (h : n < 100) (rest : List Char) :
    readMarked mark (mark :: (lastDigits 2 n ++ rest)) = some (n, rest) := by
  have head : skipBlank (mark :: (lastDigits 2 n ++ rest)) = mark :: (lastDigits 2 n ++ rest) :=
    List.dropWhile_cons_of_neg (by simp [hm])
  rw [readMarked, head]
  simp only [if_true]
  rw [skipBlank_lastDigits (by omega), readField_lastDigits (by omega) h (.inl rfl)]

/-! ### Fields -/

/-- A number of at most four digits is not taken for a year with a sign. -/
theorem readYear_of_isDigit {c : Char} (h : c.isDigit = true) (cs : List Char) :
    readYear (c :: cs) = (readField 4 (c :: cs)).map fun (n, rest) => ((n : Int), rest) := by
  unfold readYear
  split
  · rename_i heq
    rw [(List.cons.inj heq).1] at h
    exact absurd h (by decide)
  · rename_i heq
    rw [(List.cons.inj heq).1] at h
    exact absurd h (by decide)
  · rfl

/-- Nor are there any before a year, be it with a sign or without one. -/
theorem skipBlank_yearText (year : Int) (rest : List Char) :
    skipBlank (yearText year ++ rest) = yearText year ++ rest := by
  unfold yearText
  split
  · exact skipBlank_lastDigits (by omega) _ _
  · rw [List.cons_append]
    refine List.dropWhile_cons_of_neg ?_
    split <;> decide

/-- The digits of a year beyond four are all that stand before the next mark. -/
theorem readField_longYear (n : Nat) (rest : List Char) :
    readField (lastDigits (max 4 (toString n).length) n ++ '-' :: rest).length
      (lastDigits (max 4 (toString n).length) n ++ '-' :: rest) = some (n, '-' :: rest) := by
  refine readField_lastDigits (by omega) ?_ (.inr ⟨?_, ?_⟩)
  · -- A number is below the power of ten with as many zeros as it has digits.
    refine Nat.lt_of_lt_of_le (m := 10 ^ (toString n).length) ?_
      (Nat.pow_le_pow_right (by omega) (Nat.le_max_right _ _))
    rw [Nat.toString_eq_ofList_toDigits, String.length_ofList]
    exact (Nat.length_toDigits_le_iff (by omega) Nat.length_toDigits_pos).1 (Nat.le_refl _)
  · rw [List.length_append, length_lastDigits]
    omega
  · rintro c ⟨⟩
    decide

/-- **A year is read back** up to the mark after it, whatever its length and its sign. -/
theorem readYear_yearText (year : Int) (rest : List Char) :
    readYear (yearText year ++ '-' :: rest) = some (year, '-' :: rest) := by
  by_cases h : 0 ≤ year ∧ year ≤ 9999
  · rw [yearText, if_pos h]
    -- A year of four digits begins with a digit, so it is read without a sign.
    obtain ⟨c, cs, hc, digit⟩ := exists_lastDigits_eq_cons (Nat.zero_lt_succ 3) year.toNat
    rw [hc, List.cons_append, readYear_of_isDigit digit, ← List.cons_append, ← hc,
      readField_lastDigits (by omega) (by omega) (.inl rfl), Option.map_some]
    simp only [Int.toNat_of_nonneg h.1]
  · -- A longer year has a sign before it, and is read up to the mark.
    rw [yearText, if_neg h]
    by_cases neg : year < 0
    · rw [if_pos neg, List.cons_append, readYear, readField_longYear, Option.map_some]
      simp only [Option.some.injEq, Prod.mk.injEq, and_true]
      omega
    · rw [if_neg neg, List.cons_append, readYear, readField_longYear, Option.map_some]
      simp only [Option.some.injEq, Prod.mk.injEq, and_true]
      omega

/-- Up to nine digits of a fraction give nanoseconds. -/
theorem readFraction_lastDigits {width n : Nat} (hw : 0 < width) (h9 : width ≤ 9)
    (h : n < 10 ^ width) (rest : List Char) :
    readFraction ('.' :: lastDigits width n ++ 'Z' :: rest) =
      some (n * 10 ^ (9 - width), 'Z' :: rest) := by
  have taken : (lastDigits width n ++ 'Z' :: rest).takeWhile Char.isDigit = lastDigits width n :=
    takeWhile_lastDigits _ _ (by simp)
  -- Digits beyond the ninth would be dropped; here there are none.
  have kept : (lastDigits width n).take 9 = lastDigits width n :=
    List.take_of_length_le (by rw [length_lastDigits]; exact h9)
  rw [List.cons_append, readFraction]
  simp only [taken, kept, readNat_lastDigits hw h, length_lastDigits,
    List.drop_left' (length_lastDigits width n)]
  rfl

/-- A fraction is read back before the mark of universal time. -/
theorem readFraction_fractionText {nanos : Nat} (h : nanos < 1000000000) (rest : List Char) :
    readFraction (fractionText nanos ++ 'Z' :: rest) = some (nanos, 'Z' :: rest) := by
  unfold fractionText
  split
  · -- Whole seconds have no fraction.
    rename_i h0
    rw [h0]
    rfl
  split
  · rw [readFraction_lastDigits (by omega) (by omega) (by omega)]
    simp only [Option.some.injEq, Prod.mk.injEq, and_true]
    omega
  split
  · rw [readFraction_lastDigits (by omega) (by omega) (by omega)]
    simp only [Option.some.injEq, Prod.mk.injEq, and_true]
    omega
  · rw [readFraction_lastDigits (by omega) (by omega) (by omega), Nat.sub_self, Nat.pow_zero,
      Nat.mul_one]

/-! ### The whole -/

/-- A day of a month has two digits. -/
theorem daysInMonth_le (year : Int) (month : Nat) : Date.daysInMonth year month ≤ 31 := by
  unfold Date.daysInMonth
  repeat' split
  all_goals decide

/-- **A point in time is read back** from what is written for it. -/
theorem ofText?_text {t : Timestamp} (h : t.isValid = true) : ofText? t.text = some t := by
  have valid := h
  simp only [isValid, Date.isValid, Bool.and_eq_true, decide_eq_true_eq] at h
  have day := daysInMonth_le t.date.year t.date.month
  have form : t.text.toList = yearText t.date.year ++ '-' :: (lastDigits 2 t.date.month ++
      '-' :: (lastDigits 2 t.date.day ++ 'T' :: (lastDigits 2 t.hour ++
        ':' :: (lastDigits 2 t.minute ++ ':' :: (lastDigits 2 t.second ++
          (fractionText t.nanos ++ ['Z'])))))) := by
    simp [text]
  -- The reader skips blanks before each field, and there are none.
  have start : skipBlank t.text.toList = t.text.toList := by
    rw [form]
    exact skipBlank_yearText _ _
  -- The fields of the day come first, and then those of the time of day.
  have time : readTime t.date (lastDigits 2 t.hour ++ ':' :: (lastDigits 2 t.minute ++
      ':' :: (lastDigits 2 t.second ++ (fractionText t.nanos ++ ['Z'])))) = some (t, ['Z']) := by
    rw [readTime, skipBlank_lastDigits (by omega),
      readField_lastDigits (by omega) (by omega) (.inl rfl)]
    simp only [bind, Option.bind_some]
    rw [readMarked_lastDigits (by decide) (by omega)]
    simp only [Option.bind_some]
    rw [readMarked_lastDigits (by decide) (by omega)]
    simp only [Option.bind_some]
    rw [readFraction_fractionText h.2]
    rfl
  rw [ofText?, start, form, readYear_yearText]
  simp only [bind, Option.bind_some]
  rw [readMarked_lastDigits (by decide) (by omega)]
  simp only [Option.bind_some]
  rw [readMarked_lastDigits (by decide) (by omega)]
  simp only [Option.bind_some]
  rw [if_pos (by decide), time]
  -- What is left is the offset, which is none.
  have offset : readOffset (skipBlank ['Z']) = some (0, []) := by decide
  have same : t.before 0 = t := if_pos rfl
  simp only [Option.bind_some, offset, same, valid]
  simp [skipBlank, h.1.1.1.1.1]

end RouterConf.Timestamp
