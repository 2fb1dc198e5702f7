import Mathlib.Data.List.DropRight
import RouterConf.Json.Reader

/-!
# Written JSON is read back

A value that is built of texts, truth values, lists and objects is read back from its written form,
whatever follows that form. Numbers are left out: they end only where something else begins.

A text is read back character by character (`Json.exists_part_of_escape`). A value is read back
with as much fuel as its written form has characters, since every nested value and every mark
between values takes at least one (`Json.readValue_write`).

Main statement: `Json.ofString?_text`.
-/

namespace RouterConf.Json

/-! ### Characters and texts -/

/-- A unit outside the surrogates stands for a character of its own, whatever comes after it. -/
theorem joinParts_unit_cons {n : Nat} (h : n < 0xD800) (parts : List TextPart) :
    joinParts (.unit n :: parts) = (joinParts parts).map (Char.ofNat n :: ·) := by
  have hh : isHigh n = false := by simp [isHigh]; omega
  have hl : isLow n = false := by simp [isLow]; omega
  -- A unit that is neither half is not joined to the part after it, if there is one.
  rcases parts with _ | ⟨_ | _, _⟩ <;> simp [joinParts, hh, hl]

/-- Two hexadecimal digits after two zeros give the number of a control character. -/
theorem hexUnit_hexDigit {n : Nat} (h : n < 32) :
    hexUnit '0' '0' (Text.hexDigit (n / 16)) (Text.hexDigit (n % 16)) = some n := by
  revert n
  decide +kernel

/-- A character is written in one of three ways: as an escape by letter, as an escape by number, or
as it is. -/
theorem escape_cases (c : Char) :
    (∃ e, escape c = ['\\', e] ∧ e ≠ 'u' ∧ escaped e = some c) ∨
    (escape c =
        ['\\', 'u', '0', '0', Text.hexDigit (c.toNat / 16), Text.hexDigit (c.toNat % 16)] ∧
      c.toNat < 32) ∨
    (escape c = [c] ∧ 32 ≤ c.toNat ∧ c ≠ '\x22' ∧ c ≠ '\\') := by
  -- The escapes by letter are the quote, the backslash and five control characters.
  by_cases hq : c = '\x22' ∨ c = '\\'
  · refine .inl ⟨c, by simp [escape, hq], ?_⟩
    rcases hq with rfl | rfl <;> decide
  by_cases hn : c = '\n'
  · exact .inl ⟨'n', by subst hn; decide⟩
  by_cases hr : c = '\r'
  · exact .inl ⟨'r', by subst hr; decide⟩
  by_cases ht : c = '\t'
  · exact .inl ⟨'t', by subst ht; decide⟩
  by_cases h8 : c = '\x08'
  · exact .inl ⟨'b', by subst h8; decide⟩
  by_cases hc : c = '\x0c'
  · exact .inl ⟨'f', by subst hc; decide⟩
  by_cases low : c.toNat < 32
  · exact .inr (.inl ⟨by simp [escape, hq, hn, hr, ht, h8, hc, low], low⟩)
  · obtain ⟨hq, hb⟩ := not_or.1 hq
    exact .inr (.inr ⟨escape_eq_self (by omega) hq hb, by omega, hq, hb⟩)

/-- The written form of a character is read as one part, which stands for the character. -/
theorem exists_part_of_escape (c : Char) :
    ∃ part : TextPart,
      (∀ cs, literal (escape c ++ cs) =
        (literal cs).map fun (parts, rest) => (part :: parts, rest)) ∧
      ∀ parts, joinParts (part :: parts) = (joinParts parts).map (c :: ·) := by
  rcases escape_cases c with ⟨e, he, hu, hc⟩ | ⟨he, low⟩ | ⟨he, high, hq, hb⟩
  · -- The letter of an escape by letter is not the one that announces a number.
    refine ⟨.char c, fun cs => ?_, fun parts => by simp [joinParts]⟩
    rw [he, List.cons_append, List.cons_append, List.nil_append, literal]
    · rw [hc]
      cases literal cs <;> rfl
    · rintro a b c' d rest rfl
      exact absurd rfl hu
  · -- The number of a control character is no half of another one.
    refine ⟨.unit c.toNat, fun cs => ?_, fun parts => ?_⟩
    · rw [he]
      simp only [List.cons_append, List.nil_append]
      rw [literal, hexUnit_hexDigit low]
      cases literal cs <;> rfl
    · rw [joinParts_unit_cons (by omega), Char.ofNat_toNat]
  · refine ⟨.char c, fun cs => ?_, fun parts => by simp [joinParts]⟩
    rw [he, List.singleton_append, literal]
    · rw [if_neg (by omega)]
      cases literal cs <;> rfl
    · -- What is written as it is opens no escape and is no quote.
      exact fun h => hq h
    · rintro _ _ _ _ _ h
      exact absurd h hb
    · rintro _ _ h
      exact absurd h hb

/-- The written form of characters up to a quote is read as parts that stand for them. -/
theorem exists_parts_of_escape (cs rest : List Char) :
    ∃ parts, literal (cs.flatMap escape ++ '\x22' :: rest) = some (parts, rest) ∧
      joinParts parts = some cs := by
  induction cs with
  | nil => exact ⟨[], by simp [joinParts]⟩
  | cons c cs ih =>
    obtain ⟨parts, hl, hj⟩ := ih
    obtain ⟨part, read, joined⟩ := exists_part_of_escape c
    refine ⟨part :: parts, ?_, ?_⟩
    · rw [List.flatMap_cons, List.append_assoc, read, hl, Option.map_some]
    · rw [joined, hj, Option.map_some]

/-- A text is read back after its opening quote. -/
theorem readText_writeText (s : String) (rest : List Char) :
    readText (s.toList.flatMap escape ++ '\x22' :: rest) = some (some s, rest) := by
  obtain ⟨parts, hl, hj⟩ := exists_parts_of_escape s.toList rest
  rw [readText, hl]
  simp [hj, String.ofList_toList]

/-! ### Values -/

mutual

/-- Whether a value is built without numbers and without halves of characters. -/
def isPlain : Json → Bool
  | null => true
  | bool _ => true
  | number _ => false
  | string s => s.isSome
  | list items => arePlain items
  | object fields => arePlainFields fields

/-- Whether all items of a list are plain. -/
def arePlain : List Json → Bool
  | [] => true
  | item :: items => isPlain item && arePlain items

/-- Whether all fields of an object are plain, and their keys are texts. -/
def arePlainFields : List (Option String × Json) → Bool
  | [] => true
  | (key, value) :: fields => key.isSome && isPlain value && arePlainFields fields

end

/-- The indentation of a line is skipped. -/
@[simp] theorem skipSpace_lineAt (level : Nat) (cs : List Char) :
    skipSpace (lineAt level ++ cs) = skipSpace cs := by
  have blank : ∀ n : Nat, skipSpace (List.replicate n ' ' ++ cs) = skipSpace cs := by
    intro n
    induction n with
    | zero => rfl
    | succ n ih => rw [List.replicate_succ, List.cons_append, skipSpace,
        List.dropWhile_cons_of_pos (by decide), ← skipSpace, ih]
  rw [lineAt, List.cons_append, skipSpace, List.dropWhile_cons_of_pos (by decide), ← skipSpace,
    blank]

/-- So is a single blank. -/
theorem skipSpace_blank (cs : List Char) : skipSpace (' ' :: cs) = skipSpace cs :=
  List.dropWhile_cons_of_pos (by decide)

/-- What starts with a character that is no blank is left as it is. -/
theorem skipSpace_cons {c : Char} (h : isSpace c = false) (cs : List Char) :
    skipSpace (c :: cs) = c :: cs :=
  List.dropWhile_cons_of_neg (by simp [h])

/-- The blanks before a key end at its quote. -/
theorem skipSpace_writeText (level : Nat) (key : String) (cs : List Char) :
    skipSpace (lineAt level ++ (writeText (some key) ++ cs)) =
      '\x22' :: (key.toList.flatMap escape ++ '\x22' :: cs) := by
  have quote : writeText (some key) ++ cs =
      '\x22' :: (key.toList.flatMap escape ++ '\x22' :: cs) := by
    simp [writeText]
  rw [skipSpace_lineAt, quote, skipSpace_cons (by decide)]

/-- A key is read back with its colon, up to the blank after it. -/
theorem readKey_writeText (level : Nat) (key : String) (rest : List Char) :
    readKey (lineAt level ++ (writeText (some key) ++ ':' :: ' ' :: rest)) =
      some (some key, ' ' :: rest) := by
  rw [readKey, skipSpace_writeText]
  simp [readText_writeText, skipSpace_cons (show isSpace ':' = false by decide)]

/-- A plain value starts with a character that is no blank and closes no list. -/
theorem exists_write_eq_cons {v : Json} (h : v.isPlain = true) (level : Nat) :
    ∃ c cs, v.write level = c :: cs ∧ isSpace c = false ∧ c ≠ ']' := by
  match v with
  | null => exact ⟨'n', _, rfl, by decide, by decide⟩
  | bool true => exact ⟨'t', _, rfl, by decide, by decide⟩
  | bool false => exact ⟨'f', _, rfl, by decide, by decide⟩
  | string s => exact ⟨'\x22', _, rfl, by decide, by decide⟩
  | list [] => exact ⟨'[', _, rfl, by decide, by decide⟩
  | list (_ :: _) => exact ⟨'[', _, rfl, by decide, by decide⟩
  | object [] => exact ⟨'\x7b', _, rfl, by decide, by decide⟩
  | object (_ :: _) => exact ⟨'\x7b', _, rfl, by decide, by decide⟩

/-- Blanks before a value are passed over. -/
theorem readValue_of_skipSpace {cs ds : List Char} (h : skipSpace cs = skipSpace ds) (fuel : Nat) :
    readValue fuel cs = readValue fuel ds := by
  cases fuel with
  | zero => rfl
  | succ fuel => rw [readValue, readValue, h]

/-- Blanks that have been skipped need not be skipped again. -/
@[simp] theorem skipSpace_skipSpace (cs : List Char) : skipSpace (skipSpace cs) = skipSpace cs :=
  List.dropWhile_idempotent _ _

/-- A list that is not closed at once is read item by item. -/
theorem readValue_list {cs ds : List Char} {c : Char} (h : skipSpace cs = c :: ds) (hc : c ≠ ']')
    (fuel : Nat) :
    readValue (fuel + 1) ('[' :: cs) = (readValue fuel cs).bind fun (item, rest) =>
      (readItems fuel rest).map fun (items, rest) => (list (item :: items), rest) := by
  -- The blanks before the item are skipped once to see whether the list is closed, and again
  -- by the item itself.
  rw [← readValue_of_skipSpace (skipSpace_skipSpace cs), readValue, skipSpace_cons (by decide)]
  simp only [h]
  split
  · rename_i heq
    exact absurd (List.cons.inj heq).1 hc
  · rcases readValue fuel (c :: ds) with _ | ⟨item, rest⟩
    · rfl
    · cases hr : readItems fuel rest <;> simp [hr]

/-- An object that is not closed at once is read field by field. -/
theorem readValue_object {cs ds : List Char} {c : Char} (h : skipSpace cs = c :: ds)
    (hc : c ≠ '\x7d') (fuel : Nat) :
    readValue (fuel + 1) ('\x7b' :: cs) = (readKey cs).bind fun (key, rest) =>
      (readValue fuel rest).bind fun (value, rest) =>
        (readFields fuel rest).map fun (fields, rest) =>
          (object ((key, value) :: fields), rest) := by
  have hk : readKey cs = readKey (skipSpace cs) := by rw [readKey, readKey, skipSpace_skipSpace]
  rw [hk, readValue, skipSpace_cons (by decide)]
  simp only [h]
  split
  · rename_i heq
    exact absurd (List.cons.inj heq).1 hc
  · rcases readKey (c :: ds) with _ | ⟨key, rest⟩
    · rfl
    · rcases hv : readValue fuel rest with _ | ⟨value, rest⟩
      · simp [hv]
      · cases hr : readFields fuel rest <;> simp [hv, hr]

/-- A comma announces another item, -/
theorem readItems_comma (fuel : Nat) (cs : List Char) :
    readItems (fuel + 1) (',' :: cs) = (readValue fuel cs).bind fun (item, rest) =>
      (readItems fuel rest).map fun (items, rest) => (item :: items, rest) := by
  rw [readItems, skipSpace_cons (by decide)]
  rcases hv : readValue fuel cs with _ | ⟨item, rest⟩
  · simp [hv]
  · cases hr : readItems fuel rest <;> simp [hv, hr]

/-- and in an object another field. -/
theorem readFields_comma (fuel : Nat) (cs : List Char) :
    readFields (fuel + 1) (',' :: cs) = (readKey cs).bind fun (key, rest) =>
      (readValue fuel rest).bind fun (value, rest) =>
        (readFields fuel rest).map fun (fields, rest) => ((key, value) :: fields, rest) := by
  rw [readFields, skipSpace_cons (by decide)]
  rcases hk : readKey cs with _ | ⟨key, rest⟩
  · simp [hk]
  · rcases hv : readValue fuel rest with _ | ⟨value, rest⟩
    · simp [hk, hv]
    · cases hr : readFields fuel rest <;> simp [hk, hv, hr]

mutual

/-- A plain value is read back, whatever follows it. -/
theorem readValue_write : (v : Json) → (level fuel : Nat) → (rest : List Char) →
    v.isPlain = true → (v.write level).length ≤ fuel →
    readValue fuel (v.write level ++ rest) = some (v, rest)
  -- No value is written as nothing, so there is fuel.
  | v, level, 0, _, h, hf => by
    obtain ⟨c, cs, hw, -⟩ := exists_write_eq_cons h level
    simp [hw] at hf
  | .null, level, fuel + 1, rest, _, _ => by
    rw [write, readValue]
    rfl
  | .bool true, level, fuel + 1, rest, _, _ => by
    rw [write, readValue]
    rfl
  | .bool false, level, fuel + 1, rest, _, _ => by
    rw [write, readValue]
    rfl
  | .string (some s), level, fuel + 1, rest, _, _ => by
    have quote : write level (.string (some s)) ++ rest =
        '\x22' :: (s.toList.flatMap escape ++ '\x22' :: rest) := by
      simp [write, writeText]
    rw [quote, readValue, skipSpace_cons (by decide)]
    simp [readText_writeText]
  | .list [], level, fuel + 1, rest, _, _ => by
    rw [write, readValue]
    rfl
  | .list (item :: items), level, fuel + 1, rest, h, hf => by
    simp only [isPlain, arePlain, Bool.and_eq_true] at h
    simp only [write, List.length_append, List.length_cons, List.length_nil] at hf
    -- The first item starts a line of its own, with something that does not close the list.
    obtain ⟨c, cs, hw, hc, hb⟩ := exists_write_eq_cons h.1 (level + 1)
    have form : write level (.list (item :: items)) ++ rest = '[' :: (lineAt (level + 1) ++
        (write (level + 1) item ++
          (writeItems (level + 1) items ++ lineAt level ++ ']' :: rest))) := by
      simp [write]
    have head : skipSpace (lineAt (level + 1) ++ (write (level + 1) item ++
        (writeItems (level + 1) items ++ lineAt level ++ ']' :: rest))) =
          c :: (cs ++ (writeItems (level + 1) items ++ lineAt level ++ ']' :: rest)) := by
      rw [skipSpace_lineAt, hw, List.cons_append, skipSpace_cons hc]
    rw [form, readValue_list head hb, readValue_of_skipSpace (skipSpace_lineAt _ _),
      readValue_write item _ _ _ h.1 (by omega), Option.bind_some]
    simp only [readItems_writeItems items (level + 1) level fuel rest h.2 (by omega),
      Option.map_some]
  | .object [], level, fuel + 1, rest, _, _ => by
    rw [write, readValue]
    rfl
  | .object ((some key, value) :: fields), level, fuel + 1, rest, h, hf => by
    simp only [isPlain, arePlainFields, Bool.and_eq_true] at h
    simp only [write, List.length_append, List.length_cons, List.length_nil] at hf
    have form : write level (.object ((some key, value) :: fields)) ++ rest =
        '\x7b' :: (lineAt (level + 1) ++ (writeText (some key) ++ ':' :: ' ' ::
          (write (level + 1) value ++
            (writeFields (level + 1) fields ++ lineAt level ++ '\x7d' :: rest)))) := by
      simp [write]
    -- The first field starts with the quote of its key, which does not close the object.
    rw [form, readValue_object (skipSpace_writeText _ _ _) (by decide), readKey_writeText,
      Option.bind_some]
    simp only [readValue_of_skipSpace (skipSpace_blank _),
      readValue_write value (level + 1) fuel _ h.1.2 (by omega), Option.bind_some,
      readFields_writeFields fields (level + 1) level fuel rest h.2 (by omega), Option.map_some]

/-- The items after the first are read back up to the bracket that closes the list. -/
theorem readItems_writeItems : (items : List Json) → (level level' fuel : Nat) →
    (rest : List Char) → arePlain items = true → (writeItems level items).length < fuel →
    readItems fuel (writeItems level items ++ lineAt level' ++ ']' :: rest) = some (items, rest)
  | [], level, level', fuel + 1, rest, _, _ => by
    rw [writeItems, List.nil_append, readItems, skipSpace_lineAt, skipSpace_cons (by decide)]
    rfl
  | item :: items, level, level', fuel + 1, rest, h, hf => by
    simp only [arePlain, Bool.and_eq_true] at h
    simp only [writeItems, List.length_append, List.length_cons] at hf
    have form : writeItems level (item :: items) ++ lineAt level' ++ ']' :: rest =
        ',' :: (lineAt level ++ (write level item ++
          (writeItems level items ++ lineAt level' ++ ']' :: rest))) := by
      simp [writeItems]
    rw [form, readItems_comma, readValue_of_skipSpace (skipSpace_lineAt _ _),
      readValue_write item _ _ _ h.1 (by omega), Option.bind_some]
    simp only [readItems_writeItems items level level' fuel rest h.2 (by omega), Option.map_some]

/-- The fields after the first are read back up to the bracket that closes the object. -/
theorem readFields_writeFields : (fields : List (Option String × Json)) →
    (level level' fuel : Nat) → (rest : List Char) → arePlainFields fields = true →
    (writeFields level fields).length < fuel →
    readFields fuel (writeFields level fields ++ lineAt level' ++ '\x7d' :: rest) =
      some (fields, rest)
  | [], level, level', fuel + 1, rest, _, _ => by
    rw [writeFields, List.nil_append, readFields, skipSpace_lineAt, skipSpace_cons (by decide)]
    rfl
  | (some key, value) :: fields, level, level', fuel + 1, rest, h, hf => by
    simp only [arePlainFields, Bool.and_eq_true] at h
    simp only [writeFields, List.length_append, List.length_cons, List.length_nil] at hf
    have form : writeFields level ((some key, value) :: fields) ++ lineAt level' ++ '\x7d' :: rest =
        ',' :: (lineAt level ++ (writeText (some key) ++ ':' :: ' ' :: (write level value ++
          (writeFields level fields ++ lineAt level' ++ '\x7d' :: rest)))) := by
      simp [writeFields]
    rw [form, readFields_comma, readKey_writeText, Option.bind_some]
    simp only [readValue_of_skipSpace (skipSpace_blank _),
      readValue_write value level fuel _ h.1.2 (by omega), Option.bind_some,
      readFields_writeFields fields level level' fuel rest h.2 (by omega), Option.map_some]

end

/-- **Plain values are read back** from the text they are written as. -/
theorem ofString?_text {v : Json} (h : v.isPlain = true) : ofString? v.text = some v := by
  -- The fuel of the reader is the length of the text.
  have read := readValue_write v 0 ((v.write 0).length + 1) [] h (by omega)
  rw [List.append_nil] at read
  rw [ofString?, text, String.toList_ofList]
  simp only [read]
  rfl

end RouterConf.Json
