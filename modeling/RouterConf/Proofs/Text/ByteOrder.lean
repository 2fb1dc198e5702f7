import Mathlib.Tactic.SplitIfs

/-!
# The order of texts is that of their bytes

Texts are compared by the code points of their characters, and a system compares names by their
bytes. The two orders agree: of two characters the one that comes first has the smaller bytes, at
the first place where they differ, whatever follows them (`bytes_append_lt`). So sorting names as
texts sorts them by their bytes.

Main statement: `Text.bytes_lt_of_lt`.
-/

namespace RouterConf.Text

/-- The bytes of a text as a system has them. -/
def bytes (s : String) : List UInt8 :=
  s.toUTF8.data.toList

/-- The bytes of a text are those of its characters, one after the other. -/
theorem bytes_eq (s : String) : bytes s = s.toList.flatMap String.utf8EncodeChar := by
  change s.toByteArray.data.toList = _
  rw [← String.utf8Encode_toList (b := s)]
  simp [List.utf8Encode]

/-- The smaller character has the smaller bytes, whatever follows them. -/
theorem bytes_append_lt {c d : Char} (h : c < d) (xs ys : List UInt8) :
    String.utf8EncodeChar c ++ xs < String.utf8EncodeChar d ++ ys := by
  have less : c.val.toNat < d.val.toNat := h
  have bound : d.val.toNat < 1114112 := d.valid.elim (by omega) (by omega)
  unfold String.utf8EncodeChar
  generalize c.val.toNat = m at *
  generalize d.val.toNat = n at *
  dsimp only
  -- One to four bytes on either side. More of them start with a greater one, and as many hold the
  -- digits of the code point from the first on.
  split_ifs <;>
    simp only [List.cons_append, List.nil_append, List.cons_lt_cons_iff, UInt8.lt_iff_toNat_lt,
      ← UInt8.toNat_inj, UInt8.toNat_ofNat'] <;>
    simp (disch := omega) only [Nat.mod_eq_of_lt] <;> omega

/-- **Texts are in the order of their bytes.** -/
theorem bytes_lt_of_lt {s s' : String} (h : s < s') : bytes s < bytes s' := by
  rw [String.lt_iff] at h
  rw [bytes_eq, bytes_eq]
  -- By induction on what the two have in common at the front.
  generalize s.toList = cs at h
  generalize s'.toList = ds at h
  induction h with
  | nil =>
    obtain ⟨b, bs, hb⟩ := List.exists_cons_of_ne_nil String.utf8EncodeChar_ne_nil
    rw [List.flatMap_cons, hb, List.flatMap_nil]
    exact List.nil_lt_cons _ _
  | rel less =>
    rw [List.flatMap_cons, List.flatMap_cons]
    exact bytes_append_lt less _ _
  | cons _ ih =>
    rw [List.flatMap_cons, List.flatMap_cons]
    exact List.append_left_lt ih

end RouterConf.Text
