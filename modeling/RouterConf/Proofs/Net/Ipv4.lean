import RouterConf.Net.Ipv4
import RouterConf.Proofs.Decimal.Numeral
import RouterConf.Proofs.Text.Parts

/-!
# Dotted quads

An address has one text, its four octets in decimal with dots between them, and this text is the
only one that is read as the address (`Ipv4.read_eq_some_iff`). So nothing can be read into a text
that is printed, and an address that has been printed is read back.

Main statement: `Ipv4.read_eq_some_iff`.
-/

namespace RouterConf

namespace Ipv4

/-! ### Octets -/

/-- An octet is less than 256. -/
theorem octet_lt (a : Ipv4) (shift : Nat) : a.octet shift < 256 :=
  Nat.mod_lt _ (by decide)

/-- An address is made of its octets. -/
theorem ofOctets_octet (a : Ipv4) :
    ofOctets (a.octet 24) (a.octet 16) (a.octet 8) (a.octet 0) = a := by
  -- The octets are the digits of the word to the base 256.
  have bound := a.word.toNat_lt
  have value : (((a.octet 24 * 256 + a.octet 16) * 256 + a.octet 8) * 256 + a.octet 0) =
      a.word.toNat := by
    simp only [octet]
    omega
  rw [ofOctets, value, UInt32.ofNat_toNat]

/-- The octets of an address are those that it is made of. -/
theorem map_octet_ofOctets {a b c d : Nat} (ha : a < 256) (hb : b < 256) (hc : c < 256)
    (hd : d < 256) : [24, 16, 8, 0].map (ofOctets a b c d).octet = [a, b, c, d] := by
  have value : (ofOctets a b c d).word.toNat = ((a * 256 + b) * 256 + c) * 256 + d := by
    rw [ofOctets, UInt32.toNat_ofNat']
    omega
  simp only [List.map_cons, List.map_nil, octet, value, List.cons.injEq, and_true]
  omega

/-- **An octet is read as it is written.** -/
theorem readOctet_eq_some_iff {cs : List Char} {n : Nat} :
    readOctet cs = some n ↔ n < 256 ∧ cs = Nat.toDigits 10 n := by
  unfold readOctet
  constructor
  · intro h
    -- Zeros in front are refused before anything is read.
    split_ifs at h with refused
    obtain ⟨read, small⟩ := Option.filter_eq_some_iff.1 h
    simp only [Bool.or_eq_true, Bool.and_eq_true, decide_eq_true_eq, not_or, not_and] at refused
    refine ⟨Nat.lt_succ_of_le (by simpa using small), ?_⟩
    exact (Decimal.readNat_eq_some_iff.1 read).eq_toDigits refused.2
  · rintro ⟨small, rfl⟩
    have short : (Nat.toDigits 10 n).length ≤ 3 :=
      (Nat.length_toDigits_le_iff (by decide) (by decide)).2 (by omega)
    have front : 1 < (Nat.toDigits 10 n).length → (Nat.toDigits 10 n).head? ≠ some '0' := by
      intro several
      -- Zero is written with one digit.
      refine Decimal.head?_toDigits (Nat.pos_of_ne_zero ?_)
      rintro rfl
      exact absurd several (by decide)
    rw [if_neg (by simpa using ⟨short, front⟩),
      Decimal.readNat_eq_some_iff.2 (Decimal.isNumeral_toDigits n)]
    exact Option.filter_eq_some_iff.2 ⟨rfl, by simpa using Nat.le_of_lt_succ small⟩

/-! ### Addresses -/

/-- A dotted quad, character by character: the digits of four octets between dots. -/
theorem toList_text (a : Ipv4) :
    a.text.toList =
      List.intercalate ['.'] (([24, 16, 8, 0].map a.octet).map (Nat.toDigits 10)) := by
  rw [text, String.toList_intercalate]
  simp

/-- A dotted quad is written in digits and dots. -/
theorem isDigit_or_dot_of_mem_text {a : Ipv4} {c : Char} (h : c ∈ a.text.toList) :
    c.isDigit = true ∨ c = '.' := by
  rw [toList_text] at h
  rcases Text.mem_intercalate h with dot | ⟨part, hp, hc⟩
  · exact .inr dot
  · obtain ⟨n, -, rfl⟩ := List.mem_map.1 hp
    exact .inl ((Decimal.isNumeral_toDigits n).digits c hc)

/-- The octets as they are written have no dots in them. -/
theorem splitOn_text (a : Ipv4) :
    Text.splitOn '.' a.text.toList = ([24, 16, 8, 0].map a.octet).map (Nat.toDigits 10) := by
  rw [toList_text]
  refine Text.splitOn_intercalate (by simp) ?_
  intro part hp dot
  obtain ⟨n, -, rfl⟩ := List.mem_map.1 hp
  exact absurd ((Decimal.isNumeral_toDigits n).digits _ dot) (by decide)

/-- **The written form of an address is the only text that is read as it.** -/
theorem read_eq_some_iff {s : String} {a : Ipv4} : read s = some a ↔ s = a.text := by
  constructor
  · intro h
    unfold read at h
    split at h
    · rename_i w x y z parts
      -- Each of the four parts is read as an octet, and so it is written as that octet is.
      obtain ⟨i, first, others⟩ := Option.bind_eq_some_iff.1 h
      obtain ⟨j, second, others⟩ := Option.bind_eq_some_iff.1 others
      obtain ⟨k, third, others⟩ := Option.bind_eq_some_iff.1 others
      obtain ⟨l, fourth, made⟩ := Option.bind_eq_some_iff.1 others
      obtain rfl : ofOctets i j k l = a := Option.some.inj made
      obtain ⟨hi, first⟩ := readOctet_eq_some_iff.1 first
      obtain ⟨hj, second⟩ := readOctet_eq_some_iff.1 second
      obtain ⟨hk, third⟩ := readOctet_eq_some_iff.1 third
      obtain ⟨hl, fourth⟩ := readOctet_eq_some_iff.1 fourth
      rw [first, second, third, fourth] at parts
      rw [← String.toList_inj, toList_text, map_octet_ofOctets hi hj hk hl,
        ← Text.intercalate_splitOn s.toList, parts]
      rfl
    · cases h
  · rintro rfl
    -- Conversely, what is written of the four octets is read as they are.
    have octets : ∀ shift, readOctet (Nat.toDigits 10 (a.octet shift)) = some (a.octet shift) :=
      fun shift => readOctet_eq_some_iff.2 ⟨a.octet_lt shift, rfl⟩
    rw [read, splitOn_text]
    simp only [List.map_cons, List.map_nil, octets]
    exact congrArg some a.ofOctets_octet

/-- An address that has been printed is read back. -/
@[simp] theorem read_text (a : Ipv4) : read a.text = some a :=
  read_eq_some_iff.2 rfl

end Ipv4

end RouterConf
