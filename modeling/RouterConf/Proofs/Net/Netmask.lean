import RouterConf.Proofs.Net.Ipv4

/-!
# Netmasks and networks

A netmask of length `p` is a word of `p` ones and then zeros (`Netmask.HasLength`). It is written as
its length or as the dotted quad of its bits (`Netmask.Spells`), with white space around it, and
nothing else is read as one.

Two tests on words carry the reading. A length is turned into a mask by a shift, which is by less
than the width of a word (`Netmask.hasLength_ofPrefix`). A dotted quad is a mask just if the ones at
its left end and the zeros at its right end make up the word (`Netmask.isContiguous_iff`); that
holds of the two words without a change of bits as well, since a run that fills the word leaves
nothing for the other.

The network of an address is the multiple of the block size at or below it (`Ipv4.IsNetwork`): that
is what masking off the bits of the host comes to.

Main statements: `Netmask.read_eq_ok_iff`, `Ipv4.network_eq_ok_iff`, `Netmask.read_exact`.
-/

namespace RouterConf

namespace Netmask

/-! ### Masks -/

/-- **A mask of a length**: so many ones from the left, and zeros after them. -/
structure HasLength (mask : UInt32) (p : Nat) : Prop where
  le : p ≤ 32
  bits : ∀ i < 32, mask.toNat.testBit i = decide (32 - p ≤ i)

variable {mask : UInt32} {p : Nat}

/-- A word has no bits beyond its width. -/
theorem testBit_of_le (word : UInt32) {i : Nat} (h : 32 ≤ i) : word.toNat.testBit i = false :=
  Nat.testBit_lt_two_pow (Nat.lt_of_lt_of_le word.toNat_lt (Nat.pow_le_pow_right (by decide) h))

/-- As a number, a mask is the last address less the block of the hosts. -/
theorem HasLength.toNat_eq (h : HasLength mask p) : mask.toNat = 2 ^ 32 - 2 ^ (32 - p) := by
  have small : 2 ^ (32 - p) - 1 < 2 ^ 32 := by
    have : 2 ^ (32 - p) ≤ 2 ^ 32 := Nat.pow_le_pow_right (by decide) (by omega)
    omega
  have block : 2 ^ (32 - p) - 1 + 1 = 2 ^ (32 - p) := Nat.sub_add_cancel Nat.one_le_two_pow
  refine Nat.eq_of_testBit_eq fun i => ?_
  rw [← block, Nat.testBit_two_pow_sub_succ small, Nat.testBit_two_pow_sub_one]
  by_cases hi : i < 32
  · rw [h.bits i hi]
    simp [hi, ← decide_not]
  · rw [testBit_of_le mask (by omega)]
    simp [hi]

/-- There is one mask of a length. -/
theorem HasLength.unique {mask' : UInt32} (h : HasLength mask p) (h' : HasLength mask' p) :
    mask = mask' :=
  UInt32.toNat_inj.1 (h.toNat_eq.trans h'.toNat_eq.symm)

/-- Ones that are shifted leave zeros behind. -/
theorem testBit_shiftLeft_ones (bits : Fin 32) {i : Nat} (hi : i < 32) :
    (shiftLeft 0xFFFFFFFF bits).toNat.testBit i = decide (bits.val ≤ i) := by
  have ones : (0xFFFFFFFF : UInt32).toNat = 2 ^ 32 - 1 := rfl
  -- The shift is by less than the width, and so is not cut down.
  have width : (UInt32.ofNat bits).toNat % 32 = bits.val := by
    rw [UInt32.toNat_ofNat']
    omega
  rw [shiftLeft, UInt32.toNat_shiftLeft, ones, width, Nat.testBit_mod_two_pow,
    Nat.testBit_shiftLeft, Nat.testBit_two_pow_sub_one]
  have inside : i - bits.val < 32 := by omega
  simp [hi, inside]

/-- **The shifted ones are the mask.** -/
theorem hasLength_ofPrefix (p : Fin 33) : HasLength (ofPrefix p) p where
  le := Nat.le_of_lt_succ p.isLt
  bits i hi := by
    unfold ofPrefix
    split_ifs with empty
    · -- No address bit is left for the network.
      subst empty
      simpa using hi
    · exact testBit_shiftLeft_ones _ hi

/-! ### Ones and zeros at the ends of a word -/

/-- A bit of a word as a number is the bit of the word. -/
theorem testBit_eq_getLsbD (word : UInt32) (i : Nat) :
    word.toNat.testBit i = word.toBitVec.getLsbD i := rfl

/-- The complement of a word has the other bits. -/
theorem testBit_not (word : UInt32) {i : Nat} (hi : i < 32) :
    (~~~word).toBitVec.getLsbD i = !word.toNat.testBit i := by
  rw [UInt32.toBitVec_not, BitVec.getLsbD_not, testBit_eq_getLsbD]
  simp [hi]

/-- The ones at the left end are counted down to the first zero, if there is one. -/
theorem leadingOnes_run (word : UInt32) : leadingOnes word ≤ 32 ∧
    (∀ i < 32, 32 - leadingOnes word ≤ i → word.toNat.testBit i = true) ∧
      (leadingOnes word < 32 → word.toNat.testBit (31 - leadingOnes word) = false) := by
  refine ⟨BitVec.clz_le, fun i hi run => ?_, fun short => ?_⟩
  · have clear : (~~~word).toBitVec.getLsbD i = false :=
      Nat.testBit_lt_two_pow (Nat.lt_of_lt_of_le BitVec.toNat_lt_two_pow_sub_clz
        (Nat.pow_le_pow_right (by decide) run))
    rw [testBit_not word hi] at clear
    simpa using clear
  · have rest : (~~~word).toBitVec ≠ 0#32 := BitVec.clz_lt_iff_ne_zero.1 short
    have set := BitVec.getLsbD_true_clz_of_ne_zero (by decide) rest
    rw [testBit_not word (by omega), Bool.not_eq_true'] at set
    exact set

/-- The zeros at the right end are counted up to the first one, if there is one. -/
theorem trailingZeros_run (word : UInt32) : trailingZeros word ≤ 32 ∧
    (∀ i < trailingZeros word, word.toNat.testBit i = false) ∧
      (trailingZeros word < 32 → word.toNat.testBit (trailingZeros word) = true) := by
  refine ⟨BitVec.clz_le, fun i run => BitVec.getLsbD_false_of_lt_ctz run, fun short => ?_⟩
  exact BitVec.getLsbD_true_ctz_of_ne_zero (BitVec.ctz_lt_iff_ne_zero.1 short)

/-- The ones at the left end of a mask are its length. -/
theorem HasLength.leadingOnes_eq (h : HasLength mask p) : leadingOnes mask = p := by
  obtain ⟨le, ones, zero⟩ := leadingOnes_run mask
  have hp := h.le
  rcases Nat.lt_trichotomy (leadingOnes mask) p with fewer | same | more
  · -- Were they fewer, the bit after them would be a zero; were they more, a one of the hosts.
    have clear := zero (by omega)
    rw [h.bits _ (by omega), decide_eq_false_iff_not] at clear
    omega
  · exact same
  · have set := ones (31 - p) (by omega) (by omega)
    rw [h.bits _ (by omega), decide_eq_true_eq] at set
    omega

/-- The zeros at its right end are what is left of the width. -/
theorem HasLength.trailingZeros_eq (h : HasLength mask p) : trailingZeros mask = 32 - p := by
  obtain ⟨le, zeros, one⟩ := trailingZeros_run mask
  have hp := h.le
  rcases Nat.lt_trichotomy (trailingZeros mask) (32 - p) with fewer | same | more
  · -- Were they fewer, the bit after them would be a one; were they more, a zero of the network.
    have set := one (by omega)
    rw [h.bits _ (by omega), decide_eq_true_eq] at set
    omega
  · exact same
  · have clear := zeros (32 - p) more
    rw [h.bits _ (by omega), decide_eq_false_iff_not] at clear
    omega

/-- **A word is a mask** just if the runs at its two ends make it up. -/
theorem isContiguous_iff {mask : UInt32} : isContiguous mask = true ↔ ∃ p, HasLength mask p := by
  rw [isContiguous, decide_eq_true_eq]
  constructor
  · intro whole
    obtain ⟨le, ones, -⟩ := leadingOnes_run mask
    obtain ⟨-, zeros, -⟩ := trailingZeros_run mask
    refine ⟨leadingOnes mask, le, fun i hi => ?_⟩
    -- Every bit is in one of the two runs.
    by_cases run : 32 - leadingOnes mask ≤ i
    · rw [ones i hi run, decide_eq_true run]
    · rw [zeros i (by omega), decide_eq_false run]
  · rintro ⟨p, h⟩
    have := h.le
    rw [h.leadingOnes_eq, h.trailingZeros_eq]
    omega

/-! ### Spellings -/

/-- **The spellings of a length**: a number that is at most 32, or the dotted quad of the mask. -/
inductive Spells : String → Nat → Prop
  | number {s : String} {p : Nat} : Decimal.IsUnsigned s.toList p → p ≤ 32 → Spells s p
  | quad {mask : UInt32} {p : Nat} : HasLength mask p → Spells (Ipv4.text ⟨mask⟩) p

/-- The dot of a dotted quad is in no number. -/
theorem not_isUnsigned_text (a : Ipv4) (n : Nat) : ¬ Decimal.IsUnsigned a.text.toList n := by
  have dot : '.' ∈ a.text.toList := by
    rw [Ipv4.toList_text]
    simp [List.intercalate_cons_of_ne_nil]
  intro h
  rcases h.isDigit_or_plus dot with digit | plus
  · exact absurd digit (by decide)
  · exact absurd plus (by decide)

/-- Every spelling of a length is read as the mask of that length. -/
theorem read_of_spells {s : String} (h : Spells (Text.trim s) p) :
    ∃ mask, read s = .ok mask ∧ HasLength mask p := by
  unfold read
  generalize Text.trim s = trimmed at h
  cases h with
  | number h le =>
    -- A number is taken for a length only if it fits into a byte, as every length does.
    have small : (Decimal.readPlusNat 10 trimmed.toList).filter (· ≤ 255) = some p := by
      rw [Option.filter_eq_some_iff, Decimal.readPlusNat_eq_some_iff]
      exact ⟨h, decide_eq_true (by omega)⟩
    refine ⟨ofPrefix ⟨p, by omega⟩, ?_, hasLength_ofPrefix _⟩
    simp only [small]
    exact dif_pos (by omega)
  | @quad mask _ h =>
    have noNumber : (Decimal.readPlusNat 10 (Ipv4.text ⟨mask⟩).toList).filter (· ≤ 255) = none := by
      rw [Option.filter_eq_none_iff]
      intro n hn
      exact absurd (Decimal.readPlusNat_eq_some_iff.1 hn) (not_isUnsigned_text _ n)
    refine ⟨mask, ?_, h⟩
    simp only [noNumber, Ipv4.read_text]
    exact if_pos (isContiguous_iff.2 ⟨p, h⟩)

/-- What is not spelled as a netmask is refused with the text as it was given. -/
theorem read_of_not_spells {s : String} (h : ∀ p, ¬ Spells (Text.trim s) p) :
    read s = .error (.invalidNetmask s) := by
  unfold read
  dsimp only
  split
  · rename_i n number
    -- A number that is no length is refused without being taken for a dotted quad.
    obtain ⟨number, -⟩ := Option.filter_eq_some_iff.1 number
    refine dif_neg fun le => h n (.number ?_ (by omega))
    exact Decimal.readPlusNat_eq_some_iff.1 number
  · split
    · rename_i a quad
      refine if_neg fun contiguous => ?_
      obtain ⟨p, hp⟩ := isContiguous_iff.1 contiguous
      exact h p (Ipv4.read_eq_some_iff.1 quad ▸ .quad hp)
    · rfl

/-- **What is read as a netmask**: the spellings of a length, each as the mask of the length. -/
theorem read_eq_ok_iff {s : String} {mask : UInt32} :
    read s = .ok mask ↔ ∃ p, Spells (Text.trim s) p ∧ HasLength mask p := by
  constructor
  · intro h
    by_cases spelled : ∃ p, Spells (Text.trim s) p
    · obtain ⟨p, hp⟩ := spelled
      obtain ⟨mask', read, length⟩ := read_of_spells hp
      obtain rfl := Except.ok.inj (h.symm.trans read)
      exact ⟨p, hp, length⟩
    · rw [read_of_not_spells fun p hp => spelled ⟨p, hp⟩] at h
      cases h
  · rintro ⟨p, hp, length⟩
    obtain ⟨mask', read, length'⟩ := read_of_spells hp
    rw [read, length.unique length']

/-- Everything else is refused, and the error shows the text untrimmed. -/
theorem read_eq_error_iff {s : String} {e : AddressError} :
    read s = .error e ↔ (∀ p, ¬ Spells (Text.trim s) p) ∧ .invalidNetmask s = e := by
  constructor
  · intro h
    have refused : ∀ p, ¬ Spells (Text.trim s) p := by
      intro p hp
      obtain ⟨mask, read, -⟩ := read_of_spells hp
      rw [read] at h
      cases h
    rw [read_of_not_spells refused] at h
    exact ⟨refused, Except.error.inj h⟩
  · rintro ⟨refused, rfl⟩
    exact read_of_not_spells refused

end Netmask

/-! ### Networks -/

namespace Ipv4

/-- **The network of an address**: the addresses come in blocks of one size, and the network is the
first of the block that the address is in. -/
structure IsNetwork (n a : Ipv4) (p : Nat) : Prop where
  block : 2 ^ (32 - p) ∣ n.word.toNat
  le : n.word.toNat ≤ a.word.toNat
  lt : a.word.toNat < n.word.toNat + 2 ^ (32 - p)

/-- Blocks do not overlap, so that an address has one network. -/
theorem IsNetwork.unique {n n' a : Ipv4} {p : Nat} (h : n.IsNetwork a p) (h' : n'.IsNetwork a p) :
    n = n' := by
  obtain ⟨k, hk⟩ := h.block
  obtain ⟨k', hk'⟩ := h'.block
  have positive : 0 < 2 ^ (32 - p) := Nat.two_pow_pos _
  -- The number of the block is the quotient, whichever of the two networks is taken.
  have first : a.word.toNat / 2 ^ (32 - p) = k :=
    Nat.div_eq_of_lt_le (by rw [Nat.mul_comm, ← hk]; exact h.le)
      (by rw [Nat.succ_mul, Nat.mul_comm, ← hk]; exact h.lt)
  have second : a.word.toNat / 2 ^ (32 - p) = k' :=
    Nat.div_eq_of_lt_le (by rw [Nat.mul_comm, ← hk']; exact h'.le)
      (by rw [Nat.succ_mul, Nat.mul_comm, ← hk']; exact h'.lt)
  have same : n.word = n'.word := UInt32.toNat_inj.1 (by rw [hk, hk', ← first, ← second])
  cases n
  cases n'
  exact congrArg _ same

/-- A network is its own network. -/
theorem IsNetwork.self {n a : Ipv4} {p : Nat} (h : n.IsNetwork a p) : n.IsNetwork n p :=
  ⟨h.block, Nat.le_refl _, Nat.lt_add_of_pos_right (Nat.two_pow_pos _)⟩

/-- A mask takes away what an address is beyond the last multiple of the block size. -/
theorem toNat_and_mask {mask : UInt32} {p : Nat} (h : Netmask.HasLength mask p) (word : UInt32) :
    (word &&& mask).toNat = word.toNat / 2 ^ (32 - p) * 2 ^ (32 - p) := by
  refine Nat.eq_of_testBit_eq fun i => ?_
  rw [UInt32.toNat_and, Nat.testBit_and, Nat.testBit_mul_two_pow, Nat.testBit_div_two_pow]
  by_cases hi : i < 32
  · rw [h.bits i hi]
    by_cases kept : 32 - p ≤ i
    · simp [kept]
    · simp [kept]
  · -- Beyond the word there are no bits.
    have beyond : word.toNat.testBit i = false := Netmask.testBit_of_le word (by omega)
    have same : i - (32 - p) + (32 - p) = i := by omega
    rw [same, beyond]
    simp

/-- Masking an address makes its network. -/
theorem isNetwork_and {mask : UInt32} {p : Nat} (h : Netmask.HasLength mask p) (a : Ipv4) :
    IsNetwork ⟨a.word &&& mask⟩ a p := by
  have value : (a.word &&& mask).toNat = a.word.toNat / 2 ^ (32 - p) * 2 ^ (32 - p) :=
    toNat_and_mask h a.word
  have positive : 0 < 2 ^ (32 - p) := Nat.two_pow_pos _
  refine ⟨value ▸ Nat.dvd_mul_left _ _, ?_, ?_⟩
  · rw [value]
    exact Nat.div_mul_le_self _ _
  · rw [value]
    exact Nat.lt_div_mul_add positive

/-- **The network of an address under a netmask**, both as text. -/
theorem network_eq_ok_iff {address netmask : String} {n : Ipv4} :
    network address netmask = .ok n ↔ ∃ a p, Text.trim address = a.text ∧
      Netmask.Spells (Text.trim netmask) p ∧ n.IsNetwork a p := by
  unfold network
  constructor
  · intro h
    split at h
    · cases h
    · rename_i a ha
      cases hm : Netmask.read netmask with
      | error e =>
        rw [hm] at h
        cases h
      | ok mask =>
        rw [hm] at h
        obtain ⟨p, hp, length⟩ := Netmask.read_eq_ok_iff.1 hm
        obtain rfl : ⟨a.word &&& mask⟩ = n := Except.ok.inj h
        exact ⟨a, p, read_eq_some_iff.1 ha, hp, isNetwork_and length a⟩
  · rintro ⟨a, p, ha, hp, hn⟩
    obtain ⟨mask, hm, length⟩ := Netmask.read_of_spells hp
    rw [ha, read_text, hm, hn.unique (isNetwork_and length a)]
    rfl

/-- The address is looked at first, and what cannot be read is shown as it was given. -/
theorem network_eq_error_iff {address netmask : String} {e : AddressError} :
    network address netmask = .error e ↔
      (∀ a : Ipv4, Text.trim address ≠ a.text) ∧ .invalidAddress address = e ∨
        (∃ a : Ipv4, Text.trim address = a.text) ∧
          (∀ p, ¬ Netmask.Spells (Text.trim netmask) p) ∧ .invalidNetmask netmask = e := by
  unfold network
  cases ha : read (Text.trim address) with
  | none =>
    have unread : ∀ a : Ipv4, Text.trim address ≠ a.text := by
      intro a text
      rw [read_eq_some_iff.2 text] at ha
      cases ha
    simp [unread]
  | some a =>
    have text := read_eq_some_iff.1 ha
    have spelled : ∃ a : Ipv4, Text.trim address = a.text := ⟨a, text⟩
    have noFault : ¬ ∀ a : Ipv4, Text.trim address ≠ a.text := fun h => h a text
    rw [← Netmask.read_eq_error_iff]
    cases hm : Netmask.read netmask <;>
      simp [spelled, noFault, bind, Except.bind, pure, Except.pure]

/-- There is no white space in a dotted quad. -/
theorem trim_text (a : Ipv4) : Text.trim a.text = a.text := by
  refine Text.trim_of_no_blank fun c hc => ?_
  rcases isDigit_or_dot_of_mem_text hc with digit | rfl
  · exact Decimal.isBlank_of_isDigit digit
  · decide

end Ipv4

namespace Netmask

/-! ### Reading and masking -/

/-- The shift by which a length is turned into a mask is by less than the width of a word. -/
theorem ofPrefix_of_ne_zero {p : Fin 33} (h : p ≠ 0) :
    ∃ bits : Fin 32, bits.val + p.val = 32 ∧ ofPrefix p = shiftLeft 0xFFFFFFFF bits := by
  have positive : p.val ≠ 0 := fun zero => h (Fin.ext zero)
  exact ⟨⟨32 - p, by omega⟩, by simp only; omega, dif_neg h⟩

/-- A length as it is printed is one of its spellings. -/
theorem read_toString (p : Fin 33) : read (toString p.val) = .ok (ofPrefix p) := by
  refine read_eq_ok_iff.2 ⟨p, ?_, hasLength_ofPrefix p⟩
  have digits := Decimal.isNumeral_toDigits p.val
  have written : (toString p.val).toList = Nat.toDigits 10 p.val := Nat.toList_repr
  have noBlank : ∀ c ∈ (toString p.val).toList, Text.isBlank c = false := fun c hc =>
    Decimal.isBlank_of_isDigit (digits.digits c (written ▸ hc))
  rw [Text.trim_of_no_blank noBlank]
  exact .number (written ▸ .plain digits) (Nat.le_of_lt_succ p.isLt)

/-- So is the dotted quad of a mask. -/
theorem read_text {mask : UInt32} {p : Nat} (h : HasLength mask p) :
    read (Ipv4.text ⟨mask⟩) = .ok mask :=
  read_eq_ok_iff.2 ⟨p, by rw [Ipv4.trim_text]; exact .quad h, h⟩

/-- **Netmasks are read exactly.** What is read are the spellings of a length, white space around
them apart, and the mask is the one of the length; every other text is refused as it was given. Both
spellings of every length are there, and they have one mask. Under a netmask of a length, an address
is taken to the first address of its block, and from there no further, whether the netmask is given
as it was or as it is printed. -/
theorem read_exact :
    (∀ s, (∃ mask, read s = .ok mask) ↔ ∃ p, Spells (Text.trim s) p) ∧
      (∀ s p, Spells (Text.trim s) p →
        ∃ mask, read s = .ok mask ∧ mask.toNat = 2 ^ 32 - 2 ^ (32 - p)) ∧
      (∀ s, (¬ ∃ p, Spells (Text.trim s) p) → read s = .error (.invalidNetmask s)) ∧
      (∀ p : Fin 33, read (toString p.val) = .ok (ofPrefix p) ∧
        read (Ipv4.text ⟨ofPrefix p⟩) = .ok (ofPrefix p) ∧
        (p ≠ 0 → ∃ bits : Fin 32, bits.val + p.val = 32 ∧
          ofPrefix p = shiftLeft 0xFFFFFFFF bits)) ∧
      (∀ address netmask a p, Text.trim address = Ipv4.text a → Spells (Text.trim netmask) p →
        ∃ n mask, Ipv4.network address netmask = .ok n ∧ n.IsNetwork a p ∧
          read netmask = .ok mask ∧ Ipv4.network n.text netmask = .ok n ∧
          Ipv4.network n.text (Ipv4.text ⟨mask⟩) = .ok n) := by
  refine ⟨fun s => ?_, fun s p h => ?_, fun s h => ?_, fun p => ?_, ?_⟩
  · constructor
    · rintro ⟨mask, h⟩
      obtain ⟨p, hp, -⟩ := read_eq_ok_iff.1 h
      exact ⟨p, hp⟩
    · rintro ⟨p, hp⟩
      obtain ⟨mask, h, -⟩ := read_of_spells hp
      exact ⟨mask, h⟩
  · obtain ⟨mask, read, length⟩ := read_of_spells h
    exact ⟨mask, read, length.toNat_eq⟩
  · exact read_of_not_spells fun p hp => h ⟨p, hp⟩
  · exact ⟨read_toString p, read_text (hasLength_ofPrefix p), ofPrefix_of_ne_zero⟩
  · intro address netmask a p ha hp
    obtain ⟨mask, hm, length⟩ := read_of_spells hp
    have network : (⟨a.word &&& mask⟩ : Ipv4).IsNetwork a p := Ipv4.isNetwork_and length a
    -- The mask as a dotted quad is a spelling of the same length, so it gives the same network.
    have printed : Spells (Text.trim (Ipv4.text ⟨mask⟩)) p := by
      rw [Ipv4.trim_text]
      exact .quad length
    exact ⟨⟨a.word &&& mask⟩, mask, Ipv4.network_eq_ok_iff.2 ⟨a, p, ha, hp, network⟩, network, hm,
      Ipv4.network_eq_ok_iff.2 ⟨_, p, Ipv4.trim_text _, hp, network.self⟩,
      Ipv4.network_eq_ok_iff.2 ⟨_, p, Ipv4.trim_text _, printed, network.self⟩⟩

/-- A length with a sign, zeros and white space about it is the netmask of 24 ones, one that is too
long is none, and an address is taken to its network under the quad of the same mask. -/
theorem read_exact_padded :
    Spells (Text.trim " +024\n") 24 ∧ Spells (Text.trim "255.255.255.0") 24 ∧
      (∃ mask, read " +024\n" = .ok mask ∧ mask.toNat = 2 ^ 32 - 2 ^ 8) ∧
      (¬ ∃ p, Spells (Text.trim "33") p) ∧ read "33" = .error (.invalidNetmask "33") ∧
      ∃ n, Ipv4.network "192.0.2.77" "255.255.255.0" = .ok n ∧ n.text = "192.0.2.0" ∧
        Ipv4.network n.text "255.255.255.0" = .ok n := by
  obtain ⟨accepts, ofSpelled, refused, -, ofNetwork⟩ := read_exact
  have number : Spells (Text.trim " +024\n") 24 := by
    have trimmed : Text.trim " +024\n" = "+024" := by decide +kernel
    rw [trimmed]
    exact .number (.plus ⟨by decide, List.all_eq_true.1 (by decide), by decide⟩) (by decide)
  have quad : Spells (Text.trim "255.255.255.0") 24 := by
    have written : Text.trim "255.255.255.0" = Ipv4.text ⟨ofPrefix 24⟩ := by decide +kernel
    rw [written]
    exact .quad (hasLength_ofPrefix 24)
  have tooLong : ¬ ∃ p, Spells (Text.trim "33") p := by
    rw [← accepts]
    rintro ⟨mask, h⟩
    have isError : (read "33").isOk = false := by decide +kernel
    rw [h] at isError
    cases isError
  have address : Text.trim "192.0.2.77" = Ipv4.text (.ofOctets 192 0 2 77) := by decide +kernel
  obtain ⟨n, -, masked, -, -, again, -⟩ := ofNetwork _ _ _ 24 address quad
  have first : (Ipv4.network "192.0.2.77" "255.255.255.0").toOption.map Ipv4.text =
      some "192.0.2.0" := by
    decide +kernel
  rw [masked] at first
  exact ⟨number, quad, ofSpelled _ 24 number, tooLong, refused _ tooLong, n, masked,
    Option.some.inj first, again⟩

end Netmask

end RouterConf
