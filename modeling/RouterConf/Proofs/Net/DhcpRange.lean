import RouterConf.Net.DhcpRange
import RouterConf.Proofs.Net.Netmask

/-!
# The arithmetic of lease ranges

A range is two sums: the network of the interface with the first offset, and that with the second.
An address is as good as its number here, so an offset leads to the address that is the sum or,
where the sum is no address, to none (`Ipv4.offset_eq_ok_iff`, `Ipv4.offset_of_not_inSpace`). Both
offsets may have either sign, and the sums are exact (`Ipv4.offset`).

What comes of a pool on an interface is listed rule by rule (`DhcpRange.Outcome`). There is a rule
for every pool and interface (`DhcpRange.exists_outcome`), and the range is made as the rule has it
(`DhcpRange.Outcome.ofPool_eq`), so there is one only. The rules of an interface with a network name
the network, but not the texts it is given by (`DhcpRange.ofPool_of_inNetwork`), which is why other
texts for it make no difference.

Main statement: `DhcpRange.ofPool_exact`.
-/

namespace RouterConf

namespace Ipv4

/-! ### Offsets -/

/-- A number that is an address. -/
def InSpace (value : Int) : Prop :=
  0 ≤ value ∧ value < 2 ^ 32

variable {base a : Ipv4} {d value : Int}

/-- An address is in the space of addresses. -/
theorem inSpace_word (a : Ipv4) : InSpace a.word.toNat := by
  have bound := a.word.toNat_lt
  exact ⟨by omega, by omega⟩

/-- A number in that space is what is left of it in a word. -/
theorem toNat_ofNat_of_inSpace (h : InSpace value) :
    ((UInt32.ofNat value.toNat).toNat : Int) = value := by
  obtain ⟨nonneg, bound⟩ := h
  rw [UInt32.toNat_ofNat', Nat.mod_eq_of_lt (by omega)]
  exact Int.toNat_of_nonneg nonneg

/-- It is an address. -/
theorem exists_of_inSpace (h : InSpace value) : ∃ a : Ipv4, (a.word.toNat : Int) = value :=
  ⟨⟨UInt32.ofNat value.toNat⟩, toNat_ofNat_of_inSpace h⟩

/-- **An offset leads to the sum.** -/
theorem offset_eq_ok_iff : base.offset d = .ok a ↔ (a.word.toNat : Int) = base.word.toNat + d := by
  unfold offset
  constructor
  · intro h
    dsimp only at h
    split_ifs at h with inside
    obtain rfl : ⟨UInt32.ofNat (base.word.toNat + d).toNat⟩ = a := Except.ok.inj h
    exact toNat_ofNat_of_inSpace inside
  · intro h
    have inside : InSpace (base.word.toNat + d) := h ▸ inSpace_word a
    refine (if_pos inside).trans ?_
    rw [← h, Int.toNat_natCast, UInt32.ofNat_toNat]

/-- Where the sum is no address, the address and the offset are reported. -/
theorem offset_of_not_inSpace (h : ¬ InSpace (base.word.toNat + d)) :
    base.offset d = .error (.outOfRange base d) :=
  if_neg h

end Ipv4

/-- **The network of an interface**, as its address and its netmask give it. -/
def NetworkInterface.InNetwork (i : NetworkInterface) (n : Ipv4) (q : Nat) : Prop :=
  ∃ ipaddr netmask a, i.ipaddr = some ipaddr ∧ i.netmask = some netmask ∧
    Text.trim ipaddr = Ipv4.text a ∧ Netmask.Spells (Text.trim netmask) q ∧ n.IsNetwork a q

namespace DhcpPool

/-- A pool without start, without limit or without lease time. -/
def Unset (p : DhcpPool) : Prop :=
  p.start = none ∨ p.limit = none ∨ p.leasetime = none

/-- A pool with all three. -/
structure Sets (p : DhcpPool) (start limit : Int) (leasetime : String) : Prop where
  start : p.start = some start
  limit : p.limit = some limit
  leasetime : p.leasetime = some leasetime

variable {p : DhcpPool} {start limit : Int} {leasetime : String}

/-- A pool has all three values or lacks one. -/
theorem unset_or_sets (p : DhcpPool) :
    p.Unset ∨ ∃ start limit leasetime, p.Sets start limit leasetime := by
  cases hs : p.start with
  | none => exact .inl (.inl hs)
  | some start =>
    cases hl : p.limit with
    | none => exact .inl (.inr (.inl hl))
    | some limit =>
      cases ht : p.leasetime with
      | none => exact .inl (.inr (.inr ht))
      | some leasetime => exact .inr ⟨start, limit, leasetime, hs, hl, ht⟩

/-- A pool that lacks one has no range, -/
theorem Unset.range?_eq (h : p.Unset) : p.range? = none := by
  unfold range?
  rcases h with h | h | h
  · simp [h]
  · cases p.start <;> simp [h]
  · cases p.start <;> cases p.limit <;> simp [h]

/-- and one that has all three has the range that they make. -/
theorem Sets.range?_eq (h : p.Sets start limit leasetime) :
    p.range? = some (start, limit, leasetime) := by
  simp [range?, h.start, h.limit, h.leasetime]

end DhcpPool

namespace DhcpRange

open Ipv4 (InSpace)

variable {i i' : NetworkInterface} {p : DhcpPool} {n : Ipv4} {q : Nat} {start limit : Int}
  {leasetime : String}

/-! ### What comes of a pool -/

/-- **The rules for a pool on an interface**: of the things that can be amiss the first is
reported, and where none is, the ends of the range are the two sums. -/
inductive Outcome (i : NetworkInterface) (p : DhcpPool) :
    Except AddressError (Option DhcpRange) → Prop
  | unset : p.Unset → Outcome i p (.ok none)
  | noAddress {start limit : Int} {leasetime : String} :
    p.Sets start limit leasetime → i.ipaddr = none → Outcome i p (.error (.missing "ipaddr"))
  | noNetmask {start limit : Int} {leasetime ipaddr : String} :
    p.Sets start limit leasetime → i.ipaddr = some ipaddr → i.netmask = none →
    Outcome i p (.error (.missing "netmask"))
  | badAddress {start limit : Int} {leasetime ipaddr netmask : String} :
    p.Sets start limit leasetime → i.ipaddr = some ipaddr → i.netmask = some netmask →
    (∀ a, Text.trim ipaddr ≠ Ipv4.text a) → Outcome i p (.error (.invalidAddress ipaddr))
  | badNetmask {start limit : Int} {leasetime ipaddr netmask : String} {a : Ipv4} :
    p.Sets start limit leasetime → i.ipaddr = some ipaddr → i.netmask = some netmask →
    Text.trim ipaddr = a.text → (∀ q, ¬ Netmask.Spells (Text.trim netmask) q) →
    Outcome i p (.error (.invalidNetmask netmask))
  | firstOutside {start limit : Int} {leasetime : String} {n : Ipv4} {q : Nat} :
    p.Sets start limit leasetime → i.InNetwork n q → ¬ InSpace (n.word.toNat + start) →
    Outcome i p (.error (.outOfRange n start))
  | lastOutside {start limit : Int} {leasetime : String} {n first : Ipv4} {q : Nat} :
    p.Sets start limit leasetime → i.InNetwork n q →
    (first.word.toNat : Int) = n.word.toNat + start →
    ¬ InSpace (n.word.toNat + start + limit) → Outcome i p (.error (.outOfRange first limit))
  | range {start limit : Int} {leasetime netmask : String} {n first last : Ipv4} {q : Nat} :
    p.Sets start limit leasetime → i.InNetwork n q → i.netmask = some netmask →
    (first.word.toNat : Int) = n.word.toNat + start →
    (last.word.toNat : Int) = n.word.toNat + start + limit →
    Outcome i p (.ok (some { first := first.text, last := last.text, netmask, leasetime }))

/-- Once the network is known, the address is not looked at any more, and the netmask is only
copied. -/
theorem ofPool_of_inNetwork {netmask : String} (hp : p.Sets start limit leasetime)
    (hi : i.InNetwork n q) (hm : i.netmask = some netmask) :
    ofPool i p = (do
      let first ← n.offset start
      let last ← first.offset limit
      return some { first := first.text, last := last.text, netmask, leasetime }) := by
  obtain ⟨ipaddr, _, a, address, mask, spelled, length, network⟩ := hi
  -- The netmask of the network is the one that is copied.
  obtain rfl := Option.some.inj (hm.symm.trans mask)
  have network := Ipv4.network_eq_ok_iff.2 ⟨a, q, spelled, length, network⟩
  rw [ofPool, hp.range?_eq]
  simp only [address, hm]
  rw [network]
  rfl

/-- What keeps the address and the netmask from giving a network keeps the pool from its range. -/
theorem ofPool_of_network_error {ipaddr netmask : String} {e : AddressError}
    (hp : p.Sets start limit leasetime) (address : i.ipaddr = some ipaddr)
    (mask : i.netmask = some netmask) (refused : Ipv4.network ipaddr netmask = .error e) :
    ofPool i p = .error e := by
  rw [ofPool, hp.range?_eq]
  simp only [address, mask]
  rw [refused]
  rfl

/-- **The rules are followed.** -/
theorem Outcome.ofPool_eq {r : Except AddressError (Option DhcpRange)} (h : Outcome i p r) :
    ofPool i p = r := by
  cases h with
  | unset hp => exact ofPool_eq_none hp.range?_eq i
  | noAddress hp address => simp only [ofPool, hp.range?_eq, address]
  | noNetmask hp address mask => simp only [ofPool, hp.range?_eq, address, mask]
  | badAddress hp address mask unspelled =>
    refine ofPool_of_network_error hp address mask (Ipv4.network_eq_error_iff.2 (.inl ?_))
    exact ⟨unspelled, rfl⟩
  | badNetmask hp address mask spelled unspelled =>
    refine ofPool_of_network_error hp address mask (Ipv4.network_eq_error_iff.2 (.inr ?_))
    exact ⟨⟨_, spelled⟩, unspelled, rfl⟩
  | firstOutside hp hi outside =>
    obtain ⟨_, _, _, -, mask, -⟩ := id hi
    rw [ofPool_of_inNetwork hp hi mask, Ipv4.offset_of_not_inSpace outside]
    rfl
  | lastOutside hp hi first outside =>
    -- The second offset starts from the first end, which is the first sum.
    obtain ⟨_, _, _, -, mask, -⟩ := id hi
    rw [← first] at outside
    rw [ofPool_of_inNetwork hp hi mask, Ipv4.offset_eq_ok_iff.2 first]
    refine (pure_bind _ _).trans ?_
    rw [Ipv4.offset_of_not_inSpace outside]
    rfl
  | range hp hi mask first last =>
    rw [← first] at last
    rw [ofPool_of_inNetwork hp hi mask, Ipv4.offset_eq_ok_iff.2 first]
    refine (pure_bind _ _).trans ?_
    rw [Ipv4.offset_eq_ok_iff.2 last]
    rfl

/-- **There is a rule for every case.** -/
theorem exists_outcome (i : NetworkInterface) (p : DhcpPool) : ∃ r, Outcome i p r := by
  -- The tests are made in the order of the rules, and the first that fails names its rule.
  obtain hp | ⟨start, limit, leasetime, hp⟩ := p.unset_or_sets
  · exact ⟨_, .unset hp⟩
  cases address : i.ipaddr with
  | none => exact ⟨_, .noAddress hp address⟩
  | some ipaddr =>
    cases mask : i.netmask with
    | none => exact ⟨_, .noNetmask hp address mask⟩
    | some netmask =>
      by_cases spelled : ∃ a, Text.trim ipaddr = Ipv4.text a
      swap
      · exact ⟨_, .badAddress hp address mask fun a ha => spelled ⟨a, ha⟩⟩
      obtain ⟨a, spelled⟩ := spelled
      by_cases length : ∃ q, Netmask.Spells (Text.trim netmask) q
      swap
      · exact ⟨_, .badNetmask hp address mask spelled fun q hq => length ⟨q, hq⟩⟩
      obtain ⟨q, length⟩ := length
      obtain ⟨word, -, ones⟩ := Netmask.read_of_spells length
      have hi : i.InNetwork ⟨a.word &&& word⟩ q :=
        ⟨ipaddr, netmask, a, address, mask, spelled, length, Ipv4.isNetwork_and ones a⟩
      by_cases inside : InSpace ((a.word &&& word).toNat + start)
      swap
      · exact ⟨_, .firstOutside hp hi inside⟩
      obtain ⟨first, hf⟩ := Ipv4.exists_of_inSpace inside
      by_cases inside' : InSpace ((a.word &&& word).toNat + start + limit)
      swap
      · exact ⟨_, .lastOutside hp hi hf inside'⟩
      obtain ⟨last, hl⟩ := Ipv4.exists_of_inSpace inside'
      exact ⟨_, .range hp hi mask hf hl⟩

/-- **What comes of a pool** is what the rules have. -/
theorem ofPool_eq_iff {r : Except AddressError (Option DhcpRange)} :
    ofPool i p = r ↔ Outcome i p r := by
  constructor
  · rintro rfl
    obtain ⟨r, h⟩ := exists_outcome i p
    exact h.ofPool_eq.symm ▸ h
  · exact Outcome.ofPool_eq

/-! ### Consequences -/

/-- There is no range and no error just for a pool that is unset. -/
theorem ofPool_eq_none_iff : ofPool i p = .ok none ↔ p.Unset := by
  constructor
  · intro h
    cases ofPool_eq_iff.1 h with
    | unset hp => exact hp
  · intro hp
    exact ofPool_eq_none hp.range?_eq i

/-- The ends of a range are printed so that they are read back as the two sums. -/
theorem ends_of_ofPool {range : DhcpRange} (h : ofPool i p = .ok (some range)) :
    ∃ n q first last start limit, i.InNetwork n q ∧ p.start = some start ∧ p.limit = some limit ∧
      Ipv4.read range.first = some first ∧ Ipv4.read range.last = some last ∧
      (first.word.toNat : Int) = n.word.toNat + start ∧
      (last.word.toNat : Int) = n.word.toNat + start + limit ∧
      (first.word.toNat ≤ last.word.toNat ↔ 0 ≤ limit) ∧
      i.netmask = some range.netmask ∧ p.leasetime = some range.leasetime := by
  cases ofPool_eq_iff.1 h with
  | @range start limit _ _ n first last q hp hi mask hf hl =>
    -- The ends differ by the limit.
    have order : first.word.toNat ≤ last.word.toNat ↔ 0 ≤ limit := by omega
    exact ⟨n, q, first, last, start, limit, hi, hp.start, hp.limit, Ipv4.read_text _,
      Ipv4.read_text _, hf, hl, order, mask, hp.leasetime⟩

/-- The ends depend on the network only, whichever of its addresses the interface has and however
the netmask is written. -/
theorem ends_eq_of_inNetwork {q' : Nat} (hi : i.InNetwork n q) (hi' : i'.InNetwork n q') :
    (ofPool i p).map (Option.map fun range => (range.first, range.last)) =
      (ofPool i' p).map (Option.map fun range => (range.first, range.last)) := by
  obtain hp | ⟨start, limit, leasetime, hp⟩ := p.unset_or_sets
  · rw [ofPool_eq_none hp.range?_eq, ofPool_eq_none hp.range?_eq]
  · -- Both pools count from one network, and the netmasks are only shown.
    obtain ⟨_, netmask, _, -, mask, -⟩ := id hi
    obtain ⟨_, netmask', _, -, mask', -⟩ := id hi'
    rw [ofPool_of_inNetwork hp hi mask, ofPool_of_inNetwork hp hi' mask']
    cases n.offset start with
    | error e => rfl
    | ok first =>
      -- From here on the two pools differ in the netmask that they show, which is no end.
      show (first.offset limit >>= _).map _ = (first.offset limit >>= _).map _
      cases first.offset limit <;> rfl

/-- **Lease ranges are exact.** What comes of a pool on an interface is what the rules have, and
there is no range just if the pool is unset. The ends of a range are the sums of the network and the
offsets, they are printed so that they are read back, they are in order just if the limit is not
negative, and they are the same for whatever address of the network and spelling of the netmask. -/
theorem ofPool_exact (p : DhcpPool) :
    (∀ i r, ofPool i p = r ↔ Outcome i p r) ∧
      (∀ i, ofPool i p = .ok none ↔ p.start = none ∨ p.limit = none ∨ p.leasetime = none) ∧
      (∀ i range, ofPool i p = .ok (some range) →
        ∃ n q first last start limit, i.InNetwork n q ∧ p.start = some start ∧
          p.limit = some limit ∧ Ipv4.read range.first = some first ∧
          Ipv4.read range.last = some last ∧ (first.word.toNat : Int) = n.word.toNat + start ∧
          (last.word.toNat : Int) = n.word.toNat + start + limit ∧
          (first.word.toNat ≤ last.word.toNat ↔ 0 ≤ limit) ∧
          i.netmask = some range.netmask ∧ p.leasetime = some range.leasetime) ∧
      (∀ i i' n q q', i.InNetwork n q → i'.InNetwork n q' →
        (ofPool i p).map (Option.map fun range => (range.first, range.last)) =
          (ofPool i' p).map (Option.map fun range => (range.first, range.last))) :=
  ⟨fun _ _ => ofPool_eq_iff, fun _ => ofPool_eq_none_iff, fun _ _ h => ends_of_ofPool h,
    fun _ _ _ _ _ hi hi' => ends_eq_of_inNetwork hi hi'⟩

/-- Two interfaces on 192.0.2.0 whose netmasks are written differently. A pool has the same ends on
both, the netmask being shown as the interface has it. -/
theorem ofPool_exact_two_spellings :
    NetworkInterface.InNetwork ⟨"eth1", none, some "192.0.2.77", some " +24"⟩
        (.ofOctets 192 0 2 0) 24 ∧
      NetworkInterface.InNetwork ⟨"eth2", none, some "192.0.2.1\n", some "255.255.255.0"⟩
        (.ofOctets 192 0 2 0) 24 ∧
      ofPool ⟨"eth1", none, some "192.0.2.77", some " +24"⟩
          ⟨"lan", some "12h", some 50, some 100, [], []⟩ =
        .ok (some ⟨"192.0.2.100", "192.0.2.150", " +24", "12h"⟩) ∧
      (ofPool ⟨"eth2", none, some "192.0.2.1\n", some "255.255.255.0"⟩
          ⟨"lan", some "12h", some 50, some 100, [], []⟩).map
          (Option.map fun range => (range.first, range.last)) =
        .ok (some ("192.0.2.100", "192.0.2.150")) := by
  have left : NetworkInterface.InNetwork ⟨"eth1", none, some "192.0.2.77", some " +24"⟩
      (.ofOctets 192 0 2 0) 24 := by
    -- A sign in front of a length is allowed, and white space around it.
    have trimmed : Text.trim " +24" = "+24" := by decide +kernel
    refine ⟨_, _, .ofOctets 192 0 2 77, rfl, rfl, by decide +kernel, ?_, by decide, by decide,
      by decide⟩
    rw [trimmed]
    exact .number (.plus ⟨by decide, List.all_eq_true.1 (by decide), by decide⟩) (by decide)
  have right : NetworkInterface.InNetwork ⟨"eth2", none, some "192.0.2.1\n", some "255.255.255.0"⟩
      (.ofOctets 192 0 2 0) 24 := by
    have written : Text.trim "255.255.255.0" = Ipv4.text ⟨Netmask.ofPrefix 24⟩ := by decide +kernel
    refine ⟨_, _, .ofOctets 192 0 2 1, rfl, rfl, by decide +kernel, ?_, by decide, by decide,
      by decide⟩
    rw [written]
    exact .quad (Netmask.hasLength_ofPrefix 24)
  obtain ⟨rules, -, -, ends⟩ := ofPool_exact ⟨"lan", some "12h", some 50, some 100, [], []⟩
  have made : ofPool ⟨"eth1", none, some "192.0.2.77", some " +24"⟩
      ⟨"lan", some "12h", some 50, some 100, [], []⟩ =
        .ok (some ⟨"192.0.2.100", "192.0.2.150", " +24", "12h"⟩) := by
    have first : "192.0.2.100" = Ipv4.text (.ofOctets 192 0 2 100) := by decide +kernel
    have last : "192.0.2.150" = Ipv4.text (.ofOctets 192 0 2 150) := by decide +kernel
    have sets : DhcpPool.Sets ⟨"lan", some "12h", some 50, some 100, [], []⟩ 100 50 "12h" :=
      ⟨rfl, rfl, rfl⟩
    rw [rules, first, last]
    exact .range sets left rfl (by decide) (by decide)
  refine ⟨left, right, made, ?_⟩
  rw [← ends _ _ _ _ _ left right, made]
  rfl

end DhcpRange

end RouterConf
