import RouterConf.Proofs.Dnsmasq.Rendering
import RouterConf.Proofs.Net.DhcpRange

/-!
# The netmask of a range as it is shown

The first end of a range is counted from the network that a mask gives, and the mask is read from
the netmask of the interface. That may be a length or the dotted quad of the mask, with white space
around it. The ends are printed from what was read. The netmask is not: the range has the text of
the interface. So it is the dotted quad of the mask just if the interface has that very text, which
is to say neither white space around it nor a length (`Netmask.eq_text_iff`).

The line of a range is taken apart at its commas. None is in an address or in a netmask that can be
read, so the line has one reading (`DhcpRange.rangeDirective_inj`), and a netmask that is spelled in
another way leaves it without the dotted quad that it calls for (`DhcpRange.wellFormed_iff`).

Main statement: `DhcpRange.ofPool_netmask`.
-/

namespace RouterConf

namespace Text

/-- What is not dropped for itself is not dropped at all. -/
theorem mem_dropWhile_of_neg {p : Char → Bool} {c : Char} (hp : p c = false) {cs : List Char}
    (h : c ∈ cs) : c ∈ cs.dropWhile p := by
  rw [← List.takeWhile_append_dropWhile (p := p) (l := cs), List.mem_append] at h
  rcases h with dropped | kept
  · exact absurd (List.all_eq_true.1 List.all_takeWhile c dropped) (by simp [hp])
  · exact kept

/-- Trimming takes away blanks only. -/
theorem mem_trim_of_mem {c : Char} (hc : isBlank c = false) {s : String} (h : c ∈ s.toList) :
    c ∈ (trim s).toList := by
  rw [trim, String.toList_ofList, trimmed, List.mem_reverse]
  exact mem_dropWhile_of_neg hc (List.mem_reverse.2 (mem_dropWhile_of_neg hc h))

end Text

namespace Ipv4

/-- A dotted quad has digits and dots, and no comma. -/
theorem comma_notMem_text (a : Ipv4) : ',' ∉ a.text.toList := by
  intro h
  rcases isDigit_or_dot_of_mem_text h with digit | dot
  · exact absurd digit (by decide)
  · exact absurd dot (by decide)

end Ipv4

namespace Netmask

variable {s : String} {mask : UInt32} {q : Nat}

/-! ### Canonical netmasks -/

/-- **A canonical spelling**: no white space around it, and no length. -/
structure Canonical (s : String) : Prop where
  trimmed : Text.trim s = s
  noLength : ∀ n, ¬ Decimal.IsUnsigned s.toList n

/-- A dotted quad is canonical: its dots make it no length. -/
theorem canonical_text (mask : UInt32) : Canonical (Ipv4.text ⟨mask⟩) :=
  ⟨Ipv4.trim_text _, not_isUnsigned_text _⟩

/-- **What is read as a mask is the dotted quad of it** just if it is canonical. -/
theorem eq_text_iff (h : read s = .ok mask) : s = Ipv4.text ⟨mask⟩ ↔ Canonical s := by
  constructor
  · rintro rfl
    exact canonical_text mask
  · rintro ⟨trimmed, noLength⟩
    obtain ⟨q, spelled, length⟩ := read_eq_ok_iff.1 h
    rw [trimmed] at spelled
    cases spelled with
    | number number => exact absurd number (noLength q)
    | quad length' => rw [length.unique length']

/-- No spelling of a netmask has a comma in it. -/
theorem comma_notMem_of_read (h : read s = .ok mask) : ',' ∉ s.toList := by
  obtain ⟨q, spelled, -⟩ := read_eq_ok_iff.1 h
  intro comma
  -- A comma would survive the trimming and be in the length or in the dotted quad.
  have inside : ',' ∈ (Text.trim s).toList := Text.mem_trim_of_mem (by decide) comma
  generalize Text.trim s = trimmed at spelled inside
  cases spelled with
  | quad => exact Ipv4.comma_notMem_text _ inside
  | number number =>
    rcases number.isDigit_or_plus inside with digit | plus
    · exact absurd digit (by decide)
    · exact absurd plus (by decide)

end Netmask

namespace DhcpRange

variable {i : NetworkInterface} {p : DhcpPool} {range range' : DhcpRange} {mask : UInt32} {q : Nat}

/-! ### The line of a range -/

/-- A range whose values, the lease time apart, can be told from each other by the commas between
them. -/
structure Separable (range : DhcpRange) : Prop where
  first : ',' ∉ range.first.toList
  last : ',' ∉ range.last.toList
  netmask : ',' ∉ range.netmask.toList

/-- The values of a range as they are found between the commas of its line. -/
theorem Separable.splitOn_line (h : range.Separable) {line : String}
    (hl : rangeDirective (some range) = [line]) :
    Text.splitOn ',' line.toList = ("dhcp-range=".toList ++ range.first.toList) ::
      range.last.toList :: range.netmask.toList :: Text.splitOn ',' range.leasetime.toList := by
  have lead : ',' ∉ "dhcp-range=".toList ++ range.first.toList := by
    rw [List.mem_append, not_or]
    exact ⟨by decide, h.first⟩
  obtain rfl := List.singleton_inj.1 hl
  have chars : ("dhcp-range=" ++ range.first ++ "," ++ range.last ++ "," ++ range.netmask ++ "," ++
      range.leasetime).toList = ("dhcp-range=".toList ++ range.first.toList) ++ ',' ::
        (range.last.toList ++ ',' :: (range.netmask.toList ++ ',' :: range.leasetime.toList)) := by
    have comma : ",".toList = [','] := rfl
    simp only [String.toList_append, comma, List.append_assoc, List.cons_append, List.nil_append]
  rw [chars, Text.splitOn_append_cons, Text.splitOn_of_notMem lead, Text.splitOn_append_cons,
    Text.splitOn_of_notMem h.last, Text.splitOn_append_cons, Text.splitOn_of_notMem h.netmask]
  rfl

/-- **The line of a range has one reading.** -/
theorem rangeDirective_inj (h : range.Separable) (h' : range'.Separable)
    (same : rangeDirective (some range) = rangeDirective (some range')) : range = range' := by
  have parts := (h.splitOn_line rfl).symm.trans (h'.splitOn_line same.symm)
  obtain ⟨first, last, netmask, leasetime⟩ := range
  obtain ⟨first', last', netmask', leasetime'⟩ := range'
  simp only [List.cons.injEq, List.append_cancel_left_eq, String.toList_inj] at parts
  -- The first three values are single parts; the lease time is all the parts that are left.
  obtain ⟨rfl, rfl, rfl, rest⟩ := parts
  have leasetimes : leasetime.toList = leasetime'.toList := by
    rw [← Text.intercalate_splitOn leasetime.toList, rest, Text.intercalate_splitOn]
  rw [String.toList_inj.1 leasetimes]

/-- **A well-formed line of a range**: the ends are addresses and the netmask is a mask, each as a
dotted quad, whatever the lease time. -/
def WellFormed (line : String) : Prop :=
  ∃ (first last : Ipv4) (mask : UInt32) (q : Nat) (leasetime : String), Netmask.HasLength mask q ∧
    rangeDirective (some ⟨first.text, last.text, Ipv4.text ⟨mask⟩, leasetime⟩) = [line]

/-- Ends that have been printed and a netmask that can be read are free of commas. -/
theorem separable_of_read {first last : Ipv4} {netmask leasetime : String}
    (h : Netmask.read netmask = .ok mask) :
    Separable ⟨first.text, last.text, netmask, leasetime⟩ :=
  ⟨first.comma_notMem_text, last.comma_notMem_text, Netmask.comma_notMem_of_read h⟩

/-- **A line with a netmask that can be read is well formed** just if the netmask is canonical. -/
theorem wellFormed_iff {first last : Ipv4} {netmask leasetime line : String}
    (h : Netmask.read netmask = .ok mask)
    (hl : rangeDirective (some ⟨first.text, last.text, netmask, leasetime⟩) = [line]) :
    WellFormed line ↔ Netmask.Canonical netmask := by
  constructor
  · rintro ⟨first', last', mask', q', leasetime', length, made⟩
    -- If the line has a reading with a dotted quad, that is its only reading.
    have same := rangeDirective_inj (separable_of_read (Netmask.read_text length))
      (separable_of_read h) (made.trans hl.symm)
    obtain rfl : Ipv4.text ⟨mask'⟩ = netmask := congrArg DhcpRange.netmask same
    exact Netmask.canonical_text mask'
  · intro canonical
    obtain ⟨q, -, length⟩ := Netmask.read_eq_ok_iff.1 h
    rw [(Netmask.eq_text_iff h).2 canonical] at hl
    exact ⟨first, last, mask, q, leasetime, length, hl⟩

/-! ### Ranges of pools -/

/-- **A mask that a range was counted with**: the range has the netmask of the interface, which is
read as that mask, and the first end is the first offset from the network under it. -/
structure CountedWith (i : NetworkInterface) (p : DhcpPool) (range : DhcpRange) (mask : UInt32) :
    Prop where
  netmask : i.netmask = some range.netmask
  read : Netmask.read range.netmask = .ok mask
  ends : ∃ ipaddr a start limit first last, i.ipaddr = some ipaddr ∧
    Text.trim ipaddr = Ipv4.text a ∧ p.start = some start ∧ p.limit = some limit ∧
    Ipv4.offset ⟨a.word &&& mask⟩ start = .ok first ∧ first.offset limit = .ok last ∧
    range.first = first.text ∧ range.last = last.text

/-- Every range has been counted with some mask. -/
theorem exists_countedWith (h : ofPool i p = .ok (some range)) :
    ∃ mask, CountedWith i p range mask := by
  cases ofPool_eq_iff.1 h with
  | @range start limit _ _ _ first last _ sets network shown hf hl =>
    obtain ⟨ipaddr, _, a, address, shown', text, spelled, isNetwork⟩ := network
    obtain rfl := Option.some.inj (shown.symm.trans shown')
    obtain ⟨mask, read, length⟩ := Netmask.read_of_spells spelled
    -- An address has one network of a length, so the one counted from is that under the mask.
    obtain rfl := isNetwork.unique (Ipv4.isNetwork_and length a)
    rw [← hf] at hl
    exact ⟨mask, shown, read, ipaddr, a, start, limit, first, last, address, text, sets.start,
      sets.limit, Ipv4.offset_eq_ok_iff.2 hf, Ipv4.offset_eq_ok_iff.2 hl, rfl, rfl⟩

/-- An interface that has the dotted quad for its netmask has the same range but for the netmask. -/
theorem CountedWith.ofPool_quad (c : CountedWith i p range mask)
    (h : ofPool i p = .ok (some range)) :
    ofPool { i with netmask := some (Ipv4.text ⟨mask⟩) } p =
      .ok (some { range with netmask := Ipv4.text ⟨mask⟩ }) := by
  obtain ⟨q, spelled, length⟩ := Netmask.read_eq_ok_iff.1 c.read
  have quad : Netmask.Spells (Text.trim (Ipv4.text ⟨mask⟩)) q := by
    rw [Ipv4.trim_text]
    exact .quad length
  cases ofPool_eq_iff.1 h with
  | range sets network shown hf hl =>
    obtain ⟨ipaddr, _, a, address, shown', text, spelled', isNetwork⟩ := network
    obtain rfl := Option.some.inj (shown.symm.trans shown')
    -- Both lengths are those of the mask, so the network is the one that was counted from.
    obtain ⟨mask', read, length'⟩ := Netmask.read_of_spells spelled'
    obtain rfl := Except.ok.inj (c.read.symm.trans read)
    obtain rfl := isNetwork.unique (Ipv4.isNetwork_and length' a)
    have network := Ipv4.isNetwork_and length a
    exact ofPool_eq_iff.2 (.range sets ⟨ipaddr, _, a, address, rfl, text, quad, network⟩ rfl hf hl)

/-- **The netmask of a range is canonical just if that of the interface is.** A range has been
counted with the mask that its netmask is read as. It shows that mask as its dotted quad, and its
line is well formed, just if the netmask has no white space around it and is no length; and on the
interface with the dotted quad in place of the netmask, the range is the same and shows the quad. -/
theorem ofPool_netmask (h : ofPool i p = .ok (some range)) :
    ∃ mask q, Netmask.HasLength mask q ∧ CountedWith i p range mask ∧
      (range.netmask = Ipv4.text ⟨mask⟩ ↔ Netmask.Canonical range.netmask) ∧
      (∀ line, rangeDirective (some range) = [line] →
        (WellFormed line ↔ Netmask.Canonical range.netmask)) ∧
      ofPool { i with netmask := some (Ipv4.text ⟨mask⟩) } p =
        .ok (some { range with netmask := Ipv4.text ⟨mask⟩ }) := by
  obtain ⟨mask, counted⟩ := exists_countedWith h
  obtain ⟨q, -, length⟩ := Netmask.read_eq_ok_iff.1 counted.read
  refine ⟨mask, q, length, counted, Netmask.eq_text_iff counted.read, fun line hl => ?_,
    counted.ofPool_quad h⟩
  obtain ⟨-, -, -, -, first, last, -, -, -, -, -, -, hf, hl'⟩ := counted.ends
  rw [rangeDirective, hf, hl'] at hl
  exact wellFormed_iff counted.read hl

/-- An interface in 192.168.1.0 with a netmask of that text. -/
def lanInterface (netmask : String) : NetworkInterface :=
  { ifname := "eth1", proto := none, ipaddr := some "192.168.1.1", netmask := some netmask }

/-- A pool of six addresses. -/
def lanPool : DhcpPool :=
  { interface := "lan", leasetime := some "12h", limit := some 5, start := some 10,
    dhcpOption := [], relay := [] }

/-- With the dotted quad for a netmask the range shows the mask that it was counted with. -/
theorem ofPool_netmask_quad : ∃ mask,
    ofPool (lanInterface "255.255.255.0") lanPool =
      .ok (some ⟨"192.168.1.10", "192.168.1.15", "255.255.255.0", "12h"⟩) ∧
    CountedWith (lanInterface "255.255.255.0") lanPool
      ⟨"192.168.1.10", "192.168.1.15", "255.255.255.0", "12h"⟩ mask ∧
    "255.255.255.0" = Ipv4.text ⟨mask⟩ ∧
    WellFormed "dhcp-range=192.168.1.10,192.168.1.15,255.255.255.0,12h" := by
  have made : ofPool (lanInterface "255.255.255.0") lanPool =
      .ok (some ⟨"192.168.1.10", "192.168.1.15", "255.255.255.0", "12h"⟩) := by
    decide +kernel
  have written : "255.255.255.0" = Ipv4.text ⟨Netmask.ofPrefix 24⟩ := by decide +kernel
  -- The premise of the equivalences is that the netmask is the quad of a mask.
  have canonical : Netmask.Canonical "255.255.255.0" := written ▸ Netmask.canonical_text _
  obtain ⟨mask, -, -, counted, quad, line, -⟩ := ofPool_netmask made
  exact ⟨mask, made, counted, quad.2 canonical, (line _ (by decide +kernel)).2 canonical⟩

/-- **A length is shown as it is**: on an interface whose netmask is `24`, that is the netmask of
the range. It is the dotted quad of no mask, and the line is not well formed. -/
theorem ofPool_netmask_length :
    ofPool (lanInterface "24") lanPool = .ok (some ⟨"192.168.1.10", "192.168.1.15", "24", "12h"⟩) ∧
      (∀ mask, "24" ≠ Ipv4.text ⟨mask⟩) ∧
      ¬ WellFormed "dhcp-range=192.168.1.10,192.168.1.15,24,12h" := by
  -- A length reads as a mask, so the range is made; what it lacks is the form.
  have notCanonical : ¬ Netmask.Canonical "24" := fun canonical =>
    canonical.noLength 24 (.plain ⟨by decide, List.all_eq_true.1 (by decide), by decide⟩)
  have read : Netmask.read "24" = .ok (Netmask.ofPrefix 24) := by decide +kernel
  have first : "192.168.1.10" = Ipv4.text (.ofOctets 192 168 1 10) := by decide +kernel
  have last : "192.168.1.15" = Ipv4.text (.ofOctets 192 168 1 15) := by decide +kernel
  refine ⟨by decide +kernel, fun mask quad => notCanonical (quad ▸ Netmask.canonical_text mask), ?_⟩
  have line : rangeDirective (some ⟨Ipv4.text (.ofOctets 192 168 1 10),
      Ipv4.text (.ofOctets 192 168 1 15), "24", "12h"⟩) =
      ["dhcp-range=192.168.1.10,192.168.1.15,24,12h"] := by
    rw [← first, ← last]
    decide +kernel
  rw [wellFormed_iff read line]
  exact notCanonical

end DhcpRange

end RouterConf
