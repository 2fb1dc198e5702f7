import RouterConf.Dnsmasq.Resolution
import RouterConf.Proofs.Outcomes
import RouterConf.Proofs.Section.Index

/-!
# What an instance resolves to

A name refers to a record if exactly one section of the kind bears it (`References`). An instance
serves the interfaces that it lists or else those of all pools (`ServedNames`). Each of them is put
together from the interface and the pool of its name (`Serves`), and the payload from all of them,
in order, and from the domain overrides and static hosts (`DnsmasqContext.Resolves`). The first name
that cannot be served is what the payload fails for.

Two places of the program skip what has no record of the kind that is asked for: the lists of
records of a kind are made by a filter, and the one section of a name is refused if its record is
another. Sections that have passed validation have the record of their kind, so nothing is skipped
(`filterMap_map_eq_iff`), and a name that is found is never refused
(`SectionIndex.resolve_eq_iff_references`).

Main statement: `DnsmasqContext.resolve_exact`.
-/

namespace RouterConf

variable {ss : List Section} {kind : SectionKind} {name : String}

/-! ### Records of a kind -/

/-- Where every item has a record, the records are as many as the items, and in their order. -/
theorem filterMap_map_eq_iff {α β γ : Type} {view : α → Option β} {f : β → γ} {as : List α}
    (h : ∀ a ∈ as, (view a).isSome) {cs : List γ} :
    (as.filterMap view).map f = cs ↔
      List.Forall₂ (fun a c => ∃ b, view a = some b ∧ f b = c) as cs := by
  induction as generalizing cs with
  | nil => simp [eq_comm]
  | cons a as ih =>
    -- The item at the head is not dropped, so that the two lists stay in step.
    obtain ⟨b, hb⟩ := Option.isSome_iff_exists.1 (h a List.mem_cons_self)
    have rest := fun cs => @ih (fun a' ha' => h a' (List.mem_cons_of_mem a ha')) cs
    rw [List.filterMap_cons_some hb, List.map_cons, List.forall₂_cons_left_iff]
    constructor
    · rintro rfl
      exact ⟨f b, _, ⟨b, hb, rfl⟩, (rest _).1 rfl, rfl⟩
    · rintro ⟨c, cs, ⟨b', hb', rfl⟩, others, rfl⟩
      rw [(rest cs).2 others, Option.some.inj (hb.symm.trans hb')]

/-- Sections as validation leaves them: each has the record of its kind. -/
def RecordsMatch (ss : List Section) : Prop :=
  ∀ s ∈ ss, s.body.kind = s.id.kind

/-- Validation gives a section the record of its own kind. -/
theorem RecordsMatch.of_ofRaw (h : ∀ s ∈ ss, ∃ source raw, Section.ofRaw source raw = .ok s) :
    RecordsMatch ss := by
  intro s hs
  obtain ⟨source, raw, made⟩ := h s hs
  exact Section.kind_body_ofRaw made

section View

variable {β : Type} {view : Section → Option β}

/-- So a section of a kind has the record that is asked for under that kind. -/
theorem RecordsMatch.isSome_view (h : RecordsMatch ss)
    (hview : ∀ s : Section, (view s).isSome ↔ s.body.kind = kind) {s : Section}
    (hs : s ∈ ss) (hk : s.id.kind = kind) : (view s).isSome :=
  (hview s).2 ((h s hs).trans hk)

/-- The records of a kind are those of all sections of the kind. -/
theorem RecordsMatch.filterMap_select_eq_iff (h : RecordsMatch ss)
    (hview : ∀ s : Section, (view s).isSome ↔ s.body.kind = kind) {γ : Type} {f : β → γ}
    {cs : List γ} :
    ((kind.select ss).filterMap view).map f = cs ↔
      List.Forall₂ (fun s c => ∃ b, view s = some b ∧ f b = c) (kind.select ss) cs := by
  refine filterMap_map_eq_iff fun s hs => ?_
  obtain ⟨there, hk⟩ := List.mem_filter.1 hs
  exact h.isSome_view hview there (of_decide_eq_true hk)

end View

/-! ### References -/

/-- The sections of a kind that bear a name, in the order of loading. -/
def SectionKind.bearers (kind : SectionKind) (name : String) (ss : List Section) : List Section :=
  ss.filter (·.id = ⟨kind, name⟩)

/-- **What a name refers to** among the sections of a kind: the record of the one that bears it. -/
inductive References {β : Type} (ss : List Section) (kind : SectionKind)
    (view : Section → Option β) (name : String) : Except CompileError β → Prop
  | one {s : Section} {body : β} : kind.bearers name ss = [s] → view s = some body →
    References ss kind view name (.ok body)
  | none : kind.bearers name ss = [] →
    References ss kind view name (.error (.reference (.notFound kind.file kind.type name)))
  | several : 2 ≤ (kind.bearers name ss).length →
    References ss kind view name
      (.error (.reference
        (.ambiguous kind.file kind.type name (kind.bearers name ss).length)))

namespace SectionIndex

/-- An index is asked for a section by the file and the type that declare its kind. -/
theorem expectOne_ofList (ss : List Section) (kind : SectionKind) (name : String) :
    (ofList ss).expectOne kind name =
      match Lookup.ofBearers (kind.bearers name ss) with
      | .found s => .ok s
      | .notFound => .error (.notFound kind.file kind.type name)
      | .ambiguous count => .error (.ambiguous kind.file kind.type name count) := by
  -- The file and the type of a kind give back that kind, and so the same sections.
  have declared : SectionKind.ofPair kind.file kind.type = some kind :=
    SectionKind.ofPair_eq_some_iff.2 ⟨rfl, rfl⟩
  simp only [expectOne, findExactly, declared, lookup_ofList]
  rfl

/-- A section is found by a name just if it is the only one that bears it. -/
theorem expectOne_eq_ok_iff {s : Section} :
    (ofList ss).expectOne kind name = .ok s ↔ kind.bearers name ss = [s] := by
  rw [expectOne_ofList]
  rcases kind.bearers name ss with _ | ⟨s', _ | ⟨s'', rest⟩⟩ <;> simp [Lookup.ofBearers]

variable {β : Type} {view : Section → Option β}

/-- The one section of a name is of the kind that was asked for, so it has the record. -/
theorem isSome_of_expectOne (h : RecordsMatch ss)
    (hview : ∀ s : Section, (view s).isSome ↔ s.body.kind = kind) {s : Section}
    (found : (ofList ss).expectOne kind name = .ok s) : (view s).isSome := by
  have bearer : s ∈ kind.bearers name ss := by
    rw [expectOne_eq_ok_iff.1 found]
    exact List.mem_singleton_self s
  obtain ⟨there, hid⟩ := List.mem_filter.1 bearer
  exact h.isSome_view hview there (congrArg SectionId.kind (of_decide_eq_true hid))

/-- Every name refers to something or fails for a reason. -/
theorem exists_references (h : RecordsMatch ss)
    (hview : ∀ s : Section, (view s).isSome ↔ s.body.kind = kind) (name : String) :
    ∃ r, References ss kind view name r := by
  rcases hb : kind.bearers name ss with _ | ⟨s, _ | ⟨s', rest⟩⟩
  · exact ⟨_, .none hb⟩
  · obtain ⟨body, hbody⟩ := Option.isSome_iff_exists.1
      (isSome_of_expectOne h hview (expectOne_eq_ok_iff.2 hb))
    exact ⟨_, .one hb hbody⟩
  · exact ⟨_, .several (by simp [hb])⟩

/-- What a name refers to is what is found for it. -/
theorem resolve_of_references {r : Except CompileError β} (h : References ss kind view name r) :
    (ofList ss).resolve kind view name = r := by
  unfold SectionIndex.resolve
  rw [expectOne_ofList]
  cases h with
  | one bearers hbody =>
    rw [bearers]
    simp only [Lookup.ofBearers, hbody]
  | none bearers => rw [bearers, Lookup.ofBearers]
  | several two => rw [Lookup.ofBearers_of_two_le two]

/-- **References are resolved as the rules have it.** -/
theorem resolve_eq_iff_references (h : RecordsMatch ss)
    (hview : ∀ s : Section, (view s).isSome ↔ s.body.kind = kind) {r : Except CompileError β} :
    (ofList ss).resolve kind view name = r ↔ References ss kind view name r := by
  constructor
  · rintro rfl
    -- Some rule applies, and what it gives is what has been found.
    obtain ⟨r, hr⟩ := exists_references h hview name
    exact (resolve_of_references hr).symm ▸ hr
  · exact resolve_of_references

end SectionIndex

/-! ### Interfaces -/

/-- **The interfaces that an instance serves**: those that it lists, if it has a list, or else those
of all pools. -/
inductive ServedNames (ss : List Section) (d : DnsmasqInstance) : List String → Prop
  | listed {names : List String} : d.interface = some names → ServedNames ss d names
  | ofPools {names : List String} : d.interface = none →
    List.Forall₂ (fun s name => ∃ p, s.asDhcpPool = some p ∧ p.interface = name)
      (SectionKind.dhcpPool.select ss) names → ServedNames ss d names

/-- The names to serve are read off the instance, or off the pools in the order of loading. -/
theorem effectiveInterfaces_eq_iff (h : RecordsMatch ss) {d : DnsmasqInstance}
    {names : List String} :
    effectiveInterfaces d (.ofList ss) = names ↔ ServedNames ss d names := by
  unfold effectiveInterfaces
  rw [SectionIndex.ofKind_ofList]
  cases hd : d.interface with
  | some listed =>
    constructor
    · rintro rfl
      exact .listed hd
    · rintro (here | here)
      · exact Option.some.inj (hd.symm.trans here)
      · exact absurd (hd.symm.trans here) (by simp)
  | none =>
    dsimp only
    rw [h.filterMap_select_eq_iff Section.asDhcpPool_isSome_iff]
    constructor
    · exact .ofPools hd
    · rintro (here | ⟨-, made⟩)
      · exact absurd (hd.symm.trans here) (by simp)
      · exact made

/-- **What comes of a name to serve.** The interface is looked for first, then the pool, and then
the range is reckoned. -/
inductive Serves (ss : List Section) (name : String) : Except CompileError ServedInterface → Prop
  | noInterface {e : CompileError} :
    References ss .interface Section.asInterface name (.error e) → Serves ss name (.error e)
  | noPool {i : NetworkInterface} {e : CompileError} :
    References ss .interface Section.asInterface name (.ok i) →
    References ss .dhcpPool Section.asDhcpPool name (.error e) → Serves ss name (.error e)
  | noRange {i : NetworkInterface} {p : DhcpPool} {e : AddressError} :
    References ss .interface Section.asInterface name (.ok i) →
    References ss .dhcpPool Section.asDhcpPool name (.ok p) → DhcpRange.ofPool i p = .error e →
    Serves ss name (.error (.address name e))
  | served {i : NetworkInterface} {p : DhcpPool} {range : Option DhcpRange} :
    References ss .interface Section.asInterface name (.ok i) →
    References ss .dhcpPool Section.asDhcpPool name (.ok p) → DhcpRange.ofPool i p = .ok range →
    Serves ss name
      (.ok { name, ifname := i.ifname, range, options := p.dhcpOption, relays := p.relay })

namespace ServedInterface

/-- Something comes of every name. -/
theorem exists_serves (h : RecordsMatch ss) (name : String) : ∃ r, Serves ss name r := by
  -- The steps are taken in the order of the rules, and the first that fails decides.
  obtain ⟨i, hi⟩ := SectionIndex.exists_references h Section.asInterface_isSome_iff name
  cases i with
  | error e => exact ⟨_, .noInterface hi⟩
  | ok i =>
    obtain ⟨p, hp⟩ := SectionIndex.exists_references h Section.asDhcpPool_isSome_iff name
    cases p with
    | error e => exact ⟨_, .noPool hi hp⟩
    | ok p =>
      cases hr : DhcpRange.ofPool i p with
      | error e => exact ⟨_, .noRange hi hp hr⟩
      | ok range => exact ⟨_, .served hi hp hr⟩

/-- And that is what is reckoned for it. -/
theorem resolve_of_serves {r : Except CompileError ServedInterface} (h : Serves ss name r) :
    resolve (.ofList ss) name = r := by
  unfold resolve
  cases h with
  | noInterface hi =>
    rw [SectionIndex.resolve_of_references hi]
    rfl
  | noPool hi hp =>
    rw [SectionIndex.resolve_of_references hi, SectionIndex.resolve_of_references hp]
    rfl
  | @noRange i p _ hi hp hr =>
    rw [SectionIndex.resolve_of_references hi, SectionIndex.resolve_of_references hp]
    show (DhcpRange.ofPool i p).mapError _ >>= _ = _
    rw [hr]
    rfl
  | @served i p _ hi hp hr =>
    rw [SectionIndex.resolve_of_references hi, SectionIndex.resolve_of_references hp]
    show (DhcpRange.ofPool i p).mapError _ >>= _ = _
    rw [hr]
    rfl

/-- **A name is served as the rules have it.** -/
theorem resolve_eq_iff_serves (h : RecordsMatch ss) {r : Except CompileError ServedInterface} :
    resolve (.ofList ss) name = r ↔ Serves ss name r := by
  constructor
  · rintro rfl
    obtain ⟨r, hr⟩ := exists_serves h name
    exact (resolve_of_serves hr).symm ▸ hr
  · exact resolve_of_serves

end ServedInterface

/-! ### The payload -/

/-- **When a name is served**: one interface bears it and one pool, and there is no fault in what
the two give for a range. -/
theorem exists_serves_ok_iff : (∃ i, Serves ss name (.ok i)) ↔
    ∃ interface pool i p range,
      SectionKind.interface.bearers name ss = [interface] ∧ interface.asInterface = some i ∧
        SectionKind.dhcpPool.bearers name ss = [pool] ∧ pool.asDhcpPool = some p ∧
          DhcpRange.ofPool i p = .ok range := by
  constructor
  · rintro ⟨_, h⟩
    cases h with
    | served hi hp hr =>
      cases hi with
      | one oneInterface record =>
        cases hp with
        | one onePool record' => exact ⟨_, _, _, _, _, oneInterface, record, onePool, record', hr⟩
  · rintro ⟨_, _, _, _, _, oneInterface, record, onePool, record', hr⟩
    exact ⟨_, .served (.one oneInterface record) (.one onePool record') hr⟩

namespace DnsmasqContext

/-- **What comes of an instance.** It fails as the first of its names does that cannot be served. If
all can be, the payload has what the instance itself says and the names in order; besides, an entry
for every domain override, with empty texts for what is unset, and the parts of every static host
that are not empty, both in the order of loading. -/
inductive Resolves (ss : List Section) (s : Section) (d : DnsmasqInstance) (leaseFile : Path) :
    Except CompileError DnsmasqContext → Prop
  | failed {before after : List String} {name : String} {interfaces : List ServedInterface}
    {e : CompileError} : ServedNames ss d (before ++ name :: after) →
    List.Forall₂ (fun name i => Serves ss name (.ok i)) before interfaces →
    Serves ss name (.error e) → Resolves ss s d leaseFile (.error e)
  | made {names hosts : List String} {interfaces : List ServedInterface}
    {domains : List DomainEntry} : ServedNames ss d names →
    List.Forall₂ (fun name i => Serves ss name (.ok i)) names interfaces →
    List.Forall₂ (fun s entry => ∃ b, s.asDomain = some b ∧
        ({ name := b.name.getD "", ip := b.ip.getD "" } : DomainEntry) = entry)
      (SectionKind.domainOverride.select ss) domains →
    List.Forall₂ (fun s lease => ∃ b, s.asHost = some b ∧
        ",".intercalate (([b.mac, b.name, b.ip, b.leasetime].filterMap id).filter (· ≠ "")) = lease)
      (SectionKind.staticHost.select ss) hosts →
    Resolves ss s d leaseFile
      (.ok
        { source := s.source
          section_ := s.text
          leaseFile
          authoritative := d.authoritative
          cacheSize := d.cachesize
          dhcpBoot := d.dhcpBoot
          leaseMax := d.dhcpleasemax
          domain := d.domain
          enableTftp := d.enableTftp
          expandHosts := d.expandhosts
          noResolv := d.noresolv
          tftpRoot := d.tftpRoot
          servers := d.server.getD []
          interfaces
          domains
          hosts })

variable {s : Section} {d : DnsmasqInstance} {leaseFile : Path}

/-- **An instance resolves as the rules have it.** -/
theorem resolve_eq_iff_resolves (h : RecordsMatch ss) {r : Except CompileError DnsmasqContext} :
    resolve (.ofList ss) s d leaseFile = r ↔ Resolves ss s d leaseFile r := by
  have serves : ∀ {name : String} {r : Except CompileError ServedInterface},
      ServedInterface.resolve (.ofList ss) name = r ↔ Serves ss name r :=
    ServedInterface.resolve_eq_iff_serves h
  unfold resolve
  rw [SectionIndex.ofKind_ofList, SectionIndex.ofKind_ofList]
  constructor
  · rintro rfl
    have names := (effectiveInterfaces_eq_iff h).1 (Eq.refl (effectiveInterfaces d (.ofList ss)))
    cases hm : (effectiveInterfaces d (.ofList ss)).mapM (ServedInterface.resolve (.ofList ss)) with
    | error e =>
      obtain ⟨before, name, after, interfaces, split, made, failed⟩ := mapM_eq_error_iff.1 hm
      -- The names are cut at the one that the run stops at.
      rw [split] at names
      exact .failed names (made.imp fun _ _ => serves.1) (serves.1 failed)
    | ok interfaces =>
      exact .made names ((mapM_eq_ok_iff.1 hm).imp fun _ _ => serves.1)
        ((h.filterMap_select_eq_iff Section.asDomain_isSome_iff).1 rfl)
        ((h.filterMap_select_eq_iff Section.asHost_isSome_iff).1 rfl)
  · intro hr
    cases hr with
    | failed names made failed =>
      rw [(effectiveInterfaces_eq_iff h).2 names, mapM_eq_error_iff.2
        ⟨_, _, _, _, rfl, made.imp fun _ _ => serves.2, serves.2 failed⟩]
      rfl
    | made names made domains hosts =>
      -- The entries are computed by a filter; that none is missing comes from validation.
      have entries : ((SectionKind.domainOverride.select ss).filterMap Section.asDomain).map
          DomainEntry.ofOverride = _ :=
        (h.filterMap_select_eq_iff Section.asDomain_isSome_iff).2 domains
      have leases : ((SectionKind.staticHost.select ss).filterMap Section.asHost).map
          StaticHost.lease = _ := (h.filterMap_select_eq_iff Section.asHost_isSome_iff).2 hosts
      rw [(effectiveInterfaces_eq_iff h).2 names, mapM_eq_ok_iff.2 (made.imp fun _ _ => serves.2),
        entries, leases]
      rfl

/-- Interfaces are all that a payload can fail for. -/
theorem exists_resolve_iff {x : SectionIndex} : (∃ c, resolve x s d leaseFile = .ok c) ↔
    ∀ name ∈ effectiveInterfaces d x, ∃ i, ServedInterface.resolve x name = .ok i := by
  rw [← exists_mapM_iff]
  unfold resolve
  cases (effectiveInterfaces d x).mapM (ServedInterface.resolve x) with
  | error e =>
    constructor
    · rintro ⟨c, h⟩
      cases h
    · rintro ⟨interfaces, h⟩
      cases h
  | ok interfaces => exact ⟨fun _ => ⟨interfaces, rfl⟩, fun _ => ⟨_, rfl⟩⟩

/-- **Resolution is exact.** An instance resolves as the rules have it. It does so without an error
just if each of its names is that of one interface and of one pool, and there is no fault in what
the two give for a range. No name that is found is refused for the record of its section. -/
theorem resolve_exact (valid : ∀ s ∈ ss, ∃ source raw, Section.ofRaw source raw = .ok s)
    (s : Section) (d : DnsmasqInstance) (leaseFile : Path) :
    (∀ r, resolve (.ofList ss) s d leaseFile = r ↔ Resolves ss s d leaseFile r) ∧
      (∀ names, effectiveInterfaces d (.ofList ss) = names ↔ ServedNames ss d names) ∧
      ((∃ c, resolve (.ofList ss) s d leaseFile = .ok c) ↔
        ∀ name ∈ effectiveInterfaces d (.ofList ss), ∃ interface pool i p range,
          SectionKind.interface.bearers name ss = [interface] ∧
            interface.asInterface = some i ∧ SectionKind.dhcpPool.bearers name ss = [pool] ∧
              pool.asDhcpPool = some p ∧ DhcpRange.ofPool i p = .ok range) ∧
      (∀ name s', (SectionIndex.ofList ss).expectOne .interface name = .ok s' →
        s'.asInterface.isSome) ∧
      ∀ name s', (SectionIndex.ofList ss).expectOne .dhcpPool name = .ok s' →
        s'.asDhcpPool.isSome := by
  have matched := RecordsMatch.of_ofRaw valid
  refine ⟨fun r => resolve_eq_iff_resolves matched, fun names => effectiveInterfaces_eq_iff matched,
    ?_, ?_, ?_⟩
  · rw [exists_resolve_iff]
    refine forall_congr' fun name => imp_congr_right fun _ => ?_
    simp only [ServedInterface.resolve_eq_iff_serves matched]
    exact exists_serves_ok_iff
  · exact fun _ _ => SectionIndex.isSome_of_expectOne matched Section.asInterface_isSome_iff
  · exact fun _ _ => SectionIndex.isSome_of_expectOne matched Section.asDhcpPool_isSome_iff

/-- Two pools, of which the second is for an interface that nobody declares, two names with and
without an address, and a host. -/
def guestsDeclared : List RawSection :=
  [⟨"network", "interface", "lan", [(.text "ifname", .text "br-lan")]⟩,
    ⟨"dhcp", "dhcp", "lan", [(.text "interface", .text "lan"), (.text "relay", .text "192.0.2.1")]⟩,
    ⟨"dhcp", "dhcp", "visitors", [(.text "interface", .text "guest")]⟩,
    ⟨"dhcp", "domain", "router", [(.text "name", .text "router.lan")]⟩,
    ⟨"dhcp", "domain", "files", [(.text "ip", .text "192.0.2.8"), (.text "name", .text "f")]⟩,
    ⟨"dhcp", "host", "printer", [(.text "ip", .text "192.0.2.9"), (.text "name", .text "p")]⟩]

/-- The sections that are declared. -/
def guestsSections : List Section :=
  guestsDeclared.filterMap fun raw => (Section.ofRaw "lan.yaml" raw).toOption

/-- An instance that serves the interfaces of all pools fails for the second, and one that lists the
first interface is resolved, with both names and the host. -/
theorem resolve_exact_guests :
    (∀ s ∈ guestsSections, ∃ source raw, Section.ofRaw source raw = .ok s) ∧
      (∀ s leaseFile, Resolves guestsSections s default leaseFile
        (.error (.reference (.notFound "network" "interface" "guest")))) ∧
      ∀ s leaseFile, ∃ c,
        resolve (.ofList guestsSections) s { (default : DnsmasqInstance) with
          interface := some ["lan"] } leaseFile = .ok c ∧
        c.domains = [⟨"router.lan", ""⟩, ⟨"f", "192.0.2.8"⟩] ∧ c.hosts = ["p,192.0.2.9"] := by
  have valid : ∀ s ∈ guestsSections, ∃ source raw, Section.ofRaw source raw = .ok s := by
    intro s hs
    obtain ⟨raw, -, h⟩ := List.mem_filterMap.1 hs
    exact ⟨"lan.yaml", raw, except_toOption_eq_some.1 h⟩
  refine ⟨valid, fun s leaseFile => ?_, fun s leaseFile => ?_⟩
  · obtain ⟨outcome, -⟩ := resolve_exact valid s default leaseFile
    refine (outcome _).1 ?_
    rfl
  · obtain ⟨-, -, succeeds, -⟩ := resolve_exact valid s
      { (default : DnsmasqInstance) with interface := some ["lan"] } leaseFile
    have served : ∀ name ∈ ["lan"], ∃ interface pool i p range,
        SectionKind.interface.bearers name guestsSections = [interface] ∧
          interface.asInterface = some i ∧
            SectionKind.dhcpPool.bearers name guestsSections = [pool] ∧
              pool.asDhcpPool = some p ∧ DhcpRange.ofPool i p = .ok range :=
      List.forall_mem_singleton.2 ⟨_, _, _, _, _, rfl, rfl, rfl, rfl, rfl⟩
    obtain ⟨c, made⟩ := succeeds.2 served
    -- What has been made is computed once more, to see its entries.
    have listed : (resolve (.ofList guestsSections) s { (default : DnsmasqInstance) with
        interface := some ["lan"] } leaseFile).toOption.map (fun c => (c.domains, c.hosts)) =
          some ([⟨"router.lan", ""⟩, ⟨"f", "192.0.2.8"⟩], ["p,192.0.2.9"]) := rfl
    rw [made] at listed
    obtain ⟨domains, hosts⟩ := Prod.mk.inj (Option.some.inj listed)
    exact ⟨c, made, domains, hosts⟩

end DnsmasqContext

end RouterConf
