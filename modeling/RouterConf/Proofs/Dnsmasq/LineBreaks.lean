import Mathlib.Data.List.Forall2
import RouterConf.Proofs.Dnsmasq.Directives
import RouterConf.Proofs.Dnsmasq.DryRun
import RouterConf.Proofs.Dnsmasq.Resolution

/-!
# Directives that nobody configured

The text that is rendered for an instance is read line by line, and the directives that are found in
it are compared with those that the sections call for: one for each server, interface, option,
relay, domain and host, and no other.

As long as no text that is shown has a line break, the lines that are read are the lines of the
payload, and every directive is there as often as it is called for. A text with a break ends its
line early, and what follows the break is read as a line of its own: directives are added in this
way, though never lost (`Compiler.render_directives`). Nothing keeps a break out of an option, so a
domain can bring a server along (`Compiler.render_not_directives`).
-/

namespace RouterConf

-- Sums of numbers start with the numeral.
attribute [local instance(2000)] Zero.ofOfNat0

open Text (OneLine countLed)

/-! ### Interfaces and their pools -/

/-- A pool has a range on an interface just if it sets one. -/
theorem DhcpRange.isSome_of_ofPool {i : NetworkInterface} {p : DhcpPool}
    {range : Option DhcpRange} (h : ofPool i p = .ok range) :
    range.isSome = p.range?.isSome := by
  unfold ofPool at h
  split at h
  · rename_i unset
    rw [unset, ← Except.ok.inj h]
    rfl
  · rename_i set
    rw [set]
    -- Where the interface lacks an address or a netmask, there would be an error.
    split at h
    · cases h
    · cases h
    · obtain ⟨network, -, h⟩ := except_bind_eq_ok.1 h
      obtain ⟨first, -, h⟩ := except_bind_eq_ok.1 h
      obtain ⟨last, -, h⟩ := except_bind_eq_ok.1 h
      rw [← Except.ok.inj h]
      rfl

/-- The interface has what the pool gives it. -/
structure ServedInterface.ServedFrom (i : ServedInterface) (p : DhcpPool) : Prop where
  range : i.range.isSome = p.range?.isSome
  options : i.options = p.dhcpOption
  relays : i.relays = p.relay

/-- An interface that resolves has a pool that resolves, and serves what that pool sets. -/
theorem ServedInterface.exists_pool {x : SectionIndex} {name : String} {i : ServedInterface}
    (h : resolve x name = .ok i) :
    ∃ p, x.resolve .dhcpPool Section.asDhcpPool name = .ok p ∧ i.ServedFrom p := by
  obtain ⟨device, -, h⟩ := except_bind_eq_ok.1 h
  obtain ⟨p, hp, h⟩ := except_bind_eq_ok.1 h
  obtain ⟨range, hr, h⟩ := except_bind_eq_ok.1 h
  have set := DhcpRange.isSome_of_ofPool (except_mapError_eq_ok.1 hr)
  refine ⟨p, hp, ?_⟩
  rw [← Except.ok.inj h]
  exact ⟨set, rfl, rfl⟩

/-- The pools of the interfaces that an instance serves, in their order. -/
def DnsmasqInstance.pools (d : DnsmasqInstance) (x : SectionIndex) :
    Except CompileError (List DhcpPool) :=
  (effectiveInterfaces d x).mapM (x.resolve .dhcpPool Section.asDhcpPool)

/-- Interfaces that resolve have pools that resolve, each its own. -/
theorem exists_pools {x : SectionIndex} {names : List String} {interfaces : List ServedInterface}
    (h : names.mapM (ServedInterface.resolve x) = .ok interfaces) :
    interfaces.length = names.length ∧
      ∃ pools, names.mapM (x.resolve .dhcpPool Section.asDhcpPool) = .ok pools ∧
        List.Forall₂ ServedInterface.ServedFrom interfaces pools := by
  induction names generalizing interfaces with
  | nil =>
    obtain rfl : [] = interfaces := Except.ok.inj h
    exact ⟨rfl, [], rfl, .nil⟩
  | cons name names ih =>
    rw [List.mapM_cons] at h
    obtain ⟨i, hi, h⟩ := except_bind_eq_ok.1 h
    obtain ⟨rest, hrest, h⟩ := except_bind_eq_ok.1 h
    obtain rfl : i :: rest = interfaces := Except.ok.inj h
    obtain ⟨p, hp, served⟩ := ServedInterface.exists_pool hi
    obtain ⟨counted, pools, hpools, all⟩ := ih hrest
    refine ⟨by rw [List.length_cons, List.length_cons, counted], p :: pools, ?_, .cons served all⟩
    rw [List.mapM_cons, hp, hpools]
    rfl

/-! ### What the sections call for -/

/-- No section of a kind lacks the record of its kind. -/
theorem SectionKind.length_filterMap_select {β : Type} {kind : SectionKind}
    {view : Section → Option β} (h : ∀ s : Section, (view s).isSome ↔ s.body.kind = kind)
    {ss : List Section} (valid : ∀ s ∈ ss, s.body.kind = s.id.kind) :
    ((kind.select ss).filterMap view).length = (kind.select ss).length := by
  have pairs := (RecordsMatch.filterMap_select_eq_iff valid h).1
    (List.map_id ((kind.select ss).filterMap view))
  exact pairs.length_eq.symm

namespace Directive

/-- How often the pools of the interfaces that are served call for a directive. -/
def ofPools (pools : List DhcpPool) : Directive → Nat
  | interface => pools.length
  | range => pools.countP (·.range?.isSome)
  | option => (pools.map (·.dhcpOption.length)).sum
  | relay => (pools.map (·.relay.length)).sum
  | _ => 0

/-- **How often a directive is called for** by the sections, the instance that is rendered, and the
pools of the interfaces that it serves. -/
def due (ss : List Section) (d : DnsmasqInstance) (pools : List DhcpPool) : Directive → Nat
  | leaseFile | cacheSize | leaseMax => 1
  | server => (d.server.getD []).length
  | address => (SectionKind.domainOverride.select ss).length
  | host => (SectionKind.staticHost.select ss).length
  | interface => (effectiveInterfaces d (.ofList ss)).length
  | directive => directive.ofPools pools

/-- What the interfaces have of a directive, taken together, is what their pools call for. -/
theorem sum_ofServed {interfaces : List ServedInterface} {pools : List DhcpPool}
    (h : List.Forall₂ ServedInterface.ServedFrom interfaces pools) (directive : Directive) :
    (interfaces.map directive.ofServed).sum = directive.ofPools pools := by
  induction h with
  | nil => cases directive <;> rfl
  | cons served _ ih =>
    rw [List.map_cons, List.sum_cons, ih]
    cases directive <;>
      simp [ofServed, ofPools, served.range, served.options, served.relays, List.countP_cons,
        Nat.add_comm]

/-- A payload has each directive as often as it is called for. -/
theorem count_eq_due {ss : List Section} {s : Section} {d : DnsmasqInstance} {leaseFile : Path}
    {payload : DnsmasqContext} (valid : ∀ s' ∈ ss, s'.body.kind = s'.id.kind)
    (h : DnsmasqContext.resolve (.ofList ss) s d leaseFile = .ok payload) :
    ∃ pools, d.pools (.ofList ss) = .ok pools ∧
      ∀ directive : Directive, directive.count payload = directive.due ss d pools := by
  obtain ⟨interfaces, hi, h⟩ := except_bind_eq_ok.1 h
  obtain ⟨counted, pools, hpools, served⟩ := exists_pools hi
  refine ⟨pools, hpools, fun directive => ?_⟩
  -- There is one pool for each interface that is served.
  have same : pools.length = (effectiveInterfaces d (.ofList ss)).length :=
    served.length_eq.symm.trans counted
  have domains := SectionKind.length_filterMap_select Section.asDomain_isSome_iff valid
  have hosts := SectionKind.length_filterMap_select Section.asHost_isSome_iff valid
  rw [← Except.ok.inj h]
  unfold count
  rw [sum_ofServed served]
  cases directive <;>
    simp [ofInstance, DnsmasqContext.ofInstance, ofPools, due, same, domains, hosts,
      SectionIndex.ofKind_ofList]

end Directive

/-! ### Reading what has been rendered -/

namespace Compiler

/-- **The directives that are read.** The lines of a text that is rendered from valid sections are
those of the payload just if no text that is shown has a line break. No directive is ever missing,
and without a break each of them is there as often as it is called for. -/
theorem render_directives {c : Compiler} {ss : List Section} {s : Section} {now : Timestamp}
    {text : String} (hc : c.renderer = .standard)
    (valid : ∀ s' ∈ ss, ∃ source raw, Section.ofRaw source raw = .ok s')
    (h : c.render (.ofList ss) s now = .ok text) :
    ∃ d payload pools, s.asDnsmasq = some d ∧
      DnsmasqContext.resolve (.ofList ss) s d (c.paths s d).lease = .ok payload ∧
      d.pools (.ofList ss) = .ok pools ∧
      (Text.linesOf text = payload.lines ↔ ∀ t ∈ payload.texts, OneLine t) ∧
      (∀ directive : Directive,
        directive.due ss d pools ≤ countLed directive.lead (Text.linesOf text)) ∧
      ((∀ t ∈ payload.texts, OneLine t) → ∀ directive : Directive,
        countLed directive.lead (Text.linesOf text) = directive.due ss d pools) := by
  -- A section that has been read is of the kind that it says, so none is skipped in silence.
  have kinds : ∀ s' ∈ ss, s'.body.kind = s'.id.kind := by
    intro s' hs'
    obtain ⟨source, raw, hraw⟩ := valid s' hs'
    exact Section.kind_body_ofRaw hraw
  obtain ⟨d, hd, rendered⟩ := render_eq_ok_iff.1 h
  obtain ⟨payload, hp, made⟩ := (renderInstance_eq_ok_iff hc).1 rendered
  obtain ⟨pools, hpools, due⟩ := Directive.count_eq_due kinds hp
  have whole : Text.linesOf text = payload.lines ↔ ∀ t ∈ payload.texts, OneLine t := by
    rw [made]
    exact Text.linesOf_ofLines_eq_iff.trans payload.shows_lines
  refine ⟨d, payload, pools, hd, hp, hpools, whole, fun directive => ?_, fun free directive => ?_⟩
  -- What is called for has been written, and breaks hide nothing of it.
  · rw [← due, ← directive.countLed_lines, made]
    exact Text.countLed_le_linesOf directive.oneLine_lead payload.lines
  · rw [whole.2 free, directive.countLed_lines, due]

/-- An interface with a pool, a host, and an instance with one server. -/
def lanDeclared : List RawSection :=
  [⟨"network", "interface", "lan", [(.text "ifname", .text "br-lan"),
      (.text "ipaddr", .text "192.0.2.1"), (.text "netmask", .text "255.255.255.0")]⟩,
    ⟨"dhcp", "dhcp", "lan", [(.text "interface", .text "lan"), (.text "start", .int 100),
      (.text "limit", .int 50), (.text "leasetime", .text "12h"),
      (.text "relay", .list [.text "198.51.100.1", .text "198.51.100.2"])]⟩,
    ⟨"dhcp", "host", "printer", [(.text "ip", .text "192.0.2.9")]⟩,
    ⟨"dhcp", "dnsmasq", "m", [(.text "server", .text "203.0.113.1")]⟩]

/-- The sections that are declared. -/
def lanSections : List Section :=
  lanDeclared.filterMap fun raw => (Section.ofRaw "lan.yaml" raw).toOption

/-- They have come from declarations, as every section has. -/
theorem valid_lanSections : ∀ s ∈ lanSections, ∃ source raw, Section.ofRaw source raw = .ok s := by
  intro s hs
  obtain ⟨raw, -, h⟩ := List.mem_filterMap.1 hs
  exact ⟨"lan.yaml", raw, except_toOption_eq_some.1 h⟩

/-- The instance is the last of them. -/
def lanServer : Section :=
  lanSections.getLastD default

/-- Nothing here has a line break, so each directive is read as often as it is called for. -/
theorem render_directives_lan : ∃ text, lanServer ∈ lanSections ∧
    atHome.render (.ofList lanSections) lanServer = .ok text ∧
      ∀ directive : Directive, countLed directive.lead (Text.linesOf text) =
        match directive with
        | .relay => 2
        | .option | .address => 0
        | _ => 1 := by
  -- What depends on the sections only is computed, so that the text need not be spelled out.
  have rendered : (atHome.render (.ofList lanSections) lanServer).isOk = true := by decide +kernel
  have whole : (lanServer.asDnsmasq.all fun d =>
      ((DnsmasqContext.resolve (.ofList lanSections) lanServer d
        (atHome.paths lanServer d).lease).toOption.all fun payload =>
          payload.texts.all fun t => decide (OneLine t))) = true := by decide +kernel
  have called : (lanServer.asDnsmasq.all fun d =>
      ((d.pools (.ofList lanSections)).toOption.all fun pools =>
        Directive.all.all fun directive => directive.due lanSections d pools ==
          match directive with
          | .relay => 2
          | .option | .address => 0
          | _ => 1)) = true := by decide +kernel
  cases h : atHome.render (.ofList lanSections) lanServer with
  | error e =>
    rw [h] at rendered
    cases rendered
  | ok text =>
    refine ⟨text, by decide +kernel, rfl, fun directive => ?_⟩
    obtain ⟨d, payload, pools, hd, hp, hpools, -, -, exactly⟩ :=
      render_directives rfl valid_lanSections h
    rw [hd, Option.all_some, hp] at whole
    rw [hd, Option.all_some, hpools] at called
    have free : ∀ t ∈ payload.texts, OneLine t := fun t ht =>
      of_decide_eq_true (List.all_eq_true.1 whole t ht)
    -- Nothing breaks a line, so what is read is what is called for.
    rw [exactly free directive]
    exact eq_of_beq (List.all_eq_true.1 called directive directive.mem_all)

/-- **A text with a line break can bring a directive with it.** The domain of an instance without
servers goes on, after a break, with the directive of a server. -/
theorem render_not_directives :
    ¬ ∀ (c : Compiler) (ss : List Section) (s : Section) (d : DnsmasqInstance) (now : Timestamp)
        (text : String),
      c.renderer = .standard → (∀ s' ∈ ss, ∃ source raw, Section.ofRaw source raw = .ok s') →
      s.asDnsmasq = some d → c.render (.ofList ss) s now = .ok text →
      countLed "server=" (Text.linesOf text) = (d.server.getD []).length := by
  intro always
  have injected : ((Section.ofRaw "test.yaml" ⟨"dhcp", "dnsmasq", "m",
      [(.text "domain", .text "lan\nserver=203.0.113.1")]⟩).toOption.any fun s =>
        s.asDnsmasq.any fun d =>
          (DnsmasqContext.resolve (.ofList [s]) s d (atHome.paths s d).lease).toOption.any
            fun payload => countLed "server=" (payload.lines.flatMap Text.parts) !=
              (d.server.getD []).length) = true := by
    decide +kernel
  -- One server is read, and none has been set.
  obtain ⟨s, hs, injected⟩ := (Option.any_eq_true _ _).1 injected
  obtain ⟨d, hd, injected⟩ := (Option.any_eq_true _ _).1 injected
  obtain ⟨payload, hp, injected⟩ := (Option.any_eq_true _ _).1 injected
  have valid : ∀ s' ∈ [s], ∃ source raw, Section.ofRaw source raw = .ok s' := by
    intro s' hs'
    rw [List.mem_singleton.1 hs']
    exact ⟨_, _, except_toOption_eq_some.1 hs⟩
  have rendered : atHome.render (.ofList [s]) s = .ok (Text.ofLines payload.lines) :=
    render_eq_ok_iff.2 ⟨d, hd,
      (renderInstance_eq_ok_iff rfl).2 ⟨payload, except_toOption_eq_some.1 hp, rfl⟩⟩
  have counted := always atHome [s] s d _ _ rfl valid hd rendered
  -- The lines of the text are those of the payload, cut at the breaks within them.
  rw [Text.linesOf_ofLines] at counted
  rw [counted, bne_self_eq_false] at injected
  cases injected

end Compiler

end RouterConf
