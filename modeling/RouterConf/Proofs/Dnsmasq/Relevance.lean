import RouterConf.Proofs.Dnsmasq.Apply
import RouterConf.Proofs.Outcomes
import RouterConf.Proofs.Section.Index

/-!
# What a configuration depends on

Of all sections, an instance looks at the interfaces and pools that it serves, and at the domain
overrides and static hosts (`SectionIndex.AgreeFor`). Indexes that agree on these give the same
configuration or the same error, even to which error comes first.

It follows where the order of loading matters. Interfaces are only looked up by name, so their order
does not, nor that of pools for an instance that lists its interfaces. Pools of an instance without
such a list, domain overrides and static hosts are taken in order, each kind by itself. Daemon
instances do not look at each other.

Main statements: `Compiler.render_congr`, `Compiler.render_eq_of_select`.
-/

namespace RouterConf

variable {x x' : SectionIndex} {d : DnsmasqInstance} {s : Section} {ss ss' : List Section}

/-! ### What an instance looks at -/

/-- **Indexes that an instance cannot tell apart.** -/
structure SectionIndex.AgreeFor (d : DnsmasqInstance) (x x' : SectionIndex) : Prop where
  served : effectiveInterfaces d x = effectiveInterfaces d x'
  lookup : ∀ name ∈ effectiveInterfaces d x, ∀ kind ∈ [SectionKind.interface, .dhcpPool],
    x.lookup kind name = x'.lookup kind name
  names : ∀ kind ∈ [SectionKind.domainOverride, .staticHost], x.ofKind kind = x'.ofKind kind

/-- An interface that is looked up alike is resolved alike. -/
theorem ServedInterface.resolve_congr {name : String}
    (h : ∀ kind ∈ [SectionKind.interface, .dhcpPool], x.lookup kind name = x'.lookup kind name) :
    resolve x name = resolve x' name := by
  have interface := SectionIndex.expectOne_congr (h .interface (by simp))
  have pool := SectionIndex.expectOne_congr (h .dhcpPool (by simp))
  unfold resolve SectionIndex.resolve
  rw [interface, pool]

/-- Indexes that an instance cannot tell apart resolve it alike. -/
theorem DnsmasqContext.resolve_congr (h : x.AgreeFor d x') (s : Section) (leaseFile : Path) :
    resolve x s d leaseFile = resolve x' s d leaseFile := by
  unfold resolve
  -- The same names are resolved in the same order, so that the first to fail is the same, too.
  rw [← h.served, h.names .domainOverride (by simp), h.names .staticHost (by simp),
    mapM_congr fun name hname => ServedInterface.resolve_congr (h.lookup name hname)]

/-- **A configuration depends on nothing else** than what its instance looks at. -/
theorem Compiler.render_congr (c : Compiler) (h : ∀ d, s.asDnsmasq = some d → x.AgreeFor d x')
    (now : Timestamp) : c.render x s now = c.render x' s now := by
  unfold render instanceOf
  -- What declares no instance is refused before the index is looked at.
  cases hd : s.asDnsmasq with
  | none => rfl
  | some d =>
    simp only [renderInstance, bind, Except.bind, DnsmasqContext.resolve_congr (h d hd)]

/-! ### Indexes that agree -/

namespace SectionIndex

/-- Of an index, only the pools matter to which interfaces are served. -/
theorem effectiveInterfaces_congr (h : x.ofKind .dhcpPool = x'.ofKind .dhcpPool)
    (d : DnsmasqInstance) : effectiveInterfaces d x = effectiveInterfaces d x' := by
  unfold effectiveInterfaces
  rw [h]

/-- Interfaces may come in any order, the other kinds only in theirs. -/
theorem agreeFor_of_select
    (same : ∀ kind ∈ [SectionKind.dhcpPool, .domainOverride, .staticHost],
      kind.select ss = kind.select ss')
    (interfaces : (SectionKind.interface.select ss).Perm (SectionKind.interface.select ss'))
    (d : DnsmasqInstance) : (ofList ss).AgreeFor d (ofList ss') := by
  simp only [List.forall_mem_cons] at same
  obtain ⟨pools, domains, hosts, -⟩ := same
  -- A lookup counts who bears the name, and that does not depend on the order.
  refine ⟨effectiveInterfaces_congr ?_ d, fun name _ => ?_, ?_⟩
  · rw [ofKind_ofList, ofKind_ofList, pools]
  · simp only [List.forall_mem_cons]
    exact ⟨lookup_ofList_perm interfaces name, lookup_ofList_perm (pools ▸ .refl _) name, by simp⟩
  · simp [ofKind_ofList, domains, hosts]

/-- For an instance that lists its interfaces, pools may come in any order, too. -/
theorem agreeFor_of_perm {names : List String} (hd : d.interface = some names)
    (same : ∀ kind ∈ [SectionKind.domainOverride, .staticHost], kind.select ss = kind.select ss')
    (perm : ∀ kind ∈ [SectionKind.interface, .dhcpPool],
      (kind.select ss).Perm (kind.select ss')) : (ofList ss).AgreeFor d (ofList ss') := by
  refine ⟨?_, fun name _ kind hk => lookup_ofList_perm (perm kind hk) name, fun kind hk => ?_⟩
  · rw [effectiveInterfaces_of_explicit hd, effectiveInterfaces_of_explicit hd]
  · rw [ofKind_ofList, ofKind_ofList, same kind hk]

section Insertion

variable {before after : List Section}

/-- A section more is seen by an instance only if it is looked up, or if its kind is listed. -/
theorem agreeFor_insert
    (served : effectiveInterfaces d (ofList (before ++ s :: after)) =
      effectiveInterfaces d (ofList (before ++ after)))
    (unnamed : s.id.kind ∈ [SectionKind.interface, .dhcpPool] →
      s.id.name ∉ effectiveInterfaces d (ofList (before ++ after)))
    (unlisted : s.id.kind ∉ [SectionKind.domainOverride, .staticHost]) :
    (ofList (before ++ s :: after)).AgreeFor d (ofList (before ++ after)) := by
  -- A lookup of an interface or a pool misses the section by kind or by name; a list of a kind
  -- misses it by kind.
  refine ⟨served, fun name hname kind hk => lookup_insert ?_, fun kind hk => ofKind_insert ?_⟩
  · rw [served] at hname
    intro hs
    rw [hs] at unnamed
    exact unnamed hk hname
  · rintro rfl
    exact unlisted hk

/-- Daemon instances are not looked at by each other. -/
theorem agreeFor_insert_dnsmasq (hs : s.id.kind = .dnsmasq) (d : DnsmasqInstance) :
    (ofList (before ++ s :: after)).AgreeFor d (ofList (before ++ after)) := by
  -- An instance is neither an interface nor a pool, neither a name nor a host.
  refine agreeFor_insert (effectiveInterfaces_congr (ofKind_insert ?_) d) ?_ ?_ <;> simp [hs]

/-- An interface more is not seen by an instance that does not serve it. -/
theorem agreeFor_insert_interface (hs : s.id.kind = .interface)
    (unnamed : s.id.name ∉ effectiveInterfaces d (ofList (before ++ after))) :
    (ofList (before ++ s :: after)).AgreeFor d (ofList (before ++ after)) := by
  refine agreeFor_insert (effectiveInterfaces_congr (ofKind_insert ?_) d) (fun _ => unnamed) ?_ <;>
    simp [hs]

/-- A pool more is not seen by an instance that lists other interfaces. Without a list it would be
served. -/
theorem agreeFor_insert_pool (hs : s.id.kind = .dhcpPool) {names : List String}
    (hd : d.interface = some names) (unnamed : s.id.name ∉ names) :
    (ofList (before ++ s :: after)).AgreeFor d (ofList (before ++ after)) := by
  refine agreeFor_insert ?_ (fun _ => ?_) (by simp [hs])
  · rw [effectiveInterfaces_of_explicit hd, effectiveInterfaces_of_explicit hd]
  · -- With a list, the names that are served are just those listed.
    rwa [effectiveInterfaces_of_explicit hd]

end Insertion

end SectionIndex

/-! ### The order of loading -/

namespace Compiler

/-- **Rendering depends on the order of loading kind by kind.** Let the renderer be steady, so that
it is asked twice at whatever times. Lists with the same pools, the same domain overrides and the
same static hosts in their orders, and the same interfaces in any order, render a section alike, to
the same text or to the same error. If the section lists its interfaces, the pools may come in any
order, too. One more interface that it does not serve changes nothing, and neither does one more
pool, if it lists its interfaces. -/
theorem render_eq_of_select (c : Compiler) (steady : c.renderer.Steady) (s : Section)
    (now now' : Timestamp) :
    (∀ ss ss', (∀ kind ∈ [SectionKind.dhcpPool, .domainOverride, .staticHost],
        kind.select ss = kind.select ss') →
      (SectionKind.interface.select ss).Perm (SectionKind.interface.select ss') →
      c.render (.ofList ss) s now = c.render (.ofList ss') s now') ∧
    (∀ ss ss' d names, s.asDnsmasq = some d → d.interface = some names →
      (∀ kind ∈ [SectionKind.domainOverride, .staticHost], kind.select ss = kind.select ss') →
      (∀ kind ∈ [SectionKind.interface, .dhcpPool], (kind.select ss).Perm (kind.select ss')) →
      c.render (.ofList ss) s now = c.render (.ofList ss') s now') ∧
    (∀ before after added, added.id.kind = .interface →
      (∀ d, s.asDnsmasq = some d →
        added.id.name ∉ effectiveInterfaces d (.ofList (before ++ after))) →
      c.render (.ofList (before ++ added :: after)) s now =
        c.render (.ofList (before ++ after)) s now') ∧
    ∀ before after added d names, s.asDnsmasq = some d → d.interface = some names →
      added.id.kind = .dhcpPool → added.id.name ∉ names →
      c.render (.ofList (before ++ added :: after)) s now =
        c.render (.ofList (before ++ after)) s now' := by
  -- At one time no more is needed than that the instance cannot tell the indexes apart.
  have alike {x x' : SectionIndex} (h : ∀ d, s.asDnsmasq = some d → x.AgreeFor d x') :
      c.render x s now = c.render x' s now' :=
    (c.render_congr h now).trans (render_steady steady now now')
  refine ⟨fun ss ss' same interfaces => ?_, fun ss ss' d names hd list same perm => ?_,
    fun before after added hk unnamed => ?_,
    fun before after added d names hd list hk unnamed => ?_⟩
  · exact alike fun d _ => SectionIndex.agreeFor_of_select same interfaces d
  · -- The section declares one instance, and that lists its interfaces.
    refine alike fun d' hd' => ?_
    obtain rfl := Option.some.inj (hd.symm.trans hd')
    exact SectionIndex.agreeFor_of_perm list same perm
  · exact alike fun d hd => SectionIndex.agreeFor_insert_interface hk (unnamed d hd)
  · refine alike fun d' hd' => ?_
    obtain rfl := Option.some.inj (hd.symm.trans hd')
    exact SectionIndex.agreeFor_insert_pool hk list unnamed

end Compiler

/-! ### Two networks -/

/-- The section of an interface without addresses. -/
def Section.wire (name : String) : Section where
  id := ⟨.interface, name⟩
  source := "router.yaml"
  options := []
  body := .interface { ifname := "eth-" ++ name, proto := none, ipaddr := none, netmask := none }

/-- The section of a pool that leases no range. -/
def Section.rangeless (name : String) : Section where
  id := ⟨.dhcpPool, name⟩
  source := "router.yaml"
  options := []
  body := .dhcpPool
    { interface := name, leasetime := none, limit := none, start := none, dhcpOption := []
      relay := [] }

/-- The section of an instance that lists its interfaces. -/
def Section.listing (name : String) (interfaces : List String) : Section :=
  { plain name with body := .dnsmasq { DnsmasqInstance.plain with interface := some interfaces } }

/-- Two networks in two orders at two times, and another network that is or is not there. -/
theorem Compiler.render_eq_of_select_networks :
    let later : Timestamp := { Timestamp.epoch with nanos := 1 }
    atHome.render (.ofList [.wire "lan", .wire "wan", .rangeless "lan", .rangeless "wan"])
        (.plain "m") .epoch =
      atHome.render (.ofList [.rangeless "lan", .wire "wan", .plain "m", .rangeless "wan",
        .wire "lan"]) (.plain "m") later ∧
    atHome.render (.ofList [.wire "lan", .wire "wan", .rangeless "lan", .rangeless "wan"])
        (.listing "m" ["lan", "wan"]) .epoch =
      atHome.render (.ofList [.rangeless "wan", .wire "wan", .rangeless "lan", .wire "lan"])
        (.listing "m" ["lan", "wan"]) later ∧
    atHome.render (.ofList [.wire "lan", .wire "dmz", .rangeless "lan"]) (.plain "m") .epoch =
      atHome.render (.ofList [.wire "lan", .rangeless "lan"]) (.plain "m") later ∧
    atHome.render (.ofList [.rangeless "dmz", .wire "lan", .rangeless "lan"])
        (.listing "m" ["lan"]) .epoch =
      atHome.render (.ofList [.wire "lan", .rangeless "lan"]) (.listing "m" ["lan"]) later := by
  have alike (s : Section) := render_eq_of_select atHome Renderer.steady_standard s .epoch
    { Timestamp.epoch with nanos := 1 }
  refine ⟨?_, ?_, ?_, ?_⟩
  · exact (alike (.plain "m")).1 _ _ (by decide) (by decide)
  · exact (alike (.listing "m" ["lan", "wan"])).2.1 _ _ _ _ rfl rfl (by decide) (by decide)
  · refine (alike (.plain "m")).2.2.1 [.wire "lan"] [.rangeless "lan"] _ rfl ?_
    -- The one pool is for another interface.
    rintro d ⟨⟩
    decide
  · exact (alike (.listing "m" ["lan"])).2.2.2 [] _ _ _ _ rfl rfl rfl (by decide)

end RouterConf
