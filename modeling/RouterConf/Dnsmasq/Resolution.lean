import RouterConf.Dnsmasq.Error

/-!
# Resolving what an instance serves

An instance names the interfaces that it serves, or serves those of all pools. Each name has to
resolve to exactly one interface and one pool. Names with fixed addresses and static hosts belong to
every instance.

Main statement: `effectiveInterfaces_of_explicit`.
-/

namespace RouterConf

/-- The names of the interfaces that an instance serves, in order. -/
def effectiveInterfaces (d : DnsmasqInstance) (x : SectionIndex) : List String :=
  match d.interface with
  | some names => names
  | none => ((x.ofKind .dhcpPool).filterMap Section.asDhcpPool).map (·.interface)

/-- A list of interfaces is taken as it is, even an empty one. -/
theorem effectiveInterfaces_of_explicit {d : DnsmasqInstance} {names : List String}
    (h : d.interface = some names) (x : SectionIndex) : effectiveInterfaces d x = names := by
  simp [effectiveInterfaces, h]

/-- The record of the one section of a kind and a name. -/
def SectionIndex.resolve {β : Type} (x : SectionIndex) (kind : SectionKind)
    (view : Section → Option β) (name : String) : Except CompileError β :=
  match x.expectOne kind name with
  | .error e => .error (.reference e)
  | .ok s =>
    -- Sections that have been loaded have a record of their kind.
    match view s with
    | some body => .ok body
    | none => .error (.reference (.notFound kind.file kind.type name))

def ServedInterface.resolve (x : SectionIndex) (name : String) :
    Except CompileError ServedInterface := do
  let i ← x.resolve .interface Section.asInterface name
  let p ← x.resolve .dhcpPool Section.asDhcpPool name
  let range ← (DhcpRange.ofPool i p).mapError (.address name)
  return { name, ifname := i.ifname, range, options := p.dhcpOption, relays := p.relay }

namespace DnsmasqContext

/-- The payload of an instance in the light of all sections. -/
def resolve (x : SectionIndex) (s : Section) (d : DnsmasqInstance) (leaseFile : Path) :
    Except CompileError DnsmasqContext := do
  let interfaces ← (effectiveInterfaces d x).mapM (ServedInterface.resolve x)
  return { ofInstance s d leaseFile with
    interfaces
    domains := ((x.ofKind .domainOverride).filterMap Section.asDomain).map DomainEntry.ofOverride
    hosts := ((x.ofKind .staticHost).filterMap Section.asHost).map StaticHost.lease }

end DnsmasqContext

end RouterConf
