import RouterConf.Net.DhcpRange
import RouterConf.Section.Basic
import RouterConf.Template.Basic

/-!
# What a daemon configuration says

The payload from which the configuration of one daemon instance is rendered: its own directives, the
interfaces it serves, and the names and hosts that it answers for.
-/

namespace RouterConf

open Template (Value)

structure ServedInterface where
  /-- The name of its section. -/
  name : String
  /-- The name of its device. -/
  ifname : String
  range : Option DhcpRange
  options : List String
  relays : List String
  deriving DecidableEq, Repr, Inhabited

structure DomainEntry where
  name : String
  ip : String
  deriving DecidableEq, Repr, Inhabited

/-- The payload of one instance. -/
structure DnsmasqContext where
  /-- Where the section was declared. -/
  source : String
  /-- The section as it is written in messages. -/
  section_ : String
  leaseFile : String
  authoritative : Bool
  cacheSize : Int
  dhcpBoot : Option String
  leaseMax : Int
  domain : Option String
  enableTftp : Bool
  expandHosts : Bool
  noResolv : Bool
  tftpRoot : Option String
  servers : List String := []
  interfaces : List ServedInterface := []
  domains : List DomainEntry := []
  hosts : List String := []
  deriving DecidableEq, Repr, Inhabited

/-- The entry of a domain override; what is unset is empty. -/
def DomainEntry.ofOverride (d : DomainOverride) : DomainEntry :=
  { name := d.name.getD "", ip := d.ip.getD "" }

def DhcpRange.value (r : DhcpRange) : Value :=
  .object [("first", .text r.first), ("last", .text r.last), ("netmask", .text r.netmask),
    ("leasetime", .text r.leasetime)]

def ServedInterface.value (i : ServedInterface) : Value :=
  .object [("name", .text i.name), ("ifname", .text i.ifname),
    ("range", (i.range.map DhcpRange.value).getD .null), ("options", .ofTexts i.options),
    ("relays", .ofTexts i.relays)]

def DomainEntry.value (d : DomainEntry) : Value :=
  .object [("name", .text d.name), ("ip", .text d.ip)]

namespace DnsmasqContext

/-- The directives of an instance, without interfaces, domains and hosts. -/
def ofInstance (s : Section) (d : DnsmasqInstance) (leaseFile : String) : DnsmasqContext :=
  { source := s.source
    section_ := s.text
    leaseFile
    authoritative := d.authoritative
    cacheSize := d.cachesize
    dhcpBoot := d.dhcpBoot
    leaseMax := d.dhcpleasemax
    domain := d.domain
    enableTftp := d.enableTftp
    expandHosts := d.expandhosts
    noResolv := d.noresolv
    tftpRoot := d.tftpRoot
    servers := d.server.getD [] }

/-- The payload as the named values that a template sees. -/
def scope (c : DnsmasqContext) : Template.Scope :=
  [("source", .text c.source), ("section", .text c.section_), ("lease_file", .text c.leaseFile),
    ("authoritative", .bool c.authoritative), ("cache_size", .int c.cacheSize),
    ("dhcp_boot", .ofText? c.dhcpBoot), ("lease_max", .int c.leaseMax),
    ("domain", .ofText? c.domain), ("enable_tftp", .bool c.enableTftp),
    ("expand_hosts", .bool c.expandHosts), ("no_resolv", .bool c.noResolv),
    ("tftp_root", .ofText? c.tftpRoot), ("servers", .ofTexts c.servers),
    ("interfaces", .list (c.interfaces.map ServedInterface.value)),
    ("domains", .list (c.domains.map DomainEntry.value)), ("hosts", .ofTexts c.hosts)]

end DnsmasqContext

end RouterConf
