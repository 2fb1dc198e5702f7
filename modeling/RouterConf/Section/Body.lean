import RouterConf.Section.Schema

/-!
# The kinds of sections in detail

The schema of each kind, and the typed record that a section of the kind carries.

Main statements: `SectionBody.kind_build`, `SectionKind.schema_nodup`.
-/

namespace RouterConf

/-! ### Schemas -/

namespace OptionSpec

def optionalText (name : String) : OptionSpec :=
  { name, type := .text }

/-- A text that has to be given. -/
def requiredText (name : String) : OptionSpec :=
  { name, type := .text, required := true }

def integer (name : String) (default? : Option Int := none) : OptionSpec :=
  { name, type := .integer, default? := default?.map .integer }

def flag (name : String) (default : Bool) : OptionSpec :=
  { name, type := .flag, default? := some (.flag default) }

def list (name : String) : OptionSpec :=
  { name, type := .list }

def emptyList (name : String) : OptionSpec :=
  { name, type := .list, default? := some (.list []) }

end OptionSpec

namespace SectionKind

open OptionSpec

def schema : SectionKind → Schema
  | interface =>
    [requiredText "ifname", optionalText "proto", optionalText "ipaddr", optionalText "netmask"]
  | dhcpPool =>
    [requiredText "interface", optionalText "leasetime", integer "limit", integer "start",
      emptyList "dhcp_option", emptyList "relay"]
  | domainOverride => [optionalText "name", optionalText "ip"]
  | staticHost =>
    [optionalText "ip", optionalText "mac", optionalText "hostid", optionalText "duid",
      optionalText "name", optionalText "tag", emptyList "match_tag", flag "dns" false,
      flag "broadcast" false, optionalText "leasetime", optionalText "instance"]
  | dnsmasq =>
    [flag "authoritative" true, integer "cachesize" (some 150), optionalText "dhcp_boot",
      integer "dhcpleasemax" (some 1000), optionalText "domain", flag "enable_tftp" false,
      flag "expandhosts" true, list "interface", optionalText "leasefile", flag "noresolv" false,
      list "server", optionalText "tftp_root"]

/-- No schema declares a name twice. -/
theorem schema_nodup (k : SectionKind) : (k.schema.map (·.name)).Nodup := by
  cases k <;> decide

end SectionKind

/-! ### Records -/

/-- A network interface as far as leases need it. -/
structure NetworkInterface where
  ifname : String
  proto : Option String
  ipaddr : Option String
  netmask : Option String
  deriving DecidableEq, Repr, Inhabited

/-- The address pool of an interface. -/
structure DhcpPool where
  interface : String
  leasetime : Option String
  limit : Option Int
  start : Option Int
  dhcpOption : List String
  relay : List String
  deriving DecidableEq, Repr, Inhabited

/-- The first offset, the number of further addresses and the lease time, if all three are set. -/
def DhcpPool.range? (p : DhcpPool) : Option (Int × Int × String) := do
  return (← p.start, ← p.limit, ← p.leasetime)

structure DomainOverride where
  name : Option String
  ip : Option String
  deriving DecidableEq, Repr, Inhabited

structure StaticHost where
  ip : Option String
  mac : Option String
  hostid : Option String
  duid : Option String
  name : Option String
  tag : Option String
  matchTag : List String
  dns : Bool
  broadcast : Bool
  leasetime : Option String
  instance_ : Option String
  deriving DecidableEq, Repr, Inhabited

/-- The lease of a host as one text: hardware address, name, address and lease time, each only if
set and not empty. -/
def StaticHost.lease (h : StaticHost) : String :=
  ",".intercalate (([h.mac, h.name, h.ip, h.leasetime].filterMap id).filter (· ≠ ""))

structure DnsmasqInstance where
  authoritative : Bool
  cachesize : Int
  dhcpBoot : Option String
  dhcpleasemax : Int
  domain : Option String
  enableTftp : Bool
  expandhosts : Bool
  /-- The interfaces to serve; unset means those of all pools. -/
  interface : Option (List String)
  leasefile : Option String
  noresolv : Bool
  server : Option (List String)
  tftpRoot : Option String
  deriving DecidableEq, Repr, Inhabited

/-- The record of a section, by kind. -/
inductive SectionBody where
  | interface (body : NetworkInterface)
  | dhcpPool (body : DhcpPool)
  | domainOverride (body : DomainOverride)
  | staticHost (body : StaticHost)
  | dnsmasq (body : DnsmasqInstance)
  deriving DecidableEq, Repr, Inhabited

namespace SectionBody

def kind : SectionBody → SectionKind
  | interface _ => .interface
  | dhcpPool _ => .dhcpPool
  | domainOverride _ => .domainOverride
  | staticHost _ => .staticHost
  | dnsmasq _ => .dnsmasq

def build (kind : SectionKind) (o : Options) : SectionBody :=
  match kind with
  | .interface => .interface
    { ifname := (o.text? "ifname").getD ""
      proto := o.text? "proto"
      ipaddr := o.text? "ipaddr"
      netmask := o.text? "netmask" }
  | .dhcpPool => .dhcpPool
    { interface := (o.text? "interface").getD ""
      leasetime := o.text? "leasetime"
      limit := o.integer? "limit"
      start := o.integer? "start"
      dhcpOption := (o.list? "dhcp_option").getD []
      relay := (o.list? "relay").getD [] }
  | .domainOverride => .domainOverride
    { name := o.text? "name"
      ip := o.text? "ip" }
  | .staticHost => .staticHost
    { ip := o.text? "ip"
      mac := o.text? "mac"
      hostid := o.text? "hostid"
      duid := o.text? "duid"
      name := o.text? "name"
      tag := o.text? "tag"
      matchTag := (o.list? "match_tag").getD []
      dns := o.flag "dns"
      broadcast := o.flag "broadcast"
      leasetime := o.text? "leasetime"
      instance_ := o.text? "instance" }
  | .dnsmasq => .dnsmasq
    { authoritative := o.flag "authoritative"
      cachesize := (o.integer? "cachesize").getD 150
      dhcpBoot := o.text? "dhcp_boot"
      dhcpleasemax := (o.integer? "dhcpleasemax").getD 1000
      domain := o.text? "domain"
      enableTftp := o.flag "enable_tftp"
      expandhosts := o.flag "expandhosts"
      interface := o.list? "interface"
      leasefile := o.text? "leasefile"
      noresolv := o.flag "noresolv"
      server := o.list? "server"
      tftpRoot := o.text? "tftp_root" }

@[simp] theorem kind_build (k : SectionKind) (o : Options) : (build k o).kind = k := by
  cases k <;> rfl

end SectionBody

end RouterConf
