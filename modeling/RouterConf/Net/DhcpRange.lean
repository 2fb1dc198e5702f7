import RouterConf.Net.Ipv4
import RouterConf.Section.Body

/-!
# Lease ranges

The range of addresses that a pool leases out on an interface, counted from the network address of
the interface.

Main statement: `DhcpRange.ofPool_eq_none`.
-/

namespace RouterConf

/-- A range of addresses with its netmask and lease time, all as text. -/
structure DhcpRange where
  first : String
  last : String
  netmask : String
  leasetime : String
  deriving DecidableEq, Repr, Inhabited

namespace DhcpRange

/-- The range of a pool on an interface. A pool without start, limit or lease time has none,
whatever the interface. -/
def ofPool (i : NetworkInterface) (p : DhcpPool) : Except AddressError (Option DhcpRange) :=
  match p.range? with
  | none => .ok none
  | some (start, limit, leasetime) =>
    match i.ipaddr, i.netmask with
    | none, _ => .error (.missing "ipaddr")
    | some _, none => .error (.missing "netmask")
    | some ipaddr, some netmask => do
      let network ← Ipv4.network ipaddr netmask
      let first ← network.offset start
      let last ← first.offset limit
      return some { first := first.text, last := last.text, netmask, leasetime }

/-- A pool without a full range has none on any interface. -/
theorem ofPool_eq_none {p : DhcpPool} (h : p.range? = none) (i : NetworkInterface) :
    ofPool i p = .ok none := by
  simp [ofPool, h]

end DhcpRange

end RouterConf
