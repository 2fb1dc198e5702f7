/-!
# Kinds and identities of sections

A configuration is a list of sections. A section is of one of five kinds, each of which is written
as a pair of a configuration file and a type, and it has a name. Kind and name together identify it.

Main statements: `SectionKind.ofPair_eq_some_iff`, `SectionKind.ofTag_tag`.
-/

namespace RouterConf

inductive SectionKind where
  | interface
  | dhcpPool
  | domainOverride
  | staticHost
  | dnsmasq
  deriving DecidableEq, Repr, Inhabited

namespace SectionKind

def all : List SectionKind :=
  [interface, dhcpPool, domainOverride, staticHost, dnsmasq]

@[simp] theorem mem_all (k : SectionKind) : k ∈ all := by
  cases k <;> decide

def file : SectionKind → String
  | interface => "network"
  | _ => "dhcp"

/-- The type by which a kind is declared in its file. -/
def type : SectionKind → String
  | interface => "interface"
  | dhcpPool => "dhcp"
  | domainOverride => "domain"
  | staticHost => "host"
  | dnsmasq => "dnsmasq"

def tag : SectionKind → String
  | interface => "interface"
  | dhcpPool => "dhcp_pool"
  | domainOverride => "domain_override"
  | staticHost => "static_host"
  | dnsmasq => "dnsmasq"

def ofPair (file type : String) : Option SectionKind :=
  all.find? fun k => k.file = file ∧ k.type = type

def ofTag (tag : String) : Option SectionKind :=
  all.find? fun k => k.tag = tag

/-- A pair declares the one kind whose file and type it is. -/
theorem ofPair_eq_some_iff {file type : String} {k : SectionKind} :
    ofPair file type = some k ↔ k.file = file ∧ k.type = type := by
  constructor
  · intro h
    simpa using List.find?_some h
  · rintro ⟨rfl, rfl⟩
    cases k <;> decide

@[simp] theorem ofTag_tag (k : SectionKind) : ofTag k.tag = some k := by
  cases k <;> decide

def text (k : SectionKind) : String :=
  k.file ++ "." ++ k.type

end SectionKind

/-- The identity of a section. -/
structure SectionId where
  kind : SectionKind
  name : String
  deriving DecidableEq, Repr, Inhabited

namespace SectionId

def text (id : SectionId) : String :=
  id.kind.text ++ ":" ++ id.name

/-- The key under which files that belong to a section are named. -/
def fileKey (id : SectionId) : String :=
  id.kind.type ++ "-" ++ id.name

end SectionId

end RouterConf
