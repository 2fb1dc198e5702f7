import RouterConf.Section.Body

/-!
# Sections

A section keeps its options, for listing, and the typed record built from them, for compiling.

Main statements: `Section.kind_body_ofRaw`, `Section.asDnsmasq_isSome_iff`.
-/

namespace RouterConf

open Yaml (Value)

/-- A section as it is written, before validation. -/
structure RawSection where
  file : String
  type : String
  name : String
  options : List (Value × Value)
  deriving Inhabited

/-- A validated section. `source` says where it was declared. -/
structure Section where
  id : SectionId
  source : String
  options : Options
  body : SectionBody
  deriving DecidableEq, Repr, Inhabited

namespace Section

def ofRaw (source : String) (raw : RawSection) : Except ValidationError Section :=
  match SectionKind.ofPair raw.file raw.type with
  | none => .error (.unknownSection raw.file raw.type)
  | some kind => do
    let id : SectionId := ⟨kind, raw.name⟩
    let options ← kind.schema.instantiate id.text raw.options
    return { id, source, options, body := .build kind options }

/-- The record of a section is of the kind of the section. -/
theorem kind_body_ofRaw {source : String} {raw : RawSection} {s : Section}
    (h : ofRaw source raw = .ok s) : s.body.kind = s.id.kind := by
  unfold ofRaw at h
  split at h
  · cases h
  · rename_i kind _
    cases hi : kind.schema.instantiate (SectionId.text ⟨kind, raw.name⟩) raw.options with
    | error e => simp [hi, bind, Except.bind] at h
    | ok o =>
      simp only [hi, bind, Except.bind, pure, Except.pure, Except.ok.injEq] at h
      subst h
      exact SectionBody.kind_build kind o

def text (s : Section) : String :=
  s.id.text

def asInterface (s : Section) : Option NetworkInterface :=
  match s.body with
  | .interface b => some b
  | _ => none

def asDhcpPool (s : Section) : Option DhcpPool :=
  match s.body with
  | .dhcpPool b => some b
  | _ => none

def asDomain (s : Section) : Option DomainOverride :=
  match s.body with
  | .domainOverride b => some b
  | _ => none

def asHost (s : Section) : Option StaticHost :=
  match s.body with
  | .staticHost b => some b
  | _ => none

def asDnsmasq (s : Section) : Option DnsmasqInstance :=
  match s.body with
  | .dnsmasq b => some b
  | _ => none

/-! A section has a record of the kind that its body is of, and of no other. -/

theorem asInterface_isSome_iff (s : Section) :
    s.asInterface.isSome ↔ s.body.kind = .interface := by
  unfold asInterface SectionBody.kind
  cases s.body <;> simp

theorem asDhcpPool_isSome_iff (s : Section) : s.asDhcpPool.isSome ↔ s.body.kind = .dhcpPool := by
  unfold asDhcpPool SectionBody.kind
  cases s.body <;> simp

theorem asDomain_isSome_iff (s : Section) :
    s.asDomain.isSome ↔ s.body.kind = .domainOverride := by
  unfold asDomain SectionBody.kind
  cases s.body <;> simp

theorem asHost_isSome_iff (s : Section) : s.asHost.isSome ↔ s.body.kind = .staticHost := by
  unfold asHost SectionBody.kind
  cases s.body <;> simp

/-- Exactly the sections with such a record are daemon instances. -/
theorem asDnsmasq_isSome_iff (s : Section) : s.asDnsmasq.isSome ↔ s.body.kind = .dnsmasq := by
  unfold asDnsmasq SectionBody.kind
  cases s.body <;> simp

end Section

end RouterConf
