import RouterConf.Dnsmasq.Renderer
import RouterConf.Proofs.Template.Rendering

/-!
# The text of a daemon configuration, line by line

`DnsmasqContext.lines` says which lines the configuration of an instance has: the banner, the
directives of the instance itself, a block for every interface it serves, the names with fixed
addresses and the static hosts. Empty lines stand between the parts whether or not a part has lines
of its own.

The shipped template, read and rendered, yields exactly these lines, each ended by a line break, and
never fails (`render_source`). The template puts its line breaks before the lines, so the proof goes
through `Text.broken`: every group of parts renders to the broken text of its own lines
(`renders_directives`, `renders_interface`), and the last break of the template closes the last
line.
-/

namespace RouterConf

open Template (Node Scope Variable Value renderAll renderNode)

/-! ### The lines of a configuration -/

/-- A directive that is written only where its value is set and not empty. -/
def optionalDirective (lead : String) : Option String → List String
  | some value => if value = "" then [] else [lead ++ value]
  | none => []

/-- A directive without a value, where its switch is on. -/
def flagDirective (directive : String) (on : Bool) : List String :=
  if on then [directive] else []

/-- The directive of a range of leases, where there is one. -/
def rangeDirective : Option DhcpRange → List String
  | some r => ["dhcp-range=" ++ r.first ++ "," ++ r.last ++ "," ++ r.netmask ++ "," ++ r.leasetime]
  | none => []

/-- The lines of an interface. Relays make it a proxy, however many there are. -/
def ServedInterface.lines (i : ServedInterface) : List String :=
  ["", "# Options for section interface " ++ i.name, "interface=" ++ i.ifname,
    "", "# Options for section dhcp " ++ i.name] ++
  rangeDirective i.range ++
  i.options.map ("dhcp-option=" ++ ·) ++
  i.relays.map ("dhcp-relay=" ++ ·) ++
  flagDirective "dhcp-proxy" (!i.relays.isEmpty)

/-- The line of a name with a fixed address. -/
def DomainEntry.line (d : DomainEntry) : String :=
  "address=/" ++ d.name ++ "/" ++ d.ip

namespace DnsmasqContext

/-- The rule above and below the title. -/
def bannerRule : String :=
  String.ofList (List.replicate 80 '#')

/-- The title of a configuration and where it comes from. -/
def bannerLines (c : DnsmasqContext) : List String :=
  [bannerRule, "# dnsmasq configuration file generated by pdconf", "# Source: " ++ c.source,
    "# Section: " ++ c.section_, bannerRule, ""]

/-- The directives of the instance itself. -/
def directiveLines (c : DnsmasqContext) : List String :=
  ["dhcp-leasefile=" ++ c.leaseFile] ++
  flagDirective "dhcp-authoritative" c.authoritative ++
  ["cache-size=" ++ toString c.cacheSize] ++
  optionalDirective "dhcp-boot=" c.dhcpBoot ++
  ["dhcp-lease-max=" ++ toString c.leaseMax] ++
  optionalDirective "domain=" c.domain ++
  flagDirective "enable-tftp" c.enableTftp ++
  flagDirective "expand-hosts" c.expandHosts ++
  flagDirective "no-resolv" c.noResolv ++
  optionalDirective "tftp-root=" c.tftpRoot ++
  c.servers.map ("server=" ++ ·)

/-- The lines of a configuration. -/
def lines (c : DnsmasqContext) : List String :=
  c.bannerLines ++ c.directiveLines ++ ["", "except-interface=lo", "bind-interfaces"] ++
  c.interfaces.flatMap ServedInterface.lines ++
  [""] ++ c.domains.map DomainEntry.line ++
  [""] ++ c.hosts.map ("dhcp-host=" ++ ·)

end DnsmasqContext

namespace DnsmasqTemplate

/-! ### Single lines -/

section Lines

variable {scope : Scope} {name : String} (lead : String)

/-- A line shows its value after its lead. -/
theorem renders_line {value : Value} (h : scope.find? (top name) = some value) :
    renderAll (line lead name) scope = .ok (Text.broken [lead ++ value.shown]) := by
  have hv := Template.renderAll_singleton (Template.renderNode_shown h)
  have hl := Template.renderNode_text ("\n" ++ lead) scope
  rw [line, Template.renderAll_cons hl hv]
  simp [String.append_assoc]

/-- A line for an option is left out where the option is unset or empty. -/
theorem renders_optionalLine {value : Option String}
    (h : scope.find? (top name) = some (.ofText? value)) :
    renderNode (optionalLine lead name) scope =
      .ok (Text.broken (optionalDirective lead value)) := by
  have hb := renders_line lead h
  rw [optionalLine, Template.renderNode_cond (Template.Test.eval_holds h) fun _ => hb]
  cases value with
  | none => rfl
  | some s =>
    -- A text that is set may still be empty, and then it does not hold.
    by_cases hs : s = ""
    · simp [Value.ofText?, Value.holds, optionalDirective, hs]
    · simp [Value.ofText?, Value.holds, optionalDirective, hs]

/-- A line for a switch is left out where the switch is off. -/
theorem renders_flagLine (directive : String) {on : Bool}
    (h : scope.find? (top name) = some (.bool on)) :
    renderNode (flagLine name directive) scope =
      .ok (Text.broken (flagDirective directive on)) := by
  have hb := Template.renderAll_singleton (Template.renderNode_text ("\n" ++ directive) scope)
  rw [flagLine, Template.renderNode_cond (Template.Test.eval_holds h) fun _ => hb]
  cases on with
  | false => rfl
  | true => simp [Value.holds, flagDirective]

/-- A line for each item of a list. The item hides whatever bore its name before. -/
theorem renders_eachLine {subject : Variable} {items : List String}
    (h : scope.find? subject = some (.ofTexts items)) :
    renderNode (eachLine lead name subject) scope =
      .ok (Text.broken (items.map (lead ++ ·))) := by
  have hb : ∀ n i s, renderAll (line lead name) (scope.inLoop name n i (.text s)) =
      .ok (Text.broken [lead ++ s]) := by
    intro n i s
    have hs : (scope.inLoop name n i (.text s)).find? (top name) = some (.text s) :=
      Scope.find?_eq (by simp [Scope.inLoop, top])
    rw [renders_line lead hs, Value.shown_text]
  rw [eachLine, Template.renderNode_loop h hb, Text.join_map_broken, ← List.map_eq_flatMap]

end Lines

/-! ### The parts of the template -/

section Parts

variable (c : DnsmasqContext)

theorem find?_top (name : String) {value : Value} (h : c.scope.lookup name = some value) :
    c.scope.find? (top name) = some value :=
  Scope.find?_eq h

/-- The banner and the directive of the lease file, which open the text. -/
theorem renders_banner :
    renderAll banner c.scope =
      .ok (DnsmasqContext.bannerRule ++
        Text.broken (c.bannerLines.drop 1 ++ c.directiveLines.take 1)) := by
  have source := Template.renderNode_shown (find?_top c "source" rfl)
  have section_ := Template.renderNode_shown (find?_top c "section" rfl)
  have leaseFile := Template.renderNode_shown (find?_top c "lease_file" rfl)
  refine Eq.trans (Template.renderAll_cons (Template.renderNode_text _ _) <|
    Template.renderAll_cons source <| Template.renderAll_cons (Template.renderNode_text _ _) <|
    Template.renderAll_cons section_ <| Template.renderAll_cons (Template.renderNode_text _ _) <|
    Template.renderAll_singleton leaseFile) ?_
  rw [show rule = DnsmasqContext.bannerRule from rfl]
  -- The fixed parts of the template are cut at their line breaks, so that each line stands
  -- on its own.
  have title : "\n# dnsmasq configuration file generated by pdconf\n# Source: " =
      "\n" ++ "# dnsmasq configuration file generated by pdconf" ++ "\n" ++ "# Source: " := rfl
  have leaseLead : "\n\ndhcp-leasefile=" = "\n" ++ "\n" ++ "dhcp-leasefile=" := rfl
  have sectionLead : "\n# Section: " = "\n" ++ "# Section: " := rfl
  rw [title, sectionLead, leaseLead]
  simp only [DnsmasqContext.bannerLines, DnsmasqContext.directiveLines, List.drop_succ_cons,
    List.drop_zero, List.take_succ_cons, List.take_zero, List.cons_append, List.nil_append,
    Text.broken_cons, Text.broken_nil, Value.shown_text, String.append_assoc, String.append_empty]

/-- The directives of the instance itself, after the first. -/
theorem renders_directives :
    renderAll directives c.scope = .ok (Text.broken (c.directiveLines.drop 1)) := by
  have authoritative := renders_flagLine "dhcp-authoritative" (find?_top c "authoritative" rfl)
  have cacheSize := renders_line "cache-size=" (find?_top c "cache_size" rfl)
  have dhcpBoot := renders_optionalLine "dhcp-boot=" (find?_top c "dhcp_boot" rfl)
  have leaseMax := renders_line "dhcp-lease-max=" (find?_top c "lease_max" rfl)
  have domain := renders_optionalLine "domain=" (find?_top c "domain" rfl)
  have enableTftp := renders_flagLine "enable-tftp" (find?_top c "enable_tftp" rfl)
  have expandHosts := renders_flagLine "expand-hosts" (find?_top c "expand_hosts" rfl)
  have noResolv := renders_flagLine "no-resolv" (find?_top c "no_resolv" rfl)
  have tftpRoot := renders_optionalLine "tftp-root=" (find?_top c "tftp_root" rfl)
  have servers : renderNode (eachLine "server=" "server" (top "servers")) c.scope = _ :=
    renders_eachLine "server=" (find?_top c "servers" rfl)
  -- The parts are put together in the order of the template.
  refine Eq.trans (Template.renderAll_append_eq_ok (Template.renderAll_append_eq_ok
    (Template.renderAll_append_eq_ok (Template.renderAll_append_eq_ok
    (Template.renderAll_singleton authoritative) cacheSize) (Template.renderAll_singleton dhcpBoot))
    leaseMax) (Template.renderAll_cons domain <| Template.renderAll_cons enableTftp <|
    Template.renderAll_cons expandHosts <| Template.renderAll_cons noResolv <|
    Template.renderAll_cons tftpRoot <| Template.renderAll_singleton servers)) ?_
  simp [DnsmasqContext.directiveLines, String.append_assoc]

end Parts

section Interface

variable (scope : Scope) (n i : Nat) (served : ServedInterface)

theorem find?_ofInterface (field : String) {value : Value}
    (h : served.value.field? field = some value) :
    (scope.inLoop "iface" n i served.value).find? (ofInterface field) = some value :=
  Scope.find?_field field rfl h

/-- A field of the range of the interface at which the loop stands. -/
theorem renders_ofRange {r : DhcpRange} (hr : served.range = some r) (field : String)
    {text : String} (h : r.value.field? field = some (.text text)) :
    renderNode (ofRange field) (scope.inLoop "iface" n i served.value) = .ok text := by
  -- The interface is looked up, then its range, then the field of the range.
  have hl : (scope.inLoop "iface" n i served.value).lookup "iface" = some served.value := rfl
  have hv : served.value.field? "range" = some r.value := by
    change some ((served.range.map DhcpRange.value).getD .null) = some r.value
    rw [hr]
    rfl
  have hf : (scope.inLoop "iface" n i served.value).find? ⟨"iface", ["range", field]⟩ =
      some (.text text) := by
    refine (Scope.find?_eq hl).trans ?_
    rw [List.foldlM_cons, hv, Option.bind_eq_bind, Option.bind_some, List.foldlM_cons, h]
    rfl
  rw [ofRange, Template.renderNode_shown hf, Value.shown_text]

/-- The range of an interface, where it has one. -/
theorem renders_rangeLine :
    renderNode rangeLine (scope.inLoop "iface" n i served.value) =
      .ok (Text.broken (rangeDirective served.range)) := by
  have holds := Template.Test.eval_holds (find?_ofInterface scope n i served "range" rfl)
  cases hr : served.range with
  | none =>
    rw [hr] at holds
    -- An interface without a range shows it as null, which does not hold.
    exact Template.renderNode_cond_false holds
  | some r =>
    rw [hr] at holds
    have first := renders_ofRange scope n i served hr "first" rfl
    have last := renders_ofRange scope n i served hr "last" rfl
    have netmask := renders_ofRange scope n i served hr "netmask" rfl
    have leasetime := renders_ofRange scope n i served hr "leasetime" rfl
    refine (Template.renderNode_cond holds fun _ =>
      Template.renderAll_cons (Template.renderNode_text _ _) <| Template.renderAll_cons first <|
      Template.renderAll_cons (Template.renderNode_text _ _) <| Template.renderAll_cons last <|
      Template.renderAll_cons (Template.renderNode_text _ _) <| Template.renderAll_cons netmask <|
      Template.renderAll_cons (Template.renderNode_text _ _) <|
      Template.renderAll_singleton leasetime).trans ?_
    have lead : "\ndhcp-range=" = "\n" ++ "dhcp-range=" := rfl
    rw [lead]
    simp only [Option.map_some, Option.getD_some, DhcpRange.value, Value.holds, rangeDirective,
      List.isEmpty_cons, Bool.not_false, if_true, Text.broken_cons, Text.broken_nil,
      String.append_assoc, String.append_empty]

/-- An interface with relays is a proxy. -/
theorem renders_proxyLine :
    renderNode proxyLine (scope.inLoop "iface" n i served.value) =
      .ok (Text.broken (flagDirective "dhcp-proxy" (!served.relays.isEmpty))) := by
  -- The template asks whether the list of relays is longer than none.
  have longer := Template.Test.eval_longerThan (find?_ofInterface scope n i served "relays" rfl) 0
  have hb := Template.renderAll_singleton (Template.renderNode_text "\ndhcp-proxy"
    (scope.inLoop "iface" n i served.value))
  rw [proxyLine, Template.renderNode_cond longer fun _ => hb]
  cases served.relays with
  | nil => rfl
  | cons relay relays => simp [flagDirective]

/-- The block of an interface, wherever the loop over the interfaces stands. -/
theorem renders_interface :
    renderAll interfaceBlock (scope.inLoop "iface" n i served.value) =
      .ok (Text.broken served.lines) := by
  have name := Template.renderNode_shown (find?_ofInterface scope n i served "name" rfl)
  have ifname := Template.renderNode_shown (find?_ofInterface scope n i served "ifname" rfl)
  have range := renders_rangeLine scope n i served
  have options :
      renderNode (eachLine "dhcp-option=" "option" (ofInterface "options")) _ = _ :=
    renders_eachLine "dhcp-option=" (find?_ofInterface scope n i served "options" rfl)
  have relays :
      renderNode (eachLine "dhcp-relay=" "relay" (ofInterface "relays")) _ = _ :=
    renders_eachLine "dhcp-relay=" (find?_ofInterface scope n i served "relays" rfl)
  have proxy := renders_proxyLine scope n i served
  refine Eq.trans (Template.renderAll_cons (Template.renderNode_text _ _) <|
    Template.renderAll_cons name <| Template.renderAll_cons (Template.renderNode_text _ _) <|
    Template.renderAll_cons ifname <| Template.renderAll_cons (Template.renderNode_text _ _) <|
    Template.renderAll_cons name <| Template.renderAll_cons range <|
    Template.renderAll_cons options <| Template.renderAll_cons relays <|
    Template.renderAll_singleton proxy) ?_
  have interfaceLead : "\n\n# Options for section interface " =
    "\n" ++ "\n" ++ "# Options for section interface " := rfl
  have ifnameLead : "\ninterface=" = "\n" ++ "interface=" := rfl
  have poolLead : "\n\n# Options for section dhcp " =
    "\n" ++ "\n" ++ "# Options for section dhcp " := rfl
  rw [interfaceLead, ifnameLead, poolLead]
  simp only [ServedInterface.lines, Text.broken_append, Text.broken_cons, Text.broken_nil,
    Value.shown_text, String.append_assoc, String.append_empty]

end Interface

/-- The line of a name with a fixed address. -/
theorem renders_domain (scope : Scope) (n i : Nat) (d : DomainEntry) :
    renderAll addressLine (scope.inLoop "domain" n i d.value) = .ok (Text.broken [d.line]) := by
  have hl : (scope.inLoop "domain" n i d.value).lookup "domain" = some d.value := rfl
  have name := Template.renderNode_shown (Scope.find?_field "name" hl rfl)
  have ip := Template.renderNode_shown (Scope.find?_field "ip" hl rfl)
  refine Eq.trans (Template.renderAll_cons (Template.renderNode_text _ _) <|
    Template.renderAll_cons name <| Template.renderAll_cons (Template.renderNode_text _ _) <|
    Template.renderAll_singleton ip) ?_
  have lead : "\naddress=/" = "\n" ++ "address=/" := rfl
  rw [lead]
  simp only [DomainEntry.line, Text.broken_cons, Text.broken_nil, Value.shown_text,
    String.append_assoc, String.append_empty]

/-! ### The template as a whole -/

/-- The lines of a configuration as the parts of the template make them: the first line of all, then
those that have a break before them. -/
theorem lines_eq_parts (c : DnsmasqContext) :
    c.lines = DnsmasqContext.bannerRule ::
      (c.bannerLines.drop 1 ++ c.directiveLines.take 1 ++ c.directiveLines.drop 1 ++
        ["", "except-interface=lo", "bind-interfaces"] ++
        c.interfaces.flatMap ServedInterface.lines ++
        [""] ++ c.domains.map DomainEntry.line ++ [""] ++ c.hosts.map ("dhcp-host=" ++ ·)) := by
  have banner : c.bannerLines = DnsmasqContext.bannerRule :: c.bannerLines.drop 1 := rfl
  rw [List.append_assoc (c.bannerLines.drop 1), List.take_append_drop, DnsmasqContext.lines, banner]
  rfl

/-- The standard template renders to the lines of a configuration. -/
theorem render_standard (c : DnsmasqContext) :
    Template.render standard c.scope = .ok (Text.ofLines c.lines) := by
  have interfaces := Template.renderNode_loop (find?_top c "interfaces" rfl)
    (fun n i served => renders_interface c.scope n i served)
  have domains := Template.renderNode_loop (find?_top c "domains" rfl)
    (fun n i d => renders_domain c.scope n i d)
  have hosts : renderNode (eachLine "dhcp-host=" "host" (top "hosts")) c.scope = _ :=
    renders_eachLine "dhcp-host=" (find?_top c "hosts" rfl)
  refine Eq.trans (Template.renderAll_append_eq_ok
    (Template.renderAll_append_eq_ok (renders_banner c) (renders_directives c))
    (Template.renderAll_cons (Template.renderNode_text _ _) <|
      Template.renderAll_cons interfaces <|
      Template.renderAll_cons (Template.renderNode_text _ _) <|
      Template.renderAll_cons domains <| Template.renderAll_cons (Template.renderNode_text _ _) <|
      Template.renderAll_cons hosts <|
      Template.renderAll_singleton (Template.renderNode_text _ _))) ?_
  -- The break at the end of the template ends the last line, whichever that is.
  have fixed : "\n\nexcept-interface=lo\nbind-interfaces" =
      Text.broken ["", "except-interface=lo", "bind-interfaces"] := rfl
  have empty : ("\n" : String) = Text.broken [""] := rfl
  rw [lines_eq_parts, ← Text.append_broken_append, Text.join_map_broken, Text.join_map_broken,
    ← List.map_eq_flatMap, fixed]
  simp only [Text.broken_append, String.append_assoc, ← empty]

end DnsmasqTemplate

/-- The standard renderer yields the lines of a configuration. -/
theorem Renderer.render_standard (c : DnsmasqContext) (now : Timestamp) :
    Renderer.standard.render c now = .ok (Text.ofLines c.lines) := by
  rw [Renderer.standard, Renderer.render_ofTemplate, DnsmasqTemplate.render_standard]
  rfl

/-- **The configuration that the shipped template makes of a payload.** The text is a template, and
rendering it never fails: it yields the lines of the payload, each ended by a line break. -/
theorem render_source (c : DnsmasqContext) (now : Timestamp) :
    ((Renderer.ofText DnsmasqTemplate.source).bind fun renderer => renderer.render c now) =
      .ok (Text.ofLines c.lines) := by
  rw [Renderer.ofText_source, ← Renderer.render_standard c now]
  rfl

end RouterConf
