import RouterConf.Dnsmasq.Context
import RouterConf.Files.Access
import RouterConf.Template.Reader
import RouterConf.Text.Lines
import RouterConf.Time.Timestamp

/-!
# Rendering a daemon configuration

The configuration of an instance is rendered from a standard template, or from one that a template
directory supplies in its place. What a template may say is left to the engine that renders it: a
`Renderer` is any function from the payload, and from the time at which it is asked, to a text or a
fault. What rests on a text that does not change from one asking to the next says so: it takes
`Renderer.Steady`. A template that shows the time or something drawn by chance is not steady.

The standard template is given twice: as the text that is shipped, and as the parts that this text
is read as. The reader takes the language that this text is written in: text, variables with dotted
fields, conditions on a variable or on its length, loops over a variable, comments, and the removal
of white space around tags. It is an instance, and not the whole of what an engine takes: templates
with an `else`, with filters, literals, assignments or functions are renderers, but are not read
here.

Main statements: `DnsmasqTemplate.ofText_source`, `Renderer.steady_ofTemplate`.
-/

namespace RouterConf

open Template (Node Variable)

namespace DnsmasqTemplate

def fileName : String :=
  "dnsmasq.conf.tera"

/-- The lines of the template for the directives of the instance itself. -/
def instanceSource : List String :=
  ["################################################################################",
    "# dnsmasq configuration file generated by pdconf", "# Source: \x7b\x7b source \x7d\x7d",
    "# Section: \x7b\x7b section \x7d\x7d",
    "################################################################################", "",
    "dhcp-leasefile=\x7b\x7b lease_file \x7d\x7d", "\x7b%- if authoritative %\x7d",
    "dhcp-authoritative", "\x7b%- endif %\x7d", "cache-size=\x7b\x7b cache_size \x7d\x7d",
    "\x7b%- if dhcp_boot %\x7d", "dhcp-boot=\x7b\x7b dhcp_boot \x7d\x7d", "\x7b%- endif %\x7d",
    "dhcp-lease-max=\x7b\x7b lease_max \x7d\x7d", "\x7b%- if domain %\x7d",
    "domain=\x7b\x7b domain \x7d\x7d", "\x7b%- endif %\x7d", "\x7b%- if enable_tftp %\x7d",
    "enable-tftp", "\x7b%- endif %\x7d", "\x7b%- if expand_hosts %\x7d", "expand-hosts",
    "\x7b%- endif %\x7d", "\x7b%- if no_resolv %\x7d", "no-resolv", "\x7b%- endif %\x7d",
    "\x7b%- if tftp_root %\x7d", "tftp-root=\x7b\x7b tftp_root \x7d\x7d", "\x7b%- endif %\x7d",
    "\x7b%- for server in servers %\x7d", "server=\x7b\x7b server \x7d\x7d", "\x7b%- endfor %\x7d",
    "", "except-interface=lo", "bind-interfaces"]

/-- The lines of the template for the directives of each interface. -/
def interfaceSource : List String :=
  ["\x7b%- for iface in interfaces %\x7d", "",
    "# Options for section interface \x7b\x7b iface.name \x7d\x7d",
    "interface=\x7b\x7b iface.ifname \x7d\x7d", "",
    "# Options for section dhcp \x7b\x7b iface.name \x7d\x7d", "\x7b%- if iface.range %\x7d",
    "dhcp-range=\x7b\x7b iface.range.first \x7d\x7d,\x7b\x7b iface.range.last \x7d\x7d,\x7b\x7b iface.range.netmask \x7d\x7d,\x7b\x7b iface.range.leasetime \x7d\x7d",
    "\x7b%- endif %\x7d", "\x7b%- for option in iface.options %\x7d",
    "dhcp-option=\x7b\x7b option \x7d\x7d", "\x7b%- endfor %\x7d",
    "\x7b%- for relay in iface.relays %\x7d", "dhcp-relay=\x7b\x7b relay \x7d\x7d",
    "\x7b%- endfor %\x7d", "\x7b%- if iface.relays | length > 0 %\x7d", "dhcp-proxy",
    "\x7b%- endif %\x7d", "\x7b%- endfor %\x7d"]

/-- The lines of the template for names and static hosts. -/
def namesSource : List String :=
  ["\x7b% for domain in domains %\x7d",
    "address=/\x7b\x7b domain.name \x7d\x7d/\x7b\x7b domain.ip \x7d\x7d", "\x7b%- endfor %\x7d",
    "\x7b% for host in hosts %\x7d", "dhcp-host=\x7b\x7b host \x7d\x7d", "\x7b%- endfor %\x7d"]

/-- The text of the template that is used unless another is supplied. -/
def source : String :=
  Text.ofLines (instanceSource ++ interfaceSource ++ namesSource)

def top (name : String) : Variable :=
  { name }

/-- A field of the interface that is being rendered. -/
def ofInterface (field : String) : Variable :=
  { name := "iface", fields := [field] }

/-- A field of the range of the interface that is being rendered. -/
def ofRange (field : String) : Node :=
  .shown { name := "iface", fields := ["range", field] }

/-- A line with the value of `name` after `lead`. -/
def line (lead name : String) : List Node :=
  [.text ("\n" ++ lead), .shown (top name)]

/-- A line with the value of `name`, if the value holds. -/
def optionalLine (lead name : String) : Node :=
  .cond (.holds (top name)) (line lead name)

/-- A fixed line, if the value of `name` holds. -/
def flagLine (name text : String) : Node :=
  .cond (.holds (top name)) [.text ("\n" ++ text)]

def eachLine (lead name : String) (subject : Variable) : Node :=
  .loop name subject (line lead name)

/-- The rule above and below the title. -/
def rule : String :=
  String.ofList (List.replicate 80 '#')

/-- The title and where the configuration comes from, up to the first directive. -/
def banner : List Node :=
  [.text (rule ++ "\n# dnsmasq configuration file generated by pdconf\n# Source: "),
    .shown (top "source"), .text "\n# Section: ", .shown (top "section"),
    .text ("\n" ++ rule ++ "\n\ndhcp-leasefile="), .shown (top "lease_file")]

/-- The directives of the instance itself, after that of its lease file. -/
def directives : List Node :=
  [flagLine "authoritative" "dhcp-authoritative"] ++
  line "cache-size=" "cache_size" ++
  [optionalLine "dhcp-boot=" "dhcp_boot"] ++
  line "dhcp-lease-max=" "lease_max" ++
  [optionalLine "domain=" "domain", flagLine "enable_tftp" "enable-tftp",
    flagLine "expand_hosts" "expand-hosts", flagLine "no_resolv" "no-resolv",
    optionalLine "tftp-root=" "tftp_root", eachLine "server=" "server" (top "servers")]

def rangeLine : Node :=
  .cond (.holds (ofInterface "range"))
    [.text "\ndhcp-range=", ofRange "first", .text ",", ofRange "last", .text ",",
      ofRange "netmask", .text ",", ofRange "leasetime"]

/-- The line that makes an interface a proxy, if it has relays. -/
def proxyLine : Node :=
  .cond (.longerThan (ofInterface "relays") 0) [.text "\ndhcp-proxy"]

def interfaceBlock : List Node :=
  [.text "\n\n# Options for section interface ", .shown (ofInterface "name"),
    .text "\ninterface=", .shown (ofInterface "ifname"),
    .text "\n\n# Options for section dhcp ", .shown (ofInterface "name"),
    rangeLine,
    eachLine "dhcp-option=" "option" (ofInterface "options"),
    eachLine "dhcp-relay=" "relay" (ofInterface "relays"),
    proxyLine]

def addressLine : List Node :=
  [.text "\naddress=/", .shown { name := "domain", fields := ["name"] }, .text "/",
    .shown { name := "domain", fields := ["ip"] }]

/-- The parts of the template that is used unless another is supplied. -/
def standard : Template :=
  banner ++ directives ++
  [.text "\n\nexcept-interface=lo\nbind-interfaces",
    .loop "iface" (top "interfaces") interfaceBlock,
    .text "\n",
    .loop "domain" (top "domains") addressLine,
    .text "\n",
    eachLine "dhcp-host=" "host" (top "hosts"),
    .text "\n"]

theorem map_toList_cons {line : String} {cs : List Char} {lines : List String}
    {css : List (List Char)} (h : line.toList = cs) (hs : lines.map String.toList = css) :
    (line :: lines).map String.toList = cs :: css := by
  rw [List.map_cons, h, hs]

set_option maxRecDepth 20000 in
/-- The text is read as the parts, white space removed where its tags ask for it. -/
theorem ofText_source : Template.ofText source = .ok standard := by
  apply Template.ofText_eq_ok
  · apply Text.toList_ofLines
    unfold instanceSource interfaceSource namesSource
    simp only [List.cons_append, List.nil_append]
    repeat apply map_toList_cons String.toList_ofList
    exact List.map_nil
  · decide +kernel

end DnsmasqTemplate

/-- What the engine says of a template that it cannot use, outermost first. -/
structure TemplateFault where
  message : String
  causes : List String := []
  deriving DecidableEq, Repr, Inhabited

/-- How the engine names what is wrong with a template for the daemon. -/
def Template.Error.fault : Template.Error → TemplateFault
  | .syntaxError => { message := "Failed to parse '" ++ DnsmasqTemplate.fileName ++ "'" }
  | .evaluation => { message := "Failed to render '" ++ DnsmasqTemplate.fileName ++ "'" }

inductive RenderError where
  | template (fault : TemplateFault)
  | io (path : Path) (cause : OsError)
  deriving DecidableEq, Repr

def RenderError.message : RenderError → String
  | template fault => "template engine error: " ++ fault.message
  | io path cause => "template io error at " ++ path ++ ": " ++ cause.message

def RenderError.causes : RenderError → List String
  | template fault => fault.message :: fault.causes
  | io _ cause => [cause.message]

/-- Makes the text of a payload, at the time at which it is asked. Chance counts as time: no two
askings are at one time. -/
structure Renderer where
  textAt : Timestamp → DnsmasqContext → Except RenderError String

namespace Renderer

/-- The text of a payload. A time has to be given only where the text can depend on it. -/
def render (r : Renderer) (c : DnsmasqContext) (now : Timestamp := .epoch) :
    Except RenderError String :=
  r.textAt now c

/-- The text does not depend on when it is asked for. -/
def Steady (r : Renderer) : Prop :=
  ∀ (now now' : Timestamp) (c : DnsmasqContext), r.render c now = r.render c now'

/-- Fills in a template that has been read. -/
def ofTemplate (t : Template) : Renderer where
  textAt _ c := (Template.render t c.scope).mapError fun e => .template e.fault

@[simp] theorem render_ofTemplate (t : Template) (c : DnsmasqContext) (now : Timestamp) :
    (ofTemplate t).render c now = (t.render c.scope).mapError fun e => .template e.fault := rfl

/-- A template that has been read shows nothing but the payload. -/
theorem steady_ofTemplate (t : Template) : (ofTemplate t).Steady :=
  fun _ _ _ => rfl

def standard : Renderer :=
  ofTemplate DnsmasqTemplate.standard

theorem steady_standard : standard.Steady :=
  steady_ofTemplate _

def ofText (text : String) : Except RenderError Renderer :=
  match Template.ofText text with
  | .error e => .error (.template e.fault)
  | .ok template => .ok (ofTemplate template)

theorem ofText_of_template {text : String} {template : Template}
    (h : Template.ofText text = .ok template) : ofText text = .ok (ofTemplate template) := by
  simp [ofText, h]

/-- The shipped text is read as the standard template, white space removed where its tags ask for
it. -/
theorem ofText_source : ofText DnsmasqTemplate.source = .ok standard :=
  ofText_of_template DnsmasqTemplate.ofText_source

/-- Renders from the template that a directory supplies, or from the standard one if the directory
has no such file. -/
def ofDirectory (t : FileTree) (directory : Path) : Except RenderError Renderer :=
  let path := Path.join directory DnsmasqTemplate.fileName
  if t.isFile path then
    match t.readText path with
    | .error e => .error (.io path e)
    | .ok text => ofText text
  else .ok standard

end Renderer

end RouterConf
