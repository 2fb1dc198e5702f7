import RouterConf.Dnsmasq.Renderer
import RouterConf.Record.Store
import RouterConf.Section.Index

/-!
# Why an instance cannot be compiled

The causes for which a section yields no actions, with their wording.
-/

namespace RouterConf

inductive CompileError where
  /-- An interface or pool does not resolve to exactly one section. -/
  | reference (cause : ReferenceError)
  | render (cause : RenderError)
  | address (interface : String) (cause : AddressError)
  | io (fault : FileFault)
  | malformedRecord
  | notDnsmasq (section_ : String)
  | notApplied (section_ : String)
  deriving DecidableEq, Repr

namespace CompileError

def message : CompileError → String
  | reference cause => "reference error: " ++ cause.message
  | render cause => "render error: " ++ cause.message
  | address interface cause => "interface '" ++ interface ++ "': " ++ cause.message
  | io fault => fault.message
  | malformedRecord => "state store JSON error"
  | notDnsmasq section_ => "section " ++ section_ ++ " is not a dnsmasq instance"
  | notApplied section_ => "section " ++ section_ ++ " has not been applied"

def causes : CompileError → List String
  | reference cause => [cause.message]
  | render cause => cause.message :: cause.causes
  | address _ cause => [cause.message]
  | io fault => [fault.cause.message]
  | malformedRecord => []
  | notDnsmasq _ => []
  | notApplied _ => []

/-- The error of a record that cannot be had. -/
def ofRecordError : RecordError → CompileError
  | .io fault => io fault
  | .malformed => malformedRecord

end CompileError

end RouterConf
