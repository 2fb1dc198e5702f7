import RouterConf.Record.Store

/-!
# Settings

Where generated files go and which program is started. The files of an instance are named for it and
lie in the write directory, except that an instance may name a lease file of its own.
-/

namespace RouterConf

structure Settings where
  writeDir : Path := "/tmp/paradrop-router"
  program : String := "dnsmasq"
  /-- A directory that may supply another template. -/
  templateDir : Option Path := none
  deriving DecidableEq, Repr, Inhabited

namespace Settings

def path (s : Settings) (name : String) : Path :=
  Path.join s.writeDir name

def recordDir (s : Settings) : Path :=
  Path.join s.writeDir "state"

def store (s : Settings) : RecordStore :=
  ⟨s.recordDir⟩

/-- The files of an instance; `leaseFile` is the one that it names itself, if any. -/
def instancePaths (s : Settings) (name : String) (leaseFile : Option Path) : InstancePaths :=
  { config := s.path ("dnsmasq-" ++ name ++ ".conf")
    lease := leaseFile.getD (s.path ("dnsmasq-" ++ name ++ ".leases"))
    pid := s.path ("dnsmasq-" ++ name ++ ".pid") }

end Settings

end RouterConf
