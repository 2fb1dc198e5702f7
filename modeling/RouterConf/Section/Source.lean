import RouterConf.Files.Access
import RouterConf.Section.Document
import RouterConf.Section.Index

/-!
# Configuration sources

Sections are loaded from a file or from a directory. A directory stands for the files directly
inside it whose extension is `yaml` or `yml`, in the order of their names. Every section carries the
path of its file as its source.
-/

namespace RouterConf

inductive LoadError where
  | io (path : Path) (cause : OsError)
  /-- The file is no document that lists sections. -/
  | parse (path : Path)
  | invalid (path : Path) (cause : ValidationError)
  | sourceNotFound (path : Path)
  deriving DecidableEq, Repr

def LoadError.message : LoadError → String
  | io path cause => "I/O error at " ++ path ++ ": " ++ cause.message
  | parse path => "failed to parse " ++ path
  | invalid path cause => "invalid section in " ++ path ++ ": " ++ cause.message
  | sourceNotFound path => "configuration source not found at " ++ path

namespace Source

/-- The sections that a text declares. The whole text is read before any section is validated, and
the first section that is not valid is the error. -/
def parse (source : Path) (text : String) : Except LoadError (List Section) :=
  match RawSection.listOfText text with
  | none => .error (.parse source)
  | some raws => (raws.mapM (Section.ofRaw source)).mapError (.invalid source)

def loadFile (t : FileTree) (p : Path) : Except LoadError (List Section) :=
  match t.readText p with
  | .error e => .error (.io p e)
  | .ok text => parse p text

def isConfigPath (p : Path) : Bool :=
  p.extension? = some "yaml" || p.extension? = some "yml"

/-- The configuration files among the names in a directory, in the order of the names. -/
def configFiles (t : FileTree) (directory : Path) (names : List String) : List Path :=
  ((names.mergeSort (· ≤ ·)).map (Path.join directory)).filter fun p =>
    t.isFile p && isConfigPath p

def loadDirectory (t : FileTree) (p : Path) : Except LoadError (List Section) :=
  match t.readDirectory p with
  | .error e => .error (.io p e)
  | .ok names => ((configFiles t p names).mapM (loadFile t)).map List.flatten

def loadPath (t : FileTree) (p : Path) : Except LoadError (List Section) :=
  if !t.pathExists p then .error (.sourceNotFound p)
  else if t.isDirectory p then loadDirectory t p
  else loadFile t p

def loadIndex (t : FileTree) (p : Path) : Except LoadError SectionIndex :=
  (loadPath t p).map SectionIndex.ofList

end Source

end RouterConf
