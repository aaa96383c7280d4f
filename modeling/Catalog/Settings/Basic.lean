import Catalog.Json.Data
import Catalog.Store.Basic

/-!
# Settings

What a user may set: where indexes are kept, how much a writer may use, which analyzer is used, how
much a search returns and what is logged. Each setting has a default.

## Main definitions

* `Settings`, `Settings.default`: the settings
* `Surroundings`: the home directory and the variables that a program is started with
* `Settings.ofJson?`: settings from a JSON text
* `Settings.validate`: the checks that settings have to pass
* `StoreConfig.ofSettings`: the configuration of stores
-/

namespace Catalog

/-- The name under which directories are kept. -/
def applicationName : String := "lexmap"

/-- The settings. -/
structure Settings where
  indexPath : String
  writerMemoryMb : UInt64
  analyzer : String
  maxResults : UInt64
  pageSize : UInt64
  logLevel : String
  deriving DecidableEq, Repr

/-- Whether a path starts at the root of all paths. -/
def isAbsolutePath (path : String) : Bool :=
  path.startsWith "/"

/-- A path below another; an absolute one stands for itself. -/
def joinPath (base path : String) : String :=
  if isAbsolutePath path then path
  else if base.isEmpty || base.endsWith "/" then base ++ path
  else base ++ "/" ++ path

/-- What a program is started with: the home directory and the variables of its environment. -/
structure Surroundings where
  home : String
  environment : List (String × String)

namespace Surroundings

/-- A directory of the user: the one that a variable names, if its path is absolute, or else one
below the home directory. -/
def directory (x : Surroundings) (name path : String) : String :=
  let named := (x.environment.lookup name).filter isAbsolutePath
  joinPath (named.getD (joinPath x.home path)) applicationName

/-- Where data is kept. -/
def dataDirectory (x : Surroundings) : String :=
  x.directory "XDG_DATA_HOME" ".local/share"

/-- Where configuration is kept. -/
def configDirectory (x : Surroundings) : String :=
  x.directory "XDG_CONFIG_HOME" ".config"

end Surroundings

namespace Settings

/-- The settings of a user who sets nothing. -/
def default (x : Surroundings) : Settings where
  indexPath := joinPath x.dataDirectory "indexes"
  writerMemoryMb := 50
  analyzer := "greek"
  maxResults := 500
  pageSize := 20
  logLevel := "info"

/-- A setting of a JSON value, if there is one; nothing at all if it is of another type. -/
def element? {α : Type} (read : Json → Option α) (v : Option Json) (fallback : α) : Option α :=
  match v with
  | none => some fallback
  | some v => read v

/-- The number that a JSON value denotes. -/
def number? (v : Json) : Option UInt64 :=
  (v.toInt? 0 (2 ^ (64 : Nat) - 1)).map fun n => n.toNat.toUInt64

/-- Settings from values in the order of the settings; absent ones keep their defaults. -/
def ofValues? (d : Settings) (indexPath writerMemoryMb analyzer maxResults pageSize logLevel :
    Option Json) : Option Settings := do
  return {
    indexPath := ← element? Json.toText? indexPath d.indexPath
    writerMemoryMb := ← element? number? writerMemoryMb d.writerMemoryMb
    analyzer := ← element? Json.toText? analyzer d.analyzer
    maxResults := ← element? number? maxResults d.maxResults
    pageSize := ← element? number? pageSize d.pageSize
    logLevel := ← element? Json.toText? logLevel d.logLevel }

/-- Settings from a JSON text: an object, or a list in the order of the settings. What is absent
keeps its default and what is unknown is passed over; a setting that is there twice is none. -/
def ofJson? (d : Settings) (text : String) : Option Settings :=
  match Json.parse? text with
  | some (.object members) => do
    ofValues? d (← Json.member? members "index_path") (← Json.member? members "writer_memory_mb")
      (← Json.member? members "analyzer") (← Json.member? members "max_results")
      (← Json.member? members "page_size") (← Json.member? members "log_level")
  | some (.array items) =>
    if 6 < items.length then none
    else ofValues? d items[0]? items[1]? items[2]? items[3]? items[4]? items[5]?
  | _ => none

end Settings

/-- The least memory of a writer in megabytes. -/
def leastWriterMemoryMb : UInt64 := 15

/-- Why there are no settings. -/
inductive SettingsError where
  | writerMemory (megabytes : UInt64)
  | maxResults
  | pageSize
  /-- A file that is not there or cannot be read. -/
  | unreadable
  /-- A setting whose value is of another type. -/
  | invalidValue (key : String)
  deriving DecidableEq, Repr

/-- The text of an error, where it has one of its own. -/
def SettingsError.message? : SettingsError → Option String
  | .writerMemory n => some ("Configuration error: writer_memory_mb must be >= " ++
      toString leastWriterMemoryMb.toNat ++ ", got " ++ toString n.toNat)
  | .maxResults => some "Configuration error: max_results must be > 0"
  | .pageSize => some "Configuration error: page_size must be > 0"
  | .unreadable | .invalidValue _ => none

namespace Settings

/-- The checks that settings have to pass, in order. -/
def validate (s : Settings) : Except SettingsError Unit :=
  if s.writerMemoryMb < leastWriterMemoryMb then .error (.writerMemory s.writerMemoryMb)
  else if s.maxResults = 0 then .error .maxResults
  else if s.pageSize = 0 then .error .pageSize
  else .ok ()

/-- The path of the indexes, where a tilde in front stands for the home directory. -/
def expandedIndexPath (s : Settings) (x : Surroundings) : String :=
  if s.indexPath.startsWith "~/" then joinPath x.home (String.ofList (s.indexPath.toList.drop 2))
  else s.indexPath

end Settings

/-- The configuration of stores that settings ask for, with the stemmers that are at hand. -/
def StoreConfig.ofSettings (s : Settings) (x : Surroundings)
    (stemmer : Language → Stemmer := Language.stemmer) : Except AnalysisError StoreConfig :=
  (Analyzer.ofName s.analyzer stemmer).map fun a => {
    root := s.expandedIndexPath x
    writerMemoryMb := s.writerMemoryMb.toNat
    analyzer := a
    maxResults := s.maxResults.toNat
    pageSize := s.pageSize.toNat }

end Catalog
