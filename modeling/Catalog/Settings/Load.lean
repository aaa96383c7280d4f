import Catalog.Settings.Layer

/-!
# Loading settings

The layers of settings, from the lowest: defaults, the file in the configuration directory, a file
that the user names, and variables. A file may be named without its extension: if there is none of
the very name, the extensions of all formats are tried one after the other.

Of six formats JSON and TOML are read here. In which order the formats are tried, and what the
others make of a text, is a matter of the reader that is at hand.

## Main definitions

* `FileFormat`: the formats of files with settings
* `FileReader`: how files are looked for and read
* `FileReader.find?`: the file that a name means
* `Settings.loadFrom`, `Settings.load`: the settings that a program works with
-/

namespace Catalog

/-- The format of a file with settings. -/
inductive FileFormat where
  | toml
  | json
  | yaml
  | ini
  | ron
  | json5
  deriving DecidableEq, Repr

namespace FileFormat

/-- All formats. -/
def all : List FileFormat := [.toml, .json, .yaml, .ini, .ron, .json5]

/-- The extensions of the files of a format. -/
def extensions : FileFormat → List String
  | .toml => ["toml"]
  | .json => ["json"]
  | .yaml => ["yaml", "yml"]
  | .ini => ["ini"]
  | .ron => ["ron"]
  | .json5 => ["json5"]

end FileFormat

/-- The extension of the last name of a path: what follows its last point, unless nothing comes
before that. -/
def extension? (path : String) : Option String :=
  let name := path.toList.reverse.takeWhile (· != '/')
  let ending := name.takeWhile (· != '.')
  if ending.length + 1 < name.length then some (String.ofList ending.reverse) else none

/-- The format that the path of a file tells. -/
def FileFormat.ofPath? (path : String) : Option FileFormat :=
  (extension? path).bind fun e => all.find? fun f => f.extensions.contains e

/-- The text without a mark of its byte order. -/
def withoutMark (text : String) : String :=
  match text.toList with
  | '\uFEFF' :: r => String.ofList r
  | _ => text

/-- A file: its path, and its text if it can be read. -/
structure SettingsFile where
  path : String
  text : Option String

/-- The file at a path. -/
def fileAt? (files : List SettingsFile) (path : String) : Option SettingsFile :=
  files.find? fun f => f.path == path

/-- How files with settings are looked for and read. -/
structure FileReader where
  /-- All formats, in the order in which their extensions are tried. -/
  formats : List FileFormat
  mem_formats : ∀ f, f ∈ formats
  /-- The layer of a text of a format; none if the text is not of that format. -/
  layer? : FileFormat → String → Option SettingLayer

namespace FileReader

/-- A reader of JSON and TOML, to which no text is of any other format. -/
def plain : FileReader where
  formats := FileFormat.all
  mem_formats f := by cases f <;> decide
  layer?
    | .toml => SettingLayer.ofToml?
    | .json => SettingLayer.ofJson?
    | .yaml | .ini | .ron | .json5 => fun _ => none

variable (R : FileReader) (files : List SettingsFile)

/-- The paths with an extension that a name may stand for, with the formats that they tell. -/
def extended (name : String) : List (FileFormat × String) :=
  R.formats.flatMap fun f => f.extensions.map fun e => (f, name ++ "." ++ e)

/-- The file that a name means, with its format: the file of that very name, if there is one and it
tells its format, or else the first of those whose names have an extension more. -/
def find? (name : String) : Option (FileFormat × SettingsFile) :=
  match fileAt? files name with
  | some file => (FileFormat.ofPath? name).map fun f => (f, file)
  | none =>
    (R.extended name).findSome? fun (f, path) => (fileAt? files path).map fun file => (f, file)

/-- The layer of the file that a name means. There is none if the name means no file or the file
cannot be read, but a text that is not of the format of its file is an error. -/
def read (name : String) : Except SettingsError (Option SettingLayer) :=
  match R.find? files name with
  | some (f, ⟨_, some text⟩) =>
    match R.layer? f (withoutMark text) with
    | some l => .ok (some l)
    | none => .error .unreadable
  | _ => .ok none

end FileReader

/-- The name of the file with settings in the configuration directory. -/
def Surroundings.settingsName (x : Surroundings) : String :=
  joinPath x.configDirectory "config"

/-- The layer of the file in the configuration directory, which need not be there. -/
def standardLayer (R : FileReader) (x : Surroundings) (files : List SettingsFile) :
    Except SettingsError SettingLayer :=
  (R.read files x.settingsName).map fun l => l.getD []

/-- The layer of the file that the user names, which has to be there. -/
def namedLayer (R : FileReader) (files : List SettingsFile) (named : Option String) :
    Except SettingsError SettingLayer :=
  match named with
  | none => .ok []
  | some name => do
    match ← R.read files name with
    | some l => .ok l
    | none => .error .unreadable

namespace Settings

/-- The settings that a program works with, given the files that there are and the name that the
user gives for one. -/
def loadFrom (R : FileReader) (x : Surroundings) (files : List SettingsFile)
    (named : Option String) : Except SettingsError Settings := do
  let low ← standardLayer R x files
  let high ← namedLayer R files named
  let s ← Settings.ofLayers (.default x) [.ofVariables x.environment, high, low]
  s.validate
  return s

/-- The settings where there are at most two files, and only JSON and TOML are read. A named file
without a text is not there. -/
def load (x : Surroundings) (standard named : Option SettingsFile) :
    Except SettingsError Settings :=
  let files := (standard.toList ++ named.toList).filter fun f => f.text.isSome
  loadFrom .plain x files (named.map SettingsFile.path)

end Settings

end Catalog
