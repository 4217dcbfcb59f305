import Connexive.Folder
import Connexive.Settings.Validate
import Connexive.Text.Lines
import Connexive.Yaml.Document

namespace Connexive

/-!
Settings from a file. The file is the one that is named, or else the first of the usual ones that
is there. Where there is none, or its text is no document, the settings are the default ones.
-/

inductive LoadFault
  | settings (error : SettingsError)
  | file (fault : FileFault)
  | value (reason : Yaml.NoSuchValue)

/-- The settings, and what the search for them reports to the log. -/
structure LoadedSettings where
  result : Except LoadFault Settings
  log : List LogRecord

namespace Settings

/-- The usual files, the preferred one first. -/
def usualFiles : List String :=
  ["finitelogic.yaml", "finitelogic.yml", "config.json"]

def loadRecord (level : LogLevel) (message : String) : LogRecord :=
  ⟨level, some "config", message⟩

def noFileRecord : LogRecord :=
  loadRecord .debug "No config file found, using defaults"

/-- The settings of a document. What counts as false holds none, whatever its kind. -/
def ofDocument (source : String) (value : Value) : Except SettingsError Settings :=
  if value.truthy then
    match value with
    | .object _ => validate source value
    | _ => .error (.notAMapping source)
  else .ok default

/-- What reads the document in a text. -/
abbrev DocumentReader := String → Except Yaml.Fault Value

/-- The settings of the text of a file. -/
def ofText (read : DocumentReader) (source text : String) : LoadedSettings :=
  match read (String.ofList (Text.normaliseBreaks text.toList)) with
  | .ok value => ⟨(ofDocument source value).mapError .settings, []⟩
  | .error .malformed =>
    ⟨.ok default, [loadRecord .warning ("Could not parse " ++ source ++ ", using defaults")]⟩
  | .error (.noSuchValue reason) => ⟨.error (.value reason), []⟩

/-- The settings of the file at a normal path, the default ones with `absent` in the log where
nothing is. -/
def ofPath (read : DocumentReader) (folder : Folder) (path : String) (absent : List LogRecord) :
    LoadedSettings :=
  match folder.entry path with
  | .file text => ofText read path text
  | .folder => ⟨.error (.file (.isFolder path)), []⟩
  | .nameTooLong => ⟨.error (.file (.nameTooLong path)), []⟩
  | .missing | .belowFile => ⟨.ok default, absent⟩

/-- The settings of the file that is named, or of the first usual one. -/
def loadWith (read : DocumentReader) (folder : Folder) : Option String → LoadedSettings
  | some named =>
    let path := Path.normalise named
    ofPath read folder path
      [loadRecord .warning ("Config file " ++ path ++ " not found, using defaults"), noFileRecord]
  | none =>
    match usualFiles.find? folder.holds with
    | some path => ofPath read folder path [noFileRecord]
    | none => ⟨.ok default, [noFileRecord]⟩

def load (folder : Folder) (named : Option String) : LoadedSettings :=
  loadWith Yaml.load folder named

end Settings

end Connexive
