/-
# Where a configuration comes from

A configuration is read from a file in TOML; a file that does not exist stands for the
defaults.  The variable `SCAFFOLD_CONFIG` names the file, and other variables are laid over
what it says.
-/
import SessionTasks.Config.Environment
import SessionTasks.Toml.Document
namespace SessionTasks

/-- The variables of a process and their bytes. -/
abbrev Environment := KeyMap ByteArray

namespace Environment

/-- The text of a variable; one that does not hold text counts as unset. -/
def text? (env : Environment) (name : String) : Option String :=
  (env.get? name).bind String.fromUTF8?

/-- The variable that names the file of the configuration. -/
def configVariable : String := "SCAFFOLD_CONFIG"

/-- The path of the file of the configuration, if the variable names one. -/
def configPath (env : Environment) : Except ConfigFault (Option String) :=
  match env.get? configVariable with
  | none => .ok none
  | some bytes =>
    match String.fromUTF8? bytes with
    | none => .error (.pathNotText configVariable)
    | some path => .ok (Text.nonBlank? path)

end Environment

namespace Config

/-- In TOML a list may be too long for its table, and a name written as a member has an
empty value beside it. -/
def tomlDialect : Json.Dialect := ⟨true, fun v => v = .arr [] ∨ v = .obj []⟩

/-- The configuration in a text; `origin` names the text in a fault. -/
def ofToml (origin text : String) : Except ConfigFault Config :=
  match (Toml.parse? text).bind (ofJson? tomlDialect) with
  | some c => .ok c
  | none => .error (.unparsable origin)

/-- The configuration in a file. -/
def ofFile (files : FileTree) (path : String) : Except ConfigFault Config :=
  match files.readText path with
  | .ok text => ofToml path text
  | .error .missing => .ok {}
  | .error fault => .error (.unreadable path fault)

/-- The configuration, unless a setting must not be zero and is. -/
def checked (c : Config) : Except ConfigFault Config :=
  match c.fault? with
  | some fault => .error fault
  | none => .ok c

/-- The checked configuration in a file. -/
def load (files : FileTree) (path : String) : Except ConfigFault Config := do
  (← ofFile files path).checked

/-- The checked configuration that the variables of a process lead to. -/
def loadFromEnvironment (files : FileTree) (env : Environment) : Except ConfigFault Config := do
  let c ← match ← env.configPath with
    | some path => ofFile files path
    | none => pure {}
  match c.overlay env.text? with
  | (c, none) => c.checked
  | (_, some fault) => throw fault

end Config

end SessionTasks
