import TypedTables.Statement.Options
import TypedTables.Text.Casing
import TypedTables.Text.Classes

/-!
# Settings

The defaults of statements and of log output, with texts from outside that override them. The
settings in force are read when they are first asked for, and kept until they are reset; a text
that cannot be read is a fault, and then nothing is kept.
-/

namespace TypedTables

/-- The texts from outside; a text that was not given overrides nothing. -/
structure SettingTexts where
  existing : Option String
  fields : Option String
  missing : Option String
  defaults : Option String
  logLevel : Option String
  logFormat : Option String
  deriving DecidableEq, Repr

namespace SettingTexts

def nothing : SettingTexts := ⟨none, none, none, none, none, none⟩

/-- The words that mean yes, blanks around them and their case apart; all else means no. -/
def isYes (text : String) : Bool :=
  ["1", "true", "yes", "on"].contains
    (String.ofList (Text.lowerCase (Text.trimBlanks text.toList)))

def truth (text : Option String) (otherwise : Bool) : Bool := (text.map isYes).getD otherwise

end SettingTexts

structure LoggingDefaults where
  level : String
  format : String
  deriving DecidableEq, Repr

def LoggingDefaults.builtIn : LoggingDefaults := ⟨"INFO", "human"⟩

structure Settings where
  generator : GeneratorDefaults
  logging : LoggingDefaults
  deriving DecidableEq, Repr

namespace Settings

def builtIn : Settings := ⟨.builtIn, .builtIn⟩

def policy {α : Type} (text : Option String) (otherwise : α) (ofName : String → Except Fault α) :
    Except Fault α :=
  match text with
  | some name => ofName name
  | none => .ok otherwise

def generatorOf (texts : SettingTexts) : Except Fault GeneratorDefaults := do
  let standard := GeneratorDefaults.builtIn
  let existing ← policy texts.existing standard.existing ExistingPolicy.ofName
  let missing ← policy texts.missing standard.missing MissingPolicy.ofName
  return { existing, missing
           fields := SettingTexts.truth texts.fields standard.fields
           defaults := SettingTexts.truth texts.defaults standard.defaults }

/-- The defaults of log output: the level in capitals, the format in small letters. -/
def loggingOf (texts : SettingTexts) : LoggingDefaults :=
  let standard := LoggingDefaults.builtIn
  { level := String.ofList (Text.upperCase (texts.logLevel.getD standard.level).toList)
    format := String.ofList (Text.lowerCase (texts.logFormat.getD standard.format).toList) }

def ofTexts (texts : SettingTexts) : Except Fault Settings :=
  (generatorOf texts).map fun generator => ⟨generator, loggingOf texts⟩

end Settings

/-- The settings in force, once they were asked for. -/
structure SettingsStore where
  kept : Option Settings
  deriving DecidableEq, Repr

namespace SettingsStore

def empty : SettingsStore := ⟨none⟩

/-- The settings in force, and the store that keeps them. -/
def get (texts : SettingTexts) (store : SettingsStore) : Except Fault (Settings × SettingsStore) :=
  match store.kept with
  | some settings => .ok (settings, store)
  | none => (Settings.ofTexts texts).map fun settings => (settings, ⟨some settings⟩)

def reset (_ : SettingsStore) : SettingsStore := empty

end SettingsStore
end TypedTables
