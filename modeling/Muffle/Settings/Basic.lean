/-
  Muffle.Settings.Basic

  The settings of the process, which come from its environment and from a file of settings. Names
  start with `HUSH_` and their case does not count; the environment goes before the file, and a
  later variable before an earlier one.
-/

import Muffle.FileTree
import Muffle.Settings.EnvFile
import Muffle.Text.Case

namespace Muffle

/-- The settings of the process. -/
structure Settings where
  appName : String := "hush"
  appEnv : String := "development"
  logLevel : String := "WARNING"
  configFile : String := ".hush/suppressions.yaml"
deriving DecidableEq, Repr

/-- A log level that there is not. -/
structure Settings.UnknownLogLevel where
  value : String
deriving DecidableEq, Repr

namespace Settings

/-- The setting that is refused. -/
def UnknownLogLevel.field (_ : UnknownLogLevel) : String := "log_level"

/-- Why a setting is refused. -/
def UnknownLogLevel.message (r : UnknownLogLevel) : String :=
  "Value error, Unknown log level: " ++ r.value

/-- Whether the settings are those of a development environment. -/
def isDevelopment (s : Settings) : Bool := Text.lower s.appEnv.toList = "development".toList

/-- Whether the settings are those of a production environment. -/
def isProduction (s : Settings) : Bool := Text.lower s.appEnv.toList = "production".toList

/-- The log levels. -/
def logLevels : List String := ["DEBUG", "INFO", "WARNING", "ERROR", "CRITICAL"]

/-- The log level that a text names in any case. -/
def logLevelOf (text : String) : Except UnknownLogLevel String :=
  let level := String.ofList (Text.upper text.toList)
  if logLevels.contains level then .ok level else .error ⟨text⟩

/-- The value of the last variable of this name, whatever its case. -/
def variableNamed (name : String) (vars : List EnvFile.Binding) : Option String :=
  (vars.reverse.find? fun v => Text.lower v.1 = name.toList).bind fun v => v.2.map String.ofList

/-- The value of a setting: from the environment, else from the file. -/
def valueOf? (environment file : List EnvFile.Binding) (name : String) : Option String :=
  (variableNamed name environment).orElse fun _ => variableNamed name file

/-- The settings that an environment and the text of a file give. -/
def ofTexts (environment : List (String × String)) (file : List Char) :
    Except UnknownLogLevel Settings := do
  let environment := environment.map fun v => (v.1.toList, v.2.toList)
  let bindings := environment.map fun v => (v.1, some v.2)
  let value? := valueOf? bindings (EnvFile.read environment.reverse file)
  let default : Settings := {}
  let logLevel ← match value? "hush_log_level" with
    | some text => logLevelOf text
    | none => .ok default.logLevel
  return {
    appName := (value? "hush_app_name").getD default.appName
    appEnv := (value? "hush_app_env").getD default.appEnv
    logLevel := logLevel
    configFile := (value? "hush_config_file").getD default.configFile }

/-- The text of a file of settings; one that is missing is empty. -/
def fileText (tree : FileTree) (file : Option Path) : Except Fault (List Char) :=
  match file with
  | none => .ok []
  | some file =>
    match tree.get? file with
    | some (.file _) => tree.readText file
    | _ => .ok []

end Settings

end Muffle
