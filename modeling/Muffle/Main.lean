/-
  Muffle.Main

  The program. It reads the files that its arguments name, runs the command line on them, and
  writes what is left behind: output, notices above the log level, and an exit code.
-/

import Muffle.Command.Run
import Muffle.Console.Print
import Muffle.Json.Reader
import Muffle.Log
import Muffle.Pattern.Standard
import Muffle.Settings.Basic
import Muffle.Yaml.Standard

namespace Muffle.Main

/-- The texts in an argument that may be paths: the whole, the value after an equals sign, and the
    rest of a short option. -/
def pathTexts (arg : String) : List String :=
  let cs := arg.toList
  [arg, String.ofList ((cs.dropWhile (· != '=')).drop 1), String.ofList (cs.drop 2)]

/-- Whether there is a directory at a path. -/
def isDirectory (path : String) : IO Bool := do
  try
    let _ ← IO.FS.Handle.mk (path ++ "/.") .read
    return true
  catch _ => return false

/-- The bytes of the file at a path, if there is one. -/
def readBytes (path : String) : IO (Option (List UInt8)) := do
  try
    return some (← IO.FS.readBinFile path).toList
  catch _ => return none

/-- A tree with a directory. -/
def withDirectory (tree : FileTree) (p : Path) : FileTree :=
  match tree.ensurePath p with
  | .ok tree => tree
  | .error _ => tree

/-- A tree with a file and the directories on the way to it. -/
def withFile (tree : FileTree) (p : Path) (bytes : List UInt8) : FileTree :=
  match (withDirectory tree p.parent).write p bytes with
  | .ok tree => tree
  | .error _ => tree

/-- Adds what stands at a path. -/
def addPath (tree : FileTree) (text : String) : IO FileTree := do
  let p := Path.ofText text
  if ← isDirectory text then return withDirectory tree p
  match ← readBytes text with
  | some bytes => return withFile tree p bytes
  | none => return tree

/-- The directories that a run looked for in vain. -/
def missedDirectories (r : Command.Result) : List String :=
  r.notices.filterMap fun
    | .invalidSourceRoot path => some path
    | _ => none

/-- The variables of the environment that are settings. -/
def environment : IO (List (String × String)) := do
  let names := ["HUSH_APP_NAME", "HUSH_APP_ENV", "HUSH_LOG_LEVEL", "HUSH_CONFIG_FILE"]
  names.filterMapM fun name => do
    return (← IO.getEnv name).map fun value => (name, value)

/-- Runs the command line on the files that it names; directories that are missed in a first run
    are looked up for a second one. -/
def runOnFiles (usual : Path) (args : List String) : IO Command.Result := do
  let workDir := Path.ofText (← IO.currentDir).toString
  let start := withDirectory { nodes := [], workDir } workDir
  let tree ← (args.flatMap pathTexts).foldlM addPath start
  let r := Command.run tree.withLimits usual args
  match missedDirectories r with
  | [] => return r
  | missed => return Command.run (← missed.foldlM addPath tree).withLimits usual args

/-- Writes the notices of a run that reach the log level. -/
def writeNotices (s : Settings) (verbose : Bool) (ns : List Notice) : IO Unit :=
  match Log.threshold (if verbose then "DEBUG" else s.logLevel) with
  | .error _ => return
  | .ok lowest =>
    let events := ns.map (Log.Event.ofNotice s.appName)
    for line in Log.lines (.ofEnvironment s.appEnv) lowest events do
      IO.eprintln line

/-- Writes why a run ended, if it did not end by itself. -/
def writeEnding (e : Command.Ending) : IO Unit :=
  match e with
  | .exit _ => return
  | .help => IO.println "Commands: filter, check-config, version"
  | .usage m => IO.eprintln m.message
  | .fault f => IO.eprintln f.message

end Muffle.Main

/-- Runs the program. -/
def main (args : List String) : IO UInt32 := do
  let file ← Muffle.Main.readBytes ".env"
  let text := match Muffle.Text.readUtf8 (file.getD []) with
    | .ok cs => cs
    | .error _ => []
  match Muffle.Settings.ofTexts (← Muffle.Main.environment) text with
  | .error e =>
    IO.eprintln e.message
    return 1
  | .ok s =>
    let r ← Muffle.Main.runOnFiles (Muffle.Path.ofText s.configFile) args
    IO.print (String.ofList r.printed)
    Muffle.Main.writeNotices s (Muffle.Command.isVerbose args) r.notices
    Muffle.Main.writeEnding r.ending
    return r.ending.exitCode.toUInt32
