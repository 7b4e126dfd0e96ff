import Archimate.Command

namespace Archimate

/-- What the system says of an error, under the number of the commonest one that it can be. -/
def fileErrorOf : IO.Error → FileError
  | .noFileOrDirectory .. => .missing
  | .permissionDenied .. => .denied
  | .inappropriateType .. => .notDirectory
  | .invalidArgument _ number reason => ⟨number.toNat, reason⟩
  | .resourceExhausted _ number reason => ⟨number.toNat, reason⟩
  | .hardwareFault number reason => ⟨number.toNat, reason⟩
  | .otherError number reason => ⟨number.toNat, reason⟩
  | _ => ⟨5, "Input/output error"⟩

def readEntry (path : Text) : IO FileEntry := do
  let place := (← IO.currentDir) / path.asString
  match ← place.metadata.toBaseIO with
  | .error e => return .broken (fileErrorOf e)
  | .ok data =>
    if data.type == .dir then
      match ← place.readDir.toBaseIO with
      | .ok _ => return .directory
      | .error e => return .directory none (some (fileErrorOf e))
    match ← (IO.FS.readBinFile place).toBaseIO with
    | .ok bytes => return .file bytes
    | .error e => return .closed (fileErrorOf e)

/-- Adds what a path names, if it names anything. -/
def addEntry (files : FileTree) (path : Path) : IO FileTree := do
  if !path.text.isWritable then return files
  match ← readEntry path.text with
  | .broken error =>
    return if error.findsNothing then files else files.write path (.broken error)
  | entry => return files.write path entry

/-- Adds a directory with the model files in it, also with those that lead nowhere. -/
def addDirectory (files : FileTree) (path : Path) : IO FileTree := do
  let mut files ← addEntry files path
  if let .ok entries ← ((← IO.currentDir) / path.text.asString).readDir.toBaseIO then
    for entry in entries do
      let name := Text.ofString entry.fileName
      if ModelSource.modelSuffix.isSuffixOf name then
        files := files.write (path.child name) (← readEntry (path.child name).text)
  return files

/-- A tree with nothing in it but the way to the working directory. -/
def emptyTree : IO FileTree := do
  let (place, files) := FileTree.empty.makeWay []
    (Path.ofText (← IO.currentDir).toString).parts
  return { files.makeDirectory place with workingDirectory := place }

/-- The files that a run of the command looks at. -/
def filesFor (settings : Settings) (a : Command.Arguments) : IO FileTree := do
  match Command.given? a.file with
  | some file => addEntry (← emptyTree) (.ofText file)
  | none =>
    let directory := Path.ofText (Command.directoryOf settings a)
    let mut files ← addEntry (← emptyTree) directory
    for layer in Layer.all do
      files ← addDirectory files (directory.child layer.word)
    return files

def environmentNames : List String :=
  ["AAC_MODELS_DIR", "AAC_LOG_LEVEL", "AAC_HOST", "AAC_PORT", "AAC_LOAD_ON_STARTUP"]

def environment : IO Settings.Environment := do
  let mut env : Settings.Environment := .empty
  for name in environmentNames do
    if let some value ← IO.getEnv name then
      env := env.insert name value
  return env

def printLog (r : LogRecord) : IO Unit :=
  IO.eprintln (r.level.name ++ ": " ++ r.message.asString)

def runCommand (settings : Settings) (a : Command.Arguments) : IO UInt32 := do
  let start ← IO.monoMsNow
  let files ← filesFor settings a
  let elapsed := (← IO.monoMsNow) - start
  match Command.run files settings a (toString elapsed) with
  | .ok outcome =>
    outcome.logs.forM printLog
    IO.print outcome.output.asString
    IO.eprint outcome.errors.asString
    return outcome.ending.code.toUInt32
  | .error failure =>
    IO.eprintln (failure.kind ++ ": " ++ failure.message.asString)
    return 1

def usage : String :=
  "usage: archimate [-h] [--file FILE] [--json] [--verbose] [models_dir]"

end Archimate

open Archimate in
def main (arguments : List String) : IO UInt32 := do
  match Command.Arguments.read (arguments.map Text.ofString) with
  | .help => IO.println usage; return 0
  | .refused => IO.eprintln usage; return 2
  | .run a =>
    match Settings.read (← environment) {} with
    | .ok settings => runCommand settings a
    | .error e => IO.eprintln e.message.asString; return 1
