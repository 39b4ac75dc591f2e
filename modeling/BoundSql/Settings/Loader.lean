import BoundSql.Folder
import BoundSql.Settings.Document
import BoundSql.Settings.Environment

/-! Settings from files and the environment, with what the log is told on the way. -/

namespace BoundSql.Settings

def ofFile (format : Format) (folder : Folder) (path : String) : Logged Settings := do
  Logged.emit (.readingFile path)
  let document ← (folder.read path).mapError Error.unreadableFile
  ofDocument format document

def formatOf? (path : String) : Option Format :=
  match FilePath.extension? path with
  | some "toml" => some .toml
  | some "json" => some .json
  | _ => none

def ofAnyFile (folder : Folder) (path : String) : Logged Settings :=
  match formatOf? path with
  | some format => ofFile format folder path
  | none => Logged.ofExcept (.error (.unsupportedFile path))

def ofTomlFileWithEnvironment (environment : Environment) (folder : Folder) (path : String) :
    Logged Settings := do
  let settings ← ofFile .toml folder path
  settings.withEnvironment environment

def ofEnvironment (environment : Environment) : Logged Settings :=
  withEnvironment environment {}

end BoundSql.Settings
