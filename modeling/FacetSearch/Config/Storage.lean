import FacetSearch.Config.Document
import FacetSearch.Disk
import FacetSearch.Yaml.Format

/-! Keeping configurations in a file. -/
namespace FacetSearch

/-- Why a configuration cannot be loaded or saved. -/
inductive StorageError
  /-- There is no directory for it, and none can be made. -/
  | noDirectory (reason : DiskError)
  | unreadable (path : String)
  | unwritable (path : String)
  | malformed (path : String)
  | invalid (problem : InvalidConfig)
  deriving DecidableEq

def StorageError.message : StorageError → String
  | noDirectory reason => reason.message
  | unreadable path => "failed to read " ++ path
  | unwritable path => "failed to write " ++ path
  | malformed path => path ++ " is malformed"
  | invalid problem => problem.message

namespace Config

/-- The file of a configuration in a directory. -/
def fileIn (directory : String) : String := Path.inside directory "config.yaml"

/-- Writes a configuration to a file, making its directory where there is none, and tells what went
wrong. -/
def save (f : Yaml.Format) (path : String) (c : Config) (d : Disk) : Disk × Option StorageError :=
  match d.makeDirectory (Path.directory path) with
  | (d, some e) => (d, some (.noDirectory e))
  | (d, none) =>
    match d.write? path (f.write c.toYaml) with
    | some d => (d, none)
    | none => (d, some (.unwritable path))

/-- Reads the configuration in a file and checks it. -/
def read (f : Yaml.Format) (path : String) (d : Disk) : Except StorageError Config :=
  match d.read? path with
  | none => .error (.unreadable path)
  | some text =>
    match (f.read? text).bind ofYaml? with
    | none => .error (.malformed path)
    | some c =>
      match c.problem? with
      | some problem => .error (.invalid problem)
      | none => .ok c

/-- Loads the configuration of a directory, writing the default one first where there is no file.
What was written stays, whatever comes of it. -/
def load (f : Yaml.Format) (directory : String) (d : Disk) : Disk × Except StorageError Config :=
  let path := fileIn directory
  if (d.entry? path).isSome then (d, read f path d)
  else match save f path {} d with
    | (d, some e) => (d, .error e)
    | (d, none) => (d, read f path d)

end Config
end FacetSearch
