import EffectLang.Manifest
import EffectLang.Text.Blank

/-! Where a command runs, and how it finds the manifest that a path names. A path is followed name
by name, and it leads to a file only if nothing comes after the name of one. -/
namespace EffectLang.CommandLine

/-! ## Paths -/

/-- Why there is nothing to read at a path. -/
inductive PathFailure where
  /-- No file or directory has the name. -/
  | missing
  /-- The path ends at a directory. -/
  | directory
  /-- The path goes on after a file. -/
  | throughFile
  /-- A name or the whole path is longer than any file's. -/
  | tooLong
  /-- The path holds the character that ends a path. -/
  | cutShort
deriving DecidableEq

/-- The name under which the failure is reported. -/
def PathFailure.name : PathFailure → String
  | missing => "FileNotFoundError"
  | directory => "IsADirectoryError"
  | throughFile => "NotADirectoryError"
  | tooLong => "OSError"
  | cutShort => "ValueError"

/-- The parts of a path between its slashes; single dots mean nothing. -/
def pathParts (path : Text) : List Text :=
  (Text.partsBetween (· = '/') path).filter (· ≠ ['.'])

/-- The slash at the start of a path that begins at the root. -/
def pathRoot (path : Text) : Text :=
  if path.head? = some '/' then ['/'] else []

/-- A path without what means nothing in it. -/
def normalizePath (path : Text) : Text :=
  let path := pathRoot path ++ Text.join ['/'] (pathParts path)
  if path = [] then ['.'] else path

/-- The longest path and the longest name in one, in bytes. -/
def pathLimit : Nat := 4095
def nameLimit : Nat := 255

/-- The bytes of a text in a path. -/
def byteSize (text : Text) : Nat :=
  (String.ofList text).utf8ByteSize

/-! ## Files -/

/-- Where a command runs: a directory with its path and its files, and whether output is in colour.
Of two files with one name the later counts. -/
structure Surroundings where
  directory : Text
  files : List (Text × Text)
  color : Bool

/-- Why a manifest does not load. -/
inductive LoadFailure where
  | unreadable (failure : PathFailure)
  | unusable (failure : ManifestFailure)

namespace Surroundings

/-- The text of the file at a normalized path. -/
def source? (s : Surroundings) (path : Text) : Option Text :=
  s.files.reverse.lookup path

/-- Whether there are files below a normalized path. -/
def isDirectory (s : Surroundings) (path : Text) : Bool :=
  s.files.any fun file => (path ++ ['/']).isPrefixOf file.1

/-- Follows the parts of a path from the directory that `before` leads to. -/
def follow (s : Surroundings) (before : Text) : List Text → Except PathFailure Text
  | [] => .error .directory
  | part :: rest =>
    let path := before ++ part
    if nameLimit < byteSize part then .error .tooLong
    else if part = "..".toList then s.follow (path ++ ['/']) rest
    else
      match s.source? path with
      | some source => if rest = [] then .ok source else .error .throughFile
      | none => if s.isDirectory path then s.follow (path ++ ['/']) rest else .error .missing

/-- The text of the file that a path leads to. -/
def read (s : Surroundings) (path : Text) : Except PathFailure Text :=
  if path.contains '\x00' then .error .cutShort
  else if pathLimit < byteSize (normalizePath path) then .error .tooLong
  else s.follow (pathRoot path) (pathParts path)

def manifestName : Text :=
  "fxexpr.toml".toList

/-- Loads the given manifest, or else the one of the directory. Without either nothing is
declared. -/
def declarations (s : Surroundings) (manifest : Option Text) : Except LoadFailure Declarations :=
  let path := manifest.getD manifestName
  let shown := match manifest with
    | some path => normalizePath path
    | none => s.directory ++ ['/'] ++ manifestName
  match s.read path with
  | .ok source => (loadManifest shown source).mapError .unusable
  | .error failure =>
    if manifest = none ∧ failure = .missing then .ok .empty else .error (.unreadable failure)

end Surroundings
end EffectLang.CommandLine
