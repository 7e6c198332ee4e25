import BraceTemplate.Text

/-!
# Files

A tree of files with their texts. A location is a list of names from the root. Directories are those
that were made, and those that lie above a file or above another directory. A path that ends in a
slash means a directory and nothing else.
-/

namespace BraceTemplate

/-- A place in a tree of files: the names on the way from the root. -/
abbrev Location := List Text

namespace Location

/-- The mark between names. -/
abbrev slash : CodeUnit := 0x2F

/-- Follows names: a point stays, two points lead up. -/
def follow (base : Location) (names : List Text) : Location :=
  names.foldl (fun (place : Location) (name : Text) =>
    if name.isEmpty ∨ name = "." then place
    else if name = ".." then place.dropLast
    else place ++ [name]) base

/-- The location that a path means, seen from a base. -/
def ofText (base : Location) (path : Text) : Location :=
  follow (if path.head? = some slash then [] else base) (Text.splitAt slash path)

/-- A location as a path from the root. -/
def toText (l : Location) : Text :=
  if l.isEmpty then [slash] else l.flatMap fun name => slash :: name

end Location

/-- A path as it is written: where it leads, and whether a slash ends it. -/
structure WrittenPath where
  location : Location
  slashed : Bool
deriving DecidableEq, Repr

namespace WrittenPath

/-- The path of a text that leads on from a base, its slashes at the start left out. -/
def below (base : Location) (path : Text) : WrittenPath :=
  ⟨Location.follow base (Text.splitAt Location.slash path), path.getLast? = some Location.slash⟩

/-- The path of a file in a directory; without a name it is the directory. -/
def join (directory : WrittenPath) (name : Text) : WrittenPath :=
  if name.isEmpty then directory else below directory.location name

/-- The path from the root. -/
def toText (p : WrittenPath) : Text :=
  if p.slashed && !p.location.isEmpty then p.location.toText ++ [Location.slash]
  else p.location.toText

end WrittenPath

/-- Why a file operation fails. -/
inductive FileFault where
  /-- A directory has no text to read. -/
  | readDirectory
  | openDirectory (p : WrittenPath)
  | openMissing (p : WrittenPath)
  | openBelowFile (p : WrittenPath)
  | makeBelowFile (p : WrittenPath)
deriving DecidableEq, Repr

namespace FileFault

/-- A path as it stands in a message. -/
def quotedPath (p : WrittenPath) : Text :=
  Text.concat ["'", p.toText, "'"]

def message : FileFault → Text
  | readDirectory => "EISDIR: illegal operation on a directory, read"
  | openDirectory p =>
    Text.concat ["EISDIR: illegal operation on a directory, open ", quotedPath p]
  | openMissing p => Text.concat ["ENOENT: no such file or directory, open ", quotedPath p]
  | openBelowFile p => Text.concat ["ENOTDIR: not a directory, open ", quotedPath p]
  | makeBelowFile p => Text.concat ["ENOTDIR: not a directory, mkdir ", quotedPath p]

end FileFault

/-- What lies at a location. -/
inductive FileState where
  | missing
  | directory
  | file (text : Text)
deriving DecidableEq, Repr

/-- Files with their texts, and directories. -/
structure FileTree where
  files : List (Location × Text)
  directories : List Location
deriving Repr

namespace FileTree

/-- What lies at a location. -/
def state (t : FileTree) (l : Location) : FileState :=
  match t.files.lookup l with
  | some text => .file text
  | none =>
    if t.directories.any l.isPrefixOf || t.files.any fun f => l.isPrefixOf f.1 then .directory
    else .missing

/-- What a path means: with a slash at its end, no file. -/
def meaning (t : FileTree) (p : WrittenPath) : FileState :=
  match t.state p.location with
  | .file text => if p.slashed then .missing else .file text
  | other => other

/-- Whether a path means anything. -/
def contains (t : FileTree) (p : WrittenPath) : Bool :=
  t.meaning p != .missing

/-- Whether a file lies on the way to a location or at it. -/
def isBlocked (t : FileTree) (l : Location) : Bool :=
  t.files.any fun f => f.1.isPrefixOf l

/-- Makes a directory and those above it. -/
def makeDirectory (t : FileTree) (p : WrittenPath) : Except FileFault FileTree :=
  if t.isBlocked p.location then .error (.makeBelowFile p)
  else .ok { t with directories := t.directories ++ [p.location] }

/-- Adds text to the end of a file, which is made if its directory is there. -/
def append (t : FileTree) (p : WrittenPath) (text : Text) : Except FileFault FileTree :=
  let l := p.location
  match t.meaning p with
  | .directory => .error (.openDirectory p)
  | .file _ => .ok { t with files := t.files.map fun f => if f.1 = l then (l, f.2 ++ text) else f }
  | .missing =>
    if t.isBlocked l then .error (.openBelowFile p)
    else if t.state l.dropLast = .directory then
      if p.slashed then .error (.openDirectory p)
      else .ok { t with files := t.files ++ [(l, text)] }
    else .error (.openMissing p)

end FileTree

end BraceTemplate
