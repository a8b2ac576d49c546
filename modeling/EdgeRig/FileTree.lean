import EdgeRig.Fault

/-!
# Files

A file tree lists files and directories by their absolute paths; every directory above a listed
entry exists as well.  Paths are followed segment by segment from the root or from a working
directory, so a path leads nowhere as soon as one of its segments does, even if a later `..` would
step back.

* `FileTree.entry?` says what stands at an absolute path.
* `FileTree.walk` follows a path, `FileTree.read` takes the bytes of the file it leads to.
-/

namespace EdgeRig

/-- What stands at a path. -/
inductive FileEntry where
  | file (bytes : ByteArray)
  | directory

/-- Files and directories by their absolute paths, seen from a working directory. -/
structure FileTree where
  working : FilePath
  entries : List (List Text.Piece × FileEntry)

namespace FileTree

/-- Is there an entry at or below the path? -/
def holdsBelow (t : FileTree) (place : List Text.Piece) : Bool :=
  place.isPrefixOf t.working.segments || t.entries.any fun e => place.isPrefixOf e.1

/-- What stands at an absolute path. -/
def entry? (t : FileTree) (place : List Text.Piece) : Option FileEntry :=
  match t.entries.find? fun e => e.1 == place with
  | some e => some e.2
  | none => if t.holdsBelow place then some .directory else none

/-- The number of bytes of a text. -/
def byteCount (s : List Char) : Nat := (String.ofList s).utf8ByteSize

/-- The largest number of bytes of a segment. -/
def segmentLimit : Nat := 255

/-- The largest number of bytes of a path. -/
def pathLimit : Nat := 4095

/-- Follow segments from a place. -/
def walk (t : FileTree) (place : List Text.Piece) :
    List Text.Piece → Except Fault (List Text.Piece)
  | [] => .ok place
  | p :: ps =>
      match t.entry? place with
      | none => .error .fileNotFound
      | some (.file _) => .error .notDirectory
      | some .directory =>
          if segmentLimit < byteCount p then .error .pathTooLong
          else walk t (if p = ['.', '.'] then place.dropLast else place ++ [p]) ps

/-- Where a path starts. -/
def start (t : FileTree) (p : FilePath) : List Text.Piece :=
  if p.isAbsolute then [] else t.working.segments

/-- Can file names be made of these segments? -/
def isUsable (p : FilePath) : Bool := p.segments.all fun s => !s.contains '\x00'

/-- The bytes of the file that a path leads to. -/
def read (t : FileTree) (p : FilePath) : Except Fault ByteArray :=
  if isUsable p = false then .error .unusablePath
  else if pathLimit < byteCount p.text then .error .pathTooLong
  else do
    let place ← t.walk (t.start p) p.segments
    match t.entry? place with
    | none => .error .fileNotFound
    | some .directory => .error .isDirectory
    | some (.file bytes) => .ok bytes

end FileTree

end EdgeRig
