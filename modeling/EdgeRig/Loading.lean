import EdgeRig.FileTree
import EdgeRig.Json5.Document
import EdgeRig.Text.Lines
import EdgeRig.Toml.Document

/-!
# Loading descriptor files

A descriptor file is a table file or an object file; the extension of its name says which, and is
looked at before anything is read.

* `DescriptorFormat.ofExtension?` knows the two formats.
* `Loading.decode` turns bytes into text, with every line end made a line feed.
* `Loading.load` reads a descriptor, `Loading.baseDirectory` is the directory that relative paths in
  it are seen from.
-/

namespace EdgeRig

/-- The formats of descriptor files. -/
inductive DescriptorFormat where
  | table
  | object
  deriving DecidableEq

namespace DescriptorFormat

/-- The format that an extension stands for. -/
def ofExtension? (extension : List Char) : Option DescriptorFormat :=
  if extension = ['.', 't', 'o', 'm', 'l'] then some table
  else if extension = ['.', 'j', 's', 'o', 'n', 'c'] then some object
  else none

/-- The value that a text describes. -/
def parse (f : DescriptorFormat) (s : List Char) : Option Value :=
  match f with
  | table => (Toml.read s).map .map
  | object => Json5.read s

end DescriptorFormat

namespace Loading

/-- The text of a file. -/
def decode (bytes : ByteArray) : Except Fault (List Char) :=
  match String.fromUTF8? bytes with
  | some s => .ok (Text.unifyLines s.toList)
  | none => .error .notUtf8

/-- The format of a file, by its name. -/
def formatOf (path : FilePath) : Except Fault DescriptorFormat :=
  match DescriptorFormat.ofExtension? path.extension with
  | some f => .ok f
  | none => .error (.failure (.unknownExtension path.extension path))

/-- The descriptor that the text of a file describes. -/
def interpret (path : FilePath) (f : DescriptorFormat) (s : List Char) : Except Fault Mapping :=
  match f.parse s with
  | none => .error (.failure (.unparsable path))
  | some (.map m) => .ok m
  | some _ => .error (.failure (.notTable path))

/-- Read a descriptor file. -/
def load (files : FileTree) (path : FilePath) : Except Fault Mapping := do
  let f ← formatOf path
  let bytes ← files.read path
  let s ← decode bytes
  interpret path f s

/-- The directory that relative paths in a descriptor file are seen from. -/
def baseDirectory (files : FileTree) (path : FilePath) : FilePath :=
  (FilePath.resolve files.working path).parent

end Loading

end EdgeRig
