import EdgeRig.FilePath
import EdgeRig.Problem
import EdgeRig.Value.Shown

/-!
# Faults

Everything that can stop the rig, by cause.

* `Failure` is the rig's own family: mistakes of the caller and unusable files.  Its members form a
  small tree; `Failure.lineage` goes from a member up to the root, and `Failure.message` is the
  text that is shown.
* `Fault` adds the causes that lie in the values, files, addresses and simulators that the rig is
  handed.
-/

namespace EdgeRig

/-- The members of the failure family. -/
inductive FailureKind where
  | general
  | descriptor
  | descriptorFormat
  | descriptorParse
  | serviceMock
  | reservedName
  | simulatorUnavailable
  deriving DecidableEq

namespace FailureKind

/-- The member that a member is a case of. -/
def parent? : FailureKind → Option FailureKind
  | general => none
  | descriptor => some general
  | descriptorFormat => some descriptor
  | descriptorParse => some descriptor
  | serviceMock => some general
  | reservedName => some general
  | simulatorUnavailable => some general

/-- A member and all members above it. -/
def lineage (k : FailureKind) : List FailureKind :=
  match k.parent? with
  | none => [k]
  | some p =>
      match p.parent? with
      | none => [k, p]
      | some q => [k, p, q]

/-- The name a member is reported under. -/
def label : FailureKind → String
  | general => "HarnessError"
  | descriptor => "DescriptorError"
  | descriptorFormat => "DescriptorFormatError"
  | descriptorParse => "DescriptorParseError"
  | serviceMock => "ServiceMockError"
  | reservedName => "ReservedWorkerNameError"
  | simulatorUnavailable => "SimulatorUnavailableError"

def all : List FailureKind :=
  [general, descriptor, descriptorFormat, descriptorParse, serviceMock, reservedName,
   simulatorUnavailable]

/-- The member that is reported under a name. -/
def ofLabel? (name : String) : Option FailureKind := all.find? fun k => k.label == name

end FailureKind

/-- What can be wrong with a descriptor file. -/
inductive DescriptorTrouble where
  | unspecific
  | format
  | parse
  deriving DecidableEq

/-- A failure of the rig itself. -/
inductive Failure where
  | general (text : String)
  | descriptor (trouble : DescriptorTrouble) (text : String) (path : Option FilePath)
  | serviceMock (service : Value) (text : String) (problems : Option (List Problem))
  | reservedName (name : Value)
  | simulatorUnavailable (text : String)
  deriving DecidableEq

namespace Failure

def kind : Failure → FailureKind
  | general _ => .general
  | descriptor .unspecific _ _ => .descriptor
  | descriptor .format _ _ => .descriptorFormat
  | descriptor .parse _ _ => .descriptorParse
  | serviceMock _ _ _ => .serviceMock
  | reservedName _ => .reservedName
  | simulatorUnavailable _ => .simulatorUnavailable

/-- The text that is shown: a descriptor failure names its file, a mock failure its service. -/
def message : Failure → String
  | general text => text
  | descriptor _ text none => text
  | descriptor _ text (some path) => text ++ " (" ++ String.ofList path.text ++ ")"
  | serviceMock service text _ => "[" ++ service.shown ++ "] " ++ text
  | reservedName name => "Worker name '" ++ name.shown ++ "' is reserved for asset handling"
  | simulatorUnavailable text => text

/-- A mock that its schema refuses. -/
def invalidMock (service : Value) (problems : List Problem) : Failure :=
  serviceMock service "Invalid service mock" (some problems)

/-- A file whose name has no extension that stands for a descriptor format. -/
def unknownExtension (extension : List Char) (path : FilePath) : Failure :=
  descriptor .format
    ("'" ++ String.ofList extension ++ "' is not a valid descriptor extension") (some path)

/-- A file that does not follow the grammar of its format. -/
def unparsable (path : FilePath) : Failure :=
  descriptor .parse "Failed to parse descriptor" (some path)

/-- A file that holds something else than a table. -/
def notTable (path : FilePath) : Failure :=
  descriptor .parse "Descriptor must be a table/object at the top level" (some path)

/-- A setup to which no factory is known. -/
def noFactory : Failure :=
  simulatorUnavailable "No simulator factory given and no default factory registered"

end Failure

/-- A cause that stops the rig. -/
inductive Fault where
  /-- A failure of the rig itself. -/
  | failure (f : Failure)
  /-- A value that its schema refuses. -/
  | invalid (schema : Schema) (problems : List Problem)
  /-- A mapping lacks a key that is needed. -/
  | missingKey (key : String)
  /-- A key is asked of a value that is no mapping. -/
  | keyOfNonMapping
  /-- An optional entry is asked of a value that is no mapping. -/
  | optionOfNonMapping
  /-- A value without elements is gone through. -/
  | notIterable
  /-- A list or a mapping is used as a key. -/
  | unusableKey
  /-- An element that should be a pair has another length. -/
  | notPair
  /-- A path is not text. -/
  | pathNotText
  /-- A port to be moved is no number. -/
  | portNotNumber
  /-- A whole number is too large to be added to a floating-point one. -/
  | portTooLarge
  /-- A worker has no field of the name. -/
  | unknownField
  /-- A worker has nothing that could be read under the name. -/
  | noSuchName
  /-- A number has too many digits to be written out. -/
  | numberTooLong
  /-- What a worker tells about itself is derived and cannot be set. -/
  | derivedField
  /-- A value is written under a name that holds a worker as a whole, or says how it is written. -/
  | wholeWorker
  /-- A value is put in the place of a class. -/
  | notClass
  /-- A value that is no mapping is put in the place of the fields and notes of a worker. -/
  | notDictionary
  /-- A value stands where an activity is called for. -/
  | notCallable
  /-- A worker whose fields and notes have other keys than texts is to show its options. -/
  | keyNotText
  /-- A failure is given a number of details that its member does not take. -/
  | detailCount
  /-- A rule lacks a parameter that its kind needs, or has one that its kind does not know. -/
  | ruleParameters
  /-- A rule has both a value field and a static value, or neither. -/
  | ruleShape (source : String)
  /-- There is no worker at the position. -/
  | noSuchWorker
  /-- A value that is no list is extended. -/
  | notAppendable
  /-- An entry is put into a value that is no mapping. -/
  | notAssignable
  /-- The asset field holds something else than an asset block. -/
  | notAssetBlock
  /-- There is no file at the path. -/
  | fileNotFound
  /-- The path leads to a directory where a file is needed. -/
  | isDirectory
  /-- The path goes through a file as if it were a directory. -/
  | notDirectory
  /-- A path holds a character that no file name can hold. -/
  | unusablePath
  /-- A path, or one of its segments, is too long. -/
  | pathTooLong
  /-- A file is not text. -/
  | notUtf8
  /-- An address that is no URL. -/
  | invalidUrl
  /-- An authority whose host can be taken for another one. -/
  | misleadingAuthority
  /-- A text that has no bytes where bytes are needed. -/
  | unencodable
  /-- A request names no host to send it to. -/
  | noHost
  /-- The context holds something else than a fetch helper. -/
  | notFetcher
  /-- The context holds something else than a simulator. -/
  | notSimulator
  /-- No session was opened under the name. -/
  | noSession (name : String)
  /-- A simulator reports trouble of its own. -/
  | simulator (text : String)
  deriving DecidableEq

end EdgeRig
