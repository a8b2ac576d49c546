import EdgeRig.Value

/-!
# Problems of a value read under a schema

Reading a value under a schema collects every problem before it gives up, so a report is a list of
`Problem`s: where in the value, and what is wrong there.

* `ProblemKind.code` is the short name of a problem, `ProblemKind.message` its sentence.
* `Problem.within` moves a problem one step outwards, which is how readers of parts report to
  readers of wholes.
-/

namespace EdgeRig

/-- The schemas that values are read under. -/
inductive Schema where
  | assetBlock
  | serviceMock
  | worker
  | configuration
  | settings
  deriving DecidableEq

namespace Schema

/-- The name of a schema in reports. -/
def label : Schema → String
  | assetBlock => "AssetConfig"
  | serviceMock => "ServiceMock"
  | worker => "CompiledWorker"
  | configuration => "CompiledConfiguration"
  | settings => "HarnessSettings"

end Schema

/-- One step into a value. -/
inductive Place where
  | field (name : String)
  | key (k : Scalar)
  | item (index : Nat)
  deriving DecidableEq

/-- What is wrong with a value. -/
inductive ProblemKind where
  | missing
  | extra
  | text
  | integer
  | fraction
  | unreadableInteger
  | oversizedInteger
  | finite
  | number
  | unreadableNumber
  | truth
  | unreadableTruth
  | list
  | mapping
  | record (schema : Schema)
  | aboveZero
  | atLeastHundred
  | belowSixHundred
  | oneSource
  deriving DecidableEq

namespace ProblemKind

def code : ProblemKind → String
  | missing => "missing"
  | extra => "extra_forbidden"
  | text => "string_type"
  | integer => "int_type"
  | fraction => "int_from_float"
  | unreadableInteger => "int_parsing"
  | oversizedInteger => "int_parsing_size"
  | finite => "finite_number"
  | number => "float_type"
  | unreadableNumber => "float_parsing"
  | truth => "bool_type"
  | unreadableTruth => "bool_parsing"
  | list => "list_type"
  | mapping => "dict_type"
  | record _ => "model_type"
  | aboveZero => "greater_than"
  | atLeastHundred => "greater_than_equal"
  | belowSixHundred => "less_than_equal"
  | oneSource => "value_error"

def message : ProblemKind → String
  | missing => "Field required"
  | extra => "Extra inputs are not permitted"
  | text => "Input should be a valid string"
  | integer => "Input should be a valid integer"
  | fraction => "Input should be a valid integer, got a number with a fractional part"
  | unreadableInteger => "Input should be a valid integer, unable to parse string as an integer"
  | oversizedInteger => "Unable to parse input string as an integer, exceeded maximum size"
  | finite => "Input should be a finite number"
  | number => "Input should be a valid number"
  | unreadableNumber => "Input should be a valid number, unable to parse string as a number"
  | truth => "Input should be a valid boolean"
  | unreadableTruth => "Input should be a valid boolean, unable to interpret input"
  | list => "Input should be a valid list"
  | mapping => "Input should be a valid dictionary"
  | record schema => "Input should be a valid dictionary or instance of " ++ schema.label
  | aboveZero => "Input should be greater than 0"
  | atLeastHundred => "Input should be greater than or equal to 100"
  | belowSixHundred => "Input should be less than or equal to 599"
  | oneSource => "Value error, service mock needs exactly one of 'script' or 'scriptPath'"

end ProblemKind

/-- A problem and the way to it from the outside in. -/
structure Problem where
  path : List Place
  kind : ProblemKind
  deriving DecidableEq

namespace Problem

/-- A problem of the value as a whole. -/
def here (kind : ProblemKind) : Problem := ⟨[], kind⟩

/-- The same problem, seen from one step further out. -/
def within (p : Place) (x : Problem) : Problem := ⟨p :: x.path, x.kind⟩

end Problem

end EdgeRig
