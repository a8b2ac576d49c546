import EdgeRig.Value.Access

/-!
# Raising failures

Callers may raise members of the failure family themselves.  They hand over details, which are
values of any kind; each member says how many it takes and what they mean.

* `Failure.wording` is the text of details that have no meaning of their own.
* `Failure.raise` makes a failure of a member and its details.
-/

namespace EdgeRig

namespace Failure

/-- The text of details: none for none, that of a single one as it stands alone, and a row in
parentheses for several. -/
def wording : List Value → String
  | [] => ""
  | [v] => v.shown
  | vs => String.ofList ('(' :: (Text.listed (Value.literals vs) ++ [')']))

/-- The path among the details of a descriptor failure. -/
def givenPath : Value → Except Fault (Option FilePath)
  | .scalar .null => .ok none
  | .scalar (.text p) => .ok (some (.ofText p.toList))
  | _ => .error .pathNotText

/-- A descriptor failure takes a text and, where it is known, the path of the file. -/
def raiseDescriptor (trouble : DescriptorTrouble) : List Value → Except Fault Failure
  | [text] => .ok (.descriptor trouble text.shown none)
  | [text, path] => (givenPath path).map (.descriptor trouble text.shown)
  | _ => .error .detailCount

/-- The failure that a member makes of details.  A mock failure takes the service and a text, a name
failure the name; the other members are content with any number of details. -/
def raise (k : FailureKind) (details : List Value) : Except Fault Failure :=
  match k, details with
  | .general, vs => .ok (.general (wording vs))
  | .simulatorUnavailable, vs => .ok (.simulatorUnavailable (wording vs))
  | .descriptor, vs => raiseDescriptor .unspecific vs
  | .descriptorFormat, vs => raiseDescriptor .format vs
  | .descriptorParse, vs => raiseDescriptor .parse vs
  | .serviceMock, [service, text] => .ok (.serviceMock service text.shown none)
  | .reservedName, [name] => .ok (.reservedName name)
  | .serviceMock, _ => .error .detailCount
  | .reservedName, _ => .error .detailCount

end Failure

end EdgeRig
