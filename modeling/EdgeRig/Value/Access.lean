import EdgeRig.Fault
import EdgeRig.Value

/-!
# Taking values apart

Descriptors are read without a schema, so every step into one can fail.  Each function here is one
such step, and names the fault it ends in.

* `Value.field` needs an entry, `Value.peek` takes what is there.
* `Value.elements` goes through lists, mappings (by key) and texts (by character).
* `Value.toMapping` reads a list of pairs as a mapping.
-/

namespace EdgeRig

namespace Value

/-- A value other than "nothing". -/
def present? (v : Value) : Option Value := if v.isNull then none else some v

/-- The value of an entry that must be there. -/
def field (v : Value) (key : String) : Except Fault Value :=
  match v with
  | .map m =>
      match Mapping.get? m key with
      | some u => .ok u
      | none => .error (.missingKey key)
  | _ => .error .keyOfNonMapping

/-- The value of an entry, or "nothing" where the mapping has none. -/
def peek (v : Value) (key : String) : Except Fault Value :=
  match v with
  | .map m => .ok ((Mapping.get? m key).getD null)
  | _ => .error .optionOfNonMapping

/-- The elements of a value that can be gone through. -/
def elements? : Value → Option (List Value)
  | .list items => some items
  | .map m => some (m.map fun e => .scalar e.1)
  | .scalar (.text s) => some (s.toList.map fun c => text (String.singleton c))
  | _ => none

def elements (v : Value) : Except Fault (List Value) :=
  match v.elements? with
  | some items => .ok items
  | none => .error .notIterable

/-- The elements of a list or a text; a mapping counts as neither. -/
def sequence? : Value → Option (List Value)
  | .map _ => none
  | v => v.elements?

/-- Use a value as a key. -/
def asKey : Value → Except Fault Scalar
  | .scalar s => .ok s
  | _ => .error .unusableKey

/-- Read an element as a key and a value. -/
def asEntry (v : Value) : Except Fault (Scalar × Value) :=
  match v.elements? with
  | none => .error .notIterable
  | some [k, u] => k.asKey.map (·, u)
  | some _ => .error .notPair

/-- Read a value as a mapping: a mapping as it is, other values as a sequence of pairs. -/
def toMapping (v : Value) : Except Fault Mapping :=
  match v with
  | .map m => .ok m
  | _ => do
      let items ← v.elements
      let entries ← items.mapM asEntry
      .ok (Mapping.ofEntries entries)

/-- Put an entry into a mapping. -/
def putEntry (v : Value) (key : String) (u : Value) : Except Fault Value :=
  match v with
  | .map m => .ok (.map (Mapping.put m (.text key) u))
  | _ => .error .notAssignable

/-- Put an element at the end of a list. -/
def pushElement (v u : Value) : Except Fault Value :=
  match v with
  | .list items => .ok (.list (items ++ [u]))
  | _ => .error .notAppendable

/-- The text of a value that stands alone. -/
def written (v : Value) : Except Fault String :=
  match v.shown? with
  | some s => .ok s
  | none => .error .numberTooLong

/-- A truth value or whole number as a whole number. -/
def wholeNumber? : Value → Option Int
  | .scalar (.bool b) => some (if b then 1 else 0)
  | .scalar (.int n) => some n
  | _ => none

/-- A whole number as a floating-point one; there is none for a number beyond the range. -/
def toBinary64 (n : Int) : Except Fault Binary64 :=
  let x := Binary64.ofInt n
  if x.isInfinite then .error .portTooLarge else .ok x

/-- The sum of two numbers; texts and lists are put one after the other. -/
def plus (v w : Value) : Except Fault Value :=
  match v.wholeNumber?, w.wholeNumber? with
  | some m, some n => .ok (int (m + n))
  | some m, none =>
      match w with
      | .scalar (.float y) => (toBinary64 m).map fun x => .scalar (.float (x.add y))
      | _ => .error .portNotNumber
  | none, some n =>
      match v with
      | .scalar (.float x) => (toBinary64 n).map fun y => .scalar (.float (x.add y))
      | _ => .error .portNotNumber
  | none, none =>
      match v, w with
      | .scalar (.float x), .scalar (.float y) => .ok (.scalar (.float (x.add y)))
      | .scalar (.text s), .scalar (.text t) => .ok (text (s ++ t))
      | .list vs, .list ws => .ok (.list (vs ++ ws))
      | _, _ => .error .portNotNumber

end Value

end EdgeRig
