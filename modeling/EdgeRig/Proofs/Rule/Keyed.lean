import EdgeRig.Proofs.Mapping
import EdgeRig.Proofs.Outcome
import EdgeRig.Proofs.Worker
import EdgeRig.Rule
import Mathlib.Data.List.Nodup

/-!
# The mapping of a keyed rule

A keyed rule goes through the entries at its source and puts what it keeps of each under the key of the
entry.  Of entries with one key the last one counts, and more entries overwrite what was there.

* `EntryValue.keptOf` — what is kept of an entry.
* `Rule.Writes` — a rule writes a mapping wherever it finds these entries; `Rule.Writes.on_field` says
  what this makes of a worker.
* `Rule.LastCounts` — a mapping has the keys of the entries, and each shows what is kept of the last entry
  that has it.
* `Rule.mappingOf_entries` — the mapping of entries, each of which has a text for a key, is built from their
  columns; `Rule.mappingOf_append` — that of more entries is overwritten by theirs.
* `Rule.keyed_writes` — what a keyed rule writes.
-/

namespace EdgeRig

/-- What is kept of an entry: the value of a field, nothing where the entry does not have it, or the fixed
value. -/
def EntryValue.keptOf (value : EntryValue) (entry : Mapping) : Value :=
  match value with
  | .field name => (Mapping.get? entry name).getD .null
  | .fixed v => v

theorem EntryValue.take_map (value : EntryValue) (entry : Mapping) :
    value.take (.map entry) = .ok (value.keptOf entry) := by
  cases value <;> rfl

namespace Rule

/-- Wherever the rule finds these entries at its source, to apply it is to write this mapping under its
target, whatever is written to, and it says that the descriptor said something. -/
def Writes (r : Rule) (entries : List Mapping) (m : Mapping) : Prop :=
  ∀ (σ : Type) [Handled σ] (d : Value), d.lookup r.source = some (.list (entries.map .map)) →
    (r.perform d : Handling σ Bool) = do
      Handling.write r.target (.map m)
      return true

/-- The entry has a text under the key field. -/
def IsKeyed (keyField : String) (entry : Mapping) : Prop :=
  ∃ k, Mapping.get? entry keyField = some (.text k)

/-- The mapping has the keys of the entries, each of them once, and a key shows what is kept of the last
entry that has it. -/
structure LastCounts (keyField : String) (value : EntryValue) (entries : List Mapping)
    (m : Mapping) : Prop where
  distinct : (m.map Prod.fst).Nodup
  keys : ∀ j, j ∈ m.map Prod.fst ↔ ∃ e ∈ entries, Mapping.get? e keyField = some (.scalar j)
  last : ∀ (front : List Mapping) (e : Mapping) (back : List Mapping) (k : String),
    entries = front ++ e :: back → Mapping.get? e keyField = some (.text k) →
      (∀ f ∈ back, Mapping.get? f keyField ≠ some (.text k)) →
        Mapping.get? m k = some (value.keptOf e)

variable {keyField : String} {value : EntryValue} {xs ys : List Mapping}

/-! ## Columns -/

/-- The text under the key field, empty where there is none. -/
def keyText (keyField : String) (entry : Mapping) : String :=
  match Mapping.get? entry keyField with
  | some (.scalar (.text k)) => k
  | _ => ""

theorem keyText_of_get? {e : Mapping} {k : String} (h : Mapping.get? e keyField = some (.text k)) :
    keyText keyField e = k := by
  rw [keyText, h]

theorem isKeyed_iff {e : Mapping} :
    IsKeyed keyField e ↔ Mapping.get? e keyField = some (.text (keyText keyField e)) := by
  refine ⟨?_, fun h => ⟨_, h⟩⟩
  rintro ⟨k, hk⟩
  rw [keyText_of_get? hk, hk]

instance (e : Mapping) : Decidable (IsKeyed keyField e) := decidable_of_iff _ isKeyed_iff.symm

/-- The key of each entry, and what is kept of it. -/
def columns (keyField : String) (value : EntryValue) (entries : List Mapping) : List (String × Value) :=
  entries.map fun e => (keyText keyField e, value.keptOf e)

theorem keys_columns (keyField : String) (value : EntryValue) (xs : List Mapping) :
    (columns keyField value xs).map Prod.fst = xs.map (keyText keyField) := by
  rw [columns, List.map_map]
  rfl

/-- An entry with a text for a key is put into the mapping under this text. -/
theorem addEntry_of_isKeyed (value : EntryValue) (m : Mapping) {e : Mapping} (h : IsKeyed keyField e) :
    addEntry keyField value m (.map e) =
      .ok (Mapping.put m (.text (keyText keyField e)) (value.keptOf e)) := by
  have hfield : (Value.map e).field keyField = .ok (.text (keyText keyField e)) := by
    rw [Value.field, isKeyed_iff.1 h]
  rw [addEntry, EntryValue.take_map, Except.ok_bind, hfield]
  rfl

theorem foldlM_addEntry (h : ∀ e ∈ xs, IsKeyed keyField e) (m : Mapping) :
    (xs.map Value.map).foldlM (addEntry keyField value) m =
      .ok (m.overwrittenBy ((columns keyField value xs).map fun c => (.text c.1, c.2))) := by
  induction xs generalizing m with
  | nil => rfl
  | cons e xs ih =>
    obtain ⟨he, hxs⟩ := List.forall_mem_cons.1 h
    rw [List.map_cons, List.foldlM_cons, addEntry_of_isKeyed value m he, Except.ok_bind, ih hxs]
    rfl

/-- **The mapping of entries** is built from their columns. -/
theorem mappingOf_entries (value : EntryValue) (h : ∀ e ∈ xs, IsKeyed keyField e) :
    mappingOf keyField value (xs.map .map) =
      .ok (Mapping.ofEntries ((columns keyField value xs).map fun c => (.text c.1, c.2))) :=
  foldlM_addEntry h []

/-- **More entries overwrite**: they leave what their own mapping, put into the one before, leaves. -/
theorem mappingOf_append (hxs : ∀ e ∈ xs, IsKeyed keyField e) (hys : ∀ e ∈ ys, IsKeyed keyField e)
    {m n : Mapping} (hm : mappingOf keyField value (xs.map .map) = .ok m)
    (hn : mappingOf keyField value (ys.map .map) = .ok n) :
    mappingOf keyField value ((xs ++ ys).map .map) = .ok (m.overwrittenBy n) := by
  rw [mappingOf_entries value hxs] at hm
  rw [mappingOf_entries value hys] at hn
  cases hm
  cases hn
  rw [Mapping.overwrittenBy_ofEntries (Mapping.keys_ofEntries _), List.map_append, mappingOf,
    List.foldlM_append, foldlM_addEntry hxs, Except.ok_bind, foldlM_addEntry hys]
  rfl

/-! ## What is written -/

theorem writes_of_mappingOf {source target : String} {m : Mapping}
    (hm : mappingOf keyField value (xs.map .map) = .ok m) :
    (keyed source target keyField value).Writes xs m := by
  intro σ _ d hd
  have hfound : d.lookup source = some (.list (xs.map .map)) := hd
  have houtcome : (keyed source target keyField value).outcome d = .ok (some (.map m)) := by
    simp only [outcome, Rule.source, hfound]
    exact Except.bind_eq_ok_iff.2 ⟨m, hm, rfl⟩
  rw [perform_eq, houtcome, Handling.lift_ok, pure_bind]

/-- What is written into a field stands there, and the worker keeps all else. -/
theorem Writes.on_field {r : Rule} {m : Mapping} (h : r.Writes xs m) {f : WorkerField}
    (hf : r.target = f.key) {d : Value} (hd : d.lookup r.source = some (.list (xs.map .map)))
    (w : Worker) : (r.perform d).on w = (.ok true, w.set f (.plain (.map m))) := by
  have hwrite : (Handling.write r.target (.map m)).on w = (.ok (), w.set f (.plain (.map m))) := by
    rw [Handling.on_write, hf]
    simp only [Handled.write, Worker.assign_key]
  rw [h Worker d hd, Handling.on_bind_ok hwrite]
  rfl

theorem lastCounts_of_mappingOf (hxs : ∀ e ∈ xs, IsKeyed keyField e) {m : Mapping}
    (hm : mappingOf keyField value (xs.map .map) = .ok m) : LastCounts keyField value xs m := by
  rw [mappingOf_entries value hxs] at hm
  cases hm
  have hkeys := Mapping.keys_ofEntries (columns keyField value xs)
  rw [keys_columns] at hkeys
  refine ⟨?_, fun j => ?_, fun front e back k hsplit hk hback => ?_⟩
  · rw [hkeys]
    exact List.Nodup.map (fun _ _ => Scalar.text.inj) (Mapping.nodup_eraseDups _)
  · rw [hkeys, List.mem_map]
    constructor
    · rintro ⟨k, hk, rfl⟩
      obtain ⟨e, he, rfl⟩ := List.mem_map.1 (List.mem_eraseDups.1 hk)
      exact ⟨e, he, isKeyed_iff.1 (hxs e he)⟩
    · rintro ⟨e, he, hj⟩
      rw [isKeyed_iff.1 (hxs e he)] at hj
      cases hj
      exact ⟨_, List.mem_eraseDups.2 (List.mem_map_of_mem he), rfl⟩
  · have hreverse : (columns keyField value xs).reverse =
        (columns keyField value back).reverse ++ (k, value.keptOf e) ::
          (columns keyField value front).reverse := by
      simp [columns, hsplit, keyText_of_get? hk]
    have hlater : ∀ c ∈ (columns keyField value back).reverse, (k != c.1) = true := by
      intro c hc
      obtain ⟨f, hf, rfl⟩ := List.mem_map.1 (List.mem_reverse.1 hc)
      refine bne_iff_ne.2 fun hkf => hback f hf ?_
      have hkeyed := hxs f (by rw [hsplit]; exact List.mem_append_right _ (List.mem_cons_of_mem e hf))
      rw [isKeyed_iff.1 hkeyed, hkf]
    rw [Mapping.get?_ofEntries]
    exact List.lookup_eq_some_iff.2 ⟨_, _, hreverse, hlater⟩

/-- **What a keyed rule writes.**  Let the entries at the source of a keyed rule be mappings with texts under
its key field.  It writes a mapping with their keys, in which each shows what is kept of the last entry that
has it: the value of a field, nothing where that entry does not have the field, or the fixed value.  With
further entries after them, it writes this mapping, overwritten by what it writes for those alone; and for
no entries it writes the empty mapping. -/
theorem keyed_writes (source target keyField : String) (value : EntryValue) {xs ys : List Mapping}
    (hxs : ∀ e ∈ xs, IsKeyed keyField e) (hys : ∀ e ∈ ys, IsKeyed keyField e) :
    ∃ m n : Mapping,
      (keyed source target keyField value).Writes xs m ∧ LastCounts keyField value xs m ∧
      (keyed source target keyField value).Writes ys n ∧ LastCounts keyField value ys n ∧
      (keyed source target keyField value).Writes (xs ++ ys) (m.overwrittenBy n) ∧
      (keyed source target keyField value).Writes [] [] := by
  have hm := mappingOf_entries value hxs
  have hn := mappingOf_entries value hys
  exact ⟨_, _, writes_of_mappingOf hm, lastCounts_of_mappingOf hxs hm, writes_of_mappingOf hn,
    lastCounts_of_mappingOf hys hn, writes_of_mappingOf (mappingOf_append hxs hys hm hn),
    writes_of_mappingOf rfl⟩

/-- An entry with a binding, and with a queue if there is one. -/
def producer (binding : String) (queue : List (String × Value)) : Mapping :=
  (.text "binding", .text binding) :: queue.map fun e => (.text e.1, e.2)

/-- Producers two of which share a binding, and one names no queue. -/
def firstProducers : List Mapping :=
  [producer "OUT" [("queue", .text "orders")], producer "LOG" [], producer "OUT" [("queue", .text "mail")]]

def moreProducers : List Mapping :=
  [producer "LOG" [("queue", .text "logs")], producer "NEW" [("queue", .text "fresh")]]

/-- The shared binding leads to the later queue and the other one to nothing, until there are more. -/
theorem keyed_writes_of_producers :
    let r := keyed "queues.producers" "queue_producers" "binding" (.field "queue")
    let d (entries : List Mapping) : Value :=
      Value.record [("queues", Value.record [("producers", .list (entries.map .map))])]
    let w := Worker.named "main"
    (∀ e ∈ firstProducers, IsKeyed "binding" e) ∧ (∀ e ∈ moreProducers, IsKeyed "binding" e) ∧
      ∃ m n : Mapping,
        (r.perform (d firstProducers)).on w = (.ok true, w.set .queueProducers (.plain (.map m))) ∧
        Mapping.get? m "OUT" = some (.text "mail") ∧ Mapping.get? m "LOG" = some .null ∧
        (r.perform (d moreProducers)).on w = (.ok true, w.set .queueProducers (.plain (.map n))) ∧
        Mapping.get? n "LOG" = some (.text "logs") ∧
        (r.perform (d (firstProducers ++ moreProducers))).on w =
          (.ok true, w.set .queueProducers (.plain (.map (m.overwrittenBy n)))) ∧
        (r.perform (d [])).on w = (.ok true, w.set .queueProducers (.plain (.map []))) := by
  intro r d w
  have hfirst : ∀ e ∈ firstProducers, IsKeyed "binding" e := by decide
  have hmore : ∀ e ∈ moreProducers, IsKeyed "binding" e := by decide
  obtain ⟨m, n, hm, hlast, hn, hlast', hmn, hnone⟩ :=
    keyed_writes "queues.producers" "queue_producers" "binding" (.field "queue") hfirst hmore
  have hfield : r.target = WorkerField.queueProducers.key := rfl
  refine ⟨hfirst, hmore, m, n, hm.on_field hfield rfl w, ?_, ?_, hn.on_field hfield rfl w, ?_,
    hmn.on_field hfield rfl w, hnone.on_field hfield rfl w⟩
  · exact hlast.last [_, _] _ [] "OUT" rfl rfl nofun
  · exact hlast.last [_] _ [_] "LOG" rfl rfl (by decide)
  · exact hlast'.last [] _ [_] "LOG" rfl rfl (by decide)

end Rule

end EdgeRig
