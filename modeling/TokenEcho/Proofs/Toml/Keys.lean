import Mathlib.Data.List.Nodup
import TokenEcho.Toml.Draft

/-!
# No key twice

In a document no table has a key twice. While a document is read this holds of every table in it,
`Entries.Keyed`. All that changes a table comes down to `put`, which replaces what stands under a
key, and to `remove`, and the table that is changed stands at the end of a path; so `Keyed.change`
says once that the tables on the way stay as they should.
-/

namespace TokenEcho.Toml

/-- No table in a value has a key twice. -/
inductive Value.Keyed : Value → Prop where
  | string (text : String) : Keyed (.string text)
  | integer (n : Int) : Keyed (.integer n)
  | float (x : Binary64) : Keyed (.float x)
  | boolean (b : Bool) : Keyed (.boolean b)
  | moment : Keyed .moment
  | array {items : List (ByteRange × Value)} (mem : ∀ item ∈ items, Keyed item.2) :
      Keyed (.array items)
  | table {entries : List Entry} (nodup : (entries.map Prod.fst).Nodup)
      (mem : ∀ entry ∈ entries, Keyed entry.2.2) : Keyed (.table entries)

/-- No table in a draft has a key twice. -/
inductive Draft.Keyed : Draft → Prop where
  | value {range : ByteRange} {v : Value} (hv : v.Keyed) : Keyed (.value range v)
  | table {origin : Origin} {range? : Option ByteRange} {entries : List (Key × Draft)}
      (nodup : (entries.map (·.1.text)).Nodup) (mem : ∀ entry ∈ entries, Keyed entry.2) :
      Keyed (.table origin range? entries)
  | series {elements : List (ByteRange × List (Key × Draft))}
      (nodup : ∀ element ∈ elements, (element.2.map (·.1.text)).Nodup)
      (mem : ∀ element ∈ elements, ∀ entry ∈ element.2, Keyed entry.2) :
      Keyed (.series elements)

/-- No table in a growing table has a key twice, and neither has this one. -/
structure Entries.Keyed (entries : Entries) : Prop where
  nodup : (entries.map (·.1.text)).Nodup
  mem : ∀ entry ∈ entries, entry.2.Keyed

variable {entries entries' : Entries} {key : Key} {d : Draft} {name : String}

theorem Draft.keyed_value_iff {range : ByteRange} {v : Value} :
    (Draft.value range v).Keyed ↔ v.Keyed := by
  constructor
  · rintro ⟨hv⟩
    exact hv
  · exact .value

theorem Draft.keyed_table_iff {origin : Origin} {range? : Option ByteRange} :
    (Draft.table origin range? entries).Keyed ↔ entries.Keyed := by
  constructor
  · rintro (_ | ⟨nodup, mem⟩)
    exact ⟨nodup, mem⟩
  · rintro ⟨nodup, mem⟩
    exact .table nodup mem

theorem Draft.keyed_series_iff {elements : List (ByteRange × Entries)} :
    (Draft.series elements).Keyed ↔ ∀ element ∈ elements, element.2.Keyed := by
  constructor
  · rintro (_ | _ | ⟨nodup, mem⟩) element helement
    exact ⟨nodup element helement, mem element helement⟩
  · intro h
    exact .series (fun element helement => (h element helement).nodup) fun element helement =>
      (h element helement).mem

namespace Entries

theorem keyed_nil : Keyed [] := ⟨List.nodup_nil, nofun⟩

theorem Keyed.at? (h : entries.Keyed) (hat : entries.at? name = some d) : d.Keyed := by
  obtain ⟨entry, hfind, rfl⟩ := Option.map_eq_some_iff.1 hat
  exact h.mem entry (List.mem_of_find?_eq_some hfind)

theorem at?_eq_none_iff : entries.at? name = none ↔ name ∉ entries.map (·.1.text) := by
  rw [at?, Option.map_eq_none_iff, List.find?_eq_none, List.mem_map]
  simp only [beq_iff_eq, not_exists, not_and]

theorem Keyed.put (h : entries.Keyed) (hd : d.Keyed) : (entries.put key d).Keyed := by
  rw [Entries.put]
  split
  · constructor
    · have hsame : ((fun entry : Key × Draft => entry.1.text) ∘ fun entry =>
          if entry.1.text == key.text then (entry.1, d) else entry) = (·.1.text) := by
        funext entry
        dsimp only [Function.comp_apply]
        split <;> rfl
      rw [List.map_map, hsame]
      exact h.nodup
    · intro entry hentry
      obtain ⟨old, hold, rfl⟩ := List.mem_map.1 hentry
      split
      · exact hd
      · exact h.mem old hold
  · next hnone =>
      rw [Option.not_isSome_iff_eq_none, at?_eq_none_iff] at hnone
      constructor
      · rw [List.map_append, List.map_singleton, ← List.concat_eq_append]
        exact h.nodup.concat hnone
      · intro entry hentry
        rcases List.mem_append.1 hentry with hold | hnew
        · exact h.mem entry hold
        · rw [List.mem_singleton.1 hnew]
          exact hd

theorem Keyed.remove (h : entries.Keyed) (name : String) : (entries.remove name).Keyed where
  nodup := (List.filter_sublist.map _).nodup h.nodup
  mem entry hentry := h.mem entry (List.mem_of_mem_filter hentry)

/-- The tables on the way to a table keep their keys apart, if the change of that table does. -/
theorem Keyed.change {pointed : Bool} {f : Origin → Entries → Option Entries} {path : List Key}
    (hf : ∀ origin inner inner', inner.Keyed → f origin inner = some inner' → inner'.Keyed)
    {origin : Origin} (h : entries.Keyed)
    (hchange : entries.change pointed f origin path = some entries') : entries'.Keyed := by
  induction path generalizing entries entries' origin with
  | nil => exact hf origin entries entries' h hchange
  | cons key path ih =>
      rw [Entries.change] at hchange
      split at hchange
      · obtain ⟨inner, hinner, hchange⟩ := Option.bind_eq_some_iff.1 hchange
        cases hchange
        exact h.put (Draft.keyed_table_iff.2 (ih keyed_nil hinner))
      · cases hchange
      · next elements hat =>
          have helements := Draft.keyed_series_iff.1 (h.at? hat)
          obtain ⟨⟨range, last⟩, hlast, hchange⟩ := Option.bind_eq_some_iff.1 hchange
          obtain ⟨inner, hinner, hchange⟩ := Option.bind_eq_some_iff.1 hchange
          cases hchange
          have hinner := ih (helements _ (List.mem_of_getLast? hlast)) hinner
          refine h.put (Draft.keyed_series_iff.2 fun element helement => ?_)
          rcases List.mem_append.1 helement with hold | hnew
          · exact helements element (List.dropLast_subset elements hold)
          · rw [List.mem_singleton.1 hnew]
            exact hinner
      · next made range? inner hat =>
          have hinner := Draft.keyed_table_iff.1 (h.at? hat)
          dsimp only at hchange
          split at hchange
          · cases hchange
          · obtain ⟨inner', hinner', hchange⟩ := Option.bind_eq_some_iff.1 hchange
            cases hchange
            exact h.put (Draft.keyed_table_iff.2 (ih hinner hinner'))

theorem Keyed.assign {keys : List Key} {range : ByteRange} {v : Value} (h : entries.Keyed)
    (hv : v.Keyed) (hassign : entries.assign keys range v = some entries') : entries'.Keyed := by
  obtain ⟨last, -, hassign⟩ := Option.bind_eq_some_iff.1 hassign
  refine h.change (fun origin inner inner' hinner hput => ?_) hassign
  dsimp only at hput
  split at hput
  · cases hput
  · split at hput
    · cases hput
    · cases hput
      exact hinner.put (Draft.keyed_value_iff.2 hv)

theorem Keyed.lookUp {path : List Key} (h : entries.Keyed)
    (hlookUp : openTable.lookUp entries path = some entries') : entries'.Keyed := by
  induction path generalizing entries with
  | nil =>
      cases hlookUp
      exact h
  | cons key path ih =>
      rw [openTable.lookUp] at hlookUp
      split at hlookUp
      · next hat => exact ih (Draft.keyed_table_iff.1 (h.at? hat)) hlookUp
      · next elements hat =>
          obtain ⟨last, hlast, hlookUp⟩ := Option.bind_eq_some_iff.1 hlookUp
          have helements := Draft.keyed_series_iff.1 (h.at? hat)
          exact ih (helements last (List.mem_of_getLast? hlast)) hlookUp
      · cases hlookUp

theorem Keyed.openTable {keys : List Key} {held : Entries} (h : entries.Keyed)
    (hopen : entries.openTable keys = some (entries', held)) : entries'.Keyed ∧ held.Keyed := by
  obtain ⟨last, -, hopen⟩ := Option.bind_eq_some_iff.1 hopen
  obtain ⟨outer, houter, hopen⟩ := Option.bind_eq_some_iff.1 hopen
  obtain ⟨parent, hparent, hopen⟩ := Option.bind_eq_some_iff.1 hopen
  have houter := h.change (fun _ _ _ hinner hsame => Option.some.inj hsame ▸ hinner) houter
  -- What stood under the key goes out of the document, whatever it has held.
  have hremoved (table : Entries) (htable : table.Keyed)
      (hremove : (outer.change false (fun _ inner => some (inner.remove last.text)) .headed
        keys.dropLast >>= fun outer => pure (outer, table)) = some (entries', held)) :
      entries'.Keyed ∧ held.Keyed := by
    obtain ⟨outer', houter', hremove⟩ := Option.bind_eq_some_iff.1 hremove
    cases hremove
    refine ⟨houter.change (fun _ inner _ hinner hremove => ?_) houter', htable⟩
    cases hremove
    exact hinner.remove last.text
  dsimp only at hopen
  split at hopen
  · exact hremoved [] keyed_nil hopen
  · next range? inner hat =>
      have hinner := Draft.keyed_table_iff.1 ((houter.lookUp hparent).at? hat)
      exact hremoved inner hinner hopen
  · cases hopen

theorem Keyed.closeTable {keys : List Key} {range : ByteRange} {table : Entries}
    (h : entries.Keyed) (htable : table.Keyed)
    (hclose : entries.closeTable keys range table = some entries') : entries'.Keyed := by
  obtain ⟨last, -, hclose⟩ := Option.bind_eq_some_iff.1 hclose
  refine h.change (fun origin inner inner' hinner hput => ?_) hclose
  cases hput
  exact hinner.put (Draft.keyed_table_iff.2 htable)

theorem Keyed.pushTable {keys : List Key} {range : ByteRange} {table : Entries}
    (h : entries.Keyed) (htable : table.Keyed)
    (hpush : entries.pushTable keys range table = some entries') : entries'.Keyed := by
  obtain ⟨last, -, hpush⟩ := Option.bind_eq_some_iff.1 hpush
  refine h.change (fun origin inner inner' hinner hput => ?_) hpush
  split at hput
  · cases hput
    refine hinner.put (Draft.keyed_series_iff.2 fun element helement => ?_)
    rw [List.mem_singleton.1 helement]
    exact htable
  · next elements hat =>
      cases hput
      have helements := Draft.keyed_series_iff.1 (hinner.at? hat)
      refine hinner.put (Draft.keyed_series_iff.2 fun element helement => ?_)
      rcases List.mem_append.1 helement with hold | hnew
      · exact helements element hold
      · rw [List.mem_singleton.1 hnew]
        exact htable
  · cases hput

end Entries

/-! ### Tables that are done -/

theorem finishEntries_eq_map (entries : Entries) :
    finishEntries entries =
      entries.map fun entry => (entry.1.text, entry.2.finish entry.1.range) := by
  induction entries with
  | nil => rfl
  | cons entry entries ih => rw [finishEntries, ih, List.map_cons]

theorem finishSeries_eq_map (elements : List (ByteRange × Entries)) :
    finishSeries elements =
      elements.map fun element => (element.1, .table (finishEntries element.2)) := by
  induction elements with
  | nil => rfl
  | cons element elements ih => rw [finishSeries, ih, List.map_cons]

theorem keyed_table_finishEntries (nodup : (entries.map (·.1.text)).Nodup)
    (mem : ∀ entry ∈ entries, ∀ range, (entry.2.finish range).2.Keyed) :
    (Value.table (finishEntries entries)).Keyed := by
  rw [finishEntries_eq_map]
  refine .table ?_ fun entry hentry => ?_
  · rw [List.map_map]
    exact nodup
  · obtain ⟨draft, hdraft, rfl⟩ := List.mem_map.1 hentry
    exact mem draft hdraft draft.1.range

theorem Draft.Keyed.finish (h : d.Keyed) (range : ByteRange) : (d.finish range).2.Keyed := by
  induction h generalizing range with
  | value hv => exact hv
  | table nodup _ ih => exact keyed_table_finishEntries nodup ih
  | @series elements nodup _ ih =>
      rw [Draft.finish, finishSeries_eq_map]
      refine .array fun item hitem => ?_
      obtain ⟨element, helement, rfl⟩ := List.mem_map.1 hitem
      exact keyed_table_finishEntries (nodup element helement) (ih element helement)

theorem Entries.Keyed.finish (h : entries.Keyed) : (Value.table (finishEntries entries)).Keyed :=
  keyed_table_finishEntries h.nodup fun entry hentry => (h.mem entry hentry).finish

end TokenEcho.Toml
