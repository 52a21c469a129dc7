import TokenEcho.Manifest.Decode
import TokenEcho.Proofs.Steps
import TokenEcho.Proofs.Toml.Keys

/-!
# Records from tables

A record is read from the entries of a table in the order they have, each by the field with its
name. Every field takes in the values with a meaning and puts what they mean into a part of the
record that is its own, `Fills`. So a record can be read exactly if every value under a known name
has its type, `exists_takeEntries_iff`, and then each part of it has the meaning of a value under
its name, or is the default, `takenFrom_of_takeEntries`. Neither depends on the order of the
entries.
-/

namespace TokenEcho

namespace Toml

/-- A table has a value under a key. -/
def Holds (entries : List Entry) (key : String) (v : Value) : Prop :=
  ∃ range, (key, range, v) ∈ entries

/-- A value as a table with known keys. An array has its items under the first of these keys, and a
date or a time has nothing under any key. -/
def Value.asTable? (keys : List String) : Value → Option (List Entry)
  | .table entries => some entries
  | .array items => some (keys.zip items)
  | .moment => some []
  | _ => none

variable {entries table : List Entry} {key : String} {v v' : Value}

theorem holds_unique (h : (entries.map Prod.fst).Nodup) (hv : Holds entries key v)
    (hv' : Holds entries key v') : v = v' := by
  obtain ⟨range, hmem⟩ := hv
  obtain ⟨range', hmem'⟩ := hv'
  have hsame := List.inj_on_of_nodup_map h hmem hmem' rfl
  cases hsame
  rfl

theorem map_fst_zip_sublist (keys : List String) (items : List (ByteRange × Value)) :
    List.Sublist ((keys.zip items).map Prod.fst) keys := by
  induction keys generalizing items with
  | nil => exact List.nil_sublist _
  | cons key keys ih =>
      cases items with
      | nil => exact List.nil_sublist _
      | cons item items => exact (ih items).cons_cons key

theorem nodup_of_asTable? {keys : List String} (hv : v.Keyed) (hkeys : keys.Nodup)
    (h : v.asTable? keys = some table) : (table.map Prod.fst).Nodup := by
  cases hv with
  | table nodup _ =>
      cases h
      exact nodup
  | array _ =>
      cases h
      exact (map_fst_zip_sublist _ _).nodup hkeys
  | moment =>
      cases h
      exact List.nodup_nil
  | _ => cases h

end Toml

namespace Manifest

variable {α β : Type}

/-- A part of a record has the meaning of a value that there is for it, or it is the default, and
there is none. -/
def TakenFrom (Given : Toml.Value → Prop) (Means : β → Toml.Value → Prop) (default b : β) : Prop :=
  (∃ v, Given v ∧ Means b v) ∨ (∀ v, ¬ Given v) ∧ b = default

theorem TakenFrom.unique {Given Given' : Toml.Value → Prop} {Means : β → Toml.Value → Prop}
    {default b b' : β} (h : TakenFrom Given Means default b)
    (h' : TakenFrom Given' Means default b')
    (hsame : ∀ v, Given v ↔ Given' v) (hgiven : ∀ v v', Given v → Given v' → v = v')
    (hmeans : ∀ v b b', Means b v → Means b' v → b = b') : b = b' := by
  rcases h with ⟨v, hv, hb⟩ | ⟨hnone, rfl⟩ <;> rcases h' with ⟨v', hv', hb'⟩ | ⟨hnone', rfl⟩
  · obtain rfl := hgiven v v' hv ((hsame v').2 hv')
    exact hmeans v b b' hb hb'
  · exact absurd ((hsame v).1 hv) (hnone' v)
  · exact absurd ((hsame v').2 hv') (hnone v')
  · rfl

/-- A field takes in the values with a meaning, and puts what they mean into a record. -/
def Fills (field : α → Toml.ByteRange × Toml.Value → Except Mismatch α)
    (Means : β → Toml.Value → Prop) (put : α → β → α) : Prop :=
  ∀ x item y, field x item = .ok y ↔ ∃ b, Means b item.2 ∧ put x b = y

/-- A field sets a part of a record to what a value means. -/
def Sets (field : α → Toml.ByteRange × Toml.Value → Except Mismatch α)
    (Means : β → Toml.Value → Prop) (get : α → β) : Prop :=
  ∀ x item y, field x item = .ok y → Means (get y) item.2

/-- A field leaves a part of a record alone. -/
def Keeps (field : α → Toml.ByteRange × Toml.Value → Except Mismatch α) (get : α → β) : Prop :=
  ∀ x item y, field x item = .ok y → get y = get x

/-- Fields have the names of a list, and each takes in the values of the type that stands there. -/
def Typed {τ : Type} (Has : τ → Toml.Value → Prop) (fields : Fields α) (types : List (String × τ)) :
    Prop :=
  List.Forall₂ (fun f t => f.1 = t.1 ∧ ∀ x item, (∃ y, f.2 x item = .ok y) ↔ Has t.2 item.2)
    fields types

variable {fields : Fields α} {start x y : α} {item : Toml.ByteRange × Toml.Value}
  {entries : List Toml.Entry} {name : String}

/-! ### One field -/

section

variable {field : α → Toml.ByteRange × Toml.Value → Except Mismatch α}
  {Means : β → Toml.Value → Prop} {put : α → β → α}

theorem fills_of_decode {decode : Toml.ByteRange × Toml.Value → Except Mismatch β}
    (h : ∀ item b, decode item = .ok b ↔ Means b item.2) :
    Fills (fun x item => return put x (← decode item)) Means put := by
  intro x item y
  rw [bind_eq_ok_iff]
  exact exists_congr fun b => and_congr (h item b) ⟨Except.ok.inj, congrArg Except.ok⟩

theorem Fills.exists_iff (h : Fills field Means put) (x : α)
    (item : Toml.ByteRange × Toml.Value) : (∃ y, field x item = .ok y) ↔ ∃ b, Means b item.2 := by
  constructor
  · rintro ⟨y, hy⟩
    obtain ⟨b, hb, -⟩ := (h x item y).1 hy
    exact ⟨b, hb⟩
  · rintro ⟨b, hb⟩
    exact ⟨put x b, (h x item _).2 ⟨b, hb, rfl⟩⟩

theorem Fills.sets {get : α → β} (h : Fills field Means put) (hget : ∀ x b, get (put x b) = b) :
    Sets field Means get := by
  intro x item y hok
  obtain ⟨b, hb, rfl⟩ := (h x item y).1 hok
  rwa [hget]

theorem Fills.keeps {γ : Type} {get : α → γ} (h : Fills field Means put)
    (hget : ∀ x b, get (put x b) = get x) : Keeps field get := by
  intro x item y hok
  obtain ⟨b, -, rfl⟩ := (h x item y).1 hok
  exact hget x b

end

/-! ### All fields -/

theorem lookup_of_mem {f : String × (α → Toml.ByteRange × Toml.Value → Except Mismatch α)}
    (hnames : (fields.map Prod.fst).Nodup) (hf : f ∈ fields) : fields.lookup f.1 = some f.2 := by
  induction fields with
  | nil => cases hf
  | cons first fields ih =>
      obtain ⟨hfirst, hnames⟩ := List.nodup_cons.1 hnames
      rw [List.lookup_cons]
      rcases List.mem_cons.1 hf with rfl | hf
      · rw [beq_self_eq_true]
      · have hne : (f.1 == first.1) = false :=
          beq_eq_false_iff_ne.2 fun heq => hfirst (heq ▸ List.mem_map_of_mem hf)
        rw [hne]
        exact ih hnames hf

theorem mem_of_lookup {field : α → Toml.ByteRange × Toml.Value → Except Mismatch α}
    (h : fields.lookup name = some field) : (name, field) ∈ fields := by
  obtain ⟨before, after, rfl, -⟩ := List.lookup_eq_some_iff.1 h
  exact List.mem_append_right _ List.mem_cons_self

/-- Takes in one entry of a table, if its name is known. -/
def takeEntry (fields : Fields α) (x : α) (entry : Toml.Entry) : Except Mismatch α :=
  match fields.lookup entry.1 with
  | some field => field x entry.2
  | none => .ok x

theorem takeEntries_eq_foldlM (fields : Fields α) (start : α) (entries : List Toml.Entry) :
    takeEntries fields start entries = entries.foldlM (takeEntry fields) start := rfl

section

variable {τ : Type} {Has : τ → Toml.Value → Prop} {types : List (String × τ)}

theorem Typed.names (h : Typed Has fields types) : fields.map Prod.fst = types.map Prod.fst := by
  induction h with
  | nil => rfl
  | cons hfirst _ ih => rw [List.map_cons, List.map_cons, hfirst.1, ih]

theorem exists_takeEntry_iff (hnames : (types.map Prod.fst).Nodup)
    (hfields : Typed Has fields types) (entry : Toml.Entry) :
    (∃ y, takeEntry fields x entry = .ok y) ↔ ∀ t ∈ types, t.1 = entry.1 → Has t.2 entry.2.2 := by
  induction hfields with
  | nil => exact ⟨fun _ => nofun, fun _ => ⟨x, rfl⟩⟩
  | @cons f t fields types hfirst _ ih =>
      obtain ⟨hnotMem, hnames⟩ := List.nodup_cons.1 hnames
      obtain ⟨hname, htype⟩ := hfirst
      obtain ⟨key, item⟩ := entry
      rw [takeEntry, List.lookup_cons, List.forall_mem_cons]
      by_cases heq : key = f.1
      · subst heq
        have hother : ∀ t' ∈ types, t'.1 = f.1 → Has t'.2 item.2 := fun t' ht' heq =>
          absurd (List.mem_map_of_mem ht') (heq.trans hname ▸ hnotMem)
        rw [beq_self_eq_true]
        exact (htype x item).trans ⟨fun h => ⟨fun _ => h, hother⟩, fun h => h.1 hname.symm⟩
      · rw [beq_eq_false_iff_ne.2 heq]
        refine (ih hnames).trans (and_iff_right fun hsame => ?_).symm
        exact absurd (hname.trans hsame).symm heq

/-- A record can be read if every value under a known name has its type. -/
theorem exists_takeEntries_iff (hnames : (types.map Prod.fst).Nodup)
    (hfields : Typed Has fields types) :
    (∃ y, takeEntries fields start entries = .ok y) ↔
      ∀ t ∈ types, ∀ v, Toml.Holds entries t.1 v → Has t.2 v := by
  rw [takeEntries_eq_foldlM,
    exists_foldlM_eq_ok_iff fun x entry _ => exists_takeEntry_iff hnames hfields entry]
  constructor
  · rintro h t ht v ⟨range, hmem⟩
    exact h _ hmem t ht rfl
  · rintro h ⟨key, range, v⟩ hmem t ht rfl
    exact h t ht v ⟨range, hmem⟩

end

/-- What a part of a record is after all entries have been taken in. -/
theorem takenFrom_of_takeEntries {field : α → Toml.ByteRange × Toml.Value → Except Mismatch α}
    {Means : β → Toml.Value → Prop} (get : α → β) (hname : fields.lookup name = some field)
    (hsets : Sets field Means get)
    (hkeeps : ∀ f ∈ fields, f.1 ≠ name → Keeps f.2 get)
    (h : takeEntries fields start entries = .ok y) :
    TakenFrom (Toml.Holds entries name) Means (get start) (get y) := by
  rw [takeEntries_eq_foldlM] at h
  induction entries generalizing start with
  | nil =>
      cases h
      refine .inr ⟨?_, rfl⟩
      rintro v ⟨range, ⟨⟩⟩
  | cons entry entries ih =>
      obtain ⟨mid, hfirst, hmore⟩ := foldlM_cons_eq_ok_iff.1 h
      rcases ih hmore with ⟨v, ⟨range, hmem⟩, hv⟩ | ⟨hnone, hsame⟩
      · exact .inl ⟨v, ⟨range, List.mem_cons_of_mem _ hmem⟩, hv⟩
      · rw [hsame]
        rw [takeEntry] at hfirst
        by_cases heq : entry.1 = name
        · rw [heq, hname] at hfirst
          refine .inl ⟨entry.2.2, ⟨entry.2.1, ?_⟩, hsets _ _ _ hfirst⟩
          rw [← heq]
          exact List.mem_cons_self
        · refine .inr ⟨?_, ?_⟩
          · rintro v ⟨range, hmem⟩
            rcases List.mem_cons.1 hmem with rfl | hmem
            · exact heq rfl
            · exact hnone v ⟨range, hmem⟩
          · split at hfirst
            · next field' hfield' =>
                exact hkeeps (entry.1, field') (mem_of_lookup hfield') heq _ _ _ hfirst
            · cases hfirst
              rfl

/-! ### Tables, arrays and dates -/

theorem foldlM_zip_eq_takeEntries {first : Fields α}
    (hfirst : ∀ f ∈ first, fields.lookup f.1 = some f.2)
    (items : List (Toml.ByteRange × Toml.Value)) :
    (first.zip items).foldlM (fun x (field, item) => field.2 x item) start =
      takeEntries fields start ((first.map Prod.fst).zip items) := by
  induction first generalizing items start with
  | nil => rfl
  | cons f first ih =>
      cases items with
      | nil => rfl
      | cons item items =>
          obtain ⟨hf, hfirst⟩ := List.forall_mem_cons.1 hfirst
          rw [takeEntries_eq_foldlM, List.map_cons, List.zip_cons_cons, List.zip_cons_cons,
            List.foldlM_cons, List.foldlM_cons]
          have hentry : takeEntry fields start (f.1, item) = f.2 start item := by
            rw [takeEntry, hf]
          rw [hentry]
          exact bind_congr fun x => ih hfirst items

/-- A section is read as a table. -/
theorem asSection_eq_ok_iff {expected : String} (hnames : (fields.map Prod.fst).Nodup) :
    asSection expected fields start item = .ok y ↔
      ∃ table, item.2.asTable? (fields.map Prod.fst) = some table ∧
        takeEntries fields start table = .ok y := by
  obtain ⟨range, v⟩ := item
  have hread (table : List Toml.Entry)
      (hsame : asSection expected fields start (range, v) = takeEntries fields start table) :
      asSection expected fields start (range, v) = .ok y ↔ ∃ table', some table = some table' ∧
        takeEntries fields start table' = .ok y := by
    rw [hsame]
    exact ⟨fun h => ⟨table, rfl, h⟩, fun ⟨_, htable, h⟩ => Option.some.inj htable ▸ h⟩
  cases v with
  | table entries => exact hread entries rfl
  | array items =>
      exact hread _ (foldlM_zip_eq_takeEntries (fun f hf => lookup_of_mem hnames hf) items)
  | moment => exact hread [] rfl
  | _ => exact ⟨nofun, nofun⟩

end Manifest

end TokenEcho
