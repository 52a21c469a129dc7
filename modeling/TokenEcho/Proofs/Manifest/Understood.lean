import TokenEcho.Proofs.Manifest.Fields
import TokenEcho.Proofs.Manifest.Lookup
import TokenEcho.Proofs.Toml.Document

/-!
# What a document says

A document says something about a manifest by the values of four keys in three sections. If a value
or a section is of a wrong type, then nothing of the document counts; otherwise everything that it
says does, and nothing else. A key has at most one value in a document, since no table has a key
twice, so `hasKey_unique` makes the manifest the only one that the document describes.
-/

namespace TokenEcho.Manifest

/-- The types that keys of a manifest have. -/
inductive KeyType where
  | string
  | boolean

/-- A value is of a type. -/
def KeyType.Has : KeyType → Toml.Value → Prop
  | string, v => ∃ text, v = .string text
  | boolean, v => ∃ b, v = .boolean b

/-- The sections of a manifest, and their keys in order. -/
def sectionTypes : List (String × List (String × KeyType)) :=
  [("project", [("name", .string)]), ("lexer", [("strict", .boolean)]),
    ("output", [("banner", .boolean), ("format", .string)])]

/-- A value is a section: a table, or what is read as one, in which the known keys have their
types. -/
def IsSection (types : List (String × KeyType)) (v : Toml.Value) : Prop :=
  ∃ table, v.asTable? (types.map Prod.fst) = some table ∧
    ∀ t ∈ types, ∀ held, Toml.Holds table t.1 held → t.2.Has held

/-- What a document has under the name of a section is one. -/
def WellTyped (entries : List Toml.Entry) : Prop :=
  ∀ s ∈ sectionTypes, ∀ v, Toml.Holds entries s.1 v → IsSection s.2 v

/-- A document has a section, as a table. -/
def HasSection (entries : List Toml.Entry) (name : String) (table : List Toml.Entry) : Prop :=
  ∃ types v, (name, types) ∈ sectionTypes ∧ Toml.Holds entries name v ∧
    v.asTable? (types.map Prod.fst) = some table

/-- A document has a value for a key of a section. -/
def HasKey (entries : List Toml.Entry) (name key : String) (v : Toml.Value) : Prop :=
  ∃ table, HasSection entries name table ∧ Toml.Holds table key v

/-- Two documents have the same values for all known keys, whatever else there is in them, and
wherever it stands. -/
def SameKeys (entries entries' : List Toml.Entry) : Prop :=
  ∀ s ∈ sectionTypes, ∀ t ∈ s.2, ∀ v, HasKey entries s.1 t.1 v ↔ HasKey entries' s.1 t.1 v

def IsName (name? : Option String) (v : Toml.Value) : Prop :=
  ∃ text, v = .string text ∧ name? = some text

def IsBoolean (b : Bool) (v : Toml.Value) : Prop := v = .boolean b

def IsText (text : String) (v : Toml.Value) : Prop := v = .string text

/-- The parts of a manifest are what a document says about them, and the defaults where it says
nothing. -/
structure Describes (entries : List Toml.Entry) (s : Sections) : Prop where
  name : TakenFrom (HasKey entries "project" "name") IsName none s.project.name?
  strict : TakenFrom (HasKey entries "lexer" "strict") IsBoolean false s.lexer.strict
  banner : TakenFrom (HasKey entries "output" "banner") IsBoolean true s.output.banner
  format : TakenFrom (HasKey entries "output" "format") IsText "text" s.output.format

/-- What comes of a document: a manifest that it describes, unless a type or the format is wrong;
and what comes of it comes of every document that says the same. -/
structure Understood (source : String) (entries : List Toml.Entry) (directory : Path) : Prop where
  ok_iff : (∃ m, ofText source directory = .ok m) ↔ WellTyped entries ∧
    ∀ text, HasKey entries "output" "format" (.string text) → text = "text" ∨ text = "json"
  describes : ∀ m, ofText source directory = .ok m →
    Describes entries m.toSections ∧ m.directory = directory
  json_iff : ∀ m, ofText source directory = .ok m →
    (m.output.outputFormat = .json ↔ HasKey entries "output" "format" (.string "json"))
  mismatch_iff : (∃ x, ofText source directory = .error (.mismatch source x)) ↔ ¬ WellTyped entries
  unknownFormat_iff : ∀ text, ofText source directory = .error (.unknownFormat text) ↔
    WellTyped entries ∧ HasKey entries "output" "format" (.string text) ∧
      text ≠ "text" ∧ text ≠ "json"
  same : ∀ source' entries', Toml.parse? source' = some entries' → WellTyped entries →
    WellTyped entries' → SameKeys entries entries' →
      ofText source' directory = ofText source directory

variable {entries entries' : List Toml.Entry} {s s' : Sections} {name key : String}

/-! ### The fields of a manifest -/

theorem expecting_eq_ok_iff {α : Type} {expected : String} {pick : Toml.Value → Option α}
    {item : Toml.ByteRange × Toml.Value} {x : α} :
    expecting expected pick item = .ok x ↔ pick item.2 = some x := by
  rw [expecting]
  cases pick item.2 with
  | none => exact ⟨nofun, nofun⟩
  | some y => rw [Except.ok.injEq, Option.some.injEq]

theorem asBoolean_eq_ok_iff (item : Toml.ByteRange × Toml.Value) (b : Bool) :
    asBoolean item = .ok b ↔ IsBoolean b item.2 := by
  rw [asBoolean, expecting_eq_ok_iff, IsBoolean]
  cases item.2 <;> simp

theorem asString_eq_ok_iff (item : Toml.ByteRange × Toml.Value) (text : String) :
    asString item = .ok text ↔ IsText text item.2 := by
  rw [asString, expecting_eq_ok_iff, IsText]
  cases item.2 <;> simp

theorem fills_name :
    Fills (fun (s : ProjectKeys) item => return { s with name? := some (← asString item) })
      IsText (fun s text => { s with name? := some text }) :=
  fills_of_decode asString_eq_ok_iff

theorem fills_strict :
    Fills (fun (s : LexerKeys) item => return { s with strict := ← asBoolean item })
      IsBoolean (fun s b => { s with strict := b }) :=
  fills_of_decode asBoolean_eq_ok_iff

theorem fills_banner :
    Fills (fun (s : OutputKeys) item => return { s with banner := ← asBoolean item })
      IsBoolean (fun s b => { s with banner := b }) :=
  fills_of_decode asBoolean_eq_ok_iff

theorem fills_format :
    Fills (fun (s : OutputKeys) item => return { s with format := ← asString item })
      IsText (fun s text => { s with format := text }) :=
  fills_of_decode asString_eq_ok_iff

theorem typed_projectFields : Typed KeyType.Has projectFields [("name", .string)] :=
  .cons ⟨rfl, fills_name.exists_iff⟩ .nil

theorem typed_lexerFields : Typed KeyType.Has lexerFields [("strict", .boolean)] :=
  .cons ⟨rfl, fills_strict.exists_iff⟩ .nil

theorem typed_outputFields :
    Typed KeyType.Has outputFields [("banner", .boolean), ("format", .string)] :=
  .cons ⟨rfl, fills_banner.exists_iff⟩ (.cons ⟨rfl, fills_format.exists_iff⟩ .nil)

theorem takenFrom_of_projectFields {start keys : ProjectKeys}
    (h : takeEntries projectFields start entries = .ok keys) :
    TakenFrom (Toml.Holds entries "name") IsName start.name? keys.name? := by
  refine takenFrom_of_takeEntries ProjectKeys.name? rfl ?_ ?_ h
  · intro x item y hok
    obtain ⟨text, hv, rfl⟩ := (fills_name x item y).1 hok
    exact ⟨text, hv, rfl⟩
  · exact List.forall_mem_cons.2 ⟨absurd rfl, nofun⟩

theorem takenFrom_of_lexerFields {start keys : LexerKeys}
    (h : takeEntries lexerFields start entries = .ok keys) :
    TakenFrom (Toml.Holds entries "strict") IsBoolean start.strict keys.strict := by
  refine takenFrom_of_takeEntries LexerKeys.strict rfl ?_ ?_ h
  · exact fills_strict.sets fun _ _ => rfl
  · exact List.forall_mem_cons.2 ⟨absurd rfl, nofun⟩

theorem takenFrom_of_outputFields {start keys : OutputKeys}
    (h : takeEntries outputFields start entries = .ok keys) :
    TakenFrom (Toml.Holds entries "banner") IsBoolean start.banner keys.banner ∧
    TakenFrom (Toml.Holds entries "format") IsText start.format keys.format := by
  refine ⟨takenFrom_of_takeEntries OutputKeys.banner rfl ?_ ?_ h,
    takenFrom_of_takeEntries OutputKeys.format rfl ?_ ?_ h⟩
  · exact fills_banner.sets fun _ _ => rfl
  · refine List.forall_mem_cons.2 ⟨absurd rfl, List.forall_mem_cons.2 ⟨fun _ => ?_, nofun⟩⟩
    exact fills_format.keeps fun _ _ => rfl
  · exact fills_format.sets fun _ _ => rfl
  · refine List.forall_mem_cons.2 ⟨fun _ => ?_, List.forall_mem_cons.2 ⟨absurd rfl, nofun⟩⟩
    exact fills_banner.keeps fun _ _ => rfl

/-! ### The sections of a manifest -/

/-- A section is read from a value with certain fields. -/
def ReadsAs {α : Type} (fields : Fields α) (start keys : α) (v : Toml.Value) : Prop :=
  ∃ table, v.asTable? (fields.map Prod.fst) = some table ∧ takeEntries fields start table = .ok keys

section

variable {α : Type} {fields : Fields α} {start : α} {types : List (String × KeyType)}

theorem exists_readsAs_iff {v : Toml.Value} (hnames : (types.map Prod.fst).Nodup)
    (hfields : Typed KeyType.Has fields types) :
    (∃ keys, ReadsAs fields start keys v) ↔ IsSection types v := by
  simp only [ReadsAs, IsSection, hfields.names]
  rw [exists_comm]
  refine exists_congr fun table => ?_
  rw [exists_and_left, exists_takeEntries_iff hnames hfields]

/-- A field for a section fills it as its fields do. -/
theorem fills_section {expected : String} {put : Sections → α → Sections}
    (hnames : (fields.map Prod.fst).Nodup) :
    Fills (fun s item => return put s (← asSection expected fields start item))
      (ReadsAs fields start) put :=
  fills_of_decode fun _ _ => asSection_eq_ok_iff hnames

end

theorem fills_project :
    Fills (fun (s : Sections) item =>
        return { s with project := ← asSection "struct ProjectSection" projectFields {} item })
      (ReadsAs projectFields {}) (fun s keys => { s with project := keys }) :=
  fills_section (by decide)

theorem fills_lexer :
    Fills (fun (s : Sections) item =>
        return { s with lexer := ← asSection "struct LexerSection" lexerFields {} item })
      (ReadsAs lexerFields {}) (fun s keys => { s with lexer := keys }) :=
  fills_section (by decide)

theorem fills_output :
    Fills (fun (s : Sections) item =>
        return { s with output := ← asSection "struct OutputSection" outputFields {} item })
      (ReadsAs outputFields {}) (fun s keys => { s with output := keys }) :=
  fills_section (by decide)

theorem typed_sectionFields : Typed IsSection sectionFields sectionTypes := by
  refine .cons ⟨rfl, fun s item => ?_⟩ (.cons ⟨rfl, fun s item => ?_⟩
    (.cons ⟨rfl, fun s item => ?_⟩ .nil))
  · exact (fills_project.exists_iff s item).trans
      (exists_readsAs_iff (by decide) typed_projectFields)
  · exact (fills_lexer.exists_iff s item).trans
      (exists_readsAs_iff (by decide) typed_lexerFields)
  · exact (fills_output.exists_iff s item).trans
      (exists_readsAs_iff (by decide) typed_outputFields)

theorem exists_sections_iff :
    (∃ s, takeEntries sectionFields {} entries = .ok s) ↔ WellTyped entries :=
  exists_takeEntries_iff (by decide) typed_sectionFields

/-- What becomes of each section. -/
theorem takenFrom_of_sections (h : takeEntries sectionFields {} entries = .ok s) :
    TakenFrom (Toml.Holds entries "project") (ReadsAs projectFields {}) {} s.project ∧
    TakenFrom (Toml.Holds entries "lexer") (ReadsAs lexerFields {}) {} s.lexer ∧
    TakenFrom (Toml.Holds entries "output") (ReadsAs outputFields {}) {} s.output := by
  refine ⟨takenFrom_of_takeEntries Sections.project rfl ?_ ?_ h,
    takenFrom_of_takeEntries Sections.lexer rfl ?_ ?_ h,
    takenFrom_of_takeEntries Sections.output rfl ?_ ?_ h⟩
  · exact fills_project.sets fun _ _ => rfl
  · refine List.forall_mem_cons.2 ⟨absurd rfl, List.forall_mem_cons.2 ⟨fun _ => ?_,
      List.forall_mem_cons.2 ⟨fun _ => ?_, nofun⟩⟩⟩
    · exact fills_lexer.keeps fun _ _ => rfl
    · exact fills_output.keeps fun _ _ => rfl
  · exact fills_lexer.sets fun _ _ => rfl
  · refine List.forall_mem_cons.2 ⟨fun _ => ?_, List.forall_mem_cons.2 ⟨absurd rfl,
      List.forall_mem_cons.2 ⟨fun _ => ?_, nofun⟩⟩⟩
    · exact fills_project.keeps fun _ _ => rfl
    · exact fills_output.keeps fun _ _ => rfl
  · exact fills_output.sets fun _ _ => rfl
  · refine List.forall_mem_cons.2 ⟨fun _ => ?_, List.forall_mem_cons.2 ⟨fun _ => ?_,
      List.forall_mem_cons.2 ⟨absurd rfl, nofun⟩⟩⟩
    · exact fills_project.keeps fun _ _ => rfl
    · exact fills_lexer.keeps fun _ _ => rfl

/-! ### What is said at a key -/

theorem types_unique {types types' : List (String × KeyType)} (h : (name, types) ∈ sectionTypes)
    (h' : (name, types') ∈ sectionTypes) : types = types' := by
  have hnames : (sectionTypes.map Prod.fst).Nodup := by decide
  exact congrArg Prod.snd (List.inj_on_of_nodup_map hnames h h' rfl)

section

variable (hkeyed : (Toml.Value.table entries).Keyed)
include hkeyed

theorem hasSection_unique {table table' : List Toml.Entry} (h : HasSection entries name table)
    (h' : HasSection entries name table') : table = table' := by
  obtain ⟨types, v, htypes, hv, htable⟩ := h
  obtain ⟨types', v', htypes', hv', htable'⟩ := h'
  obtain rfl := types_unique htypes htypes'
  cases hkeyed with
  | table nodup _ =>
      obtain rfl := Toml.holds_unique nodup hv hv'
      exact Option.some.inj (htable.symm.trans htable')

theorem nodup_of_hasSection {table : List Toml.Entry} (h : HasSection entries name table) :
    (table.map Prod.fst).Nodup := by
  obtain ⟨types, v, htypes, ⟨range, hmem⟩, htable⟩ := h
  have hkeys : ∀ s ∈ sectionTypes, (s.2.map Prod.fst).Nodup := by decide
  cases hkeyed with
  | table _ mem => exact Toml.nodup_of_asTable? (mem _ hmem) (hkeys _ htypes) htable

/-- A key has one value. -/
theorem hasKey_unique {v v' : Toml.Value} (hv : HasKey entries name key v)
    (hv' : HasKey entries name key v') : v = v' := by
  obtain ⟨table, htable, hv⟩ := hv
  obtain ⟨table', htable', hv'⟩ := hv'
  obtain rfl := hasSection_unique hkeyed htable htable'
  exact Toml.holds_unique (nodup_of_hasSection hkeyed htable) hv hv'

/-- What a section is filled with is what the document says at its keys. -/
theorem TakenFrom.inside {α β : Type} {fields : Fields α} {start keys : α}
    {types : List (String × KeyType)} {Means : β → Toml.Value → Prop} {get : α → β}
    (htypes : (name, types) ∈ sectionTypes) (hnames : fields.map Prod.fst = types.map Prod.fst)
    (hinner : ∀ keys table, takeEntries fields start table = .ok keys →
      TakenFrom (Toml.Holds table key) Means (get start) (get keys))
    (h : TakenFrom (Toml.Holds entries name) (ReadsAs fields start) start keys) :
    TakenFrom (HasKey entries name key) Means (get start) (get keys) := by
  rcases h with ⟨held, hheld, table, htable, htake⟩ | ⟨hnone, rfl⟩
  · rw [hnames] at htable
    have hsection : HasSection entries name table := ⟨types, held, htypes, hheld, htable⟩
    rcases hinner keys table htake with ⟨v, hv, hmeans⟩ | ⟨hnone, hdefault⟩
    · exact .inl ⟨v, ⟨table, hsection, hv⟩, hmeans⟩
    · refine .inr ⟨?_, hdefault⟩
      rintro v ⟨table', hsection', hv⟩
      obtain rfl := hasSection_unique hkeyed hsection hsection'
      exact hnone v hv
  · refine .inr ⟨?_, rfl⟩
    rintro v ⟨_, ⟨_, held, _, hheld, _⟩, _⟩
    exact hnone held hheld

theorem describes_of_takeEntries (h : takeEntries sectionFields {} entries = .ok s) :
    Describes entries s := by
  obtain ⟨hproject, hlexer, houtput⟩ := takenFrom_of_sections h
  constructor
  · exact hproject.inside hkeyed (.head _) rfl fun _ _ => takenFrom_of_projectFields
  · exact hlexer.inside hkeyed (.tail _ (.head _)) rfl fun _ _ => takenFrom_of_lexerFields
  · exact houtput.inside hkeyed (.tail _ (.tail _ (.head _))) rfl fun _ _ h =>
      (takenFrom_of_outputFields h).1
  · exact houtput.inside hkeyed (.tail _ (.tail _ (.head _))) rfl fun _ _ h =>
      (takenFrom_of_outputFields h).2

theorem describes_unique (hs : Describes entries s) (hs' : Describes entries' s')
    (hsame : SameKeys entries entries') : s = s' := by
  have hgiven (name key : String) (v v' : Toml.Value) (hv : HasKey entries name key v)
      (hv' : HasKey entries name key v') : v = v' := hasKey_unique hkeyed hv hv'
  have hname : s.project.name? = s'.project.name? := by
    refine hs.name.unique hs'.name (hsame _ (.head _) _ (.head _)) (hgiven _ _) ?_
    rintro _ _ _ ⟨text, rfl, rfl⟩ ⟨_, ⟨⟩, rfl⟩
    rfl
  have hstrict : s.lexer.strict = s'.lexer.strict := by
    refine hs.strict.unique hs'.strict (hsame _ (.tail _ (.head _)) _ (.head _)) (hgiven _ _) ?_
    rintro _ _ _ rfl ⟨⟩
    rfl
  have hbanner : s.output.banner = s'.output.banner := by
    refine hs.banner.unique hs'.banner (hsame _ (.tail _ (.tail _ (.head _))) _ (.head _))
      (hgiven _ _) ?_
    rintro _ _ _ rfl ⟨⟩
    rfl
  have hformat : s.output.format = s'.output.format := by
    refine hs.format.unique hs'.format
      (hsame _ (.tail _ (.tail _ (.head _))) _ (.tail _ (.head _))) (hgiven _ _) ?_
    rintro _ _ _ rfl ⟨⟩
    rfl
  obtain ⟨⟨name?⟩, ⟨strict⟩, ⟨banner, format⟩⟩ := s
  obtain ⟨⟨name?'⟩, ⟨strict'⟩, ⟨banner', format'⟩⟩ := s'
  cases hname
  cases hstrict
  cases hbanner
  cases hformat
  rfl

theorem format_of_hasKey {text : String} (hs : Describes entries s)
    (h : HasKey entries "output" "format" (.string text)) : s.output.format = text := by
  rcases hs.format with ⟨v, hv, rfl⟩ | ⟨hnone, -⟩
  · exact Toml.Value.string.inj (hasKey_unique hkeyed hv h)
  · exact absurd h (hnone _)

end

theorem hasKey_format {text : String} (hs : Describes entries s) (h : s.output.format = text)
    (htext : text ≠ "text") : HasKey entries "output" "format" (.string text) := by
  rcases hs.format with ⟨v, hv, rfl⟩ | ⟨-, hdefault⟩
  · rwa [← h]
  · exact absurd (h.symm.trans hdefault) htext

/-- The format is a known one if every format that the document names is. -/
theorem format_known_iff (hkeyed : (Toml.Value.table entries).Keyed) (hs : Describes entries s) :
    OutputFormat.ofName? s.output.format ≠ none ↔
      ∀ text, HasKey entries "output" "format" (.string text) → text = "text" ∨ text = "json" := by
  rw [ne_eq, ofName?_eq_none_iff]
  constructor
  · intro hknown text hkey
    rw [format_of_hasKey hkeyed hs hkey] at hknown
    by_contra hnot
    exact hknown (not_or.1 hnot)
  · rintro hknown ⟨htext, hjson⟩
    exact not_or.2 ⟨htext, hjson⟩ (hknown _ (hasKey_format hs rfl htext))

theorem format_unknown_iff {text : String} (hkeyed : (Toml.Value.table entries).Keyed)
    (hs : Describes entries s) :
    s.output.format = text ∧ OutputFormat.ofName? text = none ↔
      HasKey entries "output" "format" (.string text) ∧ text ≠ "text" ∧ text ≠ "json" := by
  rw [ofName?_eq_none_iff]
  constructor
  · rintro ⟨hformat, htext, hjson⟩
    exact ⟨hasKey_format hs hformat htext, htext, hjson⟩
  · rintro ⟨hkey, hother⟩
    exact ⟨format_of_hasKey hkeyed hs hkey, hother⟩

/-! ### Documents -/

section

variable {source : String} {directory : Path}

theorem ofEntries_eq_ok_iff {m : Manifest} :
    ofEntries source entries directory = .ok m ↔
      takeEntries sectionFields {} entries = .ok m.toSections ∧
        OutputFormat.ofName? m.output.format ≠ none ∧ m.directory = directory := by
  rw [ofEntries]
  cases takeEntries sectionFields {} entries with
  | error x => simp
  | ok s =>
      dsimp only
      constructor
      · intro h
        split at h
        · cases h
        · next format hname =>
            cases h
            exact ⟨rfl, hname.trans_ne (Option.some_ne_none format), rfl⟩
      · rintro ⟨hs, hknown, rfl⟩
        cases hs
        obtain ⟨format, hname⟩ := Option.ne_none_iff_exists'.1 hknown
        rw [hname]

theorem ofEntries_eq_mismatch_iff {x : Mismatch} :
    ofEntries source entries directory = .error (.mismatch source x) ↔
      takeEntries sectionFields {} entries = .error x := by
  simp [ofEntries_eq_error_iff]

theorem ofEntries_eq_unknownFormat_iff {text : String} :
    ofEntries source entries directory = .error (.unknownFormat text) ↔
      ∃ s, takeEntries sectionFields {} entries = .ok s ∧
        s.output.format = text ∧ OutputFormat.ofName? text = none := by
  rw [ofEntries_eq_error_iff]
  constructor
  · rintro (⟨_, _, ⟨⟩⟩ | ⟨s, htake, hname, ⟨⟩⟩)
    exact ⟨s, htake, rfl, hname⟩
  · rintro ⟨s, htake, rfl, hname⟩
    exact .inr ⟨s, htake, hname, rfl⟩

variable (hparse : Toml.parse? source = some entries)
include hparse

theorem ofText_of_parse? : ofText source directory = ofEntries source entries directory := by
  rw [ofText, hparse]

/-- The same manifest, or the same complaint about its format, comes of the same values. -/
theorem ofText_eq_of_sameKeys {source' : String} (hparse' : Toml.parse? source' = some entries')
    (htyped : WellTyped entries) (htyped' : WellTyped entries')
    (hsame : SameKeys entries entries') : ofText source' directory = ofText source directory := by
  have hkeyed := Toml.keyed_of_parse? hparse
  have hkeyed' := Toml.keyed_of_parse? hparse'
  obtain ⟨s, hs⟩ := exists_sections_iff.2 htyped
  obtain ⟨s', hs'⟩ := exists_sections_iff.2 htyped'
  obtain rfl := describes_unique hkeyed (describes_of_takeEntries hkeyed hs)
    (describes_of_takeEntries hkeyed' hs') hsame
  rw [ofText_of_parse? hparse, ofText_of_parse? hparse', ofEntries, ofEntries, hs, hs']

/-- **No manifest by halves.** A document that is read becomes a manifest exactly if all its
sections and keys have their types and its format is known, and then the manifest is what the
document says. A wrong type is reported as one whatever the format, and else a format that is not
known. -/
theorem understood_of_parse? (directory : Path) : Understood source entries directory := by
  have hkeyed := Toml.keyed_of_parse? hparse
  have hdescribes {s : Sections} (htake : takeEntries sectionFields {} entries = .ok s) :
      Describes entries s := describes_of_takeEntries hkeyed htake
  have hread : ofText source directory = _ := ofText_of_parse? hparse
  refine ⟨?ok_iff, ?describes, ?json_iff, ?mismatch_iff, ?unknownFormat_iff, ?same⟩
  case ok_iff =>
    rw [hread, ← exists_sections_iff]
    constructor
    · rintro ⟨m, hm⟩
      obtain ⟨htake, hknown, -⟩ := ofEntries_eq_ok_iff.1 hm
      exact ⟨⟨_, htake⟩, (format_known_iff hkeyed (hdescribes htake)).1 hknown⟩
    · rintro ⟨⟨s, htake⟩, hknown⟩
      have hformat := (format_known_iff hkeyed (hdescribes htake)).2 hknown
      exact ⟨{ s with directory }, ofEntries_eq_ok_iff.2 ⟨htake, hformat, rfl⟩⟩
  case describes =>
    intro m hm
    obtain ⟨htake, -, hdirectory⟩ := ofEntries_eq_ok_iff.1 (hread.symm.trans hm)
    exact ⟨hdescribes htake, hdirectory⟩
  case json_iff =>
    intro m hm
    obtain ⟨htake, -, -⟩ := ofEntries_eq_ok_iff.1 (hread.symm.trans hm)
    rw [OutputKeys.outputFormat_eq_json_iff]
    constructor
    · exact fun hjson => hasKey_format (hdescribes htake) hjson (by decide)
    · exact format_of_hasKey hkeyed (hdescribes htake)
  case mismatch_iff =>
    rw [hread, ← exists_sections_iff]
    simp only [ofEntries_eq_mismatch_iff]
    cases takeEntries sectionFields {} entries <;> simp
  case unknownFormat_iff =>
    intro text
    rw [hread, ofEntries_eq_unknownFormat_iff, ← exists_sections_iff, ← exists_and_right]
    refine exists_congr fun s => and_congr_right fun htake => ?_
    exact format_unknown_iff hkeyed (hdescribes htake)
  case same =>
    intro source' entries' hparse' htyped htyped' hsame
    exact ofText_eq_of_sameKeys hparse hparse' htyped htyped' hsame

end

/-- A document with other keys and another section, and one that gives a section as an array and
the other one by a key with a point. -/
theorem understood_of_parse?_of_other_keys :
    let source := "[other]\nx = 1\n[lexer]\nfast = 0.5\nstrict = true\n[output]\nformat = 'json'"
    let source' := "output.format = \"json\"\nlexer = [true, 1]"
    let m : Manifest :=
      { lexer := { strict := true }, output := { format := "json" }, directory := ⟨"."⟩ }
    ∃ entries entries', Toml.parse? source = some entries ∧ Toml.parse? source' = some entries' ∧
      Understood source entries ⟨"."⟩ ∧ Understood source' entries' ⟨"."⟩ ∧
      ofText source ⟨"."⟩ = .ok m ∧ ofText source' ⟨"."⟩ = .ok m := by
  intro source source' m
  obtain ⟨entries, hparse⟩ := Option.isSome_iff_exists.1
    (show (Toml.parse? source).isSome by decide +kernel)
  obtain ⟨entries', hparse'⟩ := Option.isSome_iff_exists.1
    (show (Toml.parse? source').isSome by decide +kernel)
  exact ⟨entries, entries', hparse, hparse', understood_of_parse? hparse ⟨"."⟩,
    understood_of_parse? hparse' ⟨"."⟩, by decide +kernel, by decide +kernel⟩

/-- An array is taken for a section. -/
theorem ofText_of_array :
    ∃ entries v, Toml.parse? "lexer = []" = some entries ∧ Toml.Holds entries "lexer" v ∧
      (∀ table, v ≠ .table table) ∧
      ofText "lexer = []" ⟨"."⟩ = .ok { directory := ⟨"."⟩ } := by
  have hkinds : (Toml.parse? "lexer = []").map (·.map fun e => (e.1, e.2.2.description)) =
      some [("lexer", "sequence")] := by decide +kernel
  obtain ⟨entries, hparse, hentries⟩ := Option.map_eq_some_iff.1 hkinds
  obtain ⟨⟨name, range, v⟩, rfl, hentry⟩ := List.map_eq_singleton_iff.1 hentries
  obtain ⟨rfl, hv⟩ := Prod.mk.inj hentry
  refine ⟨_, v, hparse, ⟨range, .head _⟩, ?_, by decide +kernel⟩
  rintro table rfl
  exact absurd hv (show "map" ≠ "sequence" by decide)

end TokenEcho.Manifest
