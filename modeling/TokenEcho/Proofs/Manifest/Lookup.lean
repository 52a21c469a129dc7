import TokenEcho.Manifest.Lookup

/-!
# Which manifest counts, and when it is bad

The search for a manifest goes up one directory at a time. `nearest?_eq_first?` says that it finds
the first one in the row of a directory and those above it, so both ways to load a manifest take the
first one in a row of directories. What is wrong with a manifest is said apart from how it is
loaded, by `Bad`, and `load_eq_error_iff` says that these are all the reasons not to load it.
-/

namespace TokenEcho

theorem Path.ancestors_of_parent?_eq_none {p : Path} (h : p.parent? = none) :
    p.ancestors = [p] := by
  rw [ancestors]
  split
  · rfl
  · next above habove => rw [h] at habove; cases habove

theorem Path.ancestors_of_parent?_eq_some {p above : Path} (h : p.parent? = some above) :
    p.ancestors = p :: above.ancestors := by
  rw [ancestors]
  split
  · next hnone => rw [h] at hnone; cases hnone
  · next above' habove => rw [h] at habove; cases habove; rfl

namespace Manifest

/-- The manifest in the first of some directories that has one. -/
def first? (fs : FileSystem) (directories : List Path) : Option Path :=
  (directories.map (·.join fileName)).find? fs.isFile

theorem first?_cons (fs : FileSystem) (directory : Path) (more : List Path) :
    first? fs (directory :: more) =
      if fs.isFile (directory.join fileName) then some (directory.join fileName)
      else first? fs more := by
  rw [first?, List.map_cons, List.find?_cons]
  cases fs.isFile (directory.join fileName) <;> rfl

theorem nearest?_eq_first? (fs : FileSystem) (directory : Path) :
    nearest? fs directory = first? fs directory.ancestors := by
  fun_induction nearest? fs directory with
  | case1 directory candidate hfile =>
      cases hparent : directory.parent? with
      | none => rw [Path.ancestors_of_parent?_eq_none hparent, first?_cons, if_pos hfile]
      | some above => rw [Path.ancestors_of_parent?_eq_some hparent, first?_cons, if_pos hfile]
  | case2 directory candidate hfile hparent =>
      rw [Path.ancestors_of_parent?_eq_none hparent, first?_cons, if_neg hfile]
      rfl
  | case3 directory candidate hfile above hparent hlength ih =>
      rw [Path.ancestors_of_parent?_eq_some hparent, first?_cons, if_neg hfile, ih]

/-- What loading the first manifest in a row of directories comes to, if the search for it began in
a directory. -/
def loadFirst (fs : FileSystem) (start : Path) (directories : List Path) :
    Except ManifestError Manifest :=
  match first? fs directories with
  | none => .error (.notFound start.text)
  | some file => load fs file

theorem loadNearest_eq_loadFirst (fs : FileSystem) (directory : Path) :
    loadNearest fs directory = loadFirst fs directory directory.ancestors := by
  rw [loadFirst, ← nearest?_eq_first?]
  rfl

theorem loadFrom_eq_loadFirst (fs : FileSystem) (directory : Path) :
    loadFrom fs directory = loadFirst fs directory [directory] := by
  rw [loadFrom, loadFirst, first?_cons]
  split <;> rfl

/-! ### Bad manifests -/

/-- A manifest is bad for a reason: it cannot be read, it is no document, a value in it is of a
wrong type, or it asks for a format that there is not. -/
inductive Bad (fs : FileSystem) (file : Path) : ManifestError → Prop where
  | unreadable {cause : IoError} (hread : fs.readText file = .error cause) :
      Bad fs file (.unreadable cause)
  | malformed {source : String} (hread : fs.readText file = .ok source)
      (hparse : Toml.parse? source = none) : Bad fs file .malformed
  | mismatch {source : String} {entries : List Toml.Entry} {m : Mismatch}
      (hread : fs.readText file = .ok source) (hparse : Toml.parse? source = some entries)
      (hentries : takeEntries sectionFields {} entries = .error m) :
      Bad fs file (.mismatch source m)
  | unknownFormat {source : String} {entries : List Toml.Entry} {sections : Sections}
      (hread : fs.readText file = .ok source) (hparse : Toml.parse? source = some entries)
      (hentries : takeEntries sectionFields {} entries = .ok sections)
      (htext : sections.output.format ≠ "text") (hjson : sections.output.format ≠ "json") :
      Bad fs file (.unknownFormat sections.output.format)

theorem Bad.ne_notFound {fs : FileSystem} {file : Path} {cause : ManifestError}
    (h : Bad fs file cause) (directory : String) : cause ≠ .notFound directory := by
  cases h <;> nofun

theorem ofName?_eq_none_iff (name : String) :
    OutputFormat.ofName? name = none ↔ name ≠ "text" ∧ name ≠ "json" := by
  have hnone : OutputFormat.ofName? name = none ↔ "text" ≠ name ∧ "json" ≠ name := by
    simp [OutputFormat.ofName?, OutputFormat.name]
  exact hnone.trans (and_congr ne_comm ne_comm)

/-- What can be wrong with the entries of a document. -/
theorem ofEntries_eq_error_iff {source : String} {entries : List Toml.Entry} {directory : Path}
    {cause : ManifestError} :
    ofEntries source entries directory = .error cause ↔
      (∃ m, takeEntries sectionFields {} entries = .error m ∧ cause = .mismatch source m) ∨
      ∃ s, takeEntries sectionFields {} entries = .ok s ∧
        OutputFormat.ofName? s.output.format = none ∧ cause = .unknownFormat s.output.format := by
  rw [ofEntries]
  cases takeEntries sectionFields {} entries with
  | error m => simp [eq_comm]
  | ok s => cases hname : OutputFormat.ofName? s.output.format <;> simp [hname, eq_comm]

theorem load_eq_error_iff {fs : FileSystem} {file : Path} {cause : ManifestError} :
    load fs file = .error cause ↔ Bad fs file cause := by
  constructor
  · intro h
    unfold load at h
    split at h
    · next hread =>
        cases h
        exact .unreadable hread
    · next source hread =>
        unfold ofText at h
        split at h
        · next hparse =>
            cases h
            exact .malformed hread hparse
        · next entries hparse =>
            obtain ⟨m, hentries, rfl⟩ | ⟨s, hentries, hname, rfl⟩ := ofEntries_eq_error_iff.1 h
            · exact .mismatch hread hparse hentries
            · obtain ⟨htext, hjson⟩ := (ofName?_eq_none_iff _).1 hname
              exact .unknownFormat hread hparse hentries htext hjson
  · intro h
    unfold load
    cases h with
    | unreadable hread => rw [hread]
    | malformed hread hparse =>
        rw [hread]
        dsimp only
        rw [ofText, hparse]
    | mismatch hread hparse hentries =>
        rw [hread]
        dsimp only
        rw [ofText, hparse]
        exact ofEntries_eq_error_iff.2 (.inl ⟨_, hentries, rfl⟩)
    | unknownFormat hread hparse hentries htext hjson =>
        rw [hread]
        dsimp only
        rw [ofText, hparse]
        have hname := (ofName?_eq_none_iff _).2 ⟨htext, hjson⟩
        exact ofEntries_eq_error_iff.2 (.inr ⟨_, hentries, hname, rfl⟩)

theorem loadFirst_eq_notFound_iff {fs : FileSystem} {start : Path} {directories : List Path}
    {directory : String} :
    loadFirst fs start directories = .error (.notFound directory) ↔
      first? fs directories = none ∧ start.text = directory := by
  rw [loadFirst]
  cases first? fs directories with
  | none => simp
  | some file =>
      -- what is wrong with a file that is loaded is never that there is none
      have hload : load fs file ≠ .error (.notFound directory) := fun h =>
        (load_eq_error_iff.1 h).ne_notFound directory rfl
      simp [hload]

end Manifest

theorem OutputKeys.outputFormat_eq (s : OutputKeys) :
    s.outputFormat = if s.format == "json" then .json else .text := by
  rw [outputFormat]
  by_cases hjson : s.format = "json"
  · rw [hjson]
    rfl
  · by_cases htext : s.format = "text"
    · rw [htext]
      rfl
    · rw [(Manifest.ofName?_eq_none_iff _).2 ⟨htext, hjson⟩, if_neg (by simpa using hjson)]
      rfl

theorem OutputKeys.outputFormat_eq_json_iff (s : OutputKeys) :
    s.outputFormat = .json ↔ s.format = "json" := by
  rw [outputFormat_eq]
  by_cases h : s.format = "json"
  · simp [h]
  · simp [h]

end TokenEcho
