import TokenEcho.Proofs.Files.Path
import TokenEcho.Proofs.Manifest.Lookup

/-!
# The nearest manifest

The row of directories that a search goes through is the way up from its start, so the first
manifest of the row is the one with the fewest steps to it. The directory that a loaded manifest
names is the parent of its file, which is the directory where it was found.
-/

namespace TokenEcho.Manifest

/-- A directory has a manifest if a regular file of that name is there, once links are followed. -/
def HasManifest (fs : FileSystem) (directory : Path) : Prop :=
  ∃ content, fs.look (directory.join fileName) = .ok (.file content)

/-- A directory with a manifest, some steps up, and no nearer one has a manifest. -/
structure Nearest (fs : FileSystem) (start : Path) (steps : Nat) (directory : Path) : Prop where
  up : start.up? steps = some directory
  hasManifest : HasManifest fs directory
  nearest : ∀ i < steps, ∀ nearer, start.up? i = some nearer → ¬ HasManifest fs nearer

theorem isFile_join_fileName_iff (fs : FileSystem) (directory : Path) :
    fs.isFile (directory.join fileName) ↔ HasManifest fs directory := by
  rw [FileSystem.isFile, HasManifest]
  split <;> simp_all

theorem exists_nearest {fs : FileSystem} {start file : Path} (h : nearest? fs start = some file) :
    ∃ steps directory, Nearest fs start steps directory ∧ file = directory.join fileName := by
  rw [nearest?_eq_first?, first?, List.find?_eq_some_iff_getElem] at h
  obtain ⟨hfile, steps, hsteps, heq, hbefore⟩ := h
  rw [List.length_map] at hsteps
  rw [List.getElem_map] at heq
  have hup : start.up? steps = some start.ancestors[steps] := by
    rw [← Path.getElem?_ancestors, List.getElem?_eq_getElem hsteps]
  refine ⟨steps, start.ancestors[steps], ⟨hup, ?_, ?_⟩, heq.symm⟩
  · rwa [← isFile_join_fileName_iff, heq]
  · intro i hi nearer hnearer
    have hnot := hbefore i hi
    rw [← Path.getElem?_ancestors, List.getElem?_eq_some_iff] at hnearer
    obtain ⟨hlength, hnearer⟩ := hnearer
    rw [List.getElem_map, hnearer, Bool.not_eq_true'] at hnot
    rw [← isFile_join_fileName_iff, hnot]
    exact Bool.false_ne_true

theorem not_hasManifest_of_nearest?_eq_none {fs : FileSystem} {start : Path}
    (h : nearest? fs start = none) :
    ∀ i above, start.up? i = some above → ¬ HasManifest fs above := by
  intro i above habove
  rw [nearest?_eq_first?, first?, List.find?_eq_none] at h
  rw [← Path.getElem?_ancestors] at habove
  rw [← isFile_join_fileName_iff]
  exact h _ (List.mem_map_of_mem (List.mem_of_getElem? habove))

theorem loadFrom_of_hasManifest {fs : FileSystem} {directory : Path}
    (h : HasManifest fs directory) :
    loadFrom fs directory = load fs (directory.join fileName) :=
  if_pos ((isFile_join_fileName_iff fs directory).2 h)

/-- Nothing but the directory of a manifest comes from its path. -/
theorem directory_eq_of_load {fs : FileSystem} {file : Path} {m : Manifest}
    (h : load fs file = .ok m) : m.directory = file.parent?.getD ⟨"."⟩ := by
  unfold load at h
  split at h
  · cases h
  · unfold ofText at h
    split at h
    · cases h
    · unfold ofEntries at h
      split at h
      · cases h
      · split at h
        · cases h
        · cases h
          rfl

theorem same_directory_of_load {fs : FileSystem} {directory : Path} {m : Manifest}
    (h : load fs (directory.join fileName) = .ok m) : m.directory.Same directory := by
  have hslash : '/' ∉ fileName.toList := by decide
  obtain ⟨above, habove, hsame⟩ := directory.exists_parent?_join hslash rfl
  rw [directory_eq_of_load h, habove]
  exact hsame

/-- **The search for a manifest finds the nearest one.** The way up from a path drops its last
components, one with each step, and ends when none is left. If a directory on it has a manifest,
then the one with the fewest steps to it is found, and what comes of it, good or bad, is what comes
of loading from there, with that directory as the directory of the manifest. If none has, then
nothing is found, and the error names the path where the search began. -/
theorem nearest_on_way_up (fs : FileSystem) (start : Path) :
    (∀ i, (start.up? i).isSome ↔ i ≤ start.components.length) ∧
    (∀ i a, start.up? i = some a → a.isAbsolute = start.isAbsolute ∧
      a.components = start.components.take (start.components.length - i)) ∧
    ((∃ i a, Nearest fs start i a ∧ nearest? fs start = some (a.join fileName) ∧
        loadNearest fs start = loadFrom fs a ∧
        (∀ cause, loadNearest fs start = .error cause ↔ Bad fs (a.join fileName) cause) ∧
        ∀ m, loadNearest fs start = .ok m → m.directory.Same a) ∨
      ((∀ i a, start.up? i = some a → ¬ HasManifest fs a) ∧ nearest? fs start = none ∧
        loadNearest fs start = .error (.notFound start.text))) := by
  refine ⟨start.isSome_up?_iff, fun i a => Path.components_of_up?, ?_⟩
  cases hfound : nearest? fs start with
  | none =>
      refine .inr ⟨not_hasManifest_of_nearest?_eq_none hfound, rfl, ?_⟩
      rw [loadNearest, hfound]
  | some file =>
      obtain ⟨i, a, hnearest, rfl⟩ := exists_nearest hfound
      have hload : loadNearest fs start = load fs (a.join fileName) := by rw [loadNearest, hfound]
      refine .inl ⟨i, a, hnearest, rfl, ?_, ?_, ?_⟩
      · rw [hload, loadFrom_of_hasManifest hnearest.hasManifest]
      · intro cause
        rw [hload, load_eq_error_iff]
      · intro m hm
        exact same_directory_of_load (hload ▸ hm)

/-- A directory of the name is passed over. A manifest that cannot be read is not, though there is
another one further up. -/
theorem nearest_on_way_up_of_unreadable :
    let fs : FileSystem :=
      { workingDirectory := .ok ⟨"/"⟩
        look := fun p =>
          if p.text = "a/b/MigScript.toml" then .ok .directory
          else if p.text = "a/MigScript.toml" then .ok (.file (.error .permissionDenied))
          else if p.text = "MigScript.toml" then .ok (.file (.ok []))
          else .error .notFound
        canonical? := some }
    nearest? fs ⟨"a/b"⟩ = some ⟨"a/MigScript.toml"⟩ ∧
      loadNearest fs ⟨"a/b"⟩ = .error (.unreadable .permissionDenied) := by
  intro fs
  have hup : (⟨"a/b"⟩ : Path).up? 1 = some ⟨"a"⟩ := by decide
  have hhere : ¬ HasManifest fs ⟨"a/b"⟩ := by
    rintro ⟨content, hlook⟩
    cases hlook
  have habove : HasManifest fs ⟨"a"⟩ := ⟨_, rfl⟩
  obtain ⟨-, -, ⟨i, a, hnearest, hfound, -, hbad, -⟩ | ⟨hnone, -⟩⟩ :=
    nearest_on_way_up fs ⟨"a/b"⟩
  · have hle : i ≤ 1 := by
      by_contra hlt
      exact hnearest.nearest 1 (by omega) ⟨"a"⟩ hup habove
    obtain rfl | rfl : i = 0 ∨ i = 1 := by omega
    · cases hnearest.up
      exact absurd hnearest.hasManifest hhere
    · obtain rfl : a = ⟨"a"⟩ := Option.some.inj (hnearest.up.symm.trans hup)
      exact ⟨hfound, (hbad _).2 (.unreadable rfl)⟩
  · exact absurd habove (hnone 1 _ hup)

end TokenEcho.Manifest
