import Mathlib.Control.Monad.Basic
import TokenEcho.Proofs.Manifest.Lookup
import TokenEcho.Proofs.Session.Early

/-!
# A bad manifest stops a session

Where a session looks for its manifest depends on its options: in one directory, or in one and those
above it. The first manifest in this row is selected, whatever it says and whatever else there is.
If it is bad, the session ends before it does anything, `stopped_of_bad`; if there is none, the
options are all that counts. There may be nowhere to look, since a typed source has its manifest in
the working directory, which may be gone; this ends the session too, and is no missing manifest.
-/

namespace TokenEcho.Session

/-- The directories in which a session looks for its manifest, in this order. With a source in a
file they are the directory of the source, links followed if it is there, and those above it. A
typed source has the working directory only, and fails with it. -/
def manifestPlaces (fs : FileSystem) (options : Options) : Except IoError (List Path) :=
  match options.manifestDirectory?, options.input? with
  | some directory, _ => .ok [directory]
  | none, none => fs.workingDirectory.map ([·])
  | none, some source =>
      match ((fs.canonical? source).getD source).parent? with
      | some directory => .ok directory.ancestors
      | none => .ok (Path.mk ".").ancestors

/-- The manifest that counts for a session, if there is one in the directories where it looks. -/
def selected? (fs : FileSystem) (options : Options) : Except IoError (Option Path) :=
  (manifestPlaces fs options).map (Manifest.first? fs)

variable {fs : FileSystem} {options : Options}

theorem exists_manifest_eq_loadFirst (fs : FileSystem) (options : Options) :
    ∃ start, Settings.manifest fs options =
      (manifestPlaces fs options).map (Manifest.loadFirst fs start) := by
  unfold Settings.manifest manifestPlaces
  cases options.manifestDirectory? with
  | some directory => exact ⟨_, congrArg _ (Manifest.loadFrom_eq_loadFirst fs directory)⟩
  | none =>
      cases options.input? with
      | none =>
          cases fs.workingDirectory with
          | error cause => exact ⟨⟨""⟩, rfl⟩
          | ok directory => exact ⟨_, congrArg _ (Manifest.loadFrom_eq_loadFirst fs directory)⟩
      | some source =>
          dsimp only
          rw [Settings.searchStart]
          cases ((fs.canonical? source).getD source).parent? with
          | some directory => exact ⟨_, congrArg _ (Manifest.loadNearest_eq_loadFirst fs directory)⟩
          | none => exact ⟨_, congrArg _ (Manifest.loadNearest_eq_loadFirst fs ⟨"."⟩)⟩

theorem selected?_eq_ok_iff {file? : Option Path} :
    selected? fs options = .ok file? ↔
      ∃ places, manifestPlaces fs options = .ok places ∧ Manifest.first? fs places = file? := by
  rw [selected?]
  cases manifestPlaces fs options <;> simp [Except.map]

theorem selected?_eq_error_iff {cause : IoError} :
    selected? fs options = .error cause ↔ manifestPlaces fs options = .error cause := by
  rw [selected?]
  cases manifestPlaces fs options <;> simp [Except.map]

theorem refuses_of_bad {file : Path} {cause : ManifestError}
    (hselected : selected? fs options = .ok (some file)) (hbad : Manifest.Bad fs file cause) :
    Refuses fs options (.manifest cause) := by
  obtain ⟨places, hplaces, hfirst⟩ := selected?_eq_ok_iff.1 hselected
  obtain ⟨start, hmanifest⟩ := exists_manifest_eq_loadFirst fs options
  have hload : Manifest.loadFirst fs start places = .error cause := by
    rw [Manifest.loadFirst, hfirst]
    exact Manifest.load_eq_error_iff.2 hbad
  rw [hplaces, Except.map, hload] at hmanifest
  exact ⟨hmanifest, hbad.ne_notFound⟩

theorem refuses_of_nowhere {cause : IoError} (hselected : selected? fs options = .error cause) :
    Refuses fs options (.stream cause) := by
  obtain ⟨start, hmanifest⟩ := exists_manifest_eq_loadFirst fs options
  rw [selected?_eq_error_iff.1 hselected] at hmanifest
  exact hmanifest

/-- A session finds no manifest exactly if it has looked and there is none. -/
theorem finds_none_iff : Finds fs options none ↔ selected? fs options = .ok none := by
  obtain ⟨start, hmanifest⟩ := exists_manifest_eq_loadFirst fs options
  rw [Finds, hmanifest, selected?]
  cases manifestPlaces fs options with
  | error cause => simp [Except.map]
  | ok places => simp [Except.map, Manifest.loadFirst_eq_notFound_iff]

/-- **A bad manifest stops a session.** If the manifest that counts is bad, the session ends with
what is wrong with it and leaves all streams as they were, whatever the options, the source and the
room of the output. If the search ends without a manifest, the settings are those of the options;
that is so exactly if there are directories to look in and none of them has one. A session that
needs the working directory and cannot tell it has nowhere to look. It ends with that, and leaves
all streams as they were. -/
theorem stopped_of_bad (fs : FileSystem) (options : Options) (streams : Streams) :
    (∀ file cause, selected? fs options = .ok (some file) → Manifest.Bad fs file cause →
      (ofOptions fs options).run streams = (.error (.manifest cause), streams)) ∧
    (∀ directory, Settings.manifest fs options = .ok (.error (.notFound directory)) →
      ∃ remarks, (Settings.determine fs options).run streams =
        (.ok
          { strict := options.strict
            banner := !options.noBanner
            format := if options.json then .json else .text },
          streams.adding [] remarks)) ∧
    ((∃ directory, Settings.manifest fs options = .ok (.error (.notFound directory))) ↔
      selected? fs options = .ok none) ∧
    ∀ cause, selected? fs options = .error cause →
      (ofOptions fs options).run streams = (.error (.stream cause), streams) := by
  refine ⟨?_, ?_, finds_none_iff, ?_⟩
  · intro file cause hselected hbad
    exact run_ofOptions_of_refuses (refuses_of_bad hselected hbad) streams
  · intro directory hmanifest
    have hfinds : Finds fs options none := ⟨directory, hmanifest⟩
    obtain ⟨message, hrun⟩ := run_determine hfinds
    exact ⟨_, hrun streams⟩
  · intro cause hselected
    exact run_ofOptions_of_refuses (refuses_of_nowhere hselected) streams

/-- A project inside another one, whose manifest asks for a format that there is not. -/
def nestedProjects : FileSystem where
  workingDirectory := .ok ⟨"/work/sub/deep"⟩
  look p :=
    if p.text = "/work/MigScript.toml" then
      .ok (.file (.ok (Text.encode "[lexer]\nstrict = true\n")))
    else if p.text = "/work/sub/MigScript.toml" then
      .ok (.file (.ok (Text.encode "[output]\nformat = \"yaml\"\n")))
    else .error .notFound
  canonical? _ := none

/-- The inner manifest stops a session on a source that is not there, with JSON asked for and an
output that takes nothing; a typed source below both projects has no manifest, unless the directory
has been removed in which it is typed. -/
theorem stopped_of_bad_nestedProjects :
    let options : Options :=
      { banner := ["MigScript"], input? := some ⟨"/work/sub/deep/a.mig"⟩, json := true }
    let streams : Streams := { input := [104], output := .ofLimit (some 0) }
    let removed : FileSystem := { nestedProjects with workingDirectory := .error .notFound }
    (selected? nestedProjects options = .ok (some ⟨"/work/sub/MigScript.toml"⟩) ∧
      Manifest.Bad nestedProjects ⟨"/work/sub/MigScript.toml"⟩ (.unknownFormat "yaml") ∧
      (ofOptions nestedProjects options).run streams =
        (.error (.manifest (.unknownFormat "yaml")), streams)) ∧
    (selected? nestedProjects {} = .ok none ∧
      Settings.manifest nestedProjects {} = .ok (.error (.notFound "/work/sub/deep")) ∧
      ∃ remarks, (Settings.determine nestedProjects {}).run streams =
        (.ok { strict := false, banner := true, format := .text }, streams.adding [] remarks)) ∧
    selected? removed {} = .error .notFound ∧
      (ofOptions removed {}).run streams = (.error (.stream .notFound), streams) := by
  intro options streams removed
  have hselected : selected? nestedProjects options = .ok (some ⟨"/work/sub/MigScript.toml"⟩) := by
    decide +kernel
  have hbad : Manifest.Bad nestedProjects ⟨"/work/sub/MigScript.toml"⟩ (.unknownFormat "yaml") :=
    Manifest.load_eq_error_iff.1 (by decide +kernel)
  have hmanifest : Settings.manifest nestedProjects {} =
      .ok (.error (.notFound "/work/sub/deep")) := by decide +kernel
  obtain ⟨hstopped, -⟩ := stopped_of_bad nestedProjects options streams
  obtain ⟨-, hsettled, hnone, -⟩ := stopped_of_bad nestedProjects {} streams
  obtain ⟨-, -, -, hnowhere⟩ := stopped_of_bad removed {} streams
  exact ⟨⟨hselected, hbad, hstopped _ _ hselected hbad⟩,
    ⟨hnone.1 ⟨_, hmanifest⟩, hmanifest, hsettled _ hmanifest⟩, rfl, hnowhere _ rfl⟩

end TokenEcho.Session
