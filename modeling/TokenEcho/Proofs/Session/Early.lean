import TokenEcho.Proofs.Session.Run

/-!
# Sessions that end early

Two things end a session before it has a source: a manifest step that fails, and a source that
cannot be read. The first leaves all streams as they were, whether the manifest is bad or there is
no working directory to look in. The second leaves what the opening has done, since the banner and
the log come before the source.
-/

namespace TokenEcho

/-- The manifest step of a session ends it: it comes to a manifest that is there and no good, or it
needs the working directory and cannot tell it. -/
def Refuses (fs : FileSystem) (options : Options) : SessionError → Prop
  | .manifest cause =>
      Settings.manifest fs options = .ok (.error cause) ∧ ∀ directory, cause ≠ .notFound directory
  | .stream cause => Settings.manifest fs options = .error cause
  | .source _ _ => False

/-- The source of a session cannot be read, for a reason, and so much is left of the input. -/
def Misreads (fs : FileSystem) (options : Options) (input : List UInt8) (e : SessionError)
    (left : List UInt8) : Prop :=
  match options.input? with
  | some path =>
      ∃ cause, fs.readText path = .error cause ∧ e = .source path.text cause ∧ left = input
  | none => ∃ cause, Console.readTyped input = (.error cause, left) ∧ e = .stream cause

theorem refuses_or_finds (fs : FileSystem) (options : Options) :
    (∃ e, Refuses fs options e) ∨ ∃ m?, Finds fs options m? := by
  cases hmanifest : Settings.manifest fs options with
  | error cause => exact .inl ⟨.stream cause, hmanifest⟩
  | ok answer =>
      cases answer with
      | ok m => exact .inr ⟨some m, hmanifest⟩
      | error cause =>
          by_cases hfound : ∃ directory, cause = .notFound directory
          · obtain ⟨directory, rfl⟩ := hfound
            exact .inr ⟨none, directory, hmanifest⟩
          · exact .inl ⟨.manifest cause, hmanifest, fun directory h => hfound ⟨directory, h⟩⟩

theorem misreads_or_reads (fs : FileSystem) (options : Options) (input : List UInt8) :
    (∃ e left, Misreads fs options input e left) ∨
      ∃ source name left, Reads fs options input source name left := by
  unfold Misreads Reads
  cases options.input? with
  | some path =>
      cases hread : fs.readText path with
      | ok source => exact .inr ⟨source, _, input, hread, rfl, rfl⟩
      | error cause => exact .inl ⟨_, input, cause, hread, rfl, rfl⟩
  | none =>
      obtain ⟨result, left⟩ := Console.readTyped input
      cases result with
      | ok source => exact .inr ⟨source, _, left, rfl, rfl⟩
      | error cause => exact .inl ⟨_, left, cause, rfl, rfl⟩

namespace Session

variable {fs : FileSystem} {options : Options} {m? : Option Manifest} {streams : Streams}
  {e : SessionError} {left : List UInt8}

theorem run_bind_of_error {α β : Type} {s : Session α} {after : Streams}
    (h : s.run streams = (.error e, after)) (next : α → Session β) :
    (s >>= next).run streams = (.error e, after) := by
  rw [run_bind, h]

theorem run_determine_of_refuses (hrefuses : Refuses fs options e) (streams : Streams) :
    (Settings.determine fs options).run streams = (.error e, streams) := by
  unfold Settings.determine
  cases e with
  | stream cause =>
      rw [show Settings.manifest fs options = .error cause from hrefuses]
      rfl
  | manifest cause =>
      obtain ⟨hmanifest, hfound⟩ := hrefuses
      rw [hmanifest]
      cases cause with
      | notFound directory => exact absurd rfl (hfound directory)
      | unreadable | malformed | mismatch | unknownFormat => rfl
  | source => exact hrefuses.elim

theorem run_source_of_misreads (streams : Streams)
    (hmisreads : Misreads fs options streams.input e left) :
    (Session.source fs options).run streams = (.error e, streams.reading left) := by
  unfold Misreads at hmisreads
  unfold Session.source
  cases hinput : options.input? with
  | some path =>
      rw [hinput] at hmisreads
      obtain ⟨cause, hread, rfl, rfl⟩ := hmisreads
      dsimp only
      rw [hread]
      rfl
  | none =>
      rw [hinput] at hmisreads
      obtain ⟨cause, hread, rfl⟩ := hmisreads
      rw [run_bind_of_ok run_get, hread]
      exact run_bind_of_ok (run_set _) _

theorem run_ofOptions_of_refuses (hrefuses : Refuses fs options e) (streams : Streams) :
    (ofOptions fs options).run streams = (.error e, streams) := by
  have hopening : (opening fs options).run streams = (.error e, streams) :=
    run_bind_of_error (run_determine_of_refuses hrefuses streams) _
  exact run_bind_of_error hopening _

theorem run_ofOptions_of_misreads (hfinds : Finds fs options m?) :
    ∃ message, ∀ streams e left, streams.output.room? = none →
      Misreads fs options streams.input e left →
        (ofOptions fs options).run streams = (.error e, (streams.reading left).adding
          (greeting options (Settings.ofManifest? options m?))
          (logged options .debug message)) := by
  obtain ⟨message, hopening⟩ := run_opening hfinds
  refine ⟨message, fun streams e left hroom hmisreads => ?_⟩
  rw [ofOptions, run_bind_of_ok (hopening streams hroom)]
  exact run_bind_of_error (run_source_of_misreads (streams.adding _ _) hmisreads) _

end Session

end TokenEcho
