import TokenEcho.Proofs.Manifest.Lookup
import TokenEcho.Proofs.Session.Run
import TokenEcho.Proofs.Token.Quotes

/-!
# A whole session

A session whose manifest is good or missing and whose source can be read comes to its end. It writes
the banner and the tokens and nothing else, takes no more from its input than a typed source, and
fails exactly on a string that is left open in strict mode.
-/

namespace TokenEcho

namespace Options

variable (options : Options) (m? : Option Manifest)

def asksStrict : Bool := options.strict || m?.any (·.lexer.strict)

def asksJson : Bool := options.json || m?.any (·.output.format == "json")

def hidesBanner : Bool := options.noBanner || m?.any (!·.output.banner)

/-- The banner line by line, unless the options or the manifest hide it. -/
def bannerText : String :=
  if options.hidesBanner m? then "" else String.join (options.banner.map (· ++ "\n"))

/-- The tokens as the options or the manifest ask for them. -/
def tokensText (tokens : List Token) : String :=
  if options.asksJson m? then tokensAsJson tokens ++ "\n"
  else String.join (tokens.map fun t => t.echoText ++ "\n")

end Options

namespace Settings

variable (options : Options) (m? : Option Manifest)

theorem strict_ofManifest? : (ofManifest? options m?).strict = options.asksStrict m? := by
  cases m? with
  | none => exact (Bool.or_false _).symm
  | some m => rfl

theorem banner_ofManifest? : (ofManifest? options m?).banner = !options.hidesBanner m? := by
  cases m? with
  | none => simp [ofManifest?, ofOptions, Options.hidesBanner]
  | some m => simp [ofManifest?, merge, Options.hidesBanner]

theorem format_ofManifest? :
    (ofManifest? options m?).format = if options.asksJson m? then .json else .text := by
  cases m? with
  | none => simp [ofManifest?, ofOptions, Options.asksJson]
  | some m =>
      rw [ofManifest?, merge, Options.asksJson, OutputKeys.outputFormat_eq]
      cases options.json <;> rfl

end Settings

theorem Outcome.exitCode_eq_one_iff (outcome : Outcome) :
    outcome.exitCode = 1 ↔ outcome = .failed := by
  cases outcome <;> decide

namespace Session

/-- A session has come to its end: what it left of its input, what stands on its output and what
beside it, and whether it failed. -/
structure Whole (options : Options) (m? : Option Manifest) (source name : String)
    (left : List UInt8) (outcome : Outcome) (after : Streams) : Prop where
  input : after.input = left
  output : after.output.written = Text.encode (options.bannerText m? ++
    options.tokensText m? (Lexer.ofSource source name).tokenize.1)
  reported : ∀ d ∈ ((Lexer.ofSource source name).withStrict
    (options.asksStrict m?)).tokenize.2.diagnostics, .report (d.report source name true) ∈
      after.remarks
  failed : outcome = .failed ↔ options.asksStrict m? ∧ source.toList.count '"' % 2 = 1
  exitCode : outcome.exitCode = 1 ↔ options.asksStrict m? ∧ source.toList.count '"' % 2 = 1

variable {fs : FileSystem} {options : Options} {m? : Option Manifest} {source name : String}

theorem run_ofOptions (hfinds : Finds fs options m?) {found : List Token × Diagnostics}
    (hfound : ((Lexer.ofSource source name).withStrict (options.asksStrict m?)).tokenize = found) :
    ∃ message, ∀ streams left, streams.output.room? = none →
      Reads fs options streams.input source name left →
        (ofOptions fs options).run streams = (.ok (outcomeOf found.2),
          (streams.reading left).adding
            (greeting options (Settings.ofManifest? options m?) ++
              tokenTexts (Settings.ofManifest? options m?) found.1)
            (logged options .debug message ++ remarksOn options source name found)) := by
  obtain ⟨message, hopening⟩ := run_opening hfinds
  refine ⟨message, fun streams left hroom hreads => ?_⟩
  rw [← Settings.strict_ofManifest?] at hfound
  rw [ofOptions, run_bind_of_ok (hopening streams hroom),
    run_body _ (streams.adding _ _) hroom hreads hfound, Streams.reading_adding,
    Streams.adding_adding]

theorem join_greeting :
    String.join (greeting options (Settings.ofManifest? options m?)) = options.bannerText m? := by
  rw [greeting, Options.bannerText, Settings.banner_ofManifest?]
  cases options.hidesBanner m? <;> rfl

theorem join_tokenTexts (tokens : List Token) :
    String.join (tokenTexts (Settings.ofManifest? options m?) tokens) =
      options.tokensText m? tokens := by
  rw [tokenTexts, Options.tokensText, Settings.format_ofManifest?]
  cases options.asksJson m? with
  | false => rfl
  | true => simp [String.join]

theorem outcomeOf_eq_failed_iff (bag : Diagnostics) : outcomeOf bag = .failed ↔ bag.hasError := by
  unfold outcomeOf
  cases bag.hasError <;> simp

/-- **A whole session.** With a manifest that is good or missing, a source that can be read and an
output without a limit, a session comes to its end. What the input holds makes no difference to a
session that reads a file. -/
theorem whole_of_reads {input left : List UInt8} (hfinds : Finds fs options m?)
    (hreads : Reads fs options input source name left) :
    ∃ outcome after, (ofOptions fs options).run { input } = (.ok outcome, after) ∧
      Whole options m? source name left outcome after ∧
      (options.input?.isSome → ∀ other,
        (ofOptions fs options).run { input := other } = (.ok outcome, after.reading other)) := by
  obtain ⟨message, hrun⟩ := run_ofOptions hfinds rfl
  have hfailed := (outcomeOf_eq_failed_iff _).trans
    (Lexer.hasError_tokenize source name (options.asksStrict m?))
  refine ⟨_, _, hrun { input } left rfl hreads, ⟨rfl, ?_, ?_, hfailed, ?_⟩, ?_⟩
  · rw [Lexer.tokens_withStrict, Streams.adding, Sink.written_pushAll, String.join_append,
      join_greeting, join_tokenTexts]
    rfl
  · intro d hd
    have hreport : Remark.report (d.report source name true) ∈ remarksOn options source name
        ((Lexer.ofSource source name).withStrict (options.asksStrict m?)).tokenize := by
      have := List.mem_map_of_mem (f := fun d => Remark.report (d.report source name true)) hd
      simp only [remarksOn, List.mem_append]
      exact .inl (.inr this)
    exact List.mem_append_right _ (List.mem_append_right _ hreport)
  · rw [← hfailed]
    exact Outcome.exitCode_eq_one_iff _
  · intro hfile other
    exact hrun { input := other } other rfl (hreads.of_file hfile other)

/-- A manifest that asks for everything beside a source that leaves a string open. -/
def strictProject : FileSystem where
  workingDirectory := .ok ⟨"/"⟩
  look p :=
    if p.text = "/work/MigScript.toml" then
      .ok (.file (.ok (Text.encode
        "[lexer]\nstrict = true\n[output]\nbanner = false\nformat = \"json\"\n")))
    else if p.text = "work/a.mig" then .ok (.file (.ok (Text.encode "writl \"oops\n")))
    else .error .notFound
  canonical? p := if p.text = "work/a.mig" then some ⟨"/work/a.mig"⟩ else none

theorem whole_of_strictProject :
    let options : Options := { banner := ["MigScript"], input? := some ⟨"work/a.mig"⟩ }
    let manifest : Manifest :=
      { lexer := { strict := true }
        output := { banner := false, format := "json" }
        directory := ⟨"/work"⟩ }
    Finds strictProject options (some manifest) ∧
      Reads strictProject options [104] "writl \"oops\n" "a.mig" [104] ∧
      ∃ outcome after, (ofOptions strictProject options).run { input := [104] } =
          (.ok outcome, after) ∧
        Whole options (some manifest) "writl \"oops\n" "a.mig" [104] outcome after ∧
        (options.input?.isSome → ∀ other,
          (ofOptions strictProject options).run { input := other } =
            (.ok outcome, after.reading other)) := by
  intro options manifest
  have hfinds : Finds strictProject options (some manifest) :=
    show Settings.manifest strictProject options = .ok (.ok manifest) by decide +kernel
  have hreads : Reads strictProject options [104] "writl \"oops\n" "a.mig" [104] := by
    refine show _ ∧ _ ∧ _ from ⟨?_, ?_, rfl⟩
    · decide +kernel
    · decide +kernel
  exact ⟨hfinds, hreads, whole_of_reads hfinds hreads⟩

end Session

end TokenEcho
