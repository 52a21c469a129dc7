import TokenEcho.Proofs.Session.Early
import TokenEcho.Proofs.Session.Whole

/-!
# What the presentation leaves alone

Three options concern only what is shown beside the tokens: the banner, whether to hide it, and
whether to say what is going on. However they are set, a session comes to one and the same account:
its result, what it takes from the input, what it writes after the banner, and its reports. This is
`exists_account`, which goes through the ways in which a session can end; two runs are compared only
by their common account.
-/

namespace TokenEcho

/-- The levels of messages that say what is going on, and not that something is wrong. -/
def Level.isProgress : Level → Bool
  | .error | .warn => false
  | .info | .debug => true

def Remark.isProgress : Remark → Bool
  | .message level _ => level.isProgress
  | .report _ => false

namespace Session

/-- The banner that a session prints. It prints none if its manifest step fails, since it ends
before. -/
def printedBanner (fs : FileSystem) (options : Options) : String :=
  match Settings.manifest fs options with
  | .ok (.ok m) => options.bannerText (some m)
  | .ok (.error (.notFound _)) => options.bannerText none
  | _ => ""

/-- What a session comes to, apart from how it is presented: its result, what is left of its input,
what it writes after the banner, and its reports. -/
structure Account where
  result : Except SessionError Outcome
  left : List UInt8
  text : String
  reports : List Remark

/-- A run gives an account: behind the banner of its options, and among messages that say what is
going on, of which a quiet run has none. -/
structure Account.Given (a : Account) (fs : FileSystem) (options : Options)
    (run : Except SessionError Outcome × Streams) : Prop where
  result : run.1 = a.result
  input : run.2.input = a.left
  output : run.2.output.written = Text.encode (printedBanner fs options ++ a.text)
  reports : run.2.remarks.filter (!·.isProgress) = a.reports
  quiet : options.verbose = false → run.2.remarks = a.reports

variable {fs : FileSystem} {options : Options} {m? : Option Manifest}

/-! ### The banner -/

theorem printedBanner_of_refuses {e : SessionError} (h : Refuses fs options e) :
    printedBanner fs options = "" := by
  unfold printedBanner
  cases e with
  | stream cause => rw [show Settings.manifest fs options = .error cause from h]
  | manifest cause =>
      obtain ⟨hmanifest, hfound⟩ := h
      rw [hmanifest]
      cases cause with
      | notFound directory => exact absurd rfl (hfound directory)
      | unreadable | malformed | mismatch | unknownFormat => rfl
  | source => exact h.elim

theorem printedBanner_of_finds (h : Finds fs options m?) :
    printedBanner fs options = options.bannerText m? := by
  unfold printedBanner
  cases m? with
  | some m => rw [show Settings.manifest fs options = .ok (.ok m) from h]
  | none =>
      obtain ⟨directory, hmanifest⟩ := h
      rw [hmanifest]

/-! ### Remarks -/

theorem filter_logged (options : Options) (level : Level) (h : level.isProgress)
    (message : String) : (logged options level message).filter (!·.isProgress) = [] := by
  unfold logged LogFilter.filter?
  split
  · simp [Remark.isProgress, h]
  · rfl

theorem logged_of_quiet (hquiet : options.verbose = false) (level : Level) (h : level.isProgress)
    (message : String) : logged options level message = [] := by
  unfold logged LogFilter.filter? LogFilter.ofVerbose
  rw [hquiet]
  cases level with
  | error | warn => cases h
  | info | debug => rfl

theorem filter_remarksOn (options : Options) (source name : String)
    (found : List Token × Diagnostics) :
    (remarksOn options source name found).filter (!·.isProgress) =
      found.2.diagnostics.map fun d => .report (d.report source name true) := by
  have hreports : (found.2.diagnostics.map fun d =>
      Remark.report (d.report source name true)).filter (!·.isProgress) =
        found.2.diagnostics.map fun d => .report (d.report source name true) := by
    apply List.filter_eq_self.2
    intro r hr
    obtain ⟨d, -, rfl⟩ := List.mem_map.1 hr
    rfl
  unfold remarksOn
  simp only [List.filter_append]
  rw [filter_logged options .debug rfl, filter_logged options .debug rfl,
    hreports]
  split
  · rw [filter_logged options .info rfl, List.append_nil]
    rfl
  · rw [List.filter_nil, List.append_nil]
    rfl

theorem remarksOn_of_quiet (hquiet : options.verbose = false) (source name : String)
    (found : List Token × Diagnostics) :
    remarksOn options source name found =
      found.2.diagnostics.map fun d => .report (d.report source name true) := by
  unfold remarksOn
  rw [logged_of_quiet hquiet .debug rfl, logged_of_quiet hquiet .debug rfl,
    logged_of_quiet hquiet .info rfl, ite_self, List.append_nil]
  rfl

/-! ### One run -/

theorem given_of_refuses {e : SessionError} (hrefuses : Refuses fs options e)
    (input : List UInt8) :
    Account.Given ⟨.error e, input, "", []⟩ fs options ((ofOptions fs options).run { input }) := by
  rw [run_ofOptions_of_refuses hrefuses]
  refine ⟨rfl, rfl, ?_, rfl, fun _ => rfl⟩
  rw [printedBanner_of_refuses hrefuses]
  rfl

theorem given_of_misreads (hfinds : Finds fs options m?) {input left : List UInt8}
    {e : SessionError} (hmisreads : Misreads fs options input e left) :
    Account.Given ⟨.error e, left, "", []⟩ fs options ((ofOptions fs options).run { input }) := by
  obtain ⟨message, hrun⟩ := run_ofOptions_of_misreads hfinds
  rw [hrun { input } e left rfl hmisreads]
  refine ⟨rfl, rfl, ?_, filter_logged options .debug rfl message,
    fun hquiet => logged_of_quiet hquiet .debug rfl message⟩
  rw [Streams.adding, Sink.written_pushAll, join_greeting, printedBanner_of_finds hfinds,
    String.append_empty]
  rfl

theorem given_of_reads (hfinds : Finds fs options m?) {input left : List UInt8}
    {source name : String} (hreads : Reads fs options input source name left)
    {found : List Token × Diagnostics}
    (hfound : ((Lexer.ofSource source name).withStrict (options.asksStrict m?)).tokenize = found) :
    Account.Given
      { result := .ok (outcomeOf found.2)
        left
        text := options.tokensText m? found.1
        reports := found.2.diagnostics.map fun d => .report (d.report source name true) }
      fs options ((ofOptions fs options).run { input }) := by
  obtain ⟨message, hrun⟩ := run_ofOptions hfinds hfound
  rw [hrun { input } left rfl hreads]
  refine ⟨rfl, rfl, ?_, ?_, fun hquiet => ?_⟩
  · rw [Streams.adding, Sink.written_pushAll, String.join_append, join_greeting, join_tokenTexts,
      printedBanner_of_finds hfinds]
    rfl
  · change (logged options .debug message ++ remarksOn options source name found).filter _ = _
    rw [List.filter_append, filter_logged options .debug rfl, filter_remarksOn,
      List.nil_append]
  · change logged options .debug message ++ remarksOn options source name found = _
    rw [logged_of_quiet hquiet .debug rfl, remarksOn_of_quiet hquiet, List.nil_append]

/-! ### Two runs -/

/-- A session has one account, however it is presented. -/
theorem exists_account (fs : FileSystem) (options : Options) (input : List UInt8) :
    ∃ a : Account, ∀ verbose noBanner banner,
      a.Given fs { options with verbose, noBanner, banner }
        ((ofOptions fs { options with verbose, noBanner, banner }).run { input }) := by
  -- neither the manifest nor the source is looked for by way of what is only presentation
  rcases refuses_or_finds fs options with ⟨e, hrefuses⟩ | ⟨m?, hfinds⟩
  · refine ⟨⟨.error e, input, "", []⟩, fun verbose noBanner banner => ?_⟩
    have hrefuses : Refuses fs { options with verbose, noBanner, banner } e := hrefuses
    exact given_of_refuses hrefuses input
  have hfinds (verbose noBanner : Bool) (banner : List String) :
      Finds fs { options with verbose, noBanner, banner } m? := hfinds
  rcases misreads_or_reads fs options input with ⟨e, left, hmisreads⟩ | ⟨source, name, left, hreads⟩
  · refine ⟨⟨.error e, left, "", []⟩, fun verbose noBanner banner => ?_⟩
    exact given_of_misreads (hfinds verbose noBanner banner) hmisreads
  · let found := ((Lexer.ofSource source name).withStrict (options.asksStrict m?)).tokenize
    refine ⟨⟨.ok (outcomeOf found.2), left, options.tokensText m? found.1,
      found.2.diagnostics.map fun d => .report (d.report source name true)⟩,
      fun verbose noBanner banner => ?_⟩
    exact given_of_reads (hfinds verbose noBanner banner) hreads rfl

/-- **Presentation is nothing but that.** Two sessions whose options differ only in the banner,
whether it is hidden and whether they say what is going on have the same result, take the same from
the input, and write the same after their banners. If they differ only in the last of these, they
write the same, and the quiet one makes the remarks of the other without its messages on what is
going on. -/
theorem presentation_irrelevant (fs : FileSystem) (options : Options) (input : List UInt8)
    (verbose noBanner : Bool) (banner : List String) :
    let other := { options with verbose, noBanner, banner }
    let first := (ofOptions fs options).run { input }
    let second := (ofOptions fs other).run { input }
    let quiet := (ofOptions fs { options with verbose := false }).run { input }
    let loud := (ofOptions fs { options with verbose := true }).run { input }
    (second.1 = first.1 ∧ second.2.input = first.2.input ∧
      ∃ text, first.2.output.written = Text.encode (printedBanner fs options ++ text) ∧
        second.2.output.written = Text.encode (printedBanner fs other ++ text)) ∧
      quiet.2.output.written = loud.2.output.written ∧
      quiet.2.remarks = loud.2.remarks.filter (!·.isProgress) := by
  intro other first second quiet loud
  obtain ⟨a, ha⟩ := exists_account fs options input
  have hfirst : a.Given fs options first := ha options.verbose options.noBanner options.banner
  have hsecond : a.Given fs other second := ha verbose noBanner banner
  have hquiet : a.Given fs { options with verbose := false } quiet :=
    ha false options.noBanner options.banner
  have hloud : a.Given fs { options with verbose := true } loud :=
    ha true options.noBanner options.banner
  refine ⟨⟨?_, ?_, a.text, hfirst.output, hsecond.output⟩, ?_, ?_⟩
  · rw [hsecond.result, hfirst.result]
  · rw [hsecond.input, hfirst.input]
  · rw [hquiet.output, hloud.output]
    rfl
  · rw [hquiet.quiet rfl, hloud.reports]

end Session

end TokenEcho
