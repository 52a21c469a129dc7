import TokenEcho.Session

/-!
# The run of a session

What each step of a session does to its streams is one equation on its run. While the output has no
limit, a step only adds texts to the output and remarks beside it, so a row of steps is read off
with `run_bind_of_ok` and `Streams.adding_adding`. From the steps come the stages, and from those
`run_opening` and `run_body`.
-/

namespace TokenEcho

namespace Text

theorem encode_join (texts : List String) : encode (String.join texts) = texts.flatMap encode := by
  rw [encode, String.toList_join, List.flatMap_assoc]
  rfl

end Text

namespace Sink

/-- Takes texts in one after another, without regard to the room. -/
def pushAll (sink : Sink) (texts : List String) : Sink :=
  { sink with chunks := (texts.map Text.encode).reverse ++ sink.chunks }

theorem room?_pushAll (sink : Sink) (texts : List String) :
    (sink.pushAll texts).room? = sink.room? := rfl

theorem pushAll_append (sink : Sink) (xs ys : List String) :
    sink.pushAll (xs ++ ys) = (sink.pushAll xs).pushAll ys := by
  simp [pushAll]

theorem written_pushAll (sink : Sink) (texts : List String) :
    (sink.pushAll texts).written = sink.written ++ Text.encode (String.join texts) := by
  simp [written, pushAll, Text.encode_join, List.flatMap_def]

theorem write_of_unlimited {sink : Sink} (h : sink.room? = none) (text : String) :
    sink.write text = (true, sink.pushAll [text]) := by
  rw [write, h]
  rfl

theorem writeAll_of_unlimited {sink : Sink} (h : sink.room? = none) (texts : List String) :
    sink.writeAll texts = (true, sink.pushAll texts) := by
  induction texts generalizing sink with
  | nil => rfl
  | cons text rest ih =>
      rw [writeAll, write_of_unlimited h]
      dsimp only
      rw [ih ((sink.room?_pushAll [text]).trans h), ← pushAll_append, List.singleton_append]

end Sink

namespace Streams

/-- The streams after texts were written, and remarks made beside them. -/
def adding (streams : Streams) (texts : List String) (remarks : List Remark) : Streams :=
  { streams with
    output := streams.output.pushAll texts
    remarks := streams.remarks ++ remarks }

theorem adding_adding (streams : Streams) (xs ys : List String) (as bs : List Remark) :
    (streams.adding xs as).adding ys bs = streams.adding (xs ++ ys) (as ++ bs) := by
  rw [adding, adding, adding, Sink.pushAll_append, List.append_assoc]

/-- The streams after so much of the input is left. -/
def reading (streams : Streams) (left : List UInt8) : Streams := { streams with input := left }

theorem reading_adding (streams : Streams) (texts : List String) (remarks : List Remark)
    (left : List UInt8) :
    (streams.adding texts remarks).reading left = (streams.reading left).adding texts remarks := rfl

theorem adding_nil (streams : Streams) : streams.adding [] [] = streams := by
  rw [adding, List.append_nil]
  rfl

end Streams

namespace Session

/-! ### One step -/

variable {α β : Type} {streams : Streams}

theorem run_pure (a : α) : (pure a : Session α).run streams = (.ok a, streams) := rfl

theorem run_get : (get : Session Streams).run streams = (.ok streams, streams) := rfl

theorem run_set (after : Streams) : (set after : Session Unit).run streams = (.ok (), after) := rfl

theorem run_bind (s : Session α) (next : α → Session β) :
    (s >>= next).run streams =
      match s.run streams with
      | (.ok a, after) => (next a).run after
      | (.error e, after) => (.error e, after) := by
  change (ExceptT.bindCont next (s.run streams).1).run (s.run streams).2 = _
  split <;> next heq => rw [heq]; rfl

theorem run_bind_of_ok {s : Session α} {a : α} {after : Streams}
    (h : s.run streams = (.ok a, after)) (next : α → Session β) :
    (s >>= next).run streams = (next a).run after := by
  rw [run_bind, h]

theorem run_remark (r : Remark) : (remark r).run streams = (.ok (), streams.adding [] [r]) := rfl

/-- What the log lets through of a message. -/
def logged (options : Options) (level : Level) (message : String) : List Remark :=
  ((LogFilter.ofVerbose options.verbose).filter? level message).toList

theorem run_log (options : Options) (level : Level) (message : String) :
    (log options level message).run streams =
      (.ok (), streams.adding [] (logged options level message)) := by
  rw [log, logged]
  split
  · next h => rw [h, run_pure, Option.toList_none, Streams.adding_nil]
  · next r h => rw [h, run_remark, Option.toList_some]

theorem run_forM_remark {γ : Type} (items : List γ) (toRemark : γ → Remark) :
    (items.forM fun x => remark (toRemark x)).run streams =
      (.ok (), streams.adding [] (items.map toRemark)) := by
  induction items generalizing streams with
  | nil => exact congrArg (Prod.mk _) streams.adding_nil.symm
  | cons x rest ih =>
      rw [List.forM_eq_forM, List.forM_cons, run_bind_of_ok (run_remark _), ← List.forM_eq_forM, ih,
        Streams.adding_adding]
      rfl

theorem run_emit_of_write {write : Sink → Bool × Sink} {fits : Bool} {output : Sink}
    (h : write streams.output = (fits, output)) :
    (emit write).run streams =
      (if fits then .ok () else .error (.stream .full), { streams with output }) := by
  change (if !(write streams.output).1 then throw (.stream .full) else pure () : Session Unit).run
    { streams with output := (write streams.output).2 } = _
  rw [h]
  cases fits with
  | true => rfl
  | false => rfl

theorem run_emit {write : Sink → Bool × Sink} {texts : List String}
    (h : write streams.output = (true, streams.output.pushAll texts)) :
    (emit write).run streams = (.ok (), streams.adding texts []) := by
  rw [run_emit_of_write h, Streams.adding, List.append_nil]
  rfl

end Session

namespace Settings

/-- The settings of a session that found a manifest, or none. -/
def ofManifest? (options : Options) : Option Manifest → Settings
  | none => ofOptions options
  | some m => merge options m

end Settings

/-- The manifest step of a session comes to a manifest, or to none. -/
def Finds (fs : FileSystem) (options : Options) : Option Manifest → Prop
  | some m => Settings.manifest fs options = .ok (.ok m)
  | none => ∃ directory, Settings.manifest fs options = .ok (.error (.notFound directory))

/-- The source that a session reads, its name, and what is left of the input: a file is read as a
whole and the input not at all, and without a file the input is read up to an empty line. -/
def Reads (fs : FileSystem) (options : Options) (input : List UInt8) (source name : String)
    (left : List UInt8) : Prop :=
  match options.input? with
  | some path => fs.readText path = .ok source ∧ name = path.fileName?.getD "" ∧ left = input
  | none => Console.readTyped input = (.ok source, left) ∧ name = Lexer.consoleName

theorem Reads.of_file {fs : FileSystem} {options : Options} {input left : List UInt8}
    {source name : String} (h : Reads fs options input source name left)
    (hfile : options.input?.isSome) (other : List UInt8) :
    Reads fs options other source name other := by
  unfold Reads at h ⊢
  obtain ⟨path, hpath⟩ := Option.isSome_iff_exists.1 hfile
  rw [hpath] at h ⊢
  exact ⟨h.1, h.2.1, rfl⟩

namespace Session

variable {fs : FileSystem} {options : Options} {m? : Option Manifest} {streams : Streams}
  {source name : String} {left : List UInt8}

/-! ### One stage -/

theorem run_determine (hfinds : Finds fs options m?) :
    ∃ message, ∀ streams, (Settings.determine fs options).run streams =
      (.ok (Settings.ofManifest? options m?),
        streams.adding [] (logged options .debug message)) := by
  unfold Settings.determine
  cases m? with
  | none =>
      obtain ⟨directory, hmanifest⟩ := hfinds
      rw [hmanifest]
      exact ⟨_, fun _ => run_bind_of_ok (run_log _ _ _) _⟩
  | some m =>
      rw [show Settings.manifest fs options = .ok (.ok m) from hfinds]
      exact ⟨_, fun _ => run_bind_of_ok (run_log _ _ _) _⟩

/-- The texts of a greeting. -/
def greeting (options : Options) (settings : Settings) : List String :=
  if settings.banner then options.banner.map (· ++ "\n") else []

theorem run_greet (settings : Settings) (streams : Streams) (hroom : streams.output.room? = none) :
    (greet options settings).run streams =
      (.ok (), streams.adding (greeting options settings) []) := by
  rw [greet, greeting]
  split
  · exact run_emit (Sink.writeAll_of_unlimited hroom _)
  · rw [run_pure, Streams.adding_nil]

/-- The texts that stand for tokens. -/
def tokenTexts (settings : Settings) (tokens : List Token) : List String :=
  match settings.format with
  | .text => tokens.map fun t => t.echoText ++ "\n"
  | .json => [tokensAsJson tokens ++ "\n"]

theorem run_writeTokens (settings : Settings) (tokens : List Token) (streams : Streams)
    (hroom : streams.output.room? = none) :
    (writeTokens settings tokens).run streams =
      (.ok (), streams.adding (tokenTexts settings tokens) []) := by
  unfold writeTokens tokenTexts
  cases settings.format with
  | text => exact run_emit (Sink.writeAll_of_unlimited hroom _)
  | json => exact run_emit (Sink.write_of_unlimited hroom _)

theorem run_source (hreads : Reads fs options streams.input source name left) :
    (Session.source fs options).run streams =
      (.ok (source, name), streams.reading left) := by
  unfold Reads at hreads
  unfold Session.source
  cases hinput : options.input? with
  | some path =>
      rw [hinput] at hreads
      obtain ⟨hread, rfl, rfl⟩ := hreads
      dsimp only
      rw [hread]
      rfl
  | none =>
      rw [hinput] at hreads
      obtain ⟨hread, rfl⟩ := hreads
      rw [run_bind_of_ok run_get, hread]
      exact run_bind_of_ok (run_set _) _

/-! ### The stages together -/

theorem run_opening (hfinds : Finds fs options m?) :
    ∃ message, ∀ streams, streams.output.room? = none →
      (opening fs options).run streams = (.ok (Settings.ofManifest? options m?),
        streams.adding (greeting options (Settings.ofManifest? options m?))
          (logged options .debug message)) := by
  obtain ⟨message, hdetermine⟩ := run_determine hfinds
  refine ⟨message, fun streams hroom => ?_⟩
  rw [opening, run_bind_of_ok (hdetermine streams),
    run_bind_of_ok (run_greet _ (streams.adding [] _) hroom), run_pure, Streams.adding_adding,
    List.nil_append, List.append_nil]

/-- What is said beside the output about a source and what was found in it. -/
def remarksOn (options : Options) (source name : String) (found : List Token × Diagnostics) :
    List Remark :=
  logged options .debug ("read " ++ Nat.repr source.utf8ByteSize ++ " bytes from " ++ name) ++
    logged options .debug ("scanned " ++ Nat.repr found.1.length ++ " tokens") ++
    found.2.diagnostics.map (fun d => .report (d.report source name true)) ++
    if found.2.hasError then
      logged options .info (Nat.repr found.2.diagnostics.length ++ " error(s) in " ++ name)
    else []

def outcomeOf (bag : Diagnostics) : Outcome := if bag.hasError then .failed else .success

theorem run_body (settings : Settings) (streams : Streams) (hroom : streams.output.room? = none)
    (hreads : Reads fs options streams.input source name left) {found : List Token × Diagnostics}
    (hfound : ((Lexer.ofSource source name).withStrict settings.strict).tokenize = found) :
    (body fs options settings).run streams =
      (.ok (outcomeOf found.2), (streams.reading left).adding (tokenTexts settings found.1)
        (remarksOn options source name found)) := by
  obtain ⟨tokens, bag⟩ := found
  rw [body, run_bind_of_ok (run_source hreads)]
  dsimp only
  rw [run_bind_of_ok (run_log _ _ _), hfound]
  dsimp only
  rw [run_bind_of_ok (run_log _ _ _), run_bind_of_ok (run_forM_remark _ _), Streams.adding_adding,
    Streams.adding_adding,
    run_bind_of_ok (run_writeTokens _ _ ((streams.reading left).adding _ _) hroom),
    Streams.adding_adding]
  unfold remarksOn outcomeOf
  split
  · rw [run_bind_of_ok (run_log _ _ _), run_pure, Streams.adding_adding]
    simp
  · rw [run_pure]
    simp

end Session

end TokenEcho
