import TokenEcho.Proofs.Session.Whole
import TokenEcho.Proofs.Source.Console

/-!
# Sources that can be typed

A text comes through the console as it is exactly if it is a row of lines, none of them empty, each
with a bare line feed at its end, `typedText_eq_self_iff`. What has been read once is such a row but
for carriage returns, of which a read takes one from each line, `ended_of_reads`; so it is only by
these that a second read can change it. A text that comes through has the tokens it has in a file.
-/

namespace TokenEcho

/-- The token as it is in a source of another name. -/
def Token.named (file : String) (t : Token) : Token := { t with span := { t.span with file } }

namespace Console

open Text

/-! ### Texts that stay as they are -/

/-- A text that is empty or ends with a line feed. -/
def IsEnded (cs : List Char) : Prop := cs = [] ∨ cs.getLast? = some '\n'

/-- No carriage return is the last character of the line before its line feed. -/
def HasBareEnd (line : List Char) : Prop := (dropLastIf '\n' line).getLast? ≠ some '\r'

instance : DecidablePred HasBareEnd := fun line =>
  inferInstanceAs (Decidable ((dropLastIf '\n' line).getLast? ≠ some '\r'))

theorem isEnded_append_lineFeed (body rest : List Char) :
    IsEnded (body ++ '\n' :: rest) ↔ IsEnded rest := by
  cases rest with
  | nil => simp [IsEnded]
  | cons c rest => simp [IsEnded, List.getLast?_append]

theorem not_isEnded_of_not_mem {body : List Char} (h : '\n' ∉ body) (hne : body ≠ []) :
    ¬ IsEnded body := fun hended => hended.elim hne fun hlast => h (List.mem_of_getLast? hlast)

theorem hasBareEnd_concat (body : List Char) :
    HasBareEnd (body ++ ['\n']) ↔ dropLastIf '\r' body = body := by
  rw [HasBareEnd, dropLastIf_concat, dropLastIf_eq_self_iff]

theorem typedText_of_not_mem {body : List Char} (h : '\n' ∉ body) (hne : body ≠ []) :
    typedText body = if dropLastIf '\r' body = [] then [] else dropLastIf '\r' body ++ ['\n'] := by
  rw [typedText, splitAfter_of_not_mem h hne, List.map_singleton, content, dropLastIf_of_not_mem h]
  split
  · next hempty => rw [hempty, joinLines_nil_cons]
  · next hcontent => rw [joinLines_cons hcontent, joinLines_nil]

theorem typedText_append {body : List Char} (h : '\n' ∉ body) (rest : List Char) :
    typedText (body ++ '\n' :: rest) =
      if dropLastIf '\r' body = [] then [] else dropLastIf '\r' body ++ '\n' :: typedText rest := by
  rw [typedText, splitAfter_append_mark h, List.map_cons, content, dropLastIf_concat]
  split
  · next hempty => rw [hempty, joinLines_nil_cons]
  · next hcontent => rw [joinLines_cons hcontent, typedText]

theorem append_lineFeed_inj {xs ys rest rest' : List Char} (hxs : '\n' ∉ xs) (hys : '\n' ∉ ys) :
    xs ++ '\n' :: rest = ys ++ '\n' :: rest' ↔ xs = ys ∧ rest = rest' := by
  refine ⟨fun h => ?_, fun ⟨hxs, hrest⟩ => by rw [hxs, hrest]⟩
  have hpieces := congrArg (splitAfter '\n') h
  rw [splitAfter_append_mark hxs, splitAfter_append_mark hys] at hpieces
  obtain rfl := List.append_cancel_right (List.cons.inj hpieces).1
  exact ⟨rfl, (List.cons.inj (List.append_cancel_left h)).2⟩

theorem typedText_eq_self_iff (cs : List Char) :
    typedText cs = cs ↔
      IsEnded cs ∧ ∀ line ∈ splitAfter '\n' cs, line ≠ ['\n'] ∧ HasBareEnd line := by
  induction cs using pieces_induction '\n' with
  | nil => simp [typedText, IsEnded]
  | last body hbody hne =>
      refine iff_of_false (fun h => ?_) fun h => not_isEnded_of_not_mem hbody hne h.1
      rw [typedText_of_not_mem hbody hne] at h
      split at h
      · exact hne h.symm
      · exact hbody (by rw [← h]; simp)
  | piece body rest hbody ih =>
      have hstripped : '\n' ∉ dropLastIf '\r' body :=
        fun h => hbody ((dropLastIf_prefix_self _ _).subset h)
      rw [typedText_append hbody, splitAfter_append_mark hbody, isEnded_append_lineFeed,
        List.forall_mem_cons, hasBareEnd_concat]
      by_cases hempty : dropLastIf '\r' body = []
      · rw [if_pos hempty]
        refine iff_of_false (by simp) fun h => h.2.1.1 ?_
        rw [← h.2.1.2, hempty]
        rfl
      · have hbodyNe : body ++ ['\n'] ≠ ['\n'] := by
          intro h
          have hnil : body = [] := by simpa using h
          exact hempty (by rw [hnil]; rfl)
        rw [if_neg hempty, append_lineFeed_inj hstripped hbody, ih]
        constructor
        · rintro ⟨hsame, hended, hlines⟩
          exact ⟨hended, ⟨hbodyNe, hsame⟩, hlines⟩
        · rintro ⟨hended, ⟨-, hsame⟩, hlines⟩
          exact ⟨hsame, hended, hlines⟩

theorem readTyped_encode_eq_self_iff (text : String) :
    (readTyped (encode text)).1 = .ok text ↔
      IsEnded text.toList ∧
        ∀ line ∈ splitAfter '\n' text.toList, line ≠ ['\n'] ∧ HasBareEnd line := by
  rw [← typedText_eq_self_iff, readTyped_encode, Except.ok.injEq]
  constructor
  · intro h
    have hlist := congrArg String.toList h
    rwa [String.toList_ofList] at hlist
  · intro h
    rw [h, String.ofList_toList]

/-! ### Texts that have been read -/

theorem lineFeed_not_mem_contentBytes {input line : List UInt8} (h : line ∈ rawLines input) :
    lineFeed ∉ contentBytes line := by
  have hsubset := (dropLastIf_prefix_self carriageReturn (dropLastIf lineFeed line)).subset
  rcases closed_or_last_of_mem_splitAfter h with ⟨body, hbody, rfl⟩ | ⟨hnot, -⟩
  · rw [dropLastIf_concat] at hsubset
    rw [contentBytes, dropLastIf_concat]
    exact fun hmem => hbody (hsubset hmem)
  · exact fun hmem => hnot ((dropLastIf_prefix_self lineFeed line).subset (hsubset hmem))

theorem encode_of_reads {input : List UInt8} {text : String}
    (h : (readTyped input).1 = .ok text) :
    encode text = (keptLines input).flatMap (contentBytes · ++ [lineFeed]) := by
  have hread := readsTyped_readTyped input
  by_cases hvalid : ∀ line ∈ keptLines input, (decode? line).isSome
  · obtain ⟨source, hrun, hsource, -⟩ := hread.reads hvalid
    rw [h, Except.ok.injEq] at hrun
    rw [hrun, hsource]
  · rw [hread.fails (by simpa using hvalid)] at h
    cases h

theorem map_bytesOf_splitAfter_of_reads {input : List UInt8} {text : String}
    (h : (readTyped input).1 = .ok text) :
    (splitAfter '\n' text.toList).map bytesOf =
      (keptLines input).map (contentBytes · ++ [lineFeed]) := by
  have hclosed : ∀ piece ∈ (keptLines input).map (contentBytes · ++ [lineFeed]),
      IsClosed lineFeed piece := by
    intro piece hpiece
    obtain ⟨line, hline, rfl⟩ := List.mem_map.1 hpiece
    have hraw : line ∈ rawLines input := (List.takeWhile_prefix _).subset hline
    exact ⟨_, lineFeed_not_mem_contentBytes hraw, rfl⟩
  rw [← splitAfter_bytesOf utf8EncodeChar_lineFeed, ← encode_eq_bytesOf, encode_of_reads h,
    List.flatMap_def]
  simpa using splitAfter_flatten_append hclosed []

theorem ended_of_reads {input : List UInt8} {text : String}
    (h : (readTyped input).1 = .ok text) :
    IsEnded text.toList ∧ ∀ line ∈ splitAfter '\n' text.toList, line ≠ ['\n'] := by
  refine ⟨?_, ?_⟩
  · have hbytes := encode_of_reads h
    rcases List.eq_nil_or_concat' (keptLines input) with hkept | ⟨lines, line, hkept⟩
    · rw [hkept] at hbytes
      exact .inl (bytesOf_injective hbytes)
    · rw [hkept, List.flatMap_append, List.flatMap_singleton, ← List.append_assoc] at hbytes
      right
      rw [← getLast?_bytesOf_eq_some_iff utf8EncodeChar_lineFeed, ← encode_eq_bytesOf, hbytes]
      exact List.getLast?_concat
  · rintro line hline rfl
    have hbytes := List.mem_map_of_mem (f := bytesOf) hline
    rw [map_bytesOf_splitAfter_of_reads h] at hbytes
    obtain ⟨kept, hkept, hsame⟩ := List.mem_map.1 hbytes
    have hne : contentBytes kept ≠ [] := by simpa using List.mem_takeWhile_imp hkept
    exact hne (List.append_cancel_right (hsame.trans (bytesOf_concat utf8EncodeChar_lineFeed [])))

end Console

/-! ### Typed and in a file -/

/-- The name of a source is all that its tokens take from it beside its text. -/
theorem Lexer.tokens_named (source file file' : String) (strict strict' : Bool) :
    ((Lexer.ofSource source file').withStrict strict').tokenize.1 =
      ((Lexer.ofSource source file).withStrict strict).tokenize.1.map (Token.named file') := by
  obtain ⟨segments, tail, hsource, hcut⟩ := exists_wellCut source.toList
  rw [Lexer.tokenize_of_wellCut hcut hsource.symm, Lexer.tokenize_of_wellCut hcut hsource.symm,
    List.map_map]
  rfl

namespace Session

theorem run_source_of_file {fs : FileSystem} {path : Path} {text : String}
    (h : fs.readText path = .ok text) (options : Options) (streams : Streams) :
    (source fs { options with input? := some path }).run streams =
      (.ok (text, path.fileName?.getD ""), streams) := by
  have hreads : Reads fs { options with input? := some path } streams.input text
      (path.fileName?.getD "") streams.input := ⟨h, rfl, rfl⟩
  exact run_source hreads

theorem run_source_of_typed {input : List UInt8} {text : String}
    (h : (Console.readTyped input).1 = .ok text) (fs : FileSystem) (options : Options)
    (streams : Streams) :
    (source fs { options with input? := none }).run { streams with input } =
      (.ok (text, Lexer.consoleName), { streams with input := (Console.readTyped input).2 }) := by
  have hreads : Reads fs { options with input? := none } input text Lexer.consoleName
      (Console.readTyped input).2 := ⟨Prod.ext h rfl, rfl⟩
  exact run_source hreads

/-- A session that is given the text as its input and one that is given it in a file have the same
source, and the same tokens but for the name of the source. -/
structure SameSource (fs : FileSystem) (options : Options) (path : Path) (streams : Streams)
    (text : String) : Prop where
  typed : ∃ left, (source fs { options with input? := none }).run
    { streams with input := Text.encode text } =
      (.ok (text, Lexer.consoleName), { streams with input := left })
  filed : (source fs { options with input? := some path }).run streams =
    (.ok (text, path.fileName?.getD ""), streams)
  tokens : ∀ strict strict',
    ((Lexer.ofSource text Lexer.consoleName).withStrict strict).tokenize.1 =
    ((Lexer.ofSource text (path.fileName?.getD "")).withStrict strict').tokenize.1.map
      (Token.named Lexer.consoleName)

/-- **Typing a text again.** A text comes through the console as it is exactly if it is empty or a
row of lines that end with bare line feeds, none of them empty. If it has come through the console
before, it does exactly if no carriage return is left at the end of a line. And a text that does is
the same source typed as it is in a file. -/
theorem typed_again (text : String) :
    ((Console.readTyped (Text.encode text)).1 = .ok text ↔
      text = "" ∨ (text.toList.getLast? = some '\n' ∧
        (∀ line ∈ Text.splitAfter '\n' text.toList, line ≠ ['\n']) ∧
        ∀ line ∈ Text.splitAfter '\n' text.toList, Console.HasBareEnd line)) ∧
    (∀ input, (Console.readTyped input).1 = .ok text →
      ((Console.readTyped (Text.encode text)).1 = .ok text ↔
        ∀ line ∈ Text.splitAfter '\n' text.toList, Console.HasBareEnd line)) ∧
    ((Console.readTyped (Text.encode text)).1 = .ok text →
      ∀ fs options path streams, fs.readText path = .ok text →
        SameSource fs options path streams text) := by
  have hstays := Console.readTyped_encode_eq_self_iff text
  refine ⟨?_, fun input hread => ?_, fun hread fs options path streams hfile => ?_⟩
  · rw [hstays, forall₂_and, Console.IsEnded, String.toList_eq_nil_iff, or_and_right]
    constructor
    · rintro (⟨rfl, -⟩ | h)
      · exact .inl rfl
      · exact .inr h
    · rintro (rfl | h)
      · exact .inl ⟨rfl, by simp, by simp⟩
      · exact .inr h
  · rw [hstays, forall₂_and]
    obtain ⟨hended, hlines⟩ := Console.ended_of_reads hread
    exact ⟨fun h => h.2.2, fun h => ⟨hended, hlines, h⟩⟩
  · exact {
      typed := ⟨_, run_source_of_typed hread fs options streams⟩
      filed := run_source_of_file hfile options streams
      tokens := fun strict strict' => Lexer.tokens_named _ _ _ _ _ }

/-- A line that was typed with a carriage return at its end, and then stands in a file without. -/
theorem typed_again_of_strictProject :
    (Console.readTyped (Text.encode "writl \"oops\r\n")).1 = .ok "writl \"oops\n" ∧
      (∀ line ∈ Text.splitAfter '\n' "writl \"oops\n".toList, Console.HasBareEnd line) ∧
      (Console.readTyped (Text.encode "writl \"oops\n")).1 = .ok "writl \"oops\n" ∧
      strictProject.readText ⟨"work/a.mig"⟩ = .ok "writl \"oops\n" ∧
      SameSource strictProject {} ⟨"work/a.mig"⟩ {} "writl \"oops\n" := by
  have hread : (Console.readTyped (Text.encode "writl \"oops\r\n")).1 = .ok "writl \"oops\n" := by
    decide +kernel
  have hbare : ∀ line ∈ Text.splitAfter '\n' "writl \"oops\n".toList,
      Console.HasBareEnd line := by decide
  have hfile : strictProject.readText ⟨"work/a.mig"⟩ = .ok "writl \"oops\n" := by decide +kernel
  have hagain := ((typed_again "writl \"oops\n").2.1 _ hread).2 hbare
  exact ⟨hread, hbare, hagain, hfile, (typed_again _).2.2 hagain _ _ _ _ hfile⟩

end Session

end TokenEcho
