import TokenEcho.Proofs.Token.Lookahead

/-!
# A quote at the end

A string that nothing closes is the last token of its source and runs to the end, so a quote at the
end closes it. The quote belongs to the span of the string and not to its body, nor does it end a
line; all that changes is where the last span stops, and that there is nothing left to report. Both
sources are cut alike, `WellCut.closing`, and `closedByQuote_of_reported` is the statement. It is
read backwards too: a source that ends in a closing quote is such a longer source.
-/

namespace TokenEcho

/-- The place behind a quote at this place. -/
def Position.pastQuote (p : Position) : Position :=
  { p with column := p.column + 1, offset := p.offset + 1 }

/-- The token with a span that stops behind one more quote. -/
def Token.pastQuote (t : Token) : Token :=
  { t with span := { t.span with stop := t.span.stop.pastQuote } }

/-- One byte and one column further on the same line, where no word has wrapped around. -/
structure Position.OneBefore (p q : Position) : Prop where
  line : q.line = p.line
  column : q.column.toNat = p.column.toNat + 1
  offset : q.offset.toNat = p.offset.toNat + 1

/-- The text of a string, which nothing closes in one source, and its text in the longer one. -/
structure Token.ClosedIn (source longer : String) (t : Token) : Prop where
  opened : t.span.text? source = some ("\"" ++ t.lexeme)
  closed : t.pastQuote.span.text? longer = some ("\"" ++ t.lexeme ++ "\"")
  moved : t.span.stop.OneBefore t.pastQuote.span.stop

/-- What a quote at the end is to a source: a strict run of the source has one error, about its last
token, which is a string; behind the quote a strict run has the same tokens, except that the last
one stops later, and no diagnostics. -/
def ClosedByQuote (source file : String) : Prop :=
  ∃ found last d,
    ((Lexer.ofSource source file).withStrict true).tokenize = (found ++ [last], ⟨[d]⟩) ∧
    last.kind = .string ∧ d.isError ∧ d.span? = some last.span ∧
    ((Lexer.ofSource (source ++ "\"") file).withStrict true).tokenize =
      (found ++ [last.pastQuote], {}) ∧
    (source.utf8ByteSize ≤ 2 ^ 32 - 3 → last.ClosedIn source (source ++ "\""))

/-! ### Segments -/

section

variable {init : List Segment} {gap body : List Char}

theorem spell_closing : spell (init ++ [⟨gap, .string body true⟩]) [] =
    spell (init ++ [⟨gap, .string body false⟩]) [] ++ ['"'] := by
  simp [spell_append, spell_append_tail, Spelling.text]

theorem WellCut.closing (hcut : WellCut (init ++ [⟨gap, .string body false⟩]) []) :
    WellCut (init ++ [⟨gap, .string body true⟩]) [] := by
  induction init with
  | nil =>
      obtain ⟨hgap, hfits, htail⟩ := hcut
      exact ⟨hgap, ⟨hfits.1, nofun⟩, htail⟩
  | cons s init ih =>
      obtain ⟨hgap, hfits, hcut⟩ := hcut
      have hne : spell (init ++ [⟨gap, .string body false⟩]) [] ≠ [] := fun h => by
        simpa using (spell_eq_nil h).1
      exact ⟨hgap, spell_closing ▸ hfits.append_of_settled (.inl hne) ['"'], ih hcut⟩

end

/-! ### Places -/

theorem Placed.token_closing (file : String) (before body : List Char) :
    Placed.token file ⟨before, .string body true⟩ =
      (Placed.token file ⟨before, .string body false⟩).pastQuote := by
  have hstop : Placed.stop ⟨before, .string body true⟩ =
      (Placed.stop ⟨before, .string body false⟩).advance '"' := by
    have htext : before ++ (Spelling.string body true).text =
        before ++ (Spelling.string body false).text ++ ['"'] := by
      simp [Spelling.text]
    rw [Placed.stop, htext, Position.advanceAll_append]
    rfl
  rw [Placed.token, Placed.span, hstop]
  rfl

theorem Position.Follows.oneBefore {p : Position} {before : List Char} (h : p.Follows before)
    (hsize : Text.byteLength before ≤ 2 ^ 32 - 3) : p.OneBefore p.pastQuote := by
  have hnext : (p.advance '"').Follows (before ++ ['"']) := by
    apply h.advance
    apply h.hasRoom
    rw [Text.byteLength_append]
    exact Nat.add_le_add_right hsize 1
  refine ⟨rfl, ?_, ?_⟩
  · change (p.advance '"').column.toNat = _
    rw [hnext.column, h.column, Text.lastLine_concat_of_ne _ (by decide), List.length_append]
    rfl
  · change (p.advance '"').offset.toNat = _
    rw [hnext.offset, h.offset, Text.byteLength_append]
    rfl

theorem Placed.closedIn {source : String} {before body : List Char} (file : String)
    (hsource : source.toList = before ++ '"' :: body)
    (hsize : source.utf8ByteSize ≤ 2 ^ 32 - 3) :
    (Placed.token file ⟨before, .string body false⟩).ClosedIn source (source ++ "\"") := by
  have hopen : source.toList = before ++ ((Spelling.string body false).text ++ []) := by
    rw [hsource]
    simp [Spelling.text]
  have hclosed : (source ++ "\"").toList = before ++ ((Spelling.string body true).text ++ []) := by
    rw [String.toList_append, hsource]
    simp [Spelling.text]
  have hlonger : (source ++ "\"").utf8ByteSize ≤ 2 ^ 32 - 2 := by
    rw [String.utf8ByteSize_append]
    exact Nat.add_le_add_right hsize 1
  refine ⟨?_, ?_, ?_⟩
  · have htext := Placed.text?_span (p := ⟨before, .string body false⟩) hopen (by omega) file
    rw [Placed.token, htext, Option.some_inj, ← String.toList_inj]
    simp [Spelling.text, Spelling.lexeme]
  · have htext := Placed.text?_span (p := ⟨before, .string body true⟩) hclosed hlonger file
    rw [← Placed.token_closing, Placed.token, htext, Option.some_inj, ← String.toList_inj]
    simp [Placed.token, Spelling.text, Spelling.lexeme]
  · rw [← Text.byteLength_toList, hopen, List.append_nil] at hsize
    exact (Position.follows_advanceAll (Nat.le_succ_of_le hsize)).oneBefore hsize

/-! ### Runs -/

theorem closedByQuote_of_odd {source : String} (hodd : source.toList.count '"' % 2 = 1)
    (file : String) : ClosedByQuote source file := by
  obtain ⟨segments, tail, hsource, hcut⟩ := exists_wellCut source.toList
  rcases hcut.closed_or_open with ⟨-, heven⟩ | ⟨init, gap, body, rfl, hclosed, rfl, -, -⟩
  · rw [hsource] at heven
    omega
  have hlonger : (source ++ "\"").toList = spell (init ++ [⟨gap, .string body true⟩]) [] := by
    rw [String.toList_append, spell_closing, hsource]
    rfl
  have hend : source.toList = spell init gap ++ '"' :: body := by
    rw [← hsource, spell_append, spell_cons, spell_nil, List.append_nil, spell_append_tail]
    simp [Spelling.text]
  refine ⟨(placed [] init).map (Placed.token file),
    Placed.token file ⟨spell init gap, .string body false⟩,
    Lexer.unterminatedString (Placed.span file ⟨spell init gap, .string body false⟩),
    ?_, rfl, rfl, rfl, ?_, Placed.closedIn file hend⟩
  · rw [Lexer.tokenize_of_wellCut hcut hsource.symm, placed_append_cons, List.map_append,
      List.flatMap_append, flatMap_reports_of_closed hclosed]
    rfl
  · rw [Lexer.tokenize_of_wellCut hcut.closing hlonger, placed_append_cons, List.map_append,
      List.flatMap_append, flatMap_reports_of_closed hclosed, ← Placed.token_closing]
    rfl

theorem odd_of_reported {source file : String}
    (h : ((Lexer.ofSource source file).withStrict true).tokenize.2.diagnostics ≠ []) :
    source.toList.count '"' % 2 = 1 := by
  obtain ⟨segments, tail, hsource, hcut⟩ := exists_wellCut source.toList
  rw [Lexer.tokenize_of_wellCut hcut hsource.symm] at h
  rcases hcut.closed_or_open with ⟨hclosed, -⟩ | ⟨_, _, _, _, _, _, _, hodd⟩
  · exact absurd (flatMap_reports_of_closed hclosed _ _ _) h
  · rwa [hsource] at hodd

theorem even_of_not_reported {source file : String}
    (h : ((Lexer.ofSource source file).withStrict true).tokenize.2.diagnostics = []) :
    source.toList.count '"' % 2 = 0 := by
  have herror := Lexer.hasError_tokenize source file true
  rw [Diagnostics.hasError, h] at herror
  have hnot : ¬ source.toList.count '"' % 2 = 1 := fun hodd => by
    simpa using herror.2 ⟨rfl, hodd⟩
  omega

/-- **The suggested fix works.** If a strict run of a source has something to report, then a quote
at its end closes the last string and changes nothing else. And a source whose last character is a
quote that leaves nothing to report is one without this quote that is closed by it. -/
theorem closedByQuote_of_reported (source file : String) :
    (((Lexer.ofSource source file).withStrict true).tokenize.2.diagnostics ≠ [] →
      ClosedByQuote source file) ∧
    (source.toList.getLast? = some '"' →
      ((Lexer.ofSource source file).withStrict true).tokenize.2.diagnostics = [] →
      source = String.ofList source.toList.dropLast ++ "\"" ∧
        ClosedByQuote (String.ofList source.toList.dropLast) file) := by
  refine ⟨fun h => closedByQuote_of_odd (odd_of_reported h) file, fun hlast h => ?_⟩
  obtain ⟨shorter, hshorter⟩ := List.getLast?_eq_some_iff.1 hlast
  have heven := even_of_not_reported h
  rw [hshorter, List.count_append, List.count_singleton_self] at heven
  rw [hshorter, List.dropLast_concat]
  refine ⟨?_, closedByQuote_of_odd ?_ file⟩
  · rw [← String.toList_inj, hshorter, String.toList_append, String.toList_ofList]
    rfl
  · rw [String.toList_ofList]
    omega

/-- An open string over two lines behind a closed one, and an empty string at the end. -/
theorem closedByQuote_of_lines_of_empty :
    (((Lexer.ofSource "\"a\"é \"b\n" "a.mig").withStrict true).tokenize.2.diagnostics ≠ [] ∧
      ClosedByQuote "\"a\"é \"b\n" "a.mig") ∧
    "x\"\"".toList.getLast? = some '"' ∧
    ((Lexer.ofSource "x\"\"" "a.mig").withStrict true).tokenize.2.diagnostics = [] ∧
    "x\"\"" = String.ofList "x\"\"".toList.dropLast ++ "\"" ∧
      ClosedByQuote (String.ofList "x\"\"".toList.dropLast) "a.mig" := by
  have hopen :
      ((Lexer.ofSource "\"a\"é \"b\n" "a.mig").withStrict true).tokenize.2.diagnostics ≠ [] := by
    decide +kernel
  have hclosed : ((Lexer.ofSource "x\"\"" "a.mig").withStrict true).tokenize.2.diagnostics = [] := by
    decide +kernel
  have hlast : "x\"\"".toList.getLast? = some '"' := by decide
  exact ⟨⟨hopen, (closedByQuote_of_reported _ _).1 hopen⟩, hlast, hclosed,
    (closedByQuote_of_reported _ _).2 hlast hclosed⟩

end TokenEcho
