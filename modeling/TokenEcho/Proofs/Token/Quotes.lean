import TokenEcho.Proofs.Source.Place
import TokenEcho.Proofs.Token.Run

/-!
# The last quote of a source

No part of the lexer counts quotes. Still, quotes come in pairs in every spelling but a string that
is never closed, and such a string is the end of its source; so the parity of their number decides
whether there is one. This is `WellCut.closed_or_open`, by induction on the segments, and
`diagnostics_of_quotes` reads the diagnostics of a run off it.
-/

namespace TokenEcho

theorem isWordChar_quote : isWordChar '"' = false := by decide

theorem count_quote_of_forall {p : Char → Bool} {cs : List Char} (hp : p '"' = false)
    (h : ∀ c ∈ cs, p c) : cs.count '"' = 0 := by
  apply List.count_eq_zero.2
  intro hmem
  have := h _ hmem
  rw [hp] at this
  exact Bool.noConfusion this

theorem Spelling.Fits.even_count_quote {p : Spelling} {after : List Char} (h : p.Fits after)
    (hopen : p.isOpen = false) : p.text.count '"' % 2 = 0 := by
  cases p with
  | word first more =>
      have hword : ∀ c ∈ first :: more, isWordChar c :=
        List.forall_mem_cons.2 ⟨isWordChar_of_isLetter h.1, h.2.1⟩
      rw [text, count_quote_of_forall isWordChar_quote hword]
  | number first more =>
      have hdigits : ∀ c ∈ first :: more, Text.isDecimalDigit c :=
        List.forall_mem_cons.2 ⟨h.1, h.2.1⟩
      rw [text, count_quote_of_forall Text.isDecimalDigit_quote hdigits]
  | string body closed =>
      have hclosed : closed = true := by simpa [isOpen] using hopen
      subst hclosed
      rw [text, if_pos rfl, List.count_cons_self, List.count_append, List.count_singleton_self,
        List.count_eq_zero.2 h.1]
  | symbol c =>
      have hc : '"' ∉ [c] := fun hmem => h.2.2.2 (List.mem_singleton.1 hmem).symm
      rw [text, List.count_eq_zero.2 hc]

theorem spell_eq_nil {segments : List Segment} {tail : List Char} (h : spell segments tail = []) :
    segments = [] ∧ tail = [] := by
  cases segments with
  | nil => exact ⟨rfl, h⟩
  | cons s rest =>
      rw [spell_cons] at h
      have htext := (List.append_eq_nil_iff.1 (List.append_eq_nil_iff.1 h).2).1
      exact absurd htext s.spelling.text_ne_nil

/-- A string without a closing quote ends its source, so there is at most one, and there is one
exactly if the number of quotes is odd. -/
theorem WellCut.closed_or_open {segments : List Segment} {tail : List Char}
    (hcut : WellCut segments tail) :
    (∀ s ∈ segments, s.spelling.isOpen = false) ∧ (spell segments tail).count '"' % 2 = 0 ∨
    ∃ closed gap body, segments = closed ++ [⟨gap, .string body false⟩] ∧
      (∀ s ∈ closed, s.spelling.isOpen = false) ∧ tail = [] ∧ '"' ∉ body ∧
      (spell segments tail).count '"' % 2 = 1 := by
  induction segments with
  | nil =>
      refine .inl ⟨by simp, ?_⟩
      rw [spell_nil, count_quote_of_forall Text.isBlank_quote hcut]
  | cons s rest ih =>
      obtain ⟨hgap, hfits, hcut⟩ := hcut
      have hcount : (spell (s :: rest) tail).count '"' =
          s.spelling.text.count '"' + (spell rest tail).count '"' := by
        rw [spell_cons, List.count_append, List.count_append,
          count_quote_of_forall Text.isBlank_quote hgap, Nat.zero_add]
      cases hopen : s.spelling.isOpen with
      | true =>
          obtain ⟨gap, p⟩ := s
          cases p with
          | string body closed =>
              obtain rfl : closed = false := by simpa [Spelling.isOpen] using hopen
              obtain ⟨rfl, rfl⟩ := spell_eq_nil (hfits.2 rfl)
              refine .inr ⟨[], gap, body, rfl, by simp, rfl, hfits.1, ?_⟩
              rw [hcount, Spelling.text, if_neg Bool.false_ne_true, List.append_nil,
                List.count_cons_self, List.count_eq_zero.2 hfits.1, spell_nil, List.count_nil]
          | word | number | symbol => exact Bool.noConfusion hopen
      | false =>
          have heven := hfits.even_count_quote hopen
          rcases ih hcut with ⟨hclosed, hrest⟩ | ⟨closed, gap, body, rfl, hclosed, rfl, hbody, hrest⟩
          · exact .inl ⟨List.forall_mem_cons.2 ⟨hopen, hclosed⟩, by omega⟩
          · exact .inr ⟨s :: closed, gap, body, rfl, List.forall_mem_cons.2 ⟨hopen, hclosed⟩, rfl,
              hbody, by omega⟩

theorem isOpen_eq_false_of_mem_placed {segments : List Segment}
    (hclosed : ∀ s ∈ segments, s.spelling.isOpen = false) {before : List Char} {p : Placed}
    (hp : p ∈ placed before segments) : p.spelling.isOpen = false := by
  have hspelling := List.mem_map_of_mem (f := Placed.spelling) hp
  rw [map_spelling_placed] at hspelling
  obtain ⟨s, hs, hsame⟩ := List.mem_map.1 hspelling
  rw [← hsame]
  exact hclosed s hs

theorem WellCut.exists_placed_of_odd {segments : List Segment} {tail : List Char}
    (hcut : WellCut segments tail) (hodd : (spell segments tail).count '"' % 2 = 1) :
    ∃ ps p, placed [] segments = ps ++ [p] ∧ (∀ q ∈ ps, q.spelling.isOpen = false) ∧
      p.spelling.isOpen = true := by
  rcases hcut.closed_or_open with ⟨-, heven⟩ | ⟨closed, gap, body, rfl, hclosed, -, -, -⟩
  · omega
  · refine ⟨_, _, placed_append_cons _ _ _, ?_, rfl⟩
    intro q hq
    exact isOpen_eq_false_of_mem_placed hclosed hq

theorem flatMap_reports_of_closed {segments : List Segment}
    (hclosed : ∀ s ∈ segments, s.spelling.isOpen = false) (before : List Char) (file : String)
    (strict : Bool) : (placed before segments).flatMap (Placed.reports file strict) = [] := by
  apply List.flatMap_eq_nil_iff.2
  intro p hp
  exact Placed.reports_of_isOpen_eq_false (isOpen_eq_false_of_mem_placed hclosed hp) file strict

theorem flatMap_reports_lenient (ps : List Placed) (file : String) :
    ps.flatMap (Placed.reports file false) = [] :=
  List.flatMap_eq_nil_iff.2 fun _ _ => rfl

namespace Lexer

/-- The mode says what is reported, not what is read. -/
theorem tokens_withStrict (source file : String) (strict : Bool) :
    ((ofSource source file).withStrict strict).tokenize.1 = (ofSource source file).tokenize.1 := by
  obtain ⟨segments, tail, hsource, hcut⟩ := exists_wellCut source.toList
  have hrun := tokenize_of_wellCut hcut hsource.symm file
  have hlenient : (ofSource source file).withStrict false = ofSource source file := rfl
  rw [hrun, ← hlenient, hrun]

/-- A run finds an error if it is strict and a string is left open. -/
theorem hasError_tokenize (source file : String) (strict : Bool) :
    ((ofSource source file).withStrict strict).tokenize.2.hasError = true ↔
      strict = true ∧ source.toList.count '"' % 2 = 1 := by
  obtain ⟨segments, tail, hsource, hcut⟩ := exists_wellCut source.toList
  rw [tokenize_of_wellCut hcut hsource.symm, ← hsource]
  rcases hcut.closed_or_open with ⟨hclosed, heven⟩ | ⟨closed, gap, body, rfl, hclosed, -, -, hodd⟩
  · rw [flatMap_reports_of_closed hclosed, heven]
    simp [Diagnostics.hasError]
  · rw [placed_append_cons, List.flatMap_append, flatMap_reports_of_closed hclosed]
    cases strict with
    | false => simp [placed, Placed.reports, Diagnostics.hasError]
    | true =>
        simp [placed, Placed.reports, Spelling.isOpen, Diagnostics.hasError, unterminatedString,
          Diagnostic.isError, hodd]

/-- A diagnostic of a strict run is about a quote that opens a string and that nothing closes. -/
theorem exists_of_mem_diagnostics {source file : String} {d : Diagnostic}
    (hd : d ∈ ((ofSource source file).withStrict true).tokenize.2.diagnostics) :
    ∃ before body, source.toList = before ++ '"' :: body ∧ '"' ∉ body ∧
      d = unterminatedString (Placed.span file ⟨before, .string body false⟩) := by
  obtain ⟨segments, tail, hsource, hcut⟩ := exists_wellCut source.toList
  rw [tokenize_of_wellCut hcut hsource.symm] at hd
  rcases hcut.closed_or_open with ⟨hclosed, -⟩ | ⟨closed, gap, body, rfl, hclosed, rfl, hbody, -⟩
  · rw [flatMap_reports_of_closed hclosed] at hd
    exact absurd hd List.not_mem_nil
  · refine ⟨spell closed gap, body, ?_, hbody, ?_⟩
    · rw [← hsource, spell_append, spell_cons, spell_nil, List.append_nil, spell_append_tail]
      simp [Spelling.text]
    · rw [placed_append_cons, List.flatMap_append, flatMap_reports_of_closed hclosed] at hd
      exact List.mem_singleton.1 hd

end Lexer

/-- What a run finds in a source whose last quote closes nothing: its last token is a string that
runs from this quote to the end, and an error about it is all there is to say. -/
def EndsOpen (source : List Char) (file : String) (run : List Token × Diagnostics) : Prop :=
  ∃ before body t d, source = before ++ '"' :: body ∧ '"' ∉ body ∧
    run.1.getLast? = some t ∧ t.kind = .string ∧ t.lexeme = String.ofList body ∧
    t.span.file = file ∧ t.span.start.Follows before ∧ t.span.stop.Follows source ∧
    run.2.diagnostics = [d] ∧ d.isError ∧ d.span? = some t.span

/-- **Quotes decide.** A lenient run has no diagnostics, and a strict run has none on an even number
of quotes. On an odd number it has one, an error from the last quote to the end of the source, which
is where the last token is. -/
theorem diagnostics_of_quotes (source file : String) :
    ((Lexer.ofSource source file).withStrict false).tokenize.2.diagnostics = [] ∧
    (source.toList.count '"' % 2 = 0 →
      ((Lexer.ofSource source file).withStrict true).tokenize.2.diagnostics = []) ∧
    (source.toList.count '"' % 2 = 1 → source.utf8ByteSize ≤ 2 ^ 32 - 2 →
      EndsOpen source.toList file ((Lexer.ofSource source file).withStrict true).tokenize) := by
  obtain ⟨segments, tail, hsource, hcut⟩ := exists_wellCut source.toList
  have hrun := Lexer.tokenize_of_wellCut hcut hsource.symm file
  refine ⟨?_, ?_, ?_⟩
  · rw [hrun]
    exact flatMap_reports_lenient _ _
  · intro heven
    rw [hrun]
    rcases hcut.closed_or_open with ⟨hclosed, -⟩ | ⟨_, _, _, _, _, _, _, hodd⟩
    · exact flatMap_reports_of_closed hclosed _ _ _
    · rw [hsource] at hodd
      omega
  · intro hodd hsize
    rcases hcut.closed_or_open with ⟨_, heven⟩ | ⟨closed, gap, body, rfl, hclosed, rfl, hbody, -⟩
    · rw [hsource] at heven
      omega
    · have htext : source.toList = spell closed gap ++ '"' :: body := by
        rw [← hsource, spell_append, spell_cons, spell_nil, List.append_nil, spell_append_tail]
        simp [Spelling.text]
      have hstart : Text.byteLength (spell closed gap) ≤ 2 ^ 32 - 2 := by
        rw [← Text.byteLength_toList, htext, Text.byteLength_append] at hsize
        omega
      rw [← Text.byteLength_toList] at hsize
      rw [hrun, placed_append_cons]
      refine ⟨spell closed gap, body, Placed.token file ⟨spell closed gap, .string body false⟩,
        Lexer.unterminatedString (Placed.span file ⟨spell closed gap, .string body false⟩),
        htext, hbody, ?_, rfl, rfl, rfl, Position.follows_advanceAll hstart, ?_, ?_, rfl, rfl⟩
      · rw [List.map_append]
        exact List.getLast?_concat
      · have hstop := Position.follows_advanceAll hsize
        rw [htext] at hstop
        rw [htext]
        simpa [Placed.token, Placed.span, Placed.stop, Spelling.text] using hstop
      · rw [List.flatMap_append, flatMap_reports_of_closed hclosed]
        rfl

/-- Two strings that meet, and a third one that is left open on another line. -/
theorem endsOpen_of_five_quotes :
    "\"a\"\"\"b\n \"c\n".toList.count '"' % 2 = 1 ∧
      "\"a\"\"\"b\n \"c\n".utf8ByteSize ≤ 2 ^ 32 - 2 ∧
      EndsOpen "\"a\"\"\"b\n \"c\n".toList "a.mig"
        ((Lexer.ofSource "\"a\"\"\"b\n \"c\n" "a.mig").withStrict true).tokenize :=
  ⟨by decide, by decide, (diagnostics_of_quotes _ _).2.2 (by decide) (by decide)⟩

end TokenEcho
