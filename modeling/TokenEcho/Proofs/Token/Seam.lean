import TokenEcho.Proofs.Token.Quotes

/-!
# Sources that are put together

Where a source has an even number of quotes, and does not end inside a word that the next one goes
on with, the two can be cut apart: no token lies across the seam. `tokenize_append` says that the
tokens of both together are those of the one and then those of the other, whose places move by what
the first one counts. Columns move on the first line only, since a line feed starts them anew.
-/

namespace TokenEcho

def Position.behind (first : List Char) (p : Position) : Position where
  line := p.line + (first.count '\n').toUInt32
  column := if p.line = 1 then p.column + (Text.lastLine first).length.toUInt32 else p.column
  offset := p.offset + (Text.byteLength first).toUInt32

def Span.behind (first : List Char) (s : Span) : Span where
  file := s.file
  start := s.start.behind first
  stop := s.stop.behind first

/-- The token that a token of a source becomes behind another source. -/
def Token.behind (first : List Char) (t : Token) : Token where
  kind := t.kind
  lexeme := t.lexeme
  line := t.line + (first.count '\n').toUInt32
  span := t.span.behind first

def Diagnostic.behind (first : List Char) (d : Diagnostic) : Diagnostic :=
  { d with span? := d.span?.map (Span.behind first) }

def Placed.behind (first : List Char) (p : Placed) : Placed := ⟨first ++ p.before, p.spelling⟩

/-! ### Places -/

theorem Position.Follows.eq_behind {p q : Position} {first before : List Char}
    (hp : p.Follows before) (hq : q.Follows (first ++ before)) : q = p.behind first := by
  have hline := hq.line
  have hcolumn := hq.column
  have hoffset := hq.offset
  have hlineLt := q.line.toNat_lt
  have hcolumnLt := q.column.toNat_lt
  have hoffsetLt := q.offset.toNat_lt
  rw [List.count_append] at hline
  rw [Text.byteLength_append] at hoffset
  rw [Text.lastLine_append] at hcolumn
  have hfirst : p.line = 1 ↔ '\n' ∉ before := by
    rw [← UInt32.toNat_inj, hp.line, ← List.count_eq_zero]
    simp only [UInt32.reduceToNat]
    omega
  have hlineEq : q.line = (p.behind first).line := by
    apply UInt32.toNat_inj.1
    simp only [behind, UInt32.toNat_add, Nat.toUInt32_eq, UInt32.toNat_ofNat', hp.line]
    omega
  have hoffsetEq : q.offset = (p.behind first).offset := by
    apply UInt32.toNat_inj.1
    simp only [behind, UInt32.toNat_add, Nat.toUInt32_eq, UInt32.toNat_ofNat', hp.offset]
    omega
  have hcolumnEq : q.column = (p.behind first).column := by
    apply UInt32.toNat_inj.1
    -- behind a line feed of its own source the column does not depend on the first one
    by_cases hfeed : '\n' ∈ before
    · rw [if_pos hfeed] at hcolumn
      rw [behind, if_neg (fun h => hfirst.1 h hfeed), hcolumn, hp.column]
    · rw [if_neg hfeed, List.length_append] at hcolumn
      have hself : Text.lastLine before = before := by
        have := Text.lastLine_append [] before
        rwa [if_neg hfeed, List.nil_append, Text.lastLine_nil, List.nil_append] at this
      simp only [behind, if_pos (hfirst.2 hfeed), UInt32.toNat_add, Nat.toUInt32_eq,
        UInt32.toNat_ofNat', hp.column, hself]
      omega
  obtain ⟨line, column, offset⟩ := q
  simp only at hlineEq hcolumnEq hoffsetEq
  rw [hlineEq, hcolumnEq, hoffsetEq]

theorem Position.advanceAll_behind {first before : List Char}
    (hsize : Text.byteLength (first ++ before) ≤ 2 ^ 32 - 2) :
    Position.start.advanceAll (first ++ before) =
      (Position.start.advanceAll before).behind first := by
  refine (follows_advanceAll ?_).eq_behind (follows_advanceAll hsize)
  rw [Text.byteLength_append] at hsize
  omega

theorem placed_behind (first before : List Char) (segments : List Segment) :
    placed (first ++ before) segments = (placed before segments).map (Placed.behind first) := by
  induction segments generalizing before with
  | nil => rfl
  | cons s rest ih =>
      rw [placed, placed, List.map_cons, ← ih, List.append_assoc, List.append_assoc]
      rfl

theorem Placed.span_behind (file : String) (first : List Char) {p : Placed}
    (hsize : Text.byteLength (first ++ (p.before ++ p.spelling.text)) ≤ 2 ^ 32 - 2) :
    (p.behind first).span file = (p.span file).behind first := by
  have hstart : (p.behind first).start = p.start.behind first := by
    apply Position.advanceAll_behind
    simp only [Text.byteLength_append] at hsize ⊢
    omega
  have hstop : (p.behind first).stop = p.stop.behind first := by
    rw [Placed.stop, Placed.behind, List.append_assoc]
    exact Position.advanceAll_behind hsize
  rw [Placed.span, Placed.span, Span.behind, hstart, hstop]

theorem Placed.token_behind (file : String) (first : List Char) {p : Placed}
    (hsize : Text.byteLength (first ++ (p.before ++ p.spelling.text)) ≤ 2 ^ 32 - 2) :
    (p.behind first).token file = (p.token file).behind first := by
  have hspan := span_behind file first hsize
  have hline : (p.behind first).stop.line = p.stop.line + (first.count '\n').toUInt32 :=
    congrArg (fun s : Span => s.stop.line) hspan
  rw [Placed.token, Placed.token, Token.behind, hspan, hline]
  rfl

theorem Placed.reports_behind (file : String) (strict : Bool) (first : List Char) {p : Placed}
    (hsize : Text.byteLength (first ++ (p.before ++ p.spelling.text)) ≤ 2 ^ 32 - 2) :
    (p.behind first).reports file strict =
      (p.reports file strict).map (Diagnostic.behind first) := by
  have hspelling : (p.behind first).spelling = p.spelling := rfl
  rw [Placed.reports, Placed.reports, span_behind file first hsize, hspelling]
  split <;> rfl

/-! ### Segments -/

/-- The characters on the two sides of a seam do not both belong to words. -/
def Seam (first second : List Char) : Prop :=
  ∀ c ∈ first.getLast?, ∀ d ∈ second.head?, ¬ (isWordChar c ∧ isWordChar d)

instance (first second : List Char) : Decidable (Seam first second) :=
  @Option.decidableForallMem _ _ (fun _ => Option.decidableForallMem second.head?) first.getLast?

theorem Seam.of_append {xs ys second : List Char} (h : Seam (xs ++ ys) second) : Seam ys second := by
  intro c hc
  apply h c
  rw [List.getLast?_append, Option.mem_def.1 hc]
  rfl

theorem Seam.stops {run second : List Char} (h : Seam run second)
    (hrun : ∀ c ∈ run, isWordChar c) (hne : run ≠ []) : Stops isWordChar second := by
  intro d hd
  apply Bool.eq_false_iff.2
  intro hword
  exact h _ (List.getLast_mem_getLast? hne) d hd ⟨hrun _ (List.getLast_mem hne), hword⟩

theorem Spelling.Fits.append {p : Spelling} {after second : List Char} (h : p.Fits after)
    (hopen : p.isOpen = false) (hseam : Seam (p.text ++ after) second) :
    p.Fits (after ++ second) := by
  cases p with
  | word first more =>
      obtain ⟨hfirst, hmore, hafter⟩ := h
      refine ⟨hfirst, hmore, ?_⟩
      by_cases hnil : after = []
      · have hword : ∀ c ∈ first :: more, isWordChar c :=
          List.forall_mem_cons.2 ⟨isWordChar_of_isLetter hfirst, hmore⟩
        rw [hnil, List.append_nil] at hseam
        rw [hnil, List.nil_append]
        exact hseam.stops hword (List.cons_ne_nil _ _)
      · exact hafter.append hnil second
  | number first more =>
      obtain ⟨hfirst, hmore, hafter⟩ := h
      refine ⟨hfirst, hmore, ?_⟩
      by_cases hnil : after = []
      · have hdigits : ∀ c ∈ first :: more, Text.isDecimalDigit c :=
          List.forall_mem_cons.2 ⟨hfirst, hmore⟩
        rw [hnil, List.append_nil] at hseam
        rw [hnil, List.nil_append]
        intro d hd
        apply isDecimalDigit_eq_false_of_isWordChar
        exact hseam.stops (fun c hc => isWordChar_of_isDecimalDigit (hdigits c hc))
          (List.cons_ne_nil _ _) d hd
      · exact hafter.append hnil second
  | string body closed =>
      refine ⟨h.1, fun hclosed => ?_⟩
      rw [isOpen, hclosed] at hopen
      exact absurd hopen (by decide)
  | symbol c => exact h

/-- Segments that are cut well on both sides of a seam are cut well together. -/
theorem WellCut.append {xs ys : List Segment} {tail tail' second : List Char}
    (hxs : WellCut xs tail) (hclosed : ∀ s ∈ xs, s.spelling.isOpen = false)
    (hseam : Seam (spell xs tail) second) (hys : WellCut ys tail')
    (htext : spell ys tail' = tail ++ second) : WellCut (xs ++ ys) tail' := by
  induction xs with
  | nil => exact hys
  | cons s rest ih =>
      obtain ⟨hgap, hfits, hxs⟩ := hxs
      obtain ⟨hs, hclosed⟩ := List.forall_mem_cons.1 hclosed
      rw [spell_cons] at hseam
      have hafter : spell (rest ++ ys) tail' = spell rest tail ++ second := by
        rw [spell_append, htext, spell_append_tail]
      refine ⟨hgap, ?_, ih hxs hclosed hseam.of_append.of_append⟩
      exact hafter ▸ hfits.append hs hseam.of_append

/-- White space before a text belongs to its first gap, and moves what comes after it. -/
theorem WellCut.exists_widened {segments : List Segment} {tail gap : List Char}
    (hcut : WellCut segments tail) (hgap : IsBlankText gap) :
    ∃ segments' tail', WellCut segments' tail' ∧
      spell segments' tail' = gap ++ spell segments tail ∧
      ∀ before, placed before segments' = placed (before ++ gap) segments := by
  cases segments with
  | nil =>
      exact ⟨[], gap ++ tail, List.forall_mem_append.2 ⟨hgap, hcut⟩, rfl, fun _ => rfl⟩
  | cons s rest =>
      obtain ⟨hs, hfits, hrest⟩ := hcut
      refine ⟨⟨gap ++ s.gap, s.spelling⟩ :: rest, tail,
        ⟨List.forall_mem_append.2 ⟨hgap, hs⟩, hfits, hrest⟩, ?_, fun before => ?_⟩
      · rw [spell_cons, spell_cons, List.append_assoc]
      · simp only [placed, Segment.text, List.append_assoc]

/-- In either mode, nothing of the first source is lost and all of the second one moves behind it. -/
theorem Lexer.tokenize_ofSource_append {first second : String}
    (hsize : (first ++ second).utf8ByteSize ≤ 2 ^ 32 - 2)
    (hquotes : first.toList.count '"' % 2 = 0) (hseam : Seam first.toList second.toList)
    (file : String) (strict : Bool) :
    ((ofSource (first ++ second) file).withStrict strict).tokenize =
      (((ofSource first file).withStrict strict).tokenize.1 ++
        ((ofSource second file).withStrict strict).tokenize.1.map (Token.behind first.toList),
      ⟨((ofSource second file).withStrict strict).tokenize.2.diagnostics.map
        (Diagnostic.behind first.toList)⟩) := by
  obtain ⟨xs, tail, hfirst, hxs⟩ := exists_wellCut first.toList
  obtain ⟨ys, tail', hsecond, hys⟩ := exists_wellCut second.toList
  have hclosed : ∀ s ∈ xs, s.spelling.isOpen = false := by
    rcases hxs.closed_or_open with ⟨hclosed, -⟩ | ⟨_, _, _, _, _, _, _, hodd⟩
    · exact hclosed
    · rw [hfirst] at hodd
      omega
  obtain ⟨zs, tail'', hzs, hspell, hplaced⟩ := hys.exists_widened hxs.tail
  have hcut : WellCut (xs ++ zs) tail'' :=
    hxs.append hclosed (hfirst ▸ hseam) hzs (by rw [hspell, hsecond])
  have hboth : (first ++ second).toList = spell (xs ++ zs) tail'' := by
    rw [String.toList_append, spell_append, hspell, ← spell_append_tail, hfirst, hsecond]
  have hall : placed [] (xs ++ zs) =
      placed [] xs ++ (placed [] ys).map (Placed.behind first.toList) := by
    rw [placed_append, hplaced, List.nil_append, spell_append_tail, List.nil_append, hfirst,
      ← placed_behind, List.append_nil]
  have hbound : ∀ p ∈ placed [] ys,
      Text.byteLength (first.toList ++ (p.before ++ p.spelling.text)) ≤ 2 ^ 32 - 2 := by
    intro p hp
    obtain ⟨after, htext, -⟩ := exists_after_of_mem_placed hys hp
    rw [← Text.byteLength_toList, String.toList_append, ← hsecond,
      ← List.nil_append (spell ys tail'), htext] at hsize
    simp only [Text.byteLength_append] at hsize ⊢
    omega
  rw [tokenize_of_wellCut hcut hboth, tokenize_of_wellCut hxs hfirst.symm,
    tokenize_of_wellCut hys hsecond.symm, hall]
  dsimp only
  rw [List.map_append, List.map_map, List.map_map, List.flatMap_append,
    flatMap_reports_of_closed hclosed, List.nil_append, List.flatMap_map, List.map_flatMap]
  congr 2
  · apply List.map_congr_left
    intro p hp
    exact Placed.token_behind file first.toList (hbound p hp)
  · apply List.flatMap_congr
    intro p hp
    exact Placed.reports_behind file strict first.toList (hbound p hp)

/-- **Across a safe seam lexing is a homomorphism.** The first source has its quotes in pairs, and
no word goes on in the second one. Then the tokens of the second one follow those of the first one,
and its diagnostics are all there are, at their places behind the first source. -/
theorem tokenize_append (first second : String)
    (hsize : (first ++ second).utf8ByteSize ≤ 2 ^ 32 - 2)
    (hquotes : first.toList.count '"' % 2 = 0) (hseam : Seam first.toList second.toList) :
    tokenize (first ++ second) =
      tokenize first ++ (tokenize second).map (Token.behind first.toList) ∧
    ∀ file : String,
      ((Lexer.ofSource (first ++ second) file).withStrict true).tokenize.2.diagnostics =
        ((Lexer.ofSource second file).withStrict true).tokenize.2.diagnostics.map
          (Diagnostic.behind first.toList) := by
  have hrun := Lexer.tokenize_ofSource_append hsize hquotes hseam
  constructor
  · rw [tokenize_eq, tokenize_eq, tokenize_eq]
    exact congrArg Prod.fst (hrun Lexer.consoleName false)
  · intro file
    rw [hrun file true]

/-- A string at the seam, and an open one behind it on the second line. -/
theorem tokenize_append_at_quote :
    ("x\nä \"1\"" ++ "2 y\n\"z").utf8ByteSize ≤ 2 ^ 32 - 2 ∧
    "x\nä \"1\"".toList.count '"' % 2 = 0 ∧ Seam "x\nä \"1\"".toList "2 y\n\"z".toList ∧
    tokenize ("x\nä \"1\"" ++ "2 y\n\"z") =
      tokenize "x\nä \"1\"" ++
        (tokenize "2 y\n\"z").map (Token.behind "x\nä \"1\"".toList) ∧
    ∀ file : String,
      ((Lexer.ofSource ("x\nä \"1\"" ++ "2 y\n\"z") file).withStrict
          true).tokenize.2.diagnostics =
        ((Lexer.ofSource "2 y\n\"z" file).withStrict true).tokenize.2.diagnostics.map
          (Diagnostic.behind "x\nä \"1\"".toList) :=
  ⟨by decide, by decide, by decide +kernel,
    tokenize_append _ _ (by decide) (by decide) (by decide +kernel)⟩

end TokenEcho
