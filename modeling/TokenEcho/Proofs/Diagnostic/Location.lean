import TokenEcho.Proofs.Diagnostic.Label
import TokenEcho.Proofs.Diagnostic.SourceLine
import TokenEcho.Proofs.Text.Numeral

/-!
# Where a report points

The second line of a report names the source and a line and a column in it. They are found again
from the number of characters before the place, in the lines as a report counts them, and not taken
from the span; a report says what its span says exactly if no foreign end of a line is before the
place. This is `Lexer.pointsAtQuote_of_mem_diagnostics`. A report points at one place only,
`Diagnostic.PointsAt.unique`: numbers are runs of digits, and no digit comes after either of them.
-/

namespace TokenEcho

namespace Diagnostic

def heading (d : Diagnostic) : List Piece :=
  [⟨.mark d.severity, d.title⟩, Piece.plain (" " ++ d.message)]

/-- The line of a report that names a place. -/
def locationLine (width : Nat) (file : String) (line column : Nat) : List Piece :=
  [Piece.blanks width, ⟨.frame, "╭"⟩, ⟨.frame, "─"⟩, ⟨.frame, "["⟩,
    Piece.plain (file ++ (":" ++ Nat.repr line ++ ":" ++ Nat.repr column)), ⟨.frame, "]"⟩]

/-- The report names this place on its second line. -/
def PointsAt (d : Diagnostic) (source file : String) (color : Bool) (line column : Nat) : Prop :=
  ∃ width rest, d.report source file color =
    Piece.renderLines color [d.heading, locationLine width file line column] ++ rest

/-- The diagnostic is about the last quote of the source. Its span starts there as the source counts
lines, and its report points there as reports count them, which is the same place exactly if no
foreign end of a line is before the quote. -/
def PointsAtQuote (d : Diagnostic) (source file : String) (color : Bool) : Prop :=
  ∃ span before body, d.span? = some span ∧
    source.toList = before ++ '"' :: body ∧ '"' ∉ body ∧ span.start.Follows before ∧
    d.PointsAt source file color (1 + (SourceLine.unifyEnds before).count '\n')
      (1 + (Text.lastLine (SourceLine.unifyEnds before)).length) ∧
    (d.PointsAt source file color span.start.line.toNat span.start.column.toNat ↔
      SourceLine.foreignEnds before = 0)

end Diagnostic

/-! ### Pieces -/

namespace Piece

def chars (color : Bool) (line : List Piece) : List Char :=
  line.flatMap fun piece => (piece.render color).toList

theorem renderLines_append (color : Bool) (xs ys : List (List Piece)) :
    renderLines color (xs ++ ys) = renderLines color xs ++ renderLines color ys := by
  rw [renderLines, List.map_append, String.join_append]
  rfl

theorem toList_renderLines_pair (color : Bool) (first second : List Piece) :
    (renderLines color [first, second]).toList =
      chars color first ++ '\n' :: (chars color second ++ ['\n']) := by
  simp [renderLines, chars, String.toList_join, List.flatMap_map]

theorem render_plain (color : Bool) (text : String) : (plain text).render color = text := by
  cases color <;> rfl

/-- A framed piece starts with its text or with the escape of a control sequence. -/
theorem stops_frame {p : Char → Bool} {text : String} {c : Char} {more : List Char}
    (htext : text.toList = c :: more) (hc : p c = false) (hescape : p '\x1b' = false)
    (color : Bool) (after : List Char) : Stops p (chars color [⟨.frame, text⟩] ++ after) := by
  cases color with
  | false => simpa [chars, render, Paint.code?, htext] using hc
  | true => simpa [chars, render, Paint.code?] using hescape

end Piece

/-! ### One place -/

namespace Diagnostic

open Piece

theorem chars_locationLine (color : Bool) (width : Nat) (file : String) (line column : Nat) :
    chars color (locationLine width file line column) =
      List.replicate width ' ' ++ (chars color [⟨.frame, "╭"⟩] ++
        (chars color [⟨.frame, "─"⟩, ⟨.frame, "["⟩] ++ (file.toList ++
          (':' :: ((Nat.repr line).toList ++ ':' :: ((Nat.repr column).toList ++
            chars color [⟨.frame, "]"⟩])))))) := by
  simp [chars, locationLine, blanks, render_plain]

theorem PointsAt.unique {d : Diagnostic} {source file : String} {color : Bool}
    {line column line' column' : Nat} (h : d.PointsAt source file color line column)
    (h' : d.PointsAt source file color line' column') : line = line' ∧ column = column' := by
  obtain ⟨width, rest, h⟩ := h
  obtain ⟨width', rest', h'⟩ := h'
  have htext := congrArg String.toList (h.symm.trans h')
  simp only [String.toList_append, toList_renderLines_pair, List.append_assoc,
    List.append_cancel_left_eq, List.cons_append, List.cons.injEq, true_and,
    chars_locationLine] at htext
  have hspaces (n : Nat) : ∀ c ∈ List.replicate n ' ', (c == ' ') = true := fun c hc => by
    rw [List.eq_of_mem_replicate hc]
    rfl
  obtain ⟨-, htext⟩ := append_inj_of_stops (hspaces width) (stops_frame rfl rfl rfl color _)
    (hspaces width') (stops_frame rfl rfl rfl color _) htext
  simp only [List.append_cancel_left_eq, List.cons.injEq, true_and] at htext
  obtain ⟨hline, htext⟩ := repr_append_inj (stops_cons.2 rfl) (stops_cons.2 rfl) htext
  obtain ⟨hcolumn, -⟩ := repr_append_inj (stops_frame rfl rfl rfl color _)
    (stops_frame rfl rfl rfl color _) (List.cons.inj htext).2
  exact ⟨hline, hcolumn⟩

/-! ### The place of a span -/

/-- A report points at the line found for its place, at the distance of the place from its start. -/
theorem pointsAt_of_locate? {d : Diagnostic} {span : Span} (hspan : d.span? = some span)
    {source : String} {first past : Nat} (hrange : labelRange source.toList span = (first, past))
    {opening : SourceLine}
    (hopening : SourceLine.locate? (SourceLine.linesOf source.toList) first = some opening)
    (hne : source.toList ≠ []) (file : String) (color : Bool) :
    d.PointsAt source file color opening.number (first - opening.start + 1) := by
  obtain ⟨closing, hclosing⟩ := SourceLine.exists_locate?_linesOf hne (past - 1)
  have hexcerpt : d.excerpt? span source.toList file = some
      { severity := d.severity
        message := d.message
        suggestion? := d.suggestion?
        file
        lines := SourceLine.linesOf source.toList
        first, past, opening, closing } := by
    rw [excerpt?, hrange]
    dsimp only
    rw [hopening, hclosing]
    rfl
  rw [PointsAt, report, hspan]
  dsimp only
  rw [hexcerpt, Option.map_some, Option.getD_some]
  exact ⟨_, _, renderLines_append color [d.heading, locationLine _ file _ _] _⟩

/-- Where a report points, from the text before the place. -/
theorem pointsAt_of_follows {d : Diagnostic} {span : Span} (hspan : d.span? = some span)
    {source : String} {before after : List Char} {c : Char}
    (hsource : source.toList = before ++ c :: after) (hc : SourceLine.isLineEnd c = false)
    (hstart : span.start.offset.toNat = Text.byteLength before) (file : String) (color : Bool) :
    d.PointsAt source file color (1 + (SourceLine.unifyEnds before).count '\n')
      (1 + (Text.lastLine (SourceLine.unifyEnds before)).length) := by
  have hfirst : charsBefore source.toList span.start.offset.toNat = before.length := by
    rw [hstart, hsource, charsBefore_byteLength]
  have hrange : labelRange source.toList span = (before.length,
      max (charsBefore source.toList span.stop.offset.toNat) (before.length + 1)) := by
    rw [labelRange, hfirst]
  obtain ⟨line, hline, hnumber, hlast⟩ :=
    SourceLine.exists_locate?_linesFrom 1 0 before hc after
  rw [Nat.zero_add, ← hsource] at hline
  have hne : source.toList ≠ [] := by
    rw [hsource]
    exact List.append_ne_nil_of_right_ne_nil _ (List.cons_ne_nil _ _)
  have hpoints := pointsAt_of_locate? hspan hrange hline hne file color
  have hcolumn : before.length - line.start + 1 =
      1 + (Text.lastLine (SourceLine.unifyEnds before)).length := by
    omega
  rwa [hnumber, hcolumn] at hpoints

/-- A report agrees with its span exactly if no foreign end is before the place. -/
theorem pointsAt_span_iff {d : Diagnostic} {span : Span} (hspan : d.span? = some span)
    {source : String} {before after : List Char} {c : Char}
    (hsource : source.toList = before ++ c :: after) (hc : SourceLine.isLineEnd c = false)
    (hstart : span.start.Follows before) (file : String) (color : Bool) :
    d.PointsAt source file color span.start.line.toNat span.start.column.toNat ↔
      SourceLine.foreignEnds before = 0 := by
  have hpoints := pointsAt_of_follows hspan hsource hc hstart.offset file color
  have hcount := SourceLine.count_unifyEnds before
  rw [hstart.line, hstart.column]
  constructor
  · intro h
    have hline := (hpoints.unique h).1
    omega
  · intro h
    rwa [hcount, SourceLine.lastLine_unifyEnds h, h, Nat.add_zero] at hpoints

end Diagnostic

namespace Lexer

/-- **Where reports point.** The report on a diagnostic of a strict run points at its quote, in the
lines as reports count them, and says what the span says exactly if these are the lines of the
source. -/
theorem pointsAtQuote_of_mem_diagnostics (source file : String) (color : Bool)
    (hsize : source.utf8ByteSize ≤ 2 ^ 32 - 2) :
    ∀ d ∈ ((ofSource source file).withStrict true).tokenize.2.diagnostics,
      d.PointsAtQuote source file color := by
  intro d hd
  obtain ⟨before, body, hsource, hbody, rfl⟩ := exists_of_mem_diagnostics hd
  have hquote : SourceLine.isLineEnd '"' = false := by decide
  have hstart : (Placed.span file ⟨before, .string body false⟩).start.Follows before := by
    rw [← Text.byteLength_toList, hsource, Text.byteLength_append] at hsize
    exact Position.follows_advanceAll (Nat.le_of_add_right_le hsize)
  exact ⟨_, before, body, rfl, hsource, hbody, hstart,
    Diagnostic.pointsAt_of_follows rfl hsource hquote hstart.offset file color,
    Diagnostic.pointsAt_span_iff rfl hsource hquote hstart file color⟩

/-- A quote behind a carriage return with its line feed, and one behind a line separator. -/
theorem pointsAtQuote_of_feed_of_separator :
    ("é\r\n\t\"x".utf8ByteSize ≤ 2 ^ 32 - 2 ∧
      unterminatedString ⟨"a.mig", ⟨2, 2, 5⟩, ⟨2, 4, 7⟩⟩ ∈
        ((ofSource "é\r\n\t\"x" "a.mig").withStrict true).tokenize.2.diagnostics ∧
      (unterminatedString ⟨"a.mig", ⟨2, 2, 5⟩, ⟨2, 4, 7⟩⟩).PointsAtQuote
        "é\r\n\t\"x" "a.mig" true) ∧
    ("é\u2028\t\"x".utf8ByteSize ≤ 2 ^ 32 - 2 ∧
      unterminatedString ⟨"a.mig", ⟨1, 4, 6⟩, ⟨1, 6, 8⟩⟩ ∈
        ((ofSource "é\u2028\t\"x" "a.mig").withStrict true).tokenize.2.diagnostics ∧
      (unterminatedString ⟨"a.mig", ⟨1, 4, 6⟩, ⟨1, 6, 8⟩⟩).PointsAtQuote
        "é\u2028\t\"x" "a.mig" true) := by
  have hfeed : unterminatedString ⟨"a.mig", ⟨2, 2, 5⟩, ⟨2, 4, 7⟩⟩ ∈
      ((ofSource "é\r\n\t\"x" "a.mig").withStrict true).tokenize.2.diagnostics := by
    decide +kernel
  have hseparator : unterminatedString ⟨"a.mig", ⟨1, 4, 6⟩, ⟨1, 6, 8⟩⟩ ∈
      ((ofSource "é\u2028\t\"x" "a.mig").withStrict true).tokenize.2.diagnostics := by
    decide +kernel
  exact ⟨⟨by decide, hfeed, pointsAtQuote_of_mem_diagnostics _ _ true (by decide) _ hfeed⟩,
    by decide, hseparator, pointsAtQuote_of_mem_diagnostics _ _ true (by decide) _ hseparator⟩

/-- Behind a lone carriage return the span is on the first line, and the report points at the
second. -/
theorem pointsAt_second_line_of_return :
    ((ofSource "\r\"" "a.mig").withStrict true).tokenize.2.diagnostics =
        [unterminatedString ⟨"a.mig", ⟨1, 2, 1⟩, ⟨1, 3, 2⟩⟩] ∧
      (unterminatedString ⟨"a.mig", ⟨1, 2, 1⟩, ⟨1, 3, 2⟩⟩).PointsAt "\r\"" "a.mig" false 2 1 ∧
      ¬(unterminatedString ⟨"a.mig", ⟨1, 2, 1⟩, ⟨1, 3, 2⟩⟩).PointsAt "\r\"" "a.mig" false 1 2 := by
  have hpoints : (unterminatedString ⟨"a.mig", ⟨1, 2, 1⟩, ⟨1, 3, 2⟩⟩).PointsAt
      "\r\"" "a.mig" false 2 1 :=
    Diagnostic.pointsAt_of_follows rfl (show "\r\"".toList = ['\r'] ++ '"' :: [] by decide)
      (by decide) rfl "a.mig" false
  refine ⟨by decide +kernel, hpoints, fun h => ?_⟩
  have hline := (hpoints.unique h).1
  omega

end Lexer

end TokenEcho
