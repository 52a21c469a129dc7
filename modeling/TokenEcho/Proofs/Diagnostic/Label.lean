import TokenEcho.Diagnostic.Excerpt
import TokenEcho.Proofs.Token.Checked
import TokenEcho.Proofs.Token.Quotes

/-!
# From bytes to characters

Spans count bytes and reports count characters. What a report counts for a byte offset are the
characters that start before it: the characters that do so are the first ones, so everything about
their number follows from which index is below it, `lt_charsBefore_iff`. A label therefore never
ends before it starts, whatever the span. For a string that nothing closes it reaches from its quote
to the end of the source whenever the run that reports it has no overflow; where offsets wrap
around instead, it does so exactly as long as both of them are words.
-/

namespace TokenEcho

/-- The byte offset at which a character starts, by its index. Behind the last one it is the end. -/
def Text.startOf (cs : List Char) (index : Nat) : Nat := byteLength (cs.take index)

/-- A function of byte offsets counts the characters that start before them. -/
structure CountsStarts (cs : List Char) (f : Nat → Nat) : Prop where
  count : ∀ offset, f offset = (List.range cs.length).countP fun i => Text.startOf cs i < offset
  mono : ∀ offset offset', offset ≤ offset' → f offset ≤ f offset'
  start : ∀ i ≤ cs.length, f (Text.startOf cs i) = i
  inside : ∀ i < cs.length, ∀ offset, Text.startOf cs i < offset →
    offset < Text.startOf cs (i + 1) → f offset = i + 1
  past : ∀ offset, Text.byteLength cs ≤ offset → f offset = cs.length

/-- A range that ends after it starts, and starts in a text or at its end. -/
structure IsLabel (cs : List Char) (range : Nat × Nat) : Prop where
  nonempty : range.1 < range.2
  start : range.1 ≤ cs.length

/-- A text with its last quote, what is before it and what is behind it. -/
structure SplitsAtLastQuote (cs before body : List Char) : Prop where
  split : cs = before ++ '"' :: body
  last : '"' ∉ body

/-- The label of a diagnostic goes from the last quote of a text to its end. -/
def Diagnostic.LabelsLastQuote (d : Diagnostic) (cs : List Char) : Prop :=
  ∃ span before body, d.span? = some span ∧ SplitsAtLastQuote cs before body ∧
    labelRange cs span = (before.length, cs.length)

/-- It does so, unless an offset is too large for its word. -/
def Diagnostic.LabelsLastQuoteInWords (d : Diagnostic) (cs : List Char) : Prop :=
  ∃ span before body, d.span? = some span ∧ SplitsAtLastQuote cs before body ∧
    (labelRange cs span = (before.length, cs.length) ↔
      Text.byteLength before < 2 ^ 32 ∧ (Text.byteLength cs < 2 ^ 32 ∨ body = []))

variable {cs before after : List Char} {i offset : Nat}

/-! ### Which characters start before an offset -/

@[simp] theorem Text.startOf_zero (cs : List Char) : startOf cs 0 = 0 := by
  rw [startOf, List.take_zero, byteLength_nil]

@[simp] theorem Text.startOf_cons_succ (c : Char) (cs : List Char) (i : Nat) :
    startOf (c :: cs) (i + 1) = c.utf8Size + startOf cs i := by
  rw [startOf, List.take_succ_cons, byteLength_cons, startOf]

theorem charsBefore_go (cs : List Char) (offset count : Nat) :
    charsBefore.go cs offset count = charsBefore cs offset + count := by
  rw [charsBefore]
  induction cs generalizing offset count with
  | nil => exact (Nat.zero_add count).symm
  | cons c cs ih =>
      rw [charsBefore.go, charsBefore.go]
      split
      · exact (Nat.zero_add count).symm
      · rw [ih _ (count + 1), ih _ (0 + 1)]
        omega

@[simp] theorem charsBefore_nil (offset : Nat) : charsBefore [] offset = 0 := rfl

theorem charsBefore_cons (c : Char) (cs : List Char) (offset : Nat) :
    charsBefore (c :: cs) offset =
      if offset = 0 then 0 else charsBefore cs (offset - c.utf8Size) + 1 := by
  rw [charsBefore, charsBefore.go]
  split
  · rfl
  · exact charsBefore_go _ _ _

theorem charsBefore_byteLength (before after : List Char) :
    charsBefore (before ++ after) (Text.byteLength before) = before.length := by
  induction before with
  | nil => cases after <;> simp [charsBefore_cons]
  | cons c before ih =>
      have hsize := Char.utf8Size_pos c
      rw [List.cons_append, charsBefore_cons, Text.byteLength_cons, if_neg (by omega),
        Nat.add_sub_cancel_left, ih, List.length_cons]

theorem Text.startOf_length_append (before after : List Char) :
    startOf (before ++ after) before.length = byteLength before := by
  rw [startOf, List.take_left]

theorem lt_charsBefore_iff :
    i < charsBefore cs offset ↔ i < cs.length ∧ Text.startOf cs i < offset := by
  induction cs generalizing i offset with
  | nil => simp
  | cons c cs ih =>
      rw [charsBefore_cons]
      by_cases hoffset : offset = 0
      · rw [if_pos hoffset]
        omega
      · rw [if_neg hoffset]
        cases i with
        | zero =>
            rw [Text.startOf_zero, List.length_cons]
            omega
        | succ i =>
            have hi : i < charsBefore cs (offset - c.utf8Size) ↔ _ := ih
            rw [Text.startOf_cons_succ, List.length_cons]
            omega

theorem charsBefore_le_length (cs : List Char) (offset : Nat) :
    charsBefore cs offset ≤ cs.length := by
  by_contra hlt
  exact Nat.lt_irrefl _ (lt_charsBefore_iff.1 (Nat.lt_of_not_le hlt)).1

/-- The characters that start before an offset are the first ones. -/
theorem charsBefore_eq_countP (cs : List Char) (offset : Nat) :
    charsBefore cs offset =
      (List.range cs.length).countP fun i => Text.startOf cs i < offset := by
  have hsplit : cs.length = charsBefore cs offset + (cs.length - charsBefore cs offset) :=
    (Nat.add_sub_cancel' (charsBefore_le_length cs offset)).symm
  rw [hsplit, List.range_add, List.countP_append, List.countP_eq_length.2, List.countP_eq_zero.2,
    List.length_range, Nat.add_zero]
  · intro i hi
    obtain ⟨k, hk, rfl⟩ := List.mem_map.1 hi
    have hlength := List.mem_range.1 hk
    have hnot := mt lt_charsBefore_iff.2 (Nat.not_lt.2 (Nat.le_add_right (charsBefore cs offset) k))
    rw [decide_eq_true_eq]
    exact fun hlt => hnot ⟨by omega, hlt⟩
  · intro i hi
    rw [decide_eq_true_eq]
    exact (lt_charsBefore_iff.1 (List.mem_range.1 hi)).2

theorem charsBefore_mono {offset' : Nat} (h : offset ≤ offset') :
    charsBefore cs offset ≤ charsBefore cs offset' := by
  by_contra hlt
  obtain ⟨hlength, hstart⟩ := lt_charsBefore_iff.1 (Nat.lt_of_not_le hlt)
  exact Nat.lt_irrefl _ (lt_charsBefore_iff.2 ⟨hlength, hstart.trans_le h⟩)

theorem charsBefore_startOf (h : i ≤ cs.length) : charsBefore cs (Text.startOf cs i) = i := by
  have hcount := charsBefore_byteLength (cs.take i) (cs.drop i)
  rwa [List.take_append_drop, List.length_take_of_le h] at hcount

theorem charsBefore_of_inside (hi : i < cs.length) (hafter : Text.startOf cs i < offset)
    (hbefore : offset ≤ Text.startOf cs (i + 1)) : charsBefore cs offset = i + 1 := by
  have hle : charsBefore cs offset ≤ charsBefore cs (Text.startOf cs (i + 1)) :=
    charsBefore_mono hbefore
  rw [charsBefore_startOf hi] at hle
  exact Nat.le_antisymm hle (lt_charsBefore_iff.2 ⟨hi, hafter⟩)

theorem charsBefore_of_byteLength_le (h : Text.byteLength cs ≤ offset) :
    charsBefore cs offset = cs.length := by
  have hall := charsBefore_byteLength cs []
  rw [List.append_nil] at hall
  exact Nat.le_antisymm (charsBefore_le_length cs offset) (hall ▸ charsBefore_mono h)

theorem countsStarts_charsBefore (cs : List Char) : CountsStarts cs (charsBefore cs) where
  count := charsBefore_eq_countP cs
  mono _ _ h := charsBefore_mono h
  start _ hi := charsBefore_startOf hi
  inside _ hi _ hafter hbefore := charsBefore_of_inside hi hafter hbefore.le
  past _ h := charsBefore_of_byteLength_le h

/-- An offset with so many characters before it is not far from the place behind them. -/
theorem byteLength_lt_of_charsBefore_eq (h : charsBefore (before ++ after) offset = before.length) :
    Text.byteLength before < offset + 4 := by
  obtain rfl | ⟨init, c, rfl⟩ := List.eq_nil_or_concat' before
  · exact Nat.lt_add_left _ (by decide)
  · have hlast : init.length < charsBefore (init ++ [c] ++ after) offset := by
      rw [h, List.length_append]
      exact Nat.lt_succ_self _
    have hstart := (lt_charsBefore_iff.1 hlast).2
    rw [List.append_assoc, Text.startOf_length_append] at hstart
    have hsize := c.utf8Size_le_four
    rw [Text.byteLength_append, Text.byteLength_cons, Text.byteLength_nil]
    omega

/-! ### Labels -/

theorem isLabel_labelRange (cs : List Char) (span : Span) : IsLabel cs (labelRange cs span) where
  nonempty := Nat.lt_of_lt_of_le (Nat.lt_succ_self _) (Nat.le_max_right _ _)
  start := charsBefore_le_length _ _

/-- The label of a string that nothing closes starts at its quote if the offset of the quote is a
word, and then it ends with the source if the offset of the end is a word too, or if the quote is
the last character. -/
theorem labelRange_placed_iff (before body : List Char) (file : String) :
    labelRange (before ++ '"' :: body) (Placed.span file ⟨before, .string body false⟩) =
        (before.length, (before ++ '"' :: body).length) ↔
      Text.byteLength before < 2 ^ 32 ∧
        (Text.byteLength (before ++ '"' :: body) < 2 ^ 32 ∨ body = []) := by
  have hoffset (cs : List Char) :
      (Position.start.advanceAll cs).offset.toNat = Text.byteLength cs % 2 ^ 32 := by
    have hwraps := Position.toNat_offset_advanceAll .start cs
    rwa [show Position.start.offset.toNat = 0 from rfl, Nat.zero_add] at hwraps
  have htext : (Spelling.string body false).text = '"' :: body := by simp [Spelling.text]
  have hlength : (before ++ '"' :: body).length = before.length + 1 + body.length := by
    rw [List.length_append, List.length_cons]
    omega
  rw [labelRange, Placed.span, Placed.start, Placed.stop, htext, hoffset, hoffset, Prod.mk.injEq]
  dsimp only
  constructor
  · rintro ⟨hfirst, hpast⟩
    rw [hfirst] at hpast
    have hbefore := byteLength_lt_of_charsBefore_eq hfirst
    refine ⟨by omega, ?_⟩
    by_cases hbody : body = []
    · exact .inr hbody
    · have hbodyLength := List.length_pos_iff.2 hbody
      have hall : charsBefore (before ++ '"' :: body ++ [])
          (Text.byteLength (before ++ '"' :: body) % 2 ^ 32) = (before ++ '"' :: body).length := by
        rw [List.append_nil]
        omega
      have hend := byteLength_lt_of_charsBefore_eq hall
      exact .inl (by omega)
  · rintro ⟨hfits, hend⟩
    rw [Nat.mod_eq_of_lt hfits, charsBefore_byteLength]
    refine ⟨rfl, ?_⟩
    rcases hend with hsize | rfl
    · rw [Nat.mod_eq_of_lt hsize, charsBefore_of_byteLength_le (Nat.le_refl _)]
      omega
    · have hle := charsBefore_le_length (before ++ ['"'])
        (Text.byteLength (before ++ ['"']) % 2 ^ 32)
      rw [List.length_nil] at hlength
      omega

theorem range_of_excerpt? {d : Diagnostic} {span : Span} {file : String} {e : Excerpt}
    (h : d.excerpt? span cs file = some e) : (e.first, e.past) = labelRange cs span := by
  obtain ⟨opening, -, h⟩ := Option.bind_eq_some_iff.1 h
  obtain ⟨closing, -, h⟩ := Option.bind_eq_some_iff.1 h
  cases h
  rfl

theorem labelsLastQuoteInWords_of_mem_diagnostics {source file : String} {d : Diagnostic}
    (hd : d ∈ ((Lexer.ofSource source file).withStrict true).tokenize.2.diagnostics) :
    d.LabelsLastQuoteInWords source.toList := by
  obtain ⟨before, body, hsource, hquote, rfl⟩ := Lexer.exists_of_mem_diagnostics hd
  refine ⟨_, before, body, rfl, ⟨hsource, hquote⟩, ?_⟩
  rw [hsource]
  exact labelRange_placed_iff before body file

/-- A run without an overflow has a source whose size is a word. -/
theorem labelsLastQuote_of_tokenizeChecked {source file : String} {d : Diagnostic}
    {run : List Token × Diagnostics}
    (hrun : ((Lexer.ofSource source file).withStrict true).tokenizeChecked = .ok run)
    (hd : d ∈ run.2.diagnostics) : d.LabelsLastQuote source.toList := by
  rw [Lexer.tokenizeChecked_eq (Reader.counted_ofSource source file)] at hrun
  split at hrun
  · cases hrun
  · next hfits =>
      cases hrun
      obtain ⟨past, hpast⟩ := Option.ne_none_iff_exists'.1 hfits
      have hsize := (Position.follows_of_advanceAll? hpast).offset
      change past.offset.toNat = Text.byteLength source.toList at hsize
      have hword := past.offset.toNat_lt
      obtain ⟨span, before, body, hspan, hsplit, hlabel⟩ :=
        labelsLastQuoteInWords_of_mem_diagnostics hd
      refine ⟨span, before, body, hspan, hsplit, hlabel.2 ⟨?_, .inl (by omega)⟩⟩
      rw [hsplit.split, Text.byteLength_append] at hsize
      omega

/-- **Bytes and characters.** A report counts the characters that start before an offset. So every
span gives a label that does not end before it starts, and every label that is drawn is the one of
its span. A diagnostic of a strict run that meets no overflow has the label from the last quote to
the end, and with offsets that wrap around it is the same for every source whose size is a word. -/
theorem labels_of_source (source file : String) :
    CountsStarts source.toList (charsBefore source.toList) ∧
    (∀ span, IsLabel source.toList (labelRange source.toList span)) ∧
    (∀ (d : Diagnostic) span (e : Excerpt), d.excerpt? span source.toList file = some e →
      (e.first, e.past) = labelRange source.toList span) ∧
    (∀ run, ((Lexer.ofSource source file).withStrict true).tokenizeChecked = .ok run →
      ∀ d ∈ run.2.diagnostics, d.LabelsLastQuote source.toList) ∧
    ∀ d ∈ ((Lexer.ofSource source file).withStrict true).tokenize.2.diagnostics,
      d.LabelsLastQuoteInWords source.toList :=
  ⟨countsStarts_charsBefore _, isLabel_labelRange _, fun _ _ _ => range_of_excerpt?,
    fun _ hrun _ => labelsLastQuote_of_tokenizeChecked hrun,
    fun _ => labelsLastQuoteInWords_of_mem_diagnostics⟩

/-- A quote behind a character of two bytes, and a span that ends inside that character and before
it starts. -/
theorem labels_of_source_of_inverted_span :
    let d := Lexer.unterminatedString ⟨"a.mig", ⟨1, 2, 2⟩, ⟨1, 4, 4⟩⟩
    let span : Span := ⟨"a.mig", ⟨1, 3, 3⟩, ⟨1, 1, 1⟩⟩
    ∃ run, ((Lexer.ofSource "é\"x" "a.mig").withStrict true).tokenizeChecked = .ok run ∧
      d ∈ run.2.diagnostics ∧ d.LabelsLastQuote "é\"x".toList ∧
      d ∈ ((Lexer.ofSource "é\"x" "a.mig").withStrict true).tokenize.2.diagnostics ∧
      d.LabelsLastQuoteInWords "é\"x".toList ∧
      IsLabel "é\"x".toList (labelRange "é\"x".toList span) ∧
      ∃ e, d.excerpt? span "é\"x".toList "a.mig" = some e ∧
        (e.first, e.past) = labelRange "é\"x".toList span := by
  intro d span
  obtain ⟨-, hlabel, hdrawn, hquote, hwords⟩ := labels_of_source "é\"x" "a.mig"
  have hd : d ∈ ((Lexer.ofSource "é\"x" "a.mig").withStrict true).tokenize.2.diagnostics := by
    decide +kernel
  have hcounted : ((Lexer.ofSource "é\"x" "a.mig").withStrict true).reader.Counted :=
    Reader.counted_ofSource "é\"x" "a.mig"
  have hrun := (Lexer.tokenizeChecked_eq hcounted).trans
    (if_neg (Reader.not_overflows_ofSource (by decide) "a.mig"))
  obtain ⟨e, he⟩ := Option.isSome_iff_exists.1
    (show (d.excerpt? span "é\"x".toList "a.mig").isSome by decide +kernel)
  exact ⟨_, hrun, hd, hquote _ hrun d hd, hd, hwords d hd, hlabel span, e, he, hdrawn d span e he⟩

end TokenEcho
