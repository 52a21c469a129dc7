import TokenEcho.Proofs.Token.Places

/-!
# The tokens of a source are its one reading

A reading of a source names a kind, a range of bytes and a lexeme for each token. `Grammatical` says
when a list of them reads a source, from the ranges alone and without a word on how they are found:
the ranges are in order and have white space around them, and each covers a spelling that fits what
comes after it. `readings_eq_iff_grammatical` is that the tokens of a source are such a list, and
that there is no other.
-/

namespace TokenEcho

/-- A token, with nothing of its place but the bytes that it covers. -/
structure Reading where
  kind : TokenKind
  range : Nat × Nat
  lexeme : String
deriving DecidableEq

def Token.reading (t : Token) : Reading := ⟨t.kind, t.span.range, t.lexeme⟩

/-- The ranges before, between and after the given ones, from an offset to the end of a source. -/
def gapRanges (size : Nat) : Nat → List (Nat × Nat) → List (Nat × Nat)
  | start, [] => [(start, size)]
  | start, r :: rest => (start, r.1) :: gapRanges size r.2 rest

/-- The bytes of a reading are a spelling of its kind, with its lexeme, that fits what comes after
it in the source. -/
def Reading.Spelled (source : List Char) (t : Reading) : Prop :=
  ∃ (p : Spelling) (after : List Char),
    Text.slice? source t.range.1 t.range.2 = some p.text ∧
    Text.slice? source t.range.2 (Text.byteLength source) = some after ∧
    p.Fits after ∧ t.kind = p.kind ∧ t.lexeme = String.ofList p.lexeme

def BlankRange (source : List Char) (r : Nat × Nat) : Prop :=
  ∃ text, Text.slice? source r.1 r.2 = some text ∧ IsBlankText text

/-- A list of readings reads a source. -/
structure Grammatical (source : List Char) (readings : List Reading) : Prop where
  ordered : (readings.map Reading.range).Pairwise fun r s => r.2 ≤ s.1
  nonempty : ∀ t ∈ readings, t.range.1 < t.range.2
  blank : ∀ r ∈ gapRanges (Text.byteLength source) 0 (readings.map Reading.range),
    BlankRange source r
  spelled : ∀ t ∈ readings, t.Spelled source

def Placed.reading (p : Placed) : Reading where
  kind := p.spelling.kind
  range := (Text.byteLength p.before, Text.byteLength (p.before ++ p.spelling.text))
  lexeme := String.ofList p.spelling.lexeme

theorem Placed.reading_token (file : String) {p : Placed}
    (hsize : Text.byteLength (p.before ++ p.spelling.text) ≤ 2 ^ 32 - 2) :
    (p.token file).reading = p.reading := by
  have hstart := follows_start hsize
  have hstop := follows_stop hsize
  simp only [Token.reading, Placed.reading, Placed.token, Placed.span, Span.range, hstart.offset,
    hstop.offset]

theorem map_reading_tokenize {segments : List Segment} {tail : List Char} {source : String}
    (hcut : WellCut segments tail) (hsource : source.toList = spell segments tail)
    (hsize : source.utf8ByteSize ≤ 2 ^ 32 - 2) :
    (tokenize source).map Token.reading = (placed [] segments).map Placed.reading := by
  rw [tokenize_eq_of_wellCut hcut hsource, List.map_map]
  apply List.map_congr_left
  intro p hp
  obtain ⟨after, htext, -⟩ := exists_after_of_mem_placed hcut hp
  exact Placed.reading_token _ (Placed.byteLength_le (hsource.trans htext) hsize)

/-! ### A well cut text is read by its spellings -/

theorem pairwise_range_placed (segments : List Segment) (before : List Char) :
    (((placed before segments).map Placed.reading).map Reading.range).Pairwise
      fun r s => r.2 ≤ s.1 := by
  rw [List.map_map, List.pairwise_map]
  apply (pairwise_placed before segments).imp
  rintro p q ⟨between, hq⟩
  simp only [Function.comp_apply, Placed.reading, ← hq, Text.byteLength_append _ between]
  exact Nat.le_add_right _ _

theorem blankRange_of_wellCut {source : List Char} {segments : List Segment} {tail : List Char}
    (hcut : WellCut segments tail) (before : List Char)
    (hsource : source = before ++ spell segments tail) :
    ∀ r ∈ gapRanges (Text.byteLength source) (Text.byteLength before)
      (((placed before segments).map Placed.reading).map Reading.range), BlankRange source r := by
  induction segments generalizing before with
  | nil =>
      intro r hr
      obtain rfl := List.mem_singleton.1 hr
      refine ⟨tail, ?_, hcut⟩
      rw [Text.slice?_eq_some_iff]
      exact ⟨before, [], by rw [hsource, List.append_nil]; rfl, rfl, by rw [hsource]; rfl⟩
  | cons s rest ih =>
      obtain ⟨hgap, hfits, hcut⟩ := hcut
      rw [spell_cons] at hsource
      intro r hr
      rw [placed, List.map_cons, List.map_cons, gapRanges, List.mem_cons] at hr
      rcases hr with rfl | hr
      · refine ⟨s.gap, ?_, hgap⟩
        rw [Text.slice?_eq_some_iff]
        exact ⟨before, s.spelling.text ++ spell rest tail, hsource, rfl, rfl⟩
      · have happend : before ++ s.gap ++ s.spelling.text = before ++ s.text :=
          List.append_assoc _ _ _
        apply ih hcut (before ++ s.text) _ r
        · rw [← happend]
          rwa [← happend] at hr
        · rw [hsource, ← happend]
          simp only [List.append_assoc]

theorem grammatical_of_wellCut {segments : List Segment} {tail : List Char}
    (hcut : WellCut segments tail) :
    Grammatical (spell segments tail) ((placed [] segments).map Placed.reading) where
  ordered := pairwise_range_placed segments []
  nonempty := by
    intro t ht
    obtain ⟨p, hp, rfl⟩ := List.mem_map.1 ht
    have hpos : 0 < Text.byteLength p.spelling.text := by
      apply Nat.pos_of_ne_zero
      intro h
      exact p.spelling.text_ne_nil (Text.byteLength_eq_zero_iff.1 h)
    simp only [Placed.reading, Text.byteLength_append]
    omega
  blank := blankRange_of_wellCut hcut [] rfl
  spelled := by
    intro t ht
    obtain ⟨p, hp, rfl⟩ := List.mem_map.1 ht
    obtain ⟨after, htext, hafter⟩ := exists_after_of_mem_placed hcut hp
    rw [List.nil_append] at htext
    refine ⟨p.spelling, after, ?_, ?_, hafter, rfl, rfl⟩
    · rw [htext]
      exact Text.slice?_append _ _ _
    · rw [Text.slice?_eq_some_iff]
      refine ⟨p.before ++ p.spelling.text, [], ?_, rfl, ?_⟩
      · rw [htext, List.append_nil, List.append_assoc]
      · rw [htext, List.append_assoc]

/-! ### Whatever reads a text cuts it well -/

theorem exists_wellCut_of_readings {readings : List Reading} {source rest : List Char}
    (before : List Char) (hsource : source = before ++ rest)
    (hblank : ∀ r ∈ gapRanges (Text.byteLength source) (Text.byteLength before)
      (readings.map Reading.range), BlankRange source r)
    (hspelled : ∀ t ∈ readings, t.Spelled source) :
    ∃ segments tail, spell segments tail = rest ∧ WellCut segments tail ∧
      readings = (placed before segments).map Placed.reading := by
  induction readings generalizing before rest with
  | nil =>
      obtain ⟨text, hslice, htext⟩ := hblank _ (List.mem_singleton.2 rfl)
      rw [hsource] at hslice
      obtain rfl := Text.eq_of_slice?_to_end hslice
      exact ⟨[], rest, rfl, htext, rfl⟩
  | cons t readings ih =>
      rw [List.map_cons, gapRanges, List.forall_mem_cons] at hblank
      rw [List.forall_mem_cons] at hspelled
      obtain ⟨⟨gap, hgapSlice, hgap⟩, hblank⟩ := hblank
      obtain ⟨⟨p, after, htextSlice, hafterSlice, hfits, hkind, hlexeme⟩, hspelled⟩ := hspelled
      -- each slice starts where the one before it stops, so it is the beginning of what is left
      rw [hsource] at hgapSlice
      obtain ⟨rest, rfl, hstart⟩ := Text.exists_after_of_slice? hgapSlice
      change Text.byteLength (before ++ gap) = t.range.1 at hstart
      rw [← List.append_assoc] at hsource
      rw [hsource, ← hstart] at htextSlice
      obtain ⟨rest, rfl, hstop⟩ := Text.exists_after_of_slice? htextSlice
      rw [← List.append_assoc] at hsource
      rw [hsource, ← hstop] at hafterSlice
      obtain rfl := Text.eq_of_slice?_to_end hafterSlice
      rw [← hstop] at hblank
      obtain ⟨segments, tail, rfl, hcut, hreadings⟩ := ih _ hsource hblank hspelled
      refine ⟨⟨gap, p⟩ :: segments, tail, spell_cons _ _ _, ⟨hgap, hfits, hcut⟩, ?_⟩
      rw [placed, List.map_cons, hreadings, Segment.text, List.append_assoc]
      congr 1
      obtain ⟨kind, ⟨start, stop⟩, lexeme⟩ := t
      simp only [Placed.reading, Reading.mk.injEq, Prod.mk.injEq]
      exact ⟨hkind, ⟨hstart.symm, hstop.symm⟩, hlexeme⟩

/-- **The grammar.** A list reads a source exactly if it is what the tokens of the source read. -/
theorem readings_eq_iff_grammatical (source : String) (hsize : source.utf8ByteSize ≤ 2 ^ 32 - 2)
    (readings : List Reading) :
    readings = (tokenize source).map Token.reading ↔ Grammatical source.toList readings := by
  constructor
  · rintro rfl
    obtain ⟨segments, tail, hsource, hcut⟩ := exists_wellCut source.toList
    rw [map_reading_tokenize hcut hsource.symm hsize, ← hsource]
    exact grammatical_of_wellCut hcut
  · intro h
    obtain ⟨segments, tail, hsource, hcut, hreadings⟩ :=
      exists_wellCut_of_readings [] rfl h.blank h.spelled
    rw [map_reading_tokenize hcut hsource.symm hsize]
    exact hreadings

/-- A source with every shape of token, the last one without its closing quote. -/
theorem grammatical_mixed_source :
    "let ٣a_ = 7²\n\"x\"\"é ".utf8ByteSize ≤ 2 ^ 32 - 2 ∧
      Grammatical "let ٣a_ = 7²\n\"x\"\"é ".toList
        [⟨.keyword, (0, 3), "let"⟩, ⟨.number, (4, 6), "٣"⟩, ⟨.identifier, (6, 8), "a_"⟩,
          ⟨.symbol, (9, 10), "="⟩, ⟨.number, (11, 12), "7"⟩, ⟨.symbol, (12, 14), "²"⟩,
          ⟨.string, (15, 18), "x"⟩, ⟨.string, (18, 22), "é "⟩] :=
  ⟨by decide, (readings_eq_iff_grammatical _ (by decide) _).1 (by decide +kernel)⟩

end TokenEcho
