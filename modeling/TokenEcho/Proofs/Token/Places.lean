import TokenEcho.Proofs.Source.Place
import TokenEcho.Proofs.Token.Run

/-!
# The places of tokens are exact

Lines and columns are counters that the lexer carries along, and no part of it looks at the text
again to count. Still, every place that a run names is the one that counting the source up to its
offset gives, since all of them are ends of walks from the start of the source. This is
`exactPlaces_tokenize`. Two places are on one line exactly if no line feed is between them; a
carriage return, or any other character that ends lines elsewhere, counts for nothing.
-/

namespace TokenEcho

/-- An offset at which the source can be cut, with the line and the column that the text before it
has at its end. -/
def Position.Exact (source : List Char) (p : Position) : Prop :=
  ∃ before, Text.slice? source 0 p.offset.toNat = some before ∧ p.Follows before

structure Span.Exact (source : List Char) (file : String) (s : Span) : Prop where
  file : s.file = file
  start : s.start.Exact source
  stop : s.stop.Exact source

/-- The spans of a run: those of its tokens, and those of its diagnostics. -/
def spans (run : List Token × Diagnostics) : List Span :=
  run.1.map Token.span ++ run.2.diagnostics.filterMap Diagnostic.span?

def places (run : List Token × Diagnostics) : List Position :=
  (spans run).flatMap fun s => [s.start, s.stop]

/-- The places of a run are those of its source. -/
structure ExactPlaces (source : List Char) (file : String) (run : List Token × Diagnostics) :
    Prop where
  exact : ∀ s ∈ spans run, s.Exact source file
  located : ∀ d ∈ run.2.diagnostics, d.span?.isSome
  line : ∀ t ∈ run.1, t.line = t.span.stop.line
  startLine : ∀ t ∈ run.1, t.span.start.line ≤ t.line
  ascending : run.1.Pairwise fun t u => t.line ≤ u.line
  /-- Between two places the line grows by the line feeds, and by no other character. -/
  feeds : ∀ p ∈ places run, ∀ q ∈ places run, ∀ between,
    Text.slice? source p.offset.toNat q.offset.toNat = some between →
      q.line.toNat = p.line.toNat + between.count '\n'

/-! ### Places -/

theorem Position.Exact.line_eq_add_count {p q : Position} {source between : List Char}
    (hp : p.Exact source) (hq : q.Exact source)
    (hslice : Text.slice? source p.offset.toNat q.offset.toNat = some between) :
    q.line.toNat = p.line.toNat + between.count '\n' := by
  obtain ⟨before, hbefore, hpFollows⟩ := hp
  obtain ⟨before', hbefore', hqFollows⟩ := hq
  obtain ⟨rest, rfl, hoffset⟩ := Text.slice?_zero_eq_some_iff.1 hbefore
  rw [← hoffset] at hslice
  obtain ⟨after, rfl, hstop⟩ := Text.exists_after_of_slice? hslice
  obtain ⟨rest', htext, hoffset'⟩ := Text.slice?_zero_eq_some_iff.1 hbefore'
  rw [← List.append_assoc] at htext
  obtain ⟨rfl, -⟩ := Text.append_inj_of_byteLength htext (hstop.trans hoffset'.symm)
  rw [hpFollows.line, hqFollows.line, List.count_append, Nat.add_assoc]

theorem Position.line_advanceAll_le {xs ys : List Char} (h : xs <+: ys)
    (hsize : Text.byteLength ys ≤ 2 ^ 32 - 2) :
    (start.advanceAll xs).line ≤ (start.advanceAll ys).line := by
  have hcount := h.sublist.count_le '\n'
  have hys := follows_advanceAll hsize
  obtain ⟨more, rfl⟩ := h
  rw [Text.byteLength_append] at hsize
  have hxs := follows_advanceAll (Nat.le_of_add_right_le hsize)
  rw [UInt32.le_iff_toNat_le, hxs.line, hys.line]
  omega

/-! ### Spellings in their source -/

theorem Placed.follows_start {p : Placed}
    (hsize : Text.byteLength (p.before ++ p.spelling.text) ≤ 2 ^ 32 - 2) :
    p.start.Follows p.before := by
  rw [Text.byteLength_append] at hsize
  exact Position.follows_advanceAll (Nat.le_of_add_right_le hsize)

theorem Placed.follows_stop {p : Placed}
    (hsize : Text.byteLength (p.before ++ p.spelling.text) ≤ 2 ^ 32 - 2) :
    p.stop.Follows (p.before ++ p.spelling.text) :=
  Position.follows_advanceAll hsize

section Placed

variable {p : Placed} {source : String} {after : List Char}
  (hsource : source.toList = p.before ++ (p.spelling.text ++ after))
  (hsize : source.utf8ByteSize ≤ 2 ^ 32 - 2) (file : String)

include hsource hsize

theorem Placed.byteLength_le : Text.byteLength (p.before ++ p.spelling.text) ≤ 2 ^ 32 - 2 := by
  rw [← Text.byteLength_toList, hsource, ← List.append_assoc, Text.byteLength_append] at hsize
  exact Nat.le_of_add_right_le hsize

theorem Placed.exact_span : (p.span file).Exact source.toList file where
  file := rfl
  start := by
    have hstart := follows_start (byteLength_le hsource hsize)
    exact ⟨p.before, Text.slice?_zero_eq_some_iff.2 ⟨_, hsource, hstart.offset.symm⟩, hstart⟩
  stop := by
    have hstop := follows_stop (byteLength_le hsource hsize)
    rw [← List.append_assoc] at hsource
    exact ⟨_, Text.slice?_zero_eq_some_iff.2 ⟨_, hsource, hstop.offset.symm⟩, hstop⟩

theorem Placed.range_span : (p.span file).range =
    (Text.byteLength p.before, Text.byteLength (p.before ++ p.spelling.text)) :=
  Prod.ext (follows_start (byteLength_le hsource hsize)).offset
    (follows_stop (byteLength_le hsource hsize)).offset

theorem Placed.text?_span : (p.span file).text? source = some (String.ofList p.spelling.text) := by
  rw [Span.text?, range_span hsource hsize, hsource, Text.slice?_append, Option.map_some]

end Placed

/-! ### Spellings one after another -/

theorem before_prefix_of_mem_placed {before : List Char} {segments : List Segment} {p : Placed}
    (hp : p ∈ placed before segments) : before <+: p.before := by
  induction segments generalizing before with
  | nil => simp [placed] at hp
  | cons s rest ih =>
      rw [placed, List.mem_cons] at hp
      rcases hp with rfl | hp
      · exact List.prefix_append _ _
      · exact (List.prefix_append before s.text).trans (ih hp)

theorem pairwise_placed (before : List Char) (segments : List Segment) :
    (placed before segments).Pairwise fun p q => p.before ++ p.spelling.text <+: q.before := by
  induction segments generalizing before with
  | nil => exact List.Pairwise.nil
  | cons s rest ih =>
      rw [placed, List.pairwise_cons]
      refine ⟨fun q hq => ?_, ih _⟩
      have hbefore := before_prefix_of_mem_placed hq
      rwa [Segment.text, ← List.append_assoc] at hbefore

/-! ### Runs -/

theorem exact_of_mem_places {run : List Token × Diagnostics} {source : List Char} {file : String}
    (hexact : ∀ s ∈ spans run, s.Exact source file) {p : Position} (hp : p ∈ places run) :
    p.Exact source := by
  obtain ⟨s, hs, hp⟩ := List.mem_flatMap.1 hp
  rcases List.mem_pair.1 hp with rfl | rfl
  · exact (hexact s hs).start
  · exact (hexact s hs).stop

theorem Placed.eq_of_mem_reports {p : Placed} {file : String} {strict : Bool} {d : Diagnostic}
    (hd : d ∈ p.reports file strict) : d = Lexer.unterminatedString (p.span file) := by
  rw [reports] at hd
  split at hd
  · exact List.mem_singleton.1 hd
  · exact absurd hd List.not_mem_nil

/-- What a run that finds the given spellings names of them. -/
def findings (file : String) (strict : Bool) (ps : List Placed) : List Token × Diagnostics :=
  (ps.map (Placed.token file), ⟨ps.flatMap (Placed.reports file strict)⟩)

section

variable {file : String} {strict : Bool} {ps : List Placed}

theorem exists_of_mem_spans_findings {s : Span} (hs : s ∈ spans (findings file strict ps)) :
    ∃ p ∈ ps, s = p.span file := by
  rw [spans, List.mem_append] at hs
  rcases hs with hs | hs
  · obtain ⟨t, ht, rfl⟩ := List.mem_map.1 hs
    obtain ⟨p, hp, rfl⟩ := List.mem_map.1 ht
    exact ⟨p, hp, rfl⟩
  · obtain ⟨d, hd, hspan⟩ := List.mem_filterMap.1 hs
    obtain ⟨p, hp, hd⟩ := List.mem_flatMap.1 hd
    obtain rfl := Placed.eq_of_mem_reports hd
    exact ⟨p, hp, (Option.some.inj hspan).symm⟩

theorem isSome_span?_of_mem_findings {d : Diagnostic}
    (hd : d ∈ (findings file strict ps).2.diagnostics) : d.span?.isSome := by
  obtain ⟨p, -, hd⟩ := List.mem_flatMap.1 hd
  rw [Placed.eq_of_mem_reports hd]
  rfl

end

/-- **Exact places.** In either mode the spans of tokens and of diagnostics are those of the source
under its name, and the line of a token is that of its end. -/
theorem exactPlaces_tokenize (source file : String) (strict : Bool)
    (hsize : source.utf8ByteSize ≤ 2 ^ 32 - 2) :
    ExactPlaces source.toList file ((Lexer.ofSource source file).withStrict strict).tokenize := by
  obtain ⟨segments, tail, hsource, hcut⟩ := exists_wellCut source.toList
  rw [Lexer.tokenize_of_wellCut hcut hsource.symm]
  change ExactPlaces _ _ (findings file strict (placed [] segments))
  have hafter : ∀ p ∈ placed [] segments,
      ∃ after, source.toList = p.before ++ (p.spelling.text ++ after) := by
    intro p hp
    obtain ⟨after, htext, -⟩ := exists_after_of_mem_placed hcut hp
    exact ⟨after, hsource.symm.trans htext⟩
  have hbound : ∀ p ∈ placed [] segments,
      Text.byteLength (p.before ++ p.spelling.text) ≤ 2 ^ 32 - 2 := by
    intro p hp
    obtain ⟨after, htext⟩ := hafter p hp
    exact Placed.byteLength_le htext hsize
  have hexact : ∀ s ∈ spans (findings file strict (placed [] segments)),
      s.Exact source.toList file := by
    intro s hs
    obtain ⟨p, hp, rfl⟩ := exists_of_mem_spans_findings hs
    obtain ⟨after, htext⟩ := hafter p hp
    exact Placed.exact_span htext hsize file
  refine ⟨hexact, fun d hd => isSome_span?_of_mem_findings hd, ?_, ?_, ?_, ?_⟩
  · intro t ht
    obtain ⟨p, -, rfl⟩ := List.mem_map.1 ht
    rfl
  · intro t ht
    obtain ⟨p, hp, rfl⟩ := List.mem_map.1 ht
    exact Position.line_advanceAll_le (List.prefix_append _ _) (hbound p hp)
  · apply List.pairwise_map.2
    apply (pairwise_placed [] segments).imp_of_mem
    intro p q hp hq hbefore
    exact Position.line_advanceAll_le (hbefore.trans (List.prefix_append _ _)) (hbound q hq)
  · intro p hp q hq between hslice
    exact (exact_of_mem_places hexact hp).line_eq_add_count (exact_of_mem_places hexact hq) hslice

/-- A string over two lines behind carriage returns and a line separator, and an open one. -/
theorem exactPlaces_of_separators :
    "\r\u2028é \"a\r\nb\" \"\u0085".utf8ByteSize ≤ 2 ^ 32 - 2 ∧
      ((Lexer.ofSource "\r\u2028é \"a\r\nb\" \"\u0085" "a.mig").withStrict true).tokenize.1 =
        [⟨.identifier, "é", 1, ⟨"a.mig", ⟨1, 3, 4⟩, ⟨1, 4, 6⟩⟩⟩,
          ⟨.string, "a\r\nb", 2, ⟨"a.mig", ⟨1, 5, 7⟩, ⟨2, 3, 13⟩⟩⟩,
          ⟨.string, "\u0085", 2, ⟨"a.mig", ⟨2, 4, 14⟩, ⟨2, 6, 17⟩⟩⟩] ∧
      ExactPlaces "\r\u2028é \"a\r\nb\" \"\u0085".toList "a.mig"
        ((Lexer.ofSource "\r\u2028é \"a\r\nb\" \"\u0085" "a.mig").withStrict true).tokenize :=
  ⟨by decide, by decide +kernel, exactPlaces_tokenize _ _ _ (by decide)⟩

end TokenEcho
