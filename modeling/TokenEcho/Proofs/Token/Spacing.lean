import TokenEcho.Proofs.Token.Places
import TokenEcho.Proofs.Token.Quotes

/-!
# White space between tokens

White space separates tokens and says nothing else. A gap between two tokens may become any other
one, and a gap that is not there may be opened; only a gap that keeps two tokens apart has to stay,
and nothing may come after a string that is left open. The reason is `Spelling.Fits.of_head`: what
a spelling asks of the text after it is a matter of one character. So the tokens of a source can be
printed with one blank between them and read back, `content_tokenize_respaced`.
-/

namespace TokenEcho

/-- A token without its places. -/
def Token.content (t : Token) : TokenKind × String := (t.kind, t.lexeme)

/-- A token as it can be read back, the string closed in any case. -/
def Token.print (t : Token) : String :=
  if t.kind = .string then "\"" ++ t.lexeme ++ "\"" else t.lexeme

/-- Gaps and texts in turn, with a gap at either end. -/
def weave : List (List Char) → List (List Char) → List Char
  | [], _ => []
  | gap :: _, [] => gap
  | gap :: gaps, text :: texts => gap ++ (text ++ weave gaps texts)

/-- A source that is cut into the texts of its tokens and the white space around them. -/
structure CutAtTokens (source : String) (gaps texts : List (List Char)) : Prop where
  length : gaps.length = texts.length + 1
  blank : ∀ gap ∈ gaps, IsBlankText gap
  text : (tokenize source).map (fun t => t.span.text? source) =
    texts.map fun text => some (String.ofList text)
  whole : weave gaps texts = source.toList

/-- The last token of the source is a string without a closing quote. -/
def LeftOpen (source : String) : Prop :=
  ∃ t ∈ (tokenize source).getLast?,
    t.kind = .string ∧ t.span.text? source = some ("\"" ++ t.lexeme)

/-- White space that may stand around the tokens of a source in place of its own. Between two tokens
there is some if there was some, and behind a string that is left open there is none. -/
structure Respaces (source : String) (gaps gaps' : List (List Char)) : Prop where
  length : gaps'.length = gaps.length
  blank : ∀ gap ∈ gaps', IsBlankText gap
  apart : ∀ i, 0 < i → i + 1 < gaps.length → gaps[i]? ≠ some [] → gaps'[i]? ≠ some []
  opened : LeftOpen source → gaps'.getLast? = some []

/-! ### What comes after a spelling -/

theorem isWordChar_eq_false_of_isBlank {c : Char} (h : Text.isBlank c) : isWordChar c = false := by
  have hc : c ≠ '_' := by
    rintro rfl
    exact absurd h (by decide)
  simp [isWordChar, Text.isLetter_eq_false_of_isBlank h, Text.isDecimalDigit_eq_false_of_isBlank h,
    hc]

/-- The text starts as another one does, or with white space, or is at its end. -/
def StartsAs (after after' : List Char) : Prop :=
  after'.head? = after.head? ∨ ∀ c ∈ after'.head?, Text.isBlank c

theorem Stops.of_startsAs {p : Char → Bool} {after after' : List Char} (h : Stops p after)
    (hp : ∀ c, Text.isBlank c → p c = false) (hstart : StartsAs after after') : Stops p after' := by
  intro c hc
  rcases hstart with hhead | hblank
  · exact h c (hhead ▸ hc)
  · exact hp c (hblank c hc)

namespace Spelling

theorem Fits.of_startsAs {p : Spelling} {after after' : List Char} (h : p.Fits after)
    (hopen : p.isOpen = true → after' = []) (hstart : StartsAs after after') : p.Fits after' := by
  cases p with
  | word first more =>
      exact ⟨h.1, h.2.1, h.2.2.of_startsAs (fun _ => isWordChar_eq_false_of_isBlank) hstart⟩
  | number first more =>
      exact ⟨h.1, h.2.1,
        h.2.2.of_startsAs (fun _ => Text.isDecimalDigit_eq_false_of_isBlank) hstart⟩
  | string body closed =>
      refine ⟨h.1, fun hclosed => hopen ?_⟩
      rw [isOpen, hclosed]
      rfl
  | symbol c => exact h

theorem Fits.eq_nil_of_isOpen {p : Spelling} {after : List Char} (h : p.Fits after)
    (hopen : p.isOpen = true) : after = [] := by
  cases p with
  | string body closed => exact h.2 (by simpa [isOpen] using hopen)
  | word | number | symbol => cases hopen

def close : Spelling → Spelling
  | string body _ => string body true
  | p => p

theorem isOpen_close (p : Spelling) : p.close.isOpen = false := by cases p <;> rfl

theorem Fits.close {p : Spelling} {after : List Char} (h : p.Fits after) : p.close.Fits after := by
  cases p with
  | string body closed => exact ⟨h.1, fun hclosed => by cases hclosed⟩
  | word | number | symbol => exact h

def content (p : Spelling) : TokenKind × String := (p.kind, String.ofList p.lexeme)

theorem content_close (p : Spelling) : p.close.content = p.content := by cases p <;> rfl

end Spelling

/-! ### Segments -/

def texts (segments : List Segment) : List (List Char) := segments.map fun s => s.spelling.text

theorem weave_gaps (segments : List Segment) (tail : List Char) :
    weave (segments.map Segment.gap ++ [tail]) (texts segments) = spell segments tail := by
  induction segments with
  | nil => rfl
  | cons s rest ih =>
      rw [spell_cons, ← ih]
      rfl

/-- White space around given spellings is determined by the text of the whole. -/
theorem eq_gaps_of_weave {segments : List Segment} {tail : List Char} (hcut : WellCut segments tail)
    {gaps : List (List Char)} (hlength : gaps.length = (texts segments).length + 1)
    (hblank : ∀ gap ∈ gaps, IsBlankText gap)
    (hwhole : weave gaps (texts segments) = spell segments tail) :
    gaps = segments.map Segment.gap ++ [tail] := by
  induction segments generalizing gaps with
  | nil =>
      obtain ⟨gap, rfl⟩ := List.length_eq_one_iff.1 hlength
      exact congrArg (fun gap => [gap]) hwhole
  | cons s rest ih =>
      obtain ⟨hgap, hfits, hcut⟩ := hcut
      cases gaps with
      | nil => exact absurd hlength (by simp)
      | cons gap gaps =>
          obtain ⟨hblankGap, hblank⟩ := List.forall_mem_cons.1 hblank
          change gap ++ (s.spelling.text ++ weave gaps (texts rest)) = _ at hwhole
          rw [spell_cons] at hwhole
          have hsame : gap = s.gap := by
            have htake := congrArg (List.takeWhile Text.isBlank) hwhole
            rwa [takeWhile_append_of_stops hblankGap (hfits.stops_isBlank _),
              takeWhile_append_of_stops hgap (hfits.stops_isBlank _)] at htake
          rw [hsame, List.append_cancel_left_eq, List.append_cancel_left_eq] at hwhole
          rw [ih hcut (Nat.succ.inj hlength) hblank hwhole, hsame]
          rfl

/-- Behind a gap that is not closed comes what came behind the old one, or white space. -/
theorem startsAs_weave {segments : List Segment} {tail : List Char} {gaps : List (List Char)}
    (hlength : gaps.length = segments.length + 1) (hblank : ∀ gap ∈ gaps, IsBlankText gap)
    (hhead : ∀ s ∈ segments.head?, s.gap ≠ [] → gaps.head? ≠ some []) :
    StartsAs (spell segments tail) (weave gaps (texts segments)) := by
  cases gaps with
  | nil => exact absurd hlength (by simp)
  | cons gap gaps =>
      have hgap := hblank gap List.mem_cons_self
      cases segments with
      | nil => exact .inr fun c hc => hgap c (List.mem_of_mem_head? hc)
      | cons s rest =>
          change StartsAs _ (gap ++ (s.spelling.text ++ weave gaps (texts rest)))
          cases gap with
          | nil =>
              have hnil : s.gap = [] := by
                by_contra hne
                exact hhead s rfl hne rfl
              have htext := s.spelling.text_ne_nil
              left
              rw [spell_cons, hnil, List.nil_append, List.nil_append,
                List.head?_append_of_ne_nil _ htext, List.head?_append_of_ne_nil _ htext]
          | cons c cs =>
              right
              intro d hd
              obtain rfl := Option.some.inj hd
              exact hgap c List.mem_cons_self

/-- Segments keep being well cut when their gaps change, as long as no gap between two of them
closes and nothing comes behind one that is left open. -/
theorem WellCut.exists_respaced {segments : List Segment} {tail : List Char}
    (hcut : WellCut segments tail) {gaps : List (List Char)}
    (hlength : gaps.length = segments.length + 1) (hblank : ∀ gap ∈ gaps, IsBlankText gap)
    (hapart : ∀ i, 0 < i → i < segments.length →
      (segments.map Segment.gap)[i]? ≠ some [] → gaps[i]? ≠ some [])
    (hopen : (∃ s ∈ segments, s.spelling.isOpen = true) → gaps.getLast? = some []) :
    ∃ segments' tail', WellCut segments' tail' ∧
      spell segments' tail' = weave gaps (texts segments) ∧
      segments'.map Segment.spelling = segments.map Segment.spelling := by
  induction segments generalizing gaps with
  | nil =>
      obtain ⟨gap, rfl⟩ := List.length_eq_one_iff.1 hlength
      exact ⟨[], gap, hblank gap (List.mem_singleton.2 rfl), rfl, rfl⟩
  | cons s rest ih =>
      obtain ⟨-, hfits, hcut⟩ := hcut
      cases gaps with
      | nil => exact absurd hlength (by simp)
      | cons gap gaps =>
          obtain ⟨hgap, hblank⟩ := List.forall_mem_cons.1 hblank
          have hlength := Nat.succ.inj hlength
          have hne : gaps ≠ [] := List.ne_nil_of_length_eq_add_one hlength
          have hlast : (gap :: gaps).getLast? = gaps.getLast? := List.getLast?_cons_of_ne_nil hne
          rw [hlast] at hopen
          obtain ⟨rest', tail', hcut', hwhole, hsame⟩ := ih hcut hlength hblank
            (fun i hi hlt => hapart (i + 1) (Nat.succ_pos i) (Nat.succ_lt_succ hlt))
            (fun ⟨t, ht, htopen⟩ => hopen ⟨t, List.mem_cons_of_mem s ht, htopen⟩)
          refine ⟨⟨gap, s.spelling⟩ :: rest', tail', ⟨hgap, ?_, hcut'⟩, ?_, ?_⟩
          · rw [hwhole]
            refine hfits.of_startsAs (fun hsopen => ?_) (startsAs_weave hlength hblank ?_)
            · obtain ⟨rfl, rfl⟩ := spell_eq_nil (hfits.eq_nil_of_isOpen hsopen)
              obtain ⟨last, rfl⟩ := List.length_eq_one_iff.1 hlength
              exact Option.some.inj (hopen ⟨s, List.mem_cons_self, hsopen⟩)
            · intro t ht hgap
              obtain ⟨more, rfl⟩ := List.head?_eq_some_iff.1 ht
              rw [List.head?_eq_getElem?]
              exact hapart 1 Nat.one_pos (by simp) fun h => hgap (Option.some.inj h)
          · rw [spell_cons, hwhole]
            rfl
          · rw [List.map_cons, hsame]
            rfl

theorem isBlankText_nil : IsBlankText [] := List.forall_mem_nil _

theorem isBlankText_singleton_blank : IsBlankText [' '] := by
  intro c hc
  obtain rfl := List.mem_singleton.1 hc
  decide

theorem Spelling.Fits.close_of_blank {p : Spelling} {after after' : List Char} (h : p.Fits after)
    (hblank : ∀ c ∈ after'.head?, Text.isBlank c) : p.close.Fits after' := by
  refine h.close.of_startsAs (fun hopen => ?_) (.inr hblank)
  rw [p.isOpen_close] at hopen
  cases hopen

/-- Segments can be written with one blank between them, each string closed. -/
theorem WellCut.exists_printed {segments : List Segment} {tail gap : List Char}
    (hcut : WellCut segments tail) (hgap : IsBlankText gap) :
    ∃ segments' tail', WellCut segments' tail' ∧
      spell segments' tail' =
        gap ++ [' '].intercalate (segments.map fun s => s.spelling.close.text) ∧
      segments'.map Segment.spelling = segments.map fun s => s.spelling.close := by
  induction segments generalizing gap with
  | nil => exact ⟨[], gap, hgap, (List.append_nil gap).symm, rfl⟩
  | cons s rest ih =>
      obtain ⟨-, hfits, hcut⟩ := hcut
      cases rest with
      | nil =>
          refine ⟨[⟨gap, s.spelling.close⟩], [], ⟨hgap, ?_, isBlankText_nil⟩, ?_, rfl⟩
          · exact hfits.close_of_blank (by simp)
          · simp
      | cons t rest =>
          obtain ⟨rest', tail', hcut', hwhole, hsame⟩ := ih hcut isBlankText_singleton_blank
          refine ⟨⟨gap, s.spelling.close⟩ :: rest', tail', ⟨hgap, ?_, hcut'⟩, ?_, ?_⟩
          · rw [hwhole]
            apply hfits.close_of_blank
            intro c hc
            obtain rfl := Option.some.inj hc
            decide
          · rw [spell_cons, hwhole]
            simp
          · rw [List.map_cons, hsame]
            rfl

/-! ### Sources -/

theorem Placed.toList_print_token {file : String} (p : Placed) :
    (p.token file).print.toList = p.spelling.close.text := by
  obtain ⟨before, p⟩ := p
  cases p with
  | word first more =>
      have hkind : (Spelling.word first more).kind ≠ .string := by
        rw [Spelling.kind]
        split <;> decide
      rw [Token.print, Placed.token, if_neg hkind]
      exact String.toList_ofList
  | number first more => exact String.toList_ofList
  | string body closed => simp [Token.print, Placed.token, Spelling.kind, Spelling.lexeme,
      Spelling.close, Spelling.text]
  | symbol c => exact String.toList_ofList

theorem WellCut.blank {segments : List Segment} {tail : List Char} (hcut : WellCut segments tail) :
    ∀ gap ∈ segments.map Segment.gap ++ [tail], IsBlankText gap := by
  induction segments with
  | nil => exact List.forall_mem_singleton.2 hcut
  | cons s rest ih => exact List.forall_mem_cons.2 ⟨hcut.1, ih hcut.2.2⟩

section Source

variable {segments : List Segment} {tail : List Char} {source : String}
  (hcut : WellCut segments tail) (hsource : source.toList = spell segments tail)

include hcut hsource

theorem content_tokenize_of_wellCut :
    (tokenize source).map Token.content =
      (segments.map Segment.spelling).map Spelling.content := by
  rw [tokenize_eq_of_wellCut hcut hsource, List.map_map, ← map_spelling_placed [], List.map_map]
  rfl

theorem print_tokenize_of_wellCut :
    ((tokenize source).map Token.print).map String.toList =
      segments.map fun s => s.spelling.close.text := by
  rw [tokenize_eq_of_wellCut hcut hsource, List.map_map, List.map_map]
  calc (placed [] segments).map _
      = ((placed [] segments).map Placed.spelling).map fun p => p.close.text := by
        rw [List.map_map]
        exact List.map_congr_left fun p _ => p.toList_print_token
    _ = segments.map fun s => s.spelling.close.text := by
        rw [map_spelling_placed, List.map_map]
        rfl

theorem cutAtTokens_of_wellCut (hsize : source.utf8ByteSize ≤ 2 ^ 32 - 2) :
    CutAtTokens source (segments.map Segment.gap ++ [tail]) (texts segments) where
  length := by simp [texts]
  blank := hcut.blank
  text := by
    rw [tokenize_eq_of_wellCut hcut hsource, List.map_map]
    calc (placed [] segments).map _
        = ((placed [] segments).map Placed.spelling).map fun p => some (String.ofList p.text) := by
          rw [List.map_map]
          apply List.map_congr_left
          intro p hp
          obtain ⟨after, htext, -⟩ := exists_after_of_mem_placed hcut hp
          exact Placed.text?_span (hsource.trans htext) hsize _
      _ = (texts segments).map fun text => some (String.ofList text) := by
          rw [map_spelling_placed, texts, List.map_map, List.map_map]
          rfl
  whole := (weave_gaps segments tail).trans hsource.symm

theorem leftOpen_of_isOpen (hsize : source.utf8ByteSize ≤ 2 ^ 32 - 2)
    (hopen : ∃ s ∈ segments, s.spelling.isOpen = true) : LeftOpen source := by
  obtain ⟨s, hs, hopen⟩ := hopen
  rcases hcut.closed_or_open with ⟨hclosed, -⟩ | ⟨closed, gap, body, rfl, -, rfl, -, -⟩
  · rw [hclosed s hs] at hopen
    cases hopen
  · have htext : source.toList = spell closed gap ++ ((Spelling.string body false).text ++ []) := by
      rw [hsource, spell_append, spell_cons, spell_nil, spell_append_tail]
    rw [LeftOpen, tokenize_eq_of_wellCut hcut hsource, placed_append_cons, List.map_append]
    refine ⟨_, List.getLast?_concat, rfl, ?_⟩
    have hquote : String.ofList (Spelling.string body false).text = "\"" ++ String.ofList body := by
      rw [← String.toList_inj]
      simp [Spelling.text]
    exact (Placed.text?_span htext hsize _).trans (congrArg some hquote)

end Source

/-- **White space carries no meaning.** A source can be cut at its tokens, and however it is cut and
spaced anew, its tokens have the same content. So have those of the source that its tokens are
printed to, with one blank between them. -/
theorem content_tokenize_respaced (source : String) (hsize : source.utf8ByteSize ≤ 2 ^ 32 - 2) :
    (∃ gaps texts, CutAtTokens source gaps texts) ∧
    (∀ gaps texts gaps', CutAtTokens source gaps texts → Respaces source gaps gaps' →
      (tokenize (String.ofList (weave gaps' texts))).map Token.content =
        (tokenize source).map Token.content) ∧
    (tokenize (" ".intercalate ((tokenize source).map Token.print))).map Token.content =
      (tokenize source).map Token.content := by
  obtain ⟨segments, tail, hsource, hcut⟩ := exists_wellCut source.toList
  have hexists := cutAtTokens_of_wellCut hcut hsource.symm hsize
  refine ⟨⟨_, _, hexists⟩, ?_, ?_⟩
  · intro gaps textsOf gaps' hgaps hgaps'
    obtain rfl : textsOf = texts segments := by
      have hinj : Function.Injective fun text : List Char => some (String.ofList text) :=
        fun _ _ h => String.ofList_injective (Option.some.inj h)
      exact List.map_injective_iff.2 hinj (hgaps.text.symm.trans hexists.text)
    obtain rfl := eq_gaps_of_weave hcut hgaps.length hgaps.blank (hgaps.whole.trans hsource.symm)
    have hlength : gaps'.length = segments.length + 1 := by simpa using hgaps'.length
    obtain ⟨segments', tail', hcut', hwhole, hsame⟩ := hcut.exists_respaced hlength hgaps'.blank
      (fun i hi hlt hne => hgaps'.apart i hi (by simpa using hlt)
        (by rwa [List.getElem?_append_left (by simpa using hlt)]))
      (fun hopen => hgaps'.opened (leftOpen_of_isOpen hcut hsource.symm hsize hopen))
    rw [content_tokenize_of_wellCut hcut' (by rw [hwhole, String.toList_ofList]), hsame,
      content_tokenize_of_wellCut hcut hsource.symm]
  · obtain ⟨segments', tail', hcut', hwhole, hsame⟩ := hcut.exists_printed isBlankText_nil
    have hprinted : (" ".intercalate ((tokenize source).map Token.print)).toList =
        spell segments' tail' := by
      rw [hwhole, String.toList_intercalate, print_tokenize_of_wellCut hcut hsource.symm]
      rfl
    rw [content_tokenize_of_wellCut hcut' hprinted, hsame,
      content_tokenize_of_wellCut hcut hsource.symm, List.map_map, List.map_map]
    apply List.map_congr_left
    intro s _
    exact s.spelling.content_close

/-- Two gaps are opened, the others are changed, and nothing comes behind the open string. -/
theorem content_tokenize_respaced_of_open_string :
    "let x=\"a b\" 7\u2003\"y".utf8ByteSize ≤ 2 ^ 32 - 2 ∧
    CutAtTokens "let x=\"a b\" 7\u2003\"y" [[], [' '], [], [], [' '], ['\u2003'], []]
      ["let".toList, ['x'], ['='], "\"a b\"".toList, ['7'], "\"y".toList] ∧
    Respaces "let x=\"a b\" 7\u2003\"y" [[], [' '], [], [], [' '], ['\u2003'], []]
      [['\n'], ['\t'], [' '], ['\r', '\n'], ['\u3000'], [' '], []] ∧
    (tokenize (String.ofList (weave [['\n'], ['\t'], [' '], ['\r', '\n'], ['\u3000'], [' '], []]
        ["let".toList, ['x'], ['='], "\"a b\"".toList, ['7'], "\"y".toList]))).map Token.content =
      (tokenize "let x=\"a b\" 7\u2003\"y").map Token.content := by
  have hsize : "let x=\"a b\" 7\u2003\"y".utf8ByteSize ≤ 2 ^ 32 - 2 := by decide
  have hcut : CutAtTokens "let x=\"a b\" 7\u2003\"y" [[], [' '], [], [], [' '], ['\u2003'], []]
      ["let".toList, ['x'], ['='], "\"a b\"".toList, ['7'], "\"y".toList] :=
    ⟨rfl, by decide, by decide +kernel, by decide +kernel⟩
  have hspaces : Respaces "let x=\"a b\" 7\u2003\"y" [[], [' '], [], [], [' '], ['\u2003'], []]
      [['\n'], ['\t'], [' '], ['\r', '\n'], ['\u3000'], [' '], []] := by
    refine ⟨rfl, by decide, fun i hi hlt => ?_, fun _ => rfl⟩
    replace hlt : i < 6 := Nat.succ_lt_succ_iff.1 hlt
    revert hi
    revert i
    decide
  exact ⟨hsize, hcut, hspaces, (content_tokenize_respaced _ hsize).2.1 _ _ _ hcut hspaces⟩

end TokenEcho
