import TokenEcho.Proofs.Token.Places
import TokenEcho.Proofs.Token.Quotes

/-!
# One character of lookahead

What comes later in a source cannot change a token that something already stands behind. So when a
source grows at its end, its tokens stay as they are, but for the last one if it touches the end and
is of a shape that can go on; and then it goes on from the same place. `Token.Settled` says which
last tokens stay, and `tokenize_append_stable` is the statement.
-/

namespace TokenEcho

namespace Token

/-- A token of a source that more text at the end does not change: it ends before the end, or is a
symbol, or is a string whose closing quote has been read. -/
def Settled (source : String) (t : Token) : Prop :=
  t.span.stop.offset.toNat < source.utf8ByteSize ∨ t.kind = .symbol ∨
    t.kind = .string ∧ t.span.text? source = some ("\"" ++ t.lexeme ++ "\"")

/-- A word, a number or a string without a closing quote that runs to the end of its source. -/
def Unsettled (source : String) (t : Token) : Prop :=
  t.span.stop.offset.toNat = source.utf8ByteSize ∧
    (t.kind = .keyword ∨ t.kind = .identifier ∨ t.kind = .number ∨
      t.kind = .string ∧ t.span.text? source = some ("\"" ++ t.lexeme))

/-- A token of a longer source starts where the one of the shorter source does, and its text goes on
from that one's text. -/
def GrowsTo (source longer : String) (t t' : Token) : Prop :=
  t'.span.start = t.span.start ∧
    ∃ old new, t.span.text? source = some old ∧ t'.span.text? longer = some (old ++ new)

end Token

/-- Whether a spelling at the end of a source may be part of a longer one. -/
def Spelling.canGrow : Spelling → Bool
  | word _ _ => true
  | number _ _ => true
  | string _ closed => !closed
  | symbol _ => false

/-! ### Spellings -/

theorem Spelling.Fits.append_of_settled {p : Spelling} {after : List Char} (h : p.Fits after)
    (hsettled : after ≠ [] ∨ p.canGrow = false) (more : List Char) : p.Fits (after ++ more) := by
  cases p with
  | word first rest =>
      have hne : after ≠ [] := by simpa [canGrow] using hsettled
      exact ⟨h.1, h.2.1, h.2.2.append hne more⟩
  | number first rest =>
      have hne : after ≠ [] := by simpa [canGrow] using hsettled
      exact ⟨h.1, h.2.1, h.2.2.append hne more⟩
  | string body closed =>
      refine ⟨h.1, fun hclosed => ?_⟩
      rcases hsettled with hne | hgrow
      · exact absurd (h.2 hclosed) hne
      · rw [canGrow, hclosed] at hgrow
        exact absurd hgrow (by decide)
  | symbol c => exact h

theorem Spelling.Fits.exists_grown {p : Spelling} (h : p.Fits []) (hgrow : p.canGrow = true)
    (more : List Char) :
    ∃ (q : Spelling) (after : List Char), q.text ++ after = p.text ++ more ∧ q.Fits after ∧
      p.text <+: q.text := by
  cases p with
  | word first rest =>
      refine ⟨word first (rest ++ more.takeWhile isWordChar), more.dropWhile isWordChar, ?_,
        ⟨h.1, List.forall_mem_append.2 ⟨h.2.1, fun c hc => List.mem_takeWhile_imp hc⟩,
          stops_dropWhile _ _⟩, ⟨more.takeWhile isWordChar, rfl⟩⟩
      simp [text]
  | number first rest =>
      refine ⟨number first (rest ++ more.takeWhile Text.isDecimalDigit),
        more.dropWhile Text.isDecimalDigit, ?_,
        ⟨h.1, List.forall_mem_append.2 ⟨h.2.1, fun c hc => List.mem_takeWhile_imp hc⟩,
          stops_dropWhile _ _⟩, ⟨more.takeWhile Text.isDecimalDigit, rfl⟩⟩
      simp [text]
  | string body closed =>
      obtain rfl : closed = false := by simpa [canGrow] using hgrow
      have hrun : (body ++ more).takeWhile (· != '"') = body ++ more.takeWhile (· != '"') :=
        List.takeWhile_append_of_pos (forall_bne_quote h.1)
      obtain ⟨closed, after, htext, hfits⟩ := exists_string_fits (body ++ more)
      refine ⟨_, after, ?_, hfits, ?_⟩
      · rw [htext]
        simp [text]
      · rw [hrun]
        simp [text]
  | symbol c => cases hgrow

theorem Spelling.Fits.exists_extended {p : Spelling} {after : List Char} (h : p.Fits after)
    (more : List Char) :
    ∃ (q : Spelling) (after' : List Char), q.text ++ after' = p.text ++ (after ++ more) ∧
      q.Fits after' ∧ p.text <+: q.text ∧ (after ≠ [] ∨ p.canGrow = false → q = p) := by
  by_cases hsettled : after ≠ [] ∨ p.canGrow = false
  · exact ⟨p, after ++ more, rfl, h.append_of_settled hsettled more, List.prefix_rfl, fun _ => rfl⟩
  · have hnil : after = [] := by
      by_contra hne
      exact hsettled (.inl hne)
    have hgrow : p.canGrow = true := by
      cases hp : p.canGrow with
      | true => rfl
      | false => exact absurd (.inr hp) hsettled
    subst hnil
    obtain ⟨q, after', htext, hq, hprefix⟩ := h.exists_grown hgrow more
    exact ⟨q, after', htext, hq, hprefix, fun hs => absurd hs hsettled⟩

theorem Spelling.canGrow_eq_false_iff (p : Spelling) :
    p.canGrow = false ↔ p.kind = .symbol ∨
      p.kind = .string ∧ String.ofList p.text = "\"" ++ String.ofList p.lexeme ++ "\"" := by
  cases p with
  | word first rest =>
      rw [canGrow, kind]
      split <;> simp
  | number first rest => simp [canGrow, kind]
  | string body closed =>
      have htext : String.ofList (string body closed).text = "\"" ++ String.ofList body ++ "\"" ↔
          body ++ (if closed then ['"'] else []) = body ++ ['"'] := by
        rw [← String.toList_inj]
        simp [text]
      rw [canGrow, kind, lexeme, htext]
      cases closed <;> simp
  | symbol c => simp [canGrow, kind]

theorem Spelling.kind_of_canGrow {p : Spelling} (h : p.canGrow = true) :
    p.kind = .keyword ∨ p.kind = .identifier ∨ p.kind = .number ∨
      p.kind = .string ∧ String.ofList p.text = "\"" ++ String.ofList p.lexeme := by
  cases p with
  | word first rest =>
      rw [kind]
      split <;> simp
  | number first rest => simp [kind]
  | string body closed =>
      obtain rfl : closed = false := by simpa [canGrow] using h
      refine .inr (.inr (.inr ⟨rfl, ?_⟩))
      rw [← String.toList_inj]
      simp [text, lexeme]
  | symbol c => cases h

/-! ### Segments -/

/-- When its source grows, only the last segment can change, and new ones come after it. -/
theorem WellCut.exists_extended {init : List Segment} {last : Segment} {tail : List Char}
    (hcut : WellCut (init ++ [last]) tail) (more : List Char) :
    ∃ (q : Spelling) (rest : List Segment) (tail' : List Char),
      WellCut (init ++ ⟨last.gap, q⟩ :: rest) tail' ∧
      spell (init ++ ⟨last.gap, q⟩ :: rest) tail' = spell (init ++ [last]) tail ++ more ∧
      last.spelling.text <+: q.text ∧
      (tail ≠ [] ∨ last.spelling.canGrow = false → q = last.spelling) := by
  induction init with
  | nil =>
      obtain ⟨hgap, hfits, -⟩ := hcut
      obtain ⟨q, after, htext, hq, hprefix, hsame⟩ := hfits.exists_extended more
      obtain ⟨rest, tail', rfl, hrest⟩ := exists_wellCut after
      refine ⟨q, rest, tail', ⟨hgap, hq, hrest⟩, ?_, hprefix, hsame⟩
      rw [List.nil_append, List.nil_append, spell_cons, htext, spell_cons]
      simp only [List.append_assoc]
  | cons s init ih =>
      obtain ⟨hgap, hfits, hcut⟩ := hcut
      obtain ⟨q, rest, tail', hext, htext, hprefix, hsame⟩ := ih hcut
      have hne : spell (init ++ [last]) tail ≠ [] := fun h => by
        simpa using (spell_eq_nil h).1
      refine ⟨q, rest, tail', ⟨hgap, ?_, hext⟩, ?_, hprefix, hsame⟩
      · exact htext ▸ hfits.append_of_settled (.inl hne) more
      · rw [List.cons_append, spell_cons, htext, List.cons_append, spell_cons]
        simp only [List.append_assoc]

/-! ### Tokens -/

section Placed

variable {p : Placed} {source : String} {after : List Char}
  (hsource : source.toList = p.before ++ (p.spelling.text ++ after))
  (hsize : source.utf8ByteSize ≤ 2 ^ 32 - 2) (file : String)

include hsource hsize

theorem Placed.offset_stop :
    (p.span file).stop.offset.toNat = Text.byteLength (p.before ++ p.spelling.text) :=
  congrArg Prod.snd (range_span hsource hsize file)

theorem Placed.settled_iff :
    (p.token file).Settled source ↔ after ≠ [] ∨ p.spelling.canGrow = false := by
  have hbehind : (p.token file).span.stop.offset.toNat < source.utf8ByteSize ↔ after ≠ [] := by
    rw [Placed.token, offset_stop hsource hsize, ← Text.byteLength_toList, hsource,
      ← List.append_assoc, Text.byteLength_append _ after, Ne, ← Text.byteLength_eq_zero_iff]
    omega
  have htext := text?_span hsource hsize file
  rw [Token.Settled, hbehind, p.spelling.canGrow_eq_false_iff, Placed.token, htext,
    Option.some_inj]

theorem Placed.unsettled_of_not_settled (h : ¬ (p.token file).Settled source) :
    (p.token file).Unsettled source := by
  rw [settled_iff hsource hsize, not_or, not_not, Bool.not_eq_false] at h
  obtain ⟨rfl, hgrow⟩ := h
  refine ⟨?_, ?_⟩
  · rw [Placed.token, offset_stop hsource hsize, ← Text.byteLength_toList, hsource,
      List.append_nil]
  · rw [Placed.token, text?_span hsource hsize, Option.some_inj]
    exact Spelling.kind_of_canGrow hgrow

end Placed

/-- The tokens of a source and those of a longer one are the same up to the last one of the shorter
source. There both have a spelling behind the same text, and the longer source has the one that goes
on from the other one, or the same one if that cannot go on. -/
theorem exists_common_tokens (source more : String) :
    tokenize source = [] ∨ ∃ (found later : List Token) (p q : Placed) (after after' : List Char),
      tokenize source = found ++ [p.token Lexer.consoleName] ∧
      tokenize (source ++ more) = found ++ q.token Lexer.consoleName :: later ∧
      source.toList = p.before ++ (p.spelling.text ++ after) ∧
      (source ++ more).toList = q.before ++ (q.spelling.text ++ after') ∧
      q.before = p.before ∧ p.spelling.text <+: q.spelling.text ∧
      (after ≠ [] ∨ p.spelling.canGrow = false → q = p) := by
  obtain ⟨segments, tail, hsource, hcut⟩ := exists_wellCut source.toList
  have htokens := tokenize_eq_of_wellCut hcut hsource.symm
  rcases segments.eq_nil_or_concat' with rfl | ⟨init, last, rfl⟩
  · exact .inl htokens
  · obtain ⟨q, rest, tail', hcut', htext, hprefix, hsame⟩ := hcut.exists_extended more.toList
    rw [hsource, ← String.toList_append] at htext
    have hmore := tokenize_eq_of_wellCut hcut' htext.symm
    rw [placed_append_cons, List.map_append] at htokens hmore
    refine .inr ⟨_, _, ⟨spell init last.gap, last.spelling⟩, ⟨spell init last.gap, q⟩, tail,
      spell rest tail', htokens, hmore, ?_, ?_, rfl, hprefix, fun h => by rw [hsame h]⟩
    · rw [← hsource, spell_append, spell_cons, spell_nil, spell_append_tail]
    · rw [← htext, spell_append, spell_cons, spell_append_tail]

/-- **One character of lookahead.** When a source grows at its end, every token but the last one
stays as it is at its index, and so does the last one if it is settled. If it is not, it is at the
end of the source, and the token at its index goes on from it. -/
theorem tokenize_append_stable (source more : String)
    (hsize : (source ++ more).utf8ByteSize ≤ 2 ^ 32 - 2) :
    (∀ i, i + 1 < (tokenize source).length →
      (tokenize (source ++ more))[i]? = (tokenize source)[i]?) ∧
    ∀ t, (tokenize source).getLast? = some t →
      (t.Settled source →
        (tokenize (source ++ more))[(tokenize source).length - 1]? = some t) ∧
      (¬ t.Settled source → t.Unsettled source ∧
        ∃ t', (tokenize (source ++ more))[(tokenize source).length - 1]? = some t' ∧
          t.GrowsTo source (source ++ more) t') := by
  have hsource : source.utf8ByteSize ≤ 2 ^ 32 - 2 := by
    rw [String.utf8ByteSize_append] at hsize
    omega
  rcases exists_common_tokens source more with hnil | ⟨found, later, p, q, after, after', htokens,
    hmore, hp, hq, hbefore, ⟨new, hnew⟩, hsame⟩
  · simp [hnil]
  rw [htokens, hmore, List.length_append, List.length_singleton, Nat.add_sub_cancel]
  refine ⟨fun i hi => ?_, fun t ht => ?_⟩
  · have hfound : i < found.length := by omega
    rw [List.getElem?_append_left hfound, List.getElem?_append_left hfound]
  · rw [List.getLast?_concat, Option.some_inj] at ht
    subst ht
    rw [List.getElem?_append_right (Nat.le_refl _), Nat.sub_self, List.getElem?_cons_zero]
    refine ⟨fun hsettled => ?_, fun hunsettled => ?_⟩
    · rw [hsame ((Placed.settled_iff hp hsource _).1 hsettled)]
    · refine ⟨Placed.unsettled_of_not_settled hp hsource _ hunsettled, _, rfl, ?_, ?_⟩
      · exact congrArg Position.start.advanceAll hbefore
      · refine ⟨_, String.ofList new, Placed.text?_span hp hsource _, ?_⟩
        rw [← String.ofList_append, hnew]
        exact Placed.text?_span hq hsize _

/-- A word at the end goes on and becomes a keyword, and a symbol at the end stays. -/
theorem tokenize_append_stable_of_word_of_symbol :
    ("a wri" ++ "tl\"").utf8ByteSize ≤ 2 ^ 32 - 2 ∧ 0 + 1 < (tokenize "a wri").length ∧
    (tokenize ("a wri" ++ "tl\""))[0]? = (tokenize "a wri")[0]? ∧
    (∃ t, (tokenize "a wri").getLast? = some t ∧ ¬ t.Settled "a wri" ∧ t.Unsettled "a wri" ∧
      ∃ t', (tokenize ("a wri" ++ "tl\""))[(tokenize "a wri").length - 1]? = some t' ∧
        t.GrowsTo "a wri" ("a wri" ++ "tl\"") t') ∧
    ∃ t, (tokenize "a =").getLast? = some t ∧ t.Settled "a =" ∧
      (tokenize ("a =" ++ "="))[(tokenize "a =").length - 1]? = some t := by
  have hword : (tokenize "a wri").getLast? =
      some ⟨.identifier, "wri", 1, ⟨"<stdin>", ⟨1, 3, 2⟩, ⟨1, 6, 5⟩⟩⟩ := by decide +kernel
  have hopen : ¬ Token.Settled "a wri"
      ⟨.identifier, "wri", 1, ⟨"<stdin>", ⟨1, 3, 2⟩, ⟨1, 6, 5⟩⟩⟩ := by
    rw [Token.Settled]
    decide +kernel
  have hsymbol : (tokenize "a =").getLast? =
      some ⟨.symbol, "=", 1, ⟨"<stdin>", ⟨1, 3, 2⟩, ⟨1, 4, 3⟩⟩⟩ := by decide +kernel
  have hlength : 0 + 1 < (tokenize "a wri").length := by decide +kernel
  obtain ⟨hsame, hlast⟩ := tokenize_append_stable "a wri" "tl\"" (by decide)
  refine ⟨by decide, hlength, hsame 0 hlength, ⟨_, hword, hopen, (hlast _ hword).2 hopen⟩, ?_⟩
  have hsettled : Token.Settled "a =" ⟨.symbol, "=", 1, ⟨"<stdin>", ⟨1, 3, 2⟩, ⟨1, 4, 3⟩⟩⟩ :=
    .inr (.inl rfl)
  exact ⟨_, hsymbol, hsettled,
    ((tokenize_append_stable "a =" "=" (by decide)).2 _ hsymbol).1 hsettled⟩

end TokenEcho
