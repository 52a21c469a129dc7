import TokenEcho.Proofs.Token.Grammar

/-!
# The lexer finds the spellings

What one step of the lexer does is said once, in `Lexer.next_of_fits`: before white space and a
spelling that fits it yields the token of the spelling and stands right after it. Then
`tokenize_of_wellCut` says it of a whole run: the tokens of a source are those of any well cut form
of it, each with the places that the text before it gives it.
-/

namespace TokenEcho

/-- A spelling and the text before it in its source. -/
structure Placed where
  before : List Char
  spelling : Spelling

namespace Placed

def start (p : Placed) : Position := Position.start.advanceAll p.before

def stop (p : Placed) : Position := Position.start.advanceAll (p.before ++ p.spelling.text)

def span (file : String) (p : Placed) : Span := { file, start := p.start, stop := p.stop }

def token (file : String) (p : Placed) : Token where
  kind := p.spelling.kind
  lexeme := String.ofList p.spelling.lexeme
  line := p.stop.line
  span := p.span file

/-- What a run in a mode has to say about a spelling. -/
def reports (file : String) (strict : Bool) (p : Placed) : List Diagnostic :=
  if strict && p.spelling.isOpen then [Lexer.unterminatedString (p.span file)] else []

theorem reports_of_isOpen_eq_false {p : Placed} (h : p.spelling.isOpen = false) (file : String)
    (strict : Bool) : p.reports file strict = [] := by
  rw [reports, h, Bool.and_false, if_neg Bool.false_ne_true]

theorem advanceAll_eq_stop {p : Placed} {position : Position} {first : Char} {more : List Char}
    (htext : p.spelling.text = first :: more) (hposition : position = p.start.advance first) :
    position.advanceAll more = p.stop := by
  rw [hposition, stop, htext, Position.advanceAll_append, Position.advanceAll_cons, start]

end Placed

def placed (before : List Char) : List Segment → List Placed
  | [] => []
  | s :: rest => ⟨before ++ s.gap, s.spelling⟩ :: placed (before ++ s.text) rest

theorem map_spelling_placed (before : List Char) (segments : List Segment) :
    (placed before segments).map Placed.spelling = segments.map Segment.spelling := by
  induction segments generalizing before with
  | nil => rfl
  | cons s rest ih => rw [placed, List.map_cons, List.map_cons, ih]

theorem placed_append (before : List Char) (xs ys : List Segment) :
    placed before (xs ++ ys) = placed before xs ++ placed (before ++ spell xs []) ys := by
  induction xs generalizing before with
  | nil => simp [placed]
  | cons s rest ih =>
      rw [List.cons_append, placed, placed, ih, spell_cons, Segment.text, List.cons_append]
      simp only [List.append_assoc]

theorem placed_append_cons (xs : List Segment) (s : Segment) (ys : List Segment) :
    placed [] (xs ++ s :: ys) =
      placed [] xs ++ ⟨spell xs s.gap, s.spelling⟩ :: placed (spell xs s.text) ys := by
  rw [placed_append, placed, List.nil_append, spell_append_tail, spell_append_tail,
    List.nil_append, List.nil_append]

theorem exists_after_of_mem_placed {segments : List Segment} {tail before : List Char}
    (hcut : WellCut segments tail) {p : Placed} (hp : p ∈ placed before segments) :
    ∃ after, before ++ spell segments tail = p.before ++ (p.spelling.text ++ after) ∧
      p.spelling.Fits after := by
  induction segments generalizing before with
  | nil => simp [placed] at hp
  | cons s rest ih =>
      obtain ⟨-, hfits, hcut⟩ := hcut
      rw [placed, List.mem_cons] at hp
      rcases hp with rfl | hp
      · exact ⟨spell rest tail, by rw [spell_cons, List.append_assoc], hfits⟩
      · obtain ⟨after, htext, hafter⟩ := ih hcut hp
        refine ⟨after, ?_, hafter⟩
        rw [← htext, spell_cons, Segment.text, List.append_assoc, List.append_assoc]

theorem Reader.takeWhile_of_stops {c : Reader} {p : Char → Bool} {run after : List Char}
    (hrest : c.rest = run ++ after) (hrun : ∀ x ∈ run, p x) (hafter : Stops p after) :
    c.takeWhile p = (run, { c with rest := after, position := c.position.advanceAll run }) := by
  unfold takeWhile
  rw [hrest, takeWhile_append_of_stops hrun hafter, dropWhile_append_of_stops hrun hafter]

theorem Reader.read?_of_cons {c : Reader} {x : Char} {after : List Char}
    (hrest : c.rest = x :: after) :
    c.read? = some (x, { c with rest := after, position := c.position.advance x }) := by
  unfold read?
  rw [hrest]

theorem Reader.accept_of_cons {c : Reader} {x : Char} {after : List Char}
    (hrest : c.rest = x :: after) :
    c.accept x = (true, { c with rest := after, position := c.position.advance x }) := by
  unfold accept
  rw [read?_of_cons hrest]
  exact if_pos rfl

theorem Reader.accept_of_nil {c : Reader} (hrest : c.rest = []) (x : Char) :
    c.accept x = (false, c) := by
  unfold accept read?
  rw [hrest]

theorem TokenKind.ofWord_ofList (first : Char) (more : List Char) :
    TokenKind.ofWord (String.ofList (first :: more)) = (Spelling.word first more).kind := by
  have hiff : ∀ s : String, String.ofList (first :: more) = s ↔ first :: more = s.toList :=
    fun s => ⟨fun h => by rw [← h, String.toList_ofList], fun h => by rw [h, String.ofList_toList]⟩
  simp only [ofWord, keywords, Spelling.kind, List.mem_cons, List.not_mem_nil, or_false, hiff]

namespace Lexer

def past (l : Lexer) (p : Placed) (after : List Char) : Lexer where
  reader := { l.reader with rest := after, position := p.stop }
  strict := l.strict
  bag := ⟨l.bag.diagnostics ++ p.reports l.reader.file l.strict⟩

theorem token_past (l : Lexer) (p : Placed) (after : List Char) :
    (l.past p after).token p.spelling.kind p.spelling.lexeme p.start = p.token l.reader.file := rfl

theorem past_of_isOpen_eq_false {l : Lexer} {p : Placed} (after : List Char)
    (h : p.spelling.isOpen = false) :
    l.past p after = { l with reader := { l.reader with rest := after, position := p.stop } } := by
  rw [past, Placed.reports_of_isOpen_eq_false h, List.append_nil]

variable {l : Lexer} {p : Placed} {after : List Char}

theorem word_of_fits {first : Char} {more : List Char} (hp : p.spelling = .word first more)
    (hfits : p.spelling.Fits after) (hrest : l.reader.rest = more ++ after)
    (hposition : l.reader.position = p.start.advance first) :
    l.word p.start first = (p.token l.reader.file, l.past p after) := by
  rw [hp] at hfits
  have hstop : l.reader.position.advanceAll more = p.stop :=
    Placed.advanceAll_eq_stop (by rw [hp]; rfl) hposition
  have hkind := TokenKind.ofWord_ofList first more
  rw [← token_past l p after, past_of_isOpen_eq_false after (by rw [hp]; rfl), hp, word,
    Reader.takeWhile_of_stops hrest hfits.2.1 hfits.2.2, hstop]
  dsimp only
  rw [hkind]
  rfl

theorem number_of_fits {first : Char} {more : List Char} (hp : p.spelling = .number first more)
    (hfits : p.spelling.Fits after) (hrest : l.reader.rest = more ++ after)
    (hposition : l.reader.position = p.start.advance first) :
    l.number p.start first = (p.token l.reader.file, l.past p after) := by
  rw [hp] at hfits
  have hstop : l.reader.position.advanceAll more = p.stop :=
    Placed.advanceAll_eq_stop (by rw [hp]; rfl) hposition
  rw [← token_past l p after, past_of_isOpen_eq_false after (by rw [hp]; rfl), hp, number,
    Reader.takeWhile_of_stops hrest hfits.2.1 hfits.2.2, hstop]
  rfl

theorem string_of_closed {body : List Char} (hp : p.spelling = .string body true)
    (hfits : p.spelling.Fits after) (hrest : l.reader.rest = body ++ '"' :: after)
    (hposition : l.reader.position = p.start.advance '"') :
    l.string p.start = (p.token l.reader.file, l.past p after) := by
  rw [hp] at hfits
  have htext : p.spelling.text = '"' :: (body ++ ['"']) := by
    rw [hp]
    rfl
  have hstop : (l.reader.position.advanceAll body).advance '"' = p.stop := by
    rw [← Placed.advanceAll_eq_stop htext hposition, Position.advanceAll_append]
    rfl
  rw [← token_past l p after, past_of_isOpen_eq_false after (by rw [hp]; rfl), hp, string,
    Reader.takeWhile_of_stops hrest (forall_bne_quote hfits.1) (stops_cons.2 rfl)]
  dsimp only
  rw [Reader.accept_of_cons rfl]
  dsimp only
  rw [hstop]
  rfl

theorem string_of_open {body : List Char} (hp : p.spelling = .string body false)
    (hfits : p.spelling.Fits after) (hrest : l.reader.rest = body)
    (hposition : l.reader.position = p.start.advance '"') :
    l.string p.start = (p.token l.reader.file, l.past p after) := by
  rw [hp] at hfits
  obtain ⟨hnot, hafter⟩ := hfits
  obtain rfl := hafter rfl
  have hstop : l.reader.position.advanceAll body = p.stop :=
    Placed.advanceAll_eq_stop (by simp [hp, Spelling.text]) hposition
  have hopen : p.spelling.isOpen = true := by rw [hp]; rfl
  rw [← token_past l p [], past, Placed.reports, hopen, hp, string,
    Reader.takeWhile_of_stops (hrest.trans (List.append_nil _).symm) (forall_bne_quote hnot)
      (stops_nil _)]
  dsimp only
  rw [Reader.accept_of_nil rfl]
  dsimp only
  rw [hstop]
  -- in either mode the token is the same, and the bag is what the mode asks for
  cases hstrict : l.strict
  · simp [token, Reader.spanSince, Spelling.kind, Spelling.lexeme]
  · simp [token, Reader.spanSince, Spelling.kind, Spelling.lexeme, Diagnostics.add, Placed.span]

theorem tokenAfter_of_fits {first : Char} (hfits : p.spelling.Fits after)
    (htext : p.spelling.text ++ after = first :: l.reader.rest)
    (hposition : l.reader.position = p.start.advance first) :
    l.tokenAfter p.start first = (p.token l.reader.file, l.past p after) := by
  unfold tokenAfter
  cases hp : p.spelling with
  | word c more =>
      have hfits' := hfits
      rw [hp] at htext hfits'
      obtain ⟨rfl, hrest⟩ := List.cons.inj htext
      have hquote : c ≠ '"' := by
        rintro rfl
        simpa using hfits'.1
      rw [if_neg hquote, if_pos hfits'.1]
      exact word_of_fits hp hfits hrest.symm hposition
  | number c more =>
      have hfits' := hfits
      rw [hp] at htext hfits'
      obtain ⟨rfl, hrest⟩ := List.cons.inj htext
      have hquote : c ≠ '"' := by
        rintro rfl
        simpa using hfits'.1
      have hletter : ¬ Text.isLetter c := by
        rw [Text.isLetter_eq_false_of_isDecimalDigit hfits'.1]
        exact Bool.false_ne_true
      rw [if_neg hquote, if_neg hletter, if_pos hfits'.1]
      exact number_of_fits hp hfits hrest.symm hposition
  | string body closed =>
      have hfits' := hfits
      rw [hp] at htext hfits'
      obtain ⟨rfl, hrest⟩ := List.cons.inj htext
      rw [if_pos rfl]
      cases closed with
      | true =>
          apply string_of_closed hp hfits _ hposition
          rw [← hrest, if_pos rfl]
          exact List.append_assoc body ['"'] after
      | false =>
          apply string_of_open hp hfits _ hposition
          rw [← hrest, hfits'.2 rfl]
          simp
  | symbol c =>
      have hfits' := hfits
      rw [hp] at htext hfits'
      obtain ⟨rfl, hrest⟩ := List.cons.inj htext
      obtain ⟨-, hletter, hdigit, hquote⟩ := hfits'
      have hafter : after = l.reader.rest := hrest
      have hchar : p.spelling.text = [c] := by
        rw [hp]
        rfl
      have hstop : l.reader.position = p.stop := Placed.advanceAll_eq_stop hchar hposition
      rw [if_neg hquote, if_neg (by simp [hletter]), if_neg (by simp [hdigit]),
        ← token_past l p after, past_of_isOpen_eq_false after (by rw [hp]; rfl), hp, ← hstop, hafter]
      rfl

/-- White space and a spelling that fits are read in one step. -/
theorem next_of_fits {gap : List Char} (hgap : IsBlankText gap) (hfits : p.spelling.Fits after)
    (hrest : l.reader.rest = gap ++ (p.spelling.text ++ after))
    (hstart : p.start = l.reader.position.advanceAll gap) :
    l.next = (some (p.token l.reader.file), l.past p after) := by
  have hskip : l.reader.takeWhile Text.isBlank = (gap, { l.reader with
      rest := p.spelling.text ++ after, position := p.start }) := by
    rw [hstart]
    exact Reader.takeWhile_of_stops hrest hgap (hfits.stops_isBlank after)
  obtain ⟨first, rest, htext⟩ := List.exists_cons_of_ne_nil
    (List.append_ne_nil_of_left_ne_nil p.spelling.text_ne_nil after)
  rw [next, skipBlanks, hskip]
  dsimp only
  rw [Reader.read?_of_cons htext]
  dsimp only
  rw [tokenAfter_of_fits hfits htext rfl]
  rfl

theorem next_of_blank (hrest : IsBlankText l.reader.rest) :
    l.next = (none, { l with reader := { l.reader with
      rest := [], position := l.reader.position.advanceAll l.reader.rest } }) := by
  have hskip : l.reader.takeWhile Text.isBlank = (l.reader.rest, { l.reader with
      rest := [], position := l.reader.position.advanceAll l.reader.rest }) :=
    Reader.takeWhile_of_stops (List.append_nil _).symm hrest (stops_nil _)
  rw [next, skipBlanks, hskip]
  rfl

/-- A run yields the tokens of a well cut rest, and adds what its mode has to say about them. -/
theorem collect_of_wellCut {segments : List Segment} {tail : List Char}
    (hcut : WellCut segments tail) (before : List Char)
    (hrest : l.reader.rest = spell segments tail)
    (hposition : l.reader.position = Position.start.advanceAll before) (found : List Token) :
    l.collect found =
      (found.reverse ++ (placed before segments).map (Placed.token l.reader.file),
        ⟨l.bag.diagnostics ++
          (placed before segments).flatMap (Placed.reports l.reader.file l.strict)⟩) := by
  induction segments generalizing l before found with
  | nil =>
      rw [collect]
      split
      · next after heq =>
          rw [next_of_blank (by rw [hrest]; exact hcut)] at heq
          cases heq
          simp [placed]
      · next t after heq =>
          rw [next_of_blank (by rw [hrest]; exact hcut)] at heq
          cases heq
  | cons s rest ih =>
      obtain ⟨hgap, hfits, hcut⟩ := hcut
      rw [spell_cons] at hrest
      have hnext := next_of_fits (p := ⟨before ++ s.gap, s.spelling⟩) hgap hfits hrest
        (by rw [hposition]; exact Position.advanceAll_append _ _ _)
      rw [collect]
      split
      · next after heq =>
          rw [hnext] at heq
          cases heq
      · next t after heq =>
          rw [hnext] at heq
          cases heq
          rw [ih hcut (before ++ s.text) rfl
            (by rw [past, Placed.stop, Segment.text, List.append_assoc])]
          simp only [placed, List.map_cons, List.flatMap_cons, List.reverse_cons, List.append_assoc,
            List.cons_append, List.nil_append, past]

theorem tokenize_of_wellCut {segments : List Segment} {tail : List Char} {source : String}
    (hcut : WellCut segments tail) (hsource : source.toList = spell segments tail) (file : String)
    (strict : Bool) :
    ((ofSource source file).withStrict strict).tokenize =
      ((placed [] segments).map (Placed.token file),
        ⟨(placed [] segments).flatMap (Placed.reports file strict)⟩) :=
  collect_of_wellCut (l := (ofSource source file).withStrict strict) hcut [] hsource rfl []

/-! ### One by one -/

theorem toList_of_none {after : Lexer} (h : l.next = (none, after)) : l.toList = [] := by
  rw [toList]
  split
  · rfl
  · next heq =>
      rw [h] at heq
      cases heq

theorem toList_of_some {after : Lexer} {t : Token} (h : l.next = (some t, after)) :
    l.toList = t :: after.toList := by
  rw [toList]
  split
  · next heq =>
      rw [h] at heq
      cases heq
  · next heq =>
      rw [h] at heq
      cases heq
      rfl

theorem fst_collect (l : Lexer) (found : List Token) :
    (l.collect found).1 = found.reverse ++ l.toList := by
  fun_induction collect l found with
  | case1 l found after hnext => rw [toList_of_none hnext, List.append_nil]
  | case2 l found t after hnext _ ih =>
      rw [ih, toList_of_some hnext, List.reverse_cons, List.append_assoc]
      rfl

/-- Tokens that are asked for one by one are those that are read in one go. -/
theorem toList_eq_tokenize (l : Lexer) : l.toList = l.tokenize.1 := (l.fst_collect []).symm

end Lexer

theorem tokenize_eq (source : String) :
    tokenize source = (Lexer.ofSource source Lexer.consoleName).tokenize.1 :=
  Lexer.toList_eq_tokenize _

theorem tokenize_eq_of_wellCut {segments : List Segment} {tail : List Char} {source : String}
    (hcut : WellCut segments tail) (hsource : source.toList = spell segments tail) :
    tokenize source = (placed [] segments).map (Placed.token Lexer.consoleName) := by
  rw [tokenize_eq]
  exact congrArg Prod.fst (Lexer.tokenize_of_wellCut hcut hsource Lexer.consoleName false)

end TokenEcho
