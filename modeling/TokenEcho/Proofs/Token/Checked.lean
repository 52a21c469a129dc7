import TokenEcho.Proofs.Source.Checked
import TokenEcho.Token.Lexer

/-!
# Scanning with checks

The lexer once more, with the operations of a reader that has checks, and with lexemes that are cut
out of the source by their offsets. What it finds is the same, `tokenizeChecked_eq`: it finds what
the lexer without checks finds, unless the counters do not last to the end of the source, and it
never fails to cut a lexeme out. The first part of the module is why the run ends, with or without a
fault; the second one is `Reader.Checks` for each function of the lexer.
-/

namespace TokenEcho

namespace Lexer

/-- A token whose lexeme is cut out of the source. -/
def tokenChecked (l : Lexer) (kind : String → TokenKind) (start : Position) :
    Except Fault Token := do
  let lexeme ← l.reader.cutChecked start.offset
  return { kind := kind lexeme, lexeme, line := l.reader.position.line,
           span := l.reader.spanSince start }

/-- The rest of a word or a number whose first character has been read. -/
def runChecked (l : Lexer) (p : Char → Bool) (kind : String → TokenKind) (start : Position) :
    Except Fault (Token × Lexer) := do
  let reader ← l.reader.takeWhileChecked p
  let l := { l with reader }
  return (← l.tokenChecked kind start, l)

def stringChecked (l : Lexer) (start : Position) : Except Fault (Token × Lexer) := do
  let bodyStart := l.reader.position.offset
  let reader ← l.reader.takeWhileChecked (· != '"')
  let body ← reader.cutChecked bodyStart
  let (closed, reader) ← reader.acceptChecked '"'
  let l := { l with reader }
  let l := if !closed && l.strict then
      { l with bag := l.bag.add (unterminatedString (l.reader.spanSince start)) }
    else l
  return ({ kind := .string, lexeme := body, line := l.reader.position.line,
            span := l.reader.spanSince start }, l)

def tokenAfterChecked (l : Lexer) (start : Position) (first : Char) :
    Except Fault (Token × Lexer) := do
  if first = '"' then l.stringChecked start
  else if Text.isLetter first then l.runChecked isWordChar .ofWord start
  else if Text.isDecimalDigit first then
    l.runChecked Text.isDecimalDigit (fun _ => .number) start
  else return (← l.tokenChecked (fun _ => .symbol) start, l)

def nextChecked (l : Lexer) : Except Fault (Option Token × Lexer) := do
  let reader ← l.reader.takeWhileChecked Text.isBlank
  let l := { l with reader }
  match ← l.reader.readChecked with
  | none => return (none, l)
  | some (first, reader) =>
      let (t, after) ← { l with reader }.tokenAfterChecked l.reader.position first
      return (some t, after)

/-! ### A step leaves less to read -/

variable {l after : Lexer} {start : Position} {first : Char} {t : Token}

theorem length_rest_le_of_runChecked {p : Char → Bool} {kind : String → TokenKind}
    (h : l.runChecked p kind start = .ok (t, after)) :
    after.reader.rest.length ≤ l.reader.rest.length := by
  obtain ⟨reader, hreader, h⟩ := bind_eq_ok_iff.1 h
  obtain ⟨t', -, h⟩ := bind_eq_ok_iff.1 h
  obtain ⟨rfl, hpasses⟩ := (Reader.checks_takeWhile _ _).of_ok hreader
  cases h
  exact hpasses.length_rest_le

theorem length_rest_le_of_stringChecked (h : l.stringChecked start = .ok (t, after)) :
    after.reader.rest.length ≤ l.reader.rest.length := by
  obtain ⟨reader, hreader, h⟩ := bind_eq_ok_iff.1 h
  obtain ⟨body, -, h⟩ := bind_eq_ok_iff.1 h
  obtain ⟨⟨closed, reader'⟩, haccept, hlast⟩ := bind_eq_ok_iff.1 h
  obtain ⟨rfl, hbody⟩ := (Reader.checks_takeWhile _ _).of_ok hreader
  obtain ⟨heq, hquote⟩ := (Reader.checks_accept _ _).of_ok haccept
  rw [heq] at hquote
  have hle := (hbody.trans hquote).length_rest_le
  cases hlast
  split
  · exact hle
  · exact hle

theorem length_rest_le_of_tokenAfterChecked (h : l.tokenAfterChecked start first = .ok (t, after)) :
    after.reader.rest.length ≤ l.reader.rest.length := by
  unfold tokenAfterChecked at h
  split at h
  · exact length_rest_le_of_stringChecked h
  · split at h
    · exact length_rest_le_of_runChecked h
    · split at h
      · exact length_rest_le_of_runChecked h
      · obtain ⟨t', -, h⟩ := bind_eq_ok_iff.1 h
        cases h
        exact Nat.le_refl _

theorem length_rest_lt_of_nextChecked (h : l.nextChecked = .ok (some t, after)) :
    after.reader.rest.length < l.reader.rest.length := by
  obtain ⟨reader, hreader, h⟩ := bind_eq_ok_iff.1 h
  obtain ⟨read, hread, h⟩ := bind_eq_ok_iff.1 h
  obtain ⟨rfl, hskip⟩ := (Reader.checks_takeWhile _ _).of_ok hreader
  obtain ⟨rfl, -⟩ := (Reader.checks_read _).of_ok hread
  dsimp only at h
  split at h
  · cases h
  · next first reader hread =>
      obtain ⟨⟨t', after'⟩, hafter, h⟩ := bind_eq_ok_iff.1 h
      cases h
      have hle := length_rest_le_of_tokenAfterChecked hafter
      have hrest := congrArg List.length (Reader.read?_eq_some hread)
      have := hskip.length_rest_le
      rw [List.length_cons] at hrest
      dsimp only at hle hrest ⊢
      omega

/-- Reads all tokens that are left, as long as nothing ends the run. -/
def collectChecked (l : Lexer) (found : List Token) : Except Fault (List Token × Diagnostics) :=
  match h : l.nextChecked with
  | .error fault => .error fault
  | .ok (none, after) => .ok (found.reverse, after.bag)
  | .ok (some t, after) =>
      have := length_rest_lt_of_nextChecked h
      collectChecked after (t :: found)
termination_by l.reader.rest.length

def tokenizeChecked (l : Lexer) : Except Fault (List Token × Diagnostics) := l.collectChecked []

/-! ### What the checks find -/

section

variable {begin : Reader} {run : List Char}

theorem tokenChecked_of_passes (hcounted : begin.Counted) (hpasses : begin.Passes l.reader)
    (hrest : begin.rest = run ++ l.reader.rest) (kind : String → TokenKind) :
    l.tokenChecked kind begin.position =
      .ok (l.token (kind (String.ofList run)) run begin.position) := by
  rw [tokenChecked, Reader.cutChecked_of_passes hcounted hpasses hrest]
  rfl

theorem checks_run (hcounted : begin.Counted) (hpasses : begin.Passes l.reader)
    (hrest : begin.rest = first :: l.reader.rest) (p : Char → Bool) (kind : String → TokenKind) :
    let more := l.reader.rest.takeWhile p
    let after : Lexer := { l with reader := (l.reader.takeWhile p).2 }
    l.reader.Checks after.reader
      (after.token (kind (String.ofList (first :: more))) (first :: more) begin.position, after)
      (l.runChecked p kind begin.position) := by
  apply (l.reader.checks_takeWhile p).bind
  intro hskip
  have hrun : begin.rest = first :: l.reader.rest.takeWhile p ++ (l.reader.takeWhile p).2.rest := by
    rw [hrest, List.cons_append, Reader.takeWhile_rest, List.takeWhile_append_dropWhile]
  dsimp only
  rw [tokenChecked_of_passes hcounted (hpasses.trans hskip) hrun]
  exact .passes (.refl _)

theorem reader_string (l : Lexer) (start : Position) :
    (l.string start).2.reader = ((l.reader.takeWhile (· != '"')).2.accept '"').2 := by
  unfold string
  dsimp only
  split
  · rfl
  · rfl

theorem checks_string (hcounted : l.reader.Counted) (start : Position) :
    l.reader.Checks (l.string start).2.reader (l.string start) (l.stringChecked start) := by
  apply (l.reader.checks_takeWhile (· != '"')).bind
  intro hbody
  dsimp only
  rw [Reader.cutChecked_of_passes hcounted hbody List.takeWhile_append_dropWhile.symm]
  apply ((l.reader.takeWhile (· != '"')).2.checks_accept '"').bind
  intro hquote
  rw [reader_string]
  exact .passes (.refl _)

theorem checks_tokenAfter (hcounted : begin.Counted) (hpasses : begin.Passes l.reader)
    (hrest : begin.rest = first :: l.reader.rest) :
    l.reader.Checks (l.tokenAfter begin.position first).2.reader
      (l.tokenAfter begin.position first) (l.tokenAfterChecked begin.position first) := by
  unfold tokenAfter tokenAfterChecked
  by_cases hquote : first = '"'
  · rw [if_pos hquote, if_pos hquote]
    exact checks_string (hcounted.of_passes hpasses) _
  rw [if_neg hquote, if_neg hquote]
  by_cases hletter : Text.isLetter first
  · rw [if_pos hletter, if_pos hletter]
    exact checks_run hcounted hpasses hrest isWordChar .ofWord
  rw [if_neg hletter, if_neg hletter]
  by_cases hdigit : Text.isDecimalDigit first
  · rw [if_pos hdigit, if_pos hdigit]
    exact checks_run hcounted hpasses hrest Text.isDecimalDigit fun _ => .number
  have hsymbol : begin.rest = [first] ++ l.reader.rest := hrest
  rw [if_neg hdigit, if_neg hdigit, tokenChecked_of_passes hcounted hpasses hsymbol]
  exact .passes (.refl _)

end

theorem checks_next (h : l.reader.Counted) :
    l.reader.Checks l.next.2.reader l.next l.nextChecked := by
  apply (l.reader.checks_takeWhile Text.isBlank).bind
  intro hskip
  have hread := (l.reader.takeWhile Text.isBlank).2.checks_read
  rw [next, skipBlanks]
  dsimp only
  cases hfirst : (l.reader.takeWhile Text.isBlank).2.read? with
  | none =>
      rw [hfirst] at hread
      exact hread.bind fun _ => .passes (.refl _)
  | some read =>
      obtain ⟨first, reader⟩ := read
      rw [hfirst] at hread
      apply hread.bind
      intro hpasses
      have hafter := checks_tokenAfter (l := { l with reader }) (h.of_passes hskip) hpasses
        (Reader.read?_eq_some hfirst)
      exact hafter.bind fun _ => .passes (.refl _)

theorem rest_of_next_eq_none {l after : Lexer} (h : l.next = (none, after)) :
    after.reader.rest = [] := by
  unfold next at h
  dsimp only at h
  split at h
  · next hread =>
      cases h
      unfold Reader.read? at hread
      split at hread
      · next hrest => exact hrest
      · cases hread
  · cases h

theorem collectChecked_eq_bind (l : Lexer) (found : List Token) :
    l.collectChecked found = l.nextChecked >>= fun (t?, after) =>
      match t? with
      | none => .ok (found.reverse, after.bag)
      | some t => after.collectChecked (t :: found) := by
  rw [collectChecked]
  split
  · next h =>
      rw [h]
      rfl
  · next h =>
      rw [h]
      rfl
  · next h =>
      dsimp only
      rw [h]
      rfl

theorem collectChecked_eq (h : l.reader.Counted) (found : List Token) :
    l.collectChecked found =
      if l.reader.Overflows then .error .overflow else .ok (l.collect found) := by
  fun_induction collect l found with
  | case1 l found after hnext =>
      have hchecks := checks_next h
      rw [hnext] at hchecks
      rw [collectChecked_eq_bind]
      generalize l.nextChecked = r at hchecks ⊢
      cases hchecks with
      | overflows hover => exact (if_pos hover).symm
      | passes hpasses =>
          -- the run ends at the end of the source, and nothing is left there to overflow
          have hrest := rest_of_next_eq_none hnext
          have hfits : ¬ after.reader.Overflows := by
            rw [Reader.Overflows, hrest]
            exact Option.some_ne_none after.reader.position
          exact (if_neg fun hover => hfits (hpasses.overflows_iff.1 hover)).symm
  | case2 l found t after hnext _ ih =>
      have hchecks := checks_next h
      rw [hnext] at hchecks
      rw [collectChecked_eq_bind]
      generalize l.nextChecked = r at hchecks ⊢
      cases hchecks with
      | overflows hover => exact (if_pos hover).symm
      | passes hpasses =>
          have hrun := ih (h.of_passes hpasses)
          simp only [← hpasses.overflows_iff] at hrun
          exact hrun

/-- A run with checks finds what a run without them does, or there is an overflow. -/
theorem tokenizeChecked_eq (h : l.reader.Counted) : l.tokenizeChecked =
    if l.reader.Overflows then .error .overflow else .ok l.tokenize :=
  collectChecked_eq h []

end Lexer

end TokenEcho
