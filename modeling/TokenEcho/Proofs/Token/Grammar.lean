import Mathlib.Data.List.TakeWhile
import TokenEcho.Proofs.Text.CharClass
import TokenEcho.Token.Lexer

/-!
# How tokens are written

A source is a list of segments, each a spelling with the white space before it, and white space
after the last one. A spelling is a token as it is written. Whether it may stand where it stands
depends on the text after it, since words and numbers end only where they cannot go on: this is
`Spelling.Fits`, and `WellCut` asks it of every segment. Every text has a well cut form,
`exists_wellCut`; that it has only one is left to the lexer, which finds each of them.
-/

namespace TokenEcho

/-- The text is at its end, or goes on with a character that is not in the class. -/
def Stops (p : Char → Bool) (after : List Char) : Prop := ∀ c ∈ after.head?, p c = false

def IsBlankText (text : List Char) : Prop := ∀ c ∈ text, Text.isBlank c

instance : DecidablePred IsBlankText := List.decidableBAll fun c => Text.isBlank c

/-- A token as it is written. A string is closed, or runs to the end of the source. -/
inductive Spelling where
  | word (first : Char) (more : List Char)
  | number (first : Char) (more : List Char)
  | string (body : List Char) (closed : Bool)
  | symbol (c : Char)
deriving DecidableEq

namespace Spelling

def text : Spelling → List Char
  | word first more => first :: more
  | number first more => first :: more
  | string body closed => '"' :: (body ++ if closed then ['"'] else [])
  | symbol c => [c]

/-- The characters that count, without the quotes of a string. -/
def lexeme : Spelling → List Char
  | word first more => first :: more
  | number first more => first :: more
  | string body _ => body
  | symbol c => [c]

def kind : Spelling → TokenKind
  | word first more =>
      if first :: more = "let".toList ∨ first :: more = "writl".toList then .keyword
      else .identifier
  | number _ _ => .number
  | string _ _ => .string
  | symbol _ => .symbol

def isOpen : Spelling → Bool
  | string _ closed => !closed
  | _ => false

/-- What a spelling is made of, and what may come after it. -/
def Fits : Spelling → List Char → Prop
  | word first more, after =>
      Text.isLetter first ∧ (∀ c ∈ more, isWordChar c) ∧ Stops isWordChar after
  | number first more, after =>
      Text.isDecimalDigit first ∧ (∀ c ∈ more, Text.isDecimalDigit c) ∧
        Stops Text.isDecimalDigit after
  | string body closed, after => '"' ∉ body ∧ (closed = false → after = [])
  | symbol c, _ =>
      Text.isBlank c = false ∧ Text.isLetter c = false ∧ Text.isDecimalDigit c = false ∧ c ≠ '"'

end Spelling

/-- A spelling with the white space before it. -/
structure Segment where
  gap : List Char
  spelling : Spelling

def Segment.text (s : Segment) : List Char := s.gap ++ s.spelling.text

def spell (segments : List Segment) (tail : List Char) : List Char :=
  segments.flatMap Segment.text ++ tail

/-- Around the spellings is white space, and each of them fits before what comes after it. -/
def WellCut : List Segment → List Char → Prop
  | [], tail => IsBlankText tail
  | s :: rest, tail => IsBlankText s.gap ∧ s.spelling.Fits (spell rest tail) ∧ WellCut rest tail

@[simp] theorem spell_nil (tail : List Char) : spell [] tail = tail := rfl

@[simp] theorem spell_cons (s : Segment) (rest : List Segment) (tail : List Char) :
    spell (s :: rest) tail = s.gap ++ (s.spelling.text ++ spell rest tail) := by
  simp only [spell, List.flatMap_cons, Segment.text, List.append_assoc]

theorem spell_append (xs ys : List Segment) (tail : List Char) :
    spell (xs ++ ys) tail = spell xs (spell ys tail) := by
  simp only [spell, List.flatMap_append, List.append_assoc]

theorem spell_append_tail (segments : List Segment) (tail after : List Char) :
    spell segments tail ++ after = spell segments (tail ++ after) := by
  simp only [spell, List.append_assoc]

/-! ### Runs of a class -/

@[simp] theorem stops_nil (p : Char → Bool) : Stops p [] := by simp [Stops]

@[simp] theorem stops_cons {p : Char → Bool} {c : Char} {cs : List Char} :
    Stops p (c :: cs) ↔ p c = false := by simp [Stops]

theorem Stops.append {p : Char → Bool} {after : List Char} (h : Stops p after) (hne : after ≠ [])
    (more : List Char) : Stops p (after ++ more) := by
  cases after with
  | nil => exact absurd rfl hne
  | cons c cs => simpa using h

theorem stops_dropWhile (p : Char → Bool) (cs : List Char) : Stops p (cs.dropWhile p) := by
  have h := List.head?_dropWhile_not p cs
  intro c hc
  rw [Option.mem_def.1 hc] at h
  exact h

theorem takeWhile_append_of_stops {p : Char → Bool} {run after : List Char}
    (hrun : ∀ c ∈ run, p c) (hafter : Stops p after) : (run ++ after).takeWhile p = run := by
  rw [List.takeWhile_append_of_pos hrun]
  cases after with
  | nil => simp
  | cons c cs => simp [stops_cons.1 hafter]

theorem dropWhile_append_of_stops {p : Char → Bool} {run after : List Char}
    (hrun : ∀ c ∈ run, p c) (hafter : Stops p after) : (run ++ after).dropWhile p = after := by
  rw [List.dropWhile_append_of_pos hrun]
  cases after with
  | nil => simp
  | cons c cs => simp [stops_cons.1 hafter]

/-- A run of a class is cut off in one way only. -/
theorem append_inj_of_stops {p : Char → Bool} {run run' after after' : List Char}
    (hrun : ∀ c ∈ run, p c) (hafter : Stops p after) (hrun' : ∀ c ∈ run', p c)
    (hafter' : Stops p after') (h : run ++ after = run' ++ after') :
    run = run' ∧ after = after' := by
  constructor
  · rw [← takeWhile_append_of_stops hrun hafter, h, takeWhile_append_of_stops hrun' hafter']
  · rw [← dropWhile_append_of_stops hrun hafter, h, dropWhile_append_of_stops hrun' hafter']

theorem isWordChar_of_isLetter {c : Char} (h : Text.isLetter c) : isWordChar c := by
  simp [isWordChar, h]

theorem isWordChar_of_isDecimalDigit {c : Char} (h : Text.isDecimalDigit c) : isWordChar c := by
  simp [isWordChar, h]

theorem isDecimalDigit_eq_false_of_isWordChar {c : Char} (h : isWordChar c = false) :
    Text.isDecimalDigit c = false := by
  simp only [isWordChar, Bool.or_eq_false_iff] at h
  exact h.1.2

theorem forall_bne_quote {body : List Char} (h : '"' ∉ body) : ∀ c ∈ body, (c != '"') = true := by
  intro c hc
  rw [bne_iff_ne]
  rintro rfl
  exact h hc

/-! ### Spellings -/

namespace Spelling

theorem text_ne_nil (p : Spelling) : p.text ≠ [] := by cases p <;> simp [text]

theorem Fits.stops_isBlank {p : Spelling} {after : List Char} (h : p.Fits after) (more : List Char) :
    Stops Text.isBlank (p.text ++ more) := by
  cases p with
  | word first rest => simpa [text] using Text.isBlank_eq_false_of_isLetter h.1
  | number first rest => simpa [text] using Text.isBlank_eq_false_of_isDecimalDigit h.1
  | string body closed => simp [text]
  | symbol c => simpa [text] using h.1

theorem exists_string_fits (rest : List Char) :
    ∃ (closed : Bool) (after : List Char),
      (string (rest.takeWhile (· != '"')) closed).text ++ after = '"' :: rest ∧
        (string (rest.takeWhile (· != '"')) closed).Fits after := by
  have hbody : '"' ∉ rest.takeWhile (· != '"') := fun h => by
    simpa using List.mem_takeWhile_imp h
  have hsplit := List.takeWhile_append_dropWhile (p := (· != '"')) (l := rest)
  cases hafter : rest.dropWhile (· != '"') with
  | nil =>
      refine ⟨false, [], ?_, hbody, fun _ => rfl⟩
      rw [hafter] at hsplit
      simpa [text] using hsplit
  | cons d after =>
      have hd : d = '"' := by
        have := stops_dropWhile (· != '"') rest
        rw [hafter, stops_cons] at this
        simpa using this
      refine ⟨true, after, ?_, hbody, fun h => by cases h⟩
      rw [hafter, hd] at hsplit
      simpa [text] using hsplit

theorem exists_fits {c : Char} (hc : Text.isBlank c = false) (rest : List Char) :
    ∃ (p : Spelling) (after : List Char), p.text ++ after = c :: rest ∧ p.Fits after := by
  by_cases hquote : c = '"'
  · subst hquote
    obtain ⟨closed, after, htext, hfits⟩ := exists_string_fits rest
    exact ⟨_, after, htext, hfits⟩
  by_cases hletter : Text.isLetter c
  · exact ⟨word c (rest.takeWhile isWordChar), rest.dropWhile isWordChar,
      by simp [text], hletter, fun d hd => List.mem_takeWhile_imp hd, stops_dropWhile _ _⟩
  by_cases hdigit : Text.isDecimalDigit c
  · exact ⟨number c (rest.takeWhile Text.isDecimalDigit), rest.dropWhile Text.isDecimalDigit,
      by simp [text], hdigit, fun d hd => List.mem_takeWhile_imp hd, stops_dropWhile _ _⟩
  · exact ⟨symbol c, rest, rfl, hc, by simpa using hletter, by simpa using hdigit, hquote⟩

end Spelling

theorem WellCut.tail {segments : List Segment} {tail : List Char} (h : WellCut segments tail) :
    IsBlankText tail := by
  induction segments with
  | nil => exact h
  | cons s rest ih => exact ih h.2.2

theorem exists_wellCut (cs : List Char) :
    ∃ segments tail, spell segments tail = cs ∧ WellCut segments tail := by
  have hgap : IsBlankText (cs.takeWhile Text.isBlank) := fun c hc => List.mem_takeWhile_imp hc
  have hsplit := List.takeWhile_append_dropWhile (p := Text.isBlank) (l := cs)
  have hstop := stops_dropWhile Text.isBlank cs
  cases hrest : cs.dropWhile Text.isBlank with
  | nil =>
      refine ⟨[], cs, rfl, ?_⟩
      rw [hrest, List.append_nil] at hsplit
      rwa [hsplit] at hgap
  | cons c rest =>
      rw [hrest, stops_cons] at hstop
      obtain ⟨p, after, htext, hfits⟩ := Spelling.exists_fits hstop rest
      have hlength : after.length < cs.length := by
        have := List.length_pos_iff.2 p.text_ne_nil
        rw [← hsplit, hrest, ← htext]
        simp only [List.length_append]
        omega
      obtain ⟨segments, tail, rfl, hcut⟩ := exists_wellCut after
      refine ⟨⟨cs.takeWhile Text.isBlank, p⟩ :: segments, tail, ?_, hgap, hfits, hcut⟩
      rw [spell_cons, htext, ← hrest, hsplit]
termination_by cs.length

end TokenEcho
