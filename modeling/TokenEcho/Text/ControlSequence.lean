import TokenEcho.Text.Utf8

/-!
# Texts without control sequences

A terminal obeys some characters instead of showing them. A text that may go elsewhere is written
without these: control characters are left out unless they are white space, and so are the sequences
that an escape begins. White space inside a sequence is kept. In a text that is taken as a whole it
ends the sequence; in a stream the sequence goes on after the characters that follow the white space
up to the next control. What is left holds only characters that are shown, and a text that holds no
others stays as it is.
-/

namespace TokenEcho.Text

/-- The control characters that are white space, and are kept. -/
def isBlankControl (c : Char) : Bool := c == '\t' || c == '\n' || c == '\x0c' || c == '\r'

def isShown (c : Char) : Bool := isBlankControl c || (' ' ≤ c && c != '\x7f')

/-- The byte that ends a string, whatever character it belongs to. -/
def stringTerminator : UInt8 := 0x9c

/-- The sequence that has begun before a character, or the ground where there is none. A control
string for a device has a head of parameters and of characters in between. -/
inductive Sequence where
  | ground
  | escape
  | intermediate
  | control
  | command
  | deviceEntry
  | deviceParameters
  | deviceIntermediate
  | string
deriving DecidableEq

namespace Sequence

/-- Whether control characters inside of the sequence act at once. -/
def isExecuting : Sequence → Bool
  | escape | intermediate | control => true
  | _ => false

def ofIntroducer (c : Char) : Sequence :=
  if c = '[' then control
  else if c = ']' then command
  else if c = 'P' then deviceEntry
  else if c ∈ ['X', '^', '_'] then string
  else if c < '0' then intermediate
  else ground

/-- The sequence after one more character. Characters without a meaning in it change nothing. -/
def advance (s : Sequence) (c : Char) : Sequence :=
  match s with
  | ground => ground
  | command => if c = '\x07' then ground else command
  | string => if stringTerminator ∈ String.utf8EncodeChar c then ground else string
  | s =>
      if c < ' ' || '~' < c then s
      else
        match s with
        | escape => ofIntroducer c
        | intermediate => if c < '0' then intermediate else ground
        | control => if c < '@' then control else ground
        | deviceEntry =>
            if c < '0' then deviceIntermediate else if c < '@' then deviceParameters else string
        | deviceParameters =>
            if c < '0' then deviceIntermediate else if c < '<' then deviceParameters else string
        | _ => if c < '0' then deviceIntermediate else string

end Sequence

/-- The places of a text where controls are taken out: the sequence that has begun, and whether it
is interrupted by characters that are shown. -/
structure Stripping where
  sequence : Sequence := .ground
  isInterrupted : Bool := false

namespace Stripping

open Sequence

/-- What comes after a character, and whether the character is kept. A sequence in a stream resumes
after an interruption, unless that has characters beyond ASCII. -/
def step (resumes : Bool) (p : Stripping) (c : Char) : Stripping × Bool :=
  if c = '\x1b' then ({ sequence := escape }, false)
  else if c = '\x18' || c = '\x1a' then ({}, false)
  else if p.sequence = ground then ({}, isShown c)
  else if p.isInterrupted && isShown c then (if c ≤ '~' then p else {}, true)
  else if p.sequence.isExecuting && isBlankControl c then
    (if resumes then { p with isInterrupted := true } else {}, true)
  else ({ sequence := p.sequence.advance c }, false)

def strip (resumes : Bool) (p : Stripping) : List Char → List Char
  | [] => []
  | c :: rest =>
      let (after, isKept) := p.step resumes c
      if isKept then c :: after.strip resumes rest else after.strip resumes rest

theorem step_ground (resumes : Bool) {c : Char} (h : isShown c) :
    step resumes {} c = ({}, true) := by
  have hescape : c ≠ '\x1b' := by rintro rfl; exact absurd h (by decide)
  have hcancel : c ≠ '\x18' := by rintro rfl; exact absurd h (by decide)
  have hsubstitute : c ≠ '\x1a' := by rintro rfl; exact absurd h (by decide)
  simp [step, hescape, hcancel, hsubstitute, h]

theorem isShown_of_step {resumes : Bool} {p : Stripping} {c : Char}
    (h : (p.step resumes c).2 = true) : isShown c := by
  unfold step at h
  split at h
  · simp at h
  · split at h
    · simp at h
    · split at h
      · exact h
      · split at h
        · next hc => simp_all
        · split at h
          · next hc => simp_all [isShown]
          · simp at h

theorem strip_ground (resumes : Bool) {cs : List Char} (h : ∀ c ∈ cs, isShown c) :
    strip resumes {} cs = cs := by
  induction cs with
  | nil => rfl
  | cons c rest ih =>
      simp only [strip, step_ground resumes (h c (by simp)), if_true]
      rw [ih fun x hx => h x (by simp [hx])]

theorem isShown_of_mem_strip {resumes : Bool} {p : Stripping} {cs : List Char} :
    ∀ c ∈ p.strip resumes cs, isShown c := by
  induction cs generalizing p with
  | nil => simp [strip]
  | cons x rest ih =>
      simp only [strip]
      split
      · next hkept =>
          intro c hc
          rcases List.mem_cons.1 hc with rfl | hc
          · exact isShown_of_step hkept
          · exact ih c hc
      · exact ih

end Stripping

/-- A text, taken as a whole, without its control characters and control sequences. -/
def withoutControls (text : String) : String :=
  String.ofList (Stripping.strip false {} text.toList)

def withoutStreamControls (text : String) : String :=
  String.ofList (Stripping.strip true {} text.toList)

end TokenEcho.Text
