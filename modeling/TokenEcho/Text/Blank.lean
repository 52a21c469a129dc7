import TokenEcho.Text.CharRange

/-!
# White space

The Unicode property White_Space, twenty-five characters.
-/

namespace TokenEcho.Text

/-- The characters with the property White_Space. -/
def blankRanges : List CharRange :=
  [(0x9, 0xD), (0x20, 0x20), (0x85, 0x85), (0xA0, 0xA0), (0x1680, 0x1680), (0x2000, 0x200A),
   (0x2028, 0x2029), (0x202F, 0x202F), (0x205F, 0x205F), (0x3000, 0x3000)]

theorem ascending_blankRanges : CharRange.Ascending blankRanges := by decide +kernel

def isBlank (c : Char) : Bool := CharRange.covers blankRanges c.toNat

theorem isBlank_of_isWhitespace (c : Char) (h : c.isWhitespace) : isBlank c := by
  simp only [Char.isWhitespace, Bool.or_eq_true, decide_eq_true_eq] at h
  rcases h with ((rfl | rfl) | rfl) | rfl <;> decide

end TokenEcho.Text
