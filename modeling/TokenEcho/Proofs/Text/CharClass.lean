import TokenEcho.Text.Blank
import TokenEcho.Text.DecimalDigit
import TokenEcho.Text.Letter

/-!
# The classes of characters are apart

No character is in two of the classes white space, letter and decimal digit, and the quote is in
none of them. The tables are long, so they are compared by one walk over both that never looks back.
-/

namespace TokenEcho.Text

/-- Whether no range of one list meets a range of another one. Of the two first ranges the lower one
is left behind. -/
def CharRange.apart : List CharRange → List CharRange → Bool
  | r :: rs, s :: ss =>
      if r.2 < s.1 then apart rs (s :: ss)
      else s.2 < r.1 && apart (r :: rs) ss
  | _, _ => true
termination_by rs ss => rs.length + ss.length

theorem CharRange.not_covers_of_apart {rs ss : List CharRange} (h : apart rs ss) {n : Nat}
    (hr : covers rs n) : ¬ covers ss n := by
  intro hs
  fun_induction apart rs ss with
  | case1 r rs s ss hlt ih =>
      have hs' := hs
      simp only [covers, Bool.and_eq_true, Bool.or_eq_true, decide_eq_true_eq] at hr hs'
      obtain ⟨-, hle | hr⟩ := hr
      · omega
      · exact ih h hr hs
  | case2 r rs s ss hlt ih =>
      have hr' := hr
      simp only [Bool.and_eq_true, decide_eq_true_eq] at h
      simp only [covers, Bool.and_eq_true, Bool.or_eq_true, decide_eq_true_eq] at hr' hs
      obtain ⟨-, hle | hs⟩ := hs
      · omega
      · exact ih h.2 hr hs
  | case3 rs ss hnil =>
      cases rs with
      | nil => simp [covers] at hr
      | cons r rs =>
          cases ss with
          | nil => simp [covers] at hs
          | cons s ss => exact hnil r rs s ss rfl rfl

theorem blank_apart_letter : CharRange.apart blankRanges letterRanges := by decide +kernel

theorem blank_apart_decimalDigit : CharRange.apart blankRanges decimalDigitRanges := by
  decide +kernel

theorem decimalDigit_apart_letter : CharRange.apart decimalDigitRanges letterRanges := by
  decide +kernel

theorem isLetter_eq_false_of_isBlank {c : Char} (h : isBlank c) : isLetter c = false :=
  Bool.eq_false_iff.2 (CharRange.not_covers_of_apart blank_apart_letter h)

theorem isDecimalDigit_eq_false_of_isBlank {c : Char} (h : isBlank c) : isDecimalDigit c = false :=
  Bool.eq_false_iff.2 (CharRange.not_covers_of_apart blank_apart_decimalDigit h)

theorem isLetter_eq_false_of_isDecimalDigit {c : Char} (h : isDecimalDigit c) :
    isLetter c = false :=
  Bool.eq_false_iff.2 (CharRange.not_covers_of_apart decimalDigit_apart_letter h)

theorem isBlank_eq_false_of_isLetter {c : Char} (h : isLetter c) : isBlank c = false := by
  apply Bool.eq_false_iff.2
  intro hb
  rw [isLetter_eq_false_of_isBlank hb] at h
  exact Bool.noConfusion h

theorem isBlank_eq_false_of_isDecimalDigit {c : Char} (h : isDecimalDigit c) :
    isBlank c = false := by
  apply Bool.eq_false_iff.2
  intro hb
  rw [isDecimalDigit_eq_false_of_isBlank hb] at h
  exact Bool.noConfusion h

@[simp] theorem isBlank_quote : isBlank '"' = false := by decide

@[simp] theorem isLetter_quote : isLetter '"' = false := by decide

@[simp] theorem isDecimalDigit_quote : isDecimalDigit '"' = false := by decide

end TokenEcho.Text
