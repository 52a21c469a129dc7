import Mathlib.Data.List.DropRight
import TokenEcho.Proofs.Token.Grammar

/-!
# Numerals

A natural number is written as a run of decimal digits, so it is read back from a text as far as
digits go. What comes after a numeral, or before it, only has to be no digit.
-/

namespace TokenEcho

theorem isDigit_of_mem_repr {n : Nat} : ∀ c ∈ (Nat.repr n).toList, c.isDigit := by
  intro c hc
  rw [Nat.toList_repr] at hc
  exact Nat.isDigit_of_mem_toDigits (by decide) (by decide) hc

theorem ofDigitChars_repr (n : Nat) : Nat.ofDigitChars 10 (Nat.repr n).toList 0 = n := by
  rw [Nat.toList_repr, Nat.ofDigitChars_ten_toDigits]

theorem exists_repr_eq_cons (n : Nat) :
    ∃ digit more, (Nat.repr n).toList = digit :: more ∧ digit.isDigit := by
  have hne : (Nat.repr n).toList ≠ [] := by
    rw [Nat.toList_repr]
    exact Nat.toDigits_ne_nil
  obtain ⟨digit, more, hdigits⟩ := List.exists_cons_of_ne_nil hne
  exact ⟨digit, more, hdigits, isDigit_of_mem_repr digit (hdigits ▸ List.mem_cons_self)⟩

theorem repr_append_inj {m n : Nat} {xs ys : List Char} (hxs : Stops Char.isDigit xs)
    (hys : Stops Char.isDigit ys) (h : (Nat.repr m).toList ++ xs = (Nat.repr n).toList ++ ys) :
    m = n ∧ xs = ys := by
  obtain ⟨hsame, hrest⟩ := append_inj_of_stops isDigit_of_mem_repr hxs isDigit_of_mem_repr hys h
  have hvalue := congrArg (Nat.ofDigitChars 10 · 0) hsame
  simp only [ofDigitChars_repr] at hvalue
  exact ⟨hvalue, hrest⟩

/-! ### Runs at the end of a text -/

section

variable {p : Char → Bool} {before run : List Char} (hrun : ∀ c ∈ run, p c)
  (hbefore : ∀ c ∈ before.getLast?, p c = false)

include hrun hbefore

theorem rtakeWhile_append_of_getLast? : (before ++ run).rtakeWhile p = run := by
  have hstops : Stops p before.reverse := by rwa [Stops, List.head?_reverse]
  rw [List.rtakeWhile, List.reverse_append, takeWhile_append_of_stops (by simpa using hrun) hstops,
    List.reverse_reverse]

theorem rdropWhile_append_of_getLast? : (before ++ run).rdropWhile p = before := by
  have hstops : Stops p before.reverse := by rwa [Stops, List.head?_reverse]
  rw [List.rdropWhile, List.reverse_append, dropWhile_append_of_stops (by simpa using hrun) hstops,
    List.reverse_reverse]

end

end TokenEcho
