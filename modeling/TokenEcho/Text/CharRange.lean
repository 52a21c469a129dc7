/-!
# Character classes as ranges

A Unicode property is kept as the ascending list of the closed ranges of code points that have it.
-/

namespace TokenEcho.Text

/-- The first and the last code point of a run of characters. -/
abbrev CharRange := Nat × Nat

/-- Whether a code point lies in one of the ranges. They ascend, so the search stops at the first
range that begins past the code point. -/
def CharRange.covers : List CharRange → Nat → Bool
  | [], _ => false
  | (first, last) :: rest, n => first ≤ n && (n ≤ last || covers rest n)

def CharRange.Ascending : List CharRange → Prop
  | [] => True
  | [r] => r.1 ≤ r.2
  | r :: s :: rest => r.1 ≤ r.2 ∧ r.2 < s.1 ∧ Ascending (s :: rest)

instance CharRange.decidableAscending : (ranges : List CharRange) → Decidable (Ascending ranges)
  | [] => .isTrue trivial
  | [r] => inferInstanceAs (Decidable (r.1 ≤ r.2))
  | r :: s :: rest =>
      have := decidableAscending (s :: rest)
      inferInstanceAs (Decidable (r.1 ≤ r.2 ∧ r.2 < s.1 ∧ Ascending (s :: rest)))

theorem CharRange.Ascending.head_lt {ranges : List CharRange} {r : CharRange}
    (h : Ascending (r :: ranges)) : ∀ s ∈ ranges, r.2 < s.1 := by
  induction ranges generalizing r with
  | nil => simp
  | cons q rest ih =>
      intro s hs
      rcases List.mem_cons.1 hs with rfl | hs
      · exact h.2.1
      · have hq : q.1 ≤ q.2 := by
          cases rest with
          | nil => exact h.2.2
          | cons t rest => exact h.2.2.1
        exact Nat.lt_of_lt_of_le h.2.1 (Nat.le_trans hq (Nat.le_of_lt (ih h.2.2 s hs)))

theorem CharRange.Ascending.tail {ranges : List CharRange} {r : CharRange}
    (h : Ascending (r :: ranges)) : Ascending ranges := by
  cases ranges with
  | nil => trivial
  | cons s rest => exact h.2.2

theorem CharRange.covers_iff {ranges : List CharRange} (h : Ascending ranges) (n : Nat) :
    covers ranges n ↔ ∃ r ∈ ranges, r.1 ≤ n ∧ n ≤ r.2 := by
  induction ranges with
  | nil => simp [covers]
  | cons r rest ih =>
      have hrest := ih h.tail
      have hlt := h.head_lt
      have hr : r.1 ≤ r.2 := by
        cases rest with
        | nil => exact h
        | cons s rest => exact h.1
      simp only [covers, Bool.and_eq_true, Bool.or_eq_true, decide_eq_true_eq, hrest,
        List.mem_cons, exists_eq_or_imp]
      constructor
      · rintro ⟨hfirst, hlast | hlater⟩
        · exact .inl ⟨hfirst, hlast⟩
        · exact .inr hlater
      · rintro (⟨hfirst, hlast⟩ | ⟨s, hs, hin⟩)
        · exact ⟨hfirst, .inl hlast⟩
        · have := hlt s hs
          exact ⟨by omega, .inr ⟨s, hs, hin⟩⟩

end TokenEcho.Text
