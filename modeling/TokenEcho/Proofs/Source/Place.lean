import Mathlib.Algebra.Group.Nat.Defs
import Mathlib.Data.List.DropRight
import TokenEcho.Proofs.Text.Slice
import TokenEcho.Source.Place

/-!
# Places are counts

A position is kept in words of 32 bits and moves one character at a time. `Position.Follows` says in
natural numbers what it counts of the text before it, and `Position.follows_advanceAll` is that a
walk from the start of a source counts this, as long as the source has no more bytes than fit. The
bound is one less than the largest word, since lines and columns start at one.
-/

namespace TokenEcho

namespace Text

/-- The characters of a text after its last line feed. -/
def lastLine (cs : List Char) : List Char := cs.rtakeWhile (· != '\n')

@[simp] theorem lastLine_nil : lastLine [] = [] := rfl

theorem lastLine_concat_lineFeed (cs : List Char) : lastLine (cs ++ ['\n']) = [] :=
  List.rtakeWhile_concat_neg _ _ _ (by decide)

theorem lastLine_concat_of_ne (cs : List Char) {c : Char} (h : c ≠ '\n') :
    lastLine (cs ++ [c]) = lastLine cs ++ [c] :=
  List.rtakeWhile_concat_pos _ _ _ (by simpa using h)

theorem lastLine_append (xs ys : List Char) :
    lastLine (xs ++ ys) = if '\n' ∈ ys then lastLine ys else lastLine xs ++ ys := by
  induction ys using List.reverseRecOn with
  | nil => simp
  | append_singleton ys c ih =>
      rw [← List.append_assoc]
      by_cases hc : c = '\n'
      · subst hc
        rw [lastLine_concat_lineFeed, lastLine_concat_lineFeed, if_pos (by simp)]
      · rw [lastLine_concat_of_ne _ hc, lastLine_concat_of_ne _ hc, ih]
        by_cases hys : '\n' ∈ ys
        · rw [if_pos hys, if_pos (List.mem_append_left _ hys)]
        · have hnot : '\n' ∉ ys ++ [c] := by
            simp only [List.mem_append, List.mem_singleton, not_or]
            exact ⟨hys, fun h => hc h.symm⟩
          rw [if_neg hys, if_neg hnot, List.append_assoc]

theorem lastLine_of_not_mem {cs : List Char} (h : '\n' ∉ cs) : lastLine cs = cs := by
  simpa [h] using lastLine_append [] cs

theorem lastLine_append_lineFeed (xs ys : List Char) :
    lastLine (xs ++ '\n' :: ys) = lastLine ys := by
  rw [List.append_cons, lastLine_append, lastLine_concat_lineFeed, List.nil_append]
  split
  · rfl
  · next h => exact (lastLine_of_not_mem h).symm

theorem length_lastLine_le (cs : List Char) : (lastLine cs).length ≤ cs.length :=
  (List.rtakeWhile_suffix _ _).length_le

end Text

namespace Position

/-- The place after a text that stands at the start of a source. -/
structure Follows (p : Position) (before : List Char) : Prop where
  line : p.line.toNat = 1 + before.count '\n'
  column : p.column.toNat = 1 + (Text.lastLine before).length
  offset : p.offset.toNat = Text.byteLength before

theorem follows_start : start.Follows [] := ⟨rfl, rfl, rfl⟩

/-- No counter overflows in the step over a character. -/
structure HasRoom (p : Position) (c : Char) : Prop where
  offset : p.offset.toNat + c.utf8Size < 2 ^ 32
  line : c = '\n' → p.line.toNat + 1 < 2 ^ 32
  column : c ≠ '\n' → p.column.toNat + 1 < 2 ^ 32

section

variable {p : Position} {before : List Char} {c : Char}

theorem Follows.hasRoom (h : p.Follows before)
    (hsize : Text.byteLength (before ++ [c]) ≤ 2 ^ 32 - 2) : p.HasRoom c := by
  have hlength := Text.length_le_byteLength (before ++ [c])
  have hcount := List.count_le_length (a := '\n') (l := before)
  have hlast := Text.length_lastLine_le before
  simp only [List.length_append, List.length_singleton, Text.byteLength_append,
    Text.byteLength_cons, Text.byteLength_nil, Nat.add_zero] at hsize hlength
  refine ⟨?_, fun _ => ?_, fun _ => ?_⟩
  · rw [h.offset]
    omega
  · rw [h.line]
    omega
  · rw [h.column]
    omega

theorem Follows.advance (h : p.Follows before) (hroom : p.HasRoom c) :
    (p.advance c).Follows (before ++ [c]) := by
  have hoffset : (p.offset + c.utf8Size.toUInt32).toNat = Text.byteLength (before ++ [c]) := by
    have := hroom.offset
    have := h.offset
    simp only [UInt32.toNat_add, Nat.toUInt32_eq, UInt32.toNat_ofNat', Text.byteLength_append,
      Text.byteLength_cons, Text.byteLength_nil]
    omega
  by_cases hfeed : c = '\n'
  · have hlast := hroom.line hfeed
    subst hfeed
    rw [Position.advance, if_pos rfl]
    refine ⟨?_, ?_, hoffset⟩
    · have := h.line
      simp only [UInt32.toNat_add, List.count_append, List.count_singleton_self]
      simp only [UInt32.reduceToNat]
      omega
    · rw [Text.lastLine_concat_lineFeed]
      rfl
  · have hlast := hroom.column hfeed
    rw [Position.advance, if_neg hfeed]
    refine ⟨?_, ?_, hoffset⟩
    · rw [List.count_append, List.count_singleton, if_neg (by simpa using hfeed)]
      exact h.line
    · have := h.column
      rw [Text.lastLine_concat_of_ne _ hfeed, List.length_append, List.length_singleton]
      simp only [UInt32.toNat_add, UInt32.reduceToNat]
      omega

end

/-- A walk from the start of a source counts what it passes. -/
theorem follows_advanceAll {cs : List Char} (hsize : Text.byteLength cs ≤ 2 ^ 32 - 2) :
    (start.advanceAll cs).Follows cs := by
  induction cs using List.reverseRecOn with
  | nil => exact follows_start
  | append_singleton cs c ih =>
      have hcs : Text.byteLength cs ≤ 2 ^ 32 - 2 := by
        rw [Text.byteLength_append] at hsize
        omega
      rw [advanceAll_append]
      exact (ih hcs).advance ((ih hcs).hasRoom hsize)

/-- Without a bound on the source an offset counts bytes up to multiples of the words. -/
theorem toNat_offset_advanceAll (p : Position) (cs : List Char) :
    (p.advanceAll cs).offset.toNat = (p.offset.toNat + Text.byteLength cs) % 2 ^ 32 := by
  induction cs generalizing p with
  | nil => exact (Nat.mod_eq_of_lt p.offset.toNat_lt).symm
  | cons c cs ih =>
      have hoffset : (p.advance c).offset = p.offset + c.utf8Size.toUInt32 := by
        rw [advance]
        split <;> rfl
      rw [advanceAll_cons, ih, hoffset, UInt32.toNat_add, Nat.toUInt32_eq, UInt32.toNat_ofNat',
        Text.byteLength_cons]
      omega

end Position

end TokenEcho
