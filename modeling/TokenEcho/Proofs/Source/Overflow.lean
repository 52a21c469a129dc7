import TokenEcho.Proofs.Source.Place

/-!
# Where the words of a position end

A position moves in words that wrap around. Here it moves in the same words, but a sum that does not
fit is no sum: `Position.advance?` is the step of a position that stops there. Up to two bytes below
the end of a word no step stops, `advanceAll?_start`, and one byte more is too much, since the
columns start at one: in a text of small characters on one line the offset still fits and the column
does not.
-/

namespace TokenEcho

/-- The sum of two words, if it is a word. -/
def addWords? (a b : UInt32) : Option UInt32 :=
  if a.toBitVec.uaddOverflow b.toBitVec then none else some (a + b)

theorem addWords?_eq_some_iff {a b c : UInt32} :
    addWords? a b = some c ↔ a.toNat + b.toNat < 2 ^ 32 ∧ c = a + b := by
  have hoverflow : a.toBitVec.uaddOverflow b.toBitVec = true ↔ 2 ^ 32 ≤ a.toNat + b.toNat :=
    decide_eq_true_iff
  rw [addWords?]
  split
  · next h =>
      have hle := hoverflow.1 h
      constructor
      · nofun
      · intro hlt
        omega
  · next h =>
      have hlt : a.toNat + b.toNat < 2 ^ 32 := Nat.lt_of_not_le fun hle => h (hoverflow.2 hle)
      rw [Option.some.injEq]
      exact ⟨fun heq => ⟨hlt, heq.symm⟩, fun heq => heq.2.symm⟩

theorem toNat_utf8Size (c : Char) : c.utf8Size.toUInt32.toNat = c.utf8Size := by
  have := c.utf8Size_le_four
  rw [Nat.toUInt32_eq, UInt32.toNat_ofNat']
  omega

namespace Position

/-- The place after one more character, unless a counter would overflow. -/
def advance? (p : Position) (c : Char) : Option Position := do
  let offset ← addWords? p.offset c.utf8Size.toUInt32
  if c = '\n' then
    let line ← addWords? p.line 1
    return { line, column := 1, offset }
  else
    let column ← addWords? p.column 1
    return { line := p.line, column, offset }

def advanceAll? (p : Position) (cs : List Char) : Option Position := cs.foldlM advance? p

variable {p q : Position} {c : Char}

theorem advance?_eq_some_iff : p.advance? c = some q ↔ p.HasRoom c ∧ q = p.advance c := by
  rw [advance?, advance]
  simp only [Option.bind_eq_bind, Option.bind_eq_some_iff, addWords?_eq_some_iff, toNat_utf8Size]
  by_cases hfeed : c = '\n'
  · simp only [if_pos hfeed, Option.bind_eq_some_iff, addWords?_eq_some_iff]
    constructor
    · rintro ⟨_, ⟨hoffset, rfl⟩, _, ⟨hline, rfl⟩, h⟩
      exact ⟨⟨hoffset, fun _ => hline, fun hne => absurd hfeed hne⟩, (Option.some.inj h).symm⟩
    · rintro ⟨hroom, rfl⟩
      exact ⟨_, ⟨hroom.offset, rfl⟩, _, ⟨hroom.line hfeed, rfl⟩, rfl⟩
  · simp only [if_neg hfeed, Option.bind_eq_some_iff, addWords?_eq_some_iff]
    constructor
    · rintro ⟨_, ⟨hoffset, rfl⟩, _, ⟨hcolumn, rfl⟩, h⟩
      exact ⟨⟨hoffset, fun heq => absurd heq hfeed, fun _ => hcolumn⟩, (Option.some.inj h).symm⟩
    · rintro ⟨hroom, rfl⟩
      exact ⟨_, ⟨hroom.offset, rfl⟩, _, ⟨hroom.column hfeed, rfl⟩, rfl⟩

theorem advanceAll?_append (p : Position) (xs ys : List Char) :
    p.advanceAll? (xs ++ ys) = (p.advanceAll? xs).bind (·.advanceAll? ys) :=
  List.foldlM_append

theorem advanceAll?_concat_eq_some_iff {cs : List Char} :
    p.advanceAll? (cs ++ [c]) = some q ↔
      ∃ mid, p.advanceAll? cs = some mid ∧ mid.HasRoom c ∧ q = mid.advance c := by
  have hlast : ∀ mid : Position, mid.advanceAll? [c] = mid.advance? c := fun mid => bind_pure _
  rw [advanceAll?_append, Option.bind_eq_some_iff]
  simp only [hlast, advance?_eq_some_iff]

theorem eq_advanceAll_of_advanceAll? {cs : List Char} (h : p.advanceAll? cs = some q) :
    q = p.advanceAll cs := by
  induction cs generalizing p with
  | nil => exact (Option.some.inj h).symm
  | cons c cs ih =>
      obtain ⟨next, hnext, h⟩ := Option.bind_eq_some_iff.1 h
      obtain ⟨-, rfl⟩ := advance?_eq_some_iff.1 hnext
      exact ih h

/-! ### From the start of a source -/

/-- A walk on which no counter overflows counts what it passes. -/
theorem follows_of_advanceAll? {cs : List Char} (h : start.advanceAll? cs = some p) :
    p.Follows cs := by
  induction cs using List.reverseRecOn generalizing p with
  | nil =>
      obtain rfl := Option.some.inj h
      exact follows_start
  | append_singleton cs c ih =>
      obtain ⟨mid, hmid, hroom, rfl⟩ := advanceAll?_concat_eq_some_iff.1 h
      exact (ih hmid).advance hroom

/-- No step over a text overflows if it has no more than two bytes below the end of a word. -/
theorem advanceAll?_start {cs : List Char} (hsize : Text.byteLength cs ≤ 2 ^ 32 - 2) :
    start.advanceAll? cs = some (start.advanceAll cs) := by
  induction cs using List.reverseRecOn with
  | nil => rfl
  | append_singleton cs c ih =>
      have hcs : Text.byteLength cs ≤ 2 ^ 32 - 2 := by
        rw [Text.byteLength_append] at hsize
        omega
      have hroom := (follows_advanceAll hcs).hasRoom hsize
      rw [advanceAll_append]
      exact advanceAll?_concat_eq_some_iff.2 ⟨_, ih hcs, hroom, rfl⟩

end Position

namespace Text

theorem count_add_length_lastLine_le (cs : List Char) :
    cs.count '\n' + (lastLine cs).length ≤ cs.length := by
  induction cs using List.reverseRecOn with
  | nil => exact Nat.le_refl _
  | append_singleton cs c ih =>
      have hcount := List.count_le_length (a := '\n') (l := cs)
      rw [List.count_append, List.count_singleton, List.length_append, List.length_singleton]
      by_cases hc : c = '\n'
      · subst hc
        rw [lastLine_concat_lineFeed, if_pos (beq_self_eq_true _), List.length_nil]
        omega
      · rw [lastLine_concat_of_ne cs hc, if_neg (by simpa using hc), List.length_append,
          List.length_singleton]
        omega

/-- A text of one-byte characters on one line. -/
def IsFlat (cs : List Char) : Prop := ∀ c ∈ cs, c ≠ '\n' ∧ c.utf8Size = 1

theorem IsFlat.byteLength_eq {cs : List Char} (h : IsFlat cs) : byteLength cs = cs.length := by
  induction cs with
  | nil => rfl
  | cons c cs ih =>
      obtain ⟨hc, hcs⟩ := List.forall_mem_cons.1 h
      rw [byteLength_cons, List.length_cons, ih hcs, hc.2, Nat.add_comm]

theorem IsFlat.lastLine_eq {cs : List Char} (h : IsFlat cs) : lastLine cs = cs := by
  have hfeed : '\n' ∉ cs := fun hmem => (h _ hmem).1 rfl
  have := lastLine_append [] cs
  rwa [if_neg hfeed] at this

end Text

namespace Position

/-- In a flat text as long as the largest word, the last column is too large, and the offset is
not. -/
theorem column_full_of_isFlat {cs : List Char} {c : Char} (hflat : Text.IsFlat (cs ++ [c]))
    (hsize : Text.byteLength (cs ++ [c]) = 2 ^ 32 - 1) :
    (start.advanceAll cs).column.toNat + 1 = 2 ^ 32 ∧
      (start.advanceAll cs).offset.toNat + c.utf8Size < 2 ^ 32 := by
  have hcs : Text.IsFlat cs := fun d hd => hflat d (List.mem_append_left _ hd)
  have hc : c.utf8Size = 1 := (hflat c (List.mem_append_right _ (List.mem_singleton_self c))).2
  rw [Text.byteLength_append, Text.byteLength_cons, Text.byteLength_nil, hc] at hsize
  have hfits : Text.byteLength cs ≤ 2 ^ 32 - 2 := by omega
  have hfollows := follows_advanceAll hfits
  rw [hfollows.column, hfollows.offset, hcs.lastLine_eq, hc, ← hcs.byteLength_eq]
  omega

theorem advanceAll?_start_of_isFlat {cs : List Char} (hflat : Text.IsFlat cs)
    (hsize : Text.byteLength cs = 2 ^ 32 - 1) : start.advanceAll? cs = none := by
  obtain rfl | ⟨before, c, rfl⟩ := List.eq_nil_or_concat' cs
  · cases hsize
  · have hfull := (column_full_of_isFlat hflat hsize).1
    have hfeed : c ≠ '\n' := (hflat c (List.mem_append_right _ (List.mem_singleton_self c))).1
    rw [Option.eq_none_iff_forall_ne_some]
    intro q hq
    obtain ⟨mid, hmid, hroom, -⟩ := advanceAll?_concat_eq_some_iff.1 hq
    obtain rfl := eq_advanceAll_of_advanceAll? hmid
    have hlast := hroom.column hfeed
    omega

end Position

end TokenEcho
