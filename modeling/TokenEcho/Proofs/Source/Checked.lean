import TokenEcho.Proofs.Source.Overflow
import TokenEcho.Proofs.Steps
import TokenEcho.Source.Reader

/-!
# Reading with checks

A reader moves in words that wrap around. Here it moves in the same words and stops at a sum that
does not fit, and a text is cut out of the source only where both offsets fall between characters.
These are the two faults there can be, and for a reader that has counted from the start of its
source the second one cannot happen, `cutChecked_of_passes`. What an operation does is one of two
things, `Checks`: it finds what the operation without checks finds, or the counters do not last to
the end of the source.
-/

namespace TokenEcho

/-- What ends a run with checks. -/
inductive Fault where
  | overflow
  | slice
deriving DecidableEq

namespace Reader

def readChecked (c : Reader) : Except Fault (Option (Char × Reader)) :=
  match c.rest with
  | [] => .ok none
  | x :: rest =>
      match c.position.advance? x with
      | some position => .ok (some (x, { c with rest, position }))
      | none => .error .overflow

def acceptChecked (c : Reader) (expected : Char) : Except Fault (Bool × Reader) := do
  if c.peek? = some expected then
    match ← c.readChecked with
    | some (_, after) => return (true, after)
    | none => return (false, c)
  else return (false, c)

def takeWhileChecked (c : Reader) (p : Char → Bool) : Except Fault Reader :=
  match c.position.advanceAll? (c.rest.takeWhile p) with
  | some position => .ok { c with rest := c.rest.dropWhile p, position }
  | none => .error .overflow

def cutChecked (c : Reader) (start : UInt32) : Except Fault String :=
  match c.textSince? start with
  | some text => .ok text
  | none => .error .slice

/-- A reader comes to be another one by reading characters. -/
inductive Reaches (c : Reader) : Reader → Prop where
  | refl : Reaches c c
  | read {mid after : Reader} {x : Char} (h : Reaches c mid) (hread : mid.read? = some (x, after)) :
      Reaches c after

/-- A reader comes to another one over characters on which no counter overflows. -/
structure Passes (c after : Reader) : Prop where
  source : after.source = c.source
  across : ∃ run, c.rest = run ++ after.rest ∧ c.position.advanceAll? run = some after.position

/-- Some counter overflows before the end of the source. -/
def Overflows (c : Reader) : Prop := c.position.advanceAll? c.rest = none

instance (c : Reader) : Decidable c.Overflows :=
  inferInstanceAs (Decidable (c.position.advanceAll? c.rest = none))

/-- What an operation with checks can do that finds something and comes to a reader without them. -/
inductive Checks {α : Type} (c after : Reader) (found : α) : Except Fault α → Prop where
  | passes (h : c.Passes after) : Checks c after found (.ok found)
  | overflows (h : c.Overflows) : Checks c after found (.error .overflow)

variable {α β : Type} {c mid after : Reader} {x : Char} {run rest : List Char}

/-! ### The walk of a reader -/

theorem read?_eq_some_iff : c.read? = some (x, after) ↔
    ∃ rest, c.rest = x :: rest ∧ after = { c with rest, position := c.position.advance x } := by
  unfold read?
  constructor
  · intro hread
    split at hread
    · cases hread
    · next y rest hrest =>
        cases hread
        exact ⟨rest, hrest, rfl⟩
  · rintro ⟨rest, hrest, rfl⟩
    rw [hrest]

theorem Reaches.trans (hmid : c.Reaches mid) (h : mid.Reaches after) :
    c.Reaches after := by
  induction h with
  | refl => exact hmid
  | read _ hread ih => exact ih.read hread

/-- A reader reaches the end of any run that comes next. -/
theorem reaches_of_append (hrest : c.rest = run ++ rest) :
    c.Reaches { c with rest, position := c.position.advanceAll run } := by
  induction run generalizing c with
  | nil =>
      obtain rfl : c.rest = rest := hrest
      exact .refl
  | cons x run ih =>
      let next : Reader := { c with rest := run ++ rest, position := c.position.advance x }
      have hread : c.read? = some (x, next) := read?_eq_some_iff.2 ⟨_, hrest, rfl⟩
      exact (Reaches.refl.read hread).trans (ih (c := next) rfl)

theorem reaches_takeWhile (c : Reader) (p : Char → Bool) : c.Reaches (c.takeWhile p).2 :=
  reaches_of_append (List.takeWhile_append_dropWhile (p := p) (l := c.rest)).symm

theorem reaches_accept (c : Reader) (expected : Char) : c.Reaches (c.accept expected).2 := by
  unfold accept
  split
  · next x after hread =>
      split
      · exact Reaches.refl.read hread
      · exact .refl
  · exact .refl

/-! ### Operations in a row -/

theorem Passes.refl (c : Reader) : c.Passes c := ⟨rfl, [], rfl, rfl⟩

theorem Passes.trans (h : c.Passes mid) (h' : mid.Passes after) : c.Passes after := by
  obtain ⟨hsource, run, hrun, hposition⟩ := h
  obtain ⟨hsource', run', hrun', hposition'⟩ := h'
  refine ⟨hsource'.trans hsource, run ++ run', ?_, ?_⟩
  · rw [hrun, hrun', List.append_assoc]
  · rw [Position.advanceAll?_append, hposition]
    exact hposition'

theorem Passes.length_rest_le (h : c.Passes after) : after.rest.length ≤ c.rest.length := by
  obtain ⟨-, run, hrun, -⟩ := h
  rw [hrun, List.length_append]
  exact Nat.le_add_left _ _

theorem Passes.overflows_iff (h : c.Passes after) : c.Overflows ↔ after.Overflows := by
  obtain ⟨-, run, hrun, hposition⟩ := h
  rw [Overflows, hrun, Position.advanceAll?_append, hposition]
  rfl

theorem passes_of_hasRoom (hread : c.read? = some (x, after)) (hroom : c.position.HasRoom x) :
    c.Passes after := by
  obtain ⟨rest, hrest, rfl⟩ := read?_eq_some_iff.1 hread
  exact ⟨rfl, [x], hrest, (bind_pure _).trans (Position.advance?_eq_some_iff.2 ⟨hroom, rfl⟩)⟩

theorem hasRoom_of_read (hread : c.read? = some (x, after)) (hfits : ¬ c.Overflows) :
    c.position.HasRoom x := by
  obtain ⟨rest, hrest, -⟩ := read?_eq_some_iff.1 hread
  obtain ⟨position, hposition⟩ := Option.ne_none_iff_exists'.1 hfits
  rw [hrest] at hposition
  obtain ⟨next, hnext, -⟩ := Option.bind_eq_some_iff.1 hposition
  exact (Position.advance?_eq_some_iff.1 hnext).1

/-- All reading is over characters without overflow if there is none before the end. -/
theorem Reaches.passes (h : c.Reaches after) (hfits : ¬ c.Overflows) : c.Passes after := by
  induction h with
  | refl => exact .refl c
  | read _ hread ih =>
      have hmid := mt ih.overflows_iff.2 hfits
      exact ih.trans (passes_of_hasRoom hread (hasRoom_of_read hread hmid))

theorem Checks.eq_ok {found : α} {r : Except Fault α} (h : c.Checks after found r)
    (hfits : ¬ c.Overflows) : r = .ok found := by
  cases h with
  | passes => rfl
  | overflows hover => exact absurd hover hfits

theorem Checks.of_ok {found found' : α} {r : Except Fault α} (h : c.Checks after found r)
    (hok : r = .ok found') : found = found' ∧ c.Passes after := by
  cases h with
  | passes hpasses => exact ⟨Except.ok.inj hok, hpasses⟩
  | overflows => cases hok

theorem Checks.bind {found : α} {found' : β} {r : Except Fault α} {k : α → Except Fault β}
    (h : c.Checks mid found r) (hk : c.Passes mid → mid.Checks after found' (k found)) :
    c.Checks after found' (r >>= k) := by
  cases h with
  | overflows hover => exact .overflows hover
  | passes hmid =>
      have hnext := hk hmid
      change c.Checks after found' (k found)
      generalize k found = r at hnext ⊢
      cases hnext with
      | passes hafter => exact .passes (hmid.trans hafter)
      | overflows hover => exact .overflows (hmid.overflows_iff.2 hover)

/-! ### The operations -/

theorem checks_read (c : Reader) : c.Checks (c.read?.elim c Prod.snd) c.read? c.readChecked := by
  unfold readChecked
  cases hrest : c.rest with
  | nil =>
      have hread : c.read? = none := by rw [read?, hrest]
      rw [hread]
      exact .passes (.refl c)
  | cons x rest =>
      have hread := read?_eq_some_iff.2 ⟨rest, hrest, rfl⟩
      rw [hread]
      dsimp only
      cases hx : c.position.advance? x with
      | none =>
          apply Checks.overflows
          rw [Overflows, hrest]
          exact Option.bind_eq_none_iff.2 fun q hq => absurd (hx.symm.trans hq) nofun
      | some position =>
          obtain ⟨hroom, rfl⟩ := Position.advance?_eq_some_iff.1 hx
          exact .passes (passes_of_hasRoom hread hroom)

theorem checks_takeWhile (c : Reader) (p : Char → Bool) :
    c.Checks (c.takeWhile p).2 (c.takeWhile p).2 (c.takeWhileChecked p) := by
  have hsplit : c.rest = c.rest.takeWhile p ++ c.rest.dropWhile p :=
    List.takeWhile_append_dropWhile.symm
  unfold takeWhileChecked
  cases hrun : c.position.advanceAll? (c.rest.takeWhile p) with
  | none =>
      apply Checks.overflows
      rw [Overflows, hsplit, Position.advanceAll?_append, hrun]
      rfl
  | some position =>
      obtain rfl := Position.eq_advanceAll_of_advanceAll? hrun
      exact .passes ⟨rfl, _, hsplit, hrun⟩

theorem accept_eq (c : Reader) (x : Char) :
    c.accept x =
      if c.peek? = some x then
        (true, { c with rest := c.rest.tail, position := c.position.advance x })
      else (false, c) := by
  rw [accept, read?, peek?]
  cases c.rest with
  | nil => rfl
  | cons y rest =>
      rw [List.head?_cons]
      by_cases hy : y = x
      · rw [if_pos (congrArg some hy), ← hy]
        exact if_pos rfl
      · rw [if_neg fun h => hy (Option.some.inj h)]
        exact if_neg hy

theorem checks_accept (c : Reader) (x : Char) :
    c.Checks (c.accept x).2 (c.accept x) (c.acceptChecked x) := by
  unfold acceptChecked
  rw [accept_eq]
  by_cases hpeek : c.peek? = some x
  · obtain ⟨rest, hrest⟩ := List.head?_eq_some_iff.1 hpeek
    have hchecks := c.checks_read
    rw [read?_eq_some_iff.2 ⟨rest, hrest, rfl⟩] at hchecks
    rw [if_pos hpeek, if_pos hpeek, hrest]
    exact hchecks.bind fun _ => .passes (.refl _)
  · rw [if_neg hpeek, if_neg hpeek]
    exact .passes (.refl c)

/-! ### Cutting texts out -/

/-- A reader that has come from the start of its source. -/
def Counted (c : Reader) : Prop :=
  ∃ before, c.source = before ++ c.rest ∧ Position.start.advanceAll? before = some c.position

theorem counted_ofSource (source file : String) : (ofSource source file).Counted :=
  ⟨[], rfl, rfl⟩

theorem not_overflows_ofSource {source : String} (hsize : source.utf8ByteSize ≤ 2 ^ 32 - 2)
    (file : String) : ¬ (ofSource source file).Overflows := by
  rw [← Text.byteLength_toList] at hsize
  intro hover
  have hfits := Position.advanceAll?_start hsize
  rw [Overflows] at hover
  cases hover.symm.trans hfits

theorem Counted.of_passes (h : c.Counted) (hpasses : c.Passes after) : after.Counted := by
  obtain ⟨before, hsource, hbefore⟩ := h
  obtain ⟨hsame, run, hrun, hposition⟩ := hpasses
  refine ⟨before ++ run, ?_, ?_⟩
  · rw [hsame, hsource, hrun, List.append_assoc]
  · rw [Position.advanceAll?_append, hbefore]
    exact hposition

/-- Lines and columns are no more than the characters that have been read, and these no more than
their bytes. -/
theorem Counted.counts (h : c.Counted) :
    ∃ before, c.source = before ++ c.rest ∧
      c.position.line.toNat + c.position.column.toNat - 2 ≤ before.length ∧
      before.length ≤ c.position.offset.toNat ∧
      c.position.offset.toNat ≤ Text.byteLength c.source := by
  obtain ⟨before, hsource, hbefore⟩ := h
  have hfollows := Position.follows_of_advanceAll? hbefore
  have hlast := Text.count_add_length_lastLine_le before
  refine ⟨before, hsource, ?_, ?_, ?_⟩
  · rw [hfollows.line, hfollows.column]
    omega
  · rw [hfollows.offset]
    exact Text.length_le_byteLength before
  · rw [hfollows.offset, hsource, Text.byteLength_append]
    exact Nat.le_add_right _ _

/-- What a counted reader has passed can be cut out of the source. -/
theorem cutChecked_of_passes (h : c.Counted) (hpasses : c.Passes after)
    (hrest : c.rest = run ++ after.rest) :
    after.cutChecked c.position.offset = .ok (String.ofList run) := by
  obtain ⟨before, hsource, hbefore⟩ := h
  obtain ⟨hsame, passed, hpassed, hposition⟩ := hpasses
  obtain rfl : passed = run := List.append_cancel_right (hpassed.symm.trans hrest)
  have hafter : Position.start.advanceAll? (before ++ passed) = some after.position := by
    rw [Position.advanceAll?_append, hbefore]
    exact hposition
  have htext : after.textSince? c.position.offset = some (String.ofList passed) := by
    rw [textSince?, (Position.follows_of_advanceAll? hbefore).offset,
      (Position.follows_of_advanceAll? hafter).offset, hsame, hsource, hrest,
      Text.slice?_append]
    rfl
  rw [cutChecked, htext]

end Reader

end TokenEcho
