import TokenEcho.Proofs.Source.Checked

/-!
# What has been read

A reader keeps one place in four forms: the text that is left, a byte offset, a line and a column.
After any calls they are forms of the same place. The invariant is `StandsBehind`, and nothing about
a single call is needed for it but that the call reads characters, `reaches_called`. A text can be
cut out of the source from every offset between characters up to the reader; from a place where the
reader has stood it is what has been read since.
-/

namespace TokenEcho

/-- The longest beginning of a text with all characters in a class. -/
structure LongestRun (p : Char → Bool) (cs run : List Char) : Prop where
  isPrefix : run <+: cs
  mem : ∀ c ∈ run, p c
  longest : ∀ other, other <+: cs → (∀ c ∈ other, p c) → other <+: run

namespace Reader

/-- What a reader can be asked for. -/
inductive Call where
  | peek
  | read
  | accept (expected : Char)
  | takeWhile (p : Char → Bool)

/-- The reader after a call. -/
def called (c : Reader) : Call → Reader
  | .peek => c
  | .read => c.read?.elim c Prod.snd
  | .accept expected => (c.accept expected).2
  | .takeWhile p => (c.takeWhile p).2

def calledAll (c : Reader) (calls : List Call) : Reader := calls.foldl called c

/-- A reader stands in a source behind a text, and all that it keeps agrees with this. -/
structure StandsBehind (c : Reader) (source file : String) (text : List Char) : Prop where
  file : c.file = file
  split : source.toList = text ++ c.rest
  position : c.position.Follows text
  boundary : Text.IsBoundary source.toList c.position.offset.toNat
  atEnd : c.atEnd ↔ c.position.offset.toNat = source.utf8ByteSize
  cuts : ∀ offset : UInt32, (c.textSince? offset).isSome ↔
    offset ≤ c.position.offset ∧ Text.IsBoundary source.toList offset.toNat

/-- What each call takes of the text that is left. -/
structure TakesRight (c : Reader) : Prop where
  read : c.rest = (c.read?.map Prod.fst).toList ++ (c.called .read).rest
  accepted : ∀ x, (c.accept x).1 = true → c.rest = x :: (c.called (.accept x)).rest
  refused : ∀ x, (c.accept x).1 = false → c.peek? ≠ some x ∧ c.called (.accept x) = c
  takeWhile : ∀ p, LongestRun p c.rest (c.takeWhile p).1 ∧
    c.rest = (c.takeWhile p).1 ++ (c.called (.takeWhile p)).rest

/-- A place where a reader has stood, and where it stands after some text: what is cut out of the
source between the two is this text. -/
structure CutsSince (c after : Reader) (source : String) (more : List Char) : Prop where
  text : after.textSince? c.position.offset = some (String.ofList more)
  span : (after.spanSince c.position).text? source = some (String.ofList more)

/-- What two places of a reader of one source have in common, the second one behind more calls. -/
def KeepsPlace (source file : String) (c after : Reader) : Prop :=
  ∃ text more, c.StandsBehind source file text ∧ after.StandsBehind source file (text ++ more) ∧
    after.TakesRight ∧ c.CutsSince after source more

variable {c after : Reader} {source file : String}

/-! ### One call -/

theorem reaches_called (c : Reader) (call : Call) : c.Reaches (c.called call) := by
  cases call with
  | peek => exact .refl
  | read =>
      rw [called]
      cases hread : c.read? with
      | none => exact .refl
      | some found => exact Reaches.refl.read hread
  | accept expected => exact c.reaches_accept expected
  | takeWhile p => exact c.reaches_takeWhile p

theorem longestRun_takeWhile (p : Char → Bool) (cs : List Char) :
    LongestRun p cs (cs.takeWhile p) where
  isPrefix := List.takeWhile_prefix p
  mem := fun _ hc => List.mem_takeWhile_imp hc
  longest := by
    rintro other ⟨rest, rfl⟩ hother
    rw [List.takeWhile_append_of_pos hother]
    exact List.prefix_append _ _

theorem takesRight (c : Reader) : c.TakesRight where
  read := by
    rw [called]
    cases hread : c.read? with
    | none =>
        exact (List.nil_append _).symm
    | some found => exact read?_eq_some hread
  accepted := by
    intro x h
    rw [called, accept_eq]
    rw [accept_eq] at h
    by_cases hpeek : c.peek? = some x
    · obtain ⟨rest, hrest⟩ := List.head?_eq_some_iff.1 hpeek
      rw [if_pos hpeek, hrest]
      rfl
    · rw [if_neg hpeek] at h
      cases h
  refused := by
    intro x h
    rw [called, accept_eq]
    rw [accept_eq] at h
    by_cases hpeek : c.peek? = some x
    · rw [if_pos hpeek] at h
      cases h
    · rw [if_neg hpeek]
      exact ⟨hpeek, rfl⟩
  takeWhile := fun p =>
    ⟨longestRun_takeWhile p c.rest, List.takeWhile_append_dropWhile.symm⟩

/-! ### Calls in a row -/

theorem reaches_calledAll (c : Reader) (calls : List Call) : c.Reaches (c.calledAll calls) := by
  induction calls generalizing c with
  | nil => exact .refl
  | cons call calls ih => exact (c.reaches_called call).trans (ih (c.called call))

theorem calledAll_append (c : Reader) (earlier later : List Call) :
    c.calledAll (earlier ++ later) = (c.calledAll earlier).calledAll later := List.foldl_append

theorem Reaches.exists_rest (h : c.Reaches after) : ∃ run, c.rest = run ++ after.rest := by
  induction h with
  | refl => exact ⟨[], rfl⟩
  | @read mid after x _ hread ih =>
      obtain ⟨run, hrun⟩ := ih
      refine ⟨run ++ [x], ?_⟩
      rw [hrun, read?_eq_some hread, List.append_assoc]
      rfl

theorem file_eq_of_reaches (h : c.Reaches after) : after.file = c.file := by
  induction h with
  | refl => rfl
  | read _ hread ih =>
      obtain ⟨rest, -, rfl⟩ := read?_eq_some_iff.1 hread
      exact ih

/-- A reader that has counted from the start of its source stands behind what it has counted. -/
theorem Counted.exists_standsBehind (h : c.Counted) (hsource : c.source = source.toList) :
    ∃ text, c.StandsBehind source c.file text := by
  obtain ⟨text, hsplit, hcount⟩ := h
  have hfollows := Position.follows_of_advanceAll? hcount
  rw [hsource] at hsplit
  have hboundary : Text.IsBoundary source.toList c.position.offset.toNat :=
    ⟨text, c.rest, hsplit, hfollows.offset.symm⟩
  refine ⟨text, rfl, hsplit, hfollows, hboundary, ?_, ?_⟩
  · rw [hfollows.offset, ← Text.byteLength_toList, hsplit, Text.byteLength_append, atEnd,
      List.isEmpty_iff, ← Text.byteLength_eq_zero_iff]
    omega
  · intro offset
    rw [textSince?, Option.isSome_map, hsource, Text.isSome_slice?_iff, UInt32.le_iff_toNat_le]
    exact and_congr_right fun _ => and_iff_left hboundary

/-- What a reader passes on the way between two places is cut out between them. -/
theorem cutsSince_of_split {earlier more : List Char} (hafter : after.source = source.toList)
    (hsplit : source.toList = earlier ++ (more ++ after.rest)) (hc : c.position.Follows earlier)
    (hposition : after.position.Follows (earlier ++ more)) : c.CutsSince after source more := by
  have hslice : Text.slice? source.toList c.position.offset.toNat after.position.offset.toNat =
      some more := by
    rw [hc.offset, hposition.offset, hsplit, Text.slice?_append]
  constructor
  · rw [textSince?, hafter, hslice]
    rfl
  · rw [spanSince, Span.text?, Span.range, hslice]
    rfl

section

variable (source file : String) (hsize : source.utf8ByteSize ≤ 2 ^ 32 - 2)
include hsize

theorem passes_calledAll (calls : List Call) :
    (ofSource source file).Passes ((ofSource source file).calledAll calls) :=
  (reaches_calledAll _ calls).passes (not_overflows_ofSource hsize file)

theorem exists_standsBehind_calledAll (calls : List Call) :
    ∃ text, ((ofSource source file).calledAll calls).StandsBehind source file text := by
  have hpasses := passes_calledAll source file hsize calls
  have hcounted := (counted_ofSource source file).of_passes hpasses
  have hstands := hcounted.exists_standsBehind hpasses.source
  rwa [file_eq_of_reaches (reaches_calledAll _ calls)] at hstands

/-- **What has been read.** After any calls the text that has been read and the text that is left
make the source, the position counts the first of them, and the next call takes of the second what
it should. From every place before, what has been read since can be cut out. -/
theorem keepsPlace_calledAll (earlier later : List Call) :
    KeepsPlace source file ((ofSource source file).calledAll earlier)
      ((ofSource source file).calledAll (earlier ++ later)) := by
  obtain ⟨text, htext⟩ := exists_standsBehind_calledAll source file hsize earlier
  obtain ⟨whole, hwhole⟩ := exists_standsBehind_calledAll source file hsize (earlier ++ later)
  have hpasses := passes_calledAll source file hsize (earlier ++ later)
  have hreaches := reaches_calledAll ((ofSource source file).calledAll earlier) later
  rw [← calledAll_append] at hreaches
  obtain ⟨more, hmore⟩ := hreaches.exists_rest
  have hsame := hwhole.split.symm.trans htext.split
  rw [hmore, ← List.append_assoc] at hsame
  obtain rfl := List.append_cancel_right hsame
  refine ⟨text, more, htext, hwhole, takesRight _, ?_⟩
  refine cutsSince_of_split hpasses.source ?_ htext.position hwhole.position
  rw [hwhole.split, List.append_assoc]

end

/-- Characters of two bytes and a line feed, with a look, a refusal and a run that is empty. -/
theorem keepsPlace_calledAll_of_lines :
    "é\n\"ü\" x".utf8ByteSize ≤ 2 ^ 32 - 2 ∧
      KeepsPlace "é\n\"ü\" x" "a.mig"
        ((ofSource "é\n\"ü\" x" "a.mig").calledAll [.peek, .accept 'é', .accept 'x'])
        ((ofSource "é\n\"ü\" x" "a.mig").calledAll ([.peek, .accept 'é', .accept 'x'] ++
          [.read, .takeWhile (· == 'x'), .takeWhile (· != ' ')])) :=
  ⟨by decide, keepsPlace_calledAll _ _ (by decide) _ _⟩

end Reader

end TokenEcho
