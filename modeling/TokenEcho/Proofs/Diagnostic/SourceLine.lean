import TokenEcho.Diagnostic.SourceLine
import TokenEcho.Proofs.Source.Place
import TokenEcho.Proofs.Token.Grammar

/-!
# Lines as a report counts them

A report cuts its source at ends of its own: at every vertical blank, and once at a carriage return
with a line feed. `unifyEnds` writes a line feed for each of these, and then the line of a place is
what counting line feeds gives, `exists_locate?_linesFrom`. Ends without a line feed are counted by
`foreignEnds`, and without them the report counts as the source does.
-/

namespace TokenEcho.SourceLine

open Text

/-- A text with a line feed in place of each end of a line in a report. -/
def unifyEnds : List Char → List Char
  | [] => []
  | '\r' :: '\n' :: rest => '\n' :: unifyEnds rest
  | c :: rest => (if isLineEnd c then '\n' else c) :: unifyEnds rest

/-- The number of ends of lines in a report that have no line feed. -/
def foreignEnds : List Char → Nat
  | [] => 0
  | '\r' :: '\n' :: rest => foreignEnds rest
  | c :: rest => (if isLineEnd c && c != '\n' then 1 else 0) + foreignEnds rest

def HasNoEnd (cs : List Char) : Prop := ∀ c ∈ cs, isLineEnd c = false

/-- What ends a line right before the given rest. -/
inductive EndsBefore : List Char → List Char → Prop
  | pair (rest : List Char) : EndsBefore ['\r', '\n'] rest
  | single {c : Char} {rest : List Char} (hc : isLineEnd c)
      (hrest : c = '\r' → rest.head? ≠ some '\n') : EndsBefore [c] rest

/-! ### Ends -/

theorem unifyEnds_cons {c : Char} {rest : List Char} (h : c = '\r' → rest.head? ≠ some '\n') :
    unifyEnds (c :: rest) = (if isLineEnd c then '\n' else c) :: unifyEnds rest := by
  rw [unifyEnds]
  rintro rest' rfl rfl
  exact h rfl rfl

theorem HasNoEnd.lineFeed_not_mem {cs : List Char} (h : HasNoEnd cs) : '\n' ∉ cs := fun hmem =>
  Bool.noConfusion (h _ hmem)

theorem unifyEnds_append {body : List Char} (hbody : HasNoEnd body) (rest : List Char) :
    unifyEnds (body ++ rest) = body ++ unifyEnds rest := by
  induction body with
  | nil => rfl
  | cons c body ih =>
      obtain ⟨hc, hbody⟩ := List.forall_mem_cons.1 hbody
      have hreturn : c ≠ '\r' := by
        rintro rfl
        exact Bool.noConfusion hc
      rw [List.cons_append, unifyEnds_cons (absurd · hreturn), ih hbody, hc]
      rfl

theorem unifyEnds_of_hasNoEnd {body : List Char} (h : HasNoEnd body) : unifyEnds body = body := by
  simpa [unifyEnds] using unifyEnds_append h []

theorem EndsBefore.unifyEnds {ending rest : List Char} (h : EndsBefore ending rest) :
    unifyEnds (ending ++ rest) = '\n' :: SourceLine.unifyEnds rest := by
  cases h with
  | pair => rfl
  | single hc hrest => rw [List.singleton_append, unifyEnds_cons hrest, if_pos hc]

theorem EndsBefore.append {ending rest : List Char} (h : EndsBefore ending rest)
    {more : List Char} (hmore : more.head? ≠ some '\n') : EndsBefore ending (rest ++ more) := by
  cases h with
  | pair => exact .pair _
  | single hc hrest =>
      refine .single hc fun hreturn => ?_
      cases rest with
      | nil => exact hmore
      | cons d rest => exact hrest hreturn

theorem exists_endsBefore (cs : List Char) :
    HasNoEnd cs ∨ ∃ body ending rest, cs = body ++ (ending ++ rest) ∧ HasNoEnd body ∧
      EndsBefore ending rest := by
  have hbody : HasNoEnd (cs.takeWhile (!isLineEnd ·)) := fun c hc => by
    simpa using List.mem_takeWhile_imp hc
  have hsplit := List.takeWhile_append_dropWhile (p := (!isLineEnd ·)) (l := cs)
  have hstop := stops_dropWhile (!isLineEnd ·) cs
  cases hrest : cs.dropWhile (!isLineEnd ·) with
  | nil =>
      rw [hrest, List.append_nil] at hsplit
      rw [hsplit] at hbody
      exact .inl hbody
  | cons c rest =>
      rw [hrest, stops_cons, Bool.not_eq_false'] at hstop
      rw [hrest] at hsplit
      by_cases hpair : c = '\r' → rest.head? ≠ some '\n'
      · exact .inr ⟨_, [c], rest, hsplit.symm, hbody, .single hstop hpair⟩
      · rw [Classical.not_imp, not_not] at hpair
        obtain ⟨rfl, hhead⟩ := hpair
        obtain ⟨rest, rfl⟩ := List.head?_eq_some_iff.1 hhead
        exact .inr ⟨_, ['\r', '\n'], rest, hsplit.symm, hbody, .pair rest⟩

theorem count_unifyEnds (cs : List Char) :
    (unifyEnds cs).count '\n' = cs.count '\n' + foreignEnds cs := by
  fun_induction unifyEnds cs with
  | case1 => rfl
  | case2 rest ih =>
      rw [foreignEnds, List.count_cons_self, ih,
        List.count_cons_of_ne (by decide), List.count_cons_self]
      omega
  | case3 c rest hpair ih =>
      rw [foreignEnds.eq_3 _ _ hpair, List.count_cons, List.count_cons, ih]
      by_cases hfeed : c = '\n'
      · subst hfeed
        simp [isLineEnd]
        omega
      · cases isLineEnd c with
        | false => simp [hfeed]
        | true =>
            simp [hfeed]
            omega

theorem lineFeed_mem_unifyEnds_iff {cs : List Char} (h : foreignEnds cs = 0) :
    '\n' ∈ unifyEnds cs ↔ '\n' ∈ cs := by
  rw [← List.count_pos_iff, ← List.count_pos_iff, count_unifyEnds, h, Nat.add_zero]

theorem lastLine_cons_congr {xs ys : List Char} (hmem : '\n' ∈ xs ↔ '\n' ∈ ys)
    (hlast : lastLine xs = lastLine ys) (c : Char) : lastLine (c :: xs) = lastLine (c :: ys) := by
  rw [← List.singleton_append, ← List.singleton_append (l := ys), lastLine_append, lastLine_append]
  by_cases h : '\n' ∈ xs
  · rw [if_pos h, if_pos (hmem.1 h), hlast]
  · have hys := hmem.not.1 h
    rw [lastLine_of_not_mem h, lastLine_of_not_mem hys] at hlast
    rw [if_neg h, if_neg hys, hlast]

theorem lastLine_unifyEnds {cs : List Char} (h : foreignEnds cs = 0) :
    lastLine (unifyEnds cs) = lastLine cs := by
  fun_induction unifyEnds cs with
  | case1 => rfl
  | case2 rest ih =>
      rw [foreignEnds] at h
      have hunified := lastLine_append_lineFeed [] (unifyEnds rest)
      have hplain := lastLine_append_lineFeed ['\r'] rest
      exact hunified.trans ((ih h).trans hplain.symm)
  | case3 c rest hpair ih =>
      rw [foreignEnds.eq_3 _ _ hpair, Nat.add_eq_zero_iff] at h
      have hsame : (if isLineEnd c then '\n' else c) = c := by
        by_cases hfeed : c = '\n'
        · rw [hfeed, if_pos (by decide)]
        · have hend : isLineEnd c = false := by simpa [hfeed] using h.1
          rw [hend, if_neg Bool.false_ne_true]
      rw [hsame]
      exact lastLine_cons_congr (lineFeed_mem_unifyEnds_iff h.2) (ih h.2) c

/-! ### Lines -/

theorem splitFirst_append {body ending rest : List Char} (hbody : HasNoEnd body)
    (h : EndsBefore ending rest) :
    splitFirst (body ++ (ending ++ rest)) = (body ++ ending, rest) := by
  have hrun : ∀ c ∈ body, (!isLineEnd c) = true := by simpa [HasNoEnd] using hbody
  cases h with
  | pair =>
      have hstop : Stops (!isLineEnd ·) (['\r', '\n'] ++ rest) := stops_cons.2 rfl
      rw [splitFirst, takeWhile_append_of_stops hrun hstop, dropWhile_append_of_stops hrun hstop]
      rfl
  | @single c _ hc hrest =>
      have hstop : Stops (!isLineEnd ·) ([c] ++ rest) := stops_cons.2 (by simpa using hc)
      rw [splitFirst, takeWhile_append_of_stops hrun hstop, dropWhile_append_of_stops hrun hstop]
      dsimp only [List.singleton_append]
      split
      · next heq => cases heq
      · next rest' heq =>
          obtain ⟨rfl, rfl⟩ := List.cons.inj heq
          exact absurd rfl (hrest rfl)
      · next heq =>
          obtain ⟨rfl, rfl⟩ := List.cons.inj heq
          rfl

theorem takeWhile_prefix_splitFirst (cs : List Char) :
    cs.takeWhile (!isLineEnd ·) <+: (splitFirst cs).1 := by
  unfold splitFirst
  dsimp only
  split
  · exact List.prefix_refl _
  · exact List.prefix_append _ _
  · exact List.prefix_append _ _

theorem length_lt_splitFirst {before : List Char} (hbefore : HasNoEnd before) {c : Char}
    (hc : isLineEnd c = false) (after : List Char) :
    before.length < (splitFirst (before ++ c :: after)).1.length := by
  have hlength := (takeWhile_prefix_splitFirst (before ++ c :: after)).length_le
  have hrun : ∀ d ∈ before, (!isLineEnd d) = true := by simpa [HasNoEnd] using hbefore
  rw [List.takeWhile_append_of_pos hrun, List.takeWhile_cons_of_pos (by simpa using hc),
    List.length_append, List.length_cons] at hlength
  omega

theorem linesFrom_of_ne_nil (number start : Nat) {cs : List Char} (h : cs ≠ []) :
    linesFrom number start cs =
      ⟨number, start, (splitFirst cs).1⟩ ::
        linesFrom (number + 1) (start + (splitFirst cs).1.length) (splitFirst cs).2 := by
  rw [linesFrom, dif_neg h]

theorem locate?_linesFrom_of_lt {place start : Nat} (h : place < start) (number : Nat)
    (cs : List Char) : locate? (linesFrom number start cs) place = none := by
  by_cases hne : cs = []
  · rw [linesFrom, dif_pos hne]
    rfl
  · rw [linesFrom_of_ne_nil _ _ hne, locate?, List.takeWhile_cons_of_neg (by simpa using h)]
    rfl

theorem locate?_cons {line : SourceLine} {place : Nat} (h : line.start ≤ place)
    (rest : List SourceLine) :
    locate? (line :: rest) place = some ((locate? rest place).getD line) := by
  rw [locate?, List.takeWhile_cons_of_pos (by simpa using h), List.getLast?_cons, locate?]

theorem exists_locate?_linesOf {cs : List Char} (hne : cs ≠ []) (place : Nat) :
    ∃ line, locate? (linesOf cs) place = some line := by
  rw [linesOf, linesFrom_of_ne_nil _ _ hne, locate?_cons (Nat.zero_le place)]
  exact ⟨_, rfl⟩

/-- A character with no end before it is in the first line, which goes on to it, so that the lines
after it start too late. -/
theorem locate?_linesFrom_of_hasNoEnd (number start : Nat) {before : List Char}
    (hbefore : HasNoEnd before) {c : Char} (hc : isLineEnd c = false) (after : List Char) :
    locate? (linesFrom number start (before ++ c :: after)) (start + before.length) =
      some ⟨number, start, (splitFirst (before ++ c :: after)).1⟩ := by
  have hne : before ++ c :: after ≠ [] :=
    List.append_ne_nil_of_right_ne_nil _ (List.cons_ne_nil _ _)
  have hlate := Nat.add_lt_add_left (length_lt_splitFirst hbefore hc after) start
  rw [linesFrom_of_ne_nil _ _ hne, locate?_cons (Nat.le_add_right _ _),
    locate?_linesFrom_of_lt hlate]
  rfl

/-- What is found in the lines after the first one is found in all of them. -/
theorem locate?_linesFrom_append (number start : Nat) {body ending rest : List Char}
    (hbody : HasNoEnd body) (hending : EndsBefore ending rest) {place : Nat} (h : start ≤ place)
    {line : SourceLine}
    (hline : locate? (linesFrom (number + 1) (start + (body ++ ending).length) rest) place =
      some line) :
    locate? (linesFrom number start (body ++ (ending ++ rest))) place = some line := by
  have hne : body ++ (ending ++ rest) ≠ [] := by
    cases hending <;> simp
  rw [linesFrom_of_ne_nil _ _ hne, locate?_cons h, splitFirst_append hbody hending, hline]
  rfl

/-- The line with the given character, and where in the line it is. -/
theorem exists_locate?_linesFrom (number start : Nat) (before : List Char) {c : Char}
    (hc : isLineEnd c = false) (after : List Char) :
    ∃ line, locate? (linesFrom number start (before ++ c :: after)) (start + before.length) =
        some line ∧
      line.number = number + (unifyEnds before).count '\n' ∧
      line.start + (lastLine (unifyEnds before)).length = start + before.length := by
  rcases exists_endsBefore before with hbefore | ⟨body, ending, rest, rfl, hbody, hending⟩
  · refine ⟨_, locate?_linesFrom_of_hasNoEnd number start hbefore hc after, ?_, ?_⟩
    · rw [unifyEnds_of_hasNoEnd hbefore, List.count_eq_zero.2 hbefore.lineFeed_not_mem]
      rfl
    · rw [unifyEnds_of_hasNoEnd hbefore, lastLine_of_not_mem hbefore.lineFeed_not_mem]
  · have hfeed : (c :: after).head? ≠ some '\n' := by
      intro h
      rw [List.head?_cons, Option.some.injEq] at h
      rw [h] at hc
      exact Bool.noConfusion hc
    have hdecreasing : rest.length < (body ++ (ending ++ rest)).length := by
      cases hending <;> simp <;> omega
    have hplace : start + (body ++ (ending ++ rest)).length =
        start + (body ++ ending).length + rest.length := by
      simp only [List.length_append]
      omega
    obtain ⟨line, hline, hnumber, hlast⟩ :=
      exists_locate?_linesFrom (number + 1) (start + (body ++ ending).length) rest hc after
    rw [← hplace] at hline hlast
    refine ⟨line, ?_, ?_, ?_⟩
    · rw [List.append_assoc, List.append_assoc]
      exact locate?_linesFrom_append number start hbody (hending.append hfeed)
        (Nat.le_add_right _ _) hline
    · rw [hnumber, unifyEnds_append hbody, hending.unifyEnds, List.count_append,
        List.count_cons_self, List.count_eq_zero.2 hbody.lineFeed_not_mem]
      omega
    · rw [unifyEnds_append hbody, hending.unifyEnds, lastLine_append_lineFeed, hlast]
termination_by before.length

end TokenEcho.SourceLine
