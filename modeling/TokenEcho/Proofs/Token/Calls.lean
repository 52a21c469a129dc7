import Mathlib.Data.List.ReduceOption
import TokenEcho.Proofs.Token.Quotes

/-!
# Any order of calls

A lexer can be asked for one token after another, its mode can be changed in between, and what is
left can be read in one go. The tokens are the same in any order, since the mode never moves the
reader; and a string that is left open is reported in the mode of the call that reads it, since only
that call adds to the bag. Both follow from what one call does to a lexer that stands before a well
cut text, `Lexer.Before`.
-/

namespace TokenEcho.Lexer

/-- What a lexer can be asked for before the rest is read in one go. -/
inductive Call where
  | next
  | mode (strict : Bool)

/-- Makes calls one after another, and keeps the answers to those for a token. -/
def perform (l : Lexer) : List Call → List (Option Token) × Lexer
  | [] => ([], l)
  | .next :: calls => (l.next.1 :: (l.next.2.perform calls).1, (l.next.2.perform calls).2)
  | .mode strict :: calls => (l.withStrict strict).perform calls

/-- The mode in which the token at an index is read. As many calls for a token come before the one
that finds it; if there are no more of them, it is left to the end and read in the last mode. -/
def modeAt (strict : Bool) : List Call → Nat → Bool
  | [], _ => strict
  | .mode strict :: calls, k => modeAt strict calls k
  | .next :: _, 0 => strict
  | .next :: calls, k + 1 => modeAt strict calls k

/-- Calls and what is left behind them agree with reading the source in one go, and for a typed
source with asking for one token after another until there is none. -/
structure Agrees (source file : String) (calls : List Call) (answers : List (Option Token))
    (left : Lexer) : Prop where
  tokens : answers.reduceOption ++ left.tokenize.1 = (ofSource source file).tokenize.1
  console : file = consoleName → answers.reduceOption ++ left.tokenize.1 = TokenEcho.tokenize source
  exhausted : ∀ k : Nat, answers[k]? = some none →
    (∀ j, k ≤ j → j < answers.length → answers[j]? = some none) ∧ left.tokenize.1 = []
  reported : source.toList.count '"' % 2 = 1 →
    modeAt false calls ((ofSource source file).tokenize.1.length - 1) = true →
      ∃ t, (ofSource source file).tokenize.1.getLast? = some t ∧
        left.tokenize.2.diagnostics = [unterminatedString t.span]
  silent : ¬ (source.toList.count '"' % 2 = 1 ∧
    modeAt false calls ((ofSource source file).tokenize.1.length - 1) = true) →
      left.tokenize.2.diagnostics = []

/-! ### One call -/

/-- A lexer that has read a text and stands before the spellings that come next. -/
structure Before (l : Lexer) (read : List Char) (segments : List Segment) (tail : List Char) :
    Prop where
  cut : WellCut segments tail
  rest : l.reader.rest = spell segments tail
  position : l.reader.position = Position.start.advanceAll read

variable {l : Lexer} {read tail : List Char} {segments : List Segment} {s : Segment}

theorem Before.withStrict (h : l.Before read segments tail) (strict : Bool) :
    (l.withStrict strict).Before read segments tail := ⟨h.cut, h.rest, h.position⟩

theorem Before.next_cons (h : l.Before read (s :: segments) tail) :
    l.next = (some (Placed.token l.reader.file ⟨read ++ s.gap, s.spelling⟩),
      l.past ⟨read ++ s.gap, s.spelling⟩ (spell segments tail)) := by
  obtain ⟨hgap, hfits, -⟩ := h.cut
  apply next_of_fits hgap hfits
  · rw [h.rest, spell_cons]
  · rw [h.position]
    exact Position.advanceAll_append _ _ _

theorem Before.past (h : l.Before read (s :: segments) tail) :
    (l.past ⟨read ++ s.gap, s.spelling⟩ (spell segments tail)).Before (read ++ s.text) segments
      tail where
  cut := h.cut.2.2
  rest := rfl
  position := by
    rw [Lexer.past, Placed.stop, Segment.text, List.append_assoc]

theorem Before.next_nil (h : l.Before read [] tail) :
    l.next.1 = none ∧ l.next.2.Before (read ++ tail) [] [] ∧
      l.next.2.reader.file = l.reader.file ∧ l.next.2.strict = l.strict ∧
      l.next.2.bag = l.bag := by
  have hblank : IsBlankText l.reader.rest := by
    rw [h.rest]
    exact h.cut
  rw [next_of_blank hblank]
  refine ⟨rfl, ⟨List.forall_mem_nil _, rfl, ?_⟩, rfl, rfl, rfl⟩
  rw [h.position, h.rest, Position.advanceAll_append]
  rfl

theorem Before.tokenize (h : l.Before read segments tail) :
    l.tokenize = ((placed read segments).map (Placed.token l.reader.file),
      ⟨l.bag.diagnostics ++
        (placed read segments).flatMap (Placed.reports l.reader.file l.strict)⟩) :=
  collect_of_wellCut h.cut read h.rest h.position []

/-! ### Calls in a row -/

/-- The calls for a token find the first ones and then nothing any more, and what is left has those
after them. -/
theorem Before.exists_perform (h : l.Before read segments tail) (calls : List Call) :
    ∃ first later n,
      (placed read segments).map (Placed.token l.reader.file) = first ++ later ∧
      (l.perform calls).1 = first.map some ++ List.replicate n none ∧
      (l.perform calls).2.tokenize.1 = later ∧ (n ≠ 0 → later = []) := by
  induction calls generalizing l read segments tail with
  | nil => exact ⟨[], _, 0, rfl, rfl, congrArg Prod.fst h.tokenize, fun hn => absurd rfl hn⟩
  | cons call calls ih =>
      cases call with
      | mode strict => exact ih (h.withStrict strict)
      | next =>
          cases segments with
          | nil =>
              obtain ⟨hnone, hleft, -⟩ := h.next_nil
              obtain ⟨first, later, n, htokens, hanswers, hlater, -⟩ := ih hleft
              obtain ⟨rfl, rfl⟩ := List.append_eq_nil_iff.1 htokens.symm
              refine ⟨[], [], n + 1, rfl, ?_, hlater, fun _ => rfl⟩
              rw [perform, hnone, hanswers]
              rfl
          | cons s segments =>
              obtain ⟨first, later, n, htokens, hanswers, hlater, hdone⟩ := ih h.past
              rw [perform, h.next_cons]
              refine ⟨_ :: first, later, n, ?_, congrArg (_ :: ·) hanswers, hlater, hdone⟩
              rw [List.cons_append, ← htokens]
              rfl

/-- What calls in a row report, each spelling in the mode of the call that reads it. -/
theorem Before.diagnostics_perform (h : l.Before read segments tail) (calls : List Call) :
    (l.perform calls).2.tokenize.2.diagnostics = l.bag.diagnostics ++
      (placed read segments).zipIdx.flatMap fun pk =>
        pk.1.reports l.reader.file (modeAt l.strict calls pk.2) := by
  induction calls generalizing l read segments tail with
  | nil =>
      rw [perform, h.tokenize]
      simp only [modeAt]
      rw [← List.flatMap_map Prod.fst, List.zipIdx_map_fst]
  | cons call calls ih =>
      cases call with
      | mode strict => exact ih (h.withStrict strict)
      | next =>
          cases segments with
          | nil =>
              obtain ⟨-, hleft, -, -, hbag⟩ := h.next_nil
              rw [perform, ih hleft, hbag]
              rfl
          | cons s segments =>
              rw [perform, h.next_cons, ih h.past, placed, List.zipIdx_cons, List.flatMap_cons,
                List.zipIdx_succ, List.flatMap_map]
              exact List.append_assoc _ _ _

/-! ### A source and its calls -/

theorem before_ofSource {source : String} (hcut : WellCut segments tail)
    (hsource : source.toList = spell segments tail) (file : String) :
    (ofSource source file).Before [] segments tail := ⟨hcut, hsource, rfl⟩

theorem exists_answers (source file : String) (calls : List Call) :
    ∃ first later n, (ofSource source file).tokenize.1 = first ++ later ∧
      ((ofSource source file).perform calls).1 = first.map some ++ List.replicate n none ∧
      ((ofSource source file).perform calls).2.tokenize.1 = later ∧ (n ≠ 0 → later = []) := by
  obtain ⟨segments, tail, hsource, hcut⟩ := exists_wellCut source.toList
  have h := before_ofSource hcut hsource.symm file
  rw [h.tokenize]
  exact h.exists_perform calls

theorem reduceOption_answers {α : Type} (first : List α) (n : Nat) :
    (first.map some ++ List.replicate n none).reduceOption = first := by
  rw [List.reduceOption_append, List.reduceOption_replicate_none, List.append_nil]
  simp [List.reduceOption, List.filterMap_map]

theorem length_le_of_getElem?_answers {α : Type} {first : List α} {n k : Nat}
    (h : (first.map some ++ List.replicate n none)[k]? = some none) :
    first.length ≤ k ∧ k - first.length < n := by
  rw [List.getElem?_append] at h
  split at h
  · simp at h
  · next hk =>
      rw [List.length_map] at hk h
      rw [List.getElem?_replicate] at h
      split at h
      · next hlt => exact ⟨Nat.le_of_not_lt hk, hlt⟩
      · cases h

theorem getElem?_answers {α : Type} {first : List α} {n k : Nat} (hk : first.length ≤ k)
    (hlt : k < (first.map some ++ List.replicate n none).length) :
    (first.map some ++ List.replicate n none)[k]? = some none := by
  rw [List.length_append, List.length_map, List.length_replicate] at hlt
  rw [List.getElem?_append_right (by rwa [List.length_map]), List.length_map,
    List.getElem?_replicate, if_pos (by omega)]

theorem flatMap_zipIdx_reports_of_closed {ps : List Placed}
    (hclosed : ∀ p ∈ ps, p.spelling.isOpen = false) (file : String) (mode : Nat → Bool) :
    ps.zipIdx.flatMap (fun pk => pk.1.reports file (mode pk.2)) = [] := by
  apply List.flatMap_eq_nil_iff.2
  intro pk hpk
  exact Placed.reports_of_isOpen_eq_false (hclosed _ (List.fst_mem_of_mem_zipIdx hpk)) _ _

theorem flatMap_zipIdx_reports_concat {ps : List Placed}
    (hclosed : ∀ p ∈ ps, p.spelling.isOpen = false) (p : Placed) (file : String)
    (mode : Nat → Bool) :
    (ps ++ [p]).zipIdx.flatMap (fun pk => pk.1.reports file (mode pk.2)) =
      p.reports file (mode ps.length) := by
  rw [List.zipIdx_append, List.flatMap_append, flatMap_zipIdx_reports_of_closed hclosed,
    List.nil_append, Nat.zero_add]
  exact List.append_nil _

theorem diagnostics_perform_of_even {source : String} (heven : source.toList.count '"' % 2 = 0)
    (file : String) (calls : List Call) :
    ((ofSource source file).perform calls).2.tokenize.2.diagnostics = [] := by
  obtain ⟨segments, tail, hsource, hcut⟩ := exists_wellCut source.toList
  rcases hcut.closed_or_open with ⟨hclosed, -⟩ | ⟨_, _, _, _, _, _, _, hodd⟩
  · rw [(before_ofSource hcut hsource.symm file).diagnostics_perform,
      flatMap_zipIdx_reports_of_closed fun p hp => isOpen_eq_false_of_mem_placed hclosed hp]
    rfl
  · rw [hsource] at hodd
    omega

/-- The last token of a source with an odd number of quotes is all that there can be to report, and
the mode in which it is read decides. -/
theorem diagnostics_perform_of_odd {source : String} (hodd : source.toList.count '"' % 2 = 1)
    (file : String) (calls : List Call) :
    ∃ t, (ofSource source file).tokenize.1.getLast? = some t ∧
      ((ofSource source file).perform calls).2.tokenize.2.diagnostics =
        if modeAt false calls ((ofSource source file).tokenize.1.length - 1) then
          [unterminatedString t.span] else [] := by
  obtain ⟨segments, tail, hsource, hcut⟩ := exists_wellCut source.toList
  rw [← hsource] at hodd
  obtain ⟨ps, p, hplaced, hclosed, hopen⟩ := hcut.exists_placed_of_odd hodd
  have h := before_ofSource hcut hsource.symm file
  have htokens : (ofSource source file).tokenize.1 = (ps ++ [p]).map (Placed.token file) := by
    rw [h.tokenize, hplaced]
    rfl
  have hlength : ((ps ++ [p]).map (Placed.token file)).length - 1 = ps.length := by simp
  refine ⟨p.token file, ?_, ?_⟩
  · rw [htokens, List.map_append]
    exact List.getLast?_concat
  · rw [h.diagnostics_perform, hplaced, flatMap_zipIdx_reports_concat hclosed, htokens, hlength,
      Placed.reports, hopen, Bool.and_true]
    rfl

/-- **Any order of calls.** However the calls for tokens and the changes of the mode are mixed, they
find the tokens of the source, and what is left has the others. A string that is left open is
reported if the mode is strict when it is read. -/
theorem agrees_perform (source file : String) (calls : List Call) :
    Agrees source file calls ((ofSource source file).perform calls).1
      ((ofSource source file).perform calls).2 := by
  obtain ⟨first, later, n, hsplit, hanswers, hlater, hdone⟩ := exists_answers source file calls
  have htokens : ((ofSource source file).perform calls).1.reduceOption ++
      ((ofSource source file).perform calls).2.tokenize.1 =
        (ofSource source file).tokenize.1 := by
    rw [hanswers, reduceOption_answers, hlater, hsplit]
  refine ⟨htokens, ?_, ?_, ?_, ?_⟩
  · rintro rfl
    rw [htokens, tokenize_eq]
  · rw [hanswers, hlater]
    intro k hk
    obtain ⟨hle, hlt⟩ := length_le_of_getElem?_answers hk
    exact ⟨fun j hj hjlt => getElem?_answers (hle.trans hj) hjlt, hdone (by omega)⟩
  · intro hodd hmode
    obtain ⟨t, ht, hdiagnostics⟩ := diagnostics_perform_of_odd hodd file calls
    rw [if_pos hmode] at hdiagnostics
    exact ⟨t, ht, hdiagnostics⟩
  · intro hnot
    by_cases hodd : source.toList.count '"' % 2 = 1
    · obtain ⟨t, -, hdiagnostics⟩ := diagnostics_perform_of_odd hodd file calls
      rw [hdiagnostics, if_neg fun hmode => hnot ⟨hodd, hmode⟩]
    · exact diagnostics_perform_of_even (by omega) file calls

end TokenEcho.Lexer
