import TokenEcho.Proofs.Source.Console

/-!
# The ends of typed lines

A line ends with a line feed, or with a carriage return and a line feed, and a carriage return that
has no line feed behind it is a character like any other. Reading keeps the characters of its lines
and nothing of their ends, with one exception. Of a last line that has no end at all it still takes
a carriage return away, and if there is nothing else in that line it is empty. So a text is read as
its lines say exactly if it does not come to such a line, `readTyped_encode_eq_normalText_iff`.
-/

namespace TokenEcho.Console

open Text

/-- What ends a line. Only the last one can do without. -/
inductive LineEnd where
  | feed
  | returnFeed
  | missing
deriving DecidableEq

def LineEnd.chars : LineEnd → List Char
  | feed => ['\n']
  | returnFeed => ['\r', '\n']
  | missing => []

/-- A line apart from what ends it. -/
structure TextLine where
  body : List Char
  ending : LineEnd
deriving DecidableEq

namespace TextLine

def chars (line : TextLine) : List Char := line.body ++ line.ending.chars

/-- The line with one carriage return less, if it has no end and its last character is one. -/
def trimmed (line : TextLine) : TextLine :=
  if line.ending = .missing then { line with body := dropLastIf '\r' line.body } else line

/-- The line keeps to its own characters: no end is a part of it. -/
structure Fits (line : TextLine) : Prop where
  noFeed : '\n' ∉ line.body
  noReturn : line.ending = .feed → line.body.getLast? ≠ some '\r'
  body_ne_nil : line.ending = .missing → line.body ≠ []

end TextLine

/-- The lines of a text. A carriage return belongs to an end only right before a line feed. -/
def linesOf : List Char → List TextLine
  | [] => []
  | '\n' :: rest => ⟨[], .feed⟩ :: linesOf rest
  | '\r' :: '\n' :: rest => ⟨[], .returnFeed⟩ :: linesOf rest
  | c :: rest =>
      match linesOf rest with
      | [] => [⟨[c], .missing⟩]
      | line :: lines => { line with body := c :: line.body } :: lines

/-- The lines as they are: their own characters up to the first line that has none, with a line feed
for each end. -/
def normalText (lines : List TextLine) : List Char := joinLines (lines.map TextLine.body)

/-! ### The lines of a text -/

theorem map_chars_linesOf (cs : List Char) :
    (linesOf cs).map TextLine.chars = splitAfter '\n' cs := by
  fun_induction linesOf cs with
  | case1 => rfl
  | case2 rest ih => rw [List.map_cons, ih, splitAfter, if_pos rfl]; rfl
  | case3 rest ih =>
      rw [List.map_cons, ih, splitAfter, if_neg (by decide), splitAfter, if_pos rfl]
      rfl
  | case4 c rest hfeed hreturn hlines ih =>
      rw [splitAfter, if_neg hfeed, ← ih, hlines]
      rfl
  | case5 c rest hfeed hreturn line lines hlines ih =>
      rw [splitAfter, if_neg hfeed, ← ih, hlines]
      rfl

theorem flatMap_chars_linesOf (cs : List Char) : (linesOf cs).flatMap TextLine.chars = cs := by
  rw [List.flatMap_def, map_chars_linesOf, flatten_splitAfter]

theorem fits_of_mem_linesOf {cs : List Char} : ∀ line ∈ linesOf cs, line.Fits := by
  fun_induction linesOf cs with
  | case1 => simp
  | case2 rest ih => exact List.forall_mem_cons.2 ⟨⟨by simp, by simp, nofun⟩, ih⟩
  | case3 rest ih => exact List.forall_mem_cons.2 ⟨⟨by simp, nofun, nofun⟩, ih⟩
  | case4 c rest hfeed hreturn hlines ih =>
      exact List.forall_mem_singleton.2 ⟨by simpa using Ne.symm hfeed, nofun, by simp⟩
  | case5 c rest hfeed hreturn line lines hlines ih =>
      rw [hlines, List.forall_mem_cons] at ih
      obtain ⟨hline, hlines'⟩ := ih
      refine List.forall_mem_cons.2 ⟨⟨?_, fun hending => ?_, by simp⟩, hlines'⟩
      · exact fun h => (List.mem_cons.1 h).elim (fun h => hfeed h.symm) hline.noFeed
      · cases hbody : line.body with
        | nil =>
            -- a carriage return right before a line feed would be a part of the end
            have hrest := flatMap_chars_linesOf rest
            rw [hlines, List.flatMap_cons, TextLine.chars, hbody, hending] at hrest
            intro hc
            exact hreturn _ (by simpa using hc) hrest.symm
        | cons d more =>
            have hnoReturn := hline.noReturn hending
            rw [hbody] at hnoReturn
            simpa using hnoReturn

theorem content_chars {line : TextLine} (h : line.Fits) :
    content line.chars = line.trimmed.body := by
  rw [content, TextLine.chars, TextLine.trimmed]
  cases hending : line.ending with
  | feed =>
      rw [if_neg nofun]
      exact (congrArg _ (dropLastIf_concat _)).trans
        (dropLastIf_of_getLast?_ne (h.noReturn hending))
  | returnFeed =>
      rw [if_neg nofun, show LineEnd.returnFeed.chars = ['\r'] ++ ['\n'] from rfl,
        ← List.append_assoc, dropLastIf_concat, dropLastIf_concat]
  | missing =>
      rw [if_pos rfl, show LineEnd.missing.chars = [] from rfl, List.append_nil,
        dropLastIf_of_not_mem h.noFeed]

theorem typedText_eq_normalText (cs : List Char) :
    typedText cs = normalText ((linesOf cs).map TextLine.trimmed) := by
  rw [typedText, normalText, ← map_chars_linesOf, List.map_map, List.map_map]
  congr 1
  exact List.map_congr_left fun line hline => content_chars (fits_of_mem_linesOf line hline)

/-! ### What is taken from a last line -/

namespace TextLine

theorem body_trimmed_prefix (line : TextLine) : line.trimmed.body <+: line.body := by
  rw [trimmed]
  split
  · exact dropLastIf_prefix_self _ _
  · exact List.prefix_refl _

theorem body_trimmed_eq_iff (line : TextLine) :
    line.trimmed.body = line.body ↔
      (line.ending = .missing → line.body.getLast? ≠ some '\r') := by
  rw [trimmed]
  split
  · next h => simp only [h, forall_true_left, dropLastIf_eq_self_iff]
  · next h => simp [h]

theorem length_body_trimmed_lt {line : TextLine} (h : line.trimmed.body ≠ line.body) :
    line.trimmed.body.length < line.body.length := by
  have hstart := line.body_trimmed_prefix
  exact Nat.lt_of_le_of_ne hstart.length_le fun hlength => h (hstart.eq_of_length hlength)

end TextLine

theorem normalText_cons (line : TextLine) (lines : List TextLine) :
    normalText (line :: lines) =
      if line.body = [] then [] else line.body ++ '\n' :: normalText lines := by
  rw [normalText, List.map_cons]
  split
  · next h => rw [h, joinLines_nil_cons]
  · next h => rw [joinLines_cons h, normalText]

theorem length_normalText_trimmed_le (lines : List TextLine) :
    (normalText (lines.map TextLine.trimmed)).length ≤ (normalText lines).length := by
  induction lines with
  | nil => exact Nat.le_refl _
  | cons line lines ih =>
      have hlength := line.body_trimmed_prefix.length_le
      rw [List.map_cons, normalText_cons, normalText_cons]
      by_cases htrimmed : line.trimmed.body = []
      · rw [if_pos htrimmed]
        exact Nat.zero_le _
      · have hbody : line.body ≠ [] := fun h => htrimmed (by simpa [h] using line.body_trimmed_prefix)
        rw [if_neg htrimmed, if_neg hbody]
        simp only [List.length_append, List.length_cons]
        omega

theorem normalText_trimmed_eq_iff (lines : List TextLine) :
    normalText (lines.map TextLine.trimmed) = normalText lines ↔
      ∀ line ∈ lines.takeWhile (·.body ≠ []), line.trimmed.body = line.body := by
  induction lines with
  | nil => simp
  | cons line lines ih =>
      rw [List.map_cons, normalText_cons, normalText_cons]
      by_cases hbody : line.body = []
      · have htrimmed : line.trimmed.body = [] := by
          simpa [hbody] using line.body_trimmed_prefix
        rw [if_pos hbody, if_pos htrimmed, List.takeWhile_cons_of_neg (by simpa using hbody)]
        simp
      · rw [if_neg hbody, List.takeWhile_cons_of_pos (by simpa using hbody), List.forall_mem_cons,
          ← ih]
        by_cases hsame : line.trimmed.body = line.body
        · rw [hsame, if_neg hbody]
          simp
        · -- what is gone from this line does not come back in the lines after it
          have hlt := TextLine.length_body_trimmed_lt hsame
          have hle := length_normalText_trimmed_le lines
          refine iff_of_false (fun h => ?_) fun h => hsame h.1
          have hlength := congrArg List.length h
          split at hlength <;>
            simp only [List.length_append, List.length_cons, List.length_nil] at hlength <;> omega

/-- **The ends of typed lines.** A text is its lines with their ends. Reading it gives the lines up
to the first empty one with a line feed for each end, once a last line without an end has lost the
carriage return at its end; and that is what the lines say exactly if reading comes to no last line
without an end that has a carriage return there. -/
theorem readTyped_encode_eq_normalText_iff (text : String) :
    (linesOf text.toList).flatMap TextLine.chars = text.toList ∧
    (readTyped (encode text)).1 =
      .ok (String.ofList (normalText ((linesOf text.toList).map TextLine.trimmed))) ∧
    ((readTyped (encode text)).1 = .ok (String.ofList (normalText (linesOf text.toList))) ↔
      ∀ line ∈ (linesOf text.toList).takeWhile (·.body ≠ []),
        line.ending = .missing → line.body.getLast? ≠ some '\r') := by
  refine ⟨flatMap_chars_linesOf _, ?_, ?_⟩
  · rw [readTyped_encode, typedText_eq_normalText]
  · rw [readTyped_encode, typedText_eq_normalText, Except.ok.injEq, String.ofList_inj,
      normalText_trimmed_eq_iff]
    simp only [TextLine.body_trimmed_eq_iff]

/-- A carriage return at the very end of an input is lost, with its line if it is all of it. -/
theorem readTyped_loses_last_return :
    linesOf "a\r".toList = [⟨['a', '\r'], .missing⟩] ∧
      String.ofList (normalText (linesOf "a\r".toList)) = "a\r\n" ∧
      (readTyped (encode "a\r")).1 = .ok "a\n" ∧
      linesOf "\r".toList = [⟨['\r'], .missing⟩] ∧
      String.ofList (normalText (linesOf "\r".toList)) = "\r\n" ∧
      (readTyped (encode "\r")).1 = .ok "" := by
  refine ⟨by decide, by decide, ?_, by decide, by decide, ?_⟩
  · decide +kernel
  · decide +kernel

end TokenEcho.Console
