import Mathlib.Data.List.TakeWhile
import TokenEcho.Proofs.Text.Lines
import TokenEcho.Source.Console

/-!
# What a typed source comes to

The reader takes line after line off its input and decodes each as it comes to it. Seen as a whole,
the input is cut into lines at once, and the source is made of those before the first empty one. The
two agree because a line is empty in its bytes exactly if it is in its characters,
`contentBytes_of_decode?`, and a line that is no text is never empty. What comes after the empty
line cannot matter, since the lines up to it are cut off where its line feed is,
`readsTyped_readTyped`.
-/

namespace TokenEcho.Console

open Text

def carriageReturn : UInt8 := 13

/-- The lines of an input, each with the line feed that ends it; the last one may have none. -/
def rawLines (input : List UInt8) : List (List UInt8) := splitAfter lineFeed input

/-- A line without its line feed, and then without a carriage return at its end. -/
def contentBytes (line : List UInt8) : List UInt8 :=
  dropLastIf carriageReturn (dropLastIf lineFeed line)

/-- The lines before the first one that is empty. -/
def keptLines (input : List UInt8) : List (List UInt8) :=
  (rawLines input).takeWhile (contentBytes · ≠ [])

/-- The first line that is empty. -/
def emptyLine? (input : List UInt8) : Option (List UInt8) :=
  (rawLines input).find? (contentBytes · = [])

/-- The input up to the end of the first empty line. -/
def takenBytes (input : List UInt8) : List UInt8 :=
  (keptLines input ++ (emptyLine? input).toList).flatten

/-- What reading an input has come to, and what it has left. It fails if a line before the first
empty one is no text, and else it takes the input up to that line. -/
structure ReadsTyped (input : List UInt8) (run : Except IoError String × List UInt8) : Prop where
  fails : (∃ line ∈ keptLines input, decode? line = none) → run.1 = .error .notUtf8
  reads : (∀ line ∈ keptLines input, (decode? line).isSome) →
    ∃ source, run.1 = .ok source ∧
      encode source = (keptLines input).flatMap (contentBytes · ++ [lineFeed]) ∧
      input = takenBytes input ++ run.2

/-! ### One line -/

theorem utf8EncodeChar_lineFeed : String.utf8EncodeChar '\n' = [lineFeed] := by decide

theorem utf8EncodeChar_carriageReturn : String.utf8EncodeChar '\r' = [carriageReturn] := by decide

theorem stripLast_eq_dropLastIf (last : Char) (cs : List Char) :
    stripLast last cs = dropLastIf last cs := rfl

theorem contentBytes_bytesOf (cs : List Char) :
    contentBytes (bytesOf cs) = bytesOf (dropLastIf '\r' (dropLastIf '\n' cs)) := by
  rw [contentBytes, dropLastIf_bytesOf utf8EncodeChar_lineFeed,
    dropLastIf_bytesOf utf8EncodeChar_carriageReturn]

theorem contentBytes_of_decode? {line : List UInt8} {text : String} (h : decode? line = some text) :
    contentBytes line = bytesOf (lineContent text) := by
  rw [decode?_eq_some_iff.1 h, encode_eq_bytesOf, contentBytes_bytesOf, lineContent,
    stripLast_eq_dropLastIf, stripLast_eq_dropLastIf]

theorem exists_of_contentBytes_eq_nil {line : List UInt8} (h : contentBytes line = []) :
    ∃ cs, line = bytesOf cs := by
  -- a line is what is left of it and one of four ends, each of them text
  have hbody := eq_or_eq_concat_dropLastIf carriageReturn (dropLastIf lineFeed line)
  have hline := eq_or_eq_concat_dropLastIf lineFeed line
  rw [show dropLastIf carriageReturn (dropLastIf lineFeed line) = [] from h] at hbody
  rcases hbody with hbody | hbody <;> rw [hbody] at hline <;> rcases hline with rfl | rfl
  · exact ⟨[], rfl⟩
  · exact ⟨['\n'], rfl⟩
  · exact ⟨['\r'], rfl⟩
  · exact ⟨['\r', '\n'], rfl⟩

/-- An empty line holds nothing but what ends lines, and that is text. -/
theorem contentBytes_ne_nil_of_decode? {line : List UInt8} (h : decode? line = none) :
    contentBytes line ≠ [] := by
  intro hempty
  obtain ⟨cs, rfl⟩ := exists_of_contentBytes_eq_nil hempty
  have hsome := isSome_decode?_bytesOf cs
  rw [h] at hsome
  cases hsome

theorem splitLine_of_not_mem {body : List UInt8} (h : lineFeed ∉ body) :
    splitLine body = (body, []) := by
  have hrest : body.dropWhile (· != lineFeed) = [] :=
    List.dropWhile_eq_nil_iff.2 fun b hb => bne_iff_ne.2 fun heq => h (heq ▸ hb)
  rw [splitLine, hrest]

theorem splitLine_append_lineFeed {body : List UInt8} (h : lineFeed ∉ body) (rest : List UInt8) :
    splitLine (body ++ lineFeed :: rest) = (body ++ [lineFeed], rest) := by
  have hbody : ∀ b ∈ body, (b != lineFeed) = true :=
    fun b hb => bne_iff_ne.2 fun heq => h (heq ▸ hb)
  rw [splitLine, List.dropWhile_append_of_pos hbody, List.takeWhile_append_of_pos hbody,
    List.dropWhile_cons_of_neg (by simp), List.takeWhile_cons_of_neg (by simp), List.append_nil]

/-- Taking a line off an input is taking the first of its pieces. -/
theorem splitLine_spec {input : List UInt8} (h : input ≠ []) :
    rawLines input = (splitLine input).1 :: rawLines (splitLine input).2 ∧
      input = (splitLine input).1 ++ (splitLine input).2 := by
  by_cases hfeed : lineFeed ∈ input
  · obtain ⟨body, rest, rfl, hbody⟩ := List.eq_append_cons_of_mem hfeed
    rw [splitLine_append_lineFeed hbody]
    exact ⟨splitAfter_append_mark hbody rest, List.append_cons _ _ _⟩
  · rw [splitLine_of_not_mem hfeed]
    exact ⟨splitAfter_of_not_mem hfeed h, (List.append_nil _).symm⟩

section

variable {input : List UInt8} (hinput : input ≠ [])

include hinput

theorem keptLines_of_empty (h : contentBytes (splitLine input).1 = []) : keptLines input = [] := by
  rw [keptLines, (splitLine_spec hinput).1, List.takeWhile_cons_of_neg (by simpa using h)]

theorem keptLines_of_content (h : contentBytes (splitLine input).1 ≠ []) :
    keptLines input = (splitLine input).1 :: keptLines (splitLine input).2 := by
  rw [keptLines, (splitLine_spec hinput).1, List.takeWhile_cons_of_pos (by simpa using h)]
  rfl

theorem takenBytes_of_empty (h : contentBytes (splitLine input).1 = []) :
    takenBytes input = (splitLine input).1 := by
  rw [takenBytes, keptLines_of_empty hinput h, emptyLine?, (splitLine_spec hinput).1,
    List.find?_cons_of_pos (by simpa using h)]
  simp

theorem takenBytes_of_content (h : contentBytes (splitLine input).1 ≠ []) :
    takenBytes input = (splitLine input).1 ++ takenBytes (splitLine input).2 := by
  rw [takenBytes, keptLines_of_content hinput h, emptyLine?, (splitLine_spec hinput).1,
    List.find?_cons_of_neg (by simpa using h)]
  rfl

end

/-! ### All lines -/

/-- Reading goes on behind the text that has been kept. -/
theorem reads_readLines (input : List UInt8) (kept : String) :
    ((∃ line ∈ keptLines input, decode? line = none) →
      (readLines input kept).1 = .error .notUtf8) ∧
    ((∀ line ∈ keptLines input, (decode? line).isSome) →
      ∃ source, (readLines input kept).1 = .ok (kept ++ source) ∧
        encode source = (keptLines input).flatMap (contentBytes · ++ [lineFeed]) ∧
        input = takenBytes input ++ (readLines input kept).2) := by
  fun_induction readLines input kept with
  | case1 kept => exact ⟨by simp [keptLines, rawLines], fun _ => ⟨"", by simp, rfl, rfl⟩⟩
  | case2 input kept hinput hlt hdecode =>
      refine ⟨fun _ => rfl, fun hvalid => ?_⟩
      have hline := keptLines_of_content hinput (contentBytes_ne_nil_of_decode? hdecode)
      have := hvalid (splitLine input).1 (by rw [hline]; exact List.mem_cons_self)
      rw [hdecode] at this
      cases this
  | case3 input kept hinput hlt line hdecode hcontent =>
      have hempty : contentBytes (splitLine input).1 = [] := by
        rw [contentBytes_of_decode? hdecode, hcontent]
        rfl
      rw [keptLines_of_empty hinput hempty, takenBytes_of_empty hinput hempty]
      exact ⟨by simp, fun _ => ⟨"", by simp, rfl, (splitLine_spec hinput).2⟩⟩
  | case4 input kept hinput hlt line hdecode hcontent ih =>
      have hbytes := contentBytes_of_decode? hdecode
      have hne : contentBytes (splitLine input).1 ≠ [] := by
        rw [hbytes]
        exact fun h => hcontent (bytesOf_injective h)
      rw [keptLines_of_content hinput hne, takenBytes_of_content hinput hne]
      refine ⟨fun hinvalid => ih.1 ?_, fun hvalid => ?_⟩
      · obtain ⟨bad, hbad, hnone⟩ := hinvalid
        rcases List.mem_cons.1 hbad with rfl | hbad
        · rw [hdecode] at hnone
          cases hnone
        · exact ⟨bad, hbad, hnone⟩
      · obtain ⟨source, hrun, hsource, hinput'⟩ := ih.2 (List.forall_mem_cons.1 hvalid).2
        refine ⟨String.ofList (lineContent line) ++ "\n" ++ source, ?_, ?_, ?_⟩
        · rw [hrun]
          simp only [String.append_assoc]
        · rw [List.flatMap_cons, hbytes, ← hsource, ← bytesOf_concat utf8EncodeChar_lineFeed,
            encode_eq_bytesOf, encode_eq_bytesOf, ← bytesOf_append]
          simp
        · rw [List.append_assoc, ← hinput']
          exact (splitLine_spec hinput).2

theorem readsTyped_readTyped (input : List UInt8) : ReadsTyped input (readTyped input) := by
  obtain ⟨hfails, hreads⟩ := reads_readLines input ""
  refine ⟨hfails, fun hvalid => ?_⟩
  obtain ⟨source, hrun, hsource, hinput⟩ := hreads hvalid
  rw [String.empty_append] at hrun
  exact ⟨source, hrun, hsource, hinput⟩

/-! ### What comes after the empty line -/

theorem keptLines_of_rawLines {input line : List UInt8} {before after : List (List UInt8)}
    (h : rawLines input = before ++ line :: after) (hbefore : ∀ l ∈ before, contentBytes l ≠ [])
    (hline : contentBytes line = []) : keptLines input = before := by
  rw [keptLines, h, List.takeWhile_append_of_pos (by simpa using hbefore),
    List.takeWhile_cons_of_neg (by simpa using hline), List.append_nil]

theorem emptyLine?_of_rawLines {input line : List UInt8} {before after : List (List UInt8)}
    (h : rawLines input = before ++ line :: after) (hbefore : ∀ l ∈ before, contentBytes l ≠ [])
    (hline : contentBytes line = []) : emptyLine? input = some line := by
  rw [emptyLine?, List.find?_eq_some_iff_append]
  exact ⟨by simpa using hline, before, after, h, by simpa using hbefore⟩

/-- An input with an empty line that has its line feed, cut behind it. -/
theorem exists_rest_of_emptyLine? {input line : List UInt8} (hempty : emptyLine? input = some line)
    (hfeed : line.getLast? = some lineFeed) (other : List UInt8) :
    takenBytes input <+: input ∧
      keptLines (takenBytes input ++ other) = keptLines input ∧
      takenBytes (takenBytes input ++ other) = takenBytes input := by
  have hfound := hempty
  rw [emptyLine?, List.find?_eq_some_iff_append] at hfound
  obtain ⟨hline, before, after, hraw, hbefore⟩ := hfound
  have hline : contentBytes line = [] := by simpa using hline
  have hbefore : ∀ l ∈ before, contentBytes l ≠ [] := by simpa using hbefore
  have hkept := keptLines_of_rawLines hraw hbefore hline
  have htaken : takenBytes input = (before ++ [line]).flatten := by
    rw [takenBytes, hkept, hempty, Option.toList_some]
  have hclosed : ∀ l ∈ before ++ [line], IsClosed lineFeed l := by
    intro l hl
    rcases List.mem_append.1 hl with hl | hl
    · exact isClosed_of_before hraw l hl
    · obtain rfl := List.mem_singleton.1 hl
      exact isClosed_of_getLast? (by rw [← rawLines, hraw]; simp) hfeed
  have hother : rawLines (takenBytes input ++ other) = before ++ line :: rawLines other := by
    rw [htaken, rawLines, splitAfter_flatten_append hclosed, List.append_assoc]
    rfl
  have hkeptOther := keptLines_of_rawLines hother hbefore hline
  refine ⟨⟨after.flatten, ?_⟩, hkeptOther.trans hkept.symm, ?_⟩
  · rw [htaken, ← List.flatten_append, List.append_assoc, List.singleton_append, ← hraw]
    exact flatten_splitAfter input
  · rw [takenBytes, hkeptOther, emptyLine?_of_rawLines hother hbefore hline, htaken,
      Option.toList_some]

/-- **Typed sources.** Of any bytes, the source is the lines before the first empty one, each with a
line feed in place of its end, if they are text, and they are taken together with the empty one.
What comes behind an empty line that has its line feed makes no difference, and is left alone. -/
theorem readTyped_ignores_rest (input : List UInt8) :
    ReadsTyped input (readTyped input) ∧
      ∀ line, emptyLine? input = some line → line.getLast? = some lineFeed →
        takenBytes input <+: input ∧ ∀ other,
          (readTyped (takenBytes input ++ other)).1 = (readTyped input).1 ∧
            ((readTyped input).1.isOk → (readTyped (takenBytes input ++ other)).2 = other) := by
  refine ⟨readsTyped_readTyped input, fun line hempty hfeed => ?_⟩
  refine ⟨(exists_rest_of_emptyLine? hempty hfeed []).1, fun other => ?_⟩
  obtain ⟨-, hkept, htaken⟩ := exists_rest_of_emptyLine? hempty hfeed other
  have hread := readsTyped_readTyped input
  have hreadOther := readsTyped_readTyped (takenBytes input ++ other)
  by_cases hvalid : ∀ l ∈ keptLines input, (decode? l).isSome
  · obtain ⟨source, hrun, hsource, -⟩ := hread.reads hvalid
    obtain ⟨source', hrun', hsource', hrest⟩ := hreadOther.reads (by rwa [hkept])
    rw [hkept, ← hsource] at hsource'
    rw [htaken] at hrest
    rw [hrun, hrun', encode_injective hsource']
    exact ⟨rfl, fun _ => (List.append_cancel_left hrest).symm⟩
  · have hinvalid : ∃ l ∈ keptLines input, decode? l = none := by simpa using hvalid
    rw [hread.fails hinvalid, hreadOther.fails (by rwa [hkept])]
    exact ⟨rfl, fun hok => by cases hok⟩

/-- A line that ends in two characters, an empty one that does too, and bytes that are no text. -/
theorem readTyped_ignores_rest_of_invalid :
    emptyLine? [97, 13, 10, 13, 10, 255] = some [13, 10] ∧
      [13, 10].getLast? = some lineFeed ∧
      ReadsTyped [97, 13, 10, 13, 10, 255] (readTyped [97, 13, 10, 13, 10, 255]) ∧
      takenBytes [97, 13, 10, 13, 10, 255] <+: [97, 13, 10, 13, 10, 255] ∧ ∀ other,
        (readTyped (takenBytes [97, 13, 10, 13, 10, 255] ++ other)).1 =
            (readTyped [97, 13, 10, 13, 10, 255]).1 ∧
          ((readTyped [97, 13, 10, 13, 10, 255]).1.isOk →
            (readTyped (takenBytes [97, 13, 10, 13, 10, 255] ++ other)).2 = other) :=
  have hempty : emptyLine? [97, 13, 10, 13, 10, 255] = some [13, 10] := by decide
  have hfeed : [13, 10].getLast? = some lineFeed := by decide
  have hreads := readTyped_ignores_rest [97, 13, 10, 13, 10, 255]
  ⟨hempty, hfeed, hreads.1, hreads.2 _ hempty hfeed⟩

/-! ### Texts -/

def content (line : List Char) : List Char := dropLastIf '\r' (dropLastIf '\n' line)

/-- The given lines before the first empty one, each with a line feed behind it. -/
def joinLines (lines : List (List Char)) : List Char :=
  (lines.takeWhile (· ≠ [])).flatMap (· ++ ['\n'])

/-- What reading makes of a text. -/
def typedText (cs : List Char) : List Char := joinLines ((splitAfter '\n' cs).map content)

@[simp] theorem joinLines_nil : joinLines [] = [] := rfl

theorem joinLines_nil_cons (lines : List (List Char)) : joinLines ([] :: lines) = [] := rfl

theorem joinLines_cons {line : List Char} (h : line ≠ []) (lines : List (List Char)) :
    joinLines (line :: lines) = line ++ '\n' :: joinLines lines := by
  rw [joinLines, List.takeWhile_cons_of_pos (by simpa using h), List.flatMap_cons, List.append_assoc]
  rfl

theorem keptLines_encode (text : String) :
    keptLines (encode text) =
      ((splitAfter '\n' text.toList).takeWhile (content · ≠ [])).map bytesOf := by
  rw [keptLines, rawLines, encode_eq_bytesOf, splitAfter_bytesOf utf8EncodeChar_lineFeed,
    List.takeWhile_map]
  congr 2
  funext line
  rw [Function.comp_apply, contentBytes_bytesOf, decide_eq_decide]
  exact bytesOf_injective.ne_iff' rfl

/-- Reading a text never fails. -/
theorem readTyped_encode (text : String) :
    (readTyped (encode text)).1 = .ok (String.ofList (typedText text.toList)) := by
  have hkept := keptLines_encode text
  obtain ⟨source, hrun, hsource, -⟩ := (readsTyped_readTyped (encode text)).reads (by
    rw [hkept]
    simp [isSome_decode?_bytesOf])
  have hbytes : encode source = encode (String.ofList (typedText text.toList)) := by
    rw [hsource, hkept, encode_ofList, typedText, joinLines, List.takeWhile_map, List.flatMap_map,
      List.flatMap_map, bytesOf, List.flatMap_assoc]
    congr 1
    funext line
    rw [contentBytes_bytesOf]
    exact (bytesOf_concat utf8EncodeChar_lineFeed _).symm
  rw [hrun, encode_injective hbytes]

end TokenEcho.Console
