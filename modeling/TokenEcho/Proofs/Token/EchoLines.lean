import Mathlib.Data.List.Count
import TokenEcho.Proofs.Session.Run
import TokenEcho.Proofs.Source.Console
import TokenEcho.Proofs.Text.Numeral

/-!
# Reading an echo

An echo has no escapes, and a lexeme may look like the end of its line. The line is still read back
if one starts at its end: the number is a run of digits, the name of the kind before it has no
blank, and what is left between fixed texts is the lexeme, whatever it says. This is
`readEchoLine?_echoText`. A lexeme without line feeds leaves the lines apart, so a whole echo is read
line by line.
-/

namespace TokenEcho

/-- What a line of an echo says about its token. -/
def Token.summary (t : Token) : String × TokenKind × UInt32 := (t.lexeme, t.kind, t.line)

/-- Reads a line of an echo, without its line feed, from its end. -/
def readEchoLine? (line : List Char) : Option (String × TokenKind × UInt32) := do
  let number := Nat.ofDigitChars 10 (line.rtakeWhile Char.isDigit) 0
  let front ← (line.rdropWhile Char.isDigit).dropSuffix? " | Line: ".toList
  let kind ← TokenKind.ofName? (String.ofList (front.rtakeWhile (· != ' ')))
  let front ← (front.rdropWhile (· != ' ')).dropSuffix? " | Type: ".toList
  let lexeme ← front.dropPrefix? "Token: ".toList
  return (String.ofList lexeme, kind, number.toUInt32)

/-- Reads an echo line by line. -/
def readEcho? (bytes : List UInt8) : Option (List (String × TokenKind × UInt32)) := do
  let text ← Text.decode? bytes
  (Text.splitAfter '\n' text.toList).mapM fun line => readEchoLine? (Text.dropLastIf '\n' line)

def SingleLine (tokens : List Token) : Prop := ∀ t ∈ tokens, '\n' ∉ t.lexeme.toList

instance : DecidablePred SingleLine :=
  List.decidableBAll fun t : Token => '\n' ∉ t.lexeme.toList

/-! ### One line -/

theorem dropSuffix?_append (xs suffix : List Char) :
    (xs ++ suffix).dropSuffix? suffix = some xs :=
  List.dropSuffix?_eq_some_iff.2 ⟨suffix, rfl, beq_self_eq_true suffix⟩

theorem TokenKind.bne_blank_of_mem_name (k : TokenKind) :
    ∀ c ∈ k.name.toList, (c != ' ') = true := by
  have hall : k.name.toList.all (· != ' ') = true := by cases k <;> rfl
  exact List.all_eq_true.1 hall

theorem toList_echoText (t : Token) :
    t.echoText.toList = "Token: ".toList ++ t.lexeme.toList ++ " | Type: ".toList ++
      t.kind.name.toList ++ " | Line: ".toList ++ (Nat.repr t.line.toNat).toList := by
  simp only [Token.echoText, String.toList_append]

theorem eq_false_of_getLast?_blank {p : Char → Bool} (hp : p ' ' = false) {mark : List Char}
    (hmark : mark.getLast? = some ' ') (front : List Char) :
    ∀ c ∈ (front ++ mark).getLast?, p c = false := by
  intro c hc
  rw [List.getLast?_append, hmark] at hc
  obtain rfl : ' ' = c := Option.some.inj hc
  exact hp

theorem readEchoLine?_echoText (t : Token) :
    readEchoLine? t.echoText.toList = some t.summary := by
  have hdigits := isDigit_of_mem_repr (n := t.line.toNat)
  have hline := eq_false_of_getLast?_blank (p := Char.isDigit) rfl
    (show " | Line: ".toList.getLast? = some ' ' by decide)
  have hname := t.kind.bne_blank_of_mem_name
  have htype := eq_false_of_getLast?_blank (p := (· != ' ')) rfl
    (show " | Type: ".toList.getLast? = some ' ' by decide)
  rw [readEchoLine?, toList_echoText, rtakeWhile_append_of_getLast? hdigits (hline _),
    rdropWhile_append_of_getLast? hdigits (hline _), dropSuffix?_append]
  dsimp only [Option.bind_eq_bind, Option.bind_some]
  rw [rtakeWhile_append_of_getLast? hname (htype _), rdropWhile_append_of_getLast? hname (htype _),
    dropSuffix?_append, String.ofList_toList, TokenKind.ofName?_name]
  dsimp only [Option.bind_some]
  rw [List.dropPrefix?_append_of_beq _ (beq_self_eq_true _), ofDigitChars_repr]
  simp [Token.summary]

theorem lineFeed_not_mem_echoText {t : Token} (h : '\n' ∉ t.lexeme.toList) :
    '\n' ∉ t.echoText.toList := by
  have hname : '\n' ∉ t.kind.name.toList := by cases t.kind <;> decide
  have hnumber : '\n' ∉ (Nat.repr t.line.toNat).toList := fun hmem =>
    absurd (isDigit_of_mem_repr _ hmem) (by decide)
  rw [toList_echoText]
  simp only [List.mem_append, not_or]
  exact ⟨⟨⟨⟨⟨by decide, h⟩, by decide⟩, hname⟩, by decide⟩, hnumber⟩

/-! ### All lines -/

/-- The line of a token in an echo, with its line feed. -/
def Token.echoLine (t : Token) : List Char := t.echoText.toList ++ ['\n']

theorem echo_eq (tokens : List Token) :
    (echo tokens {}).1 = true ∧
      (echo tokens {}).2.written = Text.bytesOf (tokens.map Token.echoLine).flatten := by
  have hroom : ({} : Sink).room? = none := rfl
  have hrun := Sink.writeAll_of_unlimited hroom (tokens.map fun t => t.echoText ++ "\n")
  have hlines : (fun t : Token => (t.echoText ++ "\n").toList) = Token.echoLine :=
    funext fun t => String.toList_append
  rw [echo, hrun]
  refine ⟨rfl, ?_⟩
  rw [Sink.written_pushAll, Text.encode_eq_bytesOf, String.toList_join, List.flatMap_map,
    hlines, List.flatMap_def]
  rfl

theorem splitAfter_echoLines {tokens : List Token} (h : SingleLine tokens) :
    Text.splitAfter '\n' (tokens.map Token.echoLine).flatten = tokens.map Token.echoLine := by
  have hclosed : ∀ line ∈ tokens.map Token.echoLine, Text.IsClosed '\n' line := by
    intro line hline
    obtain ⟨t, ht, rfl⟩ := List.mem_map.1 hline
    exact ⟨t.echoText.toList, lineFeed_not_mem_echoText (h t ht), rfl⟩
  have hsplit := Text.splitAfter_flatten_append hclosed []
  rwa [List.append_nil, Text.splitAfter_nil, List.append_nil] at hsplit

theorem mapM_readEchoLine? (tokens : List Token) :
    (tokens.map Token.echoLine).mapM (fun line => readEchoLine? (Text.dropLastIf '\n' line)) =
      some (tokens.map Token.summary) := by
  have hline (t : Token) :
      readEchoLine? (Text.dropLastIf '\n' t.echoLine) = some t.summary := by
    rw [Token.echoLine, Text.dropLastIf_concat, readEchoLine?_echoText]
  have hlines : (fun line => readEchoLine? (Text.dropLastIf '\n' line)) ∘ Token.echoLine =
      fun t => some t.summary := funext hline
  rw [List.mapM_map, hlines]
  exact List.mapM_pure

theorem readEcho?_echo {tokens : List Token} (h : SingleLine tokens) :
    readEcho? (echo tokens {}).2.written = some (tokens.map Token.summary) := by
  rw [readEcho?, (echo_eq tokens).2, ← Text.encode_ofList, Text.decode?_encode]
  dsimp only [Option.bind_eq_bind, Option.bind_some]
  rw [String.toList_ofList, splitAfter_echoLines h, mapM_readEchoLine?]

/-- **An echo can be read back.** Where no lexeme has a line feed, an echo has a line for each token
and no other lines, and lexemes, kinds and lines are read off it; so two lists of tokens with the
same echo agree in them. -/
theorem echo_readable :
    (∀ tokens, SingleLine tokens →
      (echo tokens {}).1 = true ∧
      Text.splitAfter Console.lineFeed (echo tokens {}).2.written =
        (tokens.map fun t => Text.encode (t.echoText ++ "\n")) ∧
      readEcho? (echo tokens {}).2.written = some (tokens.map Token.summary)) ∧
    ∀ tokens tokens', SingleLine tokens → SingleLine tokens' →
      (echo tokens {}).2.written = (echo tokens' {}).2.written →
      tokens.map Token.summary = tokens'.map Token.summary := by
  refine ⟨fun tokens h => ⟨(echo_eq tokens).1, ?_, readEcho?_echo h⟩, ?_⟩
  · rw [(echo_eq tokens).2, Text.splitAfter_bytesOf Console.utf8EncodeChar_lineFeed,
      splitAfter_echoLines h, List.map_map]
    apply List.map_congr_left
    intro t _
    rw [Text.encode_eq_bytesOf, String.toList_append]
    rfl
  · intro tokens tokens' h h' hsame
    have hread := readEcho?_echo h
    rw [hsame, readEcho?_echo h'] at hread
    exact (Option.some.inj hread).symm

/-- A lexeme that looks like the end of a line, and an empty one on the last line there can be. The
second list has them in another file. -/
theorem echo_readable_of_look_alikes :
    let here : Span := ⟨"a.mig", ⟨1, 1, 0⟩, ⟨1, 2, 1⟩⟩
    let there : Span := ⟨"b.mig", ⟨2, 1, 3⟩, ⟨2, 2, 4⟩⟩
    let tokens : List Token :=
      [⟨.symbol, " | Type: Number | Line: 7", 12, here⟩, ⟨.openParen, "", 4294967295, here⟩]
    let tokens' : List Token :=
      [⟨.symbol, " | Type: Number | Line: 7", 12, there⟩, ⟨.openParen, "", 4294967295, there⟩]
    SingleLine tokens ∧ SingleLine tokens' ∧
    ((echo tokens {}).1 = true ∧
      Text.splitAfter Console.lineFeed (echo tokens {}).2.written =
        (tokens.map fun t => Text.encode (t.echoText ++ "\n")) ∧
      readEcho? (echo tokens {}).2.written = some (tokens.map Token.summary)) ∧
    (echo tokens {}).2.written = (echo tokens' {}).2.written ∧
    tokens.map Token.summary = tokens'.map Token.summary := by
  intro here there tokens tokens'
  have h : SingleLine tokens := by decide
  have h' : SingleLine tokens' := by decide
  have hsame : (echo tokens {}).2.written = (echo tokens' {}).2.written := rfl
  exact ⟨h, h', echo_readable.1 tokens h, hsame, echo_readable.2 tokens tokens' h h' hsame⟩

end TokenEcho
