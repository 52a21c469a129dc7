import TokenEcho.Proofs.Json.Lines
import TokenEcho.Proofs.Json.Reader
import TokenEcho.Token.Json

/-!
# Tokens read back from JSON

Every field of a token is in its JSON object, under a key of its own, so a reader of objects gets
the tokens back from the values, and the reader of texts gets the values. The layout of the text
depends on the number of the tokens only: `jsonLines` gives its lines, eighteen for each token, and
what a token says stands in their holes.
-/

namespace TokenEcho

/-! ### Tokens from values -/

namespace Json

def field? (key : String) : Json → Option Json
  | object fields => fields.lookup key
  | _ => none

def text? : Json → Option String
  | string text => some text
  | _ => none

def word? : Json → Option UInt32
  | number n => if n < UInt32.size then some n.toUInt32 else none
  | _ => none

def items? : Json → Option (List Json)
  | array items => some items
  | _ => none

theorem word?_number_toNat (w : UInt32) : (number w.toNat).word? = some w := by
  rw [word?, if_pos w.toNat_lt]
  simp

end Json

def Position.ofJson? (value : Json) : Option Position := do
  let line ← (← value.field? "line").word?
  let column ← (← value.field? "column").word?
  let offset ← (← value.field? "offset").word?
  return { line, column, offset }

def Span.ofJson? (value : Json) : Option Span := do
  let file ← (← value.field? "file").text?
  let start ← Position.ofJson? (← value.field? "start")
  let stop ← Position.ofJson? (← value.field? "end")
  return { file, start, stop }

def Token.ofJson? (value : Json) : Option Token := do
  let kind ← TokenKind.ofName? (← (← value.field? "kind").text?)
  let lexeme ← (← value.field? "lexeme").text?
  let line ← (← value.field? "line").word?
  let span ← Span.ofJson? (← value.field? "span")
  return { kind, lexeme, line, span }

/-- Reads the tokens back from the text of a JSON array. -/
def readTokens? (text : String) : Option (List Token) := do
  (← (← Json.parse? text).items?).mapM Token.ofJson?

theorem Position.ofJson?_toJson (p : Position) : ofJson? p.toJson = some p := by
  simp [ofJson?, toJson, Json.field?, List.lookup_cons, Json.word?_number_toNat]

theorem Span.ofJson?_toJson (s : Span) : ofJson? s.toJson = some s := by
  simp [ofJson?, toJson, Json.field?, List.lookup_cons, Json.text?, Position.ofJson?_toJson]

theorem Token.ofJson?_toJson (t : Token) : ofJson? t.toJson = some t := by
  simp [ofJson?, toJson, TokenKind.toJson, Json.field?, List.lookup_cons, Json.text?,
    Json.word?_number_toNat, TokenKind.ofName?_name, Span.ofJson?_toJson]

theorem readTokens?_tokensAsJson (tokens : List Token) :
    readTokens? (tokensAsJson tokens) = some tokens := by
  rw [readTokens?, tokensAsJson, Json.parse?_pretty]
  dsimp only [Option.bind_eq_bind, Option.bind_some, Json.items?]
  have hsome : Token.ofJson? ∘ Token.toJson = fun t => some t := funext Token.ofJson?_toJson
  rw [List.mapM_map, hsome]
  exact List.mapM_pure.trans (congrArg some tokens.map_id)

/-! ### Lines of the text -/

def Position.jsonLines (p : Position) (lead ending : String) : List String :=
  [lead ++ "\x7b",
    "        \"line\": " ++ Nat.repr p.line.toNat ++ ",",
    "        \"column\": " ++ Nat.repr p.column.toNat ++ ",",
    "        \"offset\": " ++ Nat.repr p.offset.toNat,
    "      \x7d" ++ ending]

def Token.jsonLines (t : Token) (ending : String) : List String :=
  ["  \x7b",
    "    \"kind\": " ++ Json.quote t.kind.name ++ ",",
    "    \"lexeme\": " ++ Json.quote t.lexeme ++ ",",
    "    \"line\": " ++ Nat.repr t.line.toNat ++ ",",
    "    \"span\": \x7b",
    "      \"file\": " ++ Json.quote t.span.file ++ ","] ++
  t.span.start.jsonLines "      \"start\": " "," ++ t.span.stop.jsonLines "      \"end\": " "" ++
  ["    \x7d", "  \x7d" ++ ending]

/-- Tokens one after another, with a comma after all but the last one. -/
def tokenLines : List Token → List String
  | [] => []
  | [t] => t.jsonLines ""
  | t :: tokens => t.jsonLines "," ++ tokenLines tokens

/-- The lines of the JSON text of some tokens. -/
def jsonLines : List Token → List String
  | [] => ["[]"]
  | t :: tokens => "[" :: tokenLines (t :: tokens) ++ ["]"]

theorem Position.linesAt_toJson (p : Position) (lead ending : String) :
    p.toJson.linesAt 3 lead ending = p.jsonLines lead ending := by
  have hlast := String.append_empty (s := "        \"offset\": " ++ Nat.repr p.offset.toNat)
  rw [jsonLines, ← hlast]
  rfl

theorem Token.linesAt_toJson (t : Token) (ending : String) :
    t.toJson.linesAt 1 (Json.indent 1) ending = t.jsonLines ending := by
  rw [jsonLines, ← Position.linesAt_toJson, ← Position.linesAt_toJson]
  rfl

theorem itemLines_toJson (t : Token) (tokens : List Token) :
    Json.itemLines 1 (t.toJson :: tokens.map Token.toJson) = tokenLines (t :: tokens) := by
  induction tokens generalizing t with
  | nil => exact t.linesAt_toJson ""
  | cons next tokens ih =>
      rw [List.map_cons, Json.itemLines, tokenLines, Token.linesAt_toJson, ih]
      all_goals exact List.cons_ne_nil _ _

theorem linesAt_tokens (tokens : List Token) :
    Json.linesAt 0 "" "" (.array (tokens.map Token.toJson)) = jsonLines tokens := by
  cases tokens with
  | nil => rfl
  | cons t tokens =>
      rw [List.map_cons, Json.linesAt, itemLines_toJson]
      rfl

theorem tokensAsJson_eq_intercalate (tokens : List Token) :
    tokensAsJson tokens = "\n".intercalate (jsonLines tokens) := by
  rw [tokensAsJson, Json.pretty, ← linesAt_tokens, Json.intercalate_linesAt, String.empty_append,
    String.append_empty]

theorem noControls_of_mem_jsonLines (tokens : List Token) :
    ∀ line ∈ jsonLines tokens, Json.NoControls line := by
  rw [← linesAt_tokens]
  exact Json.noControls_of_mem_linesAt 0 (by decide) (by decide) _

/-- **The JSON text of tokens loses nothing.** The tokens are read back from it, so no other tokens
have the same text. Its lines are those of `jsonLines`, and no line has a control character,
whatever stands in the lexemes and names of files. -/
theorem tokensAsJson_lossless :
    (∀ tokens, readTokens? (tokensAsJson tokens) = some tokens) ∧
    Function.Injective tokensAsJson ∧
    ∀ tokens, tokensAsJson tokens = "\n".intercalate (jsonLines tokens) ∧
      ∀ line ∈ jsonLines tokens, ∀ c ∈ line.toList, 32 ≤ c.toNat := by
  refine ⟨readTokens?_tokensAsJson, ?_, fun tokens =>
    ⟨tokensAsJson_eq_intercalate tokens, noControls_of_mem_jsonLines tokens⟩⟩
  intro tokens tokens' hsame
  have hread := readTokens?_tokensAsJson tokens
  rw [hsame, readTokens?_tokensAsJson] at hread
  exact (Option.some.inj hread).symm

end TokenEcho
