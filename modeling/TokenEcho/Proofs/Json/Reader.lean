import TokenEcho.Json
import TokenEcho.Proofs.Text.Numeral

/-!
# Reading JSON

A reader of JSON texts whose numbers are natural. It keeps the containers that are still open on a
stack, and so never returns to a text: after each value it goes on in the innermost container.
`parse?_pretty` says that it reads back what is written, from `readValue_prettyAt`, where the
containers around the value and the text after it are any.
-/

namespace TokenEcho.Json

def isSpace (c : Char) : Bool := c == ' ' || c == '\n' || c == '\t' || c == '\r'

def skipSpace (text : List Char) : List Char := text.dropWhile isSpace

def hexValue? (c : Char) : Option Nat :=
  if c.isDigit then some (c.toNat - '0'.toNat)
  else if 'a' ≤ c ∧ c ≤ 'f' then some (c.toNat - 'a'.toNat + 10)
  else if 'A' ≤ c ∧ c ≤ 'F' then some (c.toNat - 'A'.toNat + 10)
  else none

/-- The character whose number is written in hexadecimal digits. Half of a surrogate pair is none. -/
def ofHex? (digits : List Char) : Option Char := do
  let values ← digits.mapM hexValue?
  let number := values.foldl (16 * · + ·) 0
  if number.isValidChar then some (Char.ofNat number) else none

/-- What a character behind a backslash stands for. -/
def unescape? : Char → Option Char
  | '"' => some '"'
  | '\\' => some '\\'
  | '/' => some '/'
  | 'n' => some '\n'
  | 'r' => some '\r'
  | 't' => some '\t'
  | 'b' => some '\x08'
  | 'f' => some '\x0c'
  | _ => none

/-- A character, if it is one, in front of what has been read behind it. -/
def putFirst (c? : Option Char) (read? : Option (List Char × List Char)) :
    Option (List Char × List Char) := do
  let c ← c?
  let (more, rest) ← read?
  return (c :: more, rest)

/-- Reads the rest of a string whose opening quote has been read. -/
def readQuoted : List Char → Option (List Char × List Char)
  | '"' :: rest => some ([], rest)
  | '\\' :: 'u' :: a :: b :: c :: d :: rest => putFirst (ofHex? [a, b, c, d]) (readQuoted rest)
  | '\\' :: c :: rest => putFirst (unescape? c) (readQuoted rest)
  | c :: rest => putFirst (if c.toNat < 32 then none else some c) (readQuoted rest)
  | [] => none

/-- A container that is still open, with what has been found in it, the latest first. In an object
there is also the key of the value that comes next. -/
inductive Open where
  | array (found : List Json)
  | object (found : List (String × Json)) (key : String)

theorem length_skipSpace_le (text : List Char) : (skipSpace text).length ≤ text.length :=
  (List.dropWhile_suffix isSpace).length_le

theorem exists_of_putFirst {c? : Option Char} {read? : Option (List Char × List Char)}
    {body rest : List Char} (h : putFirst c? read? = some (body, rest)) :
    ∃ more, read? = some (more, rest) := by
  simp only [putFirst, Option.bind_eq_bind, Option.bind_eq_some_iff, Option.pure_def,
    Option.some.injEq, Prod.mk.injEq, Prod.exists] at h
  obtain ⟨c, -, more, after, hread, -, rfl⟩ := h
  exact ⟨more, hread⟩

theorem length_lt_of_readQuoted {text body rest : List Char}
    (h : readQuoted text = some (body, rest)) : rest.length < text.length := by
  fun_induction readQuoted text generalizing body with
  | case1 after =>
      cases h
      exact Nat.lt_succ_self _
  | case2 a b c d after ih =>
      obtain ⟨more, hmore⟩ := exists_of_putFirst h
      have := ih hmore
      simp only [List.length_cons]
      omega
  | case3 c after _ ih =>
      obtain ⟨more, hmore⟩ := exists_of_putFirst h
      have := ih hmore
      simp only [List.length_cons]
      omega
  | case4 c after _ _ _ ih =>
      obtain ⟨more, hmore⟩ := exists_of_putFirst h
      exact Nat.lt_succ_of_lt (ih hmore)
  | case5 => cases h

/-! The readers below take texts without white space in front. -/

mutual

/-- Reads a value inside of open containers, and goes on behind it. -/
def readValue (stack : List Open) : List Char → Option Json
  | '"' :: rest =>
      match hread : readQuoted rest with
      | none => none
      | some (body, after) =>
          have := length_lt_of_readQuoted hread
          have := length_skipSpace_le after
          resume (.string (String.ofList body)) stack (skipSpace after)
  | '[' :: rest =>
      have := length_skipSpace_le rest
      readFirstItem stack (skipSpace rest)
  | '\x7b' :: rest =>
      have := length_skipSpace_le rest
      readFirstKey stack (skipSpace rest)
  | c :: rest =>
      if c.isDigit then
        have := length_skipSpace_le (rest.dropWhile Char.isDigit)
        have := (List.dropWhile_suffix Char.isDigit (l := rest)).length_le
        resume (.number (Nat.ofDigitChars 10 (c :: rest.takeWhile Char.isDigit) 0)) stack
          (skipSpace (rest.dropWhile Char.isDigit))
      else none
  | [] => none
termination_by text => (text.length, 0)

def readFirstItem (stack : List Open) : List Char → Option Json
  | ']' :: rest =>
      have := length_skipSpace_le rest
      resume (.array []) stack (skipSpace rest)
  | text => readValue (.array [] :: stack) text
termination_by text => (text.length, 1)

def readFirstKey (stack : List Open) : List Char → Option Json
  | '\x7d' :: rest =>
      have := length_skipSpace_le rest
      resume (.object []) stack (skipSpace rest)
  | text => readKey [] stack text
termination_by text => (text.length, 1)

def readKey (found : List (String × Json)) (stack : List Open) : List Char → Option Json
  | '"' :: rest =>
      match hread : readQuoted rest with
      | none => none
      | some (key, after) =>
          have := length_lt_of_readQuoted hread
          have := length_skipSpace_le after
          readColon found (String.ofList key) stack (skipSpace after)
  | _ => none
termination_by text => (text.length, 0)

def readColon (found : List (String × Json)) (key : String) (stack : List Open) :
    List Char → Option Json
  | ':' :: rest =>
      have := length_skipSpace_le rest
      readValue (.object found key :: stack) (skipSpace rest)
  | _ => none
termination_by text => (text.length, 0)

/-- Goes on behind a value in the innermost container, or ends if none is open. -/
def resume (value : Json) : List Open → List Char → Option Json
  | [], [] => some value
  | .array found :: stack, ',' :: rest =>
      have := length_skipSpace_le rest
      readValue (.array (value :: found) :: stack) (skipSpace rest)
  | .array found :: stack, ']' :: rest =>
      have := length_skipSpace_le rest
      resume (.array (value :: found).reverse) stack (skipSpace rest)
  | .object found key :: stack, ',' :: rest =>
      have := length_skipSpace_le rest
      readKey ((key, value) :: found) stack (skipSpace rest)
  | .object found key :: stack, '\x7d' :: rest =>
      have := length_skipSpace_le rest
      resume (.object ((key, value) :: found).reverse) stack (skipSpace rest)
  | _, _ => none
termination_by _ text => (text.length, 0)

end

def parse? (text : String) : Option Json := readValue [] (skipSpace text.toList)

/-! ### Strings -/

theorem hexValue?_hexDigit : ∀ n < 16, hexValue? (hexDigit n) = some n := by decide

theorem ofHex?_of_lt {c : Char} (h : c.toNat < 32) :
    ofHex? ['0', '0', hexDigit (c.toNat / 16), hexDigit (c.toNat % 16)] = some c := by
  have hhigh := hexValue?_hexDigit (c.toNat / 16) (by omega)
  have hlow := hexValue?_hexDigit (c.toNat % 16) (by omega)
  have hzero : hexValue? '0' = some 0 := by decide
  have hnumber : 16 * (16 * (16 * (16 * 0 + 0) + 0) + c.toNat / 16) + c.toNat % 16 = c.toNat := by
    omega
  have hvalid : c.toNat.isValidChar := c.valid
  simp only [ofHex?, List.mapM_cons, List.mapM_nil, hhigh, hlow, hzero, Option.pure_def,
    Option.bind_eq_bind, Option.bind_some, List.foldl_cons, List.foldl_nil, hnumber, if_pos hvalid,
    Char.ofNat_toNat]

theorem readQuoted_of_plain {c : Char} (hquote : c ≠ '"') (hslash : c ≠ '\\')
    (hc : ¬ c.toNat < 32) (rest : List Char) :
    readQuoted (c :: rest) = putFirst (some c) (readQuoted rest) := by
  rw [readQuoted.eq_4 _ _ hquote (fun _ _ _ _ _ h => absurd h hslash) (fun _ _ h => absurd h hslash),
    if_neg hc]

theorem readQuoted_escapeChar (c : Char) (rest : List Char) :
    readQuoted (escapeChar c ++ rest) = putFirst (some c) (readQuoted rest) := by
  unfold escapeChar
  split
  case h_8 hquote hslash _ _ _ _ _ =>
    split
    · next hc =>
        rw [← ofHex?_of_lt hc]
        rfl
    · next hc => exact readQuoted_of_plain hquote hslash hc rest
  all_goals rfl

theorem readQuoted_flatMap_escapeChar (body rest : List Char) :
    readQuoted (body.flatMap escapeChar ++ '"' :: rest) = some (body, rest) := by
  induction body with
  | nil => rfl
  | cons c body ih => rw [List.flatMap_cons, List.append_assoc, readQuoted_escapeChar, ih]; rfl

/-! ### Steps of the reader, and texts of values in front of a rest -/

theorem skipSpace_cons_of_mark {mark : Char} (h : isSpace mark = false) (rest : List Char) :
    skipSpace (mark :: rest) = mark :: rest :=
  List.dropWhile_cons_of_neg (by simp [h])

theorem skipSpace_newLine (depth : Nat) (text : List Char) :
    skipSpace ((newLine depth).toList ++ text) = skipSpace text := by
  have hspace : ∀ c ∈ (newLine depth).toList, isSpace c := by
    intro c hc
    rw [newLine, String.toList_append, List.mem_append] at hc
    rcases hc with hc | hc
    · rw [List.mem_singleton.1 hc]
      rfl
    · rw [String.toList_ofList] at hc
      rw [List.eq_of_mem_replicate hc]
      rfl
  exact List.dropWhile_append_of_pos hspace

section

variable (stack : List Open) (rest : List Char)

theorem toList_quote_append (text : String) :
    (quote text).toList ++ rest = '"' :: (text.toList.flatMap escapeChar ++ '"' :: rest) := by
  simp [quote]

theorem readValue_quote (text : String) :
    readValue stack ((quote text).toList ++ rest) =
      resume (.string text) stack (skipSpace rest) := by
  have hread := readQuoted_flatMap_escapeChar text.toList rest
  rw [toList_quote_append, readValue]
  split
  · next hnone => rw [hread] at hnone; cases hnone
  · next body after hsome =>
      rw [hread] at hsome
      cases hsome
      rw [String.ofList_toList]

theorem readKey_quote (found : List (String × Json)) (key : String) :
    readKey found stack ((quote key).toList ++ rest) =
      readColon found key stack (skipSpace rest) := by
  have hread := readQuoted_flatMap_escapeChar key.toList rest
  rw [toList_quote_append, readKey]
  split
  · next hnone => rw [hread] at hnone; cases hnone
  · next body after hsome =>
      rw [hread] at hsome
      cases hsome
      rw [String.ofList_toList]

theorem readValue_repr (n : Nat) (hrest : Stops Char.isDigit rest) :
    readValue stack ((Nat.repr n).toList ++ rest) =
      resume (.number n) stack (skipSpace rest) := by
  obtain ⟨digit, more, hdigits, hdigit⟩ := exists_repr_eq_cons n
  have hmore : ∀ c ∈ more, c.isDigit := fun c hc =>
    isDigit_of_mem_repr c (hdigits ▸ List.mem_cons_of_mem digit hc)
  have hne (c : Char) (hc : c.isDigit = false) : digit = c → False := by
    rintro rfl
    rw [hdigit] at hc
    cases hc
  rw [hdigits, List.cons_append, readValue.eq_4 _ _ _ (hne _ rfl) (hne _ rfl) (hne _ rfl),
    if_pos hdigit, takeWhile_append_of_stops hmore hrest, dropWhile_append_of_stops hmore hrest,
    ← hdigits, ofDigitChars_repr]

theorem resume_comma_array (value : Json) (found : List Json) :
    resume value (.array found :: stack) (',' :: rest) =
      readValue (.array (value :: found) :: stack) (skipSpace rest) := by
  rw [resume]

theorem resume_bracket (value : Json) (found : List Json) :
    resume value (.array found :: stack) (']' :: rest) =
      resume (.array (value :: found).reverse) stack (skipSpace rest) := by
  rw [resume]

theorem resume_comma_object (value : Json) (found : List (String × Json)) (key : String) :
    resume value (.object found key :: stack) (',' :: rest) =
      readKey ((key, value) :: found) stack (skipSpace rest) := by
  rw [resume]

theorem resume_brace (value : Json) (found : List (String × Json)) (key : String) :
    resume value (.object found key :: stack) ('\x7d' :: rest) =
      resume (.object ((key, value) :: found).reverse) stack (skipSpace rest) := by
  rw [resume]

theorem toList_prettyAt_array (depth : Nat) (item : Json) (items : List Json) :
    (prettyAt depth (.array (item :: items))).toList ++ rest =
      '[' :: ((prettyItems (depth + 1) (item :: items)).toList ++
        ((newLine depth).toList ++ ']' :: rest)) := by
  simp [prettyAt]

theorem toList_prettyAt_object (depth : Nat) (field : String × Json)
    (fields : List (String × Json)) :
    (prettyAt depth (.object (field :: fields))).toList ++ rest =
      '\x7b' :: ((prettyFields (depth + 1) (field :: fields)).toList ++
        ((newLine depth).toList ++ '\x7d' :: rest)) := by
  simp [prettyAt]

theorem toList_prettyItems_singleton (depth : Nat) (item : Json) :
    (prettyItems depth [item]).toList ++ rest =
      (newLine depth).toList ++ ((prettyAt depth item).toList ++ rest) := by
  simp [prettyItems]

theorem toList_prettyItems_cons (depth : Nat) (item next : Json) (items : List Json) :
    (prettyItems depth (item :: next :: items)).toList ++ rest =
      (newLine depth).toList ++ ((prettyAt depth item).toList ++
        (',' :: ((prettyItems depth (next :: items)).toList ++ rest))) := by
  simp [prettyItems]

theorem toList_prettyFields_singleton (depth : Nat) (key : String) (value : Json) :
    (prettyFields depth [(key, value)]).toList ++ rest =
      (newLine depth).toList ++ ((quote key).toList ++
        (':' :: ' ' :: ((prettyAt depth value).toList ++ rest))) := by
  simp [prettyFields]

theorem toList_prettyFields_cons (depth : Nat) (key : String) (value : Json)
    (next : String × Json) (fields : List (String × Json)) :
    (prettyFields depth ((key, value) :: next :: fields)).toList ++ rest =
      (newLine depth).toList ++ ((quote key).toList ++
        (':' :: ' ' :: ((prettyAt depth value).toList ++
          (',' :: ((prettyFields depth (next :: fields)).toList ++ rest))))) := by
  simp [prettyFields]

/-- A text of a value starts with no white space, and with no closing bracket either. -/
theorem exists_prettyAt_eq_cons (depth : Nat) (value : Json) :
    ∃ c more, (prettyAt depth value).toList ++ rest = c :: more ∧ isSpace c = false ∧ c ≠ ']' := by
  cases value with
  | number n =>
      obtain ⟨digit, more, hdigits, hdigit⟩ := exists_repr_eq_cons n
      refine ⟨digit, more ++ rest, by rw [prettyAt, hdigits, List.cons_append], ?_, ?_⟩
      · by_contra hspace
        simp only [isSpace, Bool.not_eq_false, Bool.or_eq_true, beq_iff_eq] at hspace
        obtain ((rfl | rfl) | rfl) | rfl := hspace <;> cases hdigit
      · rintro rfl
        cases hdigit
  | string text =>
      rw [prettyAt]
      exact ⟨_, _, toList_quote_append rest text, rfl, by decide⟩
  | array items =>
      cases items with
      | nil => exact ⟨'[', ']' :: rest, by rw [prettyAt]; rfl, rfl, by decide⟩
      | cons item items => exact ⟨_, _, toList_prettyAt_array rest depth item items, rfl, by decide⟩
  | object fields =>
      cases fields with
      | nil => exact ⟨'\x7b', '\x7d' :: rest, by rw [prettyAt]; rfl, rfl, by decide⟩
      | cons field fields =>
          exact ⟨_, _, toList_prettyAt_object rest depth field fields, rfl, by decide⟩

theorem skipSpace_prettyAt (depth : Nat) (value : Json) :
    skipSpace ((prettyAt depth value).toList ++ rest) = (prettyAt depth value).toList ++ rest := by
  obtain ⟨c, more, hvalue, hc, -⟩ := exists_prettyAt_eq_cons rest depth value
  rw [hvalue, skipSpace_cons_of_mark hc]

theorem skipSpace_quote (text : String) :
    skipSpace ((quote text).toList ++ rest) = (quote text).toList ++ rest := by
  rw [toList_quote_append, skipSpace_cons_of_mark rfl]

theorem readFirstItem_prettyItems (depth : Nat) (item : Json) (items : List Json) :
    readFirstItem stack (skipSpace ((prettyItems depth (item :: items)).toList ++ rest)) =
      readValue (.array [] :: stack)
        (skipSpace ((prettyItems depth (item :: items)).toList ++ rest)) := by
  obtain ⟨more, hitems⟩ : ∃ more, (prettyItems depth (item :: items)).toList ++ rest =
      (newLine depth).toList ++ ((prettyAt depth item).toList ++ more) := by
    cases items with
    | nil => exact ⟨_, toList_prettyItems_singleton rest depth item⟩
    | cons next items => exact ⟨_, toList_prettyItems_cons rest depth item next items⟩
  obtain ⟨c, text, hvalue, -, hc⟩ := exists_prettyAt_eq_cons more depth item
  rw [hitems, skipSpace_newLine, skipSpace_prettyAt, hvalue, readFirstItem]
  simpa using hc

theorem readFirstKey_prettyFields (depth : Nat) (field : String × Json)
    (fields : List (String × Json)) :
    readFirstKey stack (skipSpace ((prettyFields depth (field :: fields)).toList ++ rest)) =
      readKey [] stack (skipSpace ((prettyFields depth (field :: fields)).toList ++ rest)) := by
  obtain ⟨key, value⟩ := field
  obtain ⟨more, hfields⟩ : ∃ more, (prettyFields depth ((key, value) :: fields)).toList ++ rest =
      (newLine depth).toList ++ ((quote key).toList ++ more) := by
    cases fields with
    | nil => exact ⟨_, toList_prettyFields_singleton rest depth key value⟩
    | cons next fields => exact ⟨_, toList_prettyFields_cons rest depth key value next fields⟩
  rw [hfields, skipSpace_newLine, skipSpace_quote, toList_quote_append, readFirstKey]
  simp

theorem readColon_prettyAt (found : List (String × Json)) (key : String) (depth : Nat)
    (value : Json) :
    readColon found key stack (':' :: ' ' :: ((prettyAt depth value).toList ++ rest)) =
      readValue (.object found key :: stack) ((prettyAt depth value).toList ++ rest) := by
  rw [readColon]
  change readValue _ (skipSpace ((prettyAt depth value).toList ++ rest)) = _
  rw [skipSpace_prettyAt]

end

theorem stops_isDigit_newLine (depth : Nat) (text : List Char) :
    Stops Char.isDigit ((newLine depth).toList ++ text) := by
  rw [newLine, String.toList_append]
  exact stops_cons.2 rfl

/-! ### Round trip

In an array or an object that has been read in part, what is left to read is the list from the next
item on, so the induction is on the value and on such lists at once.
-/

mutual

/-- A value that has been written is read, whatever is open around it and whatever comes after it,
if a numeral would end there. -/
theorem readValue_prettyAt (depth : Nat) (value : Json) (stack : List Open) {rest : List Char}
    (hrest : Stops Char.isDigit rest) :
    readValue stack ((prettyAt depth value).toList ++ rest) =
      resume value stack (skipSpace rest) := by
  match value with
  | .number n =>
      rw [prettyAt]
      exact readValue_repr stack rest n hrest
  | .string text =>
      rw [prettyAt]
      exact readValue_quote stack rest text
  | .array [] =>
      rw [prettyAt]
      change readValue stack ('[' :: ']' :: rest) = _
      rw [readValue, skipSpace_cons_of_mark rfl, readFirstItem]
  | .array (item :: items) =>
      rw [toList_prettyAt_array, readValue, readFirstItem_prettyItems,
        readValue_prettyItems (depth + 1) depth item items [] stack rest]
      rfl
  | .object [] =>
      rw [prettyAt]
      change readValue stack ('\x7b' :: '\x7d' :: rest) = _
      rw [readValue, skipSpace_cons_of_mark rfl, readFirstKey]
  | .object ((key, value) :: fields) =>
      rw [toList_prettyAt_object, readValue, readFirstKey_prettyFields,
        readKey_prettyFields (depth + 1) depth key value fields [] stack rest]
      rfl
termination_by sizeOf value

theorem readValue_prettyItems (depth outer : Nat) (item : Json) (items : List Json)
    (found : List Json) (stack : List Open) (rest : List Char) :
    readValue (.array found :: stack) (skipSpace ((prettyItems depth (item :: items)).toList ++
      ((newLine outer).toList ++ ']' :: rest))) =
      resume (.array (found.reverse ++ item :: items)) stack (skipSpace rest) := by
  -- What comes after an item, a line feed or a comma, ends a numeral.
  match items with
  | [] =>
      rw [toList_prettyItems_singleton, skipSpace_newLine, skipSpace_prettyAt,
        readValue_prettyAt depth item _ (stops_isDigit_newLine outer _), skipSpace_newLine,
        skipSpace_cons_of_mark rfl, resume_bracket, List.reverse_cons]
  | next :: items =>
      rw [toList_prettyItems_cons, skipSpace_newLine, skipSpace_prettyAt,
        readValue_prettyAt depth item _ (stops_cons.2 rfl), skipSpace_cons_of_mark rfl,
        resume_comma_array, readValue_prettyItems depth outer next items, List.reverse_cons,
        List.append_assoc, List.singleton_append]
termination_by sizeOf (item :: items)

theorem readKey_prettyFields (depth outer : Nat) (key : String) (value : Json)
    (fields : List (String × Json)) (found : List (String × Json)) (stack : List Open)
    (rest : List Char) :
    readKey found stack (skipSpace ((prettyFields depth ((key, value) :: fields)).toList ++
      ((newLine outer).toList ++ '\x7d' :: rest))) =
      resume (.object (found.reverse ++ (key, value) :: fields)) stack (skipSpace rest) := by
  match fields with
  | [] =>
      rw [toList_prettyFields_singleton, skipSpace_newLine, skipSpace_quote, readKey_quote,
        skipSpace_cons_of_mark rfl, readColon_prettyAt,
        readValue_prettyAt depth value _ (stops_isDigit_newLine outer _), skipSpace_newLine,
        skipSpace_cons_of_mark rfl, resume_brace, List.reverse_cons]
  | (next, value') :: fields =>
      rw [toList_prettyFields_cons, skipSpace_newLine, skipSpace_quote, readKey_quote,
        skipSpace_cons_of_mark rfl, readColon_prettyAt,
        readValue_prettyAt depth value _ (stops_cons.2 rfl), skipSpace_cons_of_mark rfl,
        resume_comma_object, readKey_prettyFields depth outer next value' fields,
        List.reverse_cons, List.append_assoc, List.singleton_append]
termination_by sizeOf ((key, value) :: fields)

end

/-- A pretty text is read back as the value that was written. -/
theorem parse?_pretty (value : Json) : parse? (pretty value) = some value := by
  have hread := readValue_prettyAt 0 value [] (stops_nil Char.isDigit)
  have hskip := skipSpace_prettyAt [] 0 value
  rw [List.append_nil] at hread hskip
  rw [parse?, pretty, hskip, hread, skipSpace, List.dropWhile_nil, resume]

end TokenEcho.Json
