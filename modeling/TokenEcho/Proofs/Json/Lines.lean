import TokenEcho.Json
import TokenEcho.Proofs.Text.Numeral

/-!
# The lines of a JSON text

Which lines a pretty text has is decided by the structure of the value alone: `linesAt` gives them,
with the numbers and the quoted strings as whole pieces. No piece has a control character, since
`quote` escapes them all, so the line feeds between the lines are the only ones in the text.
-/

namespace TokenEcho.Json

def indent (depth : Nat) : String := String.ofList (List.replicate (2 * depth) ' ')

/-- What leads the value of a field. -/
def keyLead (depth : Nat) (key : String) : String := indent depth ++ quote key ++ ": "

mutual

/-- The lines of a value at a depth of nesting, with a lead before the first one and an ending after
the last one. -/
def linesAt (depth : Nat) (lead ending : String) : Json → List String
  | number n => [lead ++ Nat.repr n ++ ending]
  | string text => [lead ++ quote text ++ ending]
  | array [] => [lead ++ "[]" ++ ending]
  | array (item :: rest) =>
      (lead ++ "[") :: itemLines (depth + 1) (item :: rest) ++ [indent depth ++ "]" ++ ending]
  | object [] => [lead ++ "\x7b\x7d" ++ ending]
  | object (field :: rest) =>
      (lead ++ "\x7b") :: fieldLines (depth + 1) (field :: rest) ++
        [indent depth ++ "\x7d" ++ ending]

def itemLines (depth : Nat) : List Json → List String
  | [] => []
  | [item] => linesAt depth (indent depth) "" item
  | item :: rest => linesAt depth (indent depth) "," item ++ itemLines depth rest

def fieldLines (depth : Nat) : List (String × Json) → List String
  | [] => []
  | [(key, value)] => linesAt depth (keyLead depth key) "" value
  | (key, value) :: rest => linesAt depth (keyLead depth key) "," value ++ fieldLines depth rest

end

theorem newLine_eq (depth : Nat) : newLine depth = "\n" ++ indent depth := rfl

theorem linesAt_ne_nil (depth : Nat) (lead ending : String) (value : Json) :
    linesAt depth lead ending value ≠ [] := by
  cases value with
  | number n => simp [linesAt]
  | string text => simp [linesAt]
  | array items => cases items <;> simp [linesAt]
  | object fields => cases fields <;> simp [linesAt]

theorem itemLines_ne_nil (depth : Nat) (item : Json) (items : List Json) :
    itemLines depth (item :: items) ≠ [] := by
  cases items <;> simp [itemLines, linesAt_ne_nil]

theorem fieldLines_ne_nil (depth : Nat) (field : String × Json) (fields : List (String × Json)) :
    fieldLines depth (field :: fields) ≠ [] := by
  cases fields <;> simp [fieldLines, linesAt_ne_nil]

theorem intercalate_between (first last : String) {lines : List String} (h : lines ≠ []) :
    "\n".intercalate (first :: lines ++ [last]) =
      first ++ ("\n" ++ "\n".intercalate lines) ++ "\n" ++ last := by
  rw [List.cons_append, String.intercalate_cons_of_ne_nil (List.append_ne_nil_of_left_ne_nil h _),
    String.intercalate_append_of_ne_nil h (List.cons_ne_nil _ _), String.intercalate_singleton]
  simp only [String.append_assoc]

mutual

/-- The lines are those of the text. -/
theorem intercalate_linesAt (depth : Nat) (lead ending : String) (value : Json) :
    "\n".intercalate (linesAt depth lead ending value) = lead ++ prettyAt depth value ++ ending := by
  match value with
  | .number n => rw [linesAt, prettyAt, String.intercalate_singleton]
  | .string text => rw [linesAt, prettyAt, String.intercalate_singleton]
  | .array [] => rw [linesAt, prettyAt, String.intercalate_singleton]
  | .array (item :: items) =>
      rw [linesAt, prettyAt, intercalate_between _ _ (itemLines_ne_nil _ item items),
        intercalate_itemLines (depth + 1) item items, newLine_eq]
      simp only [String.append_assoc]
  | .object [] => rw [linesAt, prettyAt, String.intercalate_singleton]
  | .object ((key, value) :: fields) =>
      rw [linesAt, prettyAt, intercalate_between _ _ (fieldLines_ne_nil _ (key, value) fields),
        intercalate_fieldLines (depth + 1) key value fields, newLine_eq]
      simp only [String.append_assoc]
termination_by sizeOf value

theorem intercalate_itemLines (depth : Nat) (item : Json) (items : List Json) :
    "\n" ++ "\n".intercalate (itemLines depth (item :: items)) =
      prettyItems depth (item :: items) := by
  match items with
  | [] =>
      rw [itemLines, prettyItems, intercalate_linesAt, newLine_eq]
      simp only [String.append_assoc, String.append_empty]
  | next :: items =>
      rw [itemLines, prettyItems, ← intercalate_itemLines depth next items, newLine_eq,
        String.intercalate_append_of_ne_nil (linesAt_ne_nil _ _ _ _) (itemLines_ne_nil _ _ _),
        intercalate_linesAt]
      · simp only [String.append_assoc]
      all_goals exact List.cons_ne_nil next items
termination_by sizeOf (item :: items)

theorem intercalate_fieldLines (depth : Nat) (key : String) (value : Json)
    (fields : List (String × Json)) :
    "\n" ++ "\n".intercalate (fieldLines depth ((key, value) :: fields)) =
      prettyFields depth ((key, value) :: fields) := by
  match fields with
  | [] =>
      rw [fieldLines, prettyFields, intercalate_linesAt, newLine_eq, keyLead]
      simp only [String.append_assoc, String.append_empty]
  | (next, value') :: fields =>
      rw [fieldLines, prettyFields, ← intercalate_fieldLines depth next value' fields, newLine_eq,
        String.intercalate_append_of_ne_nil (linesAt_ne_nil _ _ _ _) (fieldLines_ne_nil _ _ _),
        intercalate_linesAt, keyLead]
      · simp only [String.append_assoc]
      all_goals exact List.cons_ne_nil (next, value') fields
termination_by sizeOf ((key, value) :: fields)

end

/-! ### Control characters -/

def NoControls (text : String) : Prop := ∀ c ∈ text.toList, 32 ≤ c.toNat

instance : DecidablePred NoControls := fun text =>
  List.decidableBAll (fun c : Char => 32 ≤ c.toNat) text.toList

theorem NoControls.append {text text' : String} (h : NoControls text) (h' : NoControls text') :
    NoControls (text ++ text') := by
  intro c hc
  rw [String.toList_append, List.mem_append] at hc
  exact hc.elim (h c) (h' c)

theorem noControls_repr (n : Nat) : NoControls (Nat.repr n) := by
  intro c hc
  have hdigit := isDigit_of_mem_repr c hc
  simp only [Char.isDigit, Bool.and_eq_true, decide_eq_true_eq] at hdigit
  have hlow : 48 ≤ c.toNat := hdigit.1
  omega

theorem noControls_indent (depth : Nat) : NoControls (indent depth) := by
  intro c hc
  rw [indent, String.toList_ofList] at hc
  rw [List.eq_of_mem_replicate hc]
  decide

theorem toNat_hexDigit : ∀ n < 16, 32 ≤ (hexDigit n).toNat := by decide

theorem le_toNat_of_mem_escapeChar (c : Char) : ∀ d ∈ escapeChar c, 32 ≤ d.toNat := by
  unfold escapeChar
  split
  case h_8 =>
    split
    · next hc =>
        have hhigh := toNat_hexDigit (c.toNat / 16) (by omega)
        have hlow := toNat_hexDigit (c.toNat % 16) (by omega)
        simp only [List.mem_cons, List.not_mem_nil, or_false, forall_eq_or_imp, forall_eq]
        exact ⟨by decide, by decide, by decide, by decide, hhigh, hlow⟩
    · next hc =>
        intro d hd
        rw [List.mem_singleton.1 hd]
        omega
  all_goals simp

theorem noControls_quote (text : String) : NoControls (quote text) := by
  have hmark : NoControls "\"" := by decide
  refine (hmark.append ?_).append hmark
  intro d hd
  rw [String.toList_ofList, List.mem_flatMap] at hd
  obtain ⟨c, -, hd⟩ := hd
  exact le_toNat_of_mem_escapeChar c d hd

theorem noControls_keyLead (depth : Nat) (key : String) : NoControls (keyLead depth key) :=
  ((noControls_indent depth).append (noControls_quote key)).append (by decide)

/-- Lines between a first and a last one. -/
theorem noControls_between {first last : String} (hfirst : NoControls first)
    (hlast : NoControls last) {lines : List String} (h : ∀ line ∈ lines, NoControls line) :
    ∀ line ∈ first :: lines ++ [last], NoControls line := by
  intro line hline
  rw [List.cons_append, List.mem_cons, List.mem_append, List.mem_singleton] at hline
  obtain rfl | hline | rfl := hline
  exacts [hfirst, h line hline, hlast]

mutual

theorem noControls_of_mem_linesAt (depth : Nat) {lead ending : String} (hlead : NoControls lead)
    (hending : NoControls ending) (value : Json) :
    ∀ line ∈ linesAt depth lead ending value, NoControls line := by
  match value with
  | .number n =>
      rw [linesAt, List.forall_mem_singleton]
      exact (hlead.append (noControls_repr n)).append hending
  | .string text =>
      rw [linesAt, List.forall_mem_singleton]
      exact (hlead.append (noControls_quote text)).append hending
  | .array [] =>
      rw [linesAt, List.forall_mem_singleton]
      exact (hlead.append (by decide)).append hending
  | .array (item :: items) =>
      rw [linesAt]
      exact noControls_between (hlead.append (by decide))
        (((noControls_indent depth).append (by decide)).append hending)
        (noControls_of_mem_itemLines (depth + 1) (item :: items))
  | .object [] =>
      rw [linesAt, List.forall_mem_singleton]
      exact (hlead.append (by decide)).append hending
  | .object (field :: fields) =>
      rw [linesAt]
      exact noControls_between (hlead.append (by decide))
        (((noControls_indent depth).append (by decide)).append hending)
        (noControls_of_mem_fieldLines (depth + 1) (field :: fields))
termination_by sizeOf value

theorem noControls_of_mem_itemLines (depth : Nat) (items : List Json) :
    ∀ line ∈ itemLines depth items, NoControls line := by
  match items with
  | [] => simp [itemLines]
  | [item] =>
      rw [itemLines]
      exact noControls_of_mem_linesAt depth (noControls_indent depth) (by decide) item
  | item :: next :: items =>
      rw [itemLines, List.forall_mem_append]
      · exact ⟨noControls_of_mem_linesAt depth (noControls_indent depth) (by decide) item,
          noControls_of_mem_itemLines depth (next :: items)⟩
      · exact List.cons_ne_nil next items
termination_by sizeOf items

theorem noControls_of_mem_fieldLines (depth : Nat) (fields : List (String × Json)) :
    ∀ line ∈ fieldLines depth fields, NoControls line := by
  match fields with
  | [] => simp [fieldLines]
  | [(key, value)] =>
      rw [fieldLines]
      exact noControls_of_mem_linesAt depth (noControls_keyLead depth key) (by decide) value
  | (key, value) :: next :: fields =>
      rw [fieldLines, List.forall_mem_append]
      · exact ⟨noControls_of_mem_linesAt depth (noControls_keyLead depth key) (by decide) value,
          noControls_of_mem_fieldLines depth (next :: fields)⟩
      · exact List.cons_ne_nil next fields
termination_by sizeOf fields

end

end TokenEcho.Json
