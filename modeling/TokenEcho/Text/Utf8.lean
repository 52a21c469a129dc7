/-!
# Text as bytes

Texts are read and written as UTF-8. A slice of a text is named by byte offsets, and exists only
where both offsets fall between two characters.
-/

namespace TokenEcho.Text

def encode (text : String) : List UInt8 := text.toList.flatMap String.utf8EncodeChar

def decode? (bytes : List UInt8) : Option String := String.fromUTF8? bytes.toByteArray

def byteLength : List Char → Nat
  | [] => 0
  | c :: rest => c.utf8Size + byteLength rest

@[simp] theorem byteLength_nil : byteLength [] = 0 := rfl

@[simp] theorem byteLength_cons (c : Char) (rest : List Char) :
    byteLength (c :: rest) = c.utf8Size + byteLength rest := rfl

@[simp] theorem byteLength_append (xs ys : List Char) :
    byteLength (xs ++ ys) = byteLength xs + byteLength ys := by
  induction xs with
  | nil => simp
  | cons c xs ih => simp [ih, Nat.add_assoc]

/-- Splits a run of characters after a number of bytes, unless that falls past its end or inside a
character. -/
def splitAtByte? : Nat → List Char → Option (List Char × List Char)
  | 0, cs => some ([], cs)
  | _ + 1, [] => none
  | n + 1, c :: cs =>
      if c.utf8Size ≤ n + 1 then
        (splitAtByte? (n + 1 - c.utf8Size) cs).map fun (before, after) => (c :: before, after)
      else none

def slice? (cs : List Char) (start stop : Nat) : Option (List Char) :=
  if start ≤ stop then do
    let (_, rest) ← splitAtByte? start cs
    let (middle, _) ← splitAtByte? (stop - start) rest
    return middle
  else none

theorem splitAtByte?_eq_some_iff {n : Nat} {cs before after : List Char} :
    splitAtByte? n cs = some (before, after) ↔ cs = before ++ after ∧ byteLength before = n := by
  fun_induction splitAtByte? n cs generalizing before after with
  | case1 cs =>
      constructor
      · intro h
        simp only [Option.some.injEq, Prod.mk.injEq] at h
        obtain ⟨rfl, rfl⟩ := h
        simp
      · rintro ⟨rfl, h⟩
        cases before with
        | nil => simp
        | cons c rest =>
            have := c.utf8Size_pos
            simp only [byteLength_cons] at h
            omega
  | case2 n =>
      simp only [reduceCtorEq, false_iff, not_and]
      intro h
      have : before = [] := by
        cases before with
        | nil => rfl
        | cons c rest => simp at h
      simp [this]
  | case3 n c cs hc ih =>
      simp only [Option.map_eq_some_iff, Prod.exists, Prod.mk.injEq]
      constructor
      · rintro ⟨xs, ys, hxs, rfl, rfl⟩
        obtain ⟨rfl, hlen⟩ := ih.1 hxs
        simp only [List.cons_append, byteLength_cons, true_and]
        omega
      · rintro ⟨h, hlen⟩
        cases before with
        | nil => simp at hlen
        | cons d rest =>
            simp only [List.cons_append, List.cons.injEq] at h
            obtain ⟨rfl, rfl⟩ := h
            simp only [byteLength_cons] at hlen
            exact ⟨rest, after, ih.2 ⟨rfl, by omega⟩, rfl, rfl⟩
  | case4 n c cs hc =>
      simp only [reduceCtorEq, false_iff, not_and]
      intro h
      cases before with
      | nil => simp
      | cons d rest =>
          simp only [List.cons_append, List.cons.injEq] at h
          obtain ⟨rfl, rfl⟩ := h
          simp only [byteLength_cons]
          omega

end TokenEcho.Text
