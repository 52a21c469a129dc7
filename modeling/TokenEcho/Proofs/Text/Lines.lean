import TokenEcho.Proofs.Text.Encoding

/-!
# Pieces between marks

A list is cut after each mark in it, so its pieces lie one behind another and each but perhaps the
last one ends in the mark. A mark is an element of any kind, since the lines of a text are cut both
in its characters and in its bytes; `splitAfter_bytesOf` says that both cuts are the same one.
-/

namespace TokenEcho.Text

section Pieces

variable {α : Type} [DecidableEq α] (mark : α)

/-- The pieces of a list, each up to its first mark. What comes after the last mark is a piece too,
unless it is empty. -/
def splitAfter : List α → List (List α)
  | [] => []
  | x :: rest =>
      if x = mark then [x] :: splitAfter rest
      else
        match splitAfter rest with
        | [] => [[x]]
        | piece :: pieces => (x :: piece) :: pieces

/-- Leaves out the last element if it is the given one. -/
def dropLastIf (last : α) (xs : List α) : List α :=
  if xs.getLast? = some last then xs.dropLast else xs

variable {mark}

@[simp] theorem splitAfter_nil : splitAfter mark [] = [] := rfl

theorem splitAfter_of_not_mem {body : List α} (h : mark ∉ body) (hne : body ≠ []) :
    splitAfter mark body = [body] := by
  induction body with
  | nil => exact absurd rfl hne
  | cons x rest ih =>
      obtain ⟨hx, hrest⟩ := not_or.1 (List.mem_cons.not.1 h)
      rw [splitAfter, if_neg (Ne.symm hx)]
      cases rest with
      | nil => rfl
      | cons y rest => rw [ih hrest (List.cons_ne_nil _ _)]

theorem splitAfter_append_mark {body : List α} (h : mark ∉ body) (rest : List α) :
    splitAfter mark (body ++ mark :: rest) = (body ++ [mark]) :: splitAfter mark rest := by
  induction body with
  | nil => rw [List.nil_append, splitAfter, if_pos rfl, List.nil_append]
  | cons x body ih =>
      obtain ⟨hx, hbody⟩ := not_or.1 (List.mem_cons.not.1 h)
      rw [List.cons_append, splitAfter, if_neg (Ne.symm hx), ih hbody]
      rfl

/-- A statement about lists holds if it holds of the empty one, of one without the mark, and of a
piece with its mark in front of a list of which it holds. -/
theorem pieces_induction (mark : α) {motive : List α → Prop} (nil : motive [])
    (last : ∀ body, mark ∉ body → body ≠ [] → motive body)
    (piece : ∀ body rest, mark ∉ body → motive rest → motive (body ++ mark :: rest))
    (xs : List α) : motive xs := by
  by_cases h : mark ∈ xs
  · obtain ⟨body, rest, hxs, hbody⟩ := List.eq_append_cons_of_mem h
    have hlength : rest.length < xs.length := by
      rw [hxs, List.length_append, List.length_cons]
      omega
    rw [hxs]
    exact piece body rest hbody (pieces_induction mark nil last piece rest)
  · by_cases hne : xs = []
    · rw [hne]
      exact nil
    · exact last xs h hne
termination_by xs.length

theorem flatten_splitAfter (xs : List α) : (splitAfter mark xs).flatten = xs := by
  induction xs using pieces_induction mark with
  | nil => rfl
  | last body h hne => rw [splitAfter_of_not_mem h hne, List.flatten_singleton]
  | piece body rest h ih => simp [splitAfter_append_mark h, ih]

/-- A piece that ends in its mark. -/
def IsClosed (mark : α) (piece : List α) : Prop := ∃ body, mark ∉ body ∧ piece = body ++ [mark]

theorem closed_or_last_of_mem_splitAfter {xs piece : List α} (h : piece ∈ splitAfter mark xs) :
    IsClosed mark piece ∨ mark ∉ piece ∧ piece ≠ [] := by
  induction xs using pieces_induction mark with
  | nil => exact absurd h List.not_mem_nil
  | last body hbody hne =>
      rw [splitAfter_of_not_mem hbody hne, List.mem_singleton] at h
      exact .inr (h ▸ ⟨hbody, hne⟩)
  | piece body rest hbody ih =>
      rw [splitAfter_append_mark hbody, List.mem_cons] at h
      rcases h with rfl | h
      · exact .inl ⟨body, hbody, rfl⟩
      · exact ih h

theorem isClosed_of_getLast? {xs piece : List α} (h : piece ∈ splitAfter mark xs)
    (hlast : piece.getLast? = some mark) : IsClosed mark piece := by
  rcases closed_or_last_of_mem_splitAfter h with hclosed | ⟨hnot, -⟩
  · exact hclosed
  · exact absurd (List.mem_of_getLast? hlast) hnot

/-- Only the last piece can be without its mark. -/
theorem isClosed_of_before {xs : List α} {before after : List (List α)} {next : List α}
    (h : splitAfter mark xs = before ++ next :: after) : ∀ piece ∈ before, IsClosed mark piece := by
  induction xs using pieces_induction mark generalizing before with
  | nil => exact absurd h.symm (List.append_ne_nil_of_right_ne_nil _ (List.cons_ne_nil _ _))
  | last body hbody hne =>
      rw [splitAfter_of_not_mem hbody hne] at h
      cases before with
      | nil => simp
      | cons piece before => simp at h
  | piece body rest hbody ih =>
      rw [splitAfter_append_mark hbody] at h
      cases before with
      | nil => simp
      | cons piece before =>
          obtain ⟨rfl, hrest⟩ := List.cons.inj h
          exact List.forall_mem_cons.2 ⟨⟨body, hbody, rfl⟩, ih hrest⟩

/-- Closed pieces are cut where they were put together, whatever comes after them. -/
theorem splitAfter_flatten_append {pieces : List (List α)}
    (h : ∀ piece ∈ pieces, IsClosed mark piece) (rest : List α) :
    splitAfter mark (pieces.flatten ++ rest) = pieces ++ splitAfter mark rest := by
  induction pieces with
  | nil => rfl
  | cons piece pieces ih =>
      obtain ⟨⟨body, hbody, rfl⟩, hpieces⟩ := List.forall_mem_cons.1 h
      rw [List.flatten_cons, List.append_assoc, List.append_assoc, List.singleton_append,
        splitAfter_append_mark hbody, ih hpieces, List.cons_append]

theorem dropLastIf_concat (xs : List α) : dropLastIf mark (xs ++ [mark]) = xs := by
  rw [dropLastIf, if_pos List.getLast?_concat, List.dropLast_concat]

theorem dropLastIf_of_getLast?_ne {xs : List α} (h : xs.getLast? ≠ some mark) :
    dropLastIf mark xs = xs := if_neg h

theorem dropLastIf_of_not_mem {xs : List α} (h : mark ∉ xs) : dropLastIf mark xs = xs :=
  dropLastIf_of_getLast?_ne fun hlast => h (List.mem_of_getLast? hlast)

theorem dropLastIf_eq_self_iff {xs : List α} :
    dropLastIf mark xs = xs ↔ xs.getLast? ≠ some mark := by
  refine ⟨fun h hlast => ?_, dropLastIf_of_getLast?_ne⟩
  obtain ⟨body, rfl⟩ := List.getLast?_eq_some_iff.1 hlast
  rw [dropLastIf_concat] at h
  exact absurd (congrArg List.length h) (by simp)

theorem dropLastIf_prefix_self (last : α) (xs : List α) : dropLastIf last xs <+: xs := by
  rw [dropLastIf]
  split
  · exact List.dropLast_prefix xs
  · exact List.prefix_refl xs

theorem eq_or_eq_concat_dropLastIf (last : α) (xs : List α) :
    xs = dropLastIf last xs ∨ xs = dropLastIf last xs ++ [last] := by
  by_cases h : xs.getLast? = some last
  · obtain ⟨body, rfl⟩ := List.getLast?_eq_some_iff.1 h
    exact .inr (by rw [dropLastIf_concat])
  · exact .inl (dropLastIf_of_getLast?_ne h).symm

end Pieces

/-! ### Pieces of a text and of its bytes -/

section Bytes

variable {c : Char} {b : UInt8} (hc : String.utf8EncodeChar c = [b])

include hc

theorem bytesOf_concat (cs : List Char) : bytesOf (cs ++ [c]) = bytesOf cs ++ [b] := by
  rw [bytesOf_append, ← hc, bytesOf, bytesOf, List.flatMap_singleton]

theorem splitAfter_bytesOf (cs : List Char) :
    splitAfter b (bytesOf cs) = (splitAfter c cs).map bytesOf := by
  induction cs using pieces_induction c with
  | nil => rfl
  | last body h hne =>
      have hbytes : b ∉ bytesOf body := (mem_bytesOf_iff hc body).not.2 h
      have hbytesNe : bytesOf body ≠ [] := fun h => hne (bytesOf_injective h)
      rw [splitAfter_of_not_mem h hne, splitAfter_of_not_mem hbytes hbytesNe]
      rfl
  | piece body rest h ih =>
      have hbytes : b ∉ bytesOf body := (mem_bytesOf_iff hc body).not.2 h
      have htext : bytesOf (body ++ c :: rest) = bytesOf body ++ b :: bytesOf rest := by
        rw [List.append_cons, bytesOf_append, bytesOf_concat hc, List.append_assoc]
        rfl
      rw [htext, splitAfter_append_mark h, splitAfter_append_mark hbytes, ih, List.map_cons,
        bytesOf_concat hc]

theorem dropLastIf_bytesOf (cs : List Char) :
    dropLastIf b (bytesOf cs) = bytesOf (dropLastIf c cs) := by
  by_cases h : cs.getLast? = some c
  · obtain ⟨body, rfl⟩ := List.getLast?_eq_some_iff.1 h
    rw [bytesOf_concat hc, dropLastIf_concat, dropLastIf_concat]
  · rw [dropLastIf_of_getLast?_ne h,
      dropLastIf_of_getLast?_ne ((getLast?_bytesOf_eq_some_iff hc cs).not.2 h)]

end Bytes

end TokenEcho.Text
