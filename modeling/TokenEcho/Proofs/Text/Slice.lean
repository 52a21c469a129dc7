import TokenEcho.Text.Utf8

/-!
# Bytes and characters

A slice is named by byte offsets, and a proof about texts speaks of the characters before, in and
after it. The main statement, `slice?_eq_some_iff`, says that the two are the same thing.
-/

namespace TokenEcho.Text

@[simp] theorem byteLength_toList (s : String) : byteLength s.toList = s.utf8ByteSize := by
  obtain ⟨cs, rfl⟩ : ∃ cs, s = String.ofList cs := ⟨s.toList, by simp⟩
  rw [String.toList_ofList]
  induction cs with
  | nil => rfl
  | cons c cs ih =>
      rw [byteLength_cons, String.ofList_cons, String.utf8ByteSize_append,
        String.utf8ByteSize_singleton, ih]

theorem length_le_byteLength (cs : List Char) : cs.length ≤ byteLength cs := by
  induction cs with
  | nil => exact Nat.le_refl _
  | cons c cs ih =>
      have := c.utf8Size_pos
      rw [List.length_cons, byteLength_cons]
      omega

theorem byteLength_eq_zero_iff {cs : List Char} : byteLength cs = 0 ↔ cs = [] := by
  refine ⟨fun h => ?_, fun h => h ▸ rfl⟩
  have := length_le_byteLength cs
  exact List.length_eq_zero_iff.1 (by omega)

theorem append_inj_of_byteLength {xs ys zs ws : List Char} (h : xs ++ ys = zs ++ ws)
    (hlen : byteLength xs = byteLength zs) : xs = zs ∧ ys = ws := by
  have hxs : splitAtByte? (byteLength zs) (zs ++ ws) = some (xs, ys) :=
    splitAtByte?_eq_some_iff.2 ⟨h.symm, hlen⟩
  have hzs : splitAtByte? (byteLength zs) (zs ++ ws) = some (zs, ws) :=
    splitAtByte?_eq_some_iff.2 ⟨rfl, rfl⟩
  rw [hxs] at hzs
  simpa using hzs

theorem slice?_eq_some_iff {cs middle : List Char} {start stop : Nat} :
    slice? cs start stop = some middle ↔ ∃ before after, cs = before ++ (middle ++ after) ∧
      byteLength before = start ∧ byteLength (before ++ middle) = stop := by
  unfold slice?
  constructor
  · intro h
    split at h
    · next hle =>
        simp only [Option.bind_eq_bind, Option.bind_eq_some_iff, Option.some.injEq, Prod.exists,
          Option.pure_def] at h
        obtain ⟨before, rest, hbefore, middle, after, hmiddle, rfl⟩ := h
        obtain ⟨rfl, hstart⟩ := splitAtByte?_eq_some_iff.1 hbefore
        obtain ⟨rfl, hstop⟩ := splitAtByte?_eq_some_iff.1 hmiddle
        refine ⟨before, after, rfl, hstart, ?_⟩
        rw [byteLength_append]
        omega
    · simp at h
  · rintro ⟨before, after, rfl, rfl, rfl⟩
    rw [byteLength_append, if_pos (Nat.le_add_right _ _), Nat.add_sub_cancel_left,
      splitAtByte?_eq_some_iff.2 ⟨rfl, rfl⟩]
    simp only [Option.bind_eq_bind, Option.bind_some]
    rw [splitAtByte?_eq_some_iff.2 ⟨rfl, rfl⟩]
    rfl

/-- An offset between two characters of a text, or at one of its ends. -/
def IsBoundary (cs : List Char) (offset : Nat) : Prop :=
  ∃ before after, cs = before ++ after ∧ byteLength before = offset

theorem isSome_slice?_iff {cs : List Char} {start stop : Nat} :
    (slice? cs start stop).isSome ↔ start ≤ stop ∧ IsBoundary cs start ∧ IsBoundary cs stop := by
  constructor
  · intro h
    obtain ⟨middle, hmiddle⟩ := Option.isSome_iff_exists.1 h
    obtain ⟨before, after, rfl, rfl, rfl⟩ := slice?_eq_some_iff.1 hmiddle
    refine ⟨?_, ⟨before, middle ++ after, rfl, rfl⟩, before ++ middle, after, ?_, rfl⟩
    · rw [byteLength_append]
      exact Nat.le_add_right _ _
    · rw [List.append_assoc]
  · rintro ⟨hle, ⟨before, rest, rfl, rfl⟩, before', rest', hcut, rfl⟩
    rcases List.append_eq_append_iff.1 hcut with ⟨middle, rfl, rfl⟩ | ⟨past, rfl, rfl⟩
    · exact Option.isSome_iff_exists.2 ⟨middle, slice?_eq_some_iff.2 ⟨before, rest', rfl, rfl, rfl⟩⟩
    · -- The first offset is not behind the second one, so both are the same place.
      rw [byteLength_append] at hle
      obtain rfl := byteLength_eq_zero_iff.1 (show byteLength past = 0 by omega)
      exact Option.isSome_iff_exists.2
        ⟨[], slice?_eq_some_iff.2 ⟨before', rest, by simp, by simp, by simp⟩⟩

theorem slice?_append (before middle after : List Char) :
    slice? (before ++ (middle ++ after)) (byteLength before) (byteLength (before ++ middle)) =
      some middle :=
  slice?_eq_some_iff.2 ⟨before, after, rfl, rfl, rfl⟩

theorem slice?_zero_eq_some_iff {cs before : List Char} {stop : Nat} :
    slice? cs 0 stop = some before ↔ ∃ after, cs = before ++ after ∧ byteLength before = stop := by
  rw [slice?_eq_some_iff]
  constructor
  · rintro ⟨xs, after, rfl, hstart, rfl⟩
    obtain rfl := byteLength_eq_zero_iff.1 hstart
    exact ⟨after, rfl, rfl⟩
  · rintro ⟨after, rfl, rfl⟩
    exact ⟨[], after, rfl, rfl, rfl⟩

/-- A slice that starts behind a known text is the beginning of what comes after it. -/
theorem exists_after_of_slice? {before rest middle : List Char} {stop : Nat}
    (h : slice? (before ++ rest) (byteLength before) stop = some middle) :
    ∃ after, rest = middle ++ after ∧ byteLength (before ++ middle) = stop := by
  obtain ⟨before', after, htext, hstart, hstop⟩ := slice?_eq_some_iff.1 h
  obtain ⟨rfl, rfl⟩ := append_inj_of_byteLength htext hstart.symm
  exact ⟨after, rfl, hstop⟩

theorem eq_of_slice?_to_end {before rest middle : List Char}
    (h : slice? (before ++ rest) (byteLength before) (byteLength (before ++ rest)) = some middle) :
    rest = middle := by
  obtain ⟨after, rfl, hstop⟩ := exists_after_of_slice? h
  have : byteLength after = 0 := by
    simp only [byteLength_append] at hstop
    omega
  rw [byteLength_eq_zero_iff.1 this, List.append_nil]

end TokenEcho.Text
