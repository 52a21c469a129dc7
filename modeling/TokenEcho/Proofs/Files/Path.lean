import Mathlib.Data.List.Induction
import TokenEcho.Files.Path

/-!
# Components of a path

A path has one text among many: slashes may be doubled, and `.` may stand where it leads nowhere.
What counts are its components, and every operation on paths is one on lists of them. The parent
drops the last one, and joining a name adds one, so the parent of a joined path is the path again,
perhaps with another text.
-/

namespace TokenEcho.Path

/-- The segments that count: those that lead somewhere, and a `.` in front of a relative path. -/
def named (absolute : Bool) (segments : List (List Char)) : List (List Char) :=
  match absolute, segments with
  | false, ['.'] :: rest => ['.'] :: rest.filter (! isIdle ·)
  | _, segments => segments.filter (! isIdle ·)

def components (p : Path) : List (List Char) := named p.isAbsolute p.segments

/-- Two texts of one path. -/
structure Same (p q : Path) : Prop where
  isAbsolute_eq : p.isAbsolute = q.isAbsolute
  components_eq : p.components = q.components

/-! ### Idle segments at the end -/

theorem dropIdle_concat_of_isIdle {s : List Char} (h : isIdle s) (segments : List (List Char)) :
    dropIdle (segments ++ [s]) = dropIdle segments := by
  simp [dropIdle, h]

theorem dropIdle_concat_of_not_isIdle {s : List Char} (h : isIdle s = false)
    (segments : List (List Char)) : dropIdle (segments ++ [s]) = segments ++ [s] := by
  simp [dropIdle, h]

theorem filter_dropIdle (segments : List (List Char)) :
    (dropIdle segments).filter (! isIdle ·) = segments.filter (! isIdle ·) := by
  induction segments using List.reverseRecOn with
  | nil => rfl
  | append_singleton segments s ih =>
      cases h : isIdle s with
      | true => simp [dropIdle_concat_of_isIdle h, ih, h]
      | false => rw [dropIdle_concat_of_not_isIdle h]

theorem filter_dropLast_dropIdle (segments : List (List Char)) :
    (dropIdle segments).dropLast.filter (! isIdle ·) =
      (segments.filter (! isIdle ·)).dropLast := by
  induction segments using List.reverseRecOn with
  | nil => rfl
  | append_singleton segments s ih =>
      cases h : isIdle s with
      | true => simp [dropIdle_concat_of_isIdle h, ih, h]
      | false => simp [dropIdle_concat_of_not_isIdle h, h]

theorem dropIdle_eq_nil_iff (segments : List (List Char)) :
    dropIdle segments = [] ↔ segments.filter (! isIdle ·) = [] := by
  induction segments using List.reverseRecOn with
  | nil => exact iff_of_true rfl rfl
  | append_singleton segments s ih =>
      cases h : isIdle s with
      | true => simp [dropIdle_concat_of_isIdle h, ih, h]
      | false => simp [dropIdle_concat_of_not_isIdle h, h]

/-! ### A dot in front -/

/-- There is no `.` in front that counts. -/
def NoDot (absolute : Bool) (segments : List (List Char)) : Prop :=
  absolute = false → segments.head? ≠ some ['.']

theorem NoDot.of_isPrefix {absolute : Bool} {xs ys : List (List Char)} (h : NoDot absolute ys)
    (hxs : xs <+: ys) : NoDot absolute xs := by
  intro habs hhead
  obtain ⟨zs, rfl⟩ := hxs
  apply h habs
  rw [List.head?_append, hhead]
  rfl

theorem dot_or_noDot (absolute : Bool) (segments : List (List Char)) :
    (absolute = false ∧ ∃ rest, segments = ['.'] :: rest) ∨ NoDot absolute segments := by
  by_cases h : absolute = false ∧ segments.head? = some ['.']
  · obtain ⟨rest, hrest⟩ := List.head?_eq_some_iff.1 h.2
    exact .inl ⟨h.1, rest, hrest⟩
  · exact .inr fun habs hhead => h ⟨habs, hhead⟩

theorem trim_eq_dropIdle {absolute : Bool} {segments : List (List Char)}
    (h : NoDot absolute segments) : trim absolute segments = dropIdle segments := by
  unfold trim
  split
  · exact absurd rfl (h rfl)
  · rfl

theorem named_eq_filter {absolute : Bool} {segments : List (List Char)}
    (h : NoDot absolute segments) : named absolute segments = segments.filter (! isIdle ·) := by
  unfold named
  split
  · exact absurd rfl (h rfl)
  · rfl

section

variable (absolute : Bool) (segments : List (List Char))

theorem named_trim : named absolute (trim absolute segments) = named absolute segments := by
  obtain ⟨rfl, rest, rfl⟩ | h := dot_or_noDot absolute segments
  · exact congrArg (['.'] :: ·) (filter_dropIdle rest)
  · have htrim := h.of_isPrefix (dropIdle_prefix_self segments)
    rw [trim_eq_dropIdle h, named_eq_filter htrim, named_eq_filter h, filter_dropIdle]

theorem named_dropLast_trim :
    named absolute (trim absolute segments).dropLast = (named absolute segments).dropLast := by
  obtain ⟨rfl, rest, rfl⟩ | h := dot_or_noDot absolute segments
  · change named false (['.'] :: dropIdle rest).dropLast =
      (['.'] :: rest.filter (! isIdle ·)).dropLast
    by_cases hidle : dropIdle rest = []
    · rw [hidle, (dropIdle_eq_nil_iff rest).1 hidle]
      rfl
    · rw [List.dropLast_cons_of_ne_nil hidle,
        List.dropLast_cons_of_ne_nil (mt (dropIdle_eq_nil_iff rest).2 hidle),
        ← filter_dropLast_dropIdle]
      rfl
  · have hdrop := h.of_isPrefix
      ((List.dropLast_prefix _).trans (dropIdle_prefix_self segments))
    rw [trim_eq_dropIdle h, named_eq_filter hdrop, named_eq_filter h, filter_dropLast_dropIdle]

theorem trim_eq_nil_iff : trim absolute segments = [] ↔ named absolute segments = [] := by
  obtain ⟨rfl, rest, rfl⟩ | h := dot_or_noDot absolute segments
  · exact iff_of_false (List.cons_ne_nil _ _) (List.cons_ne_nil _ _)
  · rw [trim_eq_dropIdle h, named_eq_filter h, dropIdle_eq_nil_iff]

theorem named_concat {s : List Char} (h : s ≠ ['.']) :
    named absolute (segments ++ [s]) = named absolute segments ++ [s].filter (! isIdle ·) := by
  obtain ⟨rfl, rest, rfl⟩ | hfront := dot_or_noDot absolute segments
  · change ['.'] :: (rest ++ [s]).filter (! isIdle ·) = _
    rw [List.filter_append]
    rfl
  · have hboth : NoDot absolute (segments ++ [s]) := by
      intro habs
      cases segments with
      | nil => simpa using h
      | cons first rest => exact hfront habs
    rw [named_eq_filter hboth, named_eq_filter hfront, List.filter_append]

end

/-! ### The parent -/

theorem parent?_eq_none_iff (p : Path) : p.parent? = none ↔ p.components = [] := by
  rw [components, ← trim_eq_nil_iff, parent?]
  split
  · next h => exact iff_of_true rfl h
  · next h => exact iff_of_false nofun h

theorem components_of_parent? {p above : Path} (h : p.parent? = some above) :
    above.isAbsolute = p.isAbsolute ∧ above.components = p.components.dropLast := by
  obtain ⟨hsegments, habs, -⟩ := segments_of_parent? h
  refine ⟨habs, ?_⟩
  rw [components, components, habs, hsegments, named_trim, named_dropLast_trim]

/-! ### Joining a name -/

theorem splitSlashes_append_slash (xs ys : List Char) :
    splitSlashes (xs ++ '/' :: ys) = splitSlashes xs ++ splitSlashes ys := by
  induction xs with
  | nil => simp [splitSlashes]
  | cons c xs ih =>
      simp only [List.cons_append, splitSlashes, ih]
      split
      · rfl
      · cases h : splitSlashes xs with
        | nil => exact absurd h (splitSlashes_ne_nil xs)
        | cons s more => rfl

theorem body_append {p : Path} (h : p.text.toList ≠ []) (more : String) :
    (⟨p.text ++ more⟩ : Path).isAbsolute = p.isAbsolute ∧
      (⟨p.text ++ more⟩ : Path).body = p.body ++ more.toList := by
  obtain ⟨c, cs, hcs⟩ := List.exists_cons_of_ne_nil h
  have habs : (⟨p.text ++ more⟩ : Path).isAbsolute = p.isAbsolute := by
    simp [isAbsolute, hcs]
  refine ⟨habs, ?_⟩
  rw [body, body, habs]
  split <;> simp [hcs]

theorem body_concat {p : Path} {front : List Char} {c : Char} (h : p.text.toList = front ++ [c]) :
    (p.body = [] ∧ c = '/') ∨ ∃ front', p.body = front' ++ [c] := by
  rw [body, h]
  cases habs : p.isAbsolute with
  | false => exact .inr ⟨front, rfl⟩
  | true =>
      cases front with
      | nil =>
          rw [isAbsolute, h] at habs
          exact .inl ⟨rfl, by simpa using habs⟩
      | cons d front => exact .inr ⟨front, rfl⟩

theorem segments_of_ne_nil {p : Path} (h : p.body ≠ []) : p.segments = splitSlashes p.body := by
  rw [segments, if_neg h]

section

variable (p : Path) {name : String} (hslash : '/' ∉ name.toList)

include hslash

/-- A slash comes in front of the name, unless there is one already, or nothing at all. -/
theorem body_join :
    (p.join name).isAbsolute = p.isAbsolute ∧
      ((p.body = [] ∨ ∃ front, p.body = front ++ ['/']) ∧
          (p.join name).body = p.body ++ name.toList ∨
        p.body ≠ [] ∧ (p.join name).body = p.body ++ '/' :: name.toList) := by
  obtain hempty | ⟨front, c, hfront⟩ := List.eq_nil_or_concat p.text.toList
  -- Only here may the name come to stand at the start of the text.
  · have hhead : name.toList.head? ≠ some '/' := fun h => hslash (List.mem_of_head? h)
    have habs : p.isAbsolute = false := by simp [isAbsolute, hempty]
    have hbody : p.body = [] := by simp [body, habs, hempty]
    have hjoin : (p.join name).text.toList = name.toList := by simp [join, hempty]
    have habs' : (p.join name).isAbsolute = false := by simp [isAbsolute, hjoin, hhead]
    refine ⟨habs'.trans habs.symm, .inl ⟨.inl hbody, ?_⟩⟩
    rw [body, habs', hbody, ← hjoin]
    rfl
  · rw [List.concat_eq_append] at hfront
    have htext : p.text.toList ≠ [] := by simp [hfront]
    by_cases hc : c = '/'
    · have hjoin : p.join name = ⟨p.text ++ name⟩ := by simp [join, hfront, hc]
      obtain ⟨habs, hbody⟩ := body_append htext name
      rw [hjoin]
      refine ⟨habs, .inl ⟨?_, hbody⟩⟩
      rw [hc] at hfront
      obtain ⟨hroot, -⟩ | hends := body_concat hfront
      · exact .inl hroot
      · exact .inr hends
    · have hjoin : p.join name = ⟨p.text ++ ("/" ++ name)⟩ := by
        simp [join, hfront, hc, String.append_assoc]
      obtain ⟨habs, hbody⟩ := body_append htext ("/" ++ name)
      rw [hjoin]
      refine ⟨habs, .inr ⟨?_, by rw [hbody, String.toList_append]; rfl⟩⟩
      obtain ⟨-, hroot⟩ | ⟨front', hfront'⟩ := body_concat hfront
      · exact absurd hroot hc
      · simp [hfront']

/-- A name that is joined is a segment of its own, and takes the place of an empty one. -/
theorem segments_join (hne : name.toList ≠ []) :
    ∃ front, (p.join name).segments = front ++ [name.toList] ∧
      (p.segments = front ∨ p.segments = front ++ [[]]) := by
  have hsplit := splitSlashes_of_noSlash hslash
  obtain ⟨-, ⟨hempty | ⟨front, hfront⟩, hbody⟩ | ⟨hbodyne, hbody⟩⟩ := p.body_join hslash
  · rw [hempty, List.nil_append] at hbody
    refine ⟨[], ?_, .inl ?_⟩
    · rw [segments_of_ne_nil (hbody ▸ hne), hbody, hsplit, List.nil_append]
    · rw [segments, if_pos hempty]
  · rw [hfront, List.append_assoc, List.singleton_append] at hbody
    refine ⟨splitSlashes front, ?_, .inr ?_⟩
    · rw [segments_of_ne_nil (by simp [hbody]), hbody, splitSlashes_append_slash, hsplit]
    · rw [segments_of_ne_nil (by simp [hfront]), hfront, splitSlashes_append_slash]
      rfl
  · refine ⟨splitSlashes p.body, ?_, .inl (segments_of_ne_nil hbodyne)⟩
    rw [segments_of_ne_nil (by simp [hbody]), hbody, splitSlashes_append_slash, hsplit]

theorem components_join (hlive : isIdle name.toList = false) :
    (p.join name).components = p.components ++ [name.toList] := by
  obtain ⟨hne, hdot⟩ : name.toList ≠ [] ∧ name.toList ≠ ['.'] := by simpa [isIdle] using hlive
  obtain ⟨front, hjoin, hsegments⟩ := p.segments_join hslash hne
  have hfront : p.components = named p.isAbsolute front := by
    rw [components]
    obtain hsegments | hsegments := hsegments
    · rw [hsegments]
    · rw [hsegments, named_concat _ _ (by decide)]
      simp [isIdle]
  rw [components, (p.body_join hslash).1, hjoin, named_concat _ _ hdot, ← hfront,
    List.filter_cons_of_pos (by simp [hlive]), List.filter_nil]

/-- The parent of a name in a directory is the directory. -/
theorem exists_parent?_join (hlive : isIdle name.toList = false) :
    ∃ above, (p.join name).parent? = some above ∧ above.Same p := by
  have hjoin := p.components_join hslash hlive
  have hparent : (p.join name).parent? ≠ none := by
    rw [Ne, parent?_eq_none_iff, hjoin]
    exact List.concat_ne_nil _ _
  obtain ⟨above, habove⟩ := Option.ne_none_iff_exists'.1 hparent
  obtain ⟨habs, hcomponents⟩ := components_of_parent? habove
  refine ⟨above, habove, habs.trans (p.body_join hslash).1, ?_⟩
  rw [hcomponents, hjoin, List.dropLast_concat]

end

/-! ### The way up -/

/-- The path above a path by some steps. -/
def up? (p : Path) : Nat → Option Path
  | 0 => some p
  | i + 1 => (p.up? i).bind parent?

theorem up?_succ (p : Path) (i : Nat) : p.up? (i + 1) = p.parent?.bind (·.up? i) := by
  induction i with
  | zero => simp [up?]
  | succ i ih => rw [up?, ih, Option.bind_assoc]; rfl

theorem getElem?_ancestors (p : Path) (i : Nat) : p.ancestors[i]? = p.up? i := by
  fun_induction ancestors p generalizing i with
  | case1 p hparent =>
      cases i with
      | zero => rfl
      | succ i => rw [up?_succ, hparent]; rfl
  | case2 p above hparent _ ih =>
      cases i with
      | zero => rfl
      | succ i => rw [up?_succ, hparent, List.getElem?_cons_succ, ih]; rfl

/-- Going up drops the last components, one with each step. -/
theorem components_of_up? {p a : Path} {i : Nat} (h : p.up? i = some a) :
    a.isAbsolute = p.isAbsolute ∧ a.components = p.components.take (p.components.length - i) := by
  induction i generalizing a with
  | zero =>
      obtain rfl : p = a := Option.some.inj h
      simp
  | succ i ih =>
      obtain ⟨b, hb, hparent⟩ := Option.bind_eq_some_iff.1 h
      obtain ⟨habs, hcomponents⟩ := ih hb
      obtain ⟨habs', hcomponents'⟩ := components_of_parent? hparent
      refine ⟨habs'.trans habs, ?_⟩
      rw [hcomponents', hcomponents, List.dropLast_eq_take, List.length_take, List.take_take]
      congr 1
      omega

/-- The way up ends when no component is left. -/
theorem isSome_up?_iff (p : Path) (i : Nat) : (p.up? i).isSome ↔ i ≤ p.components.length := by
  induction i with
  | zero => exact iff_of_true rfl (Nat.zero_le _)
  | succ i ih =>
      cases hup : p.up? i with
      | none =>
          rw [hup] at ih
          have hi : ¬ i ≤ p.components.length := mt ih.2 nofun
          rw [up?, hup]
          exact iff_of_false nofun (by omega)
      | some a =>
          have hi : i ≤ p.components.length := ih.1 (by rw [hup]; rfl)
          have hlength := congrArg List.length (components_of_up? hup).2
          rw [List.length_take] at hlength
          have hparent := (parent?_eq_none_iff a).trans List.length_eq_zero_iff.symm
          rw [up?, hup, Option.bind_some, ← Option.ne_none_iff_isSome, Ne, hparent]
          omega

end TokenEcho.Path
