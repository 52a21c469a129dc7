/-!
# Paths

A path is a text, read as segments between slashes. Empty segments and `.` lead nowhere and count
for nothing, except for a `.` at the start of a relative path. A system may also have names of bytes
that are no text; a path through such a name has no place here.
-/

namespace TokenEcho

/-- A path that is a text. -/
structure Path where
  text : String
deriving DecidableEq, Inhabited

namespace Path

def splitSlashes : List Char → List (List Char)
  | [] => [[]]
  | c :: rest =>
      if c = '/' then [] :: splitSlashes rest
      else
        match splitSlashes rest with
        | [] => [[c]]
        | segment :: more => (c :: segment) :: more

def joinSlashes : List (List Char) → List Char
  | [] => []
  | [segment] => segment
  | segment :: rest => segment ++ '/' :: joinSlashes rest

def isAbsolute (p : Path) : Bool := p.text.toList.head? == some '/'

/-- The text of a path below the root, or all of a relative one. -/
def body (p : Path) : List Char := if p.isAbsolute then p.text.toList.tail else p.text.toList

def segments (p : Path) : List (List Char) :=
  if p.body = [] then [] else splitSlashes p.body

def ofSegments (absolute : Bool) (segments : List (List Char)) : Path :=
  ⟨String.ofList ((if absolute then ['/'] else []) ++ joinSlashes segments)⟩

/-- Segments that lead nowhere. -/
def isIdle (segment : List Char) : Bool := segment == [] || segment == ['.']

def dropIdle (segments : List (List Char)) : List (List Char) :=
  (segments.reverse.dropWhile isIdle).reverse

def trim (absolute : Bool) (segments : List (List Char)) : List (List Char) :=
  match absolute, segments with
  | false, ['.'] :: rest => ['.'] :: dropIdle rest
  | _, segments => dropIdle segments

/-- The path without its last component. The root and the empty path have none. -/
def parent? (p : Path) : Option Path :=
  match trim p.isAbsolute p.segments with
  | [] => none
  | segments => some (ofSegments p.isAbsolute (trim p.isAbsolute segments.dropLast))

/-- The last component, unless it is `.` or `..`. -/
def fileName? (p : Path) : Option String :=
  ((trim p.isAbsolute p.segments).getLast?.filter fun name =>
    name != ['.'] && name != ['.', '.']).map String.ofList

def join (p : Path) (name : String) : Path :=
  if p.text.toList.getLast?.all (· == '/') then ⟨p.text ++ name⟩ else ⟨p.text ++ "/" ++ name⟩

/-- Segments as they come from a text: none has a slash, and a relative path does not start with an
empty one. -/
structure Cut (absolute : Bool) (segments : List (List Char)) : Prop where
  noSlash : ∀ s ∈ segments, '/' ∉ s
  head : absolute = false → segments.head? ≠ some []

theorem splitSlashes_ne_nil (cs : List Char) : splitSlashes cs ≠ [] := by
  cases cs with
  | nil => simp [splitSlashes]
  | cons c rest =>
      simp only [splitSlashes]
      split
      · simp
      · split <;> simp

theorem joinSlashes_cons {segment : List Char} {rest : List (List Char)} (h : rest ≠ []) :
    joinSlashes (segment :: rest) = segment ++ '/' :: joinSlashes rest := by
  cases rest with
  | nil => exact absurd rfl h
  | cons s rest => rfl

theorem noSlash_of_mem_splitSlashes {cs : List Char} : ∀ s ∈ splitSlashes cs, '/' ∉ s := by
  induction cs with
  | nil => simp [splitSlashes]
  | cons c rest ih =>
      simp only [splitSlashes]
      split
      · intro s hs
        rcases List.mem_cons.1 hs with rfl | hs
        · simp
        · exact ih s hs
      · next hc =>
          have hc' : '/' ≠ c := fun h => hc h.symm
          split
          · simp [hc']
          · next segment more heq =>
              intro s hs
              rw [heq] at ih
              rcases List.mem_cons.1 hs with rfl | hs
              · simpa [hc'] using ih segment (by simp)
              · exact ih s (by simp [hs])

theorem joinSlashes_splitSlashes (cs : List Char) : joinSlashes (splitSlashes cs) = cs := by
  induction cs with
  | nil => rfl
  | cons c rest ih =>
      simp only [splitSlashes]
      split
      · next hc => rw [joinSlashes_cons (splitSlashes_ne_nil rest), ih, hc, List.nil_append]
      · split
        · next heq => exact absurd heq (splitSlashes_ne_nil rest)
        · next segment more heq =>
            rw [heq] at ih
            cases more with
            | nil => simpa [joinSlashes] using ih
            | cons s more => simpa [joinSlashes] using ih

theorem splitSlashes_of_noSlash {s : List Char} (h : '/' ∉ s) : splitSlashes s = [s] := by
  induction s with
  | nil => rfl
  | cons c rest ih =>
      have hc : c ≠ '/' := fun hc => h (by simp [hc])
      simp only [splitSlashes, hc, if_false]
      rw [ih fun hr => h (List.mem_cons_of_mem c hr)]

theorem splitSlashes_append {s : List Char} (h : '/' ∉ s) (rest : List Char) :
    splitSlashes (s ++ '/' :: rest) = s :: splitSlashes rest := by
  induction s with
  | nil => simp [splitSlashes]
  | cons c s ih =>
      have hc : c ≠ '/' := fun hc => h (by simp [hc])
      simp only [List.cons_append, splitSlashes, hc, if_false]
      rw [ih fun hr => h (List.mem_cons_of_mem c hr)]

theorem splitSlashes_joinSlashes {segments : List (List Char)} (hne : segments ≠ [])
    (h : ∀ s ∈ segments, '/' ∉ s) : splitSlashes (joinSlashes segments) = segments := by
  induction segments with
  | nil => exact absurd rfl hne
  | cons s rest ih =>
      cases rest with
      | nil => exact splitSlashes_of_noSlash (h s (by simp))
      | cons r rest =>
          rw [joinSlashes_cons (by simp), splitSlashes_append (h s (by simp)),
            ih (by simp) fun x hx => h x (by simp [hx])]

theorem joinSlashes_eq_nil_iff {segments : List (List Char)} :
    joinSlashes segments = [] ↔ segments = [] ∨ segments = [[]] := by
  cases segments with
  | nil => simp [joinSlashes]
  | cons s rest =>
      cases rest with
      | nil => simp [joinSlashes]
      | cons r rest => simp [joinSlashes]

theorem segments_ofSegments {absolute : Bool} {segments : List (List Char)}
    (hcut : Cut absolute segments) (hne : segments ≠ [[]]) :
    (ofSegments absolute segments).segments = segments ∧
      (ofSegments absolute segments).isAbsolute = absolute := by
  have hsplit : (if joinSlashes segments = [] then [] else splitSlashes (joinSlashes segments))
      = segments := by
    split
    · next h => exact ((joinSlashes_eq_nil_iff.1 h).resolve_right hne).symm
    · next h =>
        refine splitSlashes_joinSlashes (fun h' => h ?_) hcut.noSlash
        simp [h', joinSlashes]
  have habs : (ofSegments absolute segments).isAbsolute = absolute := by
    cases absolute with
    | true => simp [isAbsolute, ofSegments]
    | false =>
        simp only [isAbsolute, ofSegments, Bool.false_eq_true, if_false, List.nil_append,
          String.toList_ofList, beq_eq_false_iff_ne]
        intro hhead
        have hslash := hcut.head rfl
        cases segments with
        | nil => simp [joinSlashes] at hhead
        | cons s rest =>
            cases s with
            | nil => exact hslash rfl
            | cons c s =>
                have hc : c ≠ '/' := fun hc => hcut.noSlash (c :: s) (by simp) (by simp [hc])
                cases rest <;> simp [joinSlashes, hc] at hhead
  refine ⟨?_, habs⟩
  have hbody : (ofSegments absolute segments).body = joinSlashes segments := by
    simp only [body, habs]
    cases absolute <;> simp [ofSegments]
  simp only [Path.segments, hbody]
  exact hsplit

theorem cut_segments (p : Path) : Cut p.isAbsolute p.segments := by
  refine ⟨fun s hs => ?_, fun habs => ?_⟩
  · simp only [segments] at hs
    split at hs
    · simp at hs
    · exact noSlash_of_mem_splitSlashes s hs
  · have hbody : p.body = p.text.toList := by simp [body, habs]
    simp only [isAbsolute, beq_eq_false_iff_ne] at habs
    simp only [segments, hbody]
    split
    · simp
    · next hne =>
        cases hcs : p.text.toList with
        | nil => exact absurd hcs hne
        | cons c rest =>
            rw [hcs] at habs
            have hc : c ≠ '/' := fun hc => habs (by simp [hc])
            simp only [splitSlashes, hc, if_false]
            split <;> simp

theorem dropIdle_prefix_self (segments : List (List Char)) : dropIdle segments <+: segments := by
  have := List.dropWhile_suffix isIdle (l := segments.reverse)
  simpa [dropIdle] using List.reverse_prefix.2 this

theorem trim_prefix_self (absolute : Bool) (segments : List (List Char)) :
    trim absolute segments <+: segments := by
  unfold trim
  split
  · exact (List.prefix_cons_inj _).2 (dropIdle_prefix_self _)
  · exact dropIdle_prefix_self _

theorem dropIdle_ne_singleton_nil (segments : List (List Char)) : dropIdle segments ≠ [[]] := by
  intro h
  have hrev : segments.reverse.dropWhile isIdle = [[]] := by
    rw [← List.reverse_reverse (segments.reverse.dropWhile isIdle)]
    exact congrArg List.reverse h
  have := List.head_dropWhile_not isIdle (l := segments.reverse) (by simp [hrev])
  simp [hrev, isIdle] at this

theorem trim_ne_singleton_nil (absolute : Bool) (segments : List (List Char)) :
    trim absolute segments ≠ [[]] := by
  unfold trim
  split
  · simp
  · exact dropIdle_ne_singleton_nil _

theorem Cut.of_isPrefix {absolute : Bool} {xs ys : List (List Char)} (h : Cut absolute ys)
    (hxs : xs <+: ys) : Cut absolute xs := by
  refine ⟨fun s hs => h.noSlash s (hxs.subset hs), fun habs => ?_⟩
  cases xs with
  | nil => simp
  | cons x xs =>
      obtain ⟨zs, rfl⟩ := hxs
      simpa using h.head habs

theorem segments_of_parent? {p above : Path} (h : p.parent? = some above) :
    above.segments = trim p.isAbsolute (trim p.isAbsolute p.segments).dropLast ∧
      above.isAbsolute = p.isAbsolute ∧ trim p.isAbsolute p.segments ≠ [] := by
  unfold parent? at h
  split at h
  · simp at h
  · next hne =>
      simp only [Option.some.injEq] at h
      subst h
      have hprefix := (trim_prefix_self p.isAbsolute (trim p.isAbsolute p.segments).dropLast).trans
        ((List.dropLast_prefix _).trans (trim_prefix_self p.isAbsolute p.segments))
      have := segments_ofSegments (p.cut_segments.of_isPrefix hprefix) (trim_ne_singleton_nil _ _)
      exact ⟨this.1, this.2, hne⟩

theorem parent?_segments_length_lt {p above : Path} (h : p.parent? = some above) :
    above.segments.length < p.segments.length := by
  obtain ⟨hsegments, -, hne⟩ := segments_of_parent? h
  rw [hsegments]
  have := (trim_prefix_self p.isAbsolute (trim p.isAbsolute p.segments).dropLast).length_le
  have := (trim_prefix_self p.isAbsolute p.segments).length_le
  have := List.length_pos_iff.2 hne
  simp only [List.length_dropLast] at *
  omega

/-- The path and the ones above it, from the nearest on. -/
def ancestors (p : Path) : List Path :=
  match h : p.parent? with
  | none => [p]
  | some above =>
      have := parent?_segments_length_lt h
      p :: above.ancestors
termination_by p.segments.length

end Path

end TokenEcho
