import TokenEcho.CommandLine.Arguments
import TokenEcho.Proofs.Steps

/-!
# Arguments in any order

Arguments are read from left to right, and whether one is taken depends on those before it: on the
flags that are given, and on the input. What a single argument does is one of two things,
`take_eq_ok_iff`: it spells a flag and sets it, or it is the input. Steps of these two kinds can
change places unless one of them is an input without a name, and no list of arguments with such an
input is accepted.
-/

namespace TokenEcho

namespace Flag

/-- The flags that options can have. -/
def settable : List Flag := [strict, json, noBanner, verbose]

/-- The ways to write a flag. -/
def spellings (flag : Flag) : List String :=
  ("--" ++ flag.name) :: (flag.letter?.map fun letter => String.ofList ['-', letter]).toList

end Flag

/-- Whether options have a flag set. -/
def Options.sets (o : Options) : Flag → Bool
  | .strict => o.strict
  | .json => o.json
  | .noBanner => o.noBanner
  | .verbose => o.verbose
  | .help => false
  | .version => false

/-- Arguments for options: the flags that are set, in any order and each in one of its spellings,
and then the input behind two dashes. -/
def Options.WrittenAs (o : Options) (arguments : List String) : Prop :=
  ∃ flags spelled, flags.Perm (Flag.settable.filter o.sets) ∧
    List.Forall₂ (fun flag argument => argument ∈ flag.spellings) flags spelled ∧
    arguments = spelled ++ match o.input? with
      | none => []
      | some input => ["--", input.text]

theorem Options.settable_of_sets {o : Options} {flag : Flag} (h : o.sets flag = true) :
    flag ∈ Flag.settable := by
  cases flag <;> first | cases h | exact by decide

theorem Options.eq_of_sets {o o' : Options} (hbanner : o.banner = o'.banner)
    (hinput : o.input? = o'.input?) (hdirectory : o.manifestDirectory? = o'.manifestDirectory?)
    (h : ∀ flag, o.sets flag = o'.sets flag) : o = o' := by
  cases o
  cases o'
  rw [mk.injEq]
  exact ⟨hbanner, hinput, h .strict, h .json, h .noBanner, h .verbose, hdirectory⟩

/-! ### Flags and their spellings -/

namespace Flag

theorem name_injective {flag flag' : Flag} (h : flag.name = flag'.name) : flag = flag' := by
  cases flag <;> cases flag' <;> first | rfl | exact absurd h (by decide)

theorem letter?_injective {flag flag' : Flag} {letter : Char} (h : flag.letter? = some letter)
    (h' : flag'.letter? = some letter) : flag = flag' := by
  cases flag <;> cases h <;> cases flag' <;> cases h' <;> rfl

theorem eq_verbose {flag : Flag} {letter : Char} (hsettable : flag ∈ settable)
    (h : flag.letter? = some letter) : flag = verbose := by
  cases flag <;> first | rfl | exact absurd hsettable (by decide) | cases h

theorem spellings_ne (flag : Flag) :
    ∀ argument ∈ flag.spellings, argument ≠ "" ∧ argument ≠ "--" := by
  cases flag <;> decide

theorem mem_spellings_iff {flag : Flag} {argument : String} :
    argument ∈ flag.spellings ↔ argument = "--" ++ flag.name ∨
      ∃ letter, flag.letter? = some letter ∧ argument = String.ofList ['-', letter] := by
  rw [spellings, List.mem_cons, Option.mem_toList, Option.map_eq_some_iff]
  simp only [eq_comm]

end Flag

namespace Arguments

variable {flags : List Flag} {a b : Arguments} {flag : Flag} {argument : String} {long : Bool}

/-- Whether a flag has been given. -/
def gives (a : Arguments) (flag : Flag) : Bool := (a.toOptions []).sets flag

/-- The arguments with one more flag. -/
def give (a : Arguments) : Flag → Arguments
  | .strict => { a with strict := true }
  | .json => { a with json := true }
  | .noBanner => { a with noBanner := true }
  | .verbose => { a with verbose := true }
  | .help => a
  | .version => a

/-- A flag can be given: it can be set, has not been given yet, and no empty input is before it. -/
structure CanGive (a : Arguments) (flag : Flag) : Prop where
  settable : flag ∈ Flag.settable
  fresh : a.gives flag = false
  input : a.input? ≠ some ""

/-- An argument that is not read as flags. -/
def IsInput (argument : String) : Prop := argument = "-" ∨ argument.toList.head? ≠ some '-'

@[simp] theorem input?_give (a : Arguments) (flag : Flag) : (a.give flag).input? = a.input? := by
  cases flag <;> rfl

theorem gives_empty (flag : Flag) : ({} : Arguments).gives flag = false := by
  cases flag <;> rfl

theorem gives_give (a : Arguments) (h : flag ∈ Flag.settable) (other : Flag) :
    (a.give flag).gives other = (other == flag || a.gives other) := by
  cases flag <;> cases other <;> first | rfl | exact absurd h (by decide)

theorem give_comm (a : Arguments) (flag other : Flag) :
    (a.give flag).give other = (a.give other).give flag := by
  cases flag <;> cases other <;> rfl

theorem give_input (a : Arguments) (flag : Flag) (input? : Option String) :
    { a with input? }.give flag = { a.give flag with input? } := by
  cases flag <;> rfl

theorem gives_input (a : Arguments) (flag : Flag) (input? : Option String) :
    { a with input? }.gives flag = a.gives flag := by
  cases flag <;> rfl

theorem canGive_give_iff {other : Flag} (h : flag ∈ Flag.settable) :
    (a.give flag).CanGive other ↔ other ≠ flag ∧ a.CanGive other := by
  constructor
  · intro hcan
    have hfresh := hcan.fresh
    rw [gives_give a h, Bool.or_eq_false_iff, beq_eq_false_iff_ne] at hfresh
    exact ⟨hfresh.1, hcan.settable, hfresh.2, input?_give a flag ▸ hcan.input⟩
  · rintro ⟨hne, hcan⟩
    refine ⟨hcan.settable, ?_, (input?_give a flag).symm ▸ hcan.input⟩
    rw [gives_give a h, hcan.fresh, Bool.or_false, beq_eq_false_iff_ne]
    exact hne

theorem canGive_input_iff {text : String} (h : text ≠ "") (hnone : a.input? = none) :
    { a with input? := some text }.CanGive flag ↔ a.CanGive flag := by
  constructor
  · intro hcan
    refine ⟨hcan.settable, (gives_input a flag _).symm.trans hcan.fresh, ?_⟩
    rw [hnone]
    nofun
  · intro hcan
    exact ⟨hcan.settable, (gives_input a flag _).trans hcan.fresh, fun hempty =>
      h (Option.some.inj hempty)⟩

/-! ### One argument -/

theorem settle_eq_ok_iff : a.settle = .ok b ↔ a.input? ≠ some "" ∧ a = b := by
  rw [settle]
  split
  · next h => simp [h]
  · next h => simp [h]

theorem once_eq_ok_iff {given : Bool} {after : Arguments} :
    once flag given after = .ok b ↔ given = false ∧ after = b := by
  cases given <;> simp [once]

theorem takeFlag_of_settable (h : flag ∈ Flag.settable) :
    a.takeFlag flag long = a.settle >>= fun a => once flag (a.gives flag) (a.give flag) := by
  cases flag <;> first | rfl | exact absurd h (by decide)

theorem takeFlag_ne_ok (h : flag ∉ Flag.settable) : a.takeFlag flag long ≠ .ok b := by
  rw [takeFlag, Ne, bind_eq_ok_iff]
  rintro ⟨settled, -, hflag⟩
  cases flag <;> first | cases hflag | exact h (by decide)

theorem takeFlag_eq_ok_iff : a.takeFlag flag long = .ok b ↔ a.CanGive flag ∧ a.give flag = b := by
  constructor
  · intro h
    by_cases hsettable : flag ∈ Flag.settable
    · rw [takeFlag_of_settable hsettable, bind_eq_ok_iff] at h
      obtain ⟨settled, hsettle, honce⟩ := h
      obtain ⟨hinput, rfl⟩ := settle_eq_ok_iff.1 hsettle
      obtain ⟨hfresh, hb⟩ := once_eq_ok_iff.1 honce
      exact ⟨⟨hsettable, hfresh, hinput⟩, hb⟩
    · exact absurd h (takeFlag_ne_ok hsettable)
  · rintro ⟨hcan, hb⟩
    rw [takeFlag_of_settable hcan.settable, bind_eq_ok_iff]
    exact ⟨a, settle_eq_ok_iff.2 ⟨hcan.input, rfl⟩, once_eq_ok_iff.2 ⟨hcan.fresh, hb⟩⟩

theorem takeInput_eq_ok_iff :
    a.takeInput argument = .ok b ↔ a.input? = none ∧ { a with input? := some argument } = b := by
  rw [takeInput]
  split
  · next h => simp [h]
  · next h => simp [h]

/-- What a list is searched for is found if it is the only thing that can be found. -/
theorem find?_eq_some_of_unique {p : Flag → Bool} (hmem : flag ∈ flags) (hp : p flag)
    (hunique : ∀ other, p other → other = flag) : flags.find? p = some flag := by
  obtain ⟨found, hfound⟩ := Option.isSome_iff_exists.1 (List.find?_isSome.2 ⟨flag, hmem, hp⟩)
  rwa [hunique found (List.find?_some hfound)] at hfound

theorem takeLong_eq_ok_iff {text : List Char} :
    takeLong flags a text = .ok b ↔
      ∃ flag ∈ flags, text = flag.name.toList ∧ a.CanGive flag ∧ a.give flag = b := by
  constructor
  · intro h
    unfold takeLong at h
    dsimp only at h
    split at h
    · cases h
    · next flag hfind =>
        split at h
        · next hdrop =>
            have hall := List.takeWhile_append_dropWhile (p := (· != '=')) (l := text)
            rw [hdrop, List.append_nil] at hall
            have hname := List.find?_some hfind
            rw [hall, beq_iff_eq] at hname
            refine ⟨flag, List.mem_of_find?_eq_some hfind, ?_, takeFlag_eq_ok_iff.1 h⟩
            rw [hname, String.toList_ofList]
        · cases h
  · rintro ⟨flag, hmem, rfl, hgive⟩
    have hfind : flags.find? (·.name == flag.name) = some flag :=
      find?_eq_some_of_unique hmem (beq_self_eq_true _) fun other hother =>
        Flag.name_injective (beq_iff_eq.1 hother)
    have htake : flag.name.toList.takeWhile (· != '=') = flag.name.toList := by
      cases flag <;> decide
    have hdrop : flag.name.toList.dropWhile (· != '=') = [] := by cases flag <;> decide
    unfold takeLong
    dsimp only
    rw [htake, String.ofList_toList, hfind, hdrop]
    exact takeFlag_eq_ok_iff.2 hgive

theorem takeLetters_cons_eq_ok_iff {letter : Char} {more : List Char} :
    takeLetters flags a (letter :: more) = .ok b ↔
      ∃ flag ∈ flags, flag.letter? = some letter ∧ a.CanGive flag ∧
        takeLetters flags (a.give flag) more = .ok b := by
  rw [takeLetters, foldlM_cons_eq_ok_iff]
  constructor
  · rintro ⟨mid, hletter, hmore⟩
    split at hletter
    · cases hletter
    · next flag hfind =>
        obtain ⟨hcan, rfl⟩ := takeFlag_eq_ok_iff.1 hletter
        have hflag := List.find?_some hfind
        exact ⟨flag, List.mem_of_find?_eq_some hfind, beq_iff_eq.1 hflag, hcan, hmore⟩
  · rintro ⟨flag, hmem, hflag, hcan, hmore⟩
    have hfind : flags.find? (·.letter? == some letter) = some flag :=
      find?_eq_some_of_unique hmem (beq_iff_eq.2 hflag) fun other hother =>
        Flag.letter?_injective (beq_iff_eq.1 hother) hflag
    refine ⟨a.give flag, ?_, hmore⟩
    rw [hfind]
    exact takeFlag_eq_ok_iff.2 ⟨hcan, rfl⟩

/-- Only one letter stands for a flag that can be set, so a second letter is never taken. -/
theorem takeLetters_eq_ok_iff {letter : Char} {more : List Char} :
    takeLetters flags a (letter :: more) = .ok b ↔
      more = [] ∧ ∃ flag ∈ flags, flag.letter? = some letter ∧ a.CanGive flag ∧
        a.give flag = b := by
  rw [takeLetters_cons_eq_ok_iff]
  constructor
  · rintro ⟨flag, hmem, hletter, hcan, hmore⟩
    cases more with
    | nil => exact ⟨rfl, flag, hmem, hletter, hcan, Except.ok.inj hmore⟩
    | cons letter' more =>
        obtain ⟨flag', -, hletter', hcan', -⟩ := takeLetters_cons_eq_ok_iff.1 hmore
        have hsame : flag' = flag := by
          rw [Flag.eq_verbose hcan.settable hletter, Flag.eq_verbose hcan'.settable hletter']
        exact absurd hsame ((canGive_give_iff hcan.settable).1 hcan').1
  · rintro ⟨rfl, flag, hmem, hletter, hcan, rfl⟩
    exact ⟨flag, hmem, hletter, hcan, rfl⟩

theorem take_of_isInput (h : IsInput argument) : take flags a argument = a.takeInput argument := by
  rw [take]
  split
  · next name htext =>
      obtain rfl | hdash := h
      · cases htext
      · exact absurd (congrArg List.head? htext) hdash
  · next letter more _ htext =>
      obtain rfl | hdash := h
      · cases htext
      · exact absurd (congrArg List.head? htext) hdash
  · rfl

theorem take_long (flags : List Flag) (a : Arguments) (name : String) :
    take flags a ("--" ++ name) = takeLong flags a name.toList := by
  rw [take, String.toList_append]
  rfl

theorem take_letter (flags : List Flag) (a : Arguments) {letter : Char} (h : letter ≠ '-') :
    take flags a (String.ofList ['-', letter]) = takeLetters flags a [letter] := by
  rw [take, String.toList_ofList]
  split
  · next name htext => cases htext; exact absurd rfl h
  · next letter more _ htext => cases htext; rfl
  · next _ hletters => exact absurd rfl (hletters letter [])

/-- **One argument.** What is taken is a flag that can be given, in one of its spellings, or the
first input. -/
theorem take_eq_ok_iff :
    take flags a argument = .ok b ↔
      (∃ flag ∈ flags, argument ∈ flag.spellings ∧ a.CanGive flag ∧ a.give flag = b) ∨
      (IsInput argument ∧ a.input? = none ∧ { a with input? := some argument } = b) := by
  constructor
  · intro h
    rw [take] at h
    split at h
    · next name htext =>
        obtain ⟨flag, hmem, rfl, hgive⟩ := takeLong_eq_ok_iff.1 h
        refine .inl ⟨flag, hmem, Flag.mem_spellings_iff.2 (.inl ?_), hgive⟩
        rw [← String.toList_inj, htext, String.toList_append]
        rfl
    · next letter more _ htext =>
        obtain ⟨rfl, flag, hmem, hletter, hgive⟩ := takeLetters_eq_ok_iff.1 h
        refine .inl ⟨flag, hmem, Flag.mem_spellings_iff.2 (.inr ⟨letter, hletter, ?_⟩), hgive⟩
        rw [← String.toList_inj, htext, String.toList_ofList]
    · next hlong hletters =>
        refine .inr ⟨?_, takeInput_eq_ok_iff.1 h⟩
        by_cases hdash : argument.toList.head? = some '-'
        · obtain ⟨letters, htext⟩ := List.head?_eq_some_iff.1 hdash
          cases letters with
          | nil => exact .inl (String.toList_inj.1 htext)
          | cons letter more =>
              by_cases hletter : letter = '-'
              · exact absurd (hletter ▸ htext) (hlong more)
              · exact absurd htext (hletters letter more)
        · exact .inr hdash
  · rintro (⟨flag, hmem, hspelled, hgive⟩ | ⟨hargument, hinput⟩)
    · rcases Flag.mem_spellings_iff.1 hspelled with rfl | ⟨letter, hletter, rfl⟩
      · rw [take_long]
        exact takeLong_eq_ok_iff.2 ⟨flag, hmem, rfl, hgive⟩
      · have hdash : letter ≠ '-' := by
          rintro rfl
          cases flag <;> exact absurd hletter (by decide)
        rw [take_letter flags a hdash]
        exact takeLetters_eq_ok_iff.2 ⟨rfl, flag, hmem, hletter, hgive⟩
    · rw [take_of_isInput hargument]
      exact takeInput_eq_ok_iff.2 hinput

/-! ### Two arguments -/

/-- Arguments with names can change places. -/
theorem swaps_take {first second : String} (hfirst : first ≠ "") (hsecond : second ≠ "") :
    Swaps (take flags) first second := by
  intro a mid b htake htake'
  rcases take_eq_ok_iff.1 htake with ⟨flag, hmem, hspelled, hcan, rfl⟩ | ⟨hinput, hnone, rfl⟩
  · rcases take_eq_ok_iff.1 htake' with
      ⟨flag', hmem', hspelled', hcan', rfl⟩ | ⟨hinput', hnone, rfl⟩
    · -- The second flag is another one, since a flag is given once.
      obtain ⟨hne, hcan'⟩ := (canGive_give_iff hcan.settable).1 hcan'
      have hcan := (canGive_give_iff hcan'.settable).2 ⟨hne.symm, hcan⟩
      refine ⟨a.give flag', take_eq_ok_iff.2 (.inl ⟨flag', hmem', hspelled', hcan', rfl⟩), ?_⟩
      exact take_eq_ok_iff.2 (.inl ⟨flag, hmem, hspelled, hcan, give_comm a flag' flag⟩)
    · -- A flag after the input needs an input with a name.
      rw [input?_give] at hnone
      have hcan := (canGive_input_iff hsecond hnone).2 hcan
      refine ⟨{ a with input? := some second }, take_eq_ok_iff.2 (.inr ⟨hinput', hnone, rfl⟩), ?_⟩
      exact take_eq_ok_iff.2 (.inl ⟨flag, hmem, hspelled, hcan, give_input a flag _⟩)
  · rcases take_eq_ok_iff.1 htake' with
      ⟨flag', hmem', hspelled', hcan', rfl⟩ | ⟨-, hnone', -⟩
    · have hcan' := (canGive_input_iff hfirst hnone).1 hcan'
      have hnone' : (a.give flag').input? = none := (input?_give a flag').trans hnone
      refine ⟨a.give flag', take_eq_ok_iff.2 (.inl ⟨flag', hmem', hspelled', hcan', rfl⟩), ?_⟩
      exact take_eq_ok_iff.2 (.inr ⟨hinput, hnone', (give_input a flag' _).symm⟩)
    · cases hnone'

/-! ### Arguments in a row -/

theorem takeAll_append {arguments : List String} (h : "--" ∉ arguments) (rest : List String) :
    takeAll flags a (arguments ++ rest) =
      arguments.foldlM (take flags) a >>= fun b => takeAll flags b rest := by
  induction arguments generalizing a with
  | nil => rfl
  | cons argument arguments ih =>
      rw [List.mem_cons, not_or] at h
      rw [List.cons_append, takeAll, List.foldlM_cons, bind_assoc]
      · exact bind_congr fun b => ih h.2
      · exact fun hdashes => h.1 hdashes.symm

theorem parse_eq_ok_iff {arguments : List String} (h : "--" ∉ arguments) :
    parse flags arguments = .ok a ↔
      arguments.foldlM (take flags) {} = .ok a ∧ a.input? ≠ some "" := by
  have hall : takeAll flags {} arguments = arguments.foldlM (take flags) {} := by
    have happend : takeAll flags {} (arguments ++ []) = _ := takeAll_append h []
    rwa [List.append_nil, show (fun b => takeAll flags b []) = pure from rfl, bind_pure] at happend
  rw [parse, hall, bind_eq_ok_iff]
  constructor
  · rintro ⟨b, hb, hsettle⟩
    obtain ⟨hinput, rfl⟩ := settle_eq_ok_iff.1 hsettle
    exact ⟨hb, hinput⟩
  · rintro ⟨ha, hinput⟩
    exact ⟨a, ha, settle_eq_ok_iff.2 ⟨hinput, rfl⟩⟩

/-- An input without a name stays. -/
theorem ne_empty_of_take (h : take flags a argument = .ok b) (hb : b.input? ≠ some "") :
    argument ≠ "" ∧ a.input? ≠ some "" := by
  rcases take_eq_ok_iff.1 h with ⟨flag, -, hspelled, hcan, -⟩ | ⟨-, hnone, rfl⟩
  · exact ⟨(flag.spellings_ne argument hspelled).1, hcan.input⟩
  · refine ⟨fun hempty => hb (congrArg some hempty), ?_⟩
    rw [hnone]
    nofun

theorem ne_empty_of_foldlM_take {arguments : List String}
    (h : arguments.foldlM (take flags) a = .ok b) (hb : b.input? ≠ some "") :
    (∀ argument ∈ arguments, argument ≠ "") ∧ a.input? ≠ some "" := by
  induction arguments generalizing a with
  | nil =>
      cases h
      exact ⟨nofun, hb⟩
  | cons argument arguments ih =>
      obtain ⟨mid, hfirst, hmore⟩ := foldlM_cons_eq_ok_iff.1 h
      obtain ⟨hmore, hmid⟩ := ih hmore
      obtain ⟨hargument, ha⟩ := ne_empty_of_take hfirst hmid
      exact ⟨List.forall_mem_cons.2 ⟨hargument, hmore⟩, ha⟩

theorem parse_of_perm {arguments arguments' : List String} (h : "--" ∉ arguments)
    (hperm : arguments.Perm arguments') (hparse : parse flags arguments = .ok a) :
    parse flags arguments' = .ok a := by
  obtain ⟨hrun, hinput⟩ := (parse_eq_ok_iff h).1 hparse
  refine (parse_eq_ok_iff (hperm.mem_iff.not.1 h)).2 ⟨?_, hinput⟩
  obtain ⟨hnamed, -⟩ := ne_empty_of_foldlM_take hrun hinput
  exact foldlM_eq_ok_of_perm hperm
    (fun first hfirst second hsecond => swaps_take (hnamed first hfirst) (hnamed second hsecond))
    hrun

/-! ### Arguments for options -/

theorem gives_foldl_give {given : List Flag} (h : ∀ flag ∈ given, flag ∈ Flag.settable)
    (flag : Flag) : (given.foldl give a).gives flag = (decide (flag ∈ given) || a.gives flag) := by
  induction given generalizing a with
  | nil => simp
  | cons first given ih =>
      obtain ⟨hfirst, hmore⟩ := List.forall_mem_cons.1 h
      rw [List.foldl_cons, ih hmore, gives_give a hfirst]
      by_cases heq : flag = first
      · simp [heq]
      · simp [heq, beq_eq_false_iff_ne.2 heq]

theorem input?_foldl_give (a : Arguments) (given : List Flag) :
    (given.foldl give a).input? = a.input? := by
  induction given generalizing a with
  | nil => rfl
  | cons first given ih => rw [List.foldl_cons, ih, input?_give]

theorem foldlM_take_spelled {given : List Flag} {spelled : List String}
    (hspelled : List.Forall₂ (fun flag argument => argument ∈ flag.spellings) given spelled)
    (hmem : given ⊆ flags) (hnodup : given.Nodup) (hcan : ∀ flag ∈ given, a.CanGive flag) :
    spelled.foldlM (take flags) a = .ok (given.foldl give a) := by
  induction hspelled generalizing a with
  | nil => rfl
  | @cons flag argument given spelled hfirst hmore ih =>
      obtain ⟨hflag, hmem⟩ := List.cons_subset.1 hmem
      obtain ⟨hnotMem, hnodup⟩ := List.nodup_cons.1 hnodup
      obtain ⟨hgive, hcan⟩ := List.forall_mem_cons.1 hcan
      have htake := take_eq_ok_iff.2 (.inl ⟨flag, hflag, hfirst, hgive, rfl⟩)
      refine foldlM_cons_eq_ok_iff.2 ⟨a.give flag, htake, ih hmem hnodup fun other hother => ?_⟩
      have hne : other ≠ flag := fun heq => hnotMem (heq ▸ hother)
      exact (canGive_give_iff hgive.settable).2 ⟨hne, hcan other hother⟩

theorem dashes_not_mem_of_spelled {given : List Flag} {spelled : List String}
    (h : List.Forall₂ (fun flag argument => argument ∈ flag.spellings) given spelled) :
    "--" ∉ spelled := by
  induction h with
  | nil => exact List.not_mem_nil
  | @cons flag argument given spelled hfirst _ ih =>
      rw [List.mem_cons, not_or]
      exact ⟨fun hdashes => (flag.spellings_ne argument hfirst).2 hdashes.symm, ih⟩

theorem gives_foldl_give_of_perm {o : Options} {given : List Flag}
    (hperm : given.Perm (Flag.settable.filter o.sets)) (flag : Flag) :
    (given.foldl give {}).gives flag = o.sets flag := by
  have hmem (flag : Flag) : flag ∈ given ↔ flag ∈ Flag.settable ∧ o.sets flag = true :=
    hperm.mem_iff.trans List.mem_filter
  rw [gives_foldl_give fun flag hflag => ((hmem flag).1 hflag).1, gives_empty, Bool.or_false,
    Bool.eq_iff_iff, decide_eq_true_iff, hmem]
  exact and_iff_right_of_imp Options.settable_of_sets

/-- What is behind two dashes is the input, whatever it looks like. -/
theorem takeAll_input (hnone : a.input? = none) (input? : Option Path) :
    takeAll flags a (match input? with
      | none => []
      | some input => ["--", input.text]) = .ok { a with input? := input?.map Path.text } := by
  cases input? with
  | none =>
      rw [Option.map_none, ← hnone]
      rfl
  | some input => exact foldlM_cons_eq_ok_iff.2 ⟨_, takeInput_eq_ok_iff.2 ⟨hnone, rfl⟩, rfl⟩

theorem parse_of_writtenAs (hflags : Flag.settable ⊆ flags) {o : Options} {arguments : List String}
    (hinput : o.input? ≠ some ⟨""⟩) (h : o.WrittenAs arguments) :
    ∃ a, parse flags arguments = .ok a ∧ a.input? = o.input?.map Path.text ∧
      ∀ flag, a.gives flag = o.sets flag := by
  obtain ⟨given, spelled, hperm, hspelled, rfl⟩ := h
  have hsettable : ∀ flag ∈ given, flag ∈ Flag.settable := fun flag hflag =>
    List.mem_of_mem_filter (hperm.mem_iff.1 hflag)
  have hnodup : given.Nodup := hperm.nodup_iff.2 (List.filter_sublist.nodup (by decide))
  have hcan (flag : Flag) (hflag : flag ∈ given) : ({} : Arguments).CanGive flag :=
    ⟨hsettable flag hflag, gives_empty flag, nofun⟩
  have hrun := foldlM_take_spelled hspelled
    (fun flag hflag => hflags (hsettable flag hflag)) hnodup hcan
  have htext : o.input?.map Path.text ≠ some "" := by
    intro htext
    obtain ⟨⟨text⟩, ho, hempty⟩ := Option.map_eq_some_iff.1 htext
    exact hinput (ho.trans (congrArg (some ∘ Path.mk) hempty))
  refine ⟨{ given.foldl give {} with input? := o.input?.map Path.text }, ?_, rfl, fun flag =>
    (gives_input _ flag _).trans (gives_foldl_give_of_perm hperm flag)⟩
  rw [parse, takeAll_append (dashes_not_mem_of_spelled hspelled), hrun, bind_eq_ok_iff]
  exact ⟨_, takeAll_input (input?_foldl_give {} given) o.input?,
    settle_eq_ok_iff.2 ⟨htext, rfl⟩⟩

/-- **Arguments in any order.** Options are read back from any arguments for them, also with an
input that looks like a flag; and without two dashes arguments are accepted in every order or in
none, with the same result. -/
theorem parse_any_order (hflags : Flag.settable ⊆ flags) :
    (∀ (o : Options) arguments, o.manifestDirectory? = none → o.input? ≠ some ⟨""⟩ →
      o.WrittenAs arguments →
      ∃ a, parse flags arguments = .ok a ∧ a.toOptions o.banner = o) ∧
    ∀ arguments arguments' a, "--" ∉ arguments → arguments.Perm arguments' →
      parse flags arguments = .ok a → parse flags arguments' = .ok a := by
  refine ⟨fun o arguments hdirectory hinput hwritten => ?_, fun _ _ _ => parse_of_perm⟩
  obtain ⟨a, hparse, hsame, hgives⟩ := parse_of_writtenAs hflags hinput hwritten
  refine ⟨a, hparse, Options.eq_of_sets rfl ?_ hdirectory.symm hgives⟩
  rw [toOptions, hsame, Option.map_map]
  exact Option.map_id'

/-- Flags in another order, one by its letter, before an input that looks like a flag; and an input
that is a lone dash between two flags. -/
theorem parse_any_order_of_dashes :
    let o : Options := { input? := some ⟨"--json"⟩, strict := true, verbose := true }
    Flag.settable ⊆ Flag.ofProgram ∧
    (o.WrittenAs ["-v", "--strict", "--", "--json"] ∧
      ∃ a, parse Flag.ofProgram ["-v", "--strict", "--", "--json"] = .ok a ∧
        a.toOptions o.banner = o) ∧
    parse Flag.ofProgram ["--strict", "-", "-v"] =
      .ok { input? := some "-", strict := true, verbose := true } ∧
    parse Flag.ofProgram ["-", "-v", "--strict"] =
      .ok { input? := some "-", strict := true, verbose := true } := by
  intro o
  have hflags : Flag.settable ⊆ Flag.ofProgram := by decide
  obtain ⟨hoptions, horder⟩ := parse_any_order hflags
  have hwritten : o.WrittenAs ["-v", "--strict", "--", "--json"] :=
    ⟨[.verbose, .strict], ["-v", "--strict"], by decide,
      .cons (by decide) (.cons (by decide) .nil), rfl⟩
  have hparse : parse Flag.ofProgram ["--strict", "-", "-v"] =
      .ok { input? := some "-", strict := true, verbose := true } := by decide +kernel
  refine ⟨hflags, ⟨hwritten, hoptions o _ rfl (by decide) hwritten⟩, hparse, ?_⟩
  exact horder _ _ _ (by decide) (by decide) hparse

end Arguments

end TokenEcho
