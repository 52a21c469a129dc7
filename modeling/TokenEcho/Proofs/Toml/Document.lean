import TokenEcho.Proofs.Toml.Keys
import TokenEcho.Toml.Document

/-!
# Documents that have been read

Where a parser finds something, what it finds has a property as soon as what its parts find does:
there is one lemma `Yields` for each way to put parsers together. Of the lines only the values
matter. They keep their keys apart, and so does a document while its lines are taken in, so
`keyed_of_parse?` says that a document that has been read has no key twice.
-/

namespace TokenEcho.Toml

namespace Parser

variable {α β : Type} {P : α → Prop} {Q : β → Prop} {p q : Parser α}

/-- Whatever a parser finds has a property. -/
def Yields (p : Parser α) (P : α → Prop) : Prop :=
  ∀ input found after, p.run input = some (found, after) → P found

theorem Yields.imp {P' : α → Prop} (hp : p.Yields P) (h : ∀ x, P x → P' x) : p.Yields P' :=
  fun input found after hrun => h found (hp input found after hrun)

theorem yields_pure {x : α} (h : P x) : Yields (pure x) P := by
  intro input found after hrun
  cases hrun
  exact h

theorem yields_of_forall (h : ∀ x, P x) : p.Yields P := fun _ found _ _ => h found

theorem yields_failure : Yields (failure : Parser α) P := by
  intro input found after hrun
  cases hrun

theorem Yields.bind {k : α → Parser β} (hp : p.Yields P) (hk : ∀ x, P x → (k x).Yields Q) :
    (p >>= k).Yields Q := by
  intro input found after hrun
  obtain ⟨⟨x, mid⟩, hx, hrun⟩ := Option.bind_eq_some_iff.1 hrun
  exact hk x (hp input x mid hx) mid found after hrun

/-- What comes first does not matter. -/
theorem yields_after {k : α → Parser β} (hk : ∀ x, (k x).Yields Q) : (p >>= k).Yields Q :=
  (yields_of_forall fun _ => trivial).bind fun x _ => hk x

theorem Yields.map {f : α → β} (hp : p.Yields fun x => Q (f x)) : (f <$> p).Yields Q :=
  hp.bind fun _ hx => yields_pure hx

theorem Yields.orElse (hp : p.Yields P) (hq : q.Yields P) : (p <|> q).Yields P := by
  intro input found after hrun
  change (p.run input <|> q.run input) = some (found, after) at hrun
  cases hfirst : p.run input with
  | none =>
      rw [hfirst] at hrun
      exact hq input found after hrun
  | some result =>
      rw [hfirst] at hrun
      cases hrun
      exact hp input found after hfirst

theorem Yields.seqRight {p : Parser β} (hq : q.Yields P) : (p *> q).Yields P :=
  yields_after fun _ => hq

theorem Yields.seqLeft {q : Parser β} (hp : p.Yields P) : (p <* q).Yields P :=
  hp.bind fun _ hx => yields_after fun _ => yields_pure hx

theorem Yields.optional (hp : p.Yields P) : (optional p).Yields fun found => ∀ x ∈ found, P x := by
  refine Yields.orElse (Yields.map (hp.imp ?_)) (yields_pure nofun)
  rintro x hx _ ⟨⟩
  exact hx

theorem Yields.upTo (hp : p.Yields P) (n : Nat) :
    (upTo p n).Yields fun found => ∀ x ∈ found, P x := by
  induction n with
  | zero => exact yields_pure nofun
  | succ n ih =>
      refine hp.optional.bind fun found hfound => ?_
      cases found with
      | none => exact yields_pure nofun
      | some x =>
          exact ih.bind fun xs hxs => yields_pure (List.forall_mem_cons.2 ⟨hfound x rfl, hxs⟩)

theorem Yields.many (hp : p.Yields P) : (many p).Yields fun found => ∀ x ∈ found, P x :=
  yields_after fun _ => hp.upTo _

theorem Yields.separated {separator : Parser Unit} (hp : p.Yields P) :
    (separated p separator).Yields fun found => ∀ x ∈ found, P x :=
  hp.bind fun _ hx => (Yields.seqRight hp).many.bind fun _ hxs =>
    yields_pure (List.forall_mem_cons.2 ⟨hx, hxs⟩)

theorem Yields.ranged (hp : p.Yields P) : (ranged p).Yields fun found => P found.2 :=
  yields_after fun _ => hp.bind fun _ hx => yields_after fun _ => yields_pure hx

end Parser

/-- What steps keep, they keep until the end. -/
theorem keeps_of_foldlM_eq_some {σ α : Type} {step : σ → α → Option σ} {P : σ → Prop}
    {xs : List α} {s s' : σ} (hstep : ∀ x ∈ xs, ∀ s s', P s → step s x = some s' → P s') (hs : P s)
    (h : xs.foldlM step s = some s') : P s' := by
  induction xs generalizing s with
  | nil =>
      cases h
      exact hs
  | cons x xs ih =>
      obtain ⟨hfirst, hmore⟩ := List.forall_mem_cons.1 hstep
      rw [List.foldlM_cons] at h
      obtain ⟨mid, hmid, h⟩ := Option.bind_eq_some_iff.1 h
      exact ih hmore (hfirst s mid hs hmid) h

/-! ### Values -/

open TokenEcho.Toml.Parser

theorem yields_scalar : scalar.Yields Value.Keyed :=
  .orElse (.map (yields_of_forall .string)) <|
  .orElse (.seqRight (yields_pure .moment)) <|
  .orElse (.map (yields_of_forall .float)) <|
  .orElse (.map (yields_of_forall .integer)) <|
  .orElse (.seqRight (yields_pure (.boolean true))) <|
  .seqRight (yields_pure (.boolean false))

section

variable {value : Parser (ByteRange × Value)} (hvalue : value.Yields fun located => located.2.Keyed)
include hvalue

theorem yields_assignment : (assignment value).Yields fun found => found.2.2.Keyed :=
  yields_after fun _ => yields_after fun _ => yields_after fun _ => hvalue.bind fun _ hv =>
    yields_pure hv

theorem yields_array : (array value).Yields Value.Keyed := by
  have hitem : (arrayBlanks *> value <* arrayBlanks).Yields fun located => located.2.Keyed :=
    .seqLeft (.seqRight hvalue)
  refine yields_after fun _ => hitem.separated.seqLeft.optional.bind fun items hitems => ?_
  refine yields_after fun _ => yields_after fun _ => yields_pure (.array fun item hmem => ?_)
  cases items with
  | none => cases hmem
  | some items => exact hitems items rfl item hmem

theorem yields_inlineTable : (inlineTable value).Yields Value.Keyed := by
  have hpair : (assignment value <* lineBlanks).Yields fun found => found.2.2.Keyed :=
    .seqLeft (yields_assignment hvalue)
  refine yields_after fun _ => yields_after fun _ => ?_
  refine hpair.separated.optional.bind fun pairs hpairs => ?_
  refine yields_after fun _ => yields_after fun _ => ?_
  dsimp only
  split
  · exact yields_failure
  · next entries hentries =>
      refine yields_pure (Entries.Keyed.finish ?_)
      refine keeps_of_foldlM_eq_some (fun pair hpair entries entries' hkeyed hassign => ?_)
        Entries.keyed_nil hentries
      cases pairs with
      | none => cases hpair
      | some pairs => exact hkeyed.assign (hpairs pairs rfl pair hpair) hassign

end

theorem yields_value (levels : Nat) : (value levels).Yields fun located => located.2.Keyed := by
  induction levels with
  | zero => exact yields_scalar.ranged
  | succ levels ih =>
      exact (yields_scalar.orElse ((yields_array ih).orElse (yields_inlineTable ih))).ranged

/-! ### Lines -/

/-- The values of a line keep their keys apart. -/
def Line.Keyed : Line → Prop
  | .assign _ _ v => v.Keyed
  | .header _ => True

theorem yields_line : line.Yields fun found => ∀ l ∈ found, l.Keyed := by
  refine Yields.bind ?_ fun _ hfound => yields_after fun _ => yields_pure hfound
  refine .orElse (.seqRight (yields_pure nofun)) ?_
  refine .orElse (.seqRight (yields_pure nofun)) ?_
  refine .orElse (.map (yields_of_forall ?_)) ?_
  · rintro h _ ⟨⟩
    trivial
  · refine (yields_assignment (yields_value maxDepth)).bind fun found hv => yields_after fun _ =>
      yields_pure ?_
    rintro _ ⟨⟩
    exact hv

theorem yields_lines : lines.Yields fun found => ∀ l ∈ found, l.Keyed := by
  refine yields_after fun _ => yields_after fun _ => yields_line.many.bind fun found hfound => ?_
  refine yields_after fun _ => yields_pure fun l hl => ?_
  obtain ⟨found?, hmem, heq⟩ := List.mem_filterMap.1 hl
  exact hfound found? hmem l heq

namespace Progress

/-- The tables that are complete keep their keys apart, and so does the one that grows. -/
structure Keyed (p : Progress) : Prop where
  root : p.root.Keyed
  current : p.current.Keyed

variable {p p' : Progress} {entries : Entries}

theorem Keyed.close (h : p.Keyed) (hclose : p.close = some entries) : entries.Keyed := by
  rw [Progress.close] at hclose
  split at hclose
  · cases hclose
    exact h.current
  · split at hclose
    · exact h.root.pushTable h.current hclose
    · exact h.root.closeTable h.current hclose

theorem Keyed.take {l : Line} (h : p.Keyed) (hl : l.Keyed) (htake : p.take l = some p') :
    p'.Keyed := by
  cases l with
  | assign keys range v =>
      obtain ⟨current, hcurrent, htake⟩ := Option.bind_eq_some_iff.1 htake
      cases htake
      exact ⟨h.root, h.current.assign hl hcurrent⟩
  | header header =>
      obtain ⟨root, hroot, htake⟩ := Option.bind_eq_some_iff.1 htake
      have hroot := h.close hroot
      dsimp only at htake
      split at htake
      · cases htake
        exact ⟨hroot, Entries.keyed_nil⟩
      · obtain ⟨⟨root', held⟩, hopen, htake⟩ := Option.bind_eq_some_iff.1 htake
        cases htake
        obtain ⟨hroot', hheld⟩ := hroot.openTable hopen
        exact ⟨hroot', hheld⟩

end Progress

/-- **No key twice.** In a document that has been read no table has a key twice. -/
theorem keyed_of_parse? {text : String} {entries : List Entry} (h : parse? text = some entries) :
    (Value.table entries).Keyed := by
  obtain ⟨⟨found, after⟩, hfound, h⟩ := Option.bind_eq_some_iff.1 h
  obtain ⟨p, hp, h⟩ := Option.bind_eq_some_iff.1 h
  obtain ⟨root, hroot, h⟩ := Option.bind_eq_some_iff.1 h
  cases h
  have hlines := yields_lines _ found after hfound
  have hkeyed : p.Keyed :=
    keeps_of_foldlM_eq_some (fun l hl p p' hkeyed htake => hkeyed.take (hlines l hl) htake)
      ⟨Entries.keyed_nil, Entries.keyed_nil⟩ hp
  exact (hkeyed.close hroot).finish

end TokenEcho.Toml
