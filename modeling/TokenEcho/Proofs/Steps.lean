import Mathlib.Data.List.Perm.Basic

/-!
# Steps that can fail

A run of steps ends at the first problem. It succeeds if all its steps do, as long as the success of
a step does not depend on the state, `exists_foldlM_eq_ok_iff`. If it does depend on the state, then
the order of the steps may show; it does not if any two steps that succeed one after the other can
change places, `foldlM_eq_ok_of_perm`.
-/

namespace TokenEcho

variable {ε σ α β : Type}

theorem bind_eq_ok_iff {r : Except ε α} {k : α → Except ε β} {found : β} :
    r >>= k = .ok found ↔ ∃ a, r = .ok a ∧ k a = .ok found := by
  cases r with
  | ok a =>
      constructor
      · exact fun h => ⟨a, rfl, h⟩
      · rintro ⟨_, h, hk⟩
        cases h
        exact hk
  | error e =>
      constructor
      · nofun
      · nofun

variable {step : σ → α → Except ε σ} {s s' : σ} {x y : α} {xs ys : List α}

theorem foldlM_cons_eq_ok_iff :
    (x :: xs).foldlM step s = .ok s' ↔ ∃ mid, step s x = .ok mid ∧ xs.foldlM step mid = .ok s' := by
  rw [List.foldlM_cons, bind_eq_ok_iff]

theorem exists_foldlM_eq_ok_iff {Succeeds : α → Prop}
    (hstep : ∀ s, ∀ x ∈ xs, (∃ s', step s x = .ok s') ↔ Succeeds x) :
    (∃ s', xs.foldlM step s = .ok s') ↔ ∀ x ∈ xs, Succeeds x := by
  induction xs generalizing s with
  | nil => exact ⟨fun _ => nofun, fun _ => ⟨s, rfl⟩⟩
  | cons x xs ih =>
      have hmore (mid : σ) := ih (s := mid) fun s x hx => hstep s x (List.mem_cons_of_mem _ hx)
      rw [List.forall_mem_cons, ← hstep s x List.mem_cons_self]
      simp only [foldlM_cons_eq_ok_iff]
      constructor
      · rintro ⟨s', mid, hx, hxs⟩
        exact ⟨⟨mid, hx⟩, (hmore mid).1 ⟨s', hxs⟩⟩
      · rintro ⟨⟨mid, hx⟩, hxs⟩
        obtain ⟨s', hs'⟩ := (hmore mid).2 hxs
        exact ⟨s', mid, hx, hs'⟩

/-- Two steps that succeed one after the other lead to the same state the other way round. -/
def Swaps (step : σ → α → Except ε σ) (x y : α) : Prop :=
  ∀ s mid s', step s x = .ok mid → step mid y = .ok s' →
    ∃ mid', step s y = .ok mid' ∧ step mid' x = .ok s'

theorem foldlM_eq_ok_of_perm (hperm : xs.Perm ys)
    (hswaps : ∀ x ∈ xs, ∀ y ∈ xs, Swaps step x y) (h : xs.foldlM step s = .ok s') :
    ys.foldlM step s = .ok s' := by
  induction hperm generalizing s with
  | nil => exact h
  | cons x hperm ih =>
      obtain ⟨mid, hx, hmore⟩ := foldlM_cons_eq_ok_iff.1 h
      have hmore' := ih (fun x hx y hy =>
        hswaps x (List.mem_cons_of_mem _ hx) y (List.mem_cons_of_mem _ hy)) hmore
      exact foldlM_cons_eq_ok_iff.2 ⟨mid, hx, hmore'⟩
  | swap x y xs =>
      obtain ⟨mid, hy, h⟩ := foldlM_cons_eq_ok_iff.1 h
      obtain ⟨after, hx, hmore⟩ := foldlM_cons_eq_ok_iff.1 h
      have hswap := hswaps y List.mem_cons_self x (List.mem_cons_of_mem _ List.mem_cons_self)
      obtain ⟨mid', hx', hy'⟩ := hswap s mid after hy hx
      exact foldlM_cons_eq_ok_iff.2 ⟨mid', hx', foldlM_cons_eq_ok_iff.2 ⟨after, hy', hmore⟩⟩
  | trans hfirst _ ihfirst ihlast =>
      refine ihlast (fun x hx y hy => ?_) (ihfirst hswaps h)
      exact hswaps x (hfirst.mem_iff.2 hx) y (hfirst.mem_iff.2 hy)

end TokenEcho
