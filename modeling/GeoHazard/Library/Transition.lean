import Mathlib.Logic.Function.Basic
import Mathlib.Logic.Relation
import Mathlib.Tactic.Common

namespace Transition

variable {σ α : Type}

inductive Run (step : σ → α → σ → Prop) : σ → List α → σ → Prop
  | nil (s : σ) : Run step s [] s
  | snoc {s t u : σ} {as : List α} {a : α} :
      Run step s as t → step t a u → Run step s (as ++ [a]) u

variable {step : σ → α → σ → Prop}

theorem Run.one {s t : σ} {a : α} (h : step s a t) : Run step s [a] t := by
  simpa using Run.snoc (Run.nil s) h

theorem Run.append {s t u : σ} {as bs : List α}
    (h : Run step s as t) (k : Run step t bs u) : Run step s (as ++ bs) u := by
  induction k with
  | nil => simpa using h
  | snoc _ hs ih =>
      rw [← List.append_assoc]
      exact .snoc ih hs

theorem Run.cons {s t u : σ} {a : α} {as : List α}
    (h : step s a t) (k : Run step t as u) : Run step s (a :: as) u :=
  (Run.one h).append k

theorem Run.nil_iff {s t : σ} : Run step s [] t ↔ s = t := by
  constructor
  · intro h
    generalize he : ([] : List α) = as at h
    cases h with
    | nil => rfl
    | snoc _ _ => simp at he
  · rintro rfl
    exact .nil s

theorem Run.cons_inv {s u : σ} {a : α} {as : List α} (h : Run step s (a :: as) u) :
    ∃ t, step s a t ∧ Run step t as u := by
  generalize he : a :: as = bs at h
  induction h generalizing as with
  | nil => simp at he
  | @snoc t u cs c hr hs ih =>
      cases cs with
      | nil =>
          simp only [List.nil_append, List.cons.injEq] at he
          obtain ⟨rfl, rfl⟩ := he
          exact ⟨u, Run.nil_iff.mp hr ▸ hs, .nil u⟩
      | cons b cs =>
          simp only [List.cons_append, List.cons.injEq] at he
          obtain ⟨rfl, rfl⟩ := he
          obtain ⟨v, hv, hk⟩ := ih rfl
          exact ⟨v, hv, .snoc hk hs⟩

theorem Run.append_inv {s u : σ} {as bs : List α} (h : Run step s (as ++ bs) u) :
    ∃ t, Run step s as t ∧ Run step t bs u := by
  induction as generalizing s with
  | nil => exact ⟨s, .nil s, h⟩
  | cons a as ih =>
      obtain ⟨t, ht, hk⟩ := Run.cons_inv h
      obtain ⟨v, hv, hw⟩ := ih hk
      exact ⟨v, .cons ht hv, hw⟩

theorem Run.deterministic
    (hstep : ∀ s a t u, step s a t → step s a u → t = u) {s t u : σ} {as : List α}
    (ht : Run step s as t) (hu : Run step s as u) : t = u := by
  induction ht generalizing u with
  | nil => exact Run.nil_iff.mp hu
  | snoc _ hlast ih =>
      obtain ⟨v, hbefore, hk⟩ := Run.append_inv hu
      obtain rfl := ih hbefore
      obtain ⟨_, hs, hnil⟩ := Run.cons_inv hk
      obtain rfl := Run.nil_iff.mp hnil
      exact hstep _ _ _ _ hlast hs

theorem Run.mono {step' : σ → α → σ → Prop} (h : ∀ s a t, step s a t → step' s a t)
    {s t : σ} {as : List α} (k : Run step s as t) : Run step' s as t := by
  induction k with
  | nil => exact .nil _
  | snoc _ hs ih => exact .snoc ih (h _ _ _ hs)

theorem Run.invariant {I : σ → Prop} (hstep : ∀ s a t, I s → step s a t → I t)
    {s t : σ} {as : List α} (h : Run step s as t) (hs : I s) : I t := by
  induction h with
  | nil => exact hs
  | snoc _ hk ih => exact hstep _ _ _ ih hk

theorem Run.history {I : List α → σ → Prop}
    (hstep : ∀ as s a t, I as s → step s a t → I (as ++ [a]) t)
    {s t : σ} {as : List α} (h : Run step s as t) (hs : I [] s) : I as t := by
  induction h with
  | nil => exact hs
  | snoc _ hk ih => exact hstep _ _ _ _ ih hk

def Guarded (C : σ → α → Prop) (step : σ → α → σ → Prop) (s : σ) (a : α) (t : σ) : Prop :=
  C s a ∧ step s a t

def Reachable (init : σ → Prop) (step : σ → α → σ → Prop) (s : σ) : Prop :=
  ∃ s₀ as, init s₀ ∧ Run step s₀ as s

theorem Reachable.invariant {init : σ → Prop} {I : σ → Prop} {s : σ}
    (h : Reachable init step s) (hinit : ∀ s, init s → I s)
    (hstep : ∀ s a t, I s → step s a t → I t) : I s := by
  obtain ⟨s₀, as, h₀, hr⟩ := h
  exact hr.invariant hstep (hinit s₀ h₀)

theorem Reachable.run {init : σ → Prop} {s t : σ} {as : List α}
    (h : Reachable init step s) (k : Run step s as t) : Reachable init step t := by
  obtain ⟨s₀, bs, h₀, hr⟩ := h
  exact ⟨s₀, bs ++ as, h₀, hr.append k⟩

-- some step of the run is one that P speaks of
def Passes (step : σ → α → σ → Prop) (P : σ → α → σ → Prop) (s : σ) (as : List α) (t : σ) : Prop :=
  ∃ before a after u v, as = before ++ a :: after ∧ Run step s before u ∧ step u a v ∧
    Run step v after t ∧ P u a v

theorem Passes.snoc {P : σ → α → σ → Prop} {s t u : σ} {as : List α} {a : α}
    (h : Passes step P s as t) (k : step t a u) : Passes step P s (as ++ [a]) u := by
  obtain ⟨before, b, after, v, w, rfl, hv, hb, hw, hp⟩ := h
  exact ⟨before, b, after ++ [a], v, w, by simp, hv, hb, hw.snoc k, hp⟩

theorem Run.passes_last {P : σ → α → σ → Prop} {s t u : σ} {as : List α} {a : α}
    (h : Run step s as t) (k : step t a u) (hp : P t a u) : Passes step P s (as ++ [a]) u :=
  ⟨as, a, [], t, u, rfl, h, k, .nil u, hp⟩

theorem Run.split {s t : σ} {as : List α} {a : α} (h : Run step s as t) (ha : a ∈ as) :
    ∃ before after u v, as = before ++ a :: after ∧ Run step s before u ∧ step u a v ∧
      Run step v after t := by
  obtain ⟨before, after, rfl⟩ := List.append_of_mem ha
  obtain ⟨u, hu, hrest⟩ := h.append_inv
  obtain ⟨v, hv, hafter⟩ := hrest.cons_inv
  exact ⟨before, after, u, v, rfl, hu, hv, hafter⟩

theorem update_some {ι β : Type} [DecidableEq ι] {f : ι → Option β} {i j : ι} {x : Option β} {b : β}
    (h : Function.update f i x j = some b) : (j = i ∧ x = some b) ∨ (j ≠ i ∧ f j = some b) := by
  by_cases hj : j = i
  · subst hj
    exact .inl ⟨rfl, by simpa using h⟩
  · exact .inr ⟨hj, by simpa [hj] using h⟩

end Transition
