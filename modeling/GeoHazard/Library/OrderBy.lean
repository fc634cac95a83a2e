import Mathlib.Data.List.Sort
import Mathlib.Data.Prod.Lex

namespace OrderBy

variable {ρ κ : Type} [LinearOrder κ]

-- the comparison of an ORDER BY, whatever its columns, is that of one key
structure By (before : ρ → ρ → Prop) (key : ρ → κ) : Prop where
  iff : ∀ {a b}, before a b ↔ key a ≤ key b

variable {before : ρ → ρ → Prop} [DecidableRel before] {key : ρ → κ} {xs : List ρ} {x y : ρ}

omit [DecidableRel before] in
theorem By.total (h : By before key) : Std.Total before :=
  ⟨fun a b => (le_total (key a) (key b)).imp h.iff.mpr h.iff.mpr⟩

omit [DecidableRel before] in
theorem By.trans (h : By before key) : IsTrans ρ before :=
  ⟨fun _ _ _ hab hbc => h.iff.mpr ((h.iff.mp hab).trans (h.iff.mp hbc))⟩

theorem By.sorted (h : By before key) (xs : List ρ) : (xs.insertionSort before).Pairwise before := by
  have := h.total
  have := h.trans
  exact List.pairwise_insertionSort before xs

-- ORDER BY .. LIMIT n
def limited (before : ρ → ρ → Prop) [DecidableRel before] (n : Nat) (xs : List ρ) : List ρ :=
  (xs.insertionSort before).take n

theorem mem_limited {n : Nat} (hx : x ∈ limited before n xs) : x ∈ xs :=
  (List.mem_insertionSort before).mp (List.mem_of_mem_take hx)

theorem length_limited (n : Nat) (xs : List ρ) : (limited before n xs).length = min n xs.length := by
  rw [limited, List.length_take, List.length_insertionSort]

theorem By.limited_sorted (h : By before key) (n : Nat) (xs : List ρ) :
    (limited before n xs).Pairwise before :=
  (h.sorted xs).sublist (List.take_sublist n _)

theorem By.limited_rest (h : By before key) (n : Nat) (xs : List ρ) :
    ∃ rest, (limited before n xs ++ rest).Perm xs ∧
      ∀ x ∈ limited before n xs, ∀ y ∈ rest, before x y := by
  refine ⟨(xs.insertionSort before).drop n, ?_, ?_⟩
  · rw [limited, List.take_append_drop]
    exact List.perm_insertionSort before xs
  · have hsorted := h.sorted xs
    rw [← List.take_append_drop n (xs.insertionSort before)] at hsorted
    exact (List.pairwise_append.mp hsorted).2.2

theorem By.head (h : By before key) (hx : (xs.insertionSort before).head? = some x) :
    x ∈ xs ∧ ∀ y ∈ xs, before x y := by
  have hsorted := h.sorted xs
  have hmem := fun z => @List.mem_insertionSort _ before _ xs z
  cases hl : xs.insertionSort before with
  | nil => simp [hl] at hx
  | cons z rest =>
      rw [hl] at hx hsorted hmem
      obtain rfl := Option.some.inj hx
      refine ⟨(hmem z).mp List.mem_cons_self, fun y hy => ?_⟩
      rcases List.mem_cons.mp ((hmem y).mpr hy) with rfl | hy
      · exact h.iff.mpr (le_refl _)
      · exact List.rel_of_pairwise_cons hsorted hy

end OrderBy
