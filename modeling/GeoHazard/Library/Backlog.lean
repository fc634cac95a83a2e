import GeoHazard.Library.Table
import GeoHazard.Library.Transition

namespace Backlog

section
variable {σ α : Type} {step : σ → α → σ → Prop}

theorem run_paid {I : σ → Prop} {C : α → Prop} {Φ E : σ → Nat} {c : α → Nat}
    (hstep : ∀ s a t, I s → C a → step s a t → I t ∧ Φ t + c a + E s ≤ Φ s + E t)
    {s t : σ} {as : List α} (h : Transition.Run step s as t) (hs : I s) (hC : ∀ a ∈ as, C a) :
    I t ∧ Φ t + (as.map c).sum + E s ≤ Φ s + E t := by
  induction h with
  | nil => exact ⟨hs, by simp⟩
  | snoc _ hk ih =>
      obtain ⟨ht, hpaid⟩ := ih (fun a ha => hC a (by simp [ha]))
      obtain ⟨hu, hnext⟩ := hstep _ _ _ ht (hC _ (by simp)) hk
      refine ⟨hu, ?_⟩
      simp only [List.map_append, List.map_cons, List.map_nil, List.sum_append, List.sum_singleton]
      omega

end

variable {ρ κ : Type} [DecidableEq κ] {key : ρ → κ} {p q r : ρ → Bool} {f : ρ → ρ}
  {t taken : List ρ}

theorem countP_update_le (h : ∀ o ∈ t, q (if p o then f o else o) = true → r o = true) :
    (Table.update p f t).countP q ≤ t.countP r := by
  rw [Table.update, List.countP_map]
  exact List.countP_mono_left h

theorem countP_update_le_add (p q : ρ → Bool) (f : ρ → ρ) (t : List ρ) :
    (Table.update p f t).countP q ≤ t.countP q + t.countP p := by
  induction t with
  | nil => simp [Table.update]
  | cons o t ih =>
      simp only [Table.update] at ih
      cases hp : p o <;> simp only [Table.update, List.map_cons, List.countP_cons, hp, if_true,
        Bool.false_eq_true, if_false]
      · omega
      · split <;> split <;> omega

theorem countP_taken (hn : taken.Nodup) (ht : ∀ o ∈ taken, o ∈ t ∧ p o = true) :
    t.countP (fun o => p o && decide (key o ∉ taken.map key)) + taken.length ≤ t.countP p := by
  have hsplit : t.countP p = t.countP (fun o => p o && decide (key o ∉ taken.map key)) +
      t.countP (fun o => p o && decide (key o ∈ taken.map key)) := by
    clear ht
    induction t with
    | nil => rfl
    | cons o t ih =>
        by_cases ho : key o ∈ taken.map key <;> cases hp : p o <;>
          simp only [List.countP_cons, ih, ho, hp, not_true, not_false_eq_true, decide_true,
            decide_false, Bool.and_true, Bool.and_false, if_true, if_false,
            Bool.false_eq_true] <;> omega
  have hlen : taken.length ≤ t.countP (fun o => p o && decide (key o ∈ taken.map key)) := by
    rw [List.countP_eq_length_filter]
    refine (List.subperm_of_subset hn (fun o ho => ?_)).length_le
    obtain ⟨hmem, hp⟩ := ht o ho
    rw [List.mem_filter, hp, Bool.true_and, decide_eq_true_eq]
    exact ⟨hmem, List.mem_map_of_mem ho⟩
  omega

end Backlog
