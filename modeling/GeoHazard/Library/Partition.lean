import Mathlib

namespace Partition

variable {ρ κ : Type} [DecidableEq κ] {key : ρ → κ} {keys : List κ}

def part (key : ρ → κ) (k : κ) (rows : List ρ) : List ρ := rows.filter (fun r => decide (key r = k))

theorem mem_part {k : κ} {rows : List ρ} {r : ρ} : r ∈ part key k rows ↔ r ∈ rows ∧ key r = k := by
  simp [part]

theorem sum_indicator {A : Type} [AddCommMonoid A] (hn : keys.Nodup) {k : κ} (hk : k ∈ keys) (a : A) :
    (keys.map (fun k' => if k = k' then a else 0)).sum = a := by
  induction keys with
  | nil => simp at hk
  | cons k' keys ih =>
      obtain ⟨hno, hn⟩ := List.nodup_cons.mp hn
      simp only [List.map_cons, List.sum_cons]
      by_cases he : k = k'
      · subst he
        have hrest : (keys.map (fun k' => if k = k' then a else 0)).sum = 0 := by
          refine List.sum_eq_zero (fun x hx => ?_)
          obtain ⟨k', hk', rfl⟩ := List.mem_map.mp hx
          refine if_neg ?_
          rintro rfl
          exact hno hk'
        rw [if_pos rfl, hrest, add_zero]
      · rw [if_neg he, zero_add, ih hn (List.mem_of_ne_of_mem he hk)]

theorem sum_parts {A : Type} [AddCommMonoid A] (hn : keys.Nodup) (value : ρ → A) {rows : List ρ}
    (hcover : ∀ r ∈ rows, key r ∈ keys) :
    (keys.map (fun k => ((part key k rows).map value).sum)).sum = (rows.map value).sum := by
  induction rows with
  | nil => simp [part]
  | cons r rows ih =>
      have hstep : ∀ k, ((part key k (r :: rows)).map value).sum =
          (if key r = k then value r else 0) + ((part key k rows).map value).sum := by
        intro k
        by_cases hk : key r = k <;> simp [part, hk]
      simp only [hstep, List.sum_map_add, List.map_cons, List.sum_cons]
      rw [sum_indicator hn (hcover r (by simp)), ih (fun s hs => hcover s (by simp [hs]))]

theorem length_parts (hn : keys.Nodup) {rows : List ρ} (hcover : ∀ r ∈ rows, key r ∈ keys) :
    (keys.map (fun k => (part key k rows).length)).sum = rows.length := by
  have hone := sum_parts hn (fun _ => 1) hcover
  simpa using hone

theorem max?_parts {M : Type} [LinearOrder M] (value : ρ → Option M) {rows : List ρ}
    (hcover : ∀ r ∈ rows, key r ∈ keys) :
    (keys.filterMap (fun k => ((part key k rows).filterMap value).max?)).max? =
      (rows.filterMap value).max? := by
  cases hmax : (rows.filterMap value).max? with
  | none =>
      have hnone := List.max?_eq_none_iff.mp hmax
      rw [List.max?_eq_none_iff, List.filterMap_eq_nil_iff]
      intro k _
      rw [List.max?_eq_none_iff, List.filterMap_eq_nil_iff]
      exact fun r hr => List.filterMap_eq_nil_iff.mp hnone r (mem_part.mp hr).1
  | some m =>
      obtain ⟨hm, hle⟩ := List.max?_eq_some_iff.mp hmax
      obtain ⟨r, hr, hv⟩ := List.mem_filterMap.mp hm
      refine List.max?_eq_some_iff.mpr ⟨?_, fun x hx => ?_⟩
      · refine List.mem_filterMap.mpr ⟨key r, hcover r hr, List.max?_eq_some_iff.mpr ⟨?_, ?_⟩⟩
        · exact List.mem_filterMap.mpr ⟨r, mem_part.mpr ⟨hr, rfl⟩, hv⟩
        · intro x hx
          obtain ⟨s, hs, hvs⟩ := List.mem_filterMap.mp hx
          exact hle x (List.mem_filterMap.mpr ⟨s, (mem_part.mp hs).1, hvs⟩)
      · obtain ⟨k, _, hk⟩ := List.mem_filterMap.mp hx
        obtain ⟨s, hs, hvs⟩ := List.mem_filterMap.mp (List.max?_eq_some_iff.mp hk).1
        exact hle x (List.mem_filterMap.mpr ⟨s, (mem_part.mp hs).1, hvs⟩)

theorem abs_sum_sub_le {A : Type} (f g bound : A → ℚ) {xs : List A}
    (h : ∀ x ∈ xs, |f x - g x| ≤ bound x) :
    |(xs.map f).sum - (xs.map g).sum| ≤ (xs.map bound).sum := by
  induction xs with
  | nil => simp
  | cons x xs ih =>
      have hx := h x (by simp)
      have hrest := ih (fun y hy => h y (by simp [hy]))
      simp only [List.map_cons, List.sum_cons]
      calc |f x + (xs.map f).sum - (g x + (xs.map g).sum)|
          = |(f x - g x) + ((xs.map f).sum - (xs.map g).sum)| := by ring_nf
        _ ≤ |f x - g x| + |(xs.map f).sum - (xs.map g).sum| := abs_add_le _ _
        _ ≤ bound x + (xs.map bound).sum := add_le_add hx hrest

end Partition
