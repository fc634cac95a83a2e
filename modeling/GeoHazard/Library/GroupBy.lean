import GeoHazard.Library.Dict
import Mathlib.Algebra.BigOperators.Group.List.Lemmas
import Mathlib.Algebra.Ring.Nat
import Mathlib.Data.List.Dedup
import Mathlib.Data.List.Induction
import Mathlib.Order.Lattice

namespace GroupBy

variable {ρ κ : Type} [DecidableEq κ]

def group (key : ρ → κ) (k : κ) (rows : List ρ) : List ρ := rows.filter (fun r => decide (key r = k))

def keys (key : ρ → κ) (rows : List ρ) : List κ := (rows.map key).dedup

def aggregate {α : Type} (key : ρ → κ) (f : List ρ → α) (rows : List ρ) : List (κ × α) :=
  (keys key rows).map (fun k => (k, f (group key k rows)))

variable {key : ρ → κ} {rows : List ρ} {k : κ}

theorem mem_keys : k ∈ keys key rows ↔ ∃ r ∈ rows, key r = k := by
  simp [keys]

theorem mem_group {r : ρ} : r ∈ group key k rows ↔ r ∈ rows ∧ key r = k := by
  simp [group]

theorem mem_aggregate {α : Type} {f : List ρ → α} {a : α} :
    (k, a) ∈ aggregate key f rows ↔ (∃ r ∈ rows, key r = k) ∧ f (group key k rows) = a := by
  simp only [aggregate, List.mem_map, Prod.mk.injEq]
  rw [← mem_keys]
  constructor
  · rintro ⟨_, hk, rfl, rfl⟩
    exact ⟨hk, rfl⟩
  · rintro ⟨hk, rfl⟩
    exact ⟨k, hk, rfl, rfl⟩

theorem keys_aggregate {α : Type} {f : List ρ → α} :
    Dict.keys (aggregate key f rows) = keys key rows := by
  simp [Dict.keys, aggregate, Function.comp_def]

theorem nodup_keys_aggregate {α : Type} {f : List ρ → α} :
    (Dict.keys (aggregate key f rows)).Nodup := by
  rw [keys_aggregate]
  exact List.nodup_dedup _

theorem perm_group_of_nodup {ks : List κ} (hks : ks.Nodup) (hall : ∀ r ∈ rows, key r ∈ ks) :
    (ks.flatMap (fun k => group key k rows)).Perm rows := by
  induction ks generalizing rows with
  | nil =>
      obtain rfl := List.eq_nil_iff_forall_not_mem.mpr (fun r hr => List.not_mem_nil (hall r hr))
      exact .refl _
  | cons k ks ih =>
      have ⟨hk, hks⟩ := List.nodup_cons.mp hks
      have hothers : ∀ k' ∈ ks, group key k' rows =
          group key k' (rows.filter (fun r => !decide (key r = k))) := by
        intro k' hk'
        rw [group, group, List.filter_filter]
        refine List.filter_congr (fun r _ => ?_)
        have hne : k' ≠ k := fun h => hk (h ▸ hk')
        by_cases hr : key r = k' <;> simp [hr, hne]
      have hrest := @ih (rows.filter (fun r => !decide (key r = k))) hks (fun r hr => by
        obtain ⟨hr, hne⟩ := List.mem_filter.mp hr
        exact (List.mem_cons.mp (hall r hr)).resolve_left (by simpa using hne))
      rw [List.flatMap_cons, List.flatMap_congr hothers]
      exact (hrest.append_left _).trans (List.filter_append_perm _ rows)

theorem perm_groups (key : ρ → κ) (rows : List ρ) :
    ((keys key rows).flatMap (fun k => group key k rows)).Perm rows :=
  perm_group_of_nodup (List.nodup_dedup _) (fun r hr => mem_keys.mpr ⟨r, hr, rfl⟩)

def maximum (value : ρ → Nat) (rows : List ρ) : Nat := rows.foldr (fun r m => max (value r) m) 0

theorem le_maximum {value : ρ → Nat} {r : ρ} (h : r ∈ rows) : value r ≤ maximum value rows := by
  induction rows with
  | nil => simp at h
  | cons x rows ih =>
      rcases List.mem_cons.mp h with rfl | h
      · exact Nat.le_max_left _ _
      · exact (ih h).trans (Nat.le_max_right _ _)

theorem maximum_mem {value : ρ → Nat} (h : rows ≠ []) : ∃ r ∈ rows, value r = maximum value rows := by
  induction rows with
  | nil => simp at h
  | cons x rows ih =>
      by_cases hle : maximum value rows ≤ value x
      · exact ⟨x, by simp, (Nat.max_eq_left hle).symm⟩
      · have hne : rows ≠ [] := by
          rintro rfl
          simp [maximum] at hle
        obtain ⟨r, hr, he⟩ := ih hne
        exact ⟨r, by simp [hr], he.trans (Nat.max_eq_right (Nat.le_of_not_le hle)).symm⟩

theorem mem_aggregate_maximum {value : ρ → Nat} {m : Nat} :
    (k, m) ∈ aggregate key (maximum value) rows ↔
      (∃ r ∈ rows, key r = k ∧ value r = m) ∧ ∀ r ∈ rows, key r = k → value r ≤ m := by
  rw [mem_aggregate]
  constructor
  · rintro ⟨⟨r, hr, hk⟩, rfl⟩
    have hne : group key k rows ≠ [] := List.ne_nil_of_mem (mem_group.mpr ⟨hr, hk⟩)
    obtain ⟨s, hs, he⟩ : ∃ s ∈ group key k rows, value s = maximum value (group key k rows) :=
      maximum_mem hne
    obtain ⟨hs, hks⟩ := mem_group.mp hs
    exact ⟨⟨s, hs, hks, he⟩, fun t ht hkt => le_maximum (mem_group.mpr ⟨ht, hkt⟩)⟩
  · rintro ⟨⟨r, hr, hk, rfl⟩, hmax⟩
    have hmem : r ∈ group key k rows := mem_group.mpr ⟨hr, hk⟩
    obtain ⟨s, hs, he⟩ : ∃ s ∈ group key k rows, value s = maximum value (group key k rows) :=
      maximum_mem (List.ne_nil_of_mem hmem)
    obtain ⟨hs, hks⟩ := mem_group.mp hs
    exact ⟨⟨r, hr, hk⟩, le_antisymm (he ▸ hmax s hs hks) (le_maximum hmem)⟩

theorem get_aggregate {α : Type} {f : List ρ → α} :
    Dict.get k (aggregate key f rows) =
      if ∃ r ∈ rows, key r = k then some (f (group key k rows)) else none := by
  split
  · next h => exact (Dict.get_iff nodup_keys_aggregate).mpr (mem_aggregate.mpr ⟨h, rfl⟩)
  · next h => rw [Dict.get_eq_none, keys_aggregate, mem_keys]; exact h

section
variable {σ ν : Type} [DecidableEq σ]

def nest (rows : List ((κ × σ) × ν)) : List (κ × List (σ × ν)) :=
  rows.foldl (fun d r => Dict.set r.1.1 (Dict.set r.1.2 r.2 ((Dict.get r.1.1 d).getD [])) d) []

def lookup (k : κ) (s : σ) (d : List (κ × List (σ × ν))) : Option ν := (Dict.get k d).bind (Dict.get s)

theorem lookup_set {k' : κ} {s s' : σ} {v : ν} {d : List (κ × List (σ × ν))} :
    lookup k s (Dict.set k' (Dict.set s' v ((Dict.get k' d).getD [])) d) =
      if (k', s') = (k, s) then some v else lookup k s d := by
  simp only [lookup, Dict.get_set, Prod.mk.injEq]
  by_cases hk : k' = k
  · subst hk
    by_cases hs : s' = s
    · simp [hs]
    · cases Dict.get k' d <;> simp [hs, Dict.get_set]
  · simp [hk]

theorem lookup_nest {s : σ} {rows : List ((κ × σ) × ν)} (hn : (Dict.keys rows).Nodup) :
    lookup k s (nest rows) = Dict.get (k, s) rows := by
  have hfold : ∀ (rows : List ((κ × σ) × ν)) (d : List (κ × List (σ × ν))),
      lookup k s (rows.foldl (fun d r => Dict.set r.1.1 (Dict.set r.1.2 r.2
        ((Dict.get r.1.1 d).getD [])) d) d) = (Dict.get (k, s) rows.reverse).or (lookup k s d) := by
    intro rows
    induction rows with
    | nil => simp
    | cons r rows ih =>
        intro d
        rw [List.foldl_cons, ih, lookup_set, List.reverse_cons, Dict.get_append]
        by_cases hr : (r.1.1, r.1.2) = (k, s)
        · have hr' : r.1 = (k, s) := hr
          cases Dict.get (k, s) rows.reverse <;> simp [hr, Dict.get, ← hr']
        · have hr' : ¬ r.1 = (k, s) := hr
          cases Dict.get (k, s) rows.reverse <;> simp [hr, Dict.get]
  rw [nest, hfold]
  have hperm : Dict.get (k, s) rows.reverse = Dict.get (k, s) rows := by
    have hn' : (Dict.keys rows.reverse).Nodup := by simpa [Dict.keys] using hn
    refine Option.ext (fun v => ?_)
    rw [Dict.get_iff hn', Dict.get_iff hn, List.mem_reverse]
  simp [hperm, lookup]

end

section
variable {α : Type} (key : ρ → κ) (f : α → ρ → α) (init : α)

def grow (d : List (κ × α)) (r : ρ) : List (κ × α) :=
  Dict.set (key r) (f ((Dict.get (key r) d).getD init) r) d

variable {key f init}

theorem get_foldl_grow :
    Dict.get k (rows.foldl (grow key f init) []) =
      if ∃ r ∈ rows, key r = k then some ((group key k rows).foldl f init) else none := by
  induction rows using List.reverseRecOn with
  | nil => simp
  | append_singleton rows r ih =>
      rw [List.foldl_append, List.foldl_cons, List.foldl_nil, grow, Dict.get_set]
      by_cases hr : key r = k
      · have hrow : ∃ s ∈ rows ++ [r], key s = k := ⟨r, by simp, hr⟩
        have hgroup : group key k (rows ++ [r]) = group key k rows ++ [r] := by simp [group, hr]
        rw [if_pos hr, if_pos hrow, hgroup, List.foldl_append, hr, ih]
        split
        · rfl
        · next hnone =>
            have hempty : group key k rows = [] := by
              simpa [group, List.filter_eq_nil_iff] using hnone
            rw [hempty]
            rfl
      · have hgroup : group key k (rows ++ [r]) = group key k rows := by simp [group, hr]
        have hrows : (∃ s ∈ rows ++ [r], key s = k) ↔ ∃ s ∈ rows, key s = k := by simp [hr]
        rw [if_neg hr, ih, hgroup]
        simp only [hrows]

end

section
variable {α : Type} [DecidableEq α] {value : ρ → Option α}

-- count(DISTINCT value): a NULL is no value
def distinct (value : ρ → Option α) (rows : List ρ) : Nat := (rows.filterMap value).dedup.length

theorem distinct_le_length : distinct value rows ≤ rows.length :=
  (List.dedup_sublist _).length_le.trans (List.length_filterMap_le _ _)

theorem sum_length_aggregate : ((aggregate key List.length rows).map Prod.snd).sum = rows.length := by
  have hcount : ∀ k, (group key k rows).length = (rows.map key).count k := by
    intro k
    rw [group, ← List.countP_eq_length_filter, List.count, List.countP_map]
    exact List.countP_congr (by simp)
  simp only [aggregate, List.map_map, Function.comp_def, hcount]
  rw [keys, List.sum_map_count_dedup_eq_length, List.length_map]

theorem sum_distinct_aggregate (h : ∀ r ∈ rows, ∀ r' ∈ rows, ∀ a, value r = some a →
    value r' = some a → key r = key r') :
    ((aggregate key (distinct value) rows).map Prod.snd).sum = distinct value rows := by
  have hmem : ∀ {k a}, a ∈ ((group key k rows).filterMap value).dedup ↔
      ∃ r ∈ rows, key r = k ∧ value r = some a := by
    intro k a
    simp [mem_group, and_assoc]
  have hnodup : ((keys key rows).flatMap
      (fun k => ((group key k rows).filterMap value).dedup)).Nodup := by
    rw [List.nodup_flatMap]
    refine ⟨fun k _ => List.nodup_dedup _, (List.nodup_dedup _).imp (fun {k k'} hne => ?_)⟩
    intro a ha ha'
    obtain ⟨r, hr, hk, hv⟩ := hmem.mp ha
    obtain ⟨r', hr', hk', hv'⟩ := hmem.mp ha'
    exact hne (hk ▸ hk' ▸ h r hr r' hr' a hv hv')
  have hperm : ((keys key rows).flatMap
      (fun k => ((group key k rows).filterMap value).dedup)).Perm (rows.filterMap value).dedup := by
    rw [List.perm_ext_iff_of_nodup hnodup (List.nodup_dedup _)]
    intro a
    rw [List.mem_flatMap, List.mem_dedup, List.mem_filterMap]
    constructor
    · rintro ⟨k, _, ha⟩
      obtain ⟨r, hr, _, hv⟩ := hmem.mp ha
      exact ⟨r, hr, hv⟩
    · rintro ⟨r, hr, hv⟩
      exact ⟨key r, mem_keys.mpr ⟨r, hr, rfl⟩, hmem.mpr ⟨r, hr, rfl, hv⟩⟩
  rw [distinct, ← hperm.length_eq, List.length_flatMap]
  simp [aggregate, distinct, Function.comp_def]

end

end GroupBy
