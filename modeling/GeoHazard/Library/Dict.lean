import Mathlib.Data.List.Nodup
import Mathlib.Data.List.Lookmap

namespace Dict

variable {κ ν : Type} [DecidableEq κ]

def get (k : κ) : List (κ × ν) → Option ν
  | [] => none
  | (k', v) :: d => if k' = k then some v else get k d

def set (k : κ) (v : ν) : List (κ × ν) → List (κ × ν)
  | [] => [(k, v)]
  | (k', w) :: d => if k' = k then (k', v) :: d else (k', w) :: set k v d

def erase (k : κ) (d : List (κ × ν)) : List (κ × ν) := d.filter (fun kv => decide (kv.1 ≠ k))

def keys (d : List (κ × ν)) : List κ := d.map Prod.fst

def values (d : List (κ × ν)) : List ν := d.map Prod.snd

def ofList (kvs : List (κ × ν)) : List (κ × ν) :=
  kvs.foldl (fun d kv => set kv.1 kv.2 d) []

def update (d e : List (κ × ν)) : List (κ × ν) :=
  e.foldl (fun d kv => set kv.1 kv.2 d) d

@[simp] theorem get_nil (k : κ) : get k ([] : List (κ × ν)) = none := rfl

theorem get_set (k k' : κ) (v : ν) (d : List (κ × ν)) :
    get k (set k' v d) = if k' = k then some v else get k d := by
  induction d with
  | nil => simp [set, get]
  | cons kv d ih =>
      obtain ⟨a, w⟩ := kv
      by_cases ha : a = k'
      · subst ha
        simp only [set, if_pos, get]
        split <;> rfl
      · simp only [set, if_neg ha, get, ih]
        by_cases hk : a = k
        · have hne : ¬ k' = k := fun h => ha (hk.trans h.symm)
          simp [hk, hne]
        · simp [hk]

@[simp] theorem get_set_self (k : κ) (v : ν) (d : List (κ × ν)) :
    get k (set k v d) = some v := by
  simp [get_set]

theorem get_set_other {k k' : κ} (h : k' ≠ k) (v : ν) (d : List (κ × ν)) :
    get k (set k' v d) = get k d := by
  simp [get_set, h]

theorem get_erase (k k' : κ) (d : List (κ × ν)) :
    get k (erase k' d) = if k' = k then none else get k d := by
  induction d with
  | nil => simp [erase]
  | cons kv d ih =>
      obtain ⟨a, w⟩ := kv
      simp only [erase] at ih
      by_cases ha : a = k'
      · subst ha
        simp only [erase, List.filter_cons, ne_eq, not_true, decide_false, Bool.false_eq_true,
          if_false, get, ih]
        split <;> rfl
      · simp only [erase, List.filter_cons, ne_eq, ha, not_false_eq_true, decide_true, if_true, get,
          ih]
        by_cases hk : a = k
        · have hne : ¬ k' = k := fun h => ha (hk.trans h.symm)
          simp [hk, hne]
        · simp [hk]

theorem get_eq_none {k : κ} {d : List (κ × ν)} : get k d = none ↔ k ∉ keys d := by
  induction d with
  | nil => simp [keys]
  | cons kv d ih =>
      obtain ⟨a, w⟩ := kv
      by_cases ha : a = k
      · simp [get, keys, ha]
      · have hne : ¬ k = a := fun h => ha h.symm
        simp only [get, if_neg ha, ih, keys, List.map_cons, List.mem_cons, hne, false_or]

theorem mem_of_get {k : κ} {v : ν} {d : List (κ × ν)} (h : get k d = some v) : (k, v) ∈ d := by
  induction d with
  | nil => simp at h
  | cons kv d ih =>
      obtain ⟨a, w⟩ := kv
      simp only [get] at h
      split at h
      · next ha => simp_all
      · exact List.mem_cons_of_mem _ (ih h)

theorem mem_set {kv : κ × ν} {k : κ} {v : ν} {d : List (κ × ν)} (h : kv ∈ set k v d) :
    kv = (k, v) ∨ kv ∈ d := by
  induction d with
  | nil => exact .inl (List.mem_singleton.mp h)
  | cons p d ih =>
      obtain ⟨a, w⟩ := p
      simp only [set] at h
      split at h
      · next ha =>
          rcases List.mem_cons.mp h with h | h
          · exact .inl (ha ▸ h)
          · exact .inr (List.mem_cons_of_mem _ h)
      · rcases List.mem_cons.mp h with h | h
        · exact .inr (h ▸ List.mem_cons_self)
        · exact (ih h).imp id (List.mem_cons_of_mem _)

def total (f : ν → Nat) : List ν → Nat
  | [] => 0
  | v :: vs => f v + total f vs

@[simp] theorem total_nil (f : ν → Nat) : total f [] = 0 := rfl

@[simp] theorem total_cons (f : ν → Nat) (v : ν) (vs : List ν) :
    total f (v :: vs) = f v + total f vs := rfl

@[simp] theorem total_append (f : ν → Nat) (vs ws : List ν) :
    total f (vs ++ ws) = total f vs + total f ws := by
  induction vs with
  | nil => simp
  | cons v vs ih =>
      simp only [List.cons_append, total_cons, ih]
      omega

theorem total_set {k : κ} {v w : ν} {d : List (κ × ν)} (f : ν → Nat) (h : get k d = some w) :
    total f (values (set k v d)) + f w = total f (values d) + f v := by
  induction d with
  | nil => simp at h
  | cons p d ih =>
      obtain ⟨a, u⟩ := p
      simp only [get] at h
      split at h
      · next ha =>
          obtain rfl := Option.some.inj h
          simp only [set, if_pos ha, values, List.map_cons, total_cons]
          omega
      · next ha =>
          have hd := ih h
          simp only [set, if_neg ha, values, List.map_cons, total_cons] at hd ⊢
          omega

omit [DecidableEq κ] in
theorem total_filter_le (f : ν → Nat) (p : κ × ν → Bool) (d : List (κ × ν)) :
    total f (values (d.filter p)) ≤ total f (values d) := by
  induction d with
  | nil => simp
  | cons kv d ih =>
      simp only [List.filter_cons]
      split
      · simp only [values, List.map_cons, total_cons] at ih ⊢
        omega
      · simp only [values, List.map_cons, total_cons] at ih ⊢
        omega

theorem total_erase {k : κ} {w : ν} {d : List (κ × ν)} (f : ν → Nat) (h : get k d = some w) :
    total f (values (erase k d)) + f w ≤ total f (values d) := by
  induction d with
  | nil => simp at h
  | cons p d ih =>
      obtain ⟨a, u⟩ := p
      have hle := total_filter_le f (fun kv => decide (kv.1 ≠ k)) d
      simp only [get] at h
      split at h
      · next ha =>
          obtain rfl := Option.some.inj h
          have hskip : erase k ((a, u) :: d) = d.filter (fun kv => decide (kv.1 ≠ k)) := by
            simp [erase, ha]
          rw [hskip]
          simp only [values, List.map_cons, total_cons] at hle ⊢
          omega
      · next ha =>
          have hkeep : erase k ((a, u) :: d) = (a, u) :: erase k d := by simp [erase, ha]
          have hd := ih h
          rw [hkeep]
          simp only [values, List.map_cons, total_cons] at hd ⊢
          omega

theorem get_of_mem {k : κ} {v : ν} {d : List (κ × ν)} (hn : (keys d).Nodup) (h : (k, v) ∈ d) :
    get k d = some v := by
  induction d with
  | nil => simp at h
  | cons kv d ih =>
      obtain ⟨a, w⟩ := kv
      simp only [keys, List.map_cons, List.nodup_cons] at hn
      rcases List.mem_cons.mp h with he | hm
      · simp only [Prod.mk.injEq] at he
        simp [get, he.1, he.2]
      · have hne : a ≠ k := by
          rintro rfl
          exact hn.1 (List.mem_map_of_mem (f := Prod.fst) hm)
        simp only [get, if_neg hne]
        exact ih hn.2 hm

theorem get_iff {k : κ} {v : ν} {d : List (κ × ν)} (hn : (keys d).Nodup) :
    get k d = some v ↔ (k, v) ∈ d :=
  ⟨mem_of_get, get_of_mem hn⟩

theorem mem_keys_set {k k' : κ} {v : ν} {d : List (κ × ν)} :
    k ∈ keys (set k' v d) ↔ k = k' ∨ k ∈ keys d := by
  induction d with
  | nil => simp [set, keys]
  | cons kv d ih =>
      obtain ⟨a, w⟩ := kv
      by_cases ha : a = k'
      · simp [set, keys, ha]
      · simp only [keys] at ih
        simp only [set, if_neg ha, keys, List.map_cons, List.mem_cons, ih]
        tauto

theorem nodup_keys_set {k : κ} {v : ν} {d : List (κ × ν)} (h : (keys d).Nodup) :
    (keys (set k v d)).Nodup := by
  induction d with
  | nil => simp [set, keys]
  | cons kv d ih =>
      obtain ⟨a, w⟩ := kv
      simp only [keys, List.map_cons, List.nodup_cons] at h
      by_cases ha : a = k
      · simpa [set, keys, ha] using h
      · simp only [set, if_neg ha, keys, List.map_cons, List.nodup_cons]
        refine ⟨fun hm => ?_, ih h.2⟩
        rcases mem_keys_set.mp hm with rfl | hk
        · exact ha rfl
        · exact h.1 hk

theorem nodup_keys_update {d e : List (κ × ν)} (h : (keys d).Nodup) :
    (keys (update d e)).Nodup := by
  induction e generalizing d with
  | nil => exact h
  | cons kv e ih => exact ih (nodup_keys_set h)

theorem nodup_keys_ofList (kvs : List (κ × ν)) : (keys (ofList kvs)).Nodup :=
  nodup_keys_update (d := []) (by simp [keys])

theorem get_append (k : κ) (d e : List (κ × ν)) : get k (d ++ e) = (get k d).or (get k e) := by
  induction d with
  | nil => simp
  | cons kv d ih =>
      simp only [List.cons_append, get, ih]
      split <;> simp

theorem get_update (k : κ) (d e : List (κ × ν)) :
    get k (update d e) = (get k e.reverse).or (get k d) := by
  induction e generalizing d with
  | nil => simp [update]
  | cons kv e ih =>
      have h := ih (set kv.1 kv.2 d)
      simp only [update, List.foldl_cons] at h ⊢
      rw [h, get_set, List.reverse_cons, get_append, Option.or_assoc]
      simp only [get]
      split <;> simp

theorem get_ofList (k : κ) (kvs : List (κ × ν)) : get k (ofList kvs) = get k kvs.reverse := by
  rw [show ofList kvs = update [] kvs from rfl, get_update]
  simp

theorem get_update_of_not_mem {k : κ} {d e : List (κ × ν)} (h : k ∉ keys e) :
    get k (update d e) = get k d := by
  have hr : get k e.reverse = none := by
    rw [get_eq_none]
    simpa [keys] using h
  simp [get_update, hr]

theorem mem_keys_update {k : κ} {d e : List (κ × ν)} :
    k ∈ keys (update d e) ↔ k ∈ keys d ∨ k ∈ keys e := by
  induction e generalizing d with
  | nil => simp [update, keys]
  | cons kv e ih =>
      have := ih (d := set kv.1 kv.2 d)
      simp only [update, List.foldl_cons] at this ⊢
      rw [this, mem_keys_set]
      simp only [keys, List.map_cons, List.mem_cons]
      tauto

theorem mem_keys_ofList {k : κ} {kvs : List (κ × ν)} : k ∈ keys (ofList kvs) ↔ k ∈ keys kvs := by
  rw [show ofList kvs = update [] kvs from rfl, mem_keys_update]
  simp [keys]

theorem mem_of_mem_update {kv : κ × ν} {d e : List (κ × ν)} (hn : (keys d).Nodup)
    (h : kv ∈ update d e) : kv ∈ d ∨ kv ∈ e := by
  have hg := get_of_mem (nodup_keys_update hn) h
  rw [get_update] at hg
  cases hr : get kv.1 e.reverse with
  | none =>
      rw [hr] at hg
      exact .inl (mem_of_get hg)
  | some v =>
      rw [hr] at hg
      simp only [Option.some_or, Option.some.injEq] at hg
      subst hg
      exact .inr (List.mem_reverse.mp (mem_of_get hr))

theorem set_map {μ : Type} (f : ν → μ) (k : κ) (v : ν) (d : List (κ × ν)) :
    set k (f v) (d.map (fun kv => (kv.1, f kv.2))) = (set k v d).map (fun kv => (kv.1, f kv.2)) := by
  induction d with
  | nil => rfl
  | cons kv d ih =>
      simp only [List.map_cons, set]
      split
      · rfl
      · rw [ih, List.map_cons]

theorem ofList_map {μ : Type} (f : ν → μ) (kvs : List (κ × ν)) :
    ofList (kvs.map (fun kv => (kv.1, f kv.2))) = (ofList kvs).map (fun kv => (kv.1, f kv.2)) := by
  have hfold : ∀ d : List (κ × ν),
      (kvs.map (fun kv => (kv.1, f kv.2))).foldl (fun d kv => set kv.1 kv.2 d)
        (d.map (fun kv => (kv.1, f kv.2))) =
      (kvs.foldl (fun d kv => set kv.1 kv.2 d) d).map (fun kv => (kv.1, f kv.2)) := by
    induction kvs with
    | nil => intro d; rfl
    | cons kv kvs ih =>
        intro d
        simp only [List.map_cons, List.foldl_cons, set_map]
        exact ih _
  exact hfold []

theorem mem_of_mem_ofList {kv : κ × ν} {kvs : List (κ × ν)} (h : kv ∈ ofList kvs) : kv ∈ kvs := by
  rcases mem_of_mem_update (d := []) (by simp [keys]) h with hm | hm
  · simp at hm
  · exact hm

end Dict
