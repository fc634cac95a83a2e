import Mathlib.Algebra.BigOperators.Group.List.Basic
import Mathlib.Algebra.Ring.Nat
import Mathlib.Data.List.Nodup

namespace Table

variable {ρ κ : Type} [DecidableEq κ] (key : ρ → κ)

def find (k : κ) (t : List ρ) : Option ρ := t.find? (fun r => decide (key r = k))

def update (p : ρ → Bool) (f : ρ → ρ) (t : List ρ) : List ρ :=
  t.map (fun r => if p r then f r else r)

def Unique (t : List ρ) : Prop := (t.map key).Nodup

variable {key}

omit [DecidableEq κ] in
theorem mem_update {p : ρ → Bool} {f : ρ → ρ} {t : List ρ} {r : ρ} :
    r ∈ update p f t ↔ ∃ o ∈ t, (if p o then f o else o) = r := by
  simp [update]

omit [DecidableEq κ] in
theorem update_eq_self {p : ρ → Bool} {f : ρ → ρ} {t : List ρ} (h : ∀ r ∈ t, p r = false) :
    update p f t = t := by
  induction t with
  | nil => rfl
  | cons r t ih =>
      have hr : p r = false := h r (by simp)
      have ht := ih (fun s hs => h s (by simp [hs]))
      simp only [update] at ht
      simp [update, hr, ht]

omit [DecidableEq κ] in
theorem update_update {p q : ρ → Bool} {f : ρ → ρ} (h : ∀ r, p r = true → q (f r) = false)
    (t : List ρ) : update q f (update p f t) = update (fun r => p r || q r) f t := by
  simp only [update, List.map_map]
  refine List.map_congr_left (fun r _ => ?_)
  by_cases hp : p r = true
  · simp [hp, h r hp]
  · simp [hp]

omit [DecidableEq κ] in
theorem keys_update {p : ρ → Bool} {f : ρ → ρ} (hf : ∀ r, p r = true → key (f r) = key r)
    (t : List ρ) : (update p f t).map key = t.map key := by
  simp only [update, List.map_map]
  apply List.map_congr_left
  intro r _
  by_cases hp : p r = true
  · simp [hp, hf r hp]
  · simp [hp]

omit [DecidableEq κ] in
theorem unique_update {p : ρ → Bool} {f : ρ → ρ} (hf : ∀ r, p r = true → key (f r) = key r)
    {t : List ρ} (h : Unique key t) : Unique key (update p f t) := by
  simpa [Unique, keys_update hf] using h

theorem find_some_mem {k : κ} {t : List ρ} {r : ρ} (h : find key k t = some r) :
    r ∈ t ∧ key r = k := by
  refine ⟨List.mem_of_find?_eq_some h, ?_⟩
  simpa using List.find?_some h

theorem find_none {k : κ} {t : List ρ} : find key k t = none ↔ ∀ r ∈ t, key r ≠ k := by
  simp [find]

theorem find_unique {k : κ} {t : List ρ} (hu : Unique key t) {r : ρ} :
    find key k t = some r ↔ r ∈ t ∧ key r = k := by
  refine ⟨find_some_mem, ?_⟩
  rintro ⟨hm, rfl⟩
  induction t with
  | nil => simp at hm
  | cons s t ih =>
      simp only [Unique, List.map_cons, List.nodup_cons] at hu
      rcases List.mem_cons.mp hm with rfl | hm
      · simp [find]
      · have hne : key s ≠ key r := fun he => hu.1 (he ▸ List.mem_map_of_mem hm)
        simpa [find, hne] using ih hu.2 hm

theorem filter_unique {t : List ρ} (hu : Unique key t) (k : κ) :
    t.filter (fun r => decide (key r = k)) = (find key k t).toList := by
  induction t with
  | nil => rfl
  | cons s t ih =>
      simp only [Unique, List.map_cons, List.nodup_cons] at hu
      by_cases hs : key s = k
      · have hrest : t.filter (fun r => decide (key r = k)) = [] := by
          rw [List.filter_eq_nil_iff]
          intro r hr hk
          exact hu.1 (hs ▸ of_decide_eq_true hk ▸ List.mem_map_of_mem hr)
        simp [find, hs, hrest]
      · simpa [find, hs] using ih hu.2

omit [DecidableEq κ] in
theorem Unique.of_keys {t u : List ρ} (h : Unique key u) (hk : t.map key = u.map key) :
    Unique key t := by
  rwa [Unique, hk]

omit [DecidableEq κ] in
theorem Unique.sublist {t u : List ρ} (h : Unique key u) (hs : t.Sublist u) : Unique key t :=
  List.Nodup.sublist (hs.map key) h

omit [DecidableEq κ] in
theorem unique_eq {t : List ρ} (hu : Unique key t) {r s : ρ} (hr : r ∈ t) (hs : s ∈ t)
    (h : key r = key s) : r = s :=
  List.inj_on_of_nodup_map hu hr hs h

theorem mem_update_row {t : List ρ} (hu : Unique key t) {r n o : ρ} (hr : r ∈ t) :
    o ∈ update (fun s => decide (key s = key r)) (fun _ => n) t ↔ o = n ∨ (o ∈ t ∧ o ≠ r) := by
  rw [mem_update]
  constructor
  · rintro ⟨s, hs, rfl⟩
    by_cases hk : key s = key r
    · exact .inl (by simp [hk])
    · have hne : s ≠ r := fun h => hk (congrArg key h)
      exact .inr (by simpa [hk] using ⟨hs, hne⟩)
  · rintro (rfl | ⟨ho, hne⟩)
    · exact ⟨r, hr, by simp⟩
    · have hk : ¬ key o = key r := fun h => hne (unique_eq hu ho hr h)
      exact ⟨o, ho, by simp [hk]⟩

theorem find_update {p : ρ → Bool} {f : ρ → ρ} (hf : ∀ r, p r = true → key (f r) = key r)
    (k : κ) (t : List ρ) :
    find key k (update p f t) = (find key k t).map (fun r => if p r then f r else r) := by
  induction t with
  | nil => rfl
  | cons r t ih =>
      simp only [find, update] at ih
      have hk : key (if p r then f r else r) = key r := by
        by_cases hp : p r = true
        · simp [hp, hf r hp]
        · simp [hp]
      by_cases he : key r = k
      · simp [find, update, hk, he]
      · simp [find, update, hk, he, ih]

theorem find_map {σ : Type} (f : σ → ρ) (k : κ) (t : List σ) :
    find key k (t.map f) = (find (fun r => key (f r)) k t).map f := by
  simp only [find, List.find?_map]
  rfl

theorem unique_concat {t : List ρ} {r : ρ} (h : Unique key t) (hr : find key (key r) t = none) :
    Unique key (t ++ [r]) := by
  have hn := find_none.mp hr
  simp only [Unique, List.map_append, List.map_cons, List.map_nil] at h ⊢
  refine List.nodup_append.mpr ⟨h, by simp, ?_⟩
  intro a ha b hb
  obtain ⟨s, hs, rfl⟩ := List.mem_map.mp ha
  simp only [List.mem_singleton] at hb
  exact hb ▸ hn s hs

theorem find_concat {t : List ρ} {r : ρ} (k : κ) :
    find key k (t ++ [r]) = (find key k t).or (if key r = k then some r else none) := by
  simp only [find, List.find?_append, List.find?_cons, List.find?_nil]
  by_cases h : key r = k <;> simp [h]

omit [DecidableEq κ] in
theorem flatMap_unique {β : Type} {f : ρ → List β} {t : List ρ} (hu : Unique key t) {r : ρ}
    (hr : r ∈ t) (hf : ∀ o ∈ t, key o ≠ key r → f o = []) : t.flatMap f = f r := by
  induction t with
  | nil => simp at hr
  | cons o t ih =>
      obtain ⟨hout, hu⟩ := List.nodup_cons.mp hu
      rcases List.mem_cons.mp hr with rfl | hr
      · have hrest : t.flatMap f = [] := by
          rw [List.flatMap_eq_nil_iff]
          intro o ho
          exact hf o (List.mem_cons_of_mem _ ho) (fun he => hout (he ▸ List.mem_map_of_mem ho))
        rw [List.flatMap_cons, hrest, List.append_nil]
      · have ho : f o = [] := hf o List.mem_cons_self (fun he => hout (he ▸ List.mem_map_of_mem hr))
        rw [List.flatMap_cons, ho, List.nil_append]
        exact ih hu hr (fun o ho => hf o (List.mem_cons_of_mem _ ho))

theorem sum_countP {δ : Type} {p : δ → Bool} {ref : δ → κ} {t : List ρ} (hu : Unique key t)
    {ds : List δ} (hr : ∀ d ∈ ds, ∃ r ∈ t, key r = ref d) :
    (t.map (fun r => ds.countP (fun d => decide (ref d = key r) && p d))).sum = ds.countP p := by
  induction ds with
  | nil => simp
  | cons d ds ih =>
      have hrest := ih (fun d hd => hr d (by simp [hd]))
      have hrows : ∀ k, (t.map (fun r => if decide (k = key r) then 1 else 0)).sum =
          (t.filter (fun r => decide (key r = k))).length := by
        intro k
        clear hu hr hrest ih
        induction t with
        | nil => rfl
        | cons r t ih => by_cases hk : key r = k <;> simp_all [eq_comm, Nat.add_comm]
      have hone : (t.map (fun r => if decide (ref d = key r) then 1 else 0)).sum = 1 := by
        obtain ⟨r, hmem, hk⟩ := hr d (by simp)
        rw [hrows, filter_unique hu, (find_unique hu).mpr ⟨hmem, hk⟩]
        rfl
      simp only [List.countP_cons, List.sum_map_add, hrest]
      cases hp : p d with
      | false => simp
      | true => simpa using hone

end Table
