import Mathlib.Data.List.Sort
import Mathlib.Data.List.Nodup
import Mathlib.Order.Defs.LinearOrder

namespace Keyset

variable {ρ κ : Type} [LinearOrder κ]

def Before (cursor : Option κ) (k : κ) : Prop := ∀ c ∈ cursor, k < c

instance (cursor : Option κ) (k : κ) : Decidable (Before cursor k) :=
  match cursor with
  | none => isTrue (by simp [Before])
  | some c => decidable_of_iff (k < c) (by simp [Before])

@[simp] theorem before_none (k : κ) : Before none k := by simp [Before]

@[simp] theorem before_some {c k : κ} : Before (some c) k ↔ k < c := by simp [Before]

variable (key : ρ → κ)

def ordered (cursor : Option κ) (t : List ρ) : List ρ :=
  (t.filter (fun r => decide (Before cursor (key r)))).insertionSort (fun a b => key b ≤ key a)

-- one row more than the page tells whether there is another page
def page (limit : Nat) (cursor : Option κ) (t : List ρ) : List ρ × Option κ :=
  let rows := (ordered key cursor t).take (limit + 1)
  if rows.length ≤ limit then (rows, none)
  else (rows.take limit, (rows.take limit).getLast?.map key)

-- each request of a walk sees a table of its own
inductive Walk (limit : Nat) : Option κ → List (List ρ) → List (List ρ) → Prop
  | last {cursor : Option κ} {t p : List ρ} (h : page key limit cursor t = (p, none)) :
      Walk limit cursor [t] [p]
  | next {cursor : Option κ} {t p : List ρ} {c : κ} {ts ps : List (List ρ)}
      (h : page key limit cursor t = (p, some c)) (k : Walk limit (some c) ts ps) :
      Walk limit cursor (t :: ts) (p :: ps)

variable {key} {limit : Nat} {cursor : Option κ} {t p : List ρ} {c : κ}

theorem mem_ordered {r : ρ} : r ∈ ordered key cursor t ↔ r ∈ t ∧ Before cursor (key r) := by
  simp [ordered, List.mem_insertionSort]

theorem ordered_decreasing (hu : (t.map key).Nodup) :
    (ordered key cursor t).Pairwise (fun a b => key b < key a) := by
  have : Std.Total (fun a b : ρ => key b ≤ key a) := ⟨fun a b => le_total (key b) (key a)⟩
  have : IsTrans ρ (fun a b => key b ≤ key a) := ⟨fun _ _ _ hab hbc => hbc.trans hab⟩
  have hsorted := List.pairwise_insertionSort (fun a b : ρ => key b ≤ key a)
    (t.filter (fun r => decide (Before cursor (key r))))
  have hnodup : ((ordered key cursor t).map key).Nodup :=
    (((List.perm_insertionSort _ _).map key).nodup_iff).mpr
      (hu.sublist (List.filter_sublist.map key))
  have hne := List.pairwise_map.mp hnodup
  exact hsorted.imp₂ (fun _ _ hle hne => lt_of_le_of_ne hle (Ne.symm hne)) hne

theorem page_eq (limit : Nat) (cursor : Option κ) (t : List ρ) :
    page key limit cursor t = ((ordered key cursor t).take limit,
      if (ordered key cursor t).length ≤ limit then none
      else ((ordered key cursor t).take limit).getLast?.map key) := by
  have hlen : ((ordered key cursor t).take (limit + 1)).length ≤ limit ↔
      (ordered key cursor t).length ≤ limit := by
    rw [List.length_take]
    omega
  simp only [page, hlen]
  split
  · next h =>
      rw [List.take_of_length_le (by omega), List.take_of_length_le h]
  · simp [List.take_take]

theorem page_last (hl : 0 < limit) (h : page key limit cursor t = (p, none)) :
    p = ordered key cursor t := by
  rw [page_eq, Prod.mk.injEq] at h
  obtain ⟨rfl, hnone⟩ := h
  refine List.take_of_length_le (Nat.le_of_not_lt (fun hlt => ?_))
  rw [if_neg (by omega), Option.map_eq_none_iff, List.getLast?_eq_none_iff] at hnone
  have := congrArg List.length hnone
  simp only [List.length_take, List.length_nil] at this
  omega

structure Cut (key : ρ → κ) (limit : Nat) (cursor : Option κ) (t p : List ρ) (c : κ)
    (rest : List ρ) : Prop where
  rows : ordered key cursor t = p ++ rest
  full : p.length = limit
  more : rest ≠ []
  last : ∃ r ∈ p, key r = c
  above : ∀ r ∈ p, c ≤ key r
  below : ∀ r ∈ rest, key r < c

theorem page_next (hu : (t.map key).Nodup) (h : page key limit cursor t = (p, some c)) :
    ∃ rest, Cut key limit cursor t p c rest := by
  rw [page_eq, Prod.mk.injEq] at h
  obtain ⟨rfl, hsome⟩ := h
  split at hsome
  · simp at hsome
  · next hlen =>
      obtain ⟨last, hlast, rfl⟩ := Option.map_eq_some_iff.mp hsome
      obtain ⟨front, hfront⟩ := List.getLast?_eq_some_iff.mp hlast
      have hsplit := List.take_append_drop limit (ordered key cursor t)
      have hdec : (ordered key cursor t).Pairwise (fun a b => key b < key a) := ordered_decreasing hu
      rw [← hsplit, List.pairwise_append] at hdec
      obtain ⟨hfirst, _, hacross⟩ := hdec
      have hmem : last ∈ (ordered key cursor t).take limit := by simp [hfront]
      rw [hfront, List.pairwise_append] at hfirst
      refine ⟨(ordered key cursor t).drop limit, hsplit.symm, ?_, ?_, ⟨last, hmem, rfl⟩, ?_,
        fun r hr => hacross last hmem r hr⟩
      · rw [List.length_take]
        omega
      · simp only [ne_eq, List.drop_eq_nil_iff]
        omega
      · intro r hr
        rw [hfront, List.mem_append, List.mem_singleton] at hr
        rcases hr with hr | rfl
        · exact (hfirst.2.2 r hr last (by simp)).le
        · exact le_rfl

theorem Cut.before {rest : List ρ} (h : Cut key limit cursor t p c rest) : Before cursor c := by
  obtain ⟨r, hr, rfl⟩ := h.last
  exact (mem_ordered.mp (h.rows ▸ List.mem_append_left rest hr)).2

theorem Walk.shape {ts ps : List (List ρ)} (h : Walk key limit cursor ts ps) :
    ts ≠ [] ∧ ps.length = ts.length := by
  induction h with
  | last h => simp
  | next h k ih => simpa using ih.2

theorem page_rows {n : Option κ} (h : page key limit cursor t = (p, n)) :
    p.Sublist (ordered key cursor t) := by
  rw [page_eq, Prod.mk.injEq] at h
  exact h.1 ▸ List.take_sublist _ _

theorem Walk.drawn {ts ps : List (List ρ)} (h : Walk key limit cursor ts ps) :
    ∀ r ∈ ps.flatten, ∃ t ∈ ts, r ∈ t := by
  have hrow : ∀ {cursor : Option κ} {t p : List ρ} {n : Option κ}, page key limit cursor t = (p, n) →
      ∀ r ∈ p, r ∈ t := fun h r hr => (mem_ordered.mp ((page_rows h).subset hr)).1
  induction h with
  | last h => exact fun r hr => ⟨_, by simp, hrow h r (by simpa using hr)⟩
  | next h w ih =>
      intro r hr
      rw [List.flatten_cons, List.mem_append] at hr
      rcases hr with hr | hr
      · exact ⟨_, by simp, hrow h r hr⟩
      · obtain ⟨t, ht, hmem⟩ := ih r hr
        exact ⟨t, by simp [ht], hmem⟩

theorem Walk.decreasing {ts ps : List (List ρ)} (h : Walk key limit cursor ts ps) (hl : 0 < limit)
    (hu : ∀ t ∈ ts, (t.map key).Nodup) :
    ps.flatten.Pairwise (fun a b => key b < key a) ∧ ∀ r ∈ ps.flatten, Before cursor (key r) := by
  induction h with
  | last h =>
      have hp := page_last hl h
      subst hp
      simp only [List.flatten_cons, List.flatten_nil, List.append_nil]
      exact ⟨ordered_decreasing (hu _ (by simp)), fun r hr => (mem_ordered.mp hr).2⟩
  | @next cursor t p c ts ps h k ih =>
      obtain ⟨hrest, hbelow⟩ := ih (fun t ht => hu t (by simp [ht]))
      obtain ⟨rest, hcut⟩ := page_next (hu t (by simp)) h
      have hdec : (ordered key cursor t).Pairwise (fun a b => key b < key a) :=
        ordered_decreasing (hu t (by simp))
      have hfirst := hdec.sublist (page_rows h)
      simp only [List.flatten_cons]
      refine ⟨List.pairwise_append.mpr ⟨hfirst, hrest, fun a ha b hb => ?_⟩, fun r hr => ?_⟩
      · exact lt_of_lt_of_le (before_some.mp (hbelow b hb)) (hcut.above a ha)
      · rcases List.mem_append.mp hr with hr | hr
        · exact (mem_ordered.mp (hcut.rows ▸ List.mem_append_left rest hr)).2
        · intro d hd
          exact lt_trans (before_some.mp (hbelow r hr)) (hcut.before d hd)

theorem Walk.complete {ts ps : List (List ρ)} (h : Walk key limit cursor ts ps) (hl : 0 < limit)
    (hu : ∀ t ∈ ts, (t.map key).Nodup) {k : κ} (hk : Before cursor k)
    (hall : ∀ t ∈ ts, ∃ r ∈ t, key r = k) : ∃ r ∈ ps.flatten, key r = k := by
  induction h with
  | @last cursor t p h =>
      obtain ⟨r, hr, rfl⟩ := hall t (by simp)
      exact ⟨r, by simpa [page_last hl h] using mem_ordered.mpr ⟨hr, hk⟩, rfl⟩
  | @next cursor t p c ts ps h w ih =>
      obtain ⟨r, hr, rfl⟩ := hall t (by simp)
      obtain ⟨rest, hcut⟩ := page_next (hu t (by simp)) h
      have hrow := mem_ordered.mpr ⟨hr, hk⟩
      rw [hcut.rows] at hrow
      rcases List.mem_append.mp hrow with hrow | hrow
      · exact ⟨r, by simp [hrow], rfl⟩
      · obtain ⟨s, hs, he⟩ := ih (fun t ht => hu t (by simp [ht]))
          (before_some.mpr (hcut.below r hrow)) (fun t ht => hall t (by simp [ht]))
        exact ⟨s, by simp only [List.flatten_cons, List.mem_append, hs, or_true], he⟩

theorem Walk.once {ts ps : List (List ρ)} (h : Walk key limit cursor ts ps) (hl : 0 < limit)
    (hu : ∀ t ∈ ts, (t.map key).Nodup) : (ps.flatten.map key).Nodup :=
  List.pairwise_map.mpr ((h.decreasing hl hu).1.imp (fun hlt => (ne_of_lt hlt).symm))

theorem Cut.remaining {rest : List ρ} (h : Cut key limit cursor t p c rest) :
    (ordered key (some c) t).length = (ordered key cursor t).length - limit := by
  have hfilter : t.filter (fun r => decide (Before (some c) (key r))) =
      (t.filter (fun r => decide (Before cursor (key r)))).filter (fun r => decide (key r < c)) := by
    rw [List.filter_filter]
    refine List.filter_congr (fun r _ => ?_)
    simp only [before_some]
    by_cases hlt : key r < c
    · have hb : Before cursor (key r) := fun d hd => lt_trans hlt (h.before d hd)
      simp [hlt, hb]
    · simp [hlt]
  have hcount : ((t.filter (fun r => decide (Before cursor (key r)))).filter
      (fun r => decide (key r < c))).length = rest.length := by
    rw [← List.countP_eq_length_filter,
      ← (List.perm_insertionSort (fun a b : ρ => key b ≤ key a) _).countP_eq]
    have hrows := h.rows
    simp only [ordered] at hrows
    rw [hrows, List.countP_append, List.countP_eq_zero.mpr, List.countP_eq_length.mpr, Nat.zero_add]
    · exact fun r hr => by simpa using h.below r hr
    · exact fun r hr => by simpa using h.above r hr
  rw [h.rows, List.length_append, h.full, Nat.add_sub_cancel_left, ← hcount, ← hfilter, ordered,
    List.length_insertionSort]

def pages (limit n : Nat) : Nat := max 1 ((n + limit - 1) / limit)

theorem pages_of_le {n : Nat} (hl : 0 < limit) (h : n ≤ limit) : pages limit n = 1 := by
  have hdiv : (n + limit - 1) / limit < 2 := Nat.div_lt_of_lt_mul (by omega)
  simp only [pages]
  omega

theorem pages_of_lt {n : Nat} (hl : 0 < limit) (h : limit < n) :
    pages limit n = pages limit (n - limit) + 1 := by
  have hdiv : (n + limit - 1) / limit = (n - limit + limit - 1) / limit + 1 := by
    rw [← Nat.add_div_right _ hl]
    congr 1
    omega
  have hpos : 1 ≤ (n - limit + limit - 1) / limit := (Nat.one_le_div_iff hl).mpr (by omega)
  simp only [pages]
  omega

theorem Walk.length_of_constant {ts ps : List (List ρ)} (h : Walk key limit cursor ts ps)
    (hl : 0 < limit) (hu : (t.map key).Nodup) (ht : ∀ u ∈ ts, u = t) :
    ps.length = pages limit (ordered key cursor t).length := by
  induction h with
  | @last cursor u p h =>
      obtain rfl := ht u (by simp)
      rw [page_eq, Prod.mk.injEq] at h
      have hle : (ordered key cursor u).length ≤ limit := by
        by_contra hgt
        have hempty := h.2
        rw [if_neg hgt, Option.map_eq_none_iff, List.getLast?_eq_none_iff,
          List.take_eq_nil_iff] at hempty
        rcases hempty with h0 | h0
        · omega
        · simp [h0] at hgt
      simp [pages_of_le hl hle]
  | @next cursor u p c ts ps h w ih =>
      obtain rfl := ht u (by simp)
      obtain ⟨rest, hcut⟩ := page_next hu h
      have hpos : 0 < rest.length := List.length_pos_iff.mpr hcut.more
      have hlt : limit < (ordered key cursor u).length := by
        rw [hcut.rows, List.length_append, hcut.full]
        omega
      rw [List.length_cons, ih (fun v hv => ht v (by simp [hv])), hcut.remaining, ← pages_of_lt hl hlt]

theorem Walk.exists (hl : 0 < limit) (hu : (t.map key).Nodup) (cursor : Option κ) :
    ∃ ps, Walk key limit cursor (List.replicate ps.length t) ps := by
  induction hn : (ordered key cursor t).length using Nat.strong_induction_on generalizing cursor with
  | _ n ih =>
      cases hp : page key limit cursor t with
      | mk p next =>
          cases next with
          | none => exact ⟨[p], .last hp⟩
          | some c =>
              obtain ⟨rest, hcut⟩ := page_next hu hp
              have hpos : 0 < rest.length := List.length_pos_iff.mpr hcut.more
              have hless : (ordered key (some c) t).length < n := by
                rw [hcut.remaining, ← hn, hcut.rows, List.length_append, hcut.full]
                omega
              obtain ⟨ps, hw⟩ := ih _ hless (some c) rfl
              exact ⟨p :: ps, .next hp hw⟩

end Keyset
