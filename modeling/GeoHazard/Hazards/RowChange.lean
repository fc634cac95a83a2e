import GeoHazard.Hazards.UpsertSpec

namespace GeoHazard

variable {G : Type} {env : Env G} {tx : Tx} {source : Source}

-- all that one transaction can leave at a key: the row as it was, or a row it wrote
inductive RowChange (tx : Tx) : Option (HazardEvent G) → Option (HazardEvent G) → Prop
  | kept (o : Option (HazardEvent G)) : RowChange tx o o
  | inserted (e : HazardEvent G) (hx : e.xmin = tx.xid) (hc : e.created_at = tx.mark)
      (hu : e.updated_at = none ∨ e.updated_at = some tx.mark) : RowChange tx none (some e)
  | rewritten (old e : HazardEvent G) (hx : e.xmin = tx.xid) (hc : e.created_at = old.created_at)
      (hu : e.updated_at = some tx.mark) : RowChange tx (some old) (some e)

theorem RowChange.trans {o p q : Option (HazardEvent G)} (h : RowChange tx o p)
    (k : RowChange tx p q) : RowChange tx o q := by
  cases h with
  | kept => exact k
  | inserted e hx hc hu =>
      cases k with
      | kept => exact .inserted e hx hc hu
      | rewritten _ f hx' hc' hu' => exact .inserted f hx' (hc'.trans hc) (.inr hu')
  | rewritten old e hx hc hu =>
      cases k with
      | kept => exact .rewritten old e hx hc hu
      | rewritten _ f hx' hc' hu' => exact .rewritten old f hx' (hc'.trans hc) hu'

structure Change (tx : Tx) (source : Source) (t t' : HazardEventRepo.Rows G) : Prop where
  unique : Table.Unique HazardEvent.key t → Table.Unique HazardEvent.key t'
  row : ∀ k, RowChange tx (Table.find HazardEvent.key k t) (Table.find HazardEvent.key k t')
  others : ∀ k, k.1 ≠ source →
    Table.find HazardEvent.key k t' = Table.find HazardEvent.key k t

theorem Change.refl (t : HazardEventRepo.Rows G) : Change tx source t t :=
  ⟨id, fun _ => .kept _, fun _ _ => rfl⟩

theorem Change.trans {t u v : HazardEventRepo.Rows G} (h : Change tx source t u)
    (k : Change tx source u v) : Change tx source t v where
  unique hu := k.unique (h.unique hu)
  row i := (h.row i).trans (k.row i)
  others i hi := (k.others i hi).trans (h.others i hi)

def Touched (tx : Tx) (t : HazardEventRepo.Rows G) : Prop :=
  ∃ k e, Table.find HazardEvent.key k t = some e ∧ e.xmin = tx.xid

theorem Touched.change {t t' : HazardEventRepo.Rows G} (h : Touched tx t)
    (hc : Change tx source t t') : Touched tx t' := by
  obtain ⟨k, e, he, hx⟩ := h
  have hr := hc.row k
  rw [he] at hr
  generalize ho : Table.find HazardEvent.key k t' = o at hr
  cases hr with
  | kept => exact ⟨k, e, ho, hx⟩
  | rewritten _ f hf _ _ => exact ⟨k, f, ho, hf⟩

-- the rows a statement reports as affected are the rows it wrote
structure Wrote (tx : Tx) (source : Source) (t t' : HazardEventRepo.Rows G) (n : Nat) : Prop where
  change : Change tx source t t'
  none : n = 0 → t' = t
  some : Table.Unique HazardEvent.key t → n ≠ 0 → Touched tx t'

theorem Wrote.refl (t : HazardEventRepo.Rows G) : Wrote tx source t t 0 :=
  ⟨.refl t, fun _ => rfl, fun _ h => absurd rfl h⟩

theorem Wrote.trans {t u v : HazardEventRepo.Rows G} {m n : Nat} (h : Wrote tx source t u m)
    (k : Wrote tx source u v n) : Wrote tx source t v (m + n) where
  change := h.change.trans k.change
  none h0 := by rw [k.none (by omega), h.none (by omega)]
  some hu h0 := by
    by_cases hn : n = 0
    · rw [k.none hn]
      exact h.some hu (by omega)
    · exact k.some (h.change.unique hu) hn

namespace HazardEventRepo

theorem upsert_row_wrote {row : Row G} (hs : row.source = source) (t : Rows G) :
    Wrote tx source t (upsert_row env tx row t).1 (upsert_row env tx row t).2.length := by
  have hother : ∀ k : Source × String, k.1 ≠ source →
      Table.find HazardEvent.key k (upsert_row env tx row t).1 = Table.find HazardEvent.key k t := by
    intro k hk
    refine upsert_row_find_other (fun he => hk ?_)
    rw [← he, ← hs]
    rfl
  have hrow : ∀ k, k ≠ row.key → RowChange tx (Table.find HazardEvent.key k t)
      (Table.find HazardEvent.key k (upsert_row env tx row t).1) := by
    intro k hk
    rw [upsert_row_find_other (Ne.symm hk)]
    exact .kept _
  rcases upsert_row_cases env tx row t with ⟨_, he⟩ | ⟨hf, he⟩ | ⟨old, hf, _, he⟩
  · rw [he]
    exact .refl t
  · have hself : Table.find HazardEvent.key row.key (upsert_row env tx row t).1 =
        some (HazardEvent.inserted env tx row t.length) := by
      simp [he, Table.find_concat, hf]
    refine ⟨⟨upsert_row_unique, fun k => ?_, hother⟩, by simp [he], fun _ _ => ⟨_, _, hself, rfl⟩⟩
    by_cases hk : k = row.key
    · rw [hk, hself, hf]
      exact .inserted _ rfl rfl (.inl rfl)
    · exact hrow k hk
  · have hold := (Table.find_some_mem hf).2
    have hself : Table.find HazardEvent.key row.key (upsert_row env tx row t).1 =
        some (HazardEvent.refreshed env tx row old) := by
      rw [he, Table.find_update (f := HazardEvent.refreshed env tx row) (fun _ _ => rfl), hf]
      simp [hold]
    refine ⟨⟨upsert_row_unique, fun k => ?_, hother⟩, by simp [he], fun _ _ => ⟨_, _, hself, rfl⟩⟩
    by_cases hk : k = row.key
    · rw [hk, hself, hf]
      exact .rewritten old _ rfl rfl rfl
    · exact hrow k hk

theorem upsert_rows_wrote {rows : List (Row G)} (hs : ∀ row ∈ rows, row.source = source)
    (t : Rows G) :
    Wrote tx source t (upsert_rows env tx rows t).1 (upsert_rows env tx rows t).2.length := by
  induction rows generalizing t with
  | nil => exact .refl t
  | cons row rows ih =>
      have hrest := ih (fun r hr => hs r (by simp [hr])) (upsert_row env tx row t).1
      simpa [upsert_rows] using (upsert_row_wrote (hs row (by simp)) t).trans hrest

theorem open_after_source {ids : List String} {ended_at : Timestamptz} {e : HazardEvent G}
    (h : open_after source ids ended_at e = true) : e.key.1 = source := by
  simp only [open_after, Bool.and_eq_true, decide_eq_true_eq] at h
  exact h.1.1

theorem closed_rows_nil (tx : Tx) (source : Source) (ended_at : Timestamptz) (t : Rows G) :
    closed_rows tx source [] ended_at t = (t, 0) := by
  have hno : ∀ e ∈ t, open_after source [] ended_at e = false := by
    intro e _
    simp [open_after]
  rw [closed_rows, Table.update_eq_self hno,
    List.countP_eq_zero.mpr (fun e he => by simp [hno e he])]

-- the identifiers that one UPDATE can name
def Closable (ids : List String) : Prop := ids.dedup.length + 3 ≤ ASYNCPG_MAX_ARGS

theorem Closable.nil : Closable [] := by
  simp [Closable, ASYNCPG_MAX_ARGS]

theorem Closable.mono {ids ids' : List String} (h : Closable ids) (hs : ids' ⊆ ids) :
    Closable ids' := by
  have hsub : ids'.dedup ⊆ ids.dedup := fun x hx =>
    List.mem_dedup.mpr (hs (List.mem_dedup.mp hx))
  have hlen := (List.subperm_of_subset (List.nodup_dedup ids') hsub).length_le
  exact (Nat.add_le_add_right hlen 3).trans h

theorem close_events_iff {ids : List String} {ended_at : Timestamptz} {t : Rows G}
    {r : Rows G × Nat} : close_events tx source ids ended_at t = .ok r ↔
      Closable ids ∧ closed_rows tx source ids ended_at t = r := by
  unfold close_events Closable
  split
  · next h =>
      obtain rfl := List.isEmpty_iff.mp h
      simp [closed_rows_nil, ASYNCPG_MAX_ARGS]
  · split
    · next h => simp [Nat.not_le.mpr h]
    · next h => simp [Nat.not_lt.mp h]

theorem find_closed_rows (k : Source × String) {ids : List String} {ended_at : Timestamptz}
    (t : Rows G) : Table.find HazardEvent.key k (closed_rows tx source ids ended_at t).1 =
      (Table.find HazardEvent.key k t).map (fun e =>
        if open_after source ids ended_at e then HazardEvent.closed tx ended_at e else e) := by
  rw [closed_rows]
  exact Table.find_update (f := HazardEvent.closed tx ended_at) (fun _ _ => rfl) k t

theorem closed_rows_unique {ids : List String} {ended_at : Timestamptz} {t : Rows G}
    (h : Table.Unique HazardEvent.key t) :
    Table.Unique HazardEvent.key (closed_rows tx source ids ended_at t).1 := by
  rw [closed_rows]
  exact Table.unique_update (f := HazardEvent.closed tx ended_at) (fun _ _ => rfl) h

theorem closed_rows_change {ids : List String} {ended_at : Timestamptz} (t : Rows G) :
    Change tx source t (closed_rows tx source ids ended_at t).1 where
  unique := closed_rows_unique
  row k := by
    rw [find_closed_rows]
    cases Table.find HazardEvent.key k t with
    | none => exact .kept _
    | some e =>
        by_cases ho : open_after source ids ended_at e = true
        · simpa [ho] using @RowChange.rewritten _ tx e (HazardEvent.closed tx ended_at e)
            rfl rfl rfl
        · simpa [ho] using @RowChange.kept _ tx (some e)
  others k hk := by
    rw [find_closed_rows]
    cases hf : Table.find HazardEvent.key k t with
    | none => rfl
    | some e =>
        have hek := (Table.find_some_mem hf).2
        have ho : ¬ open_after source ids ended_at e = true :=
          fun ho => hk (hek ▸ open_after_source ho)
        simp [ho]

theorem closed_rows_wrote {ids : List String} {ended_at : Timestamptz} (t : Rows G) :
    Wrote tx source t (closed_rows tx source ids ended_at t).1
      (closed_rows tx source ids ended_at t).2 where
  change := closed_rows_change t
  none h := by
    rw [closed_rows] at h ⊢
    exact Table.update_eq_self (fun e he => by simpa using List.countP_eq_zero.mp h e he)
  some hu h := by
    rw [closed_rows] at h
    obtain ⟨e, he, ho⟩ := List.countP_pos_iff.mp (Nat.pos_of_ne_zero h)
    refine ⟨e.key, HazardEvent.closed tx ended_at e, ?_, rfl⟩
    rw [find_closed_rows, (Table.find_unique hu).mpr ⟨he, rfl⟩]
    simp [ho]

end HazardEventRepo

end GeoHazard
