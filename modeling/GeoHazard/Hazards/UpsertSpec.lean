import GeoHazard.Hazards.HazardEventRepo
import Mathlib.Data.List.Basic

namespace GeoHazard.HazardEventRepo

variable {G : Type} {env : Env G} {tx : Tx}

def Current (row : Row G) (t : Rows G) : Prop :=
  ∃ e, Table.find HazardEvent.key row.key t = some e ∧ e.content_hash = row.content_hash ∧
    e.ends_at = row.ends_at

def last_with_key (k : Source × String) (rows : List (Row G)) : Option (Row G) :=
  rows.reverse.find? (fun r => decide (r.key = k))

@[simp] theorem key_inserted (row : Row G) (id : Nat) :
    (HazardEvent.inserted env tx row id).key = row.key := rfl

@[simp] theorem key_refreshed (row : Row G) (old : HazardEvent G) :
    (HazardEvent.refreshed env tx row old).key = old.key := rfl

@[simp] theorem key_closed (ended_at : Timestamptz) (old : HazardEvent G) :
    (HazardEvent.closed tx ended_at old).key = old.key := rfl

theorem refreshed_toRow {row : Row G} {old : HazardEvent G} (h : old.key = row.key) :
    (HazardEvent.refreshed env tx row old).toRow = row.stored := by
  simp only [HazardEvent.key, Row.key, Prod.mk.injEq] at h
  simp [HazardEvent.refreshed, Row.stored, h.1, h.2]

theorem upsert_row_current {row : Row G} {t : Rows G} (h : Current row t) :
    upsert_row env tx row t = (t, []) := by
  obtain ⟨e, he, hh, hx⟩ := h
  simp [upsert_row, he, hh, hx]

theorem upsert_row_new {row : Row G} {t : Rows G}
    (h : Table.find HazardEvent.key row.key t = none) :
    upsert_row env tx row t = (t ++ [HazardEvent.inserted env tx row t.length], [true]) := by
  simp [upsert_row, h]

theorem upsert_row_changed {row : Row G} {t : Rows G} {old : HazardEvent G}
    (h : Table.find HazardEvent.key row.key t = some old) (hc : ¬ Current row t) :
    upsert_row env tx row t =
      (Table.update (fun e => decide (e.key = row.key)) (HazardEvent.refreshed env tx row) t,
        [false]) := by
  have hne : old.content_hash ≠ row.content_hash ∨ old.ends_at ≠ row.ends_at := by
    by_contra hn
    simp only [not_or, ne_eq, not_not] at hn
    exact hc ⟨old, h, hn.1, hn.2⟩
  simp only [upsert_row, h, if_pos hne]

theorem upsert_row_cases (env : Env G) (tx : Tx) (row : Row G) (t : Rows G) :
    (Current row t ∧ upsert_row env tx row t = (t, [])) ∨
    (Table.find HazardEvent.key row.key t = none ∧
      upsert_row env tx row t = (t ++ [HazardEvent.inserted env tx row t.length], [true])) ∨
    (∃ old, Table.find HazardEvent.key row.key t = some old ∧ ¬ Current row t ∧
      upsert_row env tx row t =
        (Table.update (fun e => decide (e.key = row.key)) (HazardEvent.refreshed env tx row) t,
          [false])) := by
  by_cases hc : Current row t
  · exact .inl ⟨hc, upsert_row_current hc⟩
  · cases hf : Table.find HazardEvent.key row.key t with
    | none => exact .inr (.inl ⟨rfl, upsert_row_new hf⟩)
    | some old => exact .inr (.inr ⟨old, rfl, hc, upsert_row_changed hf hc⟩)

theorem upsert_row_unique {row : Row G} {t : Rows G} (h : Table.Unique HazardEvent.key t) :
    Table.Unique HazardEvent.key (upsert_row env tx row t).1 := by
  rcases upsert_row_cases env tx row t with ⟨_, he⟩ | ⟨hf, he⟩ | ⟨old, hf, _, he⟩ <;> rw [he]
  · exact h
  · exact Table.unique_concat h hf
  · exact Table.unique_update (f := HazardEvent.refreshed env tx row) (fun _ _ => rfl) h

theorem upsert_row_find_other {row : Row G} {t : Rows G} {k : Source × String} (hk : row.key ≠ k) :
    Table.find HazardEvent.key k (upsert_row env tx row t).1 = Table.find HazardEvent.key k t := by
  rcases upsert_row_cases env tx row t with ⟨_, he⟩ | ⟨hf, he⟩ | ⟨old, hf, _, he⟩ <;> rw [he]
  · simp [Table.find_concat, hk]
  · rw [Table.find_update (f := HazardEvent.refreshed env tx row) (fun _ _ => rfl)]
    cases ho : Table.find HazardEvent.key k t with
    | none => rfl
    | some o =>
        have hok := (Table.find_some_mem ho).2
        have hne : ¬ o.key = row.key := fun h => hk (h.symm.trans hok)
        simp [hne]

theorem upsert_row_find_self (env : Env G) (tx : Tx) (row : Row G) (t : Rows G) :
    ∃ e, Table.find HazardEvent.key row.key (upsert_row env tx row t).1 = some e ∧
      ((Current row t ∧ Table.find HazardEvent.key row.key t = some e) ∨
        (e.toRow = row.stored ∧ e.xmin = tx.xid)) := by
  rcases upsert_row_cases env tx row t with ⟨hc, he⟩ | ⟨hf, he⟩ | ⟨old, hf, _, he⟩ <;> rw [he]
  · obtain ⟨e, hfe, _⟩ := id hc
    exact ⟨e, hfe, .inl ⟨hc, hfe⟩⟩
  · exact ⟨HazardEvent.inserted env tx row t.length, by simp [Table.find_concat, hf],
      .inr ⟨rfl, rfl⟩⟩
  · have hold := (Table.find_some_mem hf).2
    refine ⟨HazardEvent.refreshed env tx row old, ?_, .inr ⟨refreshed_toRow hold, rfl⟩⟩
    rw [Table.find_update (f := HazardEvent.refreshed env tx row) (fun _ _ => rfl), hf]
    simp [hold]

theorem upsert_rows_append (rows rest : List (Row G)) (t : Rows G) :
    upsert_rows env tx (rows ++ rest) t =
      ((upsert_rows env tx rest (upsert_rows env tx rows t).1).1,
        (upsert_rows env tx rows t).2 ++ (upsert_rows env tx rest (upsert_rows env tx rows t).1).2) := by
  induction rows generalizing t with
  | nil => simp [upsert_rows]
  | cons row rows ih => simp [upsert_rows, ih]

theorem upsert_rows_unique {rows : List (Row G)} {t : Rows G}
    (h : Table.Unique HazardEvent.key t) :
    Table.Unique HazardEvent.key (upsert_rows env tx rows t).1 := by
  induction rows generalizing t with
  | nil => exact h
  | cons row rows ih => exact ih (upsert_row_unique h)

theorem upsert_rows_find_other {rows : List (Row G)} {t : Rows G} {k : Source × String}
    (hk : ∀ row ∈ rows, row.key ≠ k) :
    Table.find HazardEvent.key k (upsert_rows env tx rows t).1 = Table.find HazardEvent.key k t := by
  induction rows generalizing t with
  | nil => rfl
  | cons row rows ih =>
      simp only [upsert_rows]
      rw [ih (fun r hr => hk r (by simp [hr])), upsert_row_find_other (hk row (by simp))]

theorem upsert_rows_find_mem {rows : List (Row G)} {t : Rows G}
    (hn : (rows.map Row.key).Nodup) {row : Row G} (hm : row ∈ rows) :
    ∃ e, Table.find HazardEvent.key row.key (upsert_rows env tx rows t).1 = some e ∧
      ((Current row t ∧ Table.find HazardEvent.key row.key t = some e) ∨
        (e.toRow = row.stored ∧ e.xmin = tx.xid)) := by
  induction rows generalizing t with
  | nil => simp at hm
  | cons r rows ih =>
      simp only [List.map_cons, List.nodup_cons] at hn
      simp only [upsert_rows]
      rcases List.mem_cons.mp hm with rfl | hm
      · rw [upsert_rows_find_other (fun s hs he => hn.1 (by rw [← he]; exact List.mem_map_of_mem hs))]
        exact upsert_row_find_self env tx row t
      · have hne : r.key ≠ row.key := fun he => hn.1 (he ▸ List.mem_map_of_mem hm)
        obtain ⟨e, he, hcase⟩ := ih hn.2 hm (t := (upsert_row env tx r t).1)
        simp only [Current, upsert_row_find_other hne] at hcase
        exact ⟨e, he, hcase⟩

theorem upsert_rows_current {rows : List (Row G)} {t : Rows G}
    (h : ∀ row ∈ rows, Current row t) : upsert_rows env tx rows t = (t, []) := by
  induction rows with
  | nil => rfl
  | cons row rows ih =>
      simp only [upsert_rows, upsert_row_current (h row (by simp)),
        ih (fun r hr => h r (by simp [hr])), List.append_nil]

theorem current_of_no_flag {row : Row G} {t : Rows G} (h : (upsert_row env tx row t).2 = []) :
    Current row t := by
  rcases upsert_row_cases env tx row t with ⟨hc, he⟩ | ⟨hf, he⟩ | ⟨old, hf, _, he⟩
  · exact hc
  · simp [he] at h
  · simp [he] at h

theorem upsert_rows_no_flags {rows : List (Row G)} {t : Rows G} :
    (upsert_rows env tx rows t).2 = [] ↔ ∀ row ∈ rows, Current row t := by
  refine ⟨fun h => ?_, fun h => by rw [upsert_rows_current h]⟩
  induction rows with
  | nil => simp
  | cons row rows ih =>
      simp only [upsert_rows, List.append_eq_nil_iff] at h
      have hc := current_of_no_flag h.1
      rw [upsert_row_current hc] at h
      intro r hr
      rcases List.mem_cons.mp hr with rfl | hr
      · exact hc
      · exact ih h.2 r hr

theorem mem_upsert_row {row : Row G} {t : Rows G} {e : HazardEvent G}
    (h : e ∈ (upsert_row env tx row t).1) : e ∈ t ∨ e.toRow = row.stored := by
  rcases upsert_row_cases env tx row t with ⟨_, he⟩ | ⟨_, he⟩ | ⟨old, _, _, he⟩ <;> rw [he] at h
  · exact .inl h
  · rcases List.mem_append.mp h with h | h
    · exact .inl h
    · exact .inr (by rw [List.mem_singleton.mp h]; rfl)
  · obtain ⟨o, ho, rfl⟩ := Table.mem_update.mp h
    by_cases hk : o.key = row.key
    · exact .inr (by simpa [hk] using refreshed_toRow hk)
    · exact .inl (by simpa [hk] using ho)

theorem mem_upsert_rows {rows : List (Row G)} {t : Rows G} {e : HazardEvent G}
    (h : e ∈ (upsert_rows env tx rows t).1) : e ∈ t ∨ ∃ row ∈ rows, e.toRow = row.stored := by
  induction rows generalizing t with
  | nil => exact .inl h
  | cons row rows ih =>
      rcases ih h with h | ⟨r, hr, he⟩
      · rcases mem_upsert_row h with h | h
        · exact .inl h
        · exact .inr ⟨row, by simp, h⟩
      · exact .inr ⟨r, by simp [hr], he⟩

theorem find_map_key (k : Source × String) (rows : List (Row G)) :
    Dict.get k (rows.map (fun row => (row.key, row))) =
      rows.find? (fun r => decide (r.key = k)) := by
  induction rows with
  | nil => rfl
  | cons row rows ih =>
      by_cases h : row.key = k
      · simp [Dict.get, h]
      · simp [Dict.get, h, ih]

theorem mem_deduplicated {rows : List (Row G)} {row : Row G} :
    row ∈ deduplicated rows ↔ last_with_key row.key rows = some row := by
  have hd := Dict.nodup_keys_ofList (rows.map (fun row => (row.key, row)))
  rw [last_with_key, ← find_map_key, List.map_reverse, ← Dict.get_ofList, Dict.get_iff hd]
  simp only [deduplicated, Dict.values, List.mem_map, Prod.exists, exists_eq_right]
  constructor
  · rintro ⟨a, b, hk⟩
    obtain ⟨r, _, hr⟩ := List.mem_map.mp (Dict.mem_of_mem_ofList hk)
    simp only [Prod.mk.injEq] at hr
    obtain ⟨hr, rfl⟩ := hr
    rwa [hr]
  · exact fun h => ⟨_, _, h⟩

theorem mem_of_mem_deduplicated {rows : List (Row G)} {row : Row G}
    (h : row ∈ deduplicated rows) : row ∈ rows := by
  have hl := mem_deduplicated.mp h
  exact List.mem_reverse.mp (List.mem_of_find?_eq_some hl)

theorem last_with_key_isSome {rows : List (Row G)} {row : Row G} (h : row ∈ rows) :
    ∃ r, last_with_key row.key rows = some r ∧ r.key = row.key ∧ r ∈ deduplicated rows := by
  cases hl : last_with_key row.key rows with
  | none =>
      have := List.find?_eq_none.mp hl row (by simpa using h)
      simp at this
  | some r =>
      have hk : r.key = row.key := by simpa using List.find?_some hl
      exact ⟨r, rfl, hk, mem_deduplicated.mpr (hk ▸ hl)⟩

theorem nodup_keys_deduplicated (rows : List (Row G)) :
    ((deduplicated rows).map Row.key).Nodup := by
  have hd := Dict.nodup_keys_ofList (rows.map (fun row => (row.key, row)))
  have he : (deduplicated rows).map Row.key =
      Dict.keys (Dict.ofList (rows.map (fun row => (row.key, row)))) := by
    simp only [deduplicated, Dict.values, Dict.keys, List.map_map]
    apply List.map_congr_left
    intro kv hkv
    obtain ⟨r, _, hr⟩ := List.mem_map.mp (Dict.mem_of_mem_ofList hkv)
    simp [← hr]
  rwa [he]

theorem chunks_flatten (rows : List (Row G)) : (chunks rows).flatten = rows := by
  have hs : ∀ k, ((List.range k).map (fun i => (rows.drop (i * chunk_rows)).take chunk_rows)).flatten =
      rows.take (k * chunk_rows) := by
    intro k
    induction k with
    | zero => simp
    | succ k ih =>
        rw [List.range_succ, List.map_append, List.flatten_append, ih, Nat.succ_mul, List.take_add]
        simp
  rw [chunks, hs]
  apply List.take_of_length_le
  have h0 : chunk_rows = 3640 := by decide
  rw [h0]
  omega

theorem length_of_mem_chunks {rows chunk : List (Row G)} (h : chunk ∈ chunks rows) :
    chunk.length * ROW_COLUMNS ≤ ASYNCPG_MAX_ARGS := by
  obtain ⟨i, _, rfl⟩ := List.mem_map.mp h
  have hl : ((rows.drop (i * chunk_rows)).take chunk_rows).length ≤ chunk_rows := by
    simp [List.length_take]
  exact (Nat.mul_le_mul_right _ hl).trans (by decide)

-- the rows whose external_id the column takes
def Storable (rows : List (Row G)) : Prop := ∀ row ∈ rows, storable_id row.external_id = true

theorem insert_on_conflict_iff {chunk : List (Row G)} {t : Rows G} {r : Rows G × List Bool}
    (hl : chunk.length * ROW_COLUMNS ≤ ASYNCPG_MAX_ARGS) (hn : (chunk.map Row.key).Nodup) :
    insert_on_conflict env tx chunk t = .ok r ↔
      Storable chunk ∧ upsert_rows env tx chunk t = r := by
  have hany : (chunk.any (fun row => !storable_id row.external_id) = true) ↔ ¬ Storable chunk := by
    simp [Storable]
  rw [insert_on_conflict, if_neg (Nat.not_lt.mpr hl), if_pos hn]
  by_cases hs : Storable chunk
  · simp [hany, hs]
  · simp [hany, hs]

theorem upsert_chunks_iff {cs : List (List (Row G))} {t : Rows G} {r : Rows G × Nat × Nat}
    (h : ∀ c ∈ cs, c.length * ROW_COLUMNS ≤ ASYNCPG_MAX_ARGS ∧ (c.map Row.key).Nodup) :
    upsert_chunks env tx cs t = .ok r ↔ Storable cs.flatten ∧
      ((upsert_rows env tx cs.flatten t).1, (upsert_rows env tx cs.flatten t).2.count true,
        (upsert_rows env tx cs.flatten t).2.length -
          (upsert_rows env tx cs.flatten t).2.count true) = r := by
  induction cs generalizing t r with
  | nil => simp [upsert_chunks, upsert_rows, Storable]
  | cons c cs ih =>
      obtain ⟨hl, hn⟩ := h c (by simp)
      have hrest := fun (u : Rows G) r => @ih u r (fun d hd => h d (by simp [hd]))
      have h1 := List.count_le_length (a := true) (l := (upsert_rows env tx c t).2)
      have h2 := List.count_le_length (a := true)
        (l := (upsert_rows env tx cs.flatten (upsert_rows env tx c t).1).2)
      have hcounts : ∀ n m k l : Nat, n ≤ k → m ≤ l →
          k - n + (l - m) = k + l - (n + m) := by omega
      have hsplit : Storable (c :: cs).flatten ↔ Storable c ∧ Storable cs.flatten := by
        simp [Storable, or_imp, forall_and]
      simp only [upsert_chunks, bind_ok, insert_on_conflict_iff hl hn, hsplit]
      constructor
      · rintro ⟨_, ⟨hc, rfl⟩, _, hcs, hr⟩
        obtain ⟨hs, rfl⟩ := (hrest _ _).mp hcs
        refine ⟨⟨hc, hs⟩, ?_⟩
        rw [← Except.ok.inj hr]
        simp only [List.flatten_cons, upsert_rows_append, List.count_append, List.length_append,
          hcounts _ _ _ _ h1 h2]
      · rintro ⟨⟨hc, hs⟩, rfl⟩
        refine ⟨_, ⟨hc, rfl⟩, _, (hrest _ _).mpr ⟨hs, rfl⟩, ?_⟩
        simp only [List.flatten_cons, upsert_rows_append, List.count_append, List.length_append,
          hcounts _ _ _ _ h1 h2]

theorem storable_deduplicated {rows : List (Row G)} :
    Storable (deduplicated rows) ↔ Storable rows := by
  refine ⟨fun h row hr => ?_, fun h row hr => h row (mem_of_mem_deduplicated hr)⟩
  obtain ⟨r, _, hk, hm⟩ := last_with_key_isSome hr
  have hid : r.external_id = row.external_id := congrArg Prod.snd hk
  exact hid ▸ h r hm

-- the chunks of a statement limit never show: the batch is the row by row upsert of the last
-- occurrence of each key
theorem upsert_batch_iff {rows : List (Row G)} {t : Rows G} {r : Rows G × Nat × Nat} :
    upsert_batch env tx rows t = .ok r ↔ Storable rows ∧
      ((upsert_rows env tx (deduplicated rows) t).1,
        (upsert_rows env tx (deduplicated rows) t).2.count true,
        (upsert_rows env tx (deduplicated rows) t).2.length -
          (upsert_rows env tx (deduplicated rows) t).2.count true) = r := by
  unfold upsert_batch
  split
  · next h =>
      obtain rfl := List.isEmpty_iff.mp h
      simp [Storable, deduplicated, Dict.ofList, Dict.values, upsert_rows]
  · rw [upsert_chunks_iff, chunks_flatten, storable_deduplicated]
    intro c hc
    refine ⟨length_of_mem_chunks hc, ?_⟩
    have hsub : c.Sublist (deduplicated rows) := by
      obtain ⟨i, _, rfl⟩ := List.mem_map.mp hc
      exact (List.take_sublist _ _).trans (List.drop_sublist _ _)
    exact (nodup_keys_deduplicated rows).sublist (hsub.map _)

end GeoHazard.HazardEventRepo
