import GeoHazard.Library.Dict
import GeoHazard.Library.Table
import Mathlib.Data.List.Dedup

namespace BatchUpsert

variable {κ ρ ε τ σ : Type} [DecidableEq κ]

-- INSERT .. ON CONFLICT (key) DO UPDATE .. WHERE: what one row does to a table, and the rows that
-- each of the two leaves alone from then on
structure Rule (κ ρ ε : Type) where
  key : ρ → κ
  stored : ε → κ
  insert : ρ → Nat → ε
  changed : ρ → ε → Bool
  refresh : ρ → ε → ε
  stored_insert : ∀ r n, stored (insert r n) = key r
  stored_refresh : ∀ r e, stored (refresh r e) = stored e
  insert_unchanged : ∀ r n, changed r (insert r n) = false
  refresh_unchanged : ∀ r e, changed r (refresh r e) = false

namespace Rule

variable (R : Rule κ ρ ε)

-- RETURNING has one flag for each row written: whether it was inserted
def upsert_row (r : ρ) (t : List ε) : List ε × List Bool :=
  match Table.find R.stored (R.key r) t with
  | none => (t ++ [R.insert r t.length], [true])
  | some old =>
      if R.changed r old then
        (Table.update (fun e => decide (R.stored e = R.key r)) (R.refresh r) t, [false])
      else (t, [])

def upsert_rows : List ρ → List ε → List ε × List Bool
  | [], t => (t, [])
  | r :: rows, t =>
      let (t, flag) := upsert_row R r t
      let (t, flags) := upsert_rows rows t
      (t, flag ++ flags)

-- what a row does to the row stored with its key, but for the number the table gives
def settle (r : ρ) (n : Nat) : Option ε → ε
  | none => R.insert r n
  | some old => if R.changed r old then R.refresh r old else old

def outdated (t : List ε) (r : ρ) : Bool := (Table.find R.stored (R.key r) t).any (R.changed r)

def current (t : List ε) (r : ρ) : Bool :=
  (Table.find R.stored (R.key r) t).any (fun e => !R.changed r e)

variable {R} {r : ρ} {rows : List ρ} {t : List ε} {k : κ}

theorem upsert_row_absent (h : Table.find R.stored (R.key r) t = none) :
    R.upsert_row r t = (t ++ [R.insert r t.length], [true]) := by
  simp only [upsert_row, h]

theorem upsert_row_outdated {old : ε} (h : Table.find R.stored (R.key r) t = some old)
    (hc : R.changed r old = true) : R.upsert_row r t =
      (Table.update (fun e => decide (R.stored e = R.key r)) (R.refresh r) t, [false]) := by
  simp only [upsert_row, h, hc, if_true]

theorem upsert_row_current (h : R.current t r = true) : R.upsert_row r t = (t, []) := by
  obtain ⟨old, hf, hc⟩ := (Option.any_eq_true _ _).mp h
  have hc' : R.changed r old = false := by simpa using hc
  simp only [upsert_row, hf, hc', Bool.false_eq_true, if_false]

theorem upsert_row_unique (h : Table.Unique R.stored t) :
    Table.Unique R.stored (R.upsert_row r t).1 := by
  cases hf : Table.find R.stored (R.key r) t with
  | none =>
      rw [upsert_row_absent hf]
      exact Table.unique_concat h ((R.stored_insert r t.length).symm ▸ hf)
  | some old =>
      cases hc : R.changed r old with
      | true =>
          rw [upsert_row_outdated hf hc]
          exact Table.unique_update (f := R.refresh r) (fun e _ => R.stored_refresh r e) h
      | false => rwa [upsert_row_current (by simp [current, hf, hc])]

theorem upsert_rows_unique (h : Table.Unique R.stored t) :
    Table.Unique R.stored (R.upsert_rows rows t).1 := by
  induction rows generalizing t with
  | nil => exact h
  | cons r rows ih => exact ih (upsert_row_unique h)

theorem upsert_rows_append (rows rest : List ρ) (t : List ε) :
    R.upsert_rows (rows ++ rest) t = ((R.upsert_rows rest (R.upsert_rows rows t).1).1,
      (R.upsert_rows rows t).2 ++ (R.upsert_rows rest (R.upsert_rows rows t).1).2) := by
  induction rows generalizing t with
  | nil => rfl
  | cons r rows ih => simp only [List.cons_append, upsert_rows, ih, List.append_assoc]

theorem upsert_rows_current (h : ∀ r ∈ rows, R.current t r = true) :
    R.upsert_rows rows t = (t, []) := by
  induction rows with
  | nil => rfl
  | cons r rows ih =>
      simp only [upsert_rows, upsert_row_current (h r (by simp)),
        ih (fun s hs => h s (by simp [hs])), List.append_nil]

end Rule

section Batch

-- the last row of each key
def last_rows (key : ρ → κ) (rows : List ρ) : List ρ :=
  Dict.values (Dict.ofList (rows.map (fun r => (key r, r))))

def last_with_key (key : ρ → κ) (k : κ) (rows : List ρ) : Option ρ :=
  rows.reverse.find? (fun r => decide (key r = k))

def chunks (n : Nat) (rows : List ρ) : List (List ρ) :=
  (List.range ((rows.length + n - 1) / n)).map (fun i => (rows.drop (i * n)).take n)

variable {key : ρ → κ} {rows : List ρ} {r : ρ}

theorem get_keyed (k : κ) (rows : List ρ) : Dict.get k (rows.map (fun r => (key r, r))) =
    rows.find? (fun r => decide (key r = k)) := by
  induction rows with
  | nil => rfl
  | cons r rows ih =>
      simp only [List.map_cons, Dict.get, List.find?_cons]
      by_cases h : key r = k <;> simp [h, ih]

theorem mem_last_rows : r ∈ last_rows key rows ↔ last_with_key key (key r) rows = some r := by
  have hd := Dict.nodup_keys_ofList (rows.map (fun r => (key r, r)))
  rw [last_with_key, ← get_keyed, List.map_reverse, ← Dict.get_ofList, Dict.get_iff hd]
  simp only [last_rows, Dict.values, List.mem_map, Prod.exists, exists_eq_right]
  refine ⟨?_, fun h => ⟨_, h⟩⟩
  rintro ⟨k, h⟩
  obtain ⟨s, _, hs⟩ := List.mem_map.mp (Dict.mem_of_mem_ofList h)
  obtain ⟨rfl, rfl⟩ := Prod.mk.inj hs
  exact h

theorem keys_last_rows (key : ρ → κ) (rows : List ρ) : (last_rows key rows).map key =
    Dict.keys (Dict.ofList (rows.map (fun r => (key r, r)))) := by
  simp only [last_rows, Dict.values, Dict.keys, List.map_map]
  refine List.map_congr_left (fun kv hkv => ?_)
  obtain ⟨s, _, rfl⟩ := List.mem_map.mp (Dict.mem_of_mem_ofList hkv)
  rfl

theorem mem_of_mem_last_rows (h : r ∈ last_rows key rows) : r ∈ rows :=
  List.mem_reverse.mp (List.mem_of_find?_eq_some (mem_last_rows.mp h))

theorem mem_keys_last_rows {k : κ} : k ∈ (last_rows key rows).map key ↔ k ∈ rows.map key := by
  rw [keys_last_rows, Dict.mem_keys_ofList]
  simp [Dict.keys]

omit [DecidableEq κ] in
theorem chunks_flatten {n : Nat} (hn : 0 < n) (rows : List ρ) : (chunks n rows).flatten = rows := by
  have hs : ∀ k, ((List.range k).map (fun i => (rows.drop (i * n)).take n)).flatten =
      rows.take (k * n) := by
    intro k
    induction k with
    | zero => simp
    | succ k ih =>
        rw [List.range_succ, List.map_append, List.flatten_append, ih]
        simp [Nat.succ_mul, List.take_add]
  have hlen : rows.length ≤ (rows.length + n - 1) / n * n := by
    have hdiv := Nat.div_add_mod (rows.length + n - 1) n
    have hlt := Nat.mod_lt (rows.length + n - 1) hn
    rw [Nat.mul_comm] at hdiv
    omega
  rw [chunks, hs, List.take_of_length_le hlen]

omit [DecidableEq κ] in
theorem chunks_map {ρ' : Type} (f : ρ → ρ') (n : Nat) (rows : List ρ) :
    chunks n (rows.map f) = (chunks n rows).map (List.map f) := by
  simp only [chunks, List.length_map, List.map_map, List.map_take, List.map_drop,
    Function.comp_def]

omit [DecidableEq κ] in
theorem length_of_mem_chunks {n : Nat} {chunk : List ρ} (h : chunk ∈ chunks n rows) :
    chunk.length ≤ n := by
  obtain ⟨i, _, rfl⟩ := List.mem_map.mp h
  exact (List.length_take_le _ _)

-- the statements of a batch one after the other, with the rows inserted and the rows updated
def statements (statement : List ρ → τ → Except σ (τ × List Bool)) :
    List (List ρ) → τ → Except σ (τ × Nat × Nat)
  | [], t => .ok (t, 0, 0)
  | chunk :: rest, t => do
      let (t, flags) ← statement chunk t
      let (t, inserted, updated) ← statements statement rest t
      .ok (t, flags.count true + inserted, flags.length - flags.count true + updated)

end Batch

end BatchUpsert
