import GeoHazard.Library.BatchUpsert
import GeoHazard.Hazards.ReferenceEnv
import GeoHazard.Hazards.UpsertSpec

namespace GeoHazard
open BatchUpsert HazardEventRepo

variable {G : Type}

-- a row as the dict that it is: its keys, what they give of the columns that every row has, and
-- the columns that the insert may gain
structure WideRow (G : Type) where
  columns : List String
  row : Row G
  more : String → Option PyJson

structure WideEvent (G : Type) where
  event : HazardEvent G
  more : String → Option PyJson

def WideRow.key (r : WideRow G) : Source × String := r.row.key

def WideEvent.key (e : WideEvent G) : Source × String := e.event.key

-- the columns of the rows that the three syncs build
def SYNC_COLUMNS : List String :=
  ["source", "hazard_type", "external_id", "geom", "severity", "starts_at", "ends_at", "attrs",
    "content_hash"]

def Row.wide (r : Row G) : WideRow G := ⟨SYNC_COLUMNS, r, fun _ => none⟩

def HazardEvent.wide (e : HazardEvent G) : WideEvent G := ⟨e, fun _ => none⟩

-- the columns that are not in _UPDATABLE stay as they were inserted
def wide_rule (env : Env G) (tx : Tx) : Rule (Source × String) (WideRow G) (WideEvent G) where
  key := WideRow.key
  stored := WideEvent.key
  insert r n := ⟨HazardEvent.inserted env tx r.row n, r.more⟩
  changed r e := decide (e.event.content_hash ≠ r.row.content_hash ∨ e.event.ends_at ≠ r.row.ends_at)
  refresh r e := ⟨HazardEvent.refreshed env tx r.row e.event, e.more⟩
  stored_insert _ _ := rfl
  stored_refresh _ _ := rfl
  insert_unchanged _ _ := by simp [HazardEvent.inserted, Row.stored]
  refresh_unchanged _ _ := by simp [HazardEvent.refreshed, Row.stored]

namespace WideRepo

def arguments (chunk : List (WideRow G)) : Nat := Dict.total (fun r => r.columns.length) chunk

def insert_on_conflict (env : Env G) (tx : Tx) (chunk : List (WideRow G)) (t : List (WideEvent G)) :
    Except PyError (List (WideEvent G) × List Bool) :=
  if ASYNCPG_MAX_ARGS < arguments chunk then
    .error (.dbapi_error "the number of query arguments cannot exceed 32767")
  else if chunk.any (fun r => !storable_id r.row.external_id) then
    .error (.dbapi_error "value too long for type character varying(255)")
  else if (chunk.map WideRow.key).Nodup then .ok ((wide_rule env tx).upsert_rows chunk t)
  else .error (.dbapi_error "ON CONFLICT DO UPDATE command cannot affect row a second time")

def chunk_rows (rows : List (WideRow G)) : Nat :=
  ASYNCPG_MAX_ARGS / (rows.head?.map (fun r => r.columns.length)).getD 0

def batch_chunks (rows : List (WideRow G)) : List (List (WideRow G)) :=
  chunks (chunk_rows (last_rows WideRow.key rows)) (last_rows WideRow.key rows)

def upsert_batch (env : Env G) (tx : Tx) (rows : List (WideRow G)) (t : List (WideEvent G)) :
    Except PyError (List (WideEvent G) × Nat × Nat) :=
  if rows.isEmpty then .ok (t, 0, 0)
  else if chunk_rows (last_rows WideRow.key rows) = 0 then
    .error (.value_error "range() arg 3 must not be zero" none)
  else statements (insert_on_conflict env tx) (batch_chunks rows) t

variable {env : Env G} {tx : Tx} {columns : List String} {rows : List (WideRow G)}
  {t : List (WideEvent G)}

theorem arguments_eq {chunk : List (WideRow G)} (h : ∀ r ∈ chunk, r.columns.Perm columns) :
    arguments chunk = chunk.length * columns.length := by
  induction chunk with
  | nil => simp [arguments]
  | cons r chunk ih =>
      have hr := (h r (by simp)).length_eq
      have hrest := ih (fun s hs => h s (by simp [hs]))
      simp only [arguments, Dict.total_cons, List.length_cons, Nat.succ_mul] at hrest ⊢
      omega

theorem chunk_rows_eq (h : ∀ r ∈ rows, r.columns.Perm columns) (hne : rows ≠ []) :
    chunk_rows rows = ASYNCPG_MAX_ARGS / columns.length := by
  cases rows with
  | nil => exact absurd rfl hne
  | cons r rows =>
      have hr := (h r (by simp)).length_eq
      simp [chunk_rows, hr]

theorem last_rows_ne (hne : rows ≠ []) : last_rows WideRow.key rows ≠ [] := by
  obtain ⟨r, hr⟩ := List.exists_mem_of_ne_nil rows hne
  intro he
  have hk := mem_keys_last_rows.mpr (List.mem_map_of_mem (f := WideRow.key) hr)
  simp [he] at hk

section Columns

variable (hrows : ∀ r ∈ rows, r.columns.Perm columns)
include hrows

end Columns

-- the rule for one row, in the columns that it names
def Differs (r : WideRow G) (old : WideEvent G) : Prop :=
  old.event.content_hash ≠ r.row.content_hash ∨ old.event.ends_at ≠ r.row.ends_at

instance (r : WideRow G) (old : WideEvent G) : Decidable (Differs r old) :=
  inferInstanceAs (Decidable (_ ∨ _))

-- the rows of a batch by what the table holds of their key
def stored_as (t : List (WideEvent G)) (r : WideRow G) : Option (WideEvent G) :=
  Table.find WideEvent.key r.key t

def outdated (t : List (WideEvent G)) (r : WideRow G) : Bool :=
  (stored_as t r).any (fun old => decide (Differs r old))

def untouched (t : List (WideEvent G)) (r : WideRow G) : Bool :=
  (stored_as t r).any (fun old => !decide (Differs r old))

def burnt (id hash : String) : Row (List (PyFloat × PyFloat)) where
  source := .effis
  hazard_type := .wildfire
  external_id := id
  geom := [(⟨0⟩, ⟨0⟩)]
  severity := severity_two
  starts_at := 0
  ends_at := none
  attrs := .obj []
  content_hash := hash

-- the second row has the key of the first, and the last is as the table holds it
def repeated : List (WideRow (List (PyFloat × PyFloat))) :=
  [burnt "ba-7" "old", burnt "ba-7" "new", burnt "ba-8" "new", burnt "ba-9" "kept"].map Row.wide

def held : List (WideEvent (List (PyFloat × PyFloat))) :=
  [HazardEvent.wide (HazardEvent.inserted (planar_env id) (ran_at 1 (july 2 11))
      (burnt "ba-7" "older") 0),
    HazardEvent.wide (HazardEvent.inserted (planar_env id) (ran_at 1 (july 2 11))
      (burnt "ba-9" "kept") 1)]

end WideRepo

section Narrow

variable {env : Env G} {tx : Tx}

theorem update_wide {p : HazardEvent G → Bool} {q : WideEvent G → Bool}
    {f : HazardEvent G → HazardEvent G} {g : WideEvent G → WideEvent G} {t : Rows G}
    (hp : ∀ e, q e.wide = p e) (hf : ∀ e, g e.wide = (f e).wide) :
    Table.update q g (t.map HazardEvent.wide) = (Table.update p f t).map HazardEvent.wide := by
  simp only [Table.update, List.map_map]
  refine List.map_congr_left (fun e _ => ?_)
  simp only [Function.comp_apply, hp, hf]
  split <;> rfl

theorem find_wide (k : Source × String) (t : Rows G) :
    Table.find WideEvent.key k (t.map HazardEvent.wide) =
      (Table.find HazardEvent.key k t).map HazardEvent.wide :=
  Table.find_map HazardEvent.wide k t

theorem upsert_row_wide (row : Row G) (t : Rows G) :
    (wide_rule env tx).upsert_row row.wide (t.map HazardEvent.wide) =
      ((upsert_row env tx row t).1.map HazardEvent.wide, (upsert_row env tx row t).2) := by
  have hfind : Table.find (wide_rule env tx).stored ((wide_rule env tx).key row.wide)
      (t.map HazardEvent.wide) = (Table.find HazardEvent.key row.key t).map HazardEvent.wide :=
    find_wide row.key t
  rcases upsert_row_cases env tx row t with ⟨⟨e, he, hh, hx⟩, hrow⟩ | ⟨hf, hrow⟩ |
    ⟨old, hf, hc, hrow⟩ <;> rw [hrow]
  · have hsame : (wide_rule env tx).changed row.wide e.wide = false := by
      simp [wide_rule, HazardEvent.wide, Row.wide, hh, hx]
    refine Rule.upsert_row_current (R := wide_rule env tx) ?_
    simp only [Rule.current, hfind, he, Option.map_some, Option.any_some, hsame, Bool.not_false]
  · rw [Rule.upsert_row_absent (by rw [hfind, hf]; rfl)]
    simp [wide_rule, HazardEvent.wide, Row.wide]
  · have hchanged : (wide_rule env tx).changed row.wide old.wide = true := by
      refine decide_eq_true ?_
      by_contra hsame
      simp only [not_or, not_not] at hsame
      exact hc ⟨old, hf, hsame.1, hsame.2⟩
    rw [Rule.upsert_row_outdated (by rw [hfind, hf]; rfl) hchanged]
    exact congrArg (·, [false]) (update_wide (fun _ => rfl) (fun _ => rfl))

theorem upsert_rows_wide (rows : List (Row G)) (t : Rows G) :
    (wide_rule env tx).upsert_rows (rows.map Row.wide) (t.map HazardEvent.wide) =
      ((upsert_rows env tx rows t).1.map HazardEvent.wide, (upsert_rows env tx rows t).2) := by
  induction rows generalizing t with
  | nil => rfl
  | cons row rows ih =>
      simp only [List.map_cons, Rule.upsert_rows, upsert_row_wide, ih, upsert_rows]

theorem last_rows_wide (rows : List (Row G)) :
    last_rows WideRow.key (rows.map Row.wide) = (deduplicated rows).map Row.wide := by
  have hpairs : (rows.map Row.wide).map (fun r => (WideRow.key r, r)) =
      (rows.map (fun row => (row.key, row))).map (fun kv => (kv.1, Row.wide kv.2)) := by
    simp only [List.map_map]
    rfl
  rw [last_rows, deduplicated, Dict.values, Dict.values, hpairs, Dict.ofList_map, List.map_map,
    List.map_map]
  rfl

theorem insert_on_conflict_wide (chunk : List (Row G)) (t : Rows G) :
    WideRepo.insert_on_conflict env tx (chunk.map Row.wide) (t.map HazardEvent.wide) =
      (insert_on_conflict env tx chunk t).map (fun r => (r.1.map HazardEvent.wide, r.2)) := by
  have harguments : WideRepo.arguments (chunk.map Row.wide) = chunk.length * ROW_COLUMNS := by
    have h := @WideRepo.arguments_eq _ SYNC_COLUMNS (chunk.map Row.wide) (fun r hr => by
      obtain ⟨row, _, rfl⟩ := List.mem_map.mp hr
      exact .refl _)
    rwa [List.length_map] at h
  have hany : (chunk.map Row.wide).any (fun r => !storable_id r.row.external_id) =
      chunk.any (fun row => !storable_id row.external_id) := by
    rw [List.any_map]
    rfl
  have hkeys : (chunk.map Row.wide).map WideRow.key = chunk.map Row.key := by
    rw [List.map_map]
    rfl
  rw [WideRepo.insert_on_conflict, insert_on_conflict, harguments, hany, hkeys, upsert_rows_wide]
  split_ifs <;> rfl

theorem statements_wide (cs : List (List (Row G))) (t : Rows G) :
    statements (WideRepo.insert_on_conflict env tx) (cs.map (List.map Row.wide))
        (t.map HazardEvent.wide) =
      (upsert_chunks env tx cs t).map (fun r => (r.1.map HazardEvent.wide, r.2)) := by
  induction cs generalizing t with
  | nil => rfl
  | cons c cs ih =>
      simp only [List.map_cons, statements, upsert_chunks, insert_on_conflict_wide]
      cases insert_on_conflict env tx c t with
      | error e => rfl
      | ok r =>
          simp only [Except.map, bind, Except.bind, ih]
          cases upsert_chunks env tx cs r.1 <;> rfl

theorem upsert_batch_wide (rows : List (Row G)) (t : Rows G) :
    WideRepo.upsert_batch env tx (rows.map Row.wide) (t.map HazardEvent.wide) =
      (upsert_batch env tx rows t).map (fun r => (r.1.map HazardEvent.wide, r.2)) := by
  cases rows with
  | nil => rfl
  | cons row rows =>
      have hcolumns : ∀ r ∈ last_rows WideRow.key ((row :: rows).map Row.wide),
          r.columns.Perm SYNC_COLUMNS := by
        intro r hr
        obtain ⟨row', _, rfl⟩ := List.mem_map.mp (mem_of_mem_last_rows hr)
        exact .refl _
      have hsize : WideRepo.chunk_rows (last_rows WideRow.key ((row :: rows).map Row.wide)) =
          chunk_rows := WideRepo.chunk_rows_eq hcolumns (WideRepo.last_rows_ne (by simp))
      have hchunks : WideRepo.batch_chunks ((row :: rows).map Row.wide) =
          (HazardEventRepo.chunks (deduplicated (row :: rows))).map (List.map Row.wide) := by
        rw [WideRepo.batch_chunks, hsize, last_rows_wide, chunks_map]
        rfl
      rw [WideRepo.upsert_batch, hsize, hchunks, statements_wide]
      rfl

end Narrow

end GeoHazard
