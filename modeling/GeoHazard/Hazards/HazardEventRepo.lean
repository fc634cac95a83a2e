import GeoHazard.Hazards.Schema
import Mathlib.Data.List.Dedup

namespace GeoHazard

variable {G : Type} (env : Env G) (tx : Tx)

def Row.stored (row : Row G) : Row G := { row with attrs := row.attrs.canon }

def HazardEvent.inserted (row : Row G) (id : Nat) : HazardEvent G where
  toRow := row.stored
  id := id
  province_code := env.province row.geom
  created_at := tx.mark
  updated_at := none
  xmin := tx.xid

def HazardEvent.refreshed (row : Row G) (old : HazardEvent G) : HazardEvent G where
  source := old.source
  external_id := old.external_id
  hazard_type := row.stored.hazard_type
  geom := row.stored.geom
  severity := row.stored.severity
  starts_at := row.stored.starts_at
  ends_at := row.stored.ends_at
  attrs := row.stored.attrs
  content_hash := row.stored.content_hash
  id := old.id
  province_code := env.province row.geom
  created_at := old.created_at
  updated_at := some tx.mark
  xmin := tx.xid

def HazardEvent.closed (ended_at : Timestamptz) (old : HazardEvent G) : HazardEvent G :=
  { old with ends_at := some ended_at, updated_at := some tx.mark, xmin := tx.xid }

namespace HazardEventRepo

def ASYNCPG_MAX_ARGS : Nat := 32767

abbrev Rows (G : Type) := List (HazardEvent G)

def upsert_row (row : Row G) (t : Rows G) : Rows G × List Bool :=
  match Table.find HazardEvent.key row.key t with
  | none => (t ++ [HazardEvent.inserted env tx row t.length], [true])
  | some old =>
      if old.content_hash ≠ row.content_hash ∨ old.ends_at ≠ row.ends_at then
        (Table.update (fun e => decide (e.key = row.key)) (HazardEvent.refreshed env tx row) t, [false])
      else (t, [])

def upsert_rows : List (Row G) → Rows G → Rows G × List Bool
  | [], t => (t, [])
  | row :: rows, t =>
      let (t, flag) := upsert_row env tx row t
      let (t, flags) := upsert_rows rows t
      (t, flag ++ flags)

-- a text that the column of external_id takes, VARCHAR(255): no text of PostgreSQL holds U+0000
def storable_id (external_id : String) : Bool :=
  decide (external_id.length ≤ 255) && decide (Char.ofNat 0 ∉ external_id.toList)

def insert_on_conflict (chunk : List (Row G)) (t : Rows G) : Except PyError (Rows G × List Bool) :=
  if ASYNCPG_MAX_ARGS < chunk.length * ROW_COLUMNS then
    .error (.dbapi_error "the number of query arguments cannot exceed 32767")
  else if chunk.any (fun row => !storable_id row.external_id) then
    .error (.dbapi_error "value too long for type character varying(255)")
  else if (chunk.map Row.key).Nodup then .ok (upsert_rows env tx chunk t)
  else .error (.dbapi_error "ON CONFLICT DO UPDATE command cannot affect row a second time")

def deduplicated (rows : List (Row G)) : List (Row G) :=
  Dict.values (Dict.ofList (rows.map (fun row => (row.key, row))))

def chunk_rows : Nat := ASYNCPG_MAX_ARGS / ROW_COLUMNS

def chunks (rows : List (Row G)) : List (List (Row G)) :=
  (List.range ((rows.length + chunk_rows - 1) / chunk_rows)).map
    (fun i => (rows.drop (i * chunk_rows)).take chunk_rows)

def upsert_chunks : List (List (Row G)) → Rows G → Except PyError (Rows G × Nat × Nat)
  | [], t => .ok (t, 0, 0)
  | chunk :: rest, t => do
      let (t, flags) ← insert_on_conflict env tx chunk t
      let (t, inserted, updated) ← upsert_chunks rest t
      .ok (t, flags.count true + inserted, flags.length - flags.count true + updated)

def upsert_batch (rows : List (Row G)) (t : Rows G) : Except PyError (Rows G × Nat × Nat) :=
  if rows.isEmpty then .ok (t, 0, 0) else upsert_chunks env tx (chunks (deduplicated rows)) t

def transaction_now : Datetime := tx.now

def open_after (source : Source) (external_ids : List String) (ended_at : Timestamptz)
    (e : HazardEvent G) : Bool :=
  decide (e.source = source) && decide (e.external_id ∈ external_ids) &&
    (match e.ends_at with
      | none => true
      | some ends => decide (ended_at < ends))

-- what the UPDATE leaves, and the rows that it returns
def closed_rows (source : Source) (external_ids : List String) (ended_at : Timestamptz)
    (t : Rows G) : Rows G × Nat :=
  (Table.update (open_after source external_ids ended_at) (HazardEvent.closed tx ended_at) t,
    t.countP (open_after source external_ids ended_at))

-- the callers pass sets: one argument for each identifier, one for the source and two of ended_at
def close_events (source : Source) (external_ids : List String) (ended_at : Timestamptz)
    (t : Rows G) : Except PyError (Rows G × Nat) :=
  if external_ids.isEmpty then .ok (t, 0)
  else if ASYNCPG_MAX_ARGS < external_ids.dedup.length + 3 then
    .error (.dbapi_error "the number of query arguments cannot exceed 32767")
  else .ok (closed_rows tx source external_ids ended_at t)

def fetch_export_rows (source : Source) (t : Rows G) : Rows G :=
  (t.filter (fun e => decide (e.source = source))).insertionSort (fun a b => a.starts_at ≤ b.starts_at)

theorem mem_fetch_export_rows {source : Source} {t : Rows G} {e : HazardEvent G} :
    e ∈ fetch_export_rows source t ↔ e ∈ t ∧ e.source = source := by
  simp [fetch_export_rows, List.mem_insertionSort]

end HazardEventRepo

end GeoHazard
