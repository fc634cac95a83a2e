import GeoHazard.Hazards.SyncAemet

namespace GeoHazard

structure EffisRecord where
  external_id : String
  kind : EffisKind
  geometry : PyJson
  observed_at : Datetime
  area_ha : Option FiniteFloat
  attrs : List (String × PyJson)

namespace SyncEffisUseCase

variable {G : Type} (env : Env G) (tx : Tx)

def previous_ids (states : List SourceSyncState) : List String :=
  ((SourceSyncStateRepo.get .effis states).map (fun s => cursor_ids "burnt_area_ids" s.cursor)).getD []

def vanished (states : List SourceSyncState) (burnt_areas : List EffisRecord) : List String :=
  (previous_ids states).filter (fun r => decide (r ∉ burnt_areas.map EffisRecord.external_id))

def close_vanished (states : List SourceSyncState) (burnt_areas : List EffisRecord)
    (batch_at : Datetime) (t : HazardEventRepo.Rows G) :
    Except PyError (HazardEventRepo.Rows G × Nat) :=
  HazardEventRepo.close_events tx .effis (vanished states burnt_areas) batch_at.instant t

def row_attrs (record : EffisRecord) : List (String × PyJson) :=
  let attrs := Dict.set "kind" (.str record.kind.name) record.attrs
  match record.area_ha with
  | none => attrs
  | some area => Dict.set "area_ha" (.float area) attrs

def hash_payload (geometry : PyJson) (attrs : List (String × PyJson)) (observed_at : Datetime) :
    PyJson :=
  .obj [("geometry", geometry), ("attrs", .obj attrs), ("observed_at", .str observed_at.isoformat)]

def to_row (record : EffisRecord) : Except PyError (Row G) := do
  let geom ← geojson_to_wkb env record.geometry
  .ok {
    source := .effis
    hazard_type := .wildfire
    external_id := record.external_id
    geom := geom
    severity := effis_severity record.kind record.area_ha
    starts_at := record.observed_at.instant
    ends_at := if record.kind = .hotspot then some record.observed_at.instant else none
    attrs := .obj (row_attrs record)
    content_hash :=
      content_hash env (hash_payload record.geometry (row_attrs record) record.observed_at) }

def execute (hotspots burnt_areas : List EffisRecord) (db : Db G) :
    Except PyError (Db G × SyncResult) := do
  let rows ← collect (to_row env) (hotspots ++ burnt_areas)
  let batch_at := HazardEventRepo.transaction_now tx
  let (t, inserted, updated) ← HazardEventRepo.upsert_batch env tx rows db.hazard_events
  let (t, closed) ← close_vanished tx db.source_sync_state burnt_areas batch_at t
  let result : SyncResult := ⟨inserted, updated, closed⟩
  let states := SourceSyncStateRepo.record_success .effis
    (some (cursor_of "burnt_area_ids" (burnt_areas.map EffisRecord.external_id))) tx.clock
    db.source_sync_state
  let outbox :=
    if result.changed then
      EventBus.publish BATCH_INGESTED
        (batch_payload .effis batch_at
          [("inserted", inserted), ("updated", updated), ("closed", closed)])
        tx.mark db.outbox_events
    else db.outbox_events
  .ok (⟨t, states, outbox⟩, result)

end SyncEffisUseCase

end GeoHazard
