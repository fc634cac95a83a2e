import GeoHazard.Hazards.SyncAemet

namespace GeoHazard

structure IgnRecord where
  external_id : String
  magnitude : FiniteFloat
  region : String
  latitude : FiniteFloat
  longitude : FiniteFloat
  occurred_at : Datetime
  attrs : List (String × PyJson)

namespace SyncIgnUseCase

variable {G : Type} (env : Env G) (tx : Tx)

def row_attrs (record : IgnRecord) : List (String × PyJson) :=
  Dict.update record.attrs [("magnitude", .float record.magnitude), ("region", .str record.region)]

def hash_payload (latitude longitude : FiniteFloat) (attrs : List (String × PyJson))
    (occurred_at : Datetime) : PyJson :=
  .obj [("latitude", .float latitude), ("longitude", .float longitude), ("attrs", .obj attrs),
    ("occurred_at", .str occurred_at.isoformat)]

def to_row (record : IgnRecord) : Row G where
  source := .ign
  hazard_type := .earthquake
  external_id := record.external_id
  geom := point_to_wkb env record.latitude record.longitude
  severity := ign_severity record.magnitude
  starts_at := record.occurred_at.instant
  ends_at := some record.occurred_at.instant
  attrs := .obj (row_attrs record)
  content_hash := content_hash env
    (hash_payload record.latitude record.longitude (row_attrs record) record.occurred_at)

def latest (first : Datetime) : List IgnRecord → Datetime
  | [] => first
  | r :: rest => latest (if first.instant < r.occurred_at.instant then r.occurred_at else first) rest

def cursor : List IgnRecord → Option PyJson
  | [] => none
  | r :: rest => some (.obj [("last_event_at", .str (latest r.occurred_at rest).isoformat)])

def execute (records : List IgnRecord) (db : Db G) : Except PyError (Db G × SyncResult) := do
  let rows := records.map (to_row env)
  let batch_at := HazardEventRepo.transaction_now tx
  let (t, inserted, updated) ← HazardEventRepo.upsert_batch env tx rows db.hazard_events
  let result : SyncResult := ⟨inserted, updated, 0⟩
  let states := SourceSyncStateRepo.record_success .ign (cursor records) tx.clock db.source_sync_state
  let outbox :=
    if result.changed then
      EventBus.publish BATCH_INGESTED
        (batch_payload .ign batch_at [("inserted", inserted), ("updated", updated)])
        tx.mark db.outbox_events
    else db.outbox_events
  .ok (⟨t, states, outbox⟩, result)

end SyncIgnUseCase

end GeoHazard
