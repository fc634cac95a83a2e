import GeoHazard.Hazards.Services
import GeoHazard.Hazards.HazardEventRepo
import GeoHazard.Hazards.SourceSyncStateRepo

namespace GeoHazard

def BATCH_INGESTED : String := "hazards.batch_ingested"

structure SyncResult where
  inserted : Nat
  updated : Nat
  closed : Nat
  deriving DecidableEq

def SyncResult.changed (r : SyncResult) : Bool := r.inserted != 0 || r.updated != 0 || r.closed != 0

def cursor_of (field : String) (ids : List String) : PyJson :=
  .obj [(field, .arr ((ids.insertionSort (· ≤ ·)).map .str))]

def cursor_ids (field : String) : PyJson → List String
  | .obj kvs =>
      match Dict.get field kvs with
      | some (.arr xs) => xs.filterMap (fun x => match x with | .str s => some s | _ => none)
      | _ => []
  | _ => []

def batch_payload (source : Source) (batch_at : Datetime) (counts : List (String × Nat)) : PyJson :=
  .obj (("source", .str source.name) :: counts.map (fun c => (c.1, .int c.2)) ++
    [("batch_at", .str batch_at.isoformat)])

def MSG_TYPE_ALERT : String := "Alert"
def MSG_TYPE_UPDATE : String := "Update"
def MSG_TYPE_CANCEL : String := "Cancel"

structure AemetWarning where
  external_id : String
  msg_type : String
  sent : Datetime
  references : List String
  event : Option String
  phenomenon : Option String
  level : Option String
  onset : Option Datetime
  expires : Option Datetime
  polygon : Option String
  zone : Option String
  area_desc : Option String
  attrs : List (String × PyJson)

namespace SyncAemetUseCase

variable {G : Type} (env : Env G) (tx : Tx)

def is_ingestible (warning : AemetWarning) : Bool :=
  if warning.msg_type != MSG_TYPE_ALERT && warning.msg_type != MSG_TYPE_UPDATE then false
  else if warning.level.all (fun level => lower (strip level) == "verde") then false
  else truthy warning.polygon && warning.onset.isSome && warning.expires.isSome

def supersedes (warning : AemetWarning) : Bool :=
  (warning.msg_type == MSG_TYPE_UPDATE || warning.msg_type == MSG_TYPE_CANCEL) &&
    !warning.references.isEmpty

def by_sent (warnings : List AemetWarning) : List (Timestamptz × List String) :=
  (warnings.filter supersedes).foldl (fun d w =>
    Dict.set w.sent.instant ((Dict.get w.sent.instant d).getD [] ++ w.references) d) []

def close_groups : List (Timestamptz × List String) → HazardEventRepo.Rows G →
    Except PyError (HazardEventRepo.Rows G × Nat)
  | [], t => .ok (t, 0)
  | (sent, identifiers) :: groups, t => do
      let (t, n) ← HazardEventRepo.close_events tx .aemet identifiers sent t
      let (t, m) ← close_groups groups t
      .ok (t, n + m)

def close_superseded (warnings : List AemetWarning) (t : HazardEventRepo.Rows G) :
    Except PyError (HazardEventRepo.Rows G × Nat) :=
  close_groups tx (by_sent warnings) t

def previous_ids (states : List SourceSyncState) : List String :=
  ((SourceSyncStateRepo.get .aemet states).map (fun s => cursor_ids "identifiers" s.cursor)).getD []

def vanished (states : List SourceSyncState) (ingestible : List AemetWarning) : List String :=
  (previous_ids states).filter (fun r => decide (r ∉ ingestible.map AemetWarning.external_id))

def close_vanished (states : List SourceSyncState) (ingestible : List AemetWarning)
    (batch_at : Datetime) (t : HazardEventRepo.Rows G) :
    Except PyError (HazardEventRepo.Rows G × Nat) :=
  HazardEventRepo.close_events tx .aemet (vanished states ingestible) batch_at.instant t

def row_attrs (warning : AemetWarning) : List (String × PyJson) :=
  let text (key : String) (value : Option String) : String × PyJson :=
    (key, (value.map Json.str).getD .null)
  (Dict.update
    [text "event" warning.event, text "phenomenon" warning.phenomenon, text "level" warning.level,
      text "zone" warning.zone, text "area_desc" warning.area_desc]
    warning.attrs).filter (fun kv => match kv.2 with | .null => false | _ => true)

def hash_payload (polygon : String) (attrs : List (String × PyJson)) (onset expires : Datetime) :
    PyJson :=
  .obj [("polygon", .str polygon), ("attrs", .obj attrs), ("onset", .str onset.isoformat),
    ("expires", .str expires.isoformat)]

def to_row (warning : AemetWarning) : Except PyError (Row G) :=
  match warning.level, warning.polygon, warning.onset, warning.expires with
  | some level, some polygon, some onset, some expires =>
      if level = "" ∨ polygon = "" then .error (.value_error "not an ingestible warning" none)
      else do
        let geom ← cap_polygon_to_wkb env polygon
        let severity ← aemet_severity level
        .ok {
          source := .aemet
          hazard_type := .weather_warning
          external_id := warning.external_id
          geom := geom
          severity := severity
          starts_at := onset.instant
          ends_at := some expires.instant
          attrs := .obj (row_attrs warning)
          content_hash := content_hash env (hash_payload polygon (row_attrs warning) onset expires) }
  | _, _, _, _ => .error (.value_error "not an ingestible warning" none)

def execute (warnings : List AemetWarning) (db : Db G) : Except PyError (Db G × SyncResult) := do
  let ingestible := warnings.filter is_ingestible
  let batch_at := HazardEventRepo.transaction_now tx
  let rows ← collect (to_row env) ingestible
  let (t, inserted, updated) ← HazardEventRepo.upsert_batch env tx rows db.hazard_events
  let (t, superseded) ← close_superseded tx warnings t
  let (t, vanished) ← close_vanished tx db.source_sync_state ingestible batch_at t
  let result : SyncResult := ⟨inserted, updated, superseded + vanished⟩
  let states := SourceSyncStateRepo.record_success .aemet
    (some (cursor_of "identifiers" (ingestible.map AemetWarning.external_id))) tx.clock
    db.source_sync_state
  let outbox :=
    if result.changed then
      EventBus.publish BATCH_INGESTED
        (batch_payload .aemet batch_at
          [("inserted", inserted), ("updated", updated), ("closed", result.closed)])
        tx.mark db.outbox_events
    else db.outbox_events
  .ok (⟨t, states, outbox⟩, result)

end SyncAemetUseCase

end GeoHazard
