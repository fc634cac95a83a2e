import GeoHazard.Library.Table
import GeoHazard.Core.OutboxEvent
import GeoHazard.Core.Text

namespace GeoHazard

inductive Source where
  | effis | ign | aemet
  deriving DecidableEq

def Source.name : Source → String
  | .effis => "effis"
  | .ign => "ign"
  | .aemet => "aemet"

inductive HazardType where
  | wildfire | earthquake | weather_warning
  deriving DecidableEq

def HazardType.name : HazardType → String
  | .wildfire => "wildfire"
  | .earthquake => "earthquake"
  | .weather_warning => "weather_warning"

abbrev Severity := {n : Nat // 1 ≤ n ∧ n ≤ 4}

structure Env (G : Type) where
  float : String → Option PyFloat
  float_text : Json.FloatText FiniteFloat
  sha256 : String → String
  Point : FiniteFloat → FiniteFloat → G
  Polygon : List (PyFloat × PyFloat) → G
  shape : PyJson → Option G
  is_valid : G → Bool
  is_empty : G → Bool
  make_valid : G → G
  province : G → Option String

structure Row (G : Type) where
  source : Source
  hazard_type : HazardType
  external_id : String
  geom : G
  severity : Severity
  starts_at : Timestamptz
  ends_at : Option Timestamptz
  attrs : PyJson
  content_hash : String

def ROW_COLUMNS : Nat := 9

structure HazardEvent (G : Type) extends Row G where
  id : Nat
  province_code : Option String
  created_at : Timestamptz
  updated_at : Option Timestamptz
  xmin : Nat

def Row.key {G : Type} (r : Row G) : Source × String := (r.source, r.external_id)

def HazardEvent.key {G : Type} (e : HazardEvent G) : Source × String := e.toRow.key

structure SourceSyncState where
  source : Source
  last_run_at : Option Timestamptz
  last_success_at : Option Timestamptz
  cursor : PyJson
  last_error : Option String
  consecutive_failures : Nat

structure Db (G : Type) where
  hazard_events : List (HazardEvent G)
  source_sync_state : List SourceSyncState
  outbox_events : List OutboxEvent

def Db.empty (G : Type) : Db G := ⟨[], [], []⟩

structure Tx where
  xid : Nat
  now : Datetime
  clock : Timestamptz

def Tx.mark (tx : Tx) : Timestamptz := tx.now.instant

end GeoHazard
