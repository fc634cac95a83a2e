import GeoHazard.Hazards.BulletinOrder
import GeoHazard.Hazards.StoredVertices

namespace GeoHazard

open HazardEventRepo

variable {G : Type} {env : Env G} {tx : Tx}

namespace SyncAemetUseCase

variable {db db' : Db G} {result : SyncResult} {warnings : List AemetWarning}

-- what the tables take: the identifiers of the rows, and those that each closing UPDATE names
structure Accepted (states : List SourceSyncState) (warnings : List AemetWarning) : Prop where
  stored : ∀ w ∈ warnings, is_ingestible w = true → storable_id w.external_id = true
  closes : Closes states warnings

end SyncAemetUseCase

open SyncAemetUseCase

def alert_warning (polygon : String) : AemetWarning where
  external_id := "A"
  msg_type := "Alert"
  sent := july 2 10
  references := []
  event := none
  phenomenon := none
  level := some "amarillo"
  onset := some (july 2 10)
  expires := some (july 3 10)
  polygon := some polygon
  zone := none
  area_desc := none
  attrs := []

theorem square_parsed : AemetParser.parse_cap feed_lib (cap_alert square_ring) =
    .ok (alert_warning square_ring) := rfl

end GeoHazard
