import GeoHazard.Core.PyFloat
import GeoHazard.Core.Datetime

namespace GeoHazard

inductive OutboxStatus where
  | PENDING | PROCESSED | FAILED
  deriving DecidableEq

inductive HandlerStatus where
  | ok | failed
  deriving DecidableEq

structure HandlerEntry where
  status : HandlerStatus
  at_ : String
  error : Option String
  deriving DecidableEq

structure OutboxEvent where
  id : Nat
  event_type : String
  payload : PyJson
  status : OutboxStatus
  retry_count : Nat
  max_retries : Nat
  scheduled_at : Timestamptz
  last_error : Option String
  created_at : Timestamptz
  processed_at : Option Timestamptz
  handler_state : List (String × HandlerEntry)

def OUTBOX_MAX_RETRIES : Nat := 8

def OutboxEvent.fresh (id : Nat) (event_type : String) (payload : PyJson) (max_retries : Nat)
    (now : Timestamptz) : OutboxEvent where
  id := id
  event_type := event_type
  payload := payload
  status := .PENDING
  retry_count := 0
  max_retries := max_retries
  scheduled_at := now
  last_error := none
  created_at := now
  processed_at := none
  handler_state := []

namespace EventBus

def publish (event_type : String) (payload : PyJson) (now : Timestamptz)
    (outbox : List OutboxEvent) : List OutboxEvent :=
  outbox ++ [.fresh outbox.length event_type payload OUTBOX_MAX_RETRIES now]

end EventBus

end GeoHazard
