import GeoHazard.Notifications.DeliveryRepo

namespace GeoHazard

-- intervals in microseconds; the settings are in seconds and days
structure DeliverSettings where
  min_interval : Nat
  pause_after : Nat
  retention : Nat

def MAX_SUBSCRIPTIONS_PER_RUN : Nat := 50

structure DeliveryReport where
  sent : Nat
  failed : Nat
  paused : Nat
  skipped : Nat
  purged_deliveries : Nat
  purged_episodes : Nat

structure Outcome where
  claim : ClaimedSubscription
  message_id : Option Nat
  error : Option String
  skipped : Bool

namespace DeliverNotificationsUseCase

variable {G : Type} (gis : Gis G) (settings : DeliverSettings)

def claim (now : Timestamptz) (db : NotificationsDb G) :
    Except PyError (NotificationsDb G × List ClaimedSubscription) :=
  DeliveryRepo.claim now settings.min_interval MAX_SUBSCRIPTIONS_PER_RUN db

def error_text (o : Outcome) : String :=
  match o.error with
  | none => "unknown error"
  | some e => if e = "" then "unknown error" else e

def record_outcome (now : Timestamptz) (p : NotificationsDb G × DeliveryReport) (o : Outcome) :
    Except PyError (NotificationsDb G × DeliveryReport) :=
  if o.skipped then
    .ok (DeliveryRepo.release o.claim.id o.claim.previous_retry_at p.1,
      { p.2 with skipped := p.2.skipped + 1 })
  else
    match o.message_id with
    | some message_id => do
        let db ← DeliveryRepo.mark_sent o.claim.id o.claim.delivery_ids message_id now p.1
        .ok (db, { p.2 with sent := p.2.sent + 1 })
    | none =>
        let r := DeliveryRepo.mark_failed gis o.claim.id (error_text o) now settings.pause_after p.1
        .ok (r.1,
          { p.2 with failed := p.2.failed + 1, paused := p.2.paused + if r.2 then 1 else 0 })

def record (now : Timestamptz) (outcomes : List Outcome) (db : NotificationsDb G) :
    Except PyError (NotificationsDb G × DeliveryReport) :=
  outcomes.foldlM (record_outcome gis settings now) (db, ⟨0, 0, 0, 0, 0, 0⟩)

-- the third transaction
def finish (now : Timestamptz) (outcomes : List Outcome) (db : NotificationsDb G) :
    Except PyError (NotificationsDb G × DeliveryReport) := do
  let r ← record gis settings now outcomes db
  let p := DeliveryRepo.purge now settings.retention r.1
  .ok (p.1, { r.2 with purged_deliveries := p.2.1, purged_episodes := p.2.2 })

-- what the record transaction writes when no statement of it is refused
def recorded_outcome (now : Timestamptz) (p : NotificationsDb G × DeliveryReport) (o : Outcome) :
    NotificationsDb G × DeliveryReport :=
  if o.skipped then
    (DeliveryRepo.release o.claim.id o.claim.previous_retry_at p.1,
      { p.2 with skipped := p.2.skipped + 1 })
  else
    match o.message_id with
    | some message_id =>
        (DeliveryRepo.marked_sent o.claim.id o.claim.delivery_ids message_id now p.1,
          { p.2 with sent := p.2.sent + 1 })
    | none =>
        let r := DeliveryRepo.mark_failed gis o.claim.id (error_text o) now settings.pause_after p.1
        (r.1, { p.2 with failed := p.2.failed + 1, paused := p.2.paused + if r.2 then 1 else 0 })

def recorded (now : Timestamptz) (outcomes : List Outcome) (db : NotificationsDb G) :
    NotificationsDb G × DeliveryReport :=
  outcomes.foldl (recorded_outcome gis settings now) (db, ⟨0, 0, 0, 0, 0, 0⟩)

def finished (now : Timestamptz) (outcomes : List Outcome) (db : NotificationsDb G) :
    NotificationsDb G × DeliveryReport :=
  let r := recorded gis settings now outcomes db
  let p := DeliveryRepo.purge now settings.retention r.1
  (p.1, { r.2 with purged_deliveries := p.2.1, purged_episodes := p.2.2 })

-- the arguments of its UPDATE fit
def Binds (o : Outcome) : Prop :=
  o.skipped = false → o.message_id ≠ none → o.claim.deliveries.length + 3 ≤ 32767

variable {gis settings} {now : Timestamptz} {outcomes : List Outcome} {db : NotificationsDb G}
  {p r : NotificationsDb G × DeliveryReport}

theorem record_outcome_iff {o : Outcome} : record_outcome gis settings now p o = .ok r ↔
    Binds o ∧ r = recorded_outcome gis settings now p o := by
  unfold record_outcome recorded_outcome Binds
  cases hs : o.skipped with
  | true => simp [@eq_comm _ r]
  | false =>
      cases hm : o.message_id with
      | none => simp [@eq_comm _ r]
      | some message_id =>
          simp only [Bool.false_eq_true, if_false, bind_ok, DeliveryRepo.mark_sent_iff,
            ClaimedSubscription.delivery_ids, List.length_map, Except.ok.injEq, ne_eq, reduceCtorEq,
            not_false_eq_true, forall_const]
          constructor
          · rintro ⟨_, ⟨hn, rfl⟩, rfl⟩
            exact ⟨hn, rfl⟩
          · rintro ⟨hn, rfl⟩
            exact ⟨_, ⟨hn, rfl⟩, rfl⟩

theorem record_iff : record gis settings now outcomes db = .ok r ↔
    (∀ o ∈ outcomes, Binds o) ∧ r = recorded gis settings now outcomes db := by
  have hfold : ∀ p, outcomes.foldlM (record_outcome gis settings now) p = .ok r ↔
      (∀ o ∈ outcomes, Binds o) ∧ r = outcomes.foldl (recorded_outcome gis settings now) p := by
    induction outcomes with
    | nil => simp [pure, Except.pure, @eq_comm _ r]
    | cons o outcomes ih =>
        intro p
        simp only [List.foldlM_cons, bind_ok, record_outcome_iff, List.forall_mem_cons, List.foldl_cons]
        constructor
        · rintro ⟨_, ⟨ho, rfl⟩, hrest⟩
          obtain ⟨hall, hr⟩ := (ih _).mp hrest
          exact ⟨⟨ho, hall⟩, hr⟩
        · rintro ⟨⟨ho, hall⟩, hr⟩
          exact ⟨_, ⟨ho, rfl⟩, (ih _).mpr ⟨hall, hr⟩⟩
  exact hfold _

theorem finish_iff : finish gis settings now outcomes db = .ok r ↔
    (∀ o ∈ outcomes, Binds o) ∧ r = finished gis settings now outcomes db := by
  simp only [finish, bind_ok, record_iff, Except.ok.injEq]
  constructor
  · rintro ⟨_, ⟨hall, rfl⟩, rfl⟩
    exact ⟨hall, rfl⟩
  · rintro ⟨hall, rfl⟩
    exact ⟨_, ⟨hall, rfl⟩, rfl⟩

end DeliverNotificationsUseCase

end GeoHazard
