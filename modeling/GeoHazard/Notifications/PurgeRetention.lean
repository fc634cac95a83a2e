import GeoHazard.Notifications.RetryState

namespace GeoHazard

open DeliveryRepo Transition

variable {G : Type}

-- coalesce(sent_at, created_at)
def Delivery.dated (d : Delivery) : Timestamptz := d.sent_at.getD d.created_at

structure PurgeOk (now : Timestamptz) (retention : Nat) (db : NotificationsDb G) : Prop where
  pending : ∀ d ∈ db.deliveries, d.status = .pending → d ∈ (purge now retention db).1.deliveries
  recent : ∀ d ∈ db.deliveries, d.status ≠ .pending → now - retention ≤ d.dated →
    d ∈ (purge now retention db).1.deliveries
  old : ∀ d ∈ db.deliveries, d.status ≠ .pending → d.dated < now - retention →
    d ∉ (purge now retention db).1.deliveries
  awaited : ∀ e ∈ db.episodes, (∃ d ∈ db.deliveries, d.episode_id = e.id ∧ d.status = .pending) →
    e ∈ (purge now retention db).1.episodes
  current : ∀ e ∈ db.episodes, e.expires_at ≠ none → ∀ (grace : Nat) (batch_at : Timestamptz),
    now - retention + grace ≤ batch_at → (∀ x, e.expires_at = some x → batch_at < x + grace) →
    e ∈ (purge now retention db).1.episodes

-- an episode that the purge takes has no delivery in the retention period
def NoneRecent (cutoff : Timestamptz) (db : NotificationsDb G) : Prop :=
  ∀ e ∈ db.episodes, outlived cutoff db.deliveries e = true →
    ∀ d ∈ db.deliveries, d.episode_id = e.id → d.dated < cutoff

theorem outlived_iff {cutoff : Timestamptz} {ds : List Delivery} {e : Episode} :
    outlived cutoff ds e = true ↔ e.closed_at.getD e.last_matched_at < cutoff ∧
      (∀ x, e.expires_at = some x → x < cutoff) ∧
      ∀ d ∈ ds, d.episode_id = e.id → d.status ≠ .pending := by
  cases hx : e.expires_at <;> simp [outlived, hx, and_assoc]

theorem mem_purge_episodes {now : Timestamptz} {retention : Nat} {db : NotificationsDb G}
    {e : Episode} : e ∈ (purge now retention db).1.episodes ↔
      e ∈ db.episodes ∧ outlived (now - retention) db.deliveries e = false := by
  simp only [purge, List.mem_filter, outlived_purged, Bool.not_eq_true']

theorem mem_purge_deliveries {now : Timestamptz} {retention : Nat} {db : NotificationsDb G}
    {d : Delivery} : d ∈ (purge now retention db).1.deliveries ↔
      d ∈ db.deliveries ∧ outdated (now - retention) d = false ∧
        ∀ e ∈ db.episodes, d.episode_id = e.id →
          outlived (now - retention) db.deliveries e = false := by
  simp only [purge, List.mem_filter, outlived_purged, Bool.not_eq_true', List.any_eq_false,
    decide_eq_true_eq, and_assoc]
  refine and_congr_right (fun _ => and_congr_right (fun _ => forall_congr' (fun e => ?_)))
  constructor
  · intro h he hid
    by_contra hout
    exact h ⟨he, eq_true_of_ne_false hout⟩ hid.symm
  · rintro h ⟨he, hout⟩ hid
    simp [h he hid.symm] at hout

theorem purge_retention (now : Timestamptz) (retention : Nat) (db : NotificationsDb G) :
    PurgeOk now retention db ↔ NoneRecent (now - retention) db := by
  constructor
  · intro h e he hout d hd hid
    by_contra hrecent
    have hdone : d.status ≠ .pending := (outlived_iff.mp hout).2.2 d hd hid
    have hkept := h.recent d hd hdone (not_lt.mp hrecent)
    simp [(mem_purge_deliveries.mp hkept).2.2 e he hid] at hout
  · intro h
    refine ⟨fun d hd hp => purge_pending hd hp, fun d hd hdone hrecent => ?_,
      fun d hd hdone hold hkept => ?_, fun e he hwait => ?_, fun e he hx grace batch_at hb hc => ?_⟩
    · refine mem_purge_deliveries.mpr ⟨hd, ?_, fun e he hid => ?_⟩
      · simp only [outdated, Bool.and_eq_false_iff, decide_eq_false_iff_not]
        exact .inr (not_lt.mpr hrecent)
      · by_contra hout
        exact absurd (h e he (eq_true_of_ne_false hout) d hd hid) (not_lt.mpr hrecent)
    · have hout : outdated (now - retention) d = true := by
        simp only [outdated, Bool.and_eq_true, bne_iff_ne, decide_eq_true_eq]
        exact ⟨hdone, hold⟩
      simp [(mem_purge_deliveries.mp hkept).2.1] at hout
    · obtain ⟨d, hd, hid, hp⟩ := hwait
      refine mem_purge_episodes.mpr ⟨he, ?_⟩
      by_contra hout
      exact (outlived_iff.mp (eq_true_of_ne_false hout)).2.2 d hd hid hp
    · refine mem_purge_episodes.mpr ⟨he, ?_⟩
      by_contra hout
      have hgone := (outlived_iff.mp (eq_true_of_ne_false hout)).2.1
      cases hexp : e.expires_at with
      | none => exact hx hexp
      | some x =>
          have hlt := hgone x hexp
          exact absurd ((hc x hexp).trans (Int.add_lt_add_right hlt grace)) (not_lt.mpr hb)

def accepted_claim (message_id : Nat) (s : DeliverState Ring) : DeliverState Ring :=
  match s.run with
  | some ⟨c :: rest, outcomes⟩ =>
      { s with
        run := some ⟨rest, outcomes ++ [⟨c, some message_id, none, false⟩]⟩
        accepted := s.accepted ++ [⟨message_id, c⟩] }
  | _ => s

theorem accepted_step {message_id : Nat} {s : DeliverState Ring}
    (h : s.run.elim false (fun run => !run.claims.isEmpty) = true) :
    DeliverStep planar_gis default_settings default_deliver s (.accepted message_id)
      (accepted_claim message_id s) := by
  obtain ⟨c, rest, outcomes, hrun⟩ := claim_left h
  exact ⟨c, ⟨rest, outcomes ++ [⟨c, some message_id, none, false⟩]⟩,
    ⟨rest, outcomes, hrun, rfl⟩, by simp [accepted_claim, hrun]⟩

-- the job is down until the alert is over, and tells it then
def late : DeliverState Ring := waiting.claimed (july 3 12).instant

def told : DeliverState Ring := (accepted_claim 7 late).recorded (july 3 13).instant

theorem told_run : Run (DeliverStep planar_gis default_settings default_deliver) .empty
    (((to_waiting ++ [.claimed (july 3 12).instant]) ++ [.accepted 7]) ++
      [.recorded (july 3 13).instant]) told := by
  have hclaimed : DeliverStep planar_gis default_settings default_deliver waiting
      (.claimed (july 3 12).instant) late := claimed_step rfl (by decide +kernel)
  have haccepted : DeliverStep planar_gis default_settings default_deliver late (.accepted 7)
      (accepted_claim 7 late) := accepted_step (by decide +kernel)
  have hrecorded : DeliverStep planar_gis default_settings default_deliver (accepted_claim 7 late)
      (.recorded (july 3 13).instant) told := recorded_step (by decide +kernel) (by decide +kernel)
  exact .snoc (.snoc (.snoc waiting_run hclaimed) haccepted) hrecorded

def almost : Timestamptz := (july 3 12).instant + default_deliver.retention

theorem cascade_takes_recent :
    ∃ as, Run (DeliverStep planar_gis default_settings default_deliver) .empty as told ∧
      ¬ PurgeOk almost default_deliver.retention told.db := by
  refine ⟨_, told_run, fun h => ?_⟩
  have hsent : ∃ d ∈ told.db.deliveries, d.status ≠ .pending ∧
      almost - default_deliver.retention ≤ d.dated := by decide +kernel
  have hgone : (purge almost default_deliver.retention told.db).1.deliveries.length = 0 := by
    decide +kernel
  obtain ⟨d, hd, hdone, hrecent⟩ := hsent
  have hkept := h.recent d hd hdone hrecent
  rw [List.length_eq_zero_iff.mp hgone] at hkept
  exact List.not_mem_nil hkept

end GeoHazard
