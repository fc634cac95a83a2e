import GeoHazard.Notifications.DeliverOutcomes
import Mathlib.Order.Monotone.Basic

namespace GeoHazard

open DeliveryRepo DeliverNotificationsUseCase

variable {G : Type} {gis : Gis G} {settings : DeliverSettings} {lib : UrlLib} {messages : Messages}
  {degraded : List Source} {α : Type} [LinearOrder α] {deadline : α} {readings : Nat → α}
  {world : Nat → Turn} {claims : List ClaimedSubscription} {outcomes : List Outcome}

-- a turn reads the clock before its send
def timed (deadline : α) (readings : Nat → α) (world : Nat → Turn) (i : Nat) : Turn :=
  { world i with expired := decide (deadline ≤ readings i) }

structure RunResolved (gis : Gis G) (settings : DeliverSettings) (deadline : α) (readings : Nat → α)
    (claims : List ClaimedSubscription) (outcomes : List Outcome) : Prop where
  each : outcomes.map Outcome.claim = claims
  first : ∀ o : Outcome, outcomes[0]? = some o → o.skipped = false
  suffix : ∃ k : Nat, ∀ (i : Nat) (o : Outcome), outcomes[i]? = some o → (o.skipped = true ↔ k ≤ i)
  in_time : ∀ (i : Nat) (o : Outcome), outcomes[i]? = some o → i ≠ 0 → o.skipped = false →
    readings i < deadline
  counted : ∀ (now : Timestamptz) (db : NotificationsDb G) (r : NotificationsDb G × DeliveryReport),
    record gis settings now outcomes db = .ok r → r.2.sent + r.2.failed + r.2.skipped = claims.length

def Untouched (id : Nat) (db db' : NotificationsDb G) : Prop :=
  Table.find Subscription.id id db'.subscriptions = Table.find Subscription.id id db.subscriptions ∧
    db'.deliveries.filter (is_pending_of id) = db.deliveries.filter (is_pending_of id)

-- the row is as before, and the deliveries but for their count of attempts
def Returned (id : Nat) (db db' : NotificationsDb G) : Prop :=
  Table.find Subscription.id id db'.subscriptions = Table.find Subscription.id id db.subscriptions ∧
    db'.deliveries.filter (is_pending_of id) =
      (db.deliveries.filter (is_pending_of id)).map attempted

theorem attempted_timed {i : Nat} :
    Attempted (timed deadline readings world) i ↔ i = 0 ∨ readings i < deadline := by
  simp [Attempted, timed]

theorem send_timed (claim : ClaimedSubscription) (i : Nat) :
    send lib messages claim degraded (timed deadline readings world i) =
      send lib messages claim degraded (world i) := by
  cases hc : claim.channel with
  | ntfy => simp only [send, hc, HttpChannelSender.send_ntfy, HttpChannelSender.post, timed]
  | webhook => simp only [send, hc, HttpChannelSender.send_webhook, HttpChannelSender.post, timed]

theorem OutcomeOf.skipped_iff {i : Nat} {claim : ClaimedSubscription} {o : Outcome}
    (h : OutcomeOf lib messages degraded world i claim o) :
    o.skipped = true ↔ ¬ Attempted world i := by
  cases h with
  | skipped h => simp [h]
  | sent h => simp [h]
  | failed h => simp [h]

theorem report_counted {now : Timestamptz} {db : NotificationsDb G} {outcomes : List Outcome}
    {r : NotificationsDb G × DeliveryReport} (h : record gis settings now outcomes db = .ok r) :
    r.2.sent + r.2.failed + r.2.skipped = outcomes.length := by
  obtain ⟨-, rfl⟩ := record_iff.mp h
  clear h
  have hfold : ∀ p : NotificationsDb G × DeliveryReport,
      (outcomes.foldl (recorded_outcome gis settings now) p).2.sent +
        (outcomes.foldl (recorded_outcome gis settings now) p).2.failed +
        (outcomes.foldl (recorded_outcome gis settings now) p).2.skipped =
      p.2.sent + p.2.failed + p.2.skipped + outcomes.length := by
    induction outcomes with
    | nil => simp
    | cons o outcomes ih =>
        intro p
        have hone : (recorded_outcome gis settings now p o).2.sent +
            (recorded_outcome gis settings now p o).2.failed +
            (recorded_outcome gis settings now p o).2.skipped =
            p.2.sent + p.2.failed + p.2.skipped + 1 := by
          unfold recorded_outcome
          split
          · dsimp only
            omega
          · split <;> dsimp only <;> omega
        rw [List.foldl_cons, ih, hone, List.length_cons]
        omega
  simpa [recorded] using hfold (db, ⟨0, 0, 0, 0, 0, 0⟩)

theorem resolved_of_outcomes (hm : Monotone readings)
    (h : send_all lib messages degraded (timed deadline readings world) 0 claims = .ok outcomes) :
    RunResolved gis settings deadline readings claims outcomes := by
  obtain ⟨hmap, hall⟩ := send_all_outcomes h
  have hskip : ∀ i o, outcomes[i]? = some o →
      (o.skipped = true ↔ ¬ (i = 0 ∨ readings i < deadline)) := by
    intro i o hi
    have ho := hall i o hi
    rw [Nat.zero_add] at ho
    rw [ho.skipped_iff, attempted_timed]
  refine ⟨hmap, fun o ho => ?_, ?_, fun i o hi hne hs => ?_, fun now db r hr => ?_⟩
  · rw [← Bool.not_eq_true, hskip 0 o ho]
    simp
  · by_cases hlate : ∃ i, i ≠ 0 ∧ deadline ≤ readings i
    · refine ⟨Nat.find hlate, fun i o hi => ?_⟩
      rw [hskip i o hi, not_or, not_lt]
      constructor
      · exact Nat.find_min' hlate
      · intro hle
        obtain ⟨hne, hdue⟩ := Nat.find_spec hlate
        exact ⟨by omega, hdue.trans (hm hle)⟩
    · refine ⟨outcomes.length, fun i o hi => ?_⟩
      obtain ⟨hlt, _⟩ := List.getElem?_eq_some_iff.mp hi
      rw [hskip i o hi, not_or, not_lt]
      constructor
      · intro hdue
        exact absurd ⟨i, hdue⟩ hlate
      · intro hle
        omega
  · rw [← Bool.not_eq_true, hskip i o hi, not_not] at hs
    exact hs.resolve_left hne
  · rw [report_counted hr, ← hmap, List.length_map]

theorem outcomes_exist (h : ∀ i c e, claims[i]? = some c →
    send lib messages c degraded (world i) = .error e → e.caught) :
    ∃ outcomes, send_all lib messages degraded (timed deadline readings world) 0 claims =
      .ok outcomes := by
  refine send_all_returns_iff.mpr (fun i c hc _ e he => ?_)
  rw [Nat.zero_add, send_timed] at he
  exact h i c e hc he

section Frame

variable {now : Timestamptz} {min_interval limit : Nat} {db db' : NotificationsDb G}

theorem pending_attempted {ids : List Nat} {id : Nat} (hid : id ∈ ids) (ds : List Delivery) :
    (Table.update (fun d => decide (d.subscription_id ∈ ids) && d.status == .pending) attempted
        ds).filter (is_pending_of id) = (ds.filter (is_pending_of id)).map attempted := by
  simp only [Table.update, List.filter_map]
  have hsame : ds.filter (is_pending_of id ∘ fun d =>
      if decide (d.subscription_id ∈ ids) && d.status == .pending then attempted d else d) =
      ds.filter (is_pending_of id) := by
    refine List.filter_congr (fun d _ => ?_)
    simp only [Function.comp_apply]
    split <;> rfl
  rw [hsame]
  refine List.map_congr_left (fun d hd => ?_)
  have hp := (List.mem_filter.mp hd).2
  simp only [is_pending_of, Bool.and_eq_true, decide_eq_true_eq] at hp
  simp [hp.1, hid, hp.2]

theorem release_pending (h : DeliveryRepo.claim now min_interval limit db = .ok (db', claims))
    {c : ClaimedSubscription} (hc : c ∈ claims) :
    (release c.id c.previous_retry_at db').deliveries.filter (is_pending_of c.id) =
      (db.deliveries.filter (is_pending_of c.id)).map attempted := by
  obtain ⟨s, hs, _, _, hof⟩ := claim_source h hc
  have hid : c.id ∈ (claimed now min_interval limit db).map Subscription.id := by
    rw [(claim_of_row hof).1]
    exact List.mem_map_of_mem hs
  simp only [release, claim_deliveries h]
  exact pending_attempted hid db.deliveries

theorem returned_of_claim (hu : Table.Unique Subscription.id db.subscriptions)
    (h : DeliveryRepo.claim now min_interval limit db = .ok (db', claims))
    {c : ClaimedSubscription} (hc : c ∈ claims) :
    Returned c.id db (release c.id c.previous_retry_at db') := by
  refine ⟨?_, release_pending h hc⟩
  obtain ⟨s, hs, hmem, _, hof⟩ := claim_source h hc
  obtain ⟨hid, _, hprev⟩ := claim_of_row hof
  have hrow : Table.find Subscription.id c.id db.subscriptions = some s :=
    (Table.find_unique hu).mpr ⟨hmem, hid.symm⟩
  have hin : s.id ∈ (claimed now min_interval limit db).map Subscription.id :=
    List.mem_map_of_mem hs
  have hleased : Table.find Subscription.id c.id db'.subscriptions = some (leased now s) := by
    rw [(claim_rows h).1, Table.find_update (f := leased now) (fun _ _ => rfl), hrow]
    simp only [Option.map_some, decide_eq_true hin, if_true]
  simp only [release]
  rw [find_written (fun s => { s with retry_at := c.previous_retry_at }) (fun _ => rfl), hleased,
    hrow, Option.map_some, if_pos rfl, hprev]
  rfl

theorem not_untouched (h : DeliveryRepo.claim now min_interval limit db = .ok (db', claims))
    {c : ClaimedSubscription} (hc : c ∈ claims) :
    ¬ Untouched c.id db (release c.id c.previous_retry_at db') := by
  rintro ⟨_, hsame⟩
  rw [release_pending h hc] at hsame
  obtain ⟨s, _, _, hcan, hof⟩ := claim_source h hc
  simp only [claimable, Bool.and_eq_true, List.any_eq_true] at hcan
  obtain ⟨d, hd, hp⟩ := hcan.2
  have hmem : d ∈ db.deliveries.filter (is_pending_of c.id) :=
    List.mem_filter.mpr ⟨hd, by rwa [(claim_of_row hof).1]⟩
  cases hds : db.deliveries.filter (is_pending_of c.id) with
  | nil => simp [hds] at hmem
  | cons first rest =>
      rw [hds, List.map_cons, List.cons.injEq] at hsame
      have hcount := congrArg Delivery.attempts hsame.1
      simp [attempted] at hcount

end Frame

theorem run_resolves_claims (hm : Monotone readings) (h : ∀ i c e, claims[i]? = some c →
      send lib messages c degraded (world i) = .error e → e.caught) :
    ∃ outcomes, send_all lib messages degraded (timed deadline readings world) 0 claims =
        .ok outcomes ∧
      RunResolved gis settings deadline readings claims outcomes ∧
      ∀ (now : Timestamptz) (db db' : NotificationsDb G),
        Table.Unique Subscription.id db.subscriptions →
        claim settings now db = .ok (db', claims) →
        (∀ c ∈ claims, Returned c.id db (release c.id c.previous_retry_at db')) ∧
        ((∀ o ∈ outcomes, o.skipped = true →
            Untouched o.claim.id db (release o.claim.id o.claim.previous_retry_at db')) ↔
          ∀ i < claims.length, i = 0 ∨ readings i < deadline) := by
  obtain ⟨outcomes, hrun⟩ := @outcomes_exist lib messages degraded α _ deadline readings world
    claims h
  have hres : RunResolved gis settings deadline readings claims outcomes :=
    resolved_of_outcomes hm hrun
  refine ⟨outcomes, hrun, hres, fun now db db' hu hclaim =>
    ⟨fun c hc => returned_of_claim hu hclaim hc, ?_⟩⟩
  constructor
  · intro huntouched i hi
    obtain ⟨o, ho⟩ : ∃ o, outcomes[i]? = some o := by
      rw [← hres.each, List.length_map] at hi
      exact ⟨_, List.getElem?_eq_getElem hi⟩
    have hmem : o ∈ outcomes := List.mem_of_getElem? ho
    have hclaimed : o.claim ∈ claims := hres.each ▸ List.mem_map_of_mem hmem
    refine (Decidable.em (i = 0)).imp_right (fun hne => hres.in_time i o ho hne ?_)
    rw [← Bool.not_eq_true]
    exact fun hs => not_untouched hclaim hclaimed (huntouched o hmem hs)
  · intro hearly o ho hs
    obtain ⟨i, hi⟩ := List.getElem?_of_mem ho
    obtain ⟨hlt, _⟩ := List.getElem?_eq_some_iff.mp hi
    have hout := (send_all_outcomes hrun).2 i o hi
    rw [Nat.zero_add] at hout
    refine absurd (attempted_timed.mpr (hearly i ?_)) (hout.skipped_iff.mp hs)
    rw [← hres.each, List.length_map]
    exact hlt

-- two subscriptions of one area with a pending delivery each
def paired : NotificationsDb Ring :=
  (SubscriptionAdmin.add watched_area [.weather_warning] severity_one .ntfy "https://ntfy.sh"
    "second" enrolled).matched .aemet (july 2 11).instant (july 2 12).instant alerted.hazard_events

theorem paired_sends : ∀ i c e, (claims_of paired)[i]? = some c →
    send plain_urls plain_messages c [] (accepting i) = .error e → e.caught := by
  intro i c e hc he
  have htargets : (claims_of paired).map target = ["https://ntfy.sh/", "https://ntfy.sh/"] := by
    decide +kernel
  have ht := htargets ▸ List.mem_map_of_mem (f := target) (List.mem_of_getElem? hc)
  simp only [List.mem_cons, List.not_mem_nil, or_false, or_self] at ht
  have hpost : HttpChannelSender.post plain_urls "https://ntfy.sh/" (accepting i) = .ok () := rfl
  have htext : message plain_messages c [] (accepting i) = .ok "Aviso" := by
    cases hch : c.channel <;> simp only [message, hch, plain_messages]
  rw [send_eq, htext, ht] at he
  exact absurd (he.symm.trans hpost) (by simp)

theorem paired_claimed : ∃ db', claim default_deliver (july 2 12).instant paired =
    .ok (db', claims_of paired) :=
  claims_of_eq (by decide +kernel)

theorem run_resolves_claims_paired : ∃ db' outcomes,
    claim default_deliver (july 2 12).instant paired = .ok (db', claims_of paired) ∧
    send_all plain_urls plain_messages [] (timed 60 id accepting) 0 (claims_of paired) =
      .ok outcomes ∧
    RunResolved planar_gis default_deliver 60 id (claims_of paired) outcomes ∧
    (∀ c ∈ claims_of paired, Returned c.id paired (release c.id c.previous_retry_at db')) ∧
    ∀ o ∈ outcomes, o.skipped = true →
      Untouched o.claim.id paired (release o.claim.id o.claim.previous_retry_at db') := by
  have hids : paired.subscriptions.map Subscription.id = [1, 3] := by decide +kernel
  have hlength : (claims_of paired).length = 2 := by decide +kernel
  obtain ⟨db', hclaim⟩ := paired_claimed
  obtain ⟨outcomes, hrun, hres, hframe⟩ := @run_resolves_claims Ring planar_gis default_deliver
    plain_urls plain_messages [] Nat _ 60 id accepting (claims_of paired) monotone_id paired_sends
  obtain ⟨hreturned, huntouched⟩ := hframe _ paired db' (by simp [Table.Unique, hids]) hclaim
  refine ⟨db', outcomes, hclaim, hrun, hres, hreturned, huntouched.mpr (fun i hi => .inr ?_)⟩
  rw [hlength] at hi
  simp only [id]
  omega

-- a budget of zero seconds
theorem skipped_claim_counted : ∃ db' outcomes,
    claim default_deliver (july 2 12).instant paired = .ok (db', claims_of paired) ∧
    send_all plain_urls plain_messages [] (timed 0 id accepting) 0 (claims_of paired) =
      .ok outcomes ∧
    ∃ o ∈ outcomes, o.skipped = true ∧
      ¬ Untouched o.claim.id paired (release o.claim.id o.claim.previous_retry_at db') := by
  obtain ⟨db', hclaim⟩ := paired_claimed
  obtain ⟨outcomes, hrun⟩ := @outcomes_exist plain_urls plain_messages [] Nat _ 0 id accepting
    (claims_of paired) paired_sends
  have hskips : (send_all plain_urls plain_messages [] (timed 0 id accepting) 0
      (claims_of paired)).toOption.map (fun os => os.any Outcome.skipped) = some true := by
    decide +kernel
  rw [hrun] at hskips
  obtain ⟨o, ho, hs⟩ := List.any_eq_true.mp (Option.some.inj hskips)
  have hmem : o.claim ∈ claims_of paired :=
    (send_all_outcomes hrun).1 ▸ List.mem_map_of_mem ho
  exact ⟨db', outcomes, hclaim, hrun, o, ho, hs, not_untouched hclaim hmem⟩

end GeoHazard
