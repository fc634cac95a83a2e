import GeoHazard.Hazards.Closings
import GeoHazard.Notifications.ReferenceGis

namespace GeoHazard
open MatchBatchUseCase Transition

variable {G : Type} {env : Env G} {gis : Gis G} {settings : MatchSettings}

-- the ingest and the notifications over one database, with the sync runs so far
structure AlertState (G : Type) where
  syncs : List SyncAction
  hazards : Db G
  notifications : NotificationsDb G

def AlertState.empty : AlertState G := ⟨[], Db.empty G, NotificationsDb.empty⟩

inductive AlertAction (G : Type) where
  | sync (a : SyncAction)
  | matched (source : Source) (batch_at now : Timestamptz)
  | edited (subscriptions : List Subscription) (watch_areas : List (WatchArea G))
  | removed (subscription : Subscription)
  | recorded (f : Delivery → Delivery)

def AlertStep (env : Env G) (gis : Gis G) (settings : MatchSettings) (s : AlertState G) :
    AlertAction G → AlertState G → Prop
  | .sync a, t => ∃ db, SyncStep env s.hazards a db ∧
      t = { s with syncs := s.syncs ++ [a], hazards := db }
  | .matched source batch_at now, t => ∃ db, MatchStep gis settings s.notifications
      (.matched source batch_at now s.hazards.hazard_events) db ∧ t = { s with notifications := db }
  | .edited subscriptions watch_areas, t => ∃ db, MatchStep gis settings s.notifications
      (.edited subscriptions watch_areas) db ∧ t = { s with notifications := db }
  | .removed r, t => ∃ db, MatchStep gis settings s.notifications (.removed r) db ∧
      t = { s with notifications := db }
  | .recorded f, t => ∃ db, MatchStep gis settings s.notifications (.recorded f) db ∧
      t = { s with notifications := db }

-- the closures of the AEMET rows that carry the mark took effect no later than the mark
def Timely (env : Env G) (s : AlertState G) (batch_at : Timestamptz) : Prop :=
  ∀ k x, ClosedAt env s.syncs s.hazards k x → ∀ e,
    Table.find HazardEvent.key k s.hazards.hazard_events = some e → e.source = .aemet →
    Selected batch_at e → x ≤ batch_at

def TimelyMatch (env : Env G) (s : AlertState G) : AlertAction G → Prop
  | .matched .aemet batch_at _ => Timely env s batch_at
  | _ => True

-- no delivery the match creates includes a warning or a burnt area that is closed
def NoClosedNotified (env : Env G) (gis : Gis G) (settings : MatchSettings) (s : AlertState G) :
    AlertAction G → Prop
  | .matched source batch_at now => source ≠ .ign → ∀ db created,
      execute_groups gis settings source batch_at now s.hazards.hazard_events s.notifications =
        .ok (db, created) →
      ∀ p ∈ created, ∀ m ∈ p.2.matches_, ∀ x,
        ¬ ClosedAt env s.syncs s.hazards (m.source, m.external_id) x
  | _ => True

theorem AlertStep.hazards {s t : AlertState G} {a : AlertAction G}
    (hs : AlertStep env gis settings s a t) (h : SyncRun env (Db.empty G) s.syncs s.hazards) :
    SyncRun env (Db.empty G) t.syncs t.hazards := by
  cases a with
  | sync a =>
      obtain ⟨db, hdb, rfl⟩ := hs
      exact .snoc h hdb
  | matched source batch_at now =>
      obtain ⟨db, _, rfl⟩ := hs
      exact h
  | edited subscriptions watch_areas =>
      obtain ⟨db, _, rfl⟩ := hs
      exact h
  | removed r =>
      obtain ⟨db, _, rfl⟩ := hs
      exact h
  | recorded f =>
      obtain ⟨db, _, rfl⟩ := hs
      exact h

theorem match_groups_created {batch_at now : Timestamptz}
    {opens : List ((Nat × String) × OpenEpisode)} {groups : Groups} {db : NotificationsDb G}
    {r : NotificationsDb G × Groups}
    (h : match_groups gis settings batch_at now opens groups db = .ok r) : r.2.Sublist groups := by
  induction groups generalizing db r with
  | nil => exact Except.ok.inj h ▸ List.Sublist.refl _
  | cons p groups ih =>
      obtain ⟨slot, g⟩ := p
      simp only [match_groups, bind, Except.bind] at h
      split at h
      · simp at h
      · next r₁ _ =>
          split at h
          · simp at h
          · next r₂ h₂ =>
              have hrest : r₂.2.Sublist groups := ih h₂
              obtain rfl := Except.ok.inj h
              dsimp only
              split
              · exact hrest.cons_cons _
              · exact hrest.cons _

theorem created_match {source : Source} {batch_at now : Timestamptz} {events : List (HazardEvent G)}
    {db db' : NotificationsDb G} {created : Groups}
    (h : execute_groups gis settings source batch_at now events db = .ok (db', created))
    {p : (Nat × String) × Group} (hp : p ∈ created) {m : Match} (hm : m ∈ p.2.matches_) :
    ∃ e ∈ events, e.key = (m.source, m.external_id) ∧ e.source = source ∧ Selected batch_at e ∧
      MatchingRepo.notifiable source batch_at settings.quake_max_age e = true := by
  have hmem := (match_groups_created (execute_groups_iff.mp h).2).subset hp
  have hok := @groups_of_ok _ gis settings source batch_at events db
  have hget := Dict.get_of_mem hok.1 hmem
  unfold groups_of at hget
  split at hget
  · have hms := mem_matches_of_group hget hm
    obtain ⟨s, _, area, _, e, he, hj, rfl⟩ := (MatchingRepo.mem_matches gis).mp hms
    simp only [MatchingRepo.joined, Bool.and_eq_true, decide_eq_true_eq] at hj
    exact ⟨e, he, rfl, hj.1.1.1.2, hj.1.1.2, hj.1.2⟩
  · simp at hget

theorem notifiable_aemet {batch_at x : Timestamptz} {quake_max_age : Nat} {e : HazardEvent G}
    (hx : e.ends_at = some x) :
    MatchingRepo.notifiable .aemet batch_at quake_max_age e = decide (batch_at < x) := by
  simp [MatchingRepo.notifiable, hx]

theorem notifiable_effis {batch_at x : Timestamptz} {quake_max_age : Nat} {e : HazardEvent G}
    (hx : e.ends_at = some x) :
    MatchingRepo.notifiable .effis batch_at quake_max_age e = false := by
  simp [MatchingRepo.notifiable, hx]

theorem timely_no_closed {s : AlertState G} {a : AlertAction G}
    (hr : SyncRun env (Db.empty G) s.syncs s.hazards) (ht : TimelyMatch env s a) :
    NoClosedNotified env gis settings s a := by
  cases a with
  | matched source batch_at now =>
      intro hsrc db created hx p hp m hm x hclosed
      obtain ⟨e, he, hkey, hes, hsel, hnot⟩ := created_match hx hp hm
      have hu := hr.unique unique_empty
      obtain ⟨o, ho, hox⟩ := hclosed.ends_at
      have hfind : Table.find HazardEvent.key (m.source, m.external_id)
          s.hazards.hazard_events = some e := (Table.find_unique hu).mpr ⟨he, hkey⟩
      obtain rfl := Option.some.inj (ho.symm.trans hfind)
      cases source with
      | aemet =>
          rw [notifiable_aemet hox, decide_eq_true_eq] at hnot
          exact absurd hnot (not_lt.mpr (ht _ x hclosed o ho hes hsel))
      | effis => simp [notifiable_effis hox] at hnot
      | ign => exact hsrc rfl
  | sync a => trivial
  | edited subscriptions watch_areas => trivial
  | removed r => trivial
  | recorded f => trivial

theorem timely_iff {s : AlertState G} {batch_at : Timestamptz} (quake_max_age : Nat) :
    Timely env s batch_at ↔ ∀ k x, ClosedAt env s.syncs s.hazards k x → ∀ e,
      Table.find HazardEvent.key k s.hazards.hazard_events = some e → e.source = .aemet →
      Selected batch_at e →
      MatchingRepo.notifiable .aemet batch_at quake_max_age e = false := by
  refine forall_congr' (fun k => forall_congr' (fun x => forall_congr' (fun hc =>
    forall_congr' (fun e => forall_congr' (fun he => forall_congr' (fun _ =>
      forall_congr' (fun _ => ?_)))))))
  obtain ⟨o, ho, hox⟩ := hc.ends_at
  obtain rfl := Option.some.inj (ho.symm.trans he)
  rw [notifiable_aemet hox, decide_eq_false_iff_not, not_lt]

theorem timely_run {as : List (AlertAction G)} {s : AlertState G}
    (hr : Run (Guarded (TimelyMatch env) (AlertStep env gis settings)) AlertState.empty as s) :
    Run (Guarded (NoClosedNotified env gis settings) (AlertStep env gis settings))
        AlertState.empty as s ∧
      SyncRun env (Db.empty G) s.syncs s.hazards := by
  induction hr with
  | nil => exact ⟨.nil _, .nil _⟩
  | snoc _ hs ih =>
      exact ⟨.snoc ih.1 ⟨timely_no_closed ih.2 hs.1, hs.2⟩, hs.2.hazards ih.2⟩

theorem closes_notifiable {db db' : Db G} {tx : Tx} {warnings : List AemetWarning}
    (hs : SyncStep env db (.committed tx (.aemet warnings)) db') {id : String} {x : Timestamptz}
    (hc : Closes env db (.committed tx (.aemet warnings)) db' (.aemet, id) x) :
    (x = tx.mark ∨ ∃ m ∈ warnings, SyncAemetUseCase.Supersedes m id ∧ x = m.sent.instant) ∧
    ∀ e, Table.find HazardEvent.key (.aemet, id) db'.hazard_events = some e → ∀ quake_max_age,
      (MatchingRepo.notifiable .aemet tx.mark quake_max_age e = false ↔ x ≤ tx.mark) := by
  refine ⟨hc.instant hs, fun e he quake_max_age => ?_⟩
  obtain ⟨o, ho, hox, _⟩ := hc
  obtain rfl := Option.some.inj (ho.symm.trans he)
  rw [notifiable_aemet hox, decide_eq_false_iff_not, not_lt]

theorem closed_event_never_notifies {as : List (AlertAction G)} {s : AlertState G}
    (hr : Run (Guarded (TimelyMatch env) (AlertStep env gis settings)) AlertState.empty as s) :
    Run (Guarded (NoClosedNotified env gis settings) (AlertStep env gis settings))
      AlertState.empty as s ∧
    (∀ batch_at quake_max_age, Timely env s batch_at ↔
      ∀ k x, ClosedAt env s.syncs s.hazards k x → ∀ e,
        Table.find HazardEvent.key k s.hazards.hazard_events = some e → e.source = .aemet →
        Selected batch_at e →
        MatchingRepo.notifiable .aemet batch_at quake_max_age e = false) ∧
    ∀ tx warnings db', SyncStep env s.hazards (.committed tx (.aemet warnings)) db' → ∀ id x,
      Closes env s.hazards (.committed tx (.aemet warnings)) db' (.aemet, id) x →
      (x = tx.mark ∨ ∃ m ∈ warnings, SyncAemetUseCase.Supersedes m id ∧ x = m.sent.instant) ∧
      ∀ e, Table.find HazardEvent.key (.aemet, id) db'.hazard_events = some e → ∀ quake_max_age,
        (MatchingRepo.notifiable .aemet tx.mark quake_max_age e = false ↔ x ≤ tx.mark) :=
  ⟨(timely_run hr).1, fun _ quake_max_age => timely_iff quake_max_age,
    fun _ _ _ hs _ _ hc => closes_notifiable hs hc⟩

-- A is ingested at 11:00 and has vanished at 12:00
def vanished : Db Ring := alerted.after (planar_env id) (ran_at 2 (july 2 12)) (.aemet [])

def to_vanished : List (AlertAction Ring) :=
  [.sync (.committed (ran_at 1 (july 2 11)) (.aemet alert_bulletin)),
    .sync (.committed (ran_at 2 (july 2 12)) (.aemet [])),
    .edited [subscription] [watched_area]]

def after_vanishing : AlertState Ring :=
  ⟨[.committed (ran_at 1 (july 2 11)) (.aemet alert_bulletin),
    .committed (ran_at 2 (july 2 12)) (.aemet [])], vanished, watching⟩

theorem vanished_step : SyncStep (planar_env id) alerted
    (.committed (ran_at 2 (july 2 12)) (.aemet [])) vanished := SyncStep.after (by decide +kernel)

theorem vanished_run : Run (Guarded (TimelyMatch (planar_env id))
    (AlertStep (planar_env id) planar_gis default_settings)) .empty to_vanished after_vanishing := by
  have h₁ : AlertStep (planar_env id) planar_gis default_settings .empty
      (.sync (.committed (ran_at 1 (july 2 11)) (.aemet alert_bulletin)))
      ⟨[.committed (ran_at 1 (july 2 11)) (.aemet alert_bulletin)], alerted, .empty⟩ :=
    ⟨_, alerted_step, rfl⟩
  have h₂ : AlertStep (planar_env id) planar_gis default_settings
      ⟨[.committed (ran_at 1 (july 2 11)) (.aemet alert_bulletin)], alerted, .empty⟩
      (.sync (.committed (ran_at 2 (july 2 12)) (.aemet [])))
      { after_vanishing with notifications := .empty } := ⟨_, vanished_step, rfl⟩
  have h₃ : AlertStep (planar_env id) planar_gis default_settings
      { after_vanishing with notifications := .empty } (.edited [subscription] [watched_area])
      after_vanishing := ⟨_, rfl, rfl⟩
  exact .cons ⟨trivial, h₁⟩ (.cons ⟨trivial, h₂⟩ (.one ⟨trivial, h₃⟩))

theorem vanished_timely : Timely (planar_env id) after_vanishing (july 2 12).instant := by
  intro k x hc e he _ _
  obtain ⟨o, ho, hox⟩ := hc.ends_at
  obtain rfl := Option.some.inj (ho.symm.trans he)
  have hall : ∀ e ∈ vanished.hazard_events, e.ends_at = some (july 2 12).instant := by
    decide +kernel
  exact (Option.some.inj (hox.symm.trans (hall o (Table.find_some_mem ho).1))).le

def matched_vanished : AlertState Ring :=
  ⟨after_vanishing.syncs, vanished,
    watching.matched .aemet (july 2 12).instant (july 2 12).instant vanished.hazard_events⟩

theorem matched_vanished_step : Guarded (TimelyMatch (planar_env id))
    (AlertStep (planar_env id) planar_gis default_settings) after_vanishing
    (.matched .aemet (july 2 12).instant (july 2 12).instant) matched_vanished :=
  ⟨vanished_timely, _, MatchStep.after (by decide +kernel), rfl⟩

theorem closed_event_never_notifies_vanished :
    Run (Guarded (NoClosedNotified (planar_env id) planar_gis default_settings)
      (AlertStep (planar_env id) planar_gis default_settings)) .empty
      (to_vanished ++ [.matched .aemet (july 2 12).instant (july 2 12).instant])
      matched_vanished :=
  (closed_event_never_notifies (.snoc vanished_run matched_vanished_step)).1

theorem vanished_closed : ClosedAt (planar_env id) after_vanishing.syncs vanished (.aemet, "A")
    (july 2 12).instant := by
  have hfound : (Table.find HazardEvent.key (.aemet, "A") vanished.hazard_events).map
      (fun e => e.ends_at) = some (some (july 2 12).instant) := by decide +kernel
  have hbefore : (Table.find HazardEvent.key (.aemet, "A")
      ((SyncAction.committed (ran_at 2 (july 2 12)) (.aemet [])).upserted (planar_env id)
        alerted)).map (fun e => e.ends_at) = some (some (july 3 10).instant) := by decide +kernel
  obtain ⟨e, he, hx⟩ := Option.map_eq_some_iff.mp hfound
  have hrun : SyncRun (planar_env id) (Db.empty Ring)
      [.committed (ran_at 1 (july 2 11)) (.aemet alert_bulletin)] alerted := .one alerted_step
  refine .closed hrun vanished_step ⟨e, he, hx, fun heq => ?_⟩
  rw [heq, Option.map_some, hx, Option.some.injEq, Option.some.injEq] at hbefore
  exact absurd hbefore (by decide)

-- the late match of the batch of 11:00 notifies A
theorem late_match_notifies_closed :
    ¬ ∀ (as : List (AlertAction Ring)) (s : AlertState Ring),
      Run (AlertStep (planar_env id) planar_gis default_settings) .empty as s →
      ∀ a, NoClosedNotified (planar_env id) planar_gis default_settings s a := by
  intro hall
  have hrun := vanished_run.mono (fun _ _ _ h => h.2)
  have hno := hall _ _ hrun (.matched .aemet (july 2 11).instant (july 2 12).instant)
  have hcreated : (execute_groups planar_gis default_settings .aemet (july 2 11).instant
      (july 2 12).instant vanished.hazard_events watching).map (fun r => r.2.map (fun p =>
        p.2.matches_.map (fun m => (m.source, m.external_id)))) = .ok [[(.aemet, "A")]] := by
    decide +kernel
  cases hx : execute_groups planar_gis default_settings .aemet (july 2 11).instant
      (july 2 12).instant vanished.hazard_events watching with
  | error error => simp [hx, Except.map] at hcreated
  | ok r =>
      simp only [hx, Except.map, Except.ok.injEq] at hcreated
      obtain ⟨p, hp, hms⟩ := List.mem_map.mp (hcreated ▸ List.mem_singleton.mpr rfl)
      obtain ⟨m, hm, hkey⟩ := List.mem_map.mp (hms ▸ List.mem_singleton.mpr rfl)
      exact hno (by decide) r.1 r.2 hx p hp m hm _ (hkey ▸ vanished_closed)

end GeoHazard
