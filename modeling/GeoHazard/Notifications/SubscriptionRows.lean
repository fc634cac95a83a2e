import GeoHazard.Notifications.RowLinks

namespace GeoHazard
open Transition SubscriptionRepo

variable {G : Type} {gis : Gis G} {settings : MatchSettings} {deliver : DeliverSettings}
  {db : NotificationsDb G} {s : DeliverState G} {r : Subscription}

theorem RowLinks.find_area (h : RowLinks db) (hr : r ∈ db.subscriptions) :
    ∃ area ∈ db.watch_areas, area.id = r.watch_area_id ∧
      Table.find WatchArea.id r.watch_area_id db.watch_areas = some area := by
  have hmem : r.watch_area_id ∈ db.watch_areas.map WatchArea.id :=
    h.area_of ▸ List.mem_map_of_mem hr
  obtain ⟨area, harea, hid⟩ := List.mem_map.mp hmem
  exact ⟨area, harea, hid, (Table.find_unique h.areas).mpr ⟨harea, hid⟩⟩

theorem RowLinks.area_labels (h : RowLinks db) (hr : r ∈ db.subscriptions) :
    ∃ area ∈ db.watch_areas, area.id = r.watch_area_id ∧
      SubscriptionRepo.area_labels r db = [area.label] := by
  obtain ⟨area, harea, hid, hfind⟩ := h.find_area hr
  refine ⟨area, harea, hid, ?_⟩
  rw [SubscriptionRepo.area_labels, Table.filter_unique h.areas, hfind]
  rfl

theorem RowLinks.claims (h : RowLinks db) (now : Timestamptz) :
    ∃ p, DeliverNotificationsUseCase.claim deliver now db = .ok p := by
  have hall : ∀ r ∈ DeliveryRepo.claimed now deliver.min_interval MAX_SUBSCRIPTIONS_PER_RUN db,
      ∃ c, DeliveryRepo.claim_of db r = .ok c := by
    intro r hr
    obtain ⟨area, _, _, hfind⟩ := h.find_area (DeliveryRepo.mem_claimed hr).1
    unfold DeliveryRepo.claim_of
    rw [hfind]
    exact ⟨_, rfl⟩
  obtain ⟨claims, hc⟩ := collect_exists hall
  exact ⟨_, bind_ok.mpr ⟨claims, hc, rfl⟩⟩

def ListedWith (db : NotificationsDb G) (row : SubscriptionRow) (r : Subscription) : Prop :=
  row.subscription = r ∧ row.pending = SubscriptionRepo.pending r db ∧
    ∃ area ∈ db.watch_areas, area.id = r.watch_area_id ∧ row.area_label = area.label

theorem RowLinks.listed (h : RowLinks db) :
    List.Forall₂ (ListedWith db) (list_with_areas db) db.subscriptions := by
  have hrows : ∀ rs : List Subscription, (∀ r ∈ rs, r ∈ db.subscriptions) →
      List.Forall₂ (ListedWith db) (rs.flatMap (fun s => (SubscriptionRepo.area_labels s db).map
        (fun label => ⟨s, label, pending s db⟩))) rs := by
    intro rs hrs
    induction rs with
    | nil => exact .nil
    | cons r rs ih =>
        obtain ⟨area, harea, hid, hlabels⟩ := h.area_labels (hrs r (by simp))
        rw [List.flatMap_cons, hlabels]
        exact .cons ⟨rfl, rfl, area, harea, hid, rfl⟩ (ih (fun r hr => hrs r (by simp [hr])))
  exact hrows db.subscriptions (fun _ hr => hr)

theorem RowLinks.sum_pending (h : RowLinks db) :
    ((list_with_areas db).map SubscriptionRow.pending).sum =
      db.deliveries.countP (fun d => d.status == .pending) := by
  have hrows : ∀ {rows : List SubscriptionRow} {rs : List Subscription},
      List.Forall₂ (ListedWith db) rows rs →
        rows.map SubscriptionRow.pending = rs.map (fun r => SubscriptionRepo.pending r db) := by
    intro rows rs hf
    induction hf with
    | nil => rfl
    | cons hrow _ ih => rw [List.map_cons, List.map_cons, hrow.2.1, ih]
  rw [hrows h.listed]
  exact Table.sum_countP h.subscriptions (fun d hd => by
    obtain ⟨e, he, -, hes⟩ := h.homed d hd
    obtain ⟨r, hr, hid⟩ := h.subscribed e he
    exact ⟨r, hr, hid.trans hes⟩)

structure ReferencesHold (deliver : DeliverSettings) (db : NotificationsDb G) : Prop where
  linked : RowLinks db
  claims : ∀ now, ∃ p, DeliverNotificationsUseCase.claim deliver now db = .ok p
  listed : List.Forall₂ (ListedWith db) (list_with_areas db) db.subscriptions
  pending : ((list_with_areas db).map SubscriptionRow.pending).sum =
    db.deliveries.countP (fun d => d.status == .pending)
  removed : ∀ id db', SubscriptionAdmin.remove id db = .ok db' →
    ∃ r ∈ db.subscriptions, r.id = id ∧ RemovedOnly r db db'

theorem references_hold {as : List (DeliverAction G)}
    (hr : Run (DeliverStep gis settings deliver) DeliverState.empty as s) :
    ReferencesHold deliver s.db where
  linked := DeliverRuns.linked hr
  claims := (DeliverRuns.linked hr).claims
  listed := (DeliverRuns.linked hr).listed
  pending := (DeliverRuns.linked hr).sum_pending
  removed id db' h := by
    obtain ⟨r, hget, heq⟩ := bind_ok.mp h
    obtain ⟨hmem, hid⟩ := get_ok hget
    exact ⟨r, hmem, hid, Except.ok.inj heq ▸ (DeliverRuns.linked hr).removed_only hmem⟩

theorem references_hold_waiting : ReferencesHold default_deliver waiting.db :=
  references_hold waiting_run

end GeoHazard
