import GeoHazard.Library.Transition
import GeoHazard.Notifications.MatchSpec
import GeoHazard.Notifications.SubscriptionAdmin
import Mathlib.Data.List.Perm.Subperm

namespace GeoHazard
open MatchBatchUseCase Transition

variable {G : Type} {gis : Gis G} {settings : MatchSettings}

-- what delivery runs write of a delivery leaves alone
structure SameDelivery (d d' : Delivery) : Prop where
  id : d'.id = d.id
  subscription_id : d'.subscription_id = d.subscription_id
  episode_id : d'.episode_id = d.episode_id
  severity : d'.severity = d.severity
  reason : d'.reason = d.reason

-- one execute on whatever the ingest left in hazard_events, or what happens between two of them
inductive MatchAction (G : Type) where
  | matched (source : Source) (batch_at now : Timestamptz) (events : List (HazardEvent G))
  | edited (subscriptions : List Subscription) (watch_areas : List (WatchArea G))
  | removed (subscription : Subscription)
  | recorded (f : Delivery → Delivery)

def MatchStep (gis : Gis G) (settings : MatchSettings) (db : NotificationsDb G) :
    MatchAction G → NotificationsDb G → Prop
  | .matched source batch_at now events, db' =>
      ∃ created, execute gis settings source batch_at now events db = .ok (db', created)
  | .edited subscriptions watch_areas, db' =>
      db' = { db with subscriptions := subscriptions, watch_areas := watch_areas }
  | .removed s, db' => db' = SubscriptionAdmin.removed s db
  | .recorded f, db' =>
      (∀ d, SameDelivery d (f d)) ∧ db' = { db with deliveries := db.deliveries.map f }

def batch_marks : List (MatchAction G) → List Timestamptz :=
  List.filterMap fun a => match a with
    | .matched _ batch_at _ _ => some batch_at
    | _ => none

def NotificationsDb.empty : NotificationsDb G := ⟨[], [], [], [], 0⟩

theorem execute_ok {source : Source} {batch_at now : Timestamptz} {events : List (HazardEvent G)}
    {db db' : NotificationsDb G} {n : Nat}
    (h : execute gis settings source batch_at now events db = .ok (db', n)) :
    ∃ created, execute_groups gis settings source batch_at now events db = .ok (db', created) ∧
      n = created.length := by
  simp only [execute, bind, Except.bind] at h
  cases hg : execute_groups gis settings source batch_at now events db with
  | error error => simp [hg] at h
  | ok r =>
      simp only [hg, Except.ok.injEq, Prod.mk.injEq] at h
      exact ⟨r.2, by rw [← h.1], h.2.symm⟩

theorem execute_of_groups {source : Source} {batch_at now : Timestamptz}
    {events : List (HazardEvent G)} {db db' : NotificationsDb G} {created : Groups}
    (h : execute_groups gis settings source batch_at now events db = .ok (db', created)) :
    execute gis settings source batch_at now events db = .ok (db', created.length) := by
  simp [execute, h, bind, Except.bind]

theorem RatchetInv.empty {grace : Nat} : RatchetInv grace (NotificationsDb.empty (G := G)) :=
  ⟨List.nodup_nil, by simp [NotificationsDb.empty], by simp [NotificationsDb.empty],
    fun _ => List.Pairwise.nil, by simp [NotificationsDb.empty], by simp [NotificationsDb.empty]⟩

theorem Ratchet.map {n : Nat} {ds : List Delivery} {f : Delivery → Delivery} (h : Ratchet n ds)
    (hf : ∀ d, SameDelivery d (f d)) : Ratchet n (ds.map f) := by
  have hsev : (ds.map f).map Delivery.severity = ds.map Delivery.severity := by
    simp [(hf _).severity]
  have hreason : (ds.map f).map Delivery.reason = ds.map Delivery.reason := by
    simp [(hf _).reason]
  refine ⟨hsev ▸ h.increasing, ?_, hsev ▸ h.notified, fun d hd => ?_⟩
  · rw [hreason, h.reasons, List.length_map]
  · obtain ⟨o, ho, rfl⟩ := List.mem_map.mp hd
    exact (hf o).severity ▸ h.range o ho

theorem deliveries_of_map {f : Delivery → Delivery} (hf : ∀ d, SameDelivery d (f d)) (id : Nat)
    (ds : List Delivery) : deliveries_of id (ds.map f) = (deliveries_of id ds).map f := by
  rw [deliveries_of, deliveries_of, List.filter_map]
  congr 1
  apply List.filter_congr
  intro d _
  simp [(hf d).episode_id]

theorem RatchetInv.recorded {grace : Nat} {db : NotificationsDb G} (h : RatchetInv grace db)
    {f : Delivery → Delivery} (hf : ∀ d, SameDelivery d (f d)) :
    RatchetInv grace { db with deliveries := db.deliveries.map f } := by
  refine ⟨h.unique, h.fresh, fun d hd => ?_, h.order, h.alive, fun e he => ?_⟩
  · obtain ⟨o, ho, rfl⟩ := List.mem_map.mp hd
    exact (hf o).episode_id ▸ h.delivered o ho
  · have hok := h.episodes e he
    refine ⟨hok.key, hok.closed, hok.aemet, hok.expires, ?_, fun d hd => ?_⟩
    · rw [deliveries_of_map hf]
      exact hok.ratchet.map hf
    · rw [deliveries_of_map hf] at hd
      obtain ⟨o, ho, rfl⟩ := List.mem_map.mp hd
      exact (hf o).subscription_id.trans (hok.owner o ho)

theorem RatchetInv.removed {grace : Nat} {db : NotificationsDb G} (h : RatchetInv grace db)
    (s : Subscription) : RatchetInv grace (SubscriptionAdmin.removed s db) := by
  have hmem : ∀ e, e ∈ (SubscriptionAdmin.removed s db).episodes ↔
      e ∈ db.episodes ∧ e.subscription_id ≠ s.id := fun e => by
    simp [SubscriptionAdmin.removed]
  refine ⟨h.unique.sublist List.filter_sublist, fun e he => h.fresh e ((hmem e).mp he).1,
    fun d hd => h.delivered d (List.mem_filter.mp hd).1, fun slot => ?_, fun e he => ?_,
    fun e he => ?_⟩
  · exact (h.order slot).sublist (List.filter_sublist.filter _)
  · obtain ⟨hm, hne⟩ := (hmem e).mp he
    obtain ⟨o, ho, hos, hoo⟩ := h.alive e hm
    have hsub : o.subscription_id = e.subscription_id := congrArg Prod.fst hos
    exact ⟨o, (hmem o).mpr ⟨ho, hsub ▸ hne⟩, hos, hoo⟩
  · obtain ⟨hm, hne⟩ := (hmem e).mp he
    have hok := h.episodes e hm
    have hds : deliveries_of e.id (SubscriptionAdmin.removed s db).deliveries =
        deliveries_of e.id db.deliveries := by
      simp only [deliveries_of, SubscriptionAdmin.removed, List.filter_filter]
      apply List.filter_congr
      intro d hd
      by_cases hid : d.episode_id = e.id
      · have hsub := hok.owner d (List.mem_filter.mpr ⟨hd, decide_eq_true hid⟩)
        have hany : (db.episodes.filter (fun e => decide (e.subscription_id = s.id))).any
            (fun o => decide (o.id = d.episode_id)) = false := by
          rw [List.any_eq_false]
          intro o ho hoe
          obtain ⟨hom, hos⟩ := List.mem_filter.mp ho
          obtain rfl := Table.unique_eq h.unique hom hm ((of_decide_eq_true hoe).trans hid)
          exact hne (of_decide_eq_true hos)
        simp [hid, hsub, hne, hid ▸ hany]
      · simp [hid]
    exact ⟨hok.key, hok.closed, hok.aemet, hok.expires, hds ▸ hok.ratchet, hds ▸ hok.owner⟩

theorem MatchStep.inv {db db' : NotificationsDb G} {a : MatchAction G}
    (h : RatchetInv settings.grace db) (hs : MatchStep gis settings db a db') :
    RatchetInv settings.grace db' := by
  cases a with
  | matched source batch_at now events =>
      obtain ⟨n, hn⟩ := hs
      obtain ⟨created, hg, -⟩ := execute_ok hn
      exact (execute_groups_ok h hg).2.inv
  | edited subscriptions watch_areas =>
      exact hs ▸ ⟨h.unique, h.fresh, h.delivered, h.order, h.alive, h.episodes⟩
  | removed s => exact hs ▸ h.removed s
  | recorded f => exact hs.2 ▸ h.recorded hs.1

theorem MatchStep.marked {db db' : NotificationsDb G} {a : MatchAction G}
    (h : RatchetInv settings.grace db) (hs : MatchStep gis settings db a db') :
    ∀ e ∈ db'.episodes,
      e.opened_at ∈ batch_marks [a] ∨ e.opened_at ∈ db.episodes.map Episode.opened_at := by
  intro e he
  cases a with
  | matched source batch_at now events =>
      obtain ⟨n, hn⟩ := hs
      obtain ⟨created, hg, -⟩ := execute_ok hn
      exact ((execute_groups_ok h hg).2.marked e he).imp_left (by simp [batch_marks])
  | edited subscriptions watch_areas =>
      subst hs
      exact .inr (List.mem_map_of_mem he)
  | removed s =>
      subst hs
      exact .inr (List.mem_map_of_mem (List.mem_filter.mp he).1)
  | recorded f =>
      obtain ⟨-, rfl⟩ := hs
      exact .inr (List.mem_map_of_mem he)

theorem MatchRun.inv {as : List (MatchAction G)} {db : NotificationsDb G}
    (hr : Run (MatchStep gis settings) NotificationsDb.empty as db) :
    RatchetInv settings.grace db :=
  hr.invariant (I := RatchetInv settings.grace) (fun _ _ _ h hs => hs.inv h) RatchetInv.empty

theorem MatchRun.marked {as : List (MatchAction G)} {db : NotificationsDb G}
    (hr : Run (MatchStep gis settings) NotificationsDb.empty as db) :
    ∀ e ∈ db.episodes, e.opened_at ∈ batch_marks as := by
  have hboth := hr.history (I := fun as db => RatchetInv settings.grace db ∧
    ∀ e ∈ db.episodes, e.opened_at ∈ batch_marks as)
    (fun as db a db' h hs => ⟨hs.inv h.1, fun e he => ?_⟩)
    ⟨RatchetInv.empty, by simp [NotificationsDb.empty]⟩
  · exact hboth.2
  · rw [batch_marks, List.filterMap_append]
    rcases hs.marked h.1 e he with hm | hm
    · exact List.mem_append_right _ hm
    · obtain ⟨o, ho, hoe⟩ := List.mem_map.mp hm
      exact List.mem_append_left _ (hoe ▸ h.2 o ho)

theorem Ratchet.length_le {n : Nat} {ds : List Delivery} (h : Ratchet n ds) : ds.length ≤ 4 := by
  have hnodup : (ds.map Delivery.severity).Nodup := h.increasing.imp Nat.ne_of_lt
  have hsub : ds.map Delivery.severity ⊆ [1, 2, 3, 4] := by
    intro x hx
    obtain ⟨d, hd, rfl⟩ := List.mem_map.mp hx
    have := h.range d hd
    simp only [List.mem_cons, List.not_mem_nil, or_false]
    omega
  simpa using (List.subperm_of_subset hnodup hsub).length_le

theorem RatchetInv.open_length_le {grace : Nat} {db : NotificationsDb G} (h : RatchetInv grace db)
    (slot : Nat × String) :
    ((episodes_of slot db.episodes).filter (fun e => e.closed_at.isNone)).length ≤ 1 := by
  have hp := (h.order slot).sublist
    (List.filter_sublist (p := fun e : Episode => e.closed_at.isNone))
  cases ho : (episodes_of slot db.episodes).filter (fun e => e.closed_at.isNone) with
  | nil => simp
  | cons a rest =>
      cases rest with
      | nil => simp
      | cons b rest =>
          have ha : a ∈ (episodes_of slot db.episodes).filter (fun e => e.closed_at.isNone) := by
            simp [ho]
          rw [ho] at hp
          have hab : Before grace a b := List.rel_of_pairwise_cons hp (by simp)
          exact absurd (Option.isNone_iff_eq_none.mp (List.mem_filter.mp ha).2) hab.closed

end GeoHazard
