import GeoHazard.Notifications.ReferenceGis

namespace GeoHazard
open MatchBatchUseCase Transition

variable {G : Type} {gis : Gis G} {settings : MatchSettings}

structure Ratcheted (notified_severity : Nat) (ds : List Delivery) : Prop where
  distinct : (ds.map Delivery.severity).Nodup
  opened : ∃ d rest, ds = d :: rest ∧ d.reason = .opened ∧
    ∀ d' ∈ rest, d'.reason = .escalated ∧ d.severity < d'.severity
  notified : (∃ d ∈ ds, d.severity = notified_severity) ∧ ∀ d ∈ ds, d.severity ≤ notified_severity
  few : ds.length ≤ 4

theorem Ratchet.ratcheted {n : Nat} {ds : List Delivery} (h : Ratchet n ds) : Ratcheted n ds where
  distinct := h.increasing.imp Nat.ne_of_lt
  opened := by
    obtain ⟨d, rest, rfl⟩ := List.exists_cons_of_ne_nil h.ne_nil
    have hreasons := h.reasons
    simp only [List.map_cons, List.length_cons, Nat.add_sub_cancel, List.cons.injEq] at hreasons
    refine ⟨d, rest, rfl, hreasons.1, fun d' hd' => ⟨?_, ?_⟩⟩
    · have hm : d'.reason ∈ rest.map Delivery.reason := List.mem_map_of_mem hd'
      rw [hreasons.2] at hm
      exact List.eq_of_mem_replicate hm
    · exact List.rel_of_pairwise_cons h.increasing (List.mem_map_of_mem hd')
  notified := by
    refine ⟨?_, fun d hd => h.le_notified hd⟩
    obtain ⟨d, hd, hn⟩ := List.mem_map.mp (List.mem_of_getLast? h.notified)
    exact ⟨d, hd, hn⟩
  few := h.length_le

structure SlotOk (grace : Nat) (marks : List Timestamptz) (slot : Nat × String)
    (db : NotificationsDb G) : Prop where
  one_open : ((episodes_of slot db.episodes).filter (fun e => e.closed_at.isNone)).length ≤ 1
  closed : ∀ e ∈ episodes_of slot db.episodes, ∀ c, e.closed_at = some c → e.opened_at < c
  disjoint : (episodes_of slot db.episodes).Pairwise (fun a b =>
    ∃ c x : Timestamptz, a.closed_at = some c ∧ c ≤ b.opened_at ∧ a.expires_at = some x ∧
      x + grace ≤ b.opened_at)
  marked : ∀ e ∈ episodes_of slot db.episodes, e.opened_at ∈ marks
  ratcheted : ∀ e ∈ episodes_of slot db.episodes,
    Ratcheted e.notified_severity (deliveries_of e.id db.deliveries)

-- one more execute: the deliveries it counts are all the groups that open or escalate
structure ExecuteOk (gis : Gis G) (settings : MatchSettings) (source : Source)
    (batch_at : Timestamptz) (events : List (HazardEvent G)) (db db' : NotificationsDb G)
    (created : Nat) : Prop where
  created : created = ((groups_of gis settings source batch_at events db).filter (fun p => decide
    (decide_action (Dict.get p.1 (EpisodeRepo.open_rows
      (Dict.keys (groups_of gis settings source batch_at events db)) db)) p.2.severity batch_at
      settings.grace ≠ .ok .TOUCH))).length
  notified : ∀ slot g, (slot, g) ∈ groups_of gis settings source batch_at events db →
    ∃ e ∈ episodes_of slot db'.episodes, e.closed_at = none ∧ g.severity ≤ e.notified_severity
  again : ∀ now r, execute gis settings source batch_at now events db' = .ok r → r = (db', 0)

theorem RatchetInv.slotOk {grace : Nat} {marks : List Timestamptz} {db : NotificationsDb G}
    (h : RatchetInv grace db) (hm : ∀ e ∈ db.episodes, e.opened_at ∈ marks) (slot : Nat × String) :
    SlotOk grace marks slot db where
  one_open := h.open_length_le slot
  closed e he := (h.episodes e (mem_episodes_of.mp he).1).closed
  disjoint := h.order slot
  marked e he := hm e (mem_episodes_of.mp he).1
  ratcheted e he := (h.episodes e (mem_episodes_of.mp he).1).ratchet.ratcheted

theorem RatchetInv.executeOk {source : Source} {batch_at now : Timestamptz}
    {events : List (HazardEvent G)} {db db' : NotificationsDb G} {n : Nat}
    (h : RatchetInv settings.grace db)
    (heq : execute gis settings source batch_at now events db = .ok (db', n)) :
    ExecuteOk gis settings source batch_at events db db' n := by
  obtain ⟨created, hg, rfl⟩ := execute_ok heq
  have hx := (execute_groups_ok h hg).2
  refine ⟨congrArg List.length hx.created, fun slot g hm => ?_, fun now' r hr => ?_⟩
  · obtain ⟨e, he, hopen, hsev, -, -⟩ := hx.covered slot g hm
    exact ⟨e, he, hopen, hsev⟩
  · obtain ⟨created', hg', hr'⟩ := execute_ok hr
    obtain ⟨hdb, rfl⟩ := Prod.mk.inj (execute_groups_again hx hg')
    exact Prod.ext hdb hr'

theorem RatchetInv.execute_returns {source : Source} {batch_at now : Timestamptz}
    {events : List (HazardEvent G)} {db : NotificationsDb G} (h : RatchetInv settings.grace db) :
    (∃ db' n, execute gis settings source batch_at now events db = .ok (db', n)) ↔
      Executable settings.grace (groups_of gis settings source batch_at events db) db := by
  constructor
  · rintro ⟨db', n, heq⟩
    obtain ⟨created, hg, -⟩ := execute_ok heq
    exact (execute_groups_ok h hg).1
  · intro hx
    obtain ⟨db', created, hg, -⟩ := execute_groups_spec source batch_at now events h hx
    exact ⟨db', created.length, execute_of_groups hg⟩

theorem episode_ratchet {as : List (MatchAction G)} {db : NotificationsDb G}
    (hr : Run (MatchStep gis settings) NotificationsDb.empty as db) :
    (∀ slot, SlotOk settings.grace (batch_marks as) slot db) ∧
    ∀ source batch_at now events,
      ((∃ db' n, execute gis settings source batch_at now events db = .ok (db', n)) ↔
        Executable settings.grace (groups_of gis settings source batch_at events db) db) ∧
      ∀ db' n, execute gis settings source batch_at now events db = .ok (db', n) →
        ExecuteOk gis settings source batch_at events db db' n := by
  have h := MatchRun.inv hr
  refine ⟨h.slotOk (MatchRun.marked hr), fun source batch_at now events =>
    ⟨h.execute_returns, fun db' n heq => h.executeOk heq⟩⟩

theorem episode_ratchet_notified :
    notified.episodes.length = 1 ∧ notified.deliveries.length = 1 ∧
    ∀ slot, SlotOk 10800000000 [(july 2 11).instant] slot notified :=
  ⟨by decide +kernel, by decide +kernel, fun slot => (@episode_ratchet _ planar_gis default_settings
    [.edited [subscription] [watched_area],
      .matched .aemet (july 2 11).instant (july 2 12).instant alerted.hazard_events]
    _ (.cons rfl (.one notified_step))).1 slot⟩

end GeoHazard
