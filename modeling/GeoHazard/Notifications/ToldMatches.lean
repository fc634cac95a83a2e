import GeoHazard.Library.OrderBy
import GeoHazard.Notifications.PurgeRetention
import GeoHazard.Notifications.SubscriptionRows
import GeoHazard.Notifications.DeliveryOrigin

namespace GeoHazard
open Transition MatchBatchUseCase

variable {G : Type} {gis : Gis G} {settings : MatchSettings} {deliver : DeliverSettings}
  {db : NotificationsDb G} {s t : DeliverState G} {as after : List (DeliverAction G)}
  {a : DeliverAction G} {r : Subscription} {area : WatchArea G} {source : Source}
  {batch_at : Timestamptz} {events : List (HazardEvent G)} {c : ClaimedSubscription}

-- what the subscription asks for, its status apart
def Wanted (gis : Gis G) (settings : MatchSettings) (source : Source) (batch_at : Timestamptz)
    (r : Subscription) (area : WatchArea G) (e : HazardEvent G) : Bool :=
  r.hazard_types.contains e.hazard_type && decide (r.severity_min ≤ e.severity) &&
    decide (e.source = source) && decide (Selected batch_at e) &&
    MatchingRepo.notifiable source batch_at settings.quake_max_age e &&
    MatchingRepo.area_contains gis area e

def in_slot (gis : Gis G) (slot : Nat × String) (m : Match) : Bool := decide (slot_of gis m = slot)

-- the matches of one batch that make up a delivery of the subscription
structure Tells (gis : Gis G) (settings : MatchSettings) (source : Source) (batch_at : Timestamptz)
    (events : List (HazardEvent G)) (r : Subscription) (area : WatchArea G) (key : String)
    (ms : List Match) (d : PendingDelivery) : Prop where
  nonempty : ms ≠ []
  matches_ : ms.Perm (((events.filter (Wanted gis settings source batch_at r area)).map
    (MatchingRepo.to_match gis r)).filter (in_slot gis (r.id, key)))
  urgent : ms.Pairwise (fun m m' => m'.severity < m.severity ∨
    (m.severity = m'.severity ∧ m.starts_at ≤ m'.starts_at))
  items : d.items = (ms.take MAX_ITEMS_PER_DELIVERY).map (feature gis)
  item_count : d.item_count = ms.length
  severity : d.severity = GroupBy.maximum (fun m => m.severity.val) ms

theorem matches_by : OrderBy.By MatchingRepo.before
    (fun m => toLex (m.subscription_id, toLex (OrderDual.toDual m.severity, m.starts_at))) :=
  ⟨fun {a b} => by rw [Prod.Lex.toLex_le_toLex, Prod.Lex.toLex_le_toLex]; rfl⟩

theorem foldl_grown (ms : List Match) (g : Group) :
    (ms.foldl grown g).matches_ = g.matches_ ++ ms ∧
      (ms.foldl grown g).severity = max g.severity (GroupBy.maximum (fun m => m.severity.val) ms) := by
  induction ms generalizing g with
  | nil => simp [GroupBy.maximum]
  | cons m ms ih =>
      obtain ⟨hmatches, hseverity⟩ := ih (grown g m)
      refine ⟨hmatches.trans (by simp [grown]), ?_⟩
      rw [List.foldl_cons, hseverity]
      exact Nat.max_assoc _ _ _

theorem get_group {slot : Nat × String} {g : Group} {ms : List Match}
    (h : Dict.get slot (group gis ms) = some g) :
    ms.filter (in_slot gis slot) ≠ [] ∧ g.matches_ = ms.filter (in_slot gis slot) ∧
      g.severity = GroupBy.maximum (fun m => m.severity.val) (ms.filter (in_slot gis slot)) := by
  rw [group_eq, GroupBy.get_foldl_grow] at h
  split at h
  · next hrow =>
      obtain ⟨m, hm, hslot⟩ := hrow
      obtain rfl := Option.some.inj h
      obtain ⟨hmatches, hseverity⟩ := foldl_grown (ms.filter (in_slot gis slot)) ⟨0, none, []⟩
      refine ⟨List.ne_nil_of_mem (List.mem_filter.mpr ⟨hm, decide_eq_true hslot⟩), hmatches, ?_⟩
      exact hseverity.trans (Nat.zero_max _)
  · simp at h

theorem RowLinks.matches_of (h : RowLinks db) (hr : r ∈ db.subscriptions)
    (harea : area ∈ db.watch_areas) (hid : area.id = r.watch_area_id) (key : String)
    (hactive : r.status = .active) :
    (MatchingRepo.rows gis source batch_at settings.quake_max_age events db).filter
        (in_slot gis (r.id, key)) =
      ((events.filter (Wanted gis settings source batch_at r area)).map
        (MatchingRepo.to_match gis r)).filter (in_slot gis (r.id, key)) := by
  have hother : ∀ (o : Subscription) (xs : List (HazardEvent G)), o.id ≠ r.id →
      (xs.map (MatchingRepo.to_match gis o)).filter (in_slot gis (r.id, key)) = [] := by
    intro o xs hne
    rw [List.filter_eq_nil_iff]
    intro m hm hslot
    obtain ⟨e, -, rfl⟩ := List.mem_map.mp hm
    exact hne (congrArg Prod.fst (of_decide_eq_true hslot))
  rw [MatchingRepo.rows, List.filter_flatMap, Table.flatMap_unique h.subscriptions hr (fun o _ hne => by
      rw [List.filter_flatMap, List.flatMap_eq_nil_iff]
      exact fun _ _ => hother o _ hne),
    Table.flatMap_unique h.areas harea (fun o _ hne => by
      rw [List.map_eq_nil_iff, List.filter_eq_nil_iff]
      intro e _ hjoined
      simp [MatchingRepo.joined, hid ▸ hne] at hjoined)]
  congr 2
  refine List.filter_congr (fun e _ => ?_)
  simp [MatchingRepo.joined, MatchingRepo.subscribed, Wanted, hactive, hid]

theorem RowLinks.tells (h : RowLinks db) (hr : r ∈ db.subscriptions)
    (harea : area ∈ db.watch_areas) (hid : area.id = r.watch_area_id) {now : Timestamptz}
    {d : Delivery} (hd : CreatedFrom gis (groups_of gis settings source batch_at events db) now d)
    (hsub : d.subscription_id = r.id) :
    ∃ key ms, Tells gis settings source batch_at events r area key ms d.to_pending := by
  obtain ⟨⟨id, key⟩, g, episode_id, reason, n, hmem, rfl⟩ := hd
  obtain rfl : id = r.id := hsub
  have hnodup : (Dict.keys (groups_of gis settings source batch_at events db)).Nodup :=
    (groups_of_ok source batch_at events db).1
  have hget := Dict.get_of_mem hnodup hmem
  unfold groups_of at hget
  split at hget
  · have hrows := List.perm_insertionSort MatchingRepo.before
      (MatchingRepo.rows gis source batch_at settings.quake_max_age events db)
    obtain ⟨hne, hmatches, hseverity⟩ := get_group hget
    have hactive : r.status = .active := by
      obtain ⟨m, hm⟩ := List.exists_mem_of_ne_nil _ hne
      obtain ⟨hm, hslot⟩ := List.mem_filter.mp hm
      obtain ⟨o, ho, _, _, e, _, hjoined, rfl⟩ := (MatchingRepo.mem_matches gis).mp hm
      obtain rfl := Table.unique_eq h.subscriptions ho hr
        (congrArg Prod.fst (of_decide_eq_true hslot))
      simp only [MatchingRepo.joined, MatchingRepo.subscribed, Bool.and_eq_true, beq_iff_eq] at hjoined
      exact hjoined.1.1.1.1.1.1.1
    refine ⟨key, _, hne, ?_, ?_, ?_, ?_, hseverity⟩
    · rw [← h.matches_of hr harea hid key hactive]
      exact hrows.filter _
    · refine ((matches_by.sorted _).filter _).imp_of_mem (fun {m m'} hm hm' hbefore => ?_)
      have hslot := of_decide_eq_true (List.mem_filter.mp hm).2
      have hslot' := of_decide_eq_true (List.mem_filter.mp hm').2
      have hid : m.subscription_id = m'.subscription_id :=
        congrArg Prod.fst (hslot.trans hslot'.symm)
      exact hbefore.elim (fun hlt => absurd hid hlt.ne) And.right
    · exact congrArg _ (congrArg _ hmatches)
    · exact congrArg List.length hmatches
  · simp at hget

-- a batch after the add that the delivery tells of
def ToldIn (gis : Gis G) (settings : MatchSettings) (after : List (DeliverAction G))
    (r : Subscription) (area : WatchArea G) (d : PendingDelivery) : Prop :=
  ∃ before source batch_at now events rest,
    after = before ++ .matched source batch_at now events :: rest ∧
    ∃ key ms, Tells gis settings source batch_at events r area key ms d

-- the add that a subscription and its area come from
def Enrolled (gis : Gis G) (settings : MatchSettings) (deliver : DeliverSettings)
    (as : List (DeliverAction G)) (r : Subscription) (area : WatchArea G)
    (after : List (DeliverAction G)) : Prop :=
  ∃ before u wanted, Run (DeliverStep gis settings deliver) DeliverState.empty before u ∧
    as = before ++ .added wanted r.hazard_types r.severity_min r.channel r.endpoint r.credential ::
      after ∧
    area = { wanted with id := u.db.next_id } ∧
    r = SubscriptionAdmin.created u.db.next_id r.hazard_types r.severity_min r.channel r.endpoint
      r.credential (u.db.next_id + 1)

theorem ToldIn.more {d : PendingDelivery} (h : ToldIn gis settings after r area d)
    (a : DeliverAction G) : ToldIn gis settings (after ++ [a]) r area d := by
  obtain ⟨before, source, batch_at, now, events, rest, rfl, htells⟩ := h
  exact ⟨before, source, batch_at, now, events, rest ++ [a], by simp, htells⟩

theorem Enrolled.more (h : Enrolled gis settings deliver as r area after) (a : DeliverAction G) :
    Enrolled gis settings deliver (as ++ [a]) r area (after ++ [a]) := by
  obtain ⟨before, u, wanted, hu, rfl, harea, hr⟩ := h
  exact ⟨before, u, wanted, hu, by simp, harea, hr⟩

theorem Tells.of_asked {o : Subscription} {key : String} {ms : List Match} {d : PendingDelivery}
    (he : o.asked = r.asked) (h : Tells gis settings source batch_at events o area key ms d) :
    Tells gis settings source batch_at events r area key ms d := by
  have hid : o.id = r.id := congrArg Asked.id he
  have hwanted : Wanted gis settings source batch_at o area =
      Wanted gis settings source batch_at r area := by
    have htypes : o.hazard_types = r.hazard_types := congrArg Asked.hazard_types he
    have hmin : o.severity_min = r.severity_min := congrArg Asked.severity_min he
    funext e
    rw [Wanted, Wanted, htypes, hmin]
  have hmatch : MatchingRepo.to_match gis o = MatchingRepo.to_match gis r := by
    funext e
    rw [MatchingRepo.to_match, MatchingRepo.to_match, hid]
  exact ⟨h.nonempty, hwanted ▸ hmatch ▸ hid ▸ h.matches_, h.urgent, h.items, h.item_count,
    h.severity⟩

structure SentFor (gis : Gis G) (settings : MatchSettings) (after : List (DeliverAction G))
    (c : ClaimedSubscription) (r : Subscription) (area : WatchArea G) : Prop where
  id : c.id = r.id
  channel : c.channel = r.channel
  endpoint : c.endpoint = r.endpoint
  credential : c.credential = r.credential
  hazard_types : c.hazard_types = r.hazard_types
  area_id : c.area_id = area.id
  area_label : c.area_label = area.label
  nonempty : c.deliveries ≠ []
  deliveries : ∀ d ∈ c.deliveries, ToldIn gis settings after r area d

def Provenient (gis : Gis G) (settings : MatchSettings) (deliver : DeliverSettings)
    (as : List (DeliverAction G)) (c : ClaimedSubscription) : Prop :=
  ∃ r area after, Enrolled gis settings deliver as r area after ∧
    SentFor gis settings after c r area

theorem Provenient.more (h : Provenient gis settings deliver as c) (a : DeliverAction G) :
    Provenient gis settings deliver (as ++ [a]) c := by
  obtain ⟨r, area, after, hen, hs⟩ := h
  exact ⟨r, area, after ++ [a], hen.more a,
    { hs with deliveries := fun d hd => (hs.deliveries d hd).more a }⟩

-- a row stands for the subscription that an add has created, and its deliveries for matches
def RowTold (gis : Gis G) (settings : MatchSettings) (deliver : DeliverSettings)
    (as : List (DeliverAction G)) (db : NotificationsDb G) (r : Subscription) (area : WatchArea G) :
    Prop :=
  ∃ o after, Enrolled gis settings deliver as o area after ∧ o.asked = r.asked ∧
    ∀ d ∈ db.deliveries, d.subscription_id = r.id → ToldIn gis settings after o area d.to_pending

structure Provenance (gis : Gis G) (settings : MatchSettings) (deliver : DeliverSettings)
    (as : List (DeliverAction G)) (s : DeliverState G) : Prop where
  rows : ∀ r ∈ s.db.subscriptions, ∀ area ∈ s.db.watch_areas, area.id = r.watch_area_id →
    RowTold gis settings deliver as s.db r area
  claims : ∀ run, s.run = some run → ∀ c ∈ run.claims, Provenient gis settings deliver as c
  accepted : ∀ m ∈ s.accepted, Provenient gis settings deliver as m.claim

theorem SameItems.to_pending {d d' : Delivery} (h : SameItems d d') :
    d'.to_pending = d.to_pending := by
  simp only [Delivery.to_pending, h.id, h.episode_id, h.reason, h.severity, h.items, h.item_count]

theorem RowTold.kept {db' : NotificationsDb G} {o : Subscription}
    (h : RowTold gis settings deliver as db o area) (ho : o.asked = r.asked)
    (hd : ∀ d' ∈ db'.deliveries, ∃ d ∈ db.deliveries, SameItems d d') (a : DeliverAction G) :
    RowTold gis settings deliver (as ++ [a]) db' r area := by
  obtain ⟨o', after, hen, hasked, htold⟩ := h
  refine ⟨o', after ++ [a], hen.more a, hasked.trans ho, fun d' hd' hsub => ?_⟩
  obtain ⟨d, hdm, hsame⟩ := hd d' hd'
  have hid : o.id = r.id := congrArg Asked.id ho
  rw [hsame.to_pending]
  exact (htold d hdm (by rw [hid, ← hsub, hsame.subscription_id])).more a

theorem RowTold.matched {now : Timestamptz} {db' : NotificationsDb G} {n : Nat} (hl : RowLinks db)
    (hr : r ∈ db.subscriptions) (harea : area ∈ db.watch_areas) (hid : area.id = r.watch_area_id)
    (hx : execute gis settings source batch_at now events db = .ok (db', n))
    (h : RowTold gis settings deliver as db r area) :
    RowTold gis settings deliver (as ++ [.matched source batch_at now events]) db' r area := by
  obtain ⟨o, after, hen, hasked, htold⟩ := h
  refine ⟨o, after ++ [.matched source batch_at now events], hen.more _, hasked, fun d hd hsub => ?_⟩
  rcases execute_created hx hd with hold | hnew
  · exact (htold d hold hsub).more _
  · obtain ⟨key, ms, htells⟩ := hl.tells hr harea hid hnew hsub
    exact ⟨after, source, batch_at, now, events, [], rfl, key, ms, htells.of_asked hasked.symm⟩

theorem Provenance.claim_told {now : Timestamptz} {db' : NotificationsDb G}
    {claims : List ClaimedSubscription} (h : Provenance gis settings deliver as s)
    (hl : RowLinks s.db) (hc : DeliverNotificationsUseCase.claim deliver now s.db = .ok (db', claims))
    (hmem : c ∈ claims) : Provenient gis settings deliver as c := by
  obtain ⟨r, -, hr, hclaimable, hof⟩ := DeliveryRepo.claim_source hc hmem
  obtain ⟨area, harea, hid, hfind⟩ := hl.find_area hr
  obtain ⟨o, after, hen, hasked, htold⟩ := h.rows r hr area harea hid
  unfold DeliveryRepo.claim_of at hof
  rw [hfind] at hof
  obtain rfl := Except.ok.inj hof
  have hpending : ∀ d : Delivery, d ∈ (s.db.deliveries.filter
        (DeliveryRepo.is_pending_of r.id)).insertionSort DeliveryRepo.urgent_before ↔
      d ∈ s.db.deliveries ∧ DeliveryRepo.is_pending_of r.id d = true := by
    simp [List.mem_insertionSort]
  refine ⟨o, area, after, hen, (congrArg Asked.id hasked).symm, (congrArg Asked.channel hasked).symm,
    (congrArg Asked.endpoint hasked).symm, (congrArg Asked.credential hasked).symm,
    (congrArg Asked.hazard_types hasked).symm, hid.symm, rfl, ?_, fun p hp => ?_⟩
  · simp only [DeliveryRepo.claimable, Bool.and_eq_true, List.any_eq_true] at hclaimable
    obtain ⟨-, d, hd, hp⟩ := hclaimable
    exact List.ne_nil_of_mem (List.mem_map_of_mem ((hpending d).mpr ⟨hd, hp⟩))
  · obtain ⟨d, hd, rfl⟩ := List.mem_map.mp hp
    obtain ⟨hdm, hown⟩ := (hpending d).mp hd
    exact htold d hdm (of_decide_eq_true (Bool.and_eq_true_iff.mp hown).1)

theorem Provenance.rows_added {wanted : WatchArea G} {hazard_types : List HazardType}
    {severity_min : Severity} {channel : Channel} {endpoint credential : String}
    (h : Provenance gis settings deliver as s) (hl : RowLinks s.db)
    (hrun : Run (DeliverStep gis settings deliver) DeliverState.empty as s) :
    ∀ r ∈ (SubscriptionAdmin.add wanted hazard_types severity_min channel endpoint credential
        s.db).subscriptions,
      ∀ area ∈ (SubscriptionAdmin.add wanted hazard_types severity_min channel endpoint credential
        s.db).watch_areas, area.id = r.watch_area_id →
      RowTold gis settings deliver
        (as ++ [.added wanted hazard_types severity_min channel endpoint credential])
        (SubscriptionAdmin.add wanted hazard_types severity_min channel endpoint credential s.db)
        r area := by
  intro r hr area harea hid
  rcases List.mem_append.mp hr with hr | hr
  · obtain ⟨old, hold, holdid, -⟩ := hl.find_area hr
    have hlt := (hl.fresh r hr).2
    rcases List.mem_append.mp harea with harea | harea
    · exact (h.rows r hr area harea hid).kept rfl (fun d hd => ⟨d, hd, .refl d⟩) _
    · rw [List.mem_singleton.mp harea] at hid
      exact absurd hid hlt.ne'
  · obtain rfl := List.mem_singleton.mp hr
    have hnew : area = { wanted with id := s.db.next_id } := by
      rcases List.mem_append.mp harea with harea | harea
      · have hmem : area.id ∈ s.db.subscriptions.map Subscription.watch_area_id :=
          hl.area_of ▸ List.mem_map_of_mem harea
        obtain ⟨o, ho, heq⟩ := List.mem_map.mp hmem
        exact absurd (heq.trans hid) (hl.fresh o ho).2.ne
      · exact List.mem_singleton.mp harea
    refine ⟨_, [], ⟨as, s, wanted, hrun, rfl, hnew, rfl⟩, rfl, fun d hd hsub => ?_⟩
    obtain ⟨e, he, -, hes⟩ := hl.homed d hd
    obtain ⟨o, ho, hoid⟩ := hl.subscribed e he
    have hlt := (hl.fresh o ho).1
    rw [hoid, hes, hsub] at hlt
    exact absurd hlt (by simp [SubscriptionAdmin.created])

theorem DeliverStep.rows_told (hs : DeliverStep gis settings deliver s a t)
    (hrun : Run (DeliverStep gis settings deliver) DeliverState.empty as s) (hl : RowLinks s.db)
    (h : Provenance gis settings deliver as s) :
    ∀ r ∈ t.db.subscriptions, ∀ area ∈ t.db.watch_areas, area.id = r.watch_area_id →
      RowTold gis settings deliver (as ++ [a]) t.db r area := by
  by_cases hadded : ∃ wanted types sev channel endpoint credential,
      a = .added wanted types sev channel endpoint credential
  · obtain ⟨wanted, types, sev, channel, endpoint, credential, rfl⟩ := hadded
    subst hs
    exact h.rows_added hl hrun
  by_cases hremoved : ∃ id, a = .removed id
  · obtain ⟨id, rfl⟩ := hremoved
    obtain ⟨db, hp, rfl⟩ := hs
    obtain ⟨r, hget, heq⟩ := bind_ok.mp hp
    obtain rfl := Except.ok.inj heq
    have ho := hl.removed_only (get_ok hget).1
    intro o hmem area harea hid
    refine (h.rows o (List.mem_filter.mp hmem).1 area ?_ hid).kept rfl (fun d hd => ?_) _
    · have harea' : area ∈ (SubscriptionAdmin.removed r s.db).watch_areas := harea
      rw [ho.watch_areas] at harea'
      exact (List.mem_filter.mp harea').1
    · exact ⟨d, (List.mem_filter.mp hd).1, .refl d⟩
  by_cases hmatched : ∃ source batch_at now events, a = .matched source batch_at now events
  · obtain ⟨source, batch_at, now, events, rfl⟩ := hmatched
    obtain ⟨db, n, hx, rfl⟩ := hs
    have hg := execute_grown hx
    intro r hr area harea hid
    have hr' : r ∈ s.db.subscriptions := hg.subscriptions ▸ hr
    have harea' : area ∈ s.db.watch_areas := hg.watch_areas ▸ harea
    exact (h.rows r hr' area harea' hid).matched hl hr' harea' hid hx
  have hsame := hs.same_subscribers
    (fun wanted types sev channel endpoint credential heq =>
      hadded ⟨wanted, types, sev, channel, endpoint, credential, heq⟩)
    (fun id heq => hremoved ⟨id, heq⟩)
  intro r hr area harea hid
  obtain ⟨o, ho, hasked⟩ := hsame.row hr
  have harea' : area ∈ s.db.watch_areas := hsame.watch_areas ▸ harea
  have hoid : area.id = o.watch_area_id := hid.trans (congrArg Asked.watch_area_id hasked).symm
  exact (h.rows o ho area harea' hoid).kept hasked
    (fun d' hd' => (hs.origin hd').same (fun source batch_at now events heq =>
      hmatched ⟨source, batch_at, now, events, heq⟩)) a

theorem DeliverState.Attempt.claims {outcome : ClaimedSubscription → Outcome} {run : DeliverRun}
    (h : s.Attempt outcome c run) :
    ∃ old, s.run = some old ∧ c ∈ old.claims ∧ ∀ c' ∈ run.claims, c' ∈ old.claims := by
  obtain ⟨rest, outcomes, hrun, rfl⟩ := h
  exact ⟨_, hrun, List.mem_cons_self, fun c' hc => List.mem_cons_of_mem _ hc⟩

-- a run sends what it has claimed
structure Claims (deliver : DeliverSettings) (s t : DeliverState G) : Prop where
  run : ∀ run, t.run = some run → ∀ c ∈ run.claims, (∃ old, s.run = some old ∧ c ∈ old.claims) ∨
    ∃ now db claims, DeliverNotificationsUseCase.claim deliver now s.db = .ok (db, claims) ∧
      c ∈ claims
  accepted : ∀ m ∈ t.accepted, m ∈ s.accepted ∨ ∃ old, s.run = some old ∧ m.claim ∈ old.claims

theorem Claims.of_same (hrun : t.run = s.run) (hacc : t.accepted = s.accepted) :
    Claims deliver s t :=
  ⟨fun run h _ hc => .inl ⟨run, hrun ▸ h, hc⟩, fun _ hm => .inl (hacc ▸ hm)⟩

theorem Claims.attempt {outcome : ClaimedSubscription → Outcome} {run : DeliverRun}
    (h : s.Attempt outcome c run) : Claims deliver s { s with run := some run } := by
  obtain ⟨old, hold, -, hrest⟩ := h.claims
  refine ⟨fun run' hr c' hc => .inl ⟨old, hold, hrest c' ?_⟩, fun m hm => .inl hm⟩
  obtain rfl := Option.some.inj hr
  exact hc

theorem DeliverStep.claims (hs : DeliverStep gis settings deliver s a t) : Claims deliver s t := by
  cases a with
  | matched source batch_at now events =>
      obtain ⟨db, n, _, rfl⟩ := hs
      exact .of_same rfl rfl
  | claimed now =>
      obtain ⟨_, db, claims, hc, rfl⟩ := hs
      refine ⟨fun run hr c hcm => .inr ⟨now, db, claims, hc, ?_⟩, fun m hm => .inl hm⟩
      obtain rfl := Option.some.inj hr
      exact hcm
  | accepted message_id =>
      obtain ⟨c, run, hat, rfl⟩ := hs
      obtain ⟨old, hold, hc, -⟩ := hat.claims
      have hrun : Claims deliver s { s with run := some run } := .attempt hat
      refine ⟨hrun.run, fun m hm => ?_⟩
      rcases List.mem_append.mp hm with hm | hm
      · exact .inl hm
      · rw [List.mem_singleton.mp hm]
        exact .inr ⟨old, hold, hc⟩
  | refused error =>
      obtain ⟨c, run, hat, rfl⟩ := hs
      exact .attempt hat
  | deferred =>
      obtain ⟨c, run, hat, _, rfl⟩ := hs
      exact .attempt hat
  | recorded now =>
      obtain ⟨outcomes, _, _, rfl⟩ := hs.recorded_inv
      exact ⟨by simp, fun m hm => .inl hm⟩
  | crashed =>
      subst hs
      exact ⟨by simp, fun m hm => .inl hm⟩
  | added area hazard_types severity_min channel endpoint credential => exact hs ▸ .of_same rfl rfl
  | paused id =>
      obtain ⟨db, _, rfl⟩ := hs
      exact .of_same rfl rfl
  | resumed id =>
      obtain ⟨db, _, rfl⟩ := hs
      exact .of_same rfl rfl
  | removed id =>
      obtain ⟨db, _, rfl⟩ := hs
      exact .of_same rfl rfl

theorem Provenance.step (h : Provenance gis settings deliver as s)
    (hrun : Run (DeliverStep gis settings deliver) DeliverState.empty as s) (hl : RowLinks s.db)
    (hs : DeliverStep gis settings deliver s a t) : Provenance gis settings deliver (as ++ [a]) t := by
  refine ⟨hs.rows_told hrun hl h, fun run hr c hc => ?_, fun m hm => ?_⟩
  · rcases hs.claims.run run hr c hc with ⟨old, hold, hcm⟩ | ⟨now, db, claims, hclaim, hcm⟩
    · exact (h.claims old hold c hcm).more a
    · exact (h.claim_told hl hclaim hcm).more a
  · rcases hs.claims.accepted m hm with hold | ⟨old, hold, hcm⟩
    · exact (h.accepted m hold).more a
    · exact (h.claims old hold m.claim hcm).more a

theorem DeliverRuns.provenance
    (hr : Run (DeliverStep gis settings deliver) DeliverState.empty as s) :
    Provenance gis settings deliver as s := by
  induction hr with
  | nil =>
      exact ⟨by simp [DeliverState.empty, NotificationsDb.empty], by simp [DeliverState.empty],
        by simp [DeliverState.empty]⟩
  | snoc hr hs ih => exact ih.step hr (DeliverRuns.linked hr) hs

theorem messages_tell_matches
    (hr : Run (DeliverStep gis settings deliver) DeliverState.empty as s) :
    ∀ m ∈ s.accepted, ∃ r area after, Enrolled gis settings deliver as r area after ∧
      SentFor gis settings after m.claim r area :=
  (DeliverRuns.provenance hr).accepted

theorem messages_tell_matches_told :
    told.accepted.map Message.id = [7] ∧
    ∀ m ∈ told.accepted, ∃ r area after, Enrolled planar_gis default_settings default_deliver
        (((to_waiting ++ [.claimed (july 3 12).instant]) ++ [.accepted 7]) ++
          [.recorded (july 3 13).instant]) r area after ∧
      SentFor planar_gis default_settings after m.claim r area :=
  ⟨by decide +kernel, messages_tell_matches told_run⟩

end GeoHazard
