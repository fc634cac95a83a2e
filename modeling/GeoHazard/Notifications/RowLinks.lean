import GeoHazard.Notifications.DeliveryLifeCycle
import GeoHazard.Notifications.SubscriptionRepo

namespace GeoHazard
open Transition

variable {G : Type} {gis : Gis G} {settings : MatchSettings} {deliver : DeliverSettings}
  {db db' : NotificationsDb G} {s t : DeliverState G} {a : DeliverAction G}

def Homed (subscription_id episode_id : Nat) (db : NotificationsDb G) : Prop :=
  ∃ e ∈ db.episodes, e.id = episode_id ∧ e.subscription_id = subscription_id

def Subscribes (subscription_id : Nat) (db : NotificationsDb G) : Prop :=
  ∃ r ∈ db.subscriptions, r.id = subscription_id

-- the foreign keys, and the area that add creates for each subscription
structure RowLinks (db : NotificationsDb G) : Prop where
  subscriptions : Table.Unique Subscription.id db.subscriptions
  areas : Table.Unique WatchArea.id db.watch_areas
  area_of : db.watch_areas.map WatchArea.id = db.subscriptions.map Subscription.watch_area_id
  fresh : ∀ r ∈ db.subscriptions, r.id < db.next_id ∧ r.watch_area_id < db.next_id
  episodes : Table.Unique Episode.id db.episodes
  fresh_episodes : ∀ e ∈ db.episodes, e.id < db.next_id
  subscribed : ∀ e ∈ db.episodes, Subscribes e.subscription_id db
  homed : ∀ d ∈ db.deliveries, Homed d.subscription_id d.episode_id db

theorem RowLinks.empty : RowLinks (NotificationsDb.empty (G := G)) :=
  ⟨List.nodup_nil, List.nodup_nil, rfl, by simp [NotificationsDb.empty], List.nodup_nil,
    by simp [NotificationsDb.empty], by simp [NotificationsDb.empty],
    by simp [NotificationsDb.empty]⟩

-- what a subscription was added with; no statement updates it
structure Asked where
  id : Nat
  watch_area_id : Nat
  hazard_types : List HazardType
  severity_min : Severity
  channel : Channel
  endpoint : String
  credential : String

def Subscription.asked (r : Subscription) : Asked :=
  ⟨r.id, r.watch_area_id, r.hazard_types, r.severity_min, r.channel, r.endpoint, r.credential⟩

structure SameSubscribers (db db' : NotificationsDb G) : Prop where
  asked : db'.subscriptions.map Subscription.asked = db.subscriptions.map Subscription.asked
  watch_areas : db'.watch_areas = db.watch_areas
  next_id : db.next_id ≤ db'.next_id

theorem SameSubscribers.refl (db : NotificationsDb G) : SameSubscribers db db :=
  ⟨rfl, rfl, le_refl _⟩

theorem SameSubscribers.trans {a b c : NotificationsDb G} (h : SameSubscribers a b)
    (k : SameSubscribers b c) : SameSubscribers a c :=
  ⟨k.asked.trans h.asked, k.watch_areas.trans h.watch_areas, h.next_id.trans k.next_id⟩

theorem SameSubscribers.of_eq (hs : db'.subscriptions = db.subscriptions)
    (ha : db'.watch_areas = db.watch_areas) (hn : db.next_id ≤ db'.next_id) :
    SameSubscribers db db' :=
  ⟨congrArg _ hs, ha, hn⟩

theorem SameSubscribers.update {f : Subscription → Subscription} {p : Subscription → Bool}
    (hs : db'.subscriptions = Table.update p f db.subscriptions)
    (ha : db'.watch_areas = db.watch_areas) (hn : db.next_id ≤ db'.next_id)
    (hf : ∀ r, (f r).asked = r.asked) : SameSubscribers db db' :=
  ⟨hs ▸ Table.keys_update (fun r _ => hf r) _, ha, hn⟩

theorem SameSubscribers.map {α : Type} (h : SameSubscribers db db') (f : Asked → α) :
    db'.subscriptions.map (fun r => f r.asked) = db.subscriptions.map (fun r => f r.asked) := by
  have hmap := congrArg (List.map f) h.asked
  simpa only [List.map_map, Function.comp_def] using hmap

theorem SameSubscribers.ids (h : SameSubscribers db db') :
    db'.subscriptions.map Subscription.id = db.subscriptions.map Subscription.id :=
  h.map Asked.id

theorem SameSubscribers.area_ids (h : SameSubscribers db db') :
    db'.subscriptions.map Subscription.watch_area_id =
      db.subscriptions.map Subscription.watch_area_id :=
  h.map Asked.watch_area_id

theorem SameSubscribers.row (h : SameSubscribers db db') {r : Subscription}
    (hr : r ∈ db'.subscriptions) : ∃ o ∈ db.subscriptions, o.asked = r.asked := by
  have hmem : r.asked ∈ db.subscriptions.map Subscription.asked := h.asked ▸ List.mem_map_of_mem hr
  obtain ⟨o, ho, he⟩ := List.mem_map.mp hmem
  exact ⟨o, ho, he⟩

theorem SameSubscribers.subscribes (h : SameSubscribers db db') {id : Nat} :
    Subscribes id db' ↔ Subscribes id db := by
  have hmem : ∀ v : NotificationsDb G, Subscribes id v ↔ id ∈ v.subscriptions.map Subscription.id :=
    fun v => by simp [Subscribes]
  rw [hmem, hmem, h.ids]

theorem RowLinks.keep (h : RowLinks db) (hs : SameSubscribers db db')
    (hu : Table.Unique Episode.id db'.episodes)
    (he : ∀ e ∈ db'.episodes, e.id < db'.next_id ∧ Subscribes e.subscription_id db)
    (hd : ∀ d ∈ db'.deliveries, Homed d.subscription_id d.episode_id db') : RowLinks db' where
  subscriptions := h.subscriptions.of_keys hs.ids
  areas := hs.watch_areas ▸ h.areas
  area_of := by rw [hs.watch_areas, hs.area_ids, h.area_of]
  fresh r hr := by
    obtain ⟨o, ho, he⟩ := hs.row hr
    have hid : o.id = r.id := congrArg Asked.id he
    have harea : o.watch_area_id = r.watch_area_id := congrArg Asked.watch_area_id he
    obtain ⟨hlt, hlta⟩ := h.fresh o ho
    exact ⟨hid ▸ lt_of_lt_of_le hlt hs.next_id, harea ▸ lt_of_lt_of_le hlta hs.next_id⟩
  episodes := hu
  fresh_episodes e hm := (he e hm).1
  subscribed e hm := hs.subscribes.mpr (he e hm).2
  homed := hd

theorem RowLinks.deliveries (h : RowLinks db) (hs : SameSubscribers db db')
    (he : db'.episodes = db.episodes)
    (hd : ∀ d' ∈ db'.deliveries, ∃ d ∈ db.deliveries, SameDelivery d d') : RowLinks db' := by
  refine h.keep hs (he ▸ h.episodes) (fun e hm => ?_) (fun d' hm => ?_)
  · rw [he] at hm
    exact ⟨lt_of_lt_of_le (h.fresh_episodes e hm) hs.next_id, h.subscribed e hm⟩
  · obtain ⟨d, hdm, hsame⟩ := hd d' hm
    rw [hsame.subscription_id, hsame.episode_id, Homed, he]
    exact h.homed d hdm

-- what the writes of a match keep
structure Rooted (db db' : NotificationsDb G) : Prop where
  linked : RowLinks db → RowLinks db'
  homed : ∀ {subscription_id episode_id}, Homed subscription_id episode_id db →
    Homed subscription_id episode_id db'
  subscribes : ∀ {subscription_id}, Subscribes subscription_id db → Subscribes subscription_id db'

theorem Rooted.refl (db : NotificationsDb G) : Rooted db db := ⟨id, id, id⟩

theorem Rooted.trans {a b c : NotificationsDb G} (h : Rooted a b) (k : Rooted b c) : Rooted a c :=
  ⟨fun hl => k.linked (h.linked hl), fun hm => k.homed (h.homed hm),
    fun hm => k.subscribes (h.subscribes hm)⟩

theorem Rooted.update {p : Episode → Bool} {f : Episode → Episode} (db : NotificationsDb G)
    (hid : ∀ e, (f e).id = e.id) (hsub : ∀ e, (f e).subscription_id = e.subscription_id) :
    Rooted db { db with episodes := Table.update p f db.episodes } := by
  have hrow : ∀ o : Episode, (if p o then f o else o).id = o.id ∧
      (if p o then f o else o).subscription_id = o.subscription_id := by
    intro o
    by_cases hp : p o = true
    · simp [hp, hid, hsub]
    · simp [hp]
  have hhomed : ∀ {subscription_id episode_id}, Homed subscription_id episode_id db →
      Homed subscription_id episode_id { db with episodes := Table.update p f db.episodes } := by
    rintro subscription_id episode_id ⟨e, he, rfl, rfl⟩
    exact ⟨_, Table.mem_update.mpr ⟨e, he, rfl⟩, (hrow e).1, (hrow e).2⟩
  refine ⟨fun h => h.keep (.of_eq rfl rfl (le_refl _))
    (Table.unique_update (fun e _ => hid e) h.episodes) (fun e he => ?_)
    (fun d hd => hhomed (h.homed d hd)), hhomed, id⟩
  obtain ⟨o, ho, rfl⟩ := Table.mem_update.mp he
  rw [(hrow o).1, (hrow o).2]
  exact ⟨h.fresh_episodes o ho, h.subscribed o ho⟩

theorem open_rooted {slot : Nat × String} {severity : Nat} {expires_at : Option Timestamptz}
    {at_ : Timestamptz} {r : NotificationsDb G × Nat} (hslot : Subscribes slot.1 db)
    (h : EpisodeRepo.open_ slot severity expires_at at_ db = .ok r) :
    Rooted db r.1 ∧ Homed slot.1 r.2 r.1 := by
  obtain rfl := MatchBatchUseCase.open_ok h
  have hhomed : ∀ {subscription_id episode_id}, Homed subscription_id episode_id db →
      Homed subscription_id episode_id { db with
        episodes := db.episodes ++ [EpisodeRepo.opened slot severity expires_at at_ db.next_id]
        next_id := db.next_id + 1 } := by
    rintro subscription_id episode_id ⟨e, he, hid, hsub⟩
    exact ⟨e, List.mem_append_left _ he, hid, hsub⟩
  refine ⟨⟨fun hl => hl.keep (.of_eq rfl rfl (Nat.le_succ _))
    (@Table.unique_concat _ _ _ Episode.id _ _ hl.episodes
      (Table.find_none.mpr (fun e he => (hl.fresh_episodes e he).ne))) (fun e he => ?_)
    (fun d hd => hhomed (hl.homed d hd)), hhomed, id⟩,
    ⟨_, List.mem_append_right _ (List.mem_singleton_self _), rfl, rfl⟩⟩
  rcases List.mem_append.mp he with he | he
  · exact ⟨Nat.lt_succ_of_lt (hl.fresh_episodes e he), hl.subscribed e he⟩
  · rw [List.mem_singleton.mp he]
    exact ⟨Nat.lt_succ_self _, hslot⟩

namespace MatchBatchUseCase

theorem add_delivery_rooted {slot : Nat × String} {episode_id : Nat} (reason : Reason) (g : Group)
    (now : Timestamptz) (hh : Homed slot.1 episode_id db) :
    Rooted db (add_delivery gis slot episode_id reason g now db).1 := by
  unfold add_delivery EpisodeRepo.add_delivery
  split
  · exact .refl db
  · refine ⟨fun hl => hl.keep (.of_eq rfl rfl (Nat.le_succ _)) hl.episodes
      (fun e he => ⟨Nat.lt_succ_of_lt (hl.fresh_episodes e he), hl.subscribed e he⟩)
      (fun d hd => ?_), id, id⟩
    rcases List.mem_append.mp hd with hd | hd
    · exact hl.homed d hd
    · rw [List.mem_singleton.mp hd]
      exact hh

theorem match_group_rooted {batch_at now : Timestamptz} {current : Option OpenEpisode}
    {slot : Nat × String} {g : Group} {r : NotificationsDb G × Bool}
    (hslot : Subscribes slot.1 db) (hcur : ∀ cur, current = some cur → Homed slot.1 cur.id db)
    (h : match_group gis settings batch_at now current slot g db = .ok r) : Rooted db r.1 := by
  have hrefresh : ∀ id n, Rooted db (EpisodeRepo.refresh id n g.expires_at batch_at db) :=
    fun _ n => .update (f := Episode.refreshed n g.expires_at batch_at) db (fun _ => rfl)
      (fun _ => rfl)
  have hvacated : Rooted db (vacated batch_at current db) := by
    cases current with
    | none => exact .refl db
    | some cur => exact .update (f := Episode.closed batch_at) db (fun _ => rfl) (fun _ => rfl)
  rcases match_group_cases h with ⟨cur, rfl, -, rfl⟩ | ⟨cur, rfl, -, rfl⟩ | ⟨p, -, hp, rfl⟩
  · exact hrefresh cur.id cur.notified_severity
  · have hroot := hrefresh cur.id g.severity
    exact hroot.trans (add_delivery_rooted .escalated g now (hroot.homed (hcur cur rfl)))
  · obtain ⟨hopened, hnew⟩ := open_rooted (hvacated.subscribes hslot) hp
    exact (hvacated.trans hopened).trans (add_delivery_rooted .opened g now hnew)

theorem match_groups_rooted {batch_at now : Timestamptz}
    {opens : List ((Nat × String) × OpenEpisode)} {groups : Groups} {db : NotificationsDb G}
    {r : NotificationsDb G × Groups} (hslots : ∀ slot ∈ Dict.keys groups, Subscribes slot.1 db)
    (hopens : ∀ slot cur, Dict.get slot opens = some cur → Homed slot.1 cur.id db)
    (h : match_groups gis settings batch_at now opens groups db = .ok r) : Rooted db r.1 := by
  induction groups generalizing db r with
  | nil => exact Except.ok.inj h ▸ .refl db
  | cons p groups ih =>
      obtain ⟨slot, g⟩ := p
      obtain ⟨r₁, h₁, h⟩ := bind_ok.mp h
      obtain ⟨r₂, h₂, h⟩ := bind_ok.mp h
      have hx := match_group_rooted (hslots slot (by simp [Dict.keys])) (hopens slot) h₁
      have hrest : Rooted r₁.1 r₂.1 :=
        ih (fun s hs => hx.subscribes (hslots s (by simp [Dict.keys] at hs ⊢; exact .inr hs)))
          (fun s cur hc => hx.homed (hopens s cur hc)) h₂
      exact Except.ok.inj h ▸ hx.trans hrest

theorem open_rows_homed (wanted : List (Nat × String)) {slot : Nat × String}
    {cur : OpenEpisode} (h : Dict.get slot (EpisodeRepo.open_rows wanted db) = some cur) :
    Homed slot.1 cur.id db := by
  rw [EpisodeRepo.open_rows, Dict.get_ofList] at h
  obtain ⟨e, he, heq⟩ := List.mem_map.mp (List.mem_reverse.mp (Dict.mem_of_get h))
  obtain ⟨rfl, rfl⟩ := Prod.mk.inj heq
  exact ⟨e, (List.mem_filter.mp he).1, rfl, rfl⟩

theorem group_eq (ms : List Match) :
    group gis ms = ms.foldl (GroupBy.grow (slot_of gis) grown ⟨0, none, []⟩) [] := rfl

theorem groups_of_subscribes {source : Source} {batch_at : Timestamptz}
    {events : List (HazardEvent G)} {slot : Nat × String}
    (h : slot ∈ Dict.keys (groups_of gis settings source batch_at events db)) :
    Subscribes slot.1 db := by
  unfold groups_of at h
  split at h
  · rw [group_eq, ← not_not (a := slot ∈ _), ← Dict.get_eq_none, GroupBy.get_foldl_grow] at h
    split at h
    · next hrow =>
        obtain ⟨m, hm, rfl⟩ := hrow
        obtain ⟨r, hr, _, _, _, _, _, rfl⟩ := (MatchingRepo.mem_matches gis).mp hm
        exact ⟨r, hr, rfl⟩
    · simp at h
  · simp [Dict.keys] at h

theorem execute_rooted {source : Source} {batch_at now : Timestamptz} {events : List (HazardEvent G)}
    {r : NotificationsDb G × Nat}
    (h : execute gis settings source batch_at now events db = .ok r) : Rooted db r.1 := by
  obtain ⟨r₁, h₁, h⟩ := bind_ok.mp h
  exact Except.ok.inj h ▸ match_groups_rooted (fun _ hs => groups_of_subscribes hs)
    (fun _ _ => open_rows_homed _) (execute_groups_iff.mp h₁).2

end MatchBatchUseCase

theorem RowLinks.own_area (h : RowLinks db) {r o : Subscription} (hr : r ∈ db.subscriptions)
    (ho : o ∈ db.subscriptions) (he : r.watch_area_id = o.watch_area_id) : r = o :=
  List.inj_on_of_nodup_map (h.area_of ▸ h.areas) hr ho he

-- no other subscription has the area of the removed one, and no delivery of another hangs from
-- one of its episodes
structure RemovedOnly (r : Subscription) (db db' : NotificationsDb G) : Prop where
  subscriptions : db'.subscriptions = db.subscriptions.filter (fun o => decide (o.id ≠ r.id))
  watch_areas : db'.watch_areas = db.watch_areas.filter (fun a => decide (a.id ≠ r.watch_area_id))
  episodes : db'.episodes = db.episodes.filter (fun e => decide (e.subscription_id ≠ r.id))
  deliveries : db'.deliveries = db.deliveries.filter (fun d => decide (d.subscription_id ≠ r.id))

theorem RowLinks.removed_only (h : RowLinks db) {r : Subscription} (hr : r ∈ db.subscriptions) :
    RemovedOnly r db (SubscriptionAdmin.removed r db) where
  subscriptions := rfl
  watch_areas := by
    have hunused : (db.subscriptions.filter (fun o => decide (o.id ≠ r.id))).any
        (fun o => decide (o.watch_area_id = r.watch_area_id)) = false := by
      rw [List.any_eq_false]
      intro o ho heq
      obtain ⟨hmem, hne⟩ := List.mem_filter.mp ho
      exact of_decide_eq_true hne (congrArg _ (h.own_area hmem hr (of_decide_eq_true heq)))
    exact if_neg (Bool.eq_false_iff.mp hunused)
  episodes := rfl
  deliveries := by
    refine List.filter_congr (fun d hd => ?_)
    obtain ⟨e, he, hid, hsub⟩ := h.homed d hd
    have hany : (db.episodes.filter (fun e => decide (e.subscription_id = r.id))).any
        (fun o => decide (o.id = d.episode_id)) = decide (d.subscription_id = r.id) := by
      rw [Bool.eq_iff_iff, List.any_eq_true, decide_eq_true_iff]
      constructor
      · rintro ⟨o, ho, hoid⟩
        obtain ⟨hmem, hos⟩ := List.mem_filter.mp ho
        obtain rfl := Table.unique_eq h.episodes hmem he ((of_decide_eq_true hoid).trans hid.symm)
        exact hsub.symm.trans (of_decide_eq_true hos)
      · intro hd
        exact ⟨e, List.mem_filter.mpr ⟨he, decide_eq_true (hsub.trans hd)⟩, decide_eq_true hid⟩
    by_cases hs : d.subscription_id = r.id <;> simp [hs, hany]

theorem RowLinks.removed (h : RowLinks db) {r : Subscription} (hr : r ∈ db.subscriptions) :
    RowLinks (SubscriptionAdmin.removed r db) := by
  have ho := h.removed_only hr
  have hsub : (SubscriptionAdmin.removed r db).subscriptions.Sublist db.subscriptions :=
    List.filter_sublist
  refine ⟨h.subscriptions.sublist hsub, ho.watch_areas ▸ h.areas.sublist List.filter_sublist, ?_,
    fun o hm => h.fresh o (hsub.subset hm), h.episodes.sublist List.filter_sublist,
    fun e he => h.fresh_episodes e (List.mem_filter.mp he).1, fun e he => ?_, fun d hd => ?_⟩
  · rw [ho.watch_areas, ho.subscriptions]
    have harea : (db.watch_areas.filter (fun a => decide (a.id ≠ r.watch_area_id))).map WatchArea.id =
        (db.watch_areas.map WatchArea.id).filter (fun id => decide (id ≠ r.watch_area_id)) := by
      rw [List.filter_map]
      rfl
    rw [harea, h.area_of, List.filter_map]
    refine congrArg _ (List.filter_congr (fun o hm => ?_))
    have hiff : o.watch_area_id = r.watch_area_id ↔ o.id = r.id :=
      ⟨fun he => congrArg _ (h.own_area hm hr he),
        fun he => congrArg _ (Table.unique_eq h.subscriptions hm hr he)⟩
    simp [hiff]
  · obtain ⟨hm, hne⟩ := List.mem_filter.mp he
    obtain ⟨o, hom, hoid⟩ := h.subscribed e hm
    exact ⟨o, List.mem_filter.mpr ⟨hom, by simpa [hoid] using hne⟩, hoid⟩
  · rw [ho.deliveries] at hd
    obtain ⟨hm, hne⟩ := List.mem_filter.mp hd
    obtain ⟨e, hem, hid, hes⟩ := h.homed d hm
    exact ⟨e, List.mem_filter.mpr ⟨hem, by simpa [hes] using hne⟩, hid, hes⟩

theorem RowLinks.added (h : RowLinks db) (area : WatchArea G) (hazard_types : List HazardType)
    (severity_min : Severity) (channel : Channel) (endpoint credential : String) :
    RowLinks (SubscriptionAdmin.add area hazard_types severity_min channel endpoint credential db) where
  subscriptions := @Table.unique_concat _ _ _ Subscription.id _ _ h.subscriptions
    (Table.find_none.mpr (fun r hr => (Nat.lt_succ_of_lt (h.fresh r hr).1).ne))
  areas := by
    refine @Table.unique_concat _ _ _ WatchArea.id _ _ h.areas (Table.find_none.mpr (fun o ho => ?_))
    have hmem : o.id ∈ db.subscriptions.map Subscription.watch_area_id :=
      h.area_of ▸ List.mem_map_of_mem ho
    obtain ⟨r, hr, hid⟩ := List.mem_map.mp hmem
    exact hid ▸ (h.fresh r hr).2.ne
  area_of := by
    simp [SubscriptionAdmin.add, SubscriptionAdmin.created, h.area_of]
  fresh r hr := by
    rcases List.mem_append.mp hr with hr | hr
    · exact ⟨Nat.lt_add_right 2 (h.fresh r hr).1, Nat.lt_add_right 2 (h.fresh r hr).2⟩
    · rw [List.mem_singleton.mp hr]
      exact ⟨Nat.lt_succ_self _, Nat.lt_add_of_pos_right (by decide)⟩
  episodes := h.episodes
  fresh_episodes e he := Nat.lt_add_right 2 (h.fresh_episodes e he)
  subscribed e he := by
    obtain ⟨r, hr, hid⟩ := h.subscribed e he
    exact ⟨r, List.mem_append_left _ hr, hid⟩
  homed := h.homed

theorem record_outcome_same (now : Timestamptz) (o : Outcome)
    (p : NotificationsDb G × DeliveryReport) :
    SameSubscribers p.1 (DeliverNotificationsUseCase.recorded_outcome gis deliver now p o).1 := by
  unfold DeliverNotificationsUseCase.recorded_outcome
  split
  · exact .update rfl rfl (le_refl _) (fun _ => rfl)
  · split
    · exact .update rfl rfl (le_refl _) (fun _ => rfl)
    · simp only [DeliveryRepo.mark_failed]
      split
      · exact .refl _
      · split
        · exact .update rfl rfl (le_refl _) (fun _ => rfl)
        · exact .update rfl rfl (le_refl _) (fun _ => rfl)

theorem record_same (now : Timestamptz) (outcomes : List Outcome) (db : NotificationsDb G) :
    SameSubscribers db (DeliverNotificationsUseCase.recorded gis deliver now outcomes db).1 := by
  have hfold : ∀ p : NotificationsDb G × DeliveryReport, SameSubscribers p.1
      (outcomes.foldl (DeliverNotificationsUseCase.recorded_outcome gis deliver now) p).1 := by
    induction outcomes with
    | nil => exact fun p => .refl p.1
    | cons o outcomes ih => exact fun p => (record_outcome_same now o p).trans (ih _)
  exact hfold (db, _)

theorem finish_same (now : Timestamptz) (outcomes : List Outcome) (db : NotificationsDb G) :
    SameSubscribers db (DeliverNotificationsUseCase.finished gis deliver now outcomes db).1 :=
  (record_same now outcomes db).trans (.of_eq rfl rfl (le_refl _))

theorem DeliverStep.same_subscribers (hs : DeliverStep gis settings deliver s a t)
    (hadd : ∀ area types sev channel endpoint credential,
      a ≠ .added area types sev channel endpoint credential) (hrem : ∀ id, a ≠ .removed id) :
    SameSubscribers s.db t.db := by
  cases a with
  | matched source batch_at now events =>
      obtain ⟨db, n, hx, rfl⟩ := hs
      have hg := MatchBatchUseCase.execute_grown hx
      exact .of_eq hg.subscriptions hg.watch_areas hg.next_id
  | claimed now =>
      obtain ⟨_, db, claims, hc, rfl⟩ := hs
      have hareas : db.watch_areas = s.db.watch_areas := by
        obtain ⟨_, _, heq⟩ := bind_ok.mp hc
        exact congrArg (fun p => p.1.watch_areas) (Except.ok.inj heq).symm
      exact .update (DeliveryRepo.claim_rows hc).1 hareas (DeliveryRepo.claim_spec hc).1.symm.le
        (fun _ => rfl)
  | accepted message_id =>
      obtain ⟨c, run, _, rfl⟩ := hs
      exact .refl _
  | refused error =>
      obtain ⟨c, run, _, rfl⟩ := hs
      exact .refl _
  | deferred =>
      obtain ⟨c, run, _, _, rfl⟩ := hs
      exact .refl _
  | recorded now =>
      obtain ⟨outcomes, _, _, rfl⟩ := hs.recorded_inv
      exact finish_same now outcomes s.db
  | crashed => exact hs ▸ .refl _
  | added area types sev channel endpoint credential => exact absurd rfl (hadd _ _ _ _ _ _)
  | paused id =>
      obtain ⟨db, hp, rfl⟩ := hs
      obtain rfl := pause_ok hp
      exact .update rfl rfl (le_refl _) (fun _ => rfl)
  | resumed id =>
      obtain ⟨db, hp, rfl⟩ := hs
      obtain rfl := resume_ok hp
      exact .update rfl rfl (le_refl _) (fun _ => rfl)
  | removed id => exact absurd rfl (hrem _)

theorem RowLinks.purged (h : RowLinks db) (now : Timestamptz) (retention : Nat) :
    RowLinks (DeliveryRepo.purge now retention db).1 := by
  have hsub : (DeliveryRepo.purge now retention db).1.episodes.Sublist db.episodes :=
    List.filter_sublist
  refine h.keep (.of_eq rfl rfl (le_refl _)) (h.episodes.sublist hsub) (fun e he => ?_)
    (fun d hd => ?_)
  · exact ⟨h.fresh_episodes e (hsub.subset he), h.subscribed e (hsub.subset he)⟩
  · obtain ⟨hd, hany⟩ := List.mem_filter.mp hd
    obtain ⟨e, he, hid, hes⟩ := h.homed d (List.mem_filter.mp hd).1
    refine ⟨e, List.mem_filter.mpr ⟨he, ?_⟩, hid, hes⟩
    rw [Bool.not_eq_true', List.any_eq_false] at hany
    by_contra hout
    exact hany e (List.mem_filter.mpr ⟨he, by simpa using hout⟩) (decide_eq_true hid)

theorem DeliverStep.linked (hs : DeliverStep gis settings deliver s a t) (h : RowLinks s.db) :
    RowLinks t.db := by
  have hrows := hs.rows
  cases a with
  | matched source batch_at now events =>
      obtain ⟨db, n, hx, rfl⟩ := hs
      exact (MatchBatchUseCase.execute_rooted hx).linked h
  | claimed now =>
      have hsame := hs.same_subscribers (by simp) (by simp)
      obtain ⟨_, db, claims, hc, rfl⟩ := hs
      obtain ⟨_, _, ⟨f, hf, hds⟩, _⟩ := DeliveryRepo.claim_spec hc
      refine h.deliveries hsame (DeliveryRepo.claim_episodes hc) (fun d' hd' => ?_)
      rw [hds] at hd'
      obtain ⟨d, hd, rfl⟩ := List.mem_map.mp hd'
      exact ⟨d, hd, (hf d).1⟩
  | accepted message_id =>
      obtain ⟨c, run, _, rfl⟩ := hs
      exact h
  | refused error =>
      obtain ⟨c, run, _, rfl⟩ := hs
      exact h
  | deferred =>
      obtain ⟨c, run, _, _, rfl⟩ := hs
      exact h
  | recorded now =>
      obtain ⟨outcomes, _, _, rfl⟩ := hs.recorded_inv
      have hframe := @DeliverNotificationsUseCase.record_recorded _ gis deliver now outcomes s.db
      have hrecorded := h.deliveries (record_same now outcomes s.db) hframe.episodes (fun d' hd' => by
        obtain ⟨d, hd, hsettle⟩ := forall₂_left
          (@DeliverNotificationsUseCase.record_rows _ gis deliver now outcomes s.db) hd'
        exact ⟨d, hd, hsettle.same⟩)
      exact hrecorded.purged now deliver.retention
  | crashed => exact hs ▸ h
  | added area hazard_types severity_min channel endpoint credential =>
      exact hs ▸ h.added area hazard_types severity_min channel endpoint credential
  | paused id =>
      have hsame := hs.same_subscribers (by simp) (by simp)
      obtain ⟨db, hp, rfl⟩ := hs
      obtain rfl := pause_ok hp
      refine h.deliveries hsame rfl (fun d' hd' => ?_)
      obtain ⟨d, hd, rfl⟩ := List.mem_map.mp hd'
      exact ⟨d, hd, (fail_pending_fate (s := s) (t := s) (a := .paused id) rfl d).same⟩
  | resumed id =>
      have hsame := hs.same_subscribers (by simp) (by simp)
      obtain ⟨db, hp, rfl⟩ := hs
      obtain rfl := resume_ok hp
      exact h.deliveries hsame rfl (fun d hd => ⟨d, hd, .refl d⟩)
  | removed id =>
      obtain ⟨db, hp, rfl⟩ := hs
      obtain ⟨r, hr, heq⟩ := bind_ok.mp hp
      exact Except.ok.inj heq ▸ h.removed (get_ok hr).1

theorem DeliverRuns.linked {as : List (DeliverAction G)}
    (hr : Run (DeliverStep gis settings deliver) DeliverState.empty as s) : RowLinks s.db :=
  hr.invariant (I := fun s => RowLinks s.db) (fun _ _ _ h hs => hs.linked h) RowLinks.empty

end GeoHazard
