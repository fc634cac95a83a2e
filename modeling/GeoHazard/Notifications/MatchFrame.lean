import GeoHazard.Notifications.MatchBatch

namespace GeoHazard

variable {G : Type} {gis : Gis G} {settings : MatchSettings}

-- a match only adds pending deliveries under new ids
structure Grown (db db' : NotificationsDb G) : Prop where
  subscriptions : db'.subscriptions = db.subscriptions
  watch_areas : db'.watch_areas = db.watch_areas
  next_id : db.next_id ≤ db'.next_id
  deliveries : ∃ extra, db'.deliveries = db.deliveries ++ extra ∧ (extra.map Delivery.id).Nodup ∧
    ∀ d ∈ extra, db.next_id ≤ d.id ∧ d.id < db'.next_id ∧ d.status = .pending

theorem Grown.of_episodes {db : NotificationsDb G} (episodes : List Episode) {next_id : Nat}
    (h : db.next_id ≤ next_id) : Grown db { db with episodes := episodes, next_id := next_id } :=
  ⟨rfl, rfl, h, [], by simp⟩

theorem Grown.refl (db : NotificationsDb G) : Grown db db := .of_episodes db.episodes (le_refl _)

theorem Grown.trans {a b c : NotificationsDb G} (h : Grown a b) (k : Grown b c) : Grown a c := by
  obtain ⟨xs, hxs, hnx, hx⟩ := h.deliveries
  obtain ⟨ys, hys, hny, hy⟩ := k.deliveries
  refine ⟨k.subscriptions.trans h.subscriptions, k.watch_areas.trans h.watch_areas,
    le_trans h.next_id k.next_id, xs ++ ys, ?_, ?_, fun d hd => ?_⟩
  · rw [hys, hxs, List.append_assoc]
  · rw [List.map_append, List.nodup_append]
    refine ⟨hnx, hny, fun i hi j hj hij => ?_⟩
    obtain ⟨d, hd, rfl⟩ := List.mem_map.mp hi
    obtain ⟨d', hd', rfl⟩ := List.mem_map.mp hj
    exact absurd (lt_of_lt_of_le (hx d hd).2.1 (hy d' hd').1) (hij ▸ lt_irrefl _)
  · rcases List.mem_append.mp hd with hd | hd
    · obtain ⟨hge, hlt, hp⟩ := hx d hd
      exact ⟨hge, lt_of_lt_of_le hlt k.next_id, hp⟩
    · obtain ⟨hge, hlt, hp⟩ := hy d hd
      exact ⟨le_trans h.next_id hge, hlt, hp⟩

-- a relation that each write of a match keeps
structure MatchClosed (gis : Gis G) (R : NotificationsDb G → NotificationsDb G → Prop) : Prop where
  refl : ∀ db, R db db
  trans : ∀ {a b c}, R a b → R b c → R a c
  close : ∀ id at_ db, R db (EpisodeRepo.close id at_ db)
  refresh : ∀ id n x at_ db, R db (EpisodeRepo.refresh id n x at_ db)
  open_ : ∀ {slot severity x at_ db r}, EpisodeRepo.open_ slot severity x at_ db = .ok r → R db r.1
  add_delivery : ∀ slot id reason g now db,
    R db (MatchBatchUseCase.add_delivery gis slot id reason g now db).1

namespace MatchBatchUseCase

variable {R : NotificationsDb G → NotificationsDb G → Prop}

theorem match_group_closed (hR : MatchClosed gis R) {batch_at now : Timestamptz}
    {current : Option OpenEpisode} {slot : Nat × String} {g : Group} {db : NotificationsDb G}
    {r : NotificationsDb G × Bool}
    (h : match_group gis settings batch_at now current slot g db = .ok r) : R db r.1 := by
  have hvacated : R db (vacated batch_at current db) := by
    cases current with
    | none => exact hR.refl db
    | some cur => exact hR.close cur.id batch_at db
  rcases match_group_cases h with ⟨cur, rfl, -, rfl⟩ | ⟨cur, rfl, -, rfl⟩ | ⟨p, -, hp, rfl⟩
  · exact hR.refresh cur.id cur.notified_severity g.expires_at batch_at db
  · exact hR.trans (hR.refresh cur.id g.severity g.expires_at batch_at db)
      (hR.add_delivery slot cur.id .escalated g now _)
  · exact hR.trans (hR.trans hvacated (hR.open_ hp))
      (hR.add_delivery slot p.2 .opened g now p.1)

theorem match_groups_closed (hR : MatchClosed gis R) {batch_at now : Timestamptz}
    {opens : List ((Nat × String) × OpenEpisode)} {groups : Groups} {db : NotificationsDb G}
    {r : NotificationsDb G × Groups}
    (h : match_groups gis settings batch_at now opens groups db = .ok r) : R db r.1 := by
  induction groups generalizing db r with
  | nil => exact Except.ok.inj h ▸ hR.refl db
  | cons p groups ih =>
      obtain ⟨slot, g⟩ := p
      obtain ⟨r₁, h₁, h⟩ := bind_ok.mp h
      obtain ⟨r₂, h₂, h⟩ := bind_ok.mp h
      have hrest : R r₁.1 r₂.1 := ih h₂
      exact Except.ok.inj h ▸ hR.trans (match_group_closed hR h₁) hrest

theorem execute_closed (hR : MatchClosed gis R) {source : Source} {batch_at now : Timestamptz}
    {events : List (HazardEvent G)} {db : NotificationsDb G} {r : NotificationsDb G × Nat}
    (h : execute gis settings source batch_at now events db = .ok r) : R db r.1 := by
  obtain ⟨r₁, h₁, h⟩ := bind_ok.mp h
  exact Except.ok.inj h ▸ match_groups_closed hR (execute_groups_iff.mp h₁).2

theorem add_delivery_grown (slot : Nat × String) (episode_id : Nat) (reason : Reason) (g : Group)
    (now : Timestamptz) (db : NotificationsDb G) :
    Grown db (add_delivery gis slot episode_id reason g now db).1 := by
  unfold add_delivery EpisodeRepo.add_delivery
  split
  · exact .refl db
  · exact ⟨rfl, rfl, Nat.le_succ _, _, rfl, by simp, by simp [EpisodeRepo.delivery]⟩

theorem open_ok {slot : Nat × String} {severity : Nat} {expires_at : Option Timestamptz}
    {at_ : Timestamptz} {db : NotificationsDb G} {r : NotificationsDb G × Nat}
    (h : EpisodeRepo.open_ slot severity expires_at at_ db = .ok r) :
    r = ({ db with
      episodes := db.episodes ++ [EpisodeRepo.opened slot severity expires_at at_ db.next_id]
      next_id := db.next_id + 1 }, db.next_id) :=
  (EpisodeRepo.open_iff.mp h).2.2

theorem grown_closed : MatchClosed gis (Grown (G := G)) where
  refl := .refl
  trans := .trans
  close _ _ _ := .of_episodes _ (le_refl _)
  refresh _ _ _ _ _ := .of_episodes _ (le_refl _)
  open_ h := open_ok h ▸ .of_episodes _ (Nat.le_succ _)
  add_delivery := add_delivery_grown

theorem execute_grown {source : Source} {batch_at now : Timestamptz} {events : List (HazardEvent G)}
    {db : NotificationsDb G} {r : NotificationsDb G × Nat}
    (h : execute gis settings source batch_at now events db = .ok r) : Grown db r.1 :=
  execute_closed grown_closed h

end MatchBatchUseCase

-- the episode of that id, if it is still there, is one of the subscription's
def BelongsTo (subscription_id episode_id : Nat) (db : NotificationsDb G) : Prop :=
  episode_id < db.next_id ∧
    ∀ e ∈ db.episodes, e.id = episode_id → e.subscription_id = subscription_id

structure Owned (db : NotificationsDb G) : Prop where
  unique : Table.Unique Episode.id db.episodes
  fresh : ∀ e ∈ db.episodes, e.id < db.next_id
  deliveries : ∀ d ∈ db.deliveries, BelongsTo d.subscription_id d.episode_id db

-- what the writes of a match keep of the episodes
structure Extends (db db' : NotificationsDb G) : Prop where
  owned : Owned db → Owned db'
  belongs : ∀ {subscription_id episode_id}, BelongsTo subscription_id episode_id db →
    BelongsTo subscription_id episode_id db'

theorem Extends.refl (db : NotificationsDb G) : Extends db db := ⟨id, id⟩

theorem Extends.trans {a b c : NotificationsDb G} (h : Extends a b) (k : Extends b c) : Extends a c :=
  ⟨fun ho => k.owned (h.owned ho), fun hb => k.belongs (h.belongs hb)⟩

theorem Extends.update {p : Episode → Bool} {f : Episode → Episode} (db : NotificationsDb G)
    (hid : ∀ e, (f e).id = e.id) (hsub : ∀ e, (f e).subscription_id = e.subscription_id) :
    Extends db { db with episodes := Table.update p f db.episodes } := by
  have hrow : ∀ e ∈ Table.update p f db.episodes, ∃ o ∈ db.episodes, e.id = o.id ∧
      e.subscription_id = o.subscription_id := by
    intro e he
    obtain ⟨o, ho, rfl⟩ := Table.mem_update.mp he
    by_cases hp : p o = true
    · exact ⟨o, ho, by simp [hp, hid, hsub]⟩
    · exact ⟨o, ho, by simp [hp]⟩
  have hbelongs : ∀ {subscription_id episode_id}, BelongsTo subscription_id episode_id db →
      BelongsTo subscription_id episode_id { db with episodes := Table.update p f db.episodes } := by
    intro subscription_id episode_id hb
    refine ⟨hb.1, fun e he hi => ?_⟩
    obtain ⟨o, ho, hoid, hosub⟩ := hrow e he
    exact hosub.trans (hb.2 o ho (hoid.symm.trans hi))
  refine ⟨fun h => ⟨Table.unique_update (fun e _ => hid e) h.unique, fun e he => ?_,
    fun d hd => hbelongs (h.deliveries d hd)⟩, hbelongs⟩
  obtain ⟨o, ho, hoid, _⟩ := hrow e he
  exact hoid ▸ h.fresh o ho

theorem open_extends {slot : Nat × String} {severity : Nat} {expires_at : Option Timestamptz}
    {at_ : Timestamptz} {db : NotificationsDb G} {r : NotificationsDb G × Nat}
    (h : EpisodeRepo.open_ slot severity expires_at at_ db = .ok r) :
    Extends db r.1 ∧ (Owned db → BelongsTo slot.1 r.2 r.1) := by
  obtain rfl := MatchBatchUseCase.open_ok h
  have hbelongs : ∀ {subscription_id episode_id}, BelongsTo subscription_id episode_id db →
      BelongsTo subscription_id episode_id { db with
        episodes := db.episodes ++
          [EpisodeRepo.opened slot severity expires_at at_ db.next_id]
        next_id := db.next_id + 1 } := by
    intro subscription_id episode_id hb
    refine ⟨Nat.lt_succ_of_lt hb.1, fun e he hi => ?_⟩
    rcases List.mem_append.mp he with he | he
    · exact hb.2 e he hi
    · rw [List.mem_singleton.mp he] at hi
      exact absurd hi.symm hb.1.ne
  refine ⟨⟨fun ho => ⟨?_, fun e he => ?_, fun d hd => hbelongs (ho.deliveries d hd)⟩, hbelongs⟩,
    fun ho => ⟨Nat.lt_succ_self _, fun e he hi => ?_⟩⟩
  · exact @Table.unique_concat _ _ _ Episode.id _ _ ho.unique
      (Table.find_none.mpr (fun e he => (ho.fresh e he).ne))
  · rcases List.mem_append.mp he with he | he
    · exact Nat.lt_succ_of_lt (ho.fresh e he)
    · rw [List.mem_singleton.mp he]
      exact Nat.lt_succ_self _
  · rcases List.mem_append.mp he with he | he
    · exact absurd hi (ho.fresh e he).ne
    · rw [List.mem_singleton.mp he]
      rfl

namespace MatchBatchUseCase

theorem add_delivery_extends {slot : Nat × String} {episode_id : Nat} (reason : Reason) (g : Group)
    (now : Timestamptz) {db : NotificationsDb G} (hb : BelongsTo slot.1 episode_id db) :
    Extends db (add_delivery gis slot episode_id reason g now db).1 := by
  unfold add_delivery EpisodeRepo.add_delivery
  split
  · exact .refl db
  · refine ⟨fun ho => ⟨ho.unique, fun e he => Nat.lt_succ_of_lt (ho.fresh e he), fun d hd => ?_⟩,
      fun hb' => ⟨Nat.lt_succ_of_lt hb'.1, hb'.2⟩⟩
    rcases List.mem_append.mp hd with hd | hd
    · exact ⟨Nat.lt_succ_of_lt (ho.deliveries d hd).1, (ho.deliveries d hd).2⟩
    · rw [List.mem_singleton.mp hd]
      exact ⟨Nat.lt_succ_of_lt hb.1, hb.2⟩

theorem match_group_owned {batch_at now : Timestamptz} {current : Option OpenEpisode}
    {slot : Nat × String} {g : Group} {db : NotificationsDb G} {r : NotificationsDb G × Bool}
    (ho : Owned db) (hcur : ∀ cur, current = some cur → BelongsTo slot.1 cur.id db)
    (h : match_group gis settings batch_at now current slot g db = .ok r) : Extends db r.1 := by
  have hrefresh : ∀ id n, Extends db (EpisodeRepo.refresh id n g.expires_at batch_at db) :=
    fun _ n => .update (f := Episode.refreshed n g.expires_at batch_at) db (fun _ => rfl)
      (fun _ => rfl)
  have hvacated : Extends db (vacated batch_at current db) := by
    cases current with
    | none => exact .refl db
    | some cur => exact .update (f := Episode.closed batch_at) db (fun _ => rfl) (fun _ => rfl)
  rcases match_group_cases h with ⟨cur, rfl, -, rfl⟩ | ⟨cur, rfl, -, rfl⟩ | ⟨p, -, hp, rfl⟩
  · exact hrefresh cur.id cur.notified_severity
  · have hext := hrefresh cur.id g.severity
    exact hext.trans (add_delivery_extends .escalated g now (hext.belongs (hcur cur rfl)))
  · obtain ⟨hext, hnew⟩ := open_extends hp
    exact (hvacated.trans hext).trans
      (add_delivery_extends .opened g now (hnew (hvacated.owned ho)))

theorem match_groups_owned {batch_at now : Timestamptz}
    {opens : List ((Nat × String) × OpenEpisode)} {groups : Groups} {db : NotificationsDb G}
    {r : NotificationsDb G × Groups} (ho : Owned db)
    (hopens : ∀ slot cur, Dict.get slot opens = some cur → BelongsTo slot.1 cur.id db)
    (h : match_groups gis settings batch_at now opens groups db = .ok r) : Owned r.1 := by
  induction groups generalizing db r with
  | nil => exact Except.ok.inj h ▸ ho
  | cons p groups ih =>
      obtain ⟨slot, g⟩ := p
      simp only [match_groups, bind, Except.bind] at h
      split at h
      · simp at h
      · next r₁ h₁ =>
          split at h
          · simp at h
          · next r₂ h₂ =>
              have hx := match_group_owned ho (hopens slot) h₁
              have hrest : Owned r₂.1 :=
                ih (hx.owned ho) (fun s cur hs => hx.belongs (hopens s cur hs)) h₂
              exact Except.ok.inj h ▸ hrest

theorem open_rows_belong {db : NotificationsDb G} (ho : Owned db) (wanted : List (Nat × String))
    {slot : Nat × String} {cur : OpenEpisode}
    (h : Dict.get slot (EpisodeRepo.open_rows wanted db) = some cur) :
    BelongsTo slot.1 cur.id db := by
  rw [EpisodeRepo.open_rows, Dict.get_ofList] at h
  obtain ⟨e, he, heq⟩ := List.mem_map.mp (List.mem_reverse.mp (Dict.mem_of_get h))
  obtain ⟨rfl, rfl⟩ := Prod.mk.inj heq
  have hmem := (List.mem_filter.mp he).1
  refine ⟨ho.fresh e hmem, fun o hoe hi => ?_⟩
  obtain rfl := Table.unique_eq ho.unique hoe hmem hi
  rfl

theorem execute_owned {source : Source} {batch_at now : Timestamptz} {events : List (HazardEvent G)}
    {db : NotificationsDb G} {r : NotificationsDb G × Nat} (ho : Owned db)
    (h : execute gis settings source batch_at now events db = .ok r) : Owned r.1 := by
  obtain ⟨r₁, h₁, h⟩ := bind_ok.mp h
  exact Except.ok.inj h ▸ match_groups_owned ho (fun _ _ => open_rows_belong ho _)
    (execute_groups_iff.mp h₁).2

end MatchBatchUseCase

end GeoHazard
