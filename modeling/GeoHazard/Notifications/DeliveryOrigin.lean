import GeoHazard.Notifications.RowLinks

namespace GeoHazard
open Transition

variable {G : Type} {gis : Gis G} {settings : MatchSettings} {deliver : DeliverSettings}
  {db db' : NotificationsDb G} {s t : DeliverState G} {a : DeliverAction G}

-- what a row of deliveries was created with; no statement updates it
structure SameItems (d d' : Delivery) : Prop extends SameDelivery d d' where
  items : d'.items = d.items
  item_count : d'.item_count = d.item_count

theorem SameItems.refl (d : Delivery) : SameItems d d := ⟨.refl d, rfl, rfl⟩

theorem SameItems.trans {a b c : Delivery} (h : SameItems a b) (k : SameItems b c) :
    SameItems a c :=
  ⟨h.toSameDelivery.trans k.toSameDelivery, k.items.trans h.items, k.item_count.trans h.item_count⟩

structure Unstamped (d d' : Delivery) : Prop extends SameItems d d' where
  message_id : d'.message_id = d.message_id
  sent_at : d'.sent_at = d.sent_at

theorem Unstamped.refl (d : Delivery) : Unstamped d d := ⟨.refl d, rfl, rfl⟩

theorem Unstamped.update {p : Delivery → Bool} {f : Delivery → Delivery} {ds : List Delivery}
    (hf : ∀ d, Unstamped d (f d)) {d' : Delivery} (h : d' ∈ Table.update p f ds) :
    ∃ d ∈ ds, Unstamped d d' := by
  obtain ⟨d, hd, rfl⟩ := Table.mem_update.mp h
  refine ⟨d, hd, ?_⟩
  split
  · exact hf d
  · exact .refl d

-- what recording the outcomes writes of a row
inductive Stamping (now : Timestamptz) (outcomes : List Outcome) (d d' : Delivery) : Prop
  | kept (unstamped : Unstamped d d')
  | stamped (same : SameItems d d') {o : Outcome} (mem : o ∈ outcomes) {message_id : Nat}
      (accepted : o.message_id = some message_id) (claimed : d.id ∈ o.claim.delivery_ids)
      (message : d'.message_id = some message_id) (sent_at : d'.sent_at = some now)

theorem Stamping.trans {now : Timestamptz} {os os' : List Outcome} {x y z : Delivery}
    (h : Stamping now os x y) (k : Stamping now os' y z) : Stamping now (os ++ os') x z := by
  cases k with
  | stamped same mem accepted claimed message sent_at =>
      have hxy : SameItems x y := by
        cases h with
        | kept unstamped => exact unstamped.toSameItems
        | stamped same => exact same
      exact .stamped (hxy.trans same) (List.mem_append_right _ mem) accepted (hxy.id ▸ claimed)
        message sent_at
  | kept k =>
      cases h with
      | kept h =>
          exact .kept ⟨h.toSameItems.trans k.toSameItems, k.message_id.trans h.message_id,
            k.sent_at.trans h.sent_at⟩
      | stamped same mem accepted claimed message sent_at =>
          exact .stamped (same.trans k.toSameItems) (List.mem_append_left _ mem) accepted claimed
            (k.message_id.trans message) (k.sent_at.trans sent_at)

theorem attempted_unstamped (d : Delivery) : Unstamped d (DeliveryRepo.attempted d) :=
  ⟨⟨⟨rfl, rfl, rfl, rfl, rfl⟩, rfl, rfl⟩, rfl, rfl⟩

theorem dropped_unstamped (d : Delivery) : Unstamped d (DeliveryRepo.dropped d) :=
  ⟨⟨⟨rfl, rfl, rfl, rfl, rfl⟩, rfl, rfl⟩, rfl, rfl⟩

theorem record_outcome_stamping {now : Timestamptz} {o : Outcome}
    {p : NotificationsDb G × DeliveryReport} {d' : Delivery}
    (h : d' ∈ (DeliverNotificationsUseCase.recorded_outcome gis deliver now p o).1.deliveries) :
    ∃ d ∈ p.1.deliveries, Stamping now [o] d d' := by
  unfold DeliverNotificationsUseCase.recorded_outcome at h
  split at h
  · exact ⟨d', h, .kept (.refl d')⟩
  · split at h
    · next message_id heq =>
        obtain ⟨d, hd, rfl⟩ := Table.mem_update.mp h
        refine ⟨d, hd, ?_⟩
        by_cases hid : d.id ∈ o.claim.delivery_ids
        · rw [if_pos (decide_eq_true hid)]
          exact .stamped ⟨⟨rfl, rfl, rfl, rfl, rfl⟩, rfl, rfl⟩ (List.mem_singleton_self _) heq hid
            rfl rfl
        · rw [if_neg (by simpa using hid)]
          exact .kept (.refl d)
    · rcases @DeliveryRepo.mark_failed_spec _ gis o.claim.id
        (DeliverNotificationsUseCase.error_text o) now deliver.pause_after p.1 with
        hsame | ⟨hfail, _⟩
      · exact ⟨d', hsame ▸ h, .kept (.refl d')⟩
      · rw [hfail] at h
        obtain ⟨d, hd, hu⟩ := Unstamped.update dropped_unstamped h
        exact ⟨d, hd, .kept hu⟩

theorem record_stamping {now : Timestamptz} {outcomes : List Outcome} {d' : Delivery}
    (h : d' ∈ (DeliverNotificationsUseCase.recorded gis deliver now outcomes db).1.deliveries) :
    ∃ d ∈ db.deliveries, Stamping now outcomes d d' := by
  have hfold : ∀ p : NotificationsDb G × DeliveryReport,
      d' ∈ (outcomes.foldl
        (DeliverNotificationsUseCase.recorded_outcome gis deliver now) p).1.deliveries →
        ∃ d ∈ p.1.deliveries, Stamping now outcomes d d' := by
    clear h
    induction outcomes with
    | nil => exact fun p h => ⟨d', h, .kept (.refl d')⟩
    | cons o outcomes ih =>
        intro p h
        obtain ⟨y, hy, hyd⟩ := ih _ h
        obtain ⟨x, hx, hxy⟩ := record_outcome_stamping hy
        exact ⟨x, hx, hxy.trans hyd⟩
  exact hfold _ h

namespace MatchBatchUseCase

-- a delivery that the loop over these groups creates
def CreatedFrom (gis : Gis G) (groups : Groups) (now : Timestamptz) (d : Delivery) : Prop :=
  ∃ slot g episode_id reason id, (slot, g) ∈ groups ∧ d = delivered gis slot episode_id reason g now id

theorem add_delivery_created (slot : Nat × String) (episode_id : Nat) (reason : Reason) (g : Group)
    (now : Timestamptz) {d : Delivery}
    (h : d ∈ (add_delivery gis slot episode_id reason g now db).1.deliveries) :
    d ∈ db.deliveries ∨ CreatedFrom gis [(slot, g)] now d := by
  unfold add_delivery EpisodeRepo.add_delivery at h
  split at h
  · exact .inl h
  · rcases List.mem_append.mp h with h | h
    · exact .inl h
    · exact .inr ⟨slot, g, episode_id, reason, db.next_id, List.mem_singleton_self _,
        List.mem_singleton.mp h⟩

theorem match_group_created {batch_at now : Timestamptz} {current : Option OpenEpisode}
    {slot : Nat × String} {g : Group} {r : NotificationsDb G × Bool} {d : Delivery}
    (h : match_group gis settings batch_at now current slot g db = .ok r)
    (hd : d ∈ r.1.deliveries) : d ∈ db.deliveries ∨ CreatedFrom gis [(slot, g)] now d := by
  rcases match_group_cases h with ⟨cur, -, -, rfl⟩ | ⟨cur, -, -, rfl⟩ | ⟨p, -, hp, rfl⟩
  · exact .inl hd
  · exact @add_delivery_created _ gis (EpisodeRepo.refresh cur.id g.severity g.expires_at batch_at db)
      slot cur.id .escalated g now d hd
  · have hdel : p.1.deliveries = db.deliveries := by
      rw [open_ok hp]
      cases current <;> rfl
    exact hdel ▸ add_delivery_created _ _ _ _ _ hd

theorem match_groups_created {batch_at now : Timestamptz}
    {opens : List ((Nat × String) × OpenEpisode)} {groups : Groups} {db : NotificationsDb G}
    {r : NotificationsDb G × Groups} {d : Delivery}
    (h : match_groups gis settings batch_at now opens groups db = .ok r)
    (hd : d ∈ r.1.deliveries) : d ∈ db.deliveries ∨ CreatedFrom gis groups now d := by
  induction groups generalizing db r with
  | nil =>
      obtain rfl := Except.ok.inj h
      exact .inl hd
  | cons p groups ih =>
      obtain ⟨slot, g⟩ := p
      obtain ⟨r₁, h₁, h⟩ := bind_ok.mp h
      obtain ⟨r₂, h₂, h⟩ := bind_ok.mp h
      obtain rfl := Except.ok.inj h
      rcases ih h₂ hd with hd₁ | ⟨slot', g', episode_id, reason, id, hmem, heq⟩
      · rcases match_group_created h₁ hd₁ with hold | ⟨slot', g', episode_id, reason, id, hmem, heq⟩
        · exact .inl hold
        · rw [List.mem_singleton] at hmem
          exact .inr ⟨slot', g', episode_id, reason, id, hmem ▸ List.mem_cons_self, heq⟩
      · exact .inr ⟨slot', g', episode_id, reason, id, List.mem_cons_of_mem _ hmem, heq⟩

theorem execute_created {source : Source} {batch_at now : Timestamptz} {events : List (HazardEvent G)}
    {r : NotificationsDb G × Nat} {d : Delivery}
    (h : execute gis settings source batch_at now events db = .ok r) (hd : d ∈ r.1.deliveries) :
    d ∈ db.deliveries ∨
      CreatedFrom gis (groups_of gis settings source batch_at events db) now d := by
  obtain ⟨r₁, h₁, h⟩ := bind_ok.mp h
  obtain rfl := Except.ok.inj h
  exact match_groups_created (execute_groups_iff.mp h₁).2 hd

end MatchBatchUseCase

inductive Origin (gis : Gis G) (settings : MatchSettings) (s : DeliverState G) (d' : Delivery) :
    DeliverAction G → Prop
  | kept {a : DeliverAction G} {d : Delivery} (mem : d ∈ s.db.deliveries)
      (unstamped : Unstamped d d') : Origin gis settings s d' a
  | created {source : Source} {batch_at now : Timestamptz} {events : List (HazardEvent G)}
      (created : MatchBatchUseCase.CreatedFrom gis
        (MatchBatchUseCase.groups_of gis settings source batch_at events s.db) now d') :
      Origin gis settings s d' (.matched source batch_at now events)
  | recorded {now : Timestamptz} {outcomes : List Outcome} {d : Delivery}
      (recording : s.run = some ⟨[], outcomes⟩) (mem : d ∈ s.db.deliveries)
      (stamping : Stamping now outcomes d d') : Origin gis settings s d' (.recorded now)

theorem DeliverStep.origin (hs : DeliverStep gis settings deliver s a t) {d' : Delivery}
    (hd : d' ∈ t.db.deliveries) : Origin gis settings s d' a := by
  have hsame : d' ∈ s.db.deliveries → Origin gis settings s d' a := fun h => .kept h (.refl d')
  cases a with
  | matched source batch_at now events =>
      obtain ⟨db, n, hx, rfl⟩ := hs
      exact (MatchBatchUseCase.execute_created hx hd).elim hsame .created
  | claimed now =>
      obtain ⟨_, db, claims, hc, rfl⟩ := hs
      have hrows : d' ∈ db.deliveries := hd
      rw [DeliveryRepo.claim_deliveries hc] at hrows
      obtain ⟨d, hdm, hu⟩ := Unstamped.update attempted_unstamped hrows
      exact .kept hdm hu
  | accepted message_id =>
      obtain ⟨c, run, _, rfl⟩ := hs
      exact hsame hd
  | refused error =>
      obtain ⟨c, run, _, rfl⟩ := hs
      exact hsame hd
  | deferred =>
      obtain ⟨c, run, _, _, rfl⟩ := hs
      exact hsame hd
  | recorded now =>
      obtain ⟨outcomes, hrun, _, rfl⟩ := hs.recorded_inv
      obtain ⟨d, hdm, hst⟩ := record_stamping (DeliveryRepo.purge_mem hd)
      exact .recorded hrun hdm hst
  | crashed => exact hsame (by rwa [hs] at hd)
  | added area hazard_types severity_min channel endpoint credential =>
      exact hsame (by rwa [hs] at hd)
  | paused id =>
      obtain ⟨db, hp, rfl⟩ := hs
      obtain rfl := pause_ok hp
      obtain ⟨d, hdm, hu⟩ := Unstamped.update dropped_unstamped hd
      exact .kept hdm hu
  | resumed id =>
      obtain ⟨db, hp, rfl⟩ := hs
      obtain rfl := resume_ok hp
      exact hsame hd
  | removed id =>
      obtain ⟨db, hp, rfl⟩ := hs
      obtain ⟨r, -, rfl⟩ := remove_ok hp
      exact hsame (List.mem_filter.mp hd).1

theorem Origin.same {d' : Delivery} (h : Origin gis settings s d' a)
    (ha : ∀ source batch_at now events, a ≠ .matched source batch_at now events) :
    ∃ d ∈ s.db.deliveries, SameItems d d' := by
  cases h with
  | kept mem unstamped => exact ⟨_, mem, unstamped.toSameItems⟩
  | created => exact absurd rfl (ha _ _ _ _)
  | recorded _ mem stamping =>
      cases stamping with
      | kept unstamped => exact ⟨_, mem, unstamped.toSameItems⟩
      | stamped same => exact ⟨_, mem, same⟩

end GeoHazard
