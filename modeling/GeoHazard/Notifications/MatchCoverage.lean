import GeoHazard.Notifications.MatcherSerial
import GeoHazard.Notifications.ToldMatches

namespace GeoHazard
open MatchBatchUseCase Matchers

variable {G : Type} {gis : Gis G} {settings : MatchSettings} {deliver : DeliverSettings}
  {db db' : NotificationsDb G} {s t : DeliverState G} {a : DeliverAction G} {slot : Nat × String}
  {severity : Nat} {g : Group} {source : Source} {batch_at now : Timestamptz}
  {events : List (HazardEvent G)}

-- no delivery is of a severity that its episode has yet to notify
structure Paced (db : NotificationsDb G) : Prop extends Owned db where
  ceiling : ∀ d ∈ db.deliveries, ∀ e ∈ db.episodes, e.id = d.episode_id →
    d.severity ≤ e.notified_severity

theorem Paced.empty : Paced (NotificationsDb.empty (G := G)) where
  toOwned := DeliverInv.empty.owned
  ceiling d hd := by simp [NotificationsDb.empty] at hd

theorem Paced.shrink (h : Paced db) (ho : Owned db') (he : db'.episodes.Sublist db.episodes)
    (hd : ∀ d' ∈ db'.deliveries, ∃ d ∈ db.deliveries, SameDelivery d d') : Paced db' where
  toOwned := ho
  ceiling d' hd' e hm hid := by
    obtain ⟨d, hdm, hsame⟩ := hd d' hd'
    rw [hsame.severity]
    exact h.ceiling d hdm e (he.subset hm) (hid.trans hsame.episode_id)

theorem Paced.update (h : Paced db) {p : Episode → Bool} {f : Episode → Episode}
    (hid : ∀ e, (f e).id = e.id) (hsub : ∀ e, (f e).subscription_id = e.subscription_id)
    (hle : ∀ e, e.notified_severity ≤ (f e).notified_severity) :
    Paced { db with episodes := Table.update p f db.episodes } where
  toOwned := (Extends.update db hid hsub).owned h.toOwned
  ceiling d hd e he hde := by
    obtain ⟨o, ho, rfl⟩ := Table.mem_update.mp he
    by_cases hp : p o = true
    · rw [if_pos hp] at hde ⊢
      exact (h.ceiling d hd o ho ((hid o).symm.trans hde)).trans (hle o)
    · rw [if_neg hp] at hde ⊢
      exact h.ceiling d hd o ho hde

theorem Paced.refresh (h : Paced db) (id n : Nat) (x : Option Timestamptz) (at_ : Timestamptz) :
    Paced (EpisodeRepo.refresh id n x at_ db) :=
  h.update (f := Episode.refreshed n x at_) (fun _ => rfl) (fun _ => rfl)
    (fun _ => Nat.le_max_left _ _)

theorem Paced.close (h : Paced db) (id : Nat) (at_ : Timestamptz) :
    Paced (EpisodeRepo.close id at_ db) :=
  h.update (f := Episode.closed at_) (fun _ => rfl) (fun _ => rfl) (fun _ => le_refl _)

theorem Paced.open_ (h : Paced db) {x : Option Timestamptz} {at_ : Timestamptz}
    {p : NotificationsDb G × Nat} (hp : EpisodeRepo.open_ slot severity x at_ db = .ok p) :
    Paced p.1 where
  toOwned := (open_extends hp).1.owned h.toOwned
  ceiling d hd e he hde := by
    obtain rfl := open_ok hp
    rcases List.mem_append.mp he with he | he
    · exact h.ceiling d hd e he hde
    · rw [List.mem_singleton.mp he] at hde
      exact absurd hde (h.deliveries d hd).1.ne'

theorem Paced.add_delivery (h : Paced db) {episode_id : Nat} (reason : Reason)
    (hb : BelongsTo slot.1 episode_id db)
    (hle : ∀ e ∈ db.episodes, e.id = episode_id → g.severity ≤ e.notified_severity) :
    Paced (add_delivery gis slot episode_id reason g now db).1 where
  toOwned := (add_delivery_extends reason g now hb).owned h.toOwned
  ceiling d hd e he hde := by
    unfold MatchBatchUseCase.add_delivery EpisodeRepo.add_delivery at hd he
    split at hd
    · next hany =>
        rw [if_pos hany] at he
        exact h.ceiling d hd e he hde
    · next hany =>
        rw [if_neg hany] at he
        rcases List.mem_append.mp hd with hd | hd
        · exact h.ceiling d hd e he hde
        · rw [List.mem_singleton.mp hd] at hde ⊢
          exact hle e he hde

-- an open episode of the slot has notified at least this severity: it had, or its delivery is new
def Warned (slot : Nat × String) (severity : Nat) (db db' : NotificationsDb G) : Prop :=
  ∃ e ∈ episodes_of slot db'.episodes, e.closed_at = none ∧ severity ≤ e.notified_severity ∧
    ((∃ o ∈ episodes_of slot db.episodes, o.id = e.id ∧ o.closed_at = none ∧
        severity ≤ o.notified_severity) ∨
      ∃ d ∈ db'.deliveries, db.next_id ≤ d.id ∧ d.status = .pending ∧ d.episode_id = e.id ∧
        d.subscription_id = slot.1 ∧ severity ≤ d.severity)

theorem Warned.weaken {n : Nat} (h : Warned slot severity db db') (hle : n ≤ severity) :
    Warned slot n db db' := by
  obtain ⟨e, he, hopen, hsev, ⟨o, ho, hid, hoo, hos⟩ | ⟨d, hd, hnew, hp, hep, hsub, hds⟩⟩ := h
  · exact ⟨e, he, hopen, hle.trans hsev, .inl ⟨o, ho, hid, hoo, hle.trans hos⟩⟩
  · exact ⟨e, he, hopen, hle.trans hsev, .inr ⟨d, hd, hnew, hp, hep, hsub, hle.trans hds⟩⟩

-- what the body of the loop does to the tables
structure GroupWarned (slot : Nat × String) (severity : Nat) (db db' : NotificationsDb G) : Prop where
  paced : Paced db'
  grown : Grown db db'
  others : ∀ s, s ≠ slot → episodes_of s db'.episodes = episodes_of s db.episodes
  warned : Warned slot severity db db'

theorem Matchers.Live.others {c : OpenEpisode} {s : Nat × String} (h : Live slot db c) (ho : Owned db)
    {p : Episode → Bool} (hp : ∀ o, p o = true → o.id = c.id) {f : Episode → Episode}
    (hf : ∀ e, (f e).slot = e.slot) (hs : s ≠ slot) :
    episodes_of s (Table.update p f db.episodes) = episodes_of s db.episodes := by
  obtain ⟨e, he, -, rfl, rfl⟩ := h
  exact episodes_of_update_other ho.unique he hp hs (hf e)

theorem Matchers.Live.refreshed {c : OpenEpisode} (h : Live slot db c) (n : Nat) (x : Option Timestamptz)
    (at_ : Timestamptz) :
    ∃ e ∈ episodes_of slot db.episodes, e.closed_at = none ∧ e.id = c.id ∧
      e.notified_severity = c.notified_severity ∧
      Episode.refreshed n x at_ e ∈
        episodes_of slot (EpisodeRepo.refresh c.id n x at_ db).episodes := by
  obtain ⟨e, he, hopen, hes, rfl⟩ := h
  refine ⟨e, mem_episodes_of.mpr ⟨he, hes⟩, hopen, rfl, rfl, mem_episodes_of.mpr ⟨?_, hes⟩⟩
  exact Table.mem_update.mpr ⟨e, he, by simp [Episode.to_open]⟩

theorem touch_warned {c : OpenEpisode} (h : Paced db) (hc : Live slot db c)
    (hle : g.severity ≤ c.notified_severity) :
    GroupWarned slot g.severity db
      (EpisodeRepo.refresh c.id c.notified_severity g.expires_at batch_at db) where
  paced := h.refresh _ _ _ _
  grown := .of_episodes _ (le_refl _)
  others _ hs := hc.others h.toOwned (fun o ho => of_decide_eq_true ho) (fun _ => rfl) hs
  warned := by
    obtain ⟨e, he, hopen, hid, hn, hmem⟩ := hc.refreshed c.notified_severity g.expires_at batch_at
    have hsev : g.severity ≤ e.notified_severity := hn ▸ hle
    exact ⟨_, hmem, hopen, hsev.trans (Nat.le_max_left _ _), .inl ⟨e, he, rfl, hopen, hsev⟩⟩

theorem escalate_warned {c : OpenEpisode} (h : Paced db) (hc : Live slot db c)
    (hlt : c.notified_severity < g.severity) :
    GroupWarned slot g.severity db (add_delivery gis slot c.id .escalated g now
      (EpisodeRepo.refresh c.id g.severity g.expires_at batch_at db)).1 := by
  have hpaced := h.refresh c.id g.severity g.expires_at batch_at
  obtain ⟨e, he, hopen, hid, hn, hmem⟩ := hc.refreshed g.severity g.expires_at batch_at
  obtain ⟨hem, hes⟩ := mem_episodes_of.mp he
  have hrow : ∀ o ∈ (EpisodeRepo.refresh c.id g.severity g.expires_at batch_at db).episodes,
      o.id = c.id → o = Episode.refreshed g.severity g.expires_at batch_at e :=
    fun o ho hoid => Table.unique_eq hpaced.unique ho (mem_episodes_of.mp hmem).1 (hoid.trans hid.symm)
  have hbelongs : BelongsTo slot.1 c.id
      (EpisodeRepo.refresh c.id g.severity g.expires_at batch_at db) := by
    refine ⟨hid ▸ h.fresh e hem, fun o ho hoid => ?_⟩
    rw [hrow o ho hoid]
    exact congrArg Prod.fst hes
  have hnew : ∀ d ∈ (EpisodeRepo.refresh c.id g.severity g.expires_at batch_at db).deliveries,
      d.episode_id = c.id → d.severity ≠ g.severity := by
    intro d hd hde
    exact ((h.ceiling d hd e hem (hid.trans hde.symm)).trans_lt (hn ▸ hlt)).ne
  refine ⟨hpaced.add_delivery .escalated hbelongs (fun o ho hoid => ?_),
    Grown.trans (.of_episodes _ (le_refl _)) (add_delivery_grown _ _ _ _ _ _), fun s hs => ?_, ?_⟩
  · rw [hrow o ho hoid]
    exact Nat.le_max_right _ _
  · rw [MatchBatchUseCase.add_delivery, EpisodeRepo.add_delivery_new hnew]
    exact hc.others h.toOwned (fun o ho => of_decide_eq_true ho) (fun _ => rfl) hs
  · rw [MatchBatchUseCase.add_delivery, EpisodeRepo.add_delivery_new hnew]
    exact ⟨_, hmem, hopen, Nat.le_max_right _ _, .inr ⟨_, List.mem_append_right _
      (List.mem_singleton_self _), le_refl _, rfl, hid.symm, rfl, le_refl _⟩⟩

theorem open_warned {base : NotificationsDb G} {p : NotificationsDb G × Nat} (reason : Reason)
    (h : Paced base) (hbase : Grown db base)
    (hothers : ∀ s, s ≠ slot → episodes_of s base.episodes = episodes_of s db.episodes)
    (hp : EpisodeRepo.open_ slot g.severity g.expires_at batch_at base = .ok p) :
    GroupWarned slot g.severity db (add_delivery gis slot p.2 reason g now p.1).1 := by
  have hdeliveries : p.1.deliveries = base.deliveries := by rw [open_ok hp]
  have hepisodes : p.1.episodes = base.episodes ++
      [EpisodeRepo.opened slot g.severity g.expires_at batch_at base.next_id] := by rw [open_ok hp]
  have hid : p.2 = base.next_id := by rw [open_ok hp]
  have hopened : Grown base p.1 := open_ok hp ▸ .of_episodes _ (Nat.le_succ _)
  have hnew : ∀ d ∈ p.1.deliveries, d.episode_id = p.2 → d.severity ≠ g.severity := by
    intro d hd hde
    rw [hdeliveries] at hd
    exact absurd (hde.trans hid) (h.deliveries d hd).1.ne
  refine ⟨(h.open_ hp).add_delivery reason ((open_extends hp).2 h.toOwned) (fun o ho hoid => ?_),
    (hbase.trans hopened).trans (add_delivery_grown _ _ _ _ _ _), fun s hs => ?_, ?_⟩
  · rw [hepisodes] at ho
    rcases List.mem_append.mp ho with ho | ho
    · exact absurd (hoid.trans hid) (h.fresh o ho).ne
    · rw [List.mem_singleton.mp ho]
      exact le_refl _
  · rw [MatchBatchUseCase.add_delivery, EpisodeRepo.add_delivery_new hnew, ← hothers s hs]
    have hslot : (EpisodeRepo.opened slot g.severity g.expires_at batch_at base.next_id).slot ≠ s :=
      hs.symm
    simp [hepisodes, episodes_of, hslot]
  · rw [MatchBatchUseCase.add_delivery, EpisodeRepo.add_delivery_new hnew]
    have hmem : EpisodeRepo.opened slot g.severity g.expires_at batch_at base.next_id ∈
        episodes_of slot p.1.episodes := by
      rw [hepisodes]
      exact mem_episodes_of.mpr ⟨List.mem_append_right _ (List.mem_singleton_self _), rfl⟩
    exact ⟨_, hmem, rfl, le_refl _, .inr ⟨_, List.mem_append_right _ (List.mem_singleton_self _),
      hbase.next_id.trans hopened.next_id, rfl, hid, rfl, le_refl _⟩⟩

namespace MatchBatchUseCase

theorem match_group_warned {current : Option OpenEpisode} {r : NotificationsDb G × Bool}
    (h : Paced db) (hcur : ∀ c, current = some c → Live slot db c)
    (heq : match_group gis settings batch_at now current slot g db = .ok r) :
    GroupWarned slot g.severity db r.1 := by
  rcases match_group_cases heq with ⟨c, hc, hact, rfl⟩ | ⟨c, hc, hact, rfl⟩ | ⟨p, -, hp, rfl⟩
  · exact touch_warned h (hcur c hc) (decide_action_lower hact)
  · exact escalate_warned h (hcur c hc) (decide_action_higher hact)
  · cases current with
    | none => exact open_warned .opened h (.refl db) (fun _ _ => rfl) hp
    | some c =>
        refine open_warned .opened (h.close c.id batch_at) (.of_episodes _ (le_refl _))
          (fun s hs => ?_) hp
        exact (hcur c rfl).others (f := Episode.closed batch_at) h.toOwned
          (fun o ho => of_decide_eq_true (Bool.and_eq_true_iff.mp ho).1) (fun _ => rfl) hs

-- what the whole loop does to the tables
structure LoopWarned (groups : Groups) (db db' : NotificationsDb G) : Prop where
  paced : Paced db'
  grown : Grown db db'
  others : ∀ s ∉ Dict.keys groups, episodes_of s db'.episodes = episodes_of s db.episodes
  warned : ∀ slot g, (slot, g) ∈ groups → Warned slot g.severity db db'

theorem LoopWarned.nil (h : Paced db) : LoopWarned [] db db :=
  ⟨h, .refl db, fun _ _ => rfl, by simp⟩

theorem LoopWarned.cons {db₁ : NotificationsDb G} {groups : Groups}
    (hn : slot ∉ Dict.keys groups) (h : GroupWarned slot g.severity db db₁)
    (k : LoopWarned groups db₁ db') : LoopWarned ((slot, g) :: groups) db db' where
  paced := k.paced
  grown := h.grown.trans k.grown
  others s hs := by
    simp only [Dict.keys, List.map_cons, List.mem_cons, not_or] at hs
    exact (k.others s hs.2).trans (h.others s hs.1)
  warned s g' hm := by
    rcases List.mem_cons.mp hm with heq | hm
    · obtain ⟨rfl, rfl⟩ := Prod.mk.inj heq
      obtain ⟨extra, hextra, -, -⟩ := k.grown.deliveries
      obtain ⟨e, he, hopen, hsev, hor⟩ := h.warned
      refine ⟨e, (k.others s hn).symm ▸ he, hopen, hsev, hor.imp_right ?_⟩
      rintro ⟨d, hd, hrest⟩
      exact ⟨d, hextra ▸ List.mem_append_left _ hd, hrest⟩
    · have hne : s ≠ slot := fun heq => hn (heq ▸ List.mem_map_of_mem (f := Prod.fst) hm)
      obtain ⟨e, he, hopen, hsev, hor⟩ := k.warned s g' hm
      rw [h.others s hne] at hor
      refine ⟨e, he, hopen, hsev, hor.imp_right ?_⟩
      rintro ⟨d, hd, hnew, hrest⟩
      exact ⟨d, hd, h.grown.next_id.trans hnew, hrest⟩

theorem match_groups_warned {opens : List ((Nat × String) × OpenEpisode)} {groups : Groups}
    {r : NotificationsDb G × Groups} (h : Paced db) (hn : (Dict.keys groups).Nodup)
    (hopens : ∀ slot c, Dict.get slot opens = some c → slot ∈ Dict.keys groups → Live slot db c)
    (heq : match_groups gis settings batch_at now opens groups db = .ok r) :
    LoopWarned groups db r.1 := by
  induction groups generalizing db r with
  | nil => exact Except.ok.inj heq ▸ .nil h
  | cons p groups ih =>
      obtain ⟨slot, g⟩ := p
      obtain ⟨r₁, h₁, heq⟩ := bind_ok.mp heq
      obtain ⟨r₂, h₂, heq⟩ := bind_ok.mp heq
      obtain ⟨hnot, hn⟩ := List.nodup_cons.mp hn
      have hfirst := match_group_warned h (fun c hc => hopens slot c hc (by simp [Dict.keys])) h₁
      have hrest : LoopWarned groups r₁.1 r₂.1 := by
        refine ih hfirst.paced hn (fun s c hc hs => ?_) h₂
        have hne : s ≠ slot := fun he => hnot (he ▸ hs)
        obtain ⟨e, he, hopen, hes, hto⟩ := hopens s c hc (List.mem_cons_of_mem _ hs)
        have hmem : e ∈ episodes_of s r₁.1.episodes :=
          (hfirst.others s hne).symm ▸ mem_episodes_of.mpr ⟨he, hes⟩
        exact ⟨e, (mem_episodes_of.mp hmem).1, hopen, hes, hto⟩
      exact Except.ok.inj heq ▸ hrest.cons hnot hfirst

theorem mem_group {ms : List Match} {m : Match} (h : m ∈ ms) :
    ∃ g, (slot_of gis m, g) ∈ group gis ms ∧ m.severity.val ≤ g.severity := by
  have hget : Dict.get (slot_of gis m) (group gis ms) ≠ none := by
    rw [group_eq, GroupBy.get_foldl_grow, if_pos ⟨m, h, rfl⟩]
    simp
  obtain ⟨g, hg⟩ := Option.ne_none_iff_exists'.mp hget
  refine ⟨g, Dict.mem_of_get hg, ?_⟩
  rw [(get_group hg).2.2]
  have hmem : m ∈ ms.filter (in_slot gis (slot_of gis m)) :=
    List.mem_filter.mpr ⟨h, decide_eq_true rfl⟩
  exact @GroupBy.le_maximum _ _ (fun m => m.severity.val) m hmem

theorem execute_warned {r : NotificationsDb G × Nat} (h : Paced db)
    (heq : execute gis settings source batch_at now events db = .ok r) :
    Paced r.1 ∧ ∀ sub ∈ db.subscriptions, ∀ area ∈ db.watch_areas, ∀ e ∈ events,
      MatchingRepo.joined gis source batch_at settings.quake_max_age sub area e = true →
      Warned (slot_of gis (MatchingRepo.to_match gis sub e)) e.severity.val db r.1 := by
  obtain ⟨r₁, h₁, heq⟩ := bind_ok.mp heq
  obtain rfl := Except.ok.inj heq
  have hloop := match_groups_warned h (groups_of_ok source batch_at events db).1
    (fun _ _ hc _ => open_rows_live hc) (execute_groups_iff.mp h₁).2
  refine ⟨hloop.paced, fun sub hsub area harea e he hjoined => ?_⟩
  have hactive : MatchingRepo.has_active_subscriptions db = true := by
    simp only [MatchingRepo.joined, MatchingRepo.subscribed, Bool.and_eq_true] at hjoined
    exact List.any_eq_true.mpr ⟨sub, hsub, hjoined.1.1.1.1.1.1.1⟩
  obtain ⟨g, hg, hle⟩ := @mem_group _ gis _ _
    ((MatchingRepo.mem_matches gis).mpr ⟨sub, hsub, area, harea, e, he, hjoined, rfl⟩)
  refine (hloop.warned _ g ?_).weaken hle
  rw [groups_of, if_pos hactive]
  exact hg

end MatchBatchUseCase

theorem DeliverStep.paced (hs : DeliverStep gis settings deliver s a t) (h : Paced s.db) :
    Paced t.db := by
  by_cases hmatched : ∃ source batch_at now events, a = .matched source batch_at now events
  · obtain ⟨source, batch_at, now, events, rfl⟩ := hmatched
    obtain ⟨db, n, hx, rfl⟩ := hs
    exact (execute_warned h hx).1
  refine h.shrink (hs.owned h.toOwned) ?_ (fun d hd => ?_)
  · cases a with
    | matched source batch_at now events => exact absurd ⟨source, batch_at, now, events, rfl⟩ hmatched
    | claimed now =>
        obtain ⟨_, db, claims, hc, rfl⟩ := hs
        exact DeliveryRepo.claim_episodes hc ▸ List.Sublist.refl _
    | accepted message_id =>
        obtain ⟨c, run, _, rfl⟩ := hs
        exact List.Sublist.refl _
    | refused error =>
        obtain ⟨c, run, _, rfl⟩ := hs
        exact List.Sublist.refl _
    | deferred =>
        obtain ⟨c, run, _, _, rfl⟩ := hs
        exact List.Sublist.refl _
    | recorded now =>
        obtain ⟨outcomes, hr, _, rfl⟩ := hs.recorded_inv
        have hframe := @DeliverNotificationsUseCase.record_recorded _ gis deliver now outcomes s.db
        exact List.filter_sublist.trans (hframe.episodes ▸ List.Sublist.refl _)
    | crashed => exact hs ▸ List.Sublist.refl _
    | added area hazard_types severity_min channel endpoint credential =>
        exact hs ▸ List.Sublist.refl _
    | paused id =>
        obtain ⟨db, hp, rfl⟩ := hs
        exact pause_ok hp ▸ List.Sublist.refl _
    | resumed id =>
        obtain ⟨db, hp, rfl⟩ := hs
        exact resume_ok hp ▸ List.Sublist.refl _
    | removed id =>
        obtain ⟨db, hp, rfl⟩ := hs
        obtain ⟨r, -, rfl⟩ := remove_ok hp
        exact List.filter_sublist
  · obtain ⟨d', hd', hsame⟩ := (hs.origin hd).same
      (fun source batch_at now events heq => hmatched ⟨source, batch_at, now, events, heq⟩)
    exact ⟨d', hd', hsame.toSameDelivery⟩

end GeoHazard
