import GeoHazard.Notifications.MatcherFrame

namespace GeoHazard.Matchers
open MatchBatchUseCase Sessions ReadCommitted

variable {G : Type} {gis : Gis G} {match_settings : MatchSettings} {settings : DeliverSettings}
  {db db' v : NotificationsDb G} {slot : Nat × String} {g : Group} {b : Batch G} {m : Matcher G}
  {cur : Option OpenEpisode} {p : Statement G} {ps ps' todo : List (Statement G)}
  {ws ws' writes before : List (Write G)} {opens : List ((Nat × String) × OpenEpisode)}
  {groups : Groups} {n₀ : Nat}

def closing (b : Batch G) : Option OpenEpisode → List (Write G)
  | some cur => [.closed cur.id b.batch_at]
  | none => []

def opening (b : Batch G) (slot : Nat × String) (g : Group) (episode_id : Nat) : Write G :=
  .opened (EpisodeRepo.opened slot g.severity g.expires_at b.batch_at episode_id)

inductive Settling (gis : Gis G) (match_settings : MatchSettings) (b : Batch G)
    (db : NotificationsDb G) (slot : Nat × String) (g : Group) :
    Option OpenEpisode → List (Statement G) → List (Write G) → Prop
  | ready (cur : Option OpenEpisode) :
      Settling gis match_settings b db slot g cur (settle match_settings b cur slot g) []
  | touched {cur : OpenEpisode} :
      decide_action (some cur) g.severity b.batch_at match_settings.grace = .ok .TOUCH →
      Settling gis match_settings b db slot g (some cur) []
        [.refreshed cur.id cur.notified_severity g.expires_at b.batch_at]
  | raised {cur : OpenEpisode} :
      decide_action (some cur) g.severity b.batch_at match_settings.grace = .ok .ESCALATE →
      Settling gis match_settings b db slot g (some cur)
        [.add_delivery slot cur.id .escalated g b.now]
        [.refreshed cur.id g.severity g.expires_at b.batch_at]
  | repeated {cur : OpenEpisode} :
      decide_action (some cur) g.severity b.batch_at match_settings.grace = .ok .ESCALATE →
      Notified cur.id g.severity db →
      Settling gis match_settings b db slot g (some cur) []
        [.refreshed cur.id g.severity g.expires_at b.batch_at]
  | escalated {cur : OpenEpisode} (id : Nat) :
      decide_action (some cur) g.severity b.batch_at match_settings.grace = .ok .ESCALATE →
      ¬ Notified cur.id g.severity db →
      Settling gis match_settings b db slot g (some cur) []
        [.refreshed cur.id g.severity g.expires_at b.batch_at,
          .inserted (delivered gis slot cur.id .escalated g b.now id)]
  | closed {cur : OpenEpisode} :
      decide_action (some cur) g.severity b.batch_at match_settings.grace = .ok .OPEN →
      Settling gis match_settings b db slot g (some cur)
        [.open_ slot .opened g b.batch_at b.now] [.closed cur.id b.batch_at]
  | opened {cur : Option OpenEpisode} (id : Nat) :
      decide_action cur g.severity b.batch_at match_settings.grace = .ok .OPEN → Fits slot →
      (cur = none → NoneOpen slot db) →
      Settling gis match_settings b db slot g cur [.add_delivery slot id .opened g b.now]
        (closing b cur ++ [opening b slot g id])
  | announced {cur : Option OpenEpisode} (id id' : Nat) :
      decide_action cur g.severity b.batch_at match_settings.grace = .ok .OPEN → Fits slot →
      (cur = none → NoneOpen slot db) →
      Settling gis match_settings b db slot g cur []
        (closing b cur ++
          [opening b slot g id, .inserted (delivered gis slot id .opened g b.now id')])

theorem add_delivery_new {episode_id : Nat} {reason : Reason} {now : Timestamptz}
    (h : ¬ Notified episode_id g.severity v) :
    add_delivery gis slot episode_id reason g now v =
      ({ v with
        deliveries := v.deliveries ++ [delivered gis slot episode_id reason g now v.next_id]
        next_id := v.next_id + 1 }, true) :=
  EpisodeRepo.add_delivery_new (fun d hd hid hsev => h ⟨d, hd, hid, hsev⟩)

theorem add_delivery_again {episode_id : Nat} {reason : Reason} {now : Timestamptz}
    (h : Notified episode_id g.severity v) :
    add_delivery gis slot episode_id reason g now v = (v, false) := by
  obtain ⟨d, hd, hid, hsev⟩ := h
  exact EpisodeRepo.add_delivery_again hd hid hsev

theorem add_delivery_created {episode_id : Nat} {reason : Reason} {now : Timestamptz} :
    (add_delivery gis slot episode_id reason g now v).2 = true ↔
      ¬ Notified episode_id g.severity v := by
  refine ⟨fun h hn => ?_, fun hn => congrArg Prod.snd (add_delivery_new hn)⟩
  rw [add_delivery_again hn] at h
  exact Bool.false_ne_true h

theorem performed_delivery {episode_id : Nat} {reason : Reason} {now : Timestamptz}
    (h : Statement.perform gis match_settings settings
      (.add_delivery slot episode_id reason g now) v = .ok (ws, ps)) :
    ps = [] ∧ ((Notified episode_id g.severity v ∧ ws = []) ∨
      (¬ Notified episode_id g.severity v ∧
        ws = [.inserted (delivered gis slot episode_id reason g now v.next_id)])) := by
  obtain ⟨rfl, rfl⟩ := Prod.mk.inj (Except.ok.inj h)
  refine ⟨rfl, ?_⟩
  by_cases hn : Notified episode_id g.severity v
  · exact .inl ⟨hn, if_neg (fun hc => add_delivery_created.mp hc hn)⟩
  · exact .inr ⟨hn, if_pos (add_delivery_created.mpr hn)⟩

theorem performed_open {reason : Reason} {at_ now : Timestamptz}
    (h : Statement.perform gis match_settings settings (.open_ slot reason g at_ now) v
      = .ok (ws, ps)) :
    Fits slot ∧ NoneOpen slot v ∧ ps = [.add_delivery slot v.next_id reason g now] ∧
      ws = [.opened (EpisodeRepo.opened slot g.severity g.expires_at at_ v.next_id)] := by
  simp only [Statement.perform, bind, Except.bind] at h
  split at h
  · simp at h
  · next r hr =>
      obtain ⟨hfit, hnone, rfl⟩ := EpisodeRepo.open_iff.mp hr
      obtain ⟨rfl, rfl⟩ := Prod.mk.inj (Except.ok.inj h)
      exact ⟨hfit, hnone, rfl, rfl⟩

-- what the statement finds out about the slot of its group holds of what is committed too
structure Sees (db v : NotificationsDb G) (slot : Nat × String) (severity : Nat)
    (cur : Option OpenEpisode) (ws : List (Write G)) : Prop where
  open_ : cur = none → ws = [] → NoneOpen slot v → NoneOpen slot db
  notified : ∀ c, cur = some c → (Notified c.id severity v ↔ Notified c.id severity db)
  unannounced : ∀ e, .opened e ∈ ws → ¬ Notified e.id severity v

theorem Settling.next (h : Settling gis match_settings b db slot g cur ps ws) {p : Statement G}
    {qs rest : List (Statement G)} (hps : ps = p :: rest)
    (hp : p.perform gis match_settings settings v = .ok (ws', qs))
    (hv : Sees db v slot g.severity cur ws) :
    Settling gis match_settings b db slot g cur (qs ++ rest) (ws ++ ws') := by
  have hopen : ∀ {rest}, decide_action cur g.severity b.batch_at match_settings.grace = .ok .OPEN →
      (cur = none → NoneOpen slot v → NoneOpen slot db) → ws = closing b cur →
      p = .open_ slot .opened g b.batch_at b.now → rest = [] →
      Settling gis match_settings b db slot g cur (qs ++ rest) (ws ++ ws') := by
    rintro _ hact hnone rfl rfl rfl
    obtain ⟨hfit, hv, rfl, rfl⟩ := performed_open hp
    exact .opened v.next_id hact hfit (fun hc => hnone hc hv)
  cases h with
  | ready =>
      rcases settle_cases match_settings b cur slot g with ⟨e, -, hs⟩ | ⟨c, rfl, hact, hs⟩ |
        ⟨c, rfl, hact, hs⟩ | ⟨c, rfl, hact, hs⟩ | ⟨rfl, hs⟩
      · obtain ⟨rfl, rfl⟩ := List.cons.inj (hs.symm.trans hps)
        simp [Statement.perform] at hp
      · obtain ⟨rfl, rfl⟩ := List.cons.inj (hs.symm.trans hps)
        obtain ⟨rfl, rfl⟩ := Prod.mk.inj (Except.ok.inj hp)
        exact .touched hact
      · obtain ⟨rfl, rfl⟩ := List.cons.inj (hs.symm.trans hps)
        obtain ⟨rfl, rfl⟩ := Prod.mk.inj (Except.ok.inj hp)
        exact .raised hact
      · obtain ⟨rfl, rfl⟩ := List.cons.inj (hs.symm.trans hps)
        obtain ⟨rfl, rfl⟩ := Prod.mk.inj (Except.ok.inj hp)
        exact .closed hact
      · obtain ⟨rfl, rfl⟩ := List.cons.inj (hs.symm.trans hps)
        exact hopen rfl (fun hc => hv.open_ hc rfl) rfl rfl rfl
  | touched => simp at hps
  | raised hact =>
      obtain ⟨rfl, rfl⟩ := List.cons.inj hps
      obtain ⟨rfl, ⟨hn, rfl⟩ | ⟨hn, rfl⟩⟩ := performed_delivery hp
      · exact .repeated hact ((hv.notified _ rfl).mp hn)
      · exact .escalated v.next_id hact (fun hn' => hn ((hv.notified _ rfl).mpr hn'))
  | repeated => simp at hps
  | escalated => simp at hps
  | closed hact =>
      obtain ⟨rfl, rfl⟩ := List.cons.inj hps
      exact hopen hact (fun hc => by simp at hc) rfl rfl rfl
  | opened id hact hfit hnone =>
      obtain ⟨rfl, rfl⟩ := List.cons.inj hps
      obtain ⟨rfl, ⟨hn, rfl⟩ | ⟨hn, rfl⟩⟩ := performed_delivery hp
      · exact absurd hn (hv.unannounced _ (List.mem_append_right _ List.mem_cons_self))
      · simpa using Settling.announced id v.next_id hact hfit hnone
  | announced => simp at hps

def created : Write G → Option Nat
  | .opened e => some e.id
  | .inserted d => some d.id
  | _ => none

structure Fresh (n₀ : Nat) (db : NotificationsDb G) (writes : List (Write G)) : Prop where
  increasing : (writes.filterMap created).Pairwise (· < ·)
  drawn : ∀ id ∈ writes.filterMap created, n₀ ≤ id ∧ id < db.next_id
  episodes : ∀ e, .opened e ∈ writes → ∀ o ∈ db.episodes, o.id ≠ e.id
  deliveries : ∀ d, .inserted d ∈ writes → ∀ o ∈ db.deliveries, o.id ≠ d.id

theorem Fresh.nil (n₀ : Nat) (db : NotificationsDb G) : Fresh n₀ db [] :=
  ⟨.nil, by simp, by simp, by simp⟩

def OneWrite (next_id : Nat) (ws : List (Write G)) : Prop :=
  ws = [] ∨ ∃ w, ws = [w] ∧ ∀ id, created w = some id → id = next_id ∧ w.creates = true

theorem Fresh.next (h : Fresh n₀ db writes) (hd : Indexed db) (hn : n₀ ≤ db.next_id)
    (hw : OneWrite db.next_id ws) : Fresh n₀ (ws.foldl Write.draw db) (writes ++ ws) := by
  obtain rfl | ⟨w, rfl, hw⟩ := hw
  · simpa using h
  · rw [drawn_eq]
    cases hc : created w with
    | none =>
        have hids : (writes ++ [w]).filterMap created = writes.filterMap created := by
          simp [List.filterMap_append, hc]
        refine ⟨hids ▸ h.increasing, fun id hid => ?_, fun e he => ?_, fun d hd => ?_⟩
        · obtain ⟨hle, hlt⟩ := h.drawn id (hids ▸ hid)
          exact ⟨hle, lt_of_lt_of_le hlt (Nat.le_add_right _ _)⟩
        · rcases List.mem_append.mp he with he | he
          · exact h.episodes e he
          · obtain rfl := List.mem_singleton.mp he
            simp [created] at hc
        · rcases List.mem_append.mp hd with hd | hd
          · exact h.deliveries d hd
          · obtain rfl := List.mem_singleton.mp hd
            simp [created] at hc
    | some id =>
        obtain ⟨rfl, hcreates⟩ := hw id hc
        have hids : (writes ++ [w]).filterMap created =
            writes.filterMap created ++ [db.next_id] := by simp [List.filterMap_append, hc]
        have hone : [w].countP Write.creates = 1 := by simp [hcreates]
        rw [hone]
        refine ⟨?_, fun id hid => ?_, fun e he o ho => ?_, fun d hd' o ho => ?_⟩
        · rw [hids, List.pairwise_append]
          exact ⟨h.increasing, List.pairwise_singleton _ _, fun id hid id' hid' =>
            List.mem_singleton.mp hid' ▸ (h.drawn id hid).2⟩
        · rw [hids] at hid
          rcases List.mem_append.mp hid with hid | hid
          · exact ⟨(h.drawn id hid).1, Nat.lt_succ_of_lt (h.drawn id hid).2⟩
          · obtain rfl := List.mem_singleton.mp hid
            exact ⟨hn, Nat.lt_succ_self _⟩
        · rcases List.mem_append.mp he with he | he
          · exact h.episodes e he o ho
          · obtain rfl := List.mem_singleton.mp he
            exact Option.some.inj hc ▸ Nat.ne_of_lt (hd.episode_ids o ho)
        · rcases List.mem_append.mp hd' with hd' | hd'
          · exact h.deliveries d hd' o ho
          · obtain rfl := List.mem_singleton.mp hd'
            exact Option.some.inj hc ▸ Nat.ne_of_lt (hd.delivery_ids o ho)

theorem mem_created {w : Write G} {id : Nat} (hw : w ∈ ws) (hc : created w = some id) :
    id ∈ ws.filterMap created := List.mem_filterMap.mpr ⟨w, hw, hc⟩

theorem Fresh.split {w w' : Write G} {id id' : Nat} (h : Fresh n₀ db (ws ++ ws')) (hw : w ∈ ws)
    (hc : created w = some id) (hw' : w' ∈ ws') (hc' : created w' = some id') : id ≠ id' := by
  have hp := h.increasing
  rw [List.filterMap_append, List.pairwise_append] at hp
  exact Nat.ne_of_lt (hp.2.2 id (mem_created hw hc) id' (mem_created hw' hc'))

theorem Fresh.left (h : Fresh n₀ db (ws ++ ws')) : Fresh n₀ db ws := by
  have hp := h.increasing
  rw [List.filterMap_append, List.pairwise_append] at hp
  exact ⟨hp.1, fun id hid => h.drawn id (by
      simp only [List.filterMap_append, List.mem_append, hid, true_or]),
    fun e he => h.episodes e (List.mem_append_left _ he),
    fun d hd => h.deliveries d (List.mem_append_left _ hd)⟩

theorem Fresh.agree {rows : List Sessions.Row} (h : Fresh n₀ db writes) (ha : Agree rows db db')
    (hrows : ∀ w ∈ writes, ∀ r ∈ held w, r ∈ rows) : Fresh n₀ db' writes where
  increasing := h.increasing
  drawn id hid := ⟨(h.drawn id hid).1, lt_of_lt_of_le (h.drawn id hid).2 ha.next_id⟩
  episodes e he o ho heq := by
    have hrow : .episode o.id ∈ rows := heq ▸ hrows _ he _ List.mem_cons_self
    exact h.episodes e he o ((ha.episode o hrow).mp ho) heq
  deliveries d hd o ho heq := by
    have hrow : .delivery o.id ∈ rows := heq ▸ hrows _ hd _ List.mem_cons_self
    exact h.deliveries d hd o ((ha.delivery o hrow).mp ho) heq

structure Elsewhere (db : NotificationsDb G) (slot : Nat × String) (writes : List (Write G)) :
    Prop where
  closed : ∀ id at_, .closed id at_ ∈ writes → ∃ e ∈ db.episodes, e.id = id ∧ e.slot ≠ slot
  inserted : ∀ d, .inserted d ∈ writes →
    (∃ e ∈ db.episodes, e.id = d.episode_id ∧ e.slot ≠ slot) ∨
      ∃ e, .opened e ∈ writes ∧ e.id = d.episode_id

theorem Elsewhere.append (h : Elsewhere db slot ws) (k : Elsewhere db slot ws') :
    Elsewhere db slot (ws ++ ws') where
  closed id at_ hw := (List.mem_append.mp hw).elim (h.closed id at_) (k.closed id at_)
  inserted d hw := by
    rcases List.mem_append.mp hw with hw | hw
    · exact (h.inserted d hw).imp_right (fun ⟨e, he, hd⟩ => ⟨e, List.mem_append_left _ he, hd⟩)
    · exact (k.inserted d hw).imp_right (fun ⟨e, he, hd⟩ => ⟨e, List.mem_append_right _ he, hd⟩)

theorem mem_view_deliveries {d : Delivery} (h : ∀ w ∈ ws, Foreign [] w) :
    d ∈ (view db ws).deliveries ↔ d ∈ db.deliveries ∨ .inserted d ∈ ws := by
  induction ws generalizing db with
  | nil => simp [view]
  | cons w ws ih =>
      have hrest : d ∈ (view (Write.apply db w) ws).deliveries ↔
          d ∈ (Write.apply db w).deliveries ∨ .inserted d ∈ ws :=
        ih (fun w' hw' => h w' (List.mem_cons_of_mem _ hw'))
      have hw := h w List.mem_cons_self
      simp only [view, List.foldl_cons, List.mem_cons] at hrest ⊢
      rw [hrest, ← or_assoc]
      refine or_congr_left ?_
      cases w with
      | inserted o => simp [Write.apply]
      | locked _ | refreshed _ _ _ _ | closed _ _ | opened _ =>
          simp [Write.apply, EpisodeRepo.refresh, EpisodeRepo.close]
      | area _ | created _ | updated _ _ | failed _ _ | removed _ | area_deleted _ | attempted _
      | sent _ _ _ | purged _ _ => exact hw.elim

theorem view_open {e : Episode} (h : ∀ w ∈ ws, Foreign [] w) (he : e ∈ db.episodes)
    (hopen : e.closed_at = none) (hclosed : ∀ id at_, .closed id at_ ∈ ws → id ≠ e.id) :
    ∃ o ∈ (view db ws).episodes, o.slot = e.slot ∧ o.closed_at = none := by
  induction ws generalizing db e with
  | nil => exact ⟨e, he, rfl, hopen⟩
  | cons w ws ih =>
      have hstep : ∃ o ∈ (Write.apply db w).episodes, o.id = e.id ∧ o.slot = e.slot ∧
          o.closed_at = none := by
        have hw := h w List.mem_cons_self
        cases w with
        | locked _ | inserted _ => exact ⟨e, he, rfl, rfl, hopen⟩
        | opened _ => exact ⟨e, List.mem_append_left _ he, rfl, rfl, hopen⟩
        | refreshed episode_id notified_severity expires_at at_ =>
            refine ⟨_, Table.mem_update.mpr ⟨e, he, rfl⟩, ?_⟩
            split <;> exact ⟨rfl, rfl, hopen⟩
        | closed episode_id at_ =>
            have hne : e.id ≠ episode_id := fun heq =>
              hclosed episode_id at_ List.mem_cons_self heq.symm
            exact ⟨e, Table.mem_update.mpr ⟨e, he, if_neg (by simp [hne])⟩, rfl, rfl, hopen⟩
        | area _ | created _ | updated _ _ | failed _ _ | removed _ | area_deleted _ | attempted _
        | sent _ _ _ | purged _ _ => exact hw.elim
      obtain ⟨o, ho, hid, hslot, hnone⟩ := hstep
      obtain ⟨o', ho', hslot', hnone'⟩ := ih (fun w' hw' => h w' (List.mem_cons_of_mem _ hw')) ho
        hnone (fun id at_ hw' => hid ▸ hclosed id at_ (List.mem_cons_of_mem _ hw'))
      exact ⟨o', ho', hslot'.trans hslot, hnone'⟩

theorem Elsewhere.sees (hb : Elsewhere db slot before) (hd : Indexed db)
    (hf : Fresh n₀ db (before ++ ws)) (hkinds : ∀ w ∈ before ++ ws, Foreign [] w)
    (hws : ∀ d, .inserted d ∉ ws) (hlive : ∀ c, cur = some c → Live slot db c) (severity : Nat) :
    Sees db (view db (before ++ ws)) slot severity cur ws := by
  have hother : ∀ d, .inserted d ∈ before ++ ws → .inserted d ∈ before := fun d hd =>
    (List.mem_append.mp hd).resolve_right (hws d)
  have hkept : ∀ {id}, Notified id severity db →
      Notified id severity (view db (before ++ ws)) := by
    rintro id ⟨d, hdm, he⟩
    exact ⟨d, (mem_view_deliveries hkinds).mpr (.inl hdm), he⟩
  refine ⟨?_, fun c hc => ⟨?_, hkept⟩, fun e he => ?_⟩
  · rintro - rfl hnone e he hes hec
    obtain ⟨o, ho, hos, hoc⟩ := view_open hkinds he hec (fun id at_ hw heq => by
      obtain ⟨a, ha, hid, hslot⟩ := hb.closed id at_ (by simpa using hw)
      exact hslot (Table.unique_eq hd.episodes ha he (hid.trans heq) ▸ hes))
    exact hnone o ho (hos.trans hes) hoc
  · rintro ⟨d, hdm, hid, hsev⟩
    obtain ⟨e, he, -, hes, rfl⟩ := hlive c hc
    rcases (mem_view_deliveries hkinds).mp hdm with hdm | hdm
    · exact ⟨d, hdm, hid, hsev⟩
    · rcases hb.inserted d (hother d hdm) with ⟨o, ho, hoid, hos⟩ | ⟨o, ho, hoid⟩
      · exact absurd (Table.unique_eq hd.episodes ho he (hoid.trans hid) ▸ hes) hos
      · exact absurd (hid.symm.trans hoid.symm) (hf.episodes o (List.mem_append_left _ ho) e he)
  · rintro ⟨d, hdm, hid, -⟩
    have hnew := hf.episodes e (List.mem_append_right _ he)
    rcases (mem_view_deliveries hkinds).mp hdm with hdm | hdm
    · obtain ⟨o, ho, hoid⟩ := hd.owner d hdm
      exact hnew o ho (hoid.trans hid)
    · rcases hb.inserted d (hother d hdm) with ⟨o, ho, hoid, -⟩ | ⟨o, ho, hoid⟩
      · exact hnew o ho (hoid.trans hid)
      · exact hf.split ho rfl he rfl (hoid.trans hid)

end GeoHazard.Matchers
