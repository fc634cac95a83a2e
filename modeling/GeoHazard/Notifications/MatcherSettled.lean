import GeoHazard.Notifications.MatcherProgress
import GeoHazard.Notifications.MatcherRenaming

namespace GeoHazard.Matchers
open MatchBatchUseCase Sessions

variable {G : Type} {gis : Gis G} {match_settings : MatchSettings} {settings : DeliverSettings}
  {db dbs : NotificationsDb G} {slot : Nat × String} {g : Group} {b : Batch G} {m : Matcher G}
  {cur : Option OpenEpisode} {ps todo : List (Statement G)} {ws ws' : List (Write G)}
  {opens opens' : List ((Nat × String) × OpenEpisode)} {groups : Groups}
  {n₀ : Nat} {f k : Nat → Nat}

theorem Live.row {c : OpenEpisode} (h : Live slot db c) :
    ∃ e ∈ db.episodes, e.id = c.id ∧ e.slot = slot := by
  obtain ⟨e, he, -, hs, rfl⟩ := h
  exact ⟨e, he, rfl, hs⟩

theorem Simulated.same_id (h : Simulated n₀ f k db dbs) {c : OpenEpisode} (hc : Live slot db c)
    {e : Episode} (he : e ∈ db.episodes) : f e.id = f c.id ↔ e.id = c.id := by
  obtain ⟨o, ho, hid, -⟩ := hc.row
  exact ⟨fun heq => hid ▸ h.episode_ids e he o ho (hid ▸ heq), fun heq => heq ▸ rfl⟩

theorem Simulated.live (h : Simulated n₀ f k db dbs) {c : OpenEpisode} (hc : Live slot db c) :
    Live slot dbs (renamed_open f c) := by
  obtain ⟨e, he, hec, hs, rfl⟩ := hc
  exact ⟨renamed_episode f e, h.episodes ▸ List.mem_map_of_mem he, hec, hs, rfl⟩

theorem Simulated.none_open (h : Simulated n₀ f k db dbs) (hn : NoneOpen slot db) :
    NoneOpen slot dbs := by
  intro e he hs
  rw [h.episodes] at he
  obtain ⟨o, ho, rfl⟩ := List.mem_map.mp he
  exact hn o ho hs

theorem Simulated.notified (h : Simulated n₀ f k db dbs) (hd : Indexed db) {e : Episode}
    (he : e ∈ db.episodes) {severity : Nat} :
    Notified (f e.id) severity dbs ↔ Notified e.id severity db := by
  constructor
  · rintro ⟨d, hdm, hid, hsev⟩
    rw [h.deliveries] at hdm
    obtain ⟨d', hd', rfl⟩ := List.mem_map.mp hdm
    obtain ⟨o, ho, hoid⟩ := hd.owner d' hd'
    exact ⟨d', hd', hoid ▸ h.episode_ids o ho e he (hoid ▸ hid), hsev⟩
  · rintro ⟨d, hdm, hid, hsev⟩
    exact ⟨renamed_delivery f k d, h.deliveries ▸ List.mem_map_of_mem hdm, congrArg f hid, hsev⟩

theorem Simulated.unannounced (h : Simulated n₀ f k db dbs) (hd : Indexed db) (severity : Nat) :
    ¬ Notified dbs.next_id severity dbs := by
  rintro ⟨d, hdm, hid, -⟩
  rw [h.deliveries] at hdm
  obtain ⟨d', hd', rfl⟩ := List.mem_map.mp hdm
  obtain ⟨o, ho, hoid⟩ := hd.owner d' hd'
  exact Nat.ne_of_lt (h.episodes_below o ho) (hoid ▸ hid)

theorem Simulated.refreshed (h : Simulated n₀ f k db dbs) {c : OpenEpisode} (hc : Live slot db c)
    (n : Nat) (x : Option Timestamptz) (at_ : Timestamptz) :
    Simulated n₀ f k (EpisodeRepo.refresh c.id n x at_ db)
      (EpisodeRepo.refresh (f c.id) n x at_ dbs) :=
  h.update (fun e he => by simp [renamed_episode, h.same_id hc he]) (fun _ => rfl) (fun _ => rfl)

theorem Indexed.refreshed (h : Indexed db) (id n : Nat) (x : Option Timestamptz)
    (at_ : Timestamptz) : Indexed (EpisodeRepo.refresh id n x at_ db) :=
  h.update (fun _ => rfl) (fun _ => rfl) (fun _ hopen => hopen)

-- the state once the expired episode of the slot, if there is one, is closed
structure Vacated (n₀ : Nat) (f k : Nat → Nat) (slot : Nat × String) (db v vs : NotificationsDb G) :
    Prop where
  simulated : Simulated n₀ f k v vs
  indexed : Indexed v
  none_open : NoneOpen slot v
  row : ∀ e ∈ v.episodes, ∃ o ∈ db.episodes, o.id = e.id
  deliveries : v.deliveries = db.deliveries
  next_id : v.next_id = db.next_id

theorem closing_vacates (h : Simulated n₀ f k db dbs) (hd : Indexed db)
    (hlive : ∀ c, cur = some c → Live slot db c) (hnone : cur = none → NoneOpen slot db) :
    Vacated n₀ f k slot db (view db (closing b cur))
      (view dbs (closing b (cur.map (renamed_open f)))) := by
  cases cur with
  | none => exact ⟨h, hd, hnone rfl, fun e he => ⟨e, he, rfl⟩, rfl, rfl⟩
  | some c =>
      have hc := hlive c rfl
      refine ⟨h.update (fun e he => ?_) (fun _ => rfl) (fun _ => rfl),
        hd.update (fun _ => rfl) (fun _ => rfl) (fun _ he => by simp [Episode.closed] at he),
        fun e he hs hopen => ?_, fun e he => ?_, rfl, rfl⟩
      · have hsame : decide (f e.id = f c.id) = decide (e.id = c.id) :=
          decide_eq_decide.mpr (h.same_id hc he)
        exact congrArg (· && e.closed_at.isNone) hsame
      · obtain ⟨o, ho, rfl⟩ := Table.mem_update.mp he
        obtain ⟨a, ha, hac, has, rfl⟩ := hc
        split at hopen
        · simp [Episode.closed] at hopen
        · next hne =>
            rw [if_neg hne] at hs
            obtain rfl := hd.one_open o ho a ha hopen hac (hs.trans has.symm)
            simp [Episode.to_open, hac] at hne
      · obtain ⟨o, ho, rfl⟩ := Table.mem_update.mp he
        refine ⟨o, ho, ?_⟩
        split <;> rfl

theorem view_closing (b : Batch G) (cur : Option OpenEpisode) (db : NotificationsDb G) :
    view db (closing b cur) = vacated b.batch_at cur db := by
  cases cur <;> rfl

theorem Vacated.announced {v vs : NotificationsDb G} (hv : Vacated n₀ f k slot db v vs)
    {id id' : Nat} (hid : n₀ ≤ id ∧ id < db.next_id) (hid' : n₀ ≤ id' ∧ id' < db.next_id)
    (he : ∀ o ∈ db.episodes, o.id ≠ id) (hd : ∀ o ∈ db.deliveries, o.id ≠ id') (gis : Gis G)
    (b : Batch G) (g : Group) :
    ∃ f' k' dbs', (∀ e ∈ db.episodes, f' e.id = f e.id) ∧
      add_delivery gis slot vs.next_id .opened g b.now { vs with
        episodes := vs.episodes ++
          [EpisodeRepo.opened slot g.severity g.expires_at b.batch_at vs.next_id]
        next_id := vs.next_id + 1 } = (dbs', true) ∧
      Simulated n₀ f' k'
        (Write.apply (Write.apply v (opening b slot g id))
          (.inserted (delivered gis slot id .opened g b.now id'))) dbs' ∧
      Indexed (Write.apply (Write.apply v (opening b slot g id))
        (.inserted (delivered gis slot id .opened g b.now id'))) := by
  have hrows : ∀ o ∈ v.episodes, o.id ≠ id := by
    intro o ho heq
    obtain ⟨e, hm, heid⟩ := hv.row o ho
    exact he e hm (heid.trans heq)
  have hsilent : ¬ Notified id g.severity v := by
    rintro ⟨d, hdm, hdid, -⟩
    obtain ⟨o, ho, hoid⟩ := hv.indexed.owner d hdm
    exact hrows o ho (hoid.trans hdid)
  have hopened := hv.simulated.opened hv.indexed hrows hid.1 slot g.severity g.expires_at b.batch_at
  have hsim := hopened.inserted (hv.deliveries ▸ hd) hid'.1 gis slot id .opened g b.now
  rw [Function.update_self] at hsim
  have hind := hv.indexed.opened (e := EpisodeRepo.opened slot g.severity g.expires_at b.batch_at
    id) hrows hv.none_open (hv.next_id ▸ hid.2)
  exact ⟨_, _, _, fun e hm => Function.update_of_ne (he e hm) _ _,
    add_delivery_new (hv.simulated.unannounced hv.indexed g.severity), hsim,
    hind.inserted (hv.deliveries ▸ hd) hsilent (List.mem_append_right _ List.mem_cons_self) rfl
      (hv.next_id ▸ hid'.2)⟩

theorem escalated_serial {c : OpenEpisode} {id : Nat} (hd : Indexed db)
    (hs : Simulated n₀ f k db dbs) (hlive : Live slot db c)
    (hact : decide_action (some (renamed_open f c)) g.severity b.batch_at match_settings.grace =
      .ok .ESCALATE)
    (hn : ¬ Notified c.id g.severity db) (hids : ∀ o ∈ db.deliveries, o.id ≠ id)
    (hdrawn : n₀ ≤ id ∧ id < db.next_id) :
    ∃ k' dbs',
      match_group gis match_settings b.batch_at b.now (some (renamed_open f c)) slot g dbs =
        .ok (dbs', true) ∧
      Simulated n₀ f k' (Write.apply
        (EpisodeRepo.refresh c.id g.severity g.expires_at b.batch_at db)
        (.inserted (delivered gis slot c.id .escalated g b.now id))) dbs' ∧
      Indexed (Write.apply (EpisodeRepo.refresh c.id g.severity g.expires_at b.batch_at db)
        (.inserted (delivered gis slot c.id .escalated g b.now id))) := by
  obtain ⟨e, he, hid, -⟩ := hlive.row
  have hn' : ¬ Notified (f c.id) g.severity dbs := fun hn' =>
    hn (hid ▸ (hs.notified hd he).mp (hid ▸ hn'))
  have hnew := @add_delivery_new _ gis (EpisodeRepo.refresh (f c.id) g.severity
    g.expires_at b.batch_at dbs) slot g (f c.id) .escalated b.now hn'
  have hrow : ∃ o ∈ (EpisodeRepo.refresh c.id g.severity g.expires_at b.batch_at db).episodes,
      o.id = c.id := by
    refine ⟨_, Table.mem_update.mpr ⟨e, he, rfl⟩, ?_⟩
    split
    · exact hid
    · exact hid
  obtain ⟨o, ho, hoid⟩ := hrow
  refine ⟨_, _, ?_, (hs.refreshed hlive g.severity g.expires_at b.batch_at).inserted hids hdrawn.1
    gis slot c.id .escalated g b.now,
    (hd.refreshed c.id g.severity g.expires_at b.batch_at).inserted hids hn ho hoid hdrawn.2⟩
  rw [match_group_escalate hact]
  exact congrArg Except.ok hnew

theorem announced_serial {id id' : Nat} (hd : Indexed db) (hs : Simulated n₀ f k db dbs)
    (hlive : ∀ c, cur = some c → Live slot db c)
    (hact : decide_action (cur.map (renamed_open f)) g.severity b.batch_at match_settings.grace =
      .ok .OPEN)
    (hfit : Fits slot) (hnone : cur = none → NoneOpen slot db)
    (hf : Fresh n₀ db (closing b cur ++ [opening b slot g id,
      .inserted (delivered gis slot id .opened g b.now id')])) :
    ∃ f' k' dbs',
      match_group gis match_settings b.batch_at b.now (cur.map (renamed_open f)) slot g dbs =
        .ok (dbs', true) ∧
      Simulated n₀ f' k' (view db (closing b cur ++ [opening b slot g id,
        .inserted (delivered gis slot id .opened g b.now id')])) dbs' ∧
      Indexed (view db (closing b cur ++ [opening b slot g id,
        .inserted (delivered gis slot id .opened g b.now id')])) ∧
      ∀ e ∈ db.episodes, f' e.id = f e.id := by
  have hv := @closing_vacates _ db dbs slot b cur n₀ f k hs hd hlive hnone
  have hopened : opening b slot g id ∈ closing b cur ++ [opening b slot g id,
      .inserted (delivered gis slot id .opened g b.now id')] :=
    List.mem_append_right _ List.mem_cons_self
  have hinserted : .inserted (delivered gis slot id .opened g b.now id') ∈ closing b cur ++
      [opening b slot g id, .inserted (delivered gis slot id .opened g b.now id')] :=
    List.mem_append_right _ (List.mem_cons_of_mem _ List.mem_cons_self)
  obtain ⟨f', k', dbs', hkeep, hadd, hsim, hind⟩ := hv.announced
    (hf.drawn id (mem_created hopened rfl)) (hf.drawn id' (mem_created hinserted rfl))
    (hf.episodes _ hopened) (hf.deliveries _ hinserted) gis b g
  have hview : view db (closing b cur ++ [opening b slot g id,
      .inserted (delivered gis slot id .opened g b.now id')]) =
      Write.apply (Write.apply (view db (closing b cur)) (opening b slot g id))
        (.inserted (delivered gis slot id .opened g b.now id')) := List.foldl_append
  refine ⟨f', k', dbs', ?_, hview ▸ hsim, hview ▸ hind, hkeep⟩
  rw [match_group_open hact, ← view_closing,
    EpisodeRepo.open_iff.mpr ⟨hfit, hv.simulated.none_open hv.none_open, rfl⟩]
  exact congrArg Except.ok hadd

theorem Settling.serial (h : Settling gis match_settings b db slot g cur ps ws) (hps : ps = [])
    (hd : Indexed db) (hs : Simulated n₀ f k db dbs) (hf : Fresh n₀ db ws)
    (hlive : ∀ c, cur = some c → Live slot db c) :
    ∃ f' k' dbs' created,
      match_group gis match_settings b.batch_at b.now (cur.map (renamed_open f)) slot g dbs =
        .ok (dbs', created) ∧
      Simulated n₀ f' k' (view db ws) dbs' ∧ Indexed (view db ws) ∧
      ∀ e ∈ db.episodes, f' e.id = f e.id := by
  cases h with
  | ready =>
      obtain ⟨p, rest, hsettle⟩ := settle_cons match_settings b cur slot g
      simp [hsettle] at hps
  | raised | closed | opened => simp at hps
  | @touched c hact =>
      have hact' : decide_action (some (renamed_open f c)) g.severity b.batch_at
          match_settings.grace = .ok .TOUCH := hact
      refine ⟨f, k, _, false, ?_, hs.refreshed (hlive c rfl) c.notified_severity g.expires_at
        b.batch_at, hd.refreshed _ _ _ _, fun _ _ => rfl⟩
      rw [Option.map_some, match_group_touch hact']
      rfl
  | @repeated c hact hn =>
      have hact' : decide_action (some (renamed_open f c)) g.severity b.batch_at
          match_settings.grace = .ok .ESCALATE := hact
      obtain ⟨e, he, hid, -⟩ := (hlive c rfl).row
      have hn' : Notified (f c.id) g.severity dbs := hid ▸ (hs.notified hd he).mpr (hid ▸ hn)
      have hagain := @add_delivery_again _ gis (EpisodeRepo.refresh (f c.id) g.severity
        g.expires_at b.batch_at dbs) slot g (f c.id) .escalated b.now hn'
      refine ⟨f, k, _, false, ?_, hs.refreshed (hlive c rfl) g.severity g.expires_at
        b.batch_at, hd.refreshed _ _ _ _, fun _ _ => rfl⟩
      rw [Option.map_some, match_group_escalate hact']
      exact congrArg Except.ok hagain
  | @escalated c id hact hn =>
      obtain ⟨k', dbs', hgroup, hsim, hind⟩ := escalated_serial hd hs (hlive c rfl) hact hn
        (hf.deliveries _ (List.mem_cons_of_mem _ List.mem_cons_self))
        (hf.drawn id (mem_created (List.mem_cons_of_mem _ List.mem_cons_self) rfl))
      exact ⟨f, k', dbs', true, hgroup, hsim, hind, fun _ _ => rfl⟩
  | announced id id' hact hfit hnone =>
      have hact' : decide_action (cur.map (renamed_open f)) g.severity b.batch_at
          match_settings.grace = .ok .OPEN := by
        cases cur with
        | none => rfl
        | some c => exact hact
      obtain ⟨f', k', dbs', hgroup, hsim, hind, hkeep⟩ :=
        announced_serial hd hs hlive hact' hfit hnone hf
      exact ⟨f', k', dbs', true, hgroup, hsim, hind, hkeep⟩

theorem Fresh.right (h : Fresh n₀ db (ws ++ ws')) : Fresh n₀ db ws' := by
  have hp := h.increasing
  rw [List.filterMap_append, List.pairwise_append] at hp
  exact ⟨hp.2.1, fun id hid => h.drawn id (by
      simp only [List.filterMap_append, List.mem_append, hid, or_true]),
    fun e he => h.episodes e (List.mem_append_right _ he),
    fun d hd => h.deliveries d (List.mem_append_right _ hd)⟩

-- the rows that the groups still to come go by
def coming (opens : List ((Nat × String) × OpenEpisode)) (groups : Groups) (ws : List (Write G)) :
    List Sessions.Row :=
  (Dict.keys groups).flatMap (fun s => (Dict.get s opens).toList.map (fun c => .episode c.id)) ++
    ws.flatMap held

theorem mem_coming {r : Sessions.Row} :
    r ∈ coming opens groups ws ↔
      (∃ s ∈ Dict.keys groups, ∃ c, Dict.get s opens = some c ∧ r = .episode c.id) ∨
        ∃ w ∈ ws, r ∈ held w := by
  simp [coming, eq_comm]

theorem Underway.episode_coming (h : Underway gis match_settings m db opens groups todo ws)
    {id : Nat} (hr : .episode id ∈ coming opens groups ws) :
    (∃ s ∈ Dict.keys groups, ∃ c, Dict.get s opens = some c ∧ c.id = id) ∨
      ∃ e, .opened e ∈ ws ∧ e.id = id := by
  rcases mem_coming.mp hr with ⟨s, hs, c, hc, heq⟩ | ⟨w, hw, hr⟩
  · exact .inl ⟨s, hs, c, hc, (Sessions.Row.episode.inj heq).symm⟩
  · obtain ⟨slot, g, hs, hwrote⟩ := h.wrote hw
    cases hwrote with
    | refreshed n x at_ hc | closed at_ hc =>
        simp only [held, Write.rows, List.mem_singleton, Sessions.Row.episode.injEq] at hr
        exact .inl ⟨slot, hs, _, hc, hr.symm⟩
    | opened id' =>
        simp only [held, opening, List.mem_cons, Sessions.Row.episode.injEq, reduceCtorEq,
          List.not_mem_nil, or_false] at hr
        exact .inr ⟨_, hw, hr.symm⟩
    | escalated | announced => simp [held] at hr

theorem Underway.slot_coming (h : Underway gis match_settings m db opens groups todo ws)
    (hr : .open_slot slot ∈ coming opens groups ws) : slot ∈ Dict.keys groups := by
  rcases mem_coming.mp hr with ⟨s, hs, c, hc, heq⟩ | ⟨w, hw, hr⟩
  · simp at heq
  · obtain ⟨s, g, hs, hwrote⟩ := h.wrote hw
    cases hwrote with
    | refreshed | closed => simp [held, Write.rows] at hr
    | opened id =>
        simp only [held, opening, List.mem_cons, reduceCtorEq, Sessions.Row.open_slot.injEq,
          List.not_mem_nil, or_false, false_or] at hr
        exact hr ▸ hs
    | escalated | announced => simp [held] at hr

theorem Underway.delivery_coming (h : Underway gis match_settings m db opens groups todo ws)
    {id : Nat} (hr : .delivery id ∈ coming opens groups ws) :
    ∃ d, .inserted d ∈ ws ∧ d.id = id := by
  rcases mem_coming.mp hr with ⟨s, hs, c, hc, heq⟩ | ⟨w, hw, hr⟩
  · simp at heq
  · obtain ⟨s, g, hs, hwrote⟩ := h.wrote hw
    cases hwrote with
    | refreshed | closed => simp [held, Write.rows] at hr
    | opened id => simp [held, opening] at hr
    | escalated | announced =>
        simp only [held, List.mem_cons, Sessions.Row.delivery.injEq, reduceCtorEq,
          List.not_mem_nil, or_false] at hr
        exact ⟨_, hw, hr.symm⟩

theorem Settling.foreign {w : Write G}
    (h : Settling gis match_settings m.batch db slot g (Dict.get slot opens) ps ws) (hw : w ∈ ws)
    (hu : Underway gis match_settings m db opens groups todo ws') (hd : Indexed db)
    (hf : Fresh n₀ db (ws ++ ws')) (hslot : slot ∉ Dict.keys groups)
    (hlive : ∀ s ∈ slot :: Dict.keys groups, ∀ c, Dict.get s opens = some c → Live s db c) :
    Foreign (coming opens groups ws') w := by
  have hcur : ∀ c, Dict.get slot opens = some c → .episode c.id ∉ coming opens groups ws' := by
    intro c hc hr
    obtain ⟨e, he, hid, hes⟩ := (hlive slot List.mem_cons_self c hc).row
    rcases hu.episode_coming hr with ⟨s, hs, c', hc', heq⟩ | ⟨o, ho, heq⟩
    · obtain ⟨o, ho, hoid, hos⟩ := (hlive s (List.mem_cons_of_mem _ hs) c' hc').row
      obtain rfl := Table.unique_eq hd.episodes he ho (hid.trans (heq.symm.trans hoid.symm))
      exact hslot (hes ▸ hos ▸ hs)
    · exact hf.episodes o (List.mem_append_right _ ho) e he (hid.trans heq.symm)
  have hnew : ∀ id, opening m.batch slot g id ∈ ws → .episode id ∉ coming opens groups ws' := by
    intro id hw hr
    rcases hu.episode_coming hr with ⟨s, hs, c, hc, heq⟩ | ⟨o, ho, heq⟩
    · obtain ⟨e, he, hid, -⟩ := (hlive s (List.mem_cons_of_mem _ hs) c hc).row
      exact hf.episodes _ (List.mem_append_left _ hw) e he (hid.trans heq)
    · exact hf.split hw rfl ho rfl heq.symm
  have hdelivery : ∀ d, .inserted d ∈ ws → .delivery d.id ∉ coming opens groups ws' := by
    intro d hw hr
    obtain ⟨o, ho, heq⟩ := hu.delivery_coming hr
    exact hf.split hw rfl ho rfl heq.symm
  cases h.wrote hw with
  | refreshed n x at_ hc => exact hcur _ hc
  | closed at_ hc => exact hcur _ hc
  | opened id => exact ⟨hnew id hw, fun hr => hslot (hu.slot_coming hr)⟩
  | escalated hc hid => exact ⟨hdelivery _ hw, hid ▸ hcur _ hc⟩
  | announced hopened => exact ⟨hdelivery _ hw, hnew _ hopened⟩

theorem Underway.serial
    (h : Underway gis match_settings m db opens groups todo ws) (ht : todo = [])
    (hd : Indexed db) (hs : Simulated n₀ f k db dbs) (hf : Fresh n₀ db ws)
    (hn : (Dict.keys groups).Nodup)
    (hlive : ∀ s ∈ Dict.keys groups, ∀ c, Dict.get s opens = some c → Live s db c)
    (hopens : ∀ s ∈ Dict.keys groups,
      Dict.get s opens' = (Dict.get s opens).map (renamed_open f)) :
    ∃ dbs' created,
      match_groups gis match_settings m.batch.batch_at m.batch.now opens' groups dbs =
        .ok (dbs', created) ∧
      (∃ f' k', Simulated n₀ f' k' (view db ws) dbs') ∧ Indexed (view db ws) := by
  induction groups generalizing db dbs f k ws with
  | nil =>
      cases h with
      | nil => exact ⟨dbs, [], rfl, ⟨f, k, hs⟩, hd⟩
  | cons p groups ih =>
      cases h with
      | current => simp at ht
      | @settled slot g _ _ ws₁ ws₂ h hrest =>
          obtain ⟨hslot, hnodup⟩ := List.nodup_cons.mp hn
          obtain ⟨f₁, k₁, dbs₁, flag, hgroup, hs₁, hd₁, hkeep⟩ :=
            h.serial rfl hd hs hf.left (hlive slot List.mem_cons_self)
          have hagree : Agree (coming opens groups ws₂) db (view db ws₁) :=
            foreign_agree (fun w hw => h.foreign hw hrest hd hf hslot hlive)
          have hcur : ∀ s ∈ Dict.keys groups, ∀ c, Dict.get s opens = some c →
              .episode c.id ∈ coming opens groups ws₂ := fun s hs c hc =>
            mem_coming.mpr (.inl ⟨s, hs, c, hc, rfl⟩)
          have hrows : ∀ w ∈ ws₂, ∀ r ∈ held w, r ∈ coming opens groups ws₂ := fun w hw r hr =>
            mem_coming.mpr (.inr ⟨w, hw, hr⟩)
          have hlive' : ∀ s ∈ Dict.keys groups, ∀ c, Dict.get s opens = some c → Live s db c :=
            fun s hs => hlive s (List.mem_cons_of_mem _ hs)
          have hopens₁ : ∀ s ∈ Dict.keys groups,
              Dict.get s opens' = (Dict.get s opens).map (renamed_open f₁) := by
            intro s hs
            rw [hopens s (List.mem_cons_of_mem _ hs)]
            cases hc : Dict.get s opens with
            | none => rfl
            | some c =>
                obtain ⟨e, he, hid, -⟩ := (hlive' s hs c hc).row
                simp only [Option.map_some, renamed_open, ← hid, hkeep e he]
          obtain ⟨dbs₂, created, hgroups, hs₂, hd₂⟩ := ih (hrest.agree hagree hcur hrows) hd₁ hs₁
            (hf.right.agree hagree hrows) hnodup
            (fun s hs c hc => (hlive' s hs c hc).agree hagree (hcur s hs c hc)) hopens₁
          have hview : view db (ws₁ ++ ws₂) = view (view db ws₁) ws₂ := List.foldl_append
          refine ⟨dbs₂, if flag then (slot, g) :: created else created, ?_, hview ▸ hs₂,
            hview ▸ hd₂⟩
          rw [← hopens slot List.mem_cons_self] at hgroup
          simp only [match_groups, hgroup, hgroups, bind, Except.bind]

end GeoHazard.Matchers
