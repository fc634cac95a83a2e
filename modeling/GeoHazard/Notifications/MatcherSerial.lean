import GeoHazard.Notifications.MatcherSettled
import GeoHazard.Notifications.PauseRace

namespace GeoHazard.Matchers
open MatchBatchUseCase Sessions ReadCommitted Transition

variable {G : Type} {gis : Gis G} {match_settings : MatchSettings} {settings : DeliverSettings}
  {db dbs : NotificationsDb G} {slot : Nat × String} {g : Group} {b : Batch G} {m : Matcher G}
  {cur : Option OpenEpisode} {ps todo : List (Statement G)} {ws : List (Write G)}
  {opens : List ((Nat × String) × OpenEpisode)} {groups : Groups} {n₀ : Nat} {f k : Nat → Nat}

theorem Simulated.one_open (h : Simulated n₀ f k db dbs) (hd : Indexed db) :
    ∀ e ∈ dbs.episodes, ∀ o ∈ dbs.episodes, e.closed_at = none → o.closed_at = none →
      e.slot = o.slot → e = o := by
  intro e he o ho hec hoc hs
  rw [h.episodes] at he ho
  obtain ⟨e', he', rfl⟩ := List.mem_map.mp he
  obtain ⟨o', ho', rfl⟩ := List.mem_map.mp ho
  rw [hd.one_open e' he' o' ho' hec hoc hs]

theorem open_rows_live {wanted : List (Nat × String)} {c : OpenEpisode}
    (h : Dict.get slot (EpisodeRepo.open_rows wanted dbs) = some c) : Live slot dbs c := by
  obtain ⟨e, he, heq⟩ := List.mem_map.mp (Dict.mem_of_mem_ofList (Dict.mem_of_get h))
  obtain ⟨rfl, rfl⟩ := Prod.mk.inj heq
  obtain ⟨hmem, hp⟩ := List.mem_filter.mp he
  simp only [Bool.and_eq_true, Option.isNone_iff_eq_none] at hp
  exact ⟨e, hmem, hp.1, rfl, rfl⟩

theorem open_rows_none {wanted : List (Nat × String)} (hs : slot ∈ wanted)
    (h : Dict.get slot (EpisodeRepo.open_rows wanted dbs) = none) : NoneOpen slot dbs := by
  rintro e he rfl hopen
  refine Dict.get_eq_none.mp h (Dict.mem_keys_ofList.mpr ?_)
  exact List.mem_map.mpr ⟨_, List.mem_map_of_mem (List.mem_filter.mpr
    ⟨he, by simp [hopen, hs]⟩), rfl⟩

theorem Settling.none_open (h : Settling gis match_settings b db slot g cur ps ws) (hps : ps = [])
    (hc : cur = none) : NoneOpen slot db := by
  cases h with
  | ready =>
      obtain ⟨p, rest, hsettle⟩ := settle_cons match_settings b cur slot g
      simp [hsettle] at hps
  | raised | closed | opened => simp at hps
  | touched | repeated | escalated => simp at hc
  | announced id id' hact hfit hnone => exact hnone hc

theorem Underway.none_open (h : Underway gis match_settings m db opens groups todo ws)
    (ht : todo = []) (hs : slot ∈ Dict.keys groups) (hc : Dict.get slot opens = none) :
    NoneOpen slot db := by
  induction h with
  | nil => simp [Dict.keys] at hs
  | current => simp at ht
  | settled h _ ih =>
      rcases List.mem_cons.mp hs with rfl | hs
      · exact h.none_open rfl hc
      · exact ih ht hs

theorem Live.unique (hone : ∀ e ∈ db.episodes, ∀ o ∈ db.episodes, e.closed_at = none →
      o.closed_at = none → e.slot = o.slot → e = o) {x y : Option OpenEpisode}
    (hx : ∀ c, x = some c → Live slot db c) (hx' : x = none → NoneOpen slot db)
    (hy : ∀ c, y = some c → Live slot db c) (hy' : y = none → NoneOpen slot db) : x = y := by
  have hnot : ∀ {c}, Live slot db c → NoneOpen slot db → False := by
    rintro c ⟨e, he, hec, hes, -⟩ hn
    exact hn e he hes hec
  cases x with
  | none =>
      cases y with
      | none => rfl
      | some c => exact (hnot (hy c rfl) (hx' rfl)).elim
  | some c =>
      cases y with
      | none => exact (hnot (hx c rfl) (hy' rfl)).elim
      | some c' =>
          obtain ⟨e, he, hec, hes, rfl⟩ := hx c rfl
          obtain ⟨o, ho, hoc, hos, rfl⟩ := hy c' rfl
          rw [hone e he o ho hec hoc (hes.trans hos.symm)]

theorem Underway.opens_eq (h : Underway gis match_settings m db opens groups todo ws)
    (ht : todo = []) (hd : Indexed db) (hsim : Simulated n₀ f k db dbs)
    (hlive : ∀ s c, Dict.get s opens = some c → Live s db c) (hs : slot ∈ Dict.keys groups) :
    Dict.get slot (EpisodeRepo.open_rows (Dict.keys groups) dbs) =
      (Dict.get slot opens).map (renamed_open f) := by
  refine Live.unique (hsim.one_open hd) (fun c => open_rows_live) (open_rows_none hs)
    (fun c hc => ?_) (fun hc => ?_)
  · obtain ⟨c, hget, rfl⟩ := Option.map_eq_some_iff.mp hc
    exact hsim.live (hlive slot c hget)
  · exact hsim.none_open (h.none_open ht hs (Option.map_eq_none_iff.mp hc))

theorem Stage.inserted_owned {d : Delivery}
    (h : Stage gis match_settings m db ([] : List (Task G)) ws) (hw : .inserted d ∈ ws) :
    ∃ w ∈ ws, .episode d.episode_id ∈ held w := by
  generalize htasks : ([] : List (Task G)) = tasks at h
  cases h with
  | begun | active | grouped | locking => simp at htasks
  | settling hn hl hf hu =>
      rcases List.mem_append.mp hw with hw | hw
      · obtain ⟨ids, hids⟩ := hl _ hw
        simp at hids
      · obtain ⟨slot, g, -, hwrote⟩ := hu.wrote hw
        cases hwrote with
        | escalated hc hid =>
            obtain ⟨-, w, hw, hr⟩ := hf slot _ (Dict.mem_of_get hc)
            exact ⟨w, List.mem_append_left _ hw, hid ▸ hr⟩
        | announced hopened =>
            exact ⟨_, List.mem_append_right _ hopened, List.mem_cons_self⟩

theorem Stage.kind {w : Write G} {tasks : List (Task G)}
    (h : Stage gis match_settings m db tasks ws) (hw : w ∈ ws) : Foreign [] w := by
  cases h with
  | begun | active | grouped => simp at hw
  | locking ids hn hl hf => exact hl.kind hw
  | settling hn hl hf hu =>
      rcases List.mem_append.mp hw with hw | hw
      · exact hl.kind hw
      · obtain ⟨slot, g, -, hwrote⟩ := hu.wrote hw
        exact hwrote.kind

theorem Stage.foreign {writes : List (Write G)}
    (h : Stage gis match_settings m db ([] : List (Task G)) writes)
    (hapart : (engine gis match_settings settings).disjoint ws writes = true) :
    ∀ w ∈ writes, Foreign (ws.flatMap held) w := by
  have hrow : ∀ w ∈ writes, ∀ r ∈ held w, r ∉ ws.flatMap held := by
    intro w hw r hr hm
    obtain ⟨w', hw', hr'⟩ := List.mem_flatMap.mp hm
    exact rows_disjoint_iff.mp hapart w' hw' w hw r hr' hr
  intro w hw
  have hkind := h.kind hw
  have hheld := hrow w hw
  cases w with
  | locked _ => trivial
  | refreshed _ _ _ _ | closed _ _ => exact hheld _ List.mem_cons_self
  | opened e =>
      exact ⟨hheld _ List.mem_cons_self, hheld _ (List.mem_cons_of_mem _ List.mem_cons_self)⟩
  | inserted d =>
      obtain ⟨w', hw', hr'⟩ := h.inserted_owned hw
      exact ⟨hheld _ List.mem_cons_self, hrow w' hw' _ hr'⟩
  | area _ | created _ | updated _ _ | failed _ _ | removed _ | area_deleted _ | attempted _
  | sent _ _ _ | purged _ _ => exact hkind.elim

theorem Stage.serial {writes : List (Write G)}
    (h : Stage gis match_settings m db ([] : List (Task G)) writes) (hd : Indexed db)
    (hf : Fresh n₀ db writes) (hs : Simulated n₀ f k db dbs) :
    ∃ dbs', m.execute gis match_settings settings dbs = .ok dbs' ∧
      (∃ f' k', Simulated n₀ f' k' (view db writes) dbs') ∧ Indexed (view db writes) := by
  generalize htasks : ([] : List (Task G)) = tasks at h
  cases h with
  | begun | active | grouped | locking => simp at htasks
  | @settling opens locks ws todo hn hl hfound hu =>
      have ht : todo = [] := List.map_eq_nil_iff.mp htasks.symm
      have hlive : ∀ s c, Dict.get s opens = some c → Live s db c := fun s c hc =>
        (hfound s c (Dict.mem_of_get hc)).1
      obtain ⟨dbs', created, hmatch, hsim, hind⟩ := hu.serial ht hd hs hf.right
        (keys_nodup m db) (fun s _ => hlive s) (fun s hk => hu.opens_eq ht hd hs hlive hk)
      have hview : view db (locks ++ ws) = view db ws := by
        simp only [view, List.foldl_append]
        exact congrArg (List.foldl Write.apply · ws) hl.view_eq
      have hgroups : groups_of gis match_settings m.batch.source m.batch.batch_at m.batch.events
          dbs = m.groups gis match_settings db :=
        groups_of_congr hs.subscriptions hs.watch_areas _ _ _
      refine ⟨dbs', ?_, hview ▸ hsim, hview ▸ hind⟩
      have hexec : execute_groups gis match_settings m.batch.source m.batch.batch_at m.batch.now
          m.batch.events dbs = .ok (dbs', created) :=
        execute_groups_iff.mpr (hgroups ▸ ⟨hn, hmatch⟩)
      simp only [Matcher.execute, Command.execute, execute, hexec, bind, Except.bind, Except.map]

theorem Simulated.refl (n₀ : Nat) (h : Indexed db) : Simulated n₀ id id db db where
  fixed _ _ := ⟨rfl, rfl⟩
  episode_ids _ _ _ _ := id
  delivery_ids _ _ _ _ := id
  episodes := (List.map_id _).symm
  deliveries := (List.map_id _).symm
  subscriptions := rfl
  watch_areas := rfl
  episodes_below := h.episode_ids
  deliveries_below := h.delivery_ids

theorem commit_order (gis : Gis G) (match_settings : MatchSettings) (settings : DeliverSettings)
    (n₀ : Nat) :
    CommitOrder (engine gis match_settings settings)
      (fun db => n₀ ≤ db.next_id ∧ Indexed db)
      (fun m db x => Stage gis match_settings m db x.todo x.writes ∧ Fresh n₀ db x.writes)
      (Matcher.execute gis match_settings settings)
      (fun db dbs => ∃ f k, Simulated n₀ f k db dbs) where
  start m db _ := ⟨.begun, .nil n₀ db⟩
  next m db p todo writes ws ps hj hl hp := by
    obtain ⟨hstage, hone⟩ := hl.1.next hp hj.2 hl.2
    have hall : ∀ w ∈ writes ++ ws, ∀ r ∈ held w, r ∈ (writes ++ ws).flatMap held :=
      fun w hw r hr => List.mem_flatMap.mpr ⟨w, hw, hr⟩
    exact ⟨hstage.agree (.drawn _ db ws) hall, hl.2.next hj.2 hj.1 hone⟩
  draw db w hj := ⟨le_trans hj.1 (Nat.le_add_right _ _), hj.2.drawn _⟩
  draw_open m db w x hl := by
    have hall : ∀ w ∈ x.writes, ∀ r ∈ held w, r ∈ x.writes.flatMap held :=
      fun w hw r hr => List.mem_flatMap.mpr ⟨w, hw, hr⟩
    have hdraw : Agree (x.writes.flatMap held) db (Write.draw db w) := .drawn _ db [w]
    exact ⟨hl.1.agree hdraw hall, hl.2.agree hdraw hall⟩
  draw_sim db w dbs hs := by
    obtain ⟨f, k, hs⟩ := hs
    exact ⟨f, k, { hs with }⟩
  commit m db writes hj hl := by
    obtain ⟨-, -, -, hind⟩ :=
      @Stage.serial _ gis match_settings settings db db m n₀ id id writes hl.1 hj.2 hl.2
        (.refl n₀ hj.2)
    exact ⟨le_of_le_of_eq hj.1 (view_next_id db writes).symm, hind⟩
  frame m m' db writes x hj hl hx hapart := by
    have hall : ∀ w ∈ x.writes, ∀ r ∈ held w, r ∈ x.writes.flatMap held :=
      fun w hw r hr => List.mem_flatMap.mpr ⟨w, hw, hr⟩
    have hagree : Agree (x.writes.flatMap held) db (view db writes) :=
      foreign_agree (hl.1.foreign hapart)
    exact ⟨hx.1.agree hagree hall, hx.2.agree hagree hall⟩
  serial m db writes dbs hj hl hs := by
    obtain ⟨f, k, hs⟩ := hs
    obtain ⟨dbs', hexec, hsim, -⟩ := hl.1.serial hj.2 hl.2 hs
    exact ⟨dbs', hexec, hsim⟩

theorem matching_serializable {db : NotificationsDb G} (hdb : Indexed db)
    {as : List (Move (Matcher G))} {t : Shared (NotificationsDb G) (Write G) (Task G)}
    (h : Run (engine gis match_settings settings).Step ⟨db, []⟩ as t) :
    Ends (engine gis match_settings settings) t ∧ Indexed t.db ∧
      ∃ serial, serially (Matcher.execute gis match_settings settings) (committed [] as) db =
        .ok serial ∧ SameUpToIds db.next_id t.db serial := by
  obtain ⟨⟨-, hind⟩, serial, hserial, f, k, hsim⟩ :=
    (commit_order gis match_settings settings db.next_id).serializable h ⟨le_refl _, hdb⟩
      ⟨id, id, .refl _ hdb⟩
  exact ⟨matchers_end t, hind, serial, hserial, f, k, hsim.toRenamed⟩

theorem settle_alone {ps : List (Statement G)} {db' : NotificationsDb G}
    (h : Serial gis match_settings settings db ps db') :
    Alone (engine gis match_settings settings) db (ps.map .settle) db' := by
  induction h with
  | done db => exact .done db
  | @next db db' p todo ps ws hp _ ih =>
      have hperform : Task.perform gis match_settings settings (.settle p) db =
          .ok (ws, ps.map .settle) := by
        have hp' : p.perform gis match_settings settings db = .ok (ws, ps) := hp
        simp only [Task.perform, hp', Except.map]
      exact .next hperform (List.map_append ▸ ih)

theorem lock_alone {ids : List Nat} {rows : List ((Nat × String) × OpenEpisode)}
    {db' : NotificationsDb G}
    (h : Alone (engine gis match_settings settings) db ((settling match_settings m
      (Dict.ofList (rows ++ ids.flatMap (fun id => relocked groups id db))) groups).map .settle)
      db') :
    Alone (engine gis match_settings settings) db [.lock m groups rows ids] db' := by
  induction ids generalizing rows with
  | nil =>
      rw [List.flatMap_nil, List.append_nil] at h
      exact .next rfl ((List.append_nil _).symm ▸ h)
  | cons id ids ih =>
      rw [List.flatMap_cons, ← List.append_assoc] at h
      exact .next rfl (ih h)

theorem scanned_eq (hd : Indexed db) (m : Matcher G) (hs : slot ∈ Dict.keys groups) :
    Dict.get slot (Dict.ofList ((m.scan ((db.episodes.filter (wanted groups)).map
      Episode.id)).flatMap (fun id => relocked groups id db))) =
      Dict.get slot (EpisodeRepo.open_rows (Dict.keys groups) db) := by
  refine Live.unique hd.one_open (fun c hc => ?_) (fun hnone e he hes hopen => ?_)
    (fun c => open_rows_live) (open_rows_none hs)
  · obtain ⟨id, -, hm⟩ := List.mem_flatMap.mp (Dict.mem_of_mem_ofList (Dict.mem_of_get hc))
    exact (mem_relocked hm).1
  · have hwanted : wanted groups e = true := by simp [wanted, hopen, hes, hs]
    have hscan : e.id ∈ m.scan ((db.episodes.filter (wanted groups)).map Episode.id) :=
      (m.scanned _).mem_iff.mpr (List.mem_map_of_mem (List.mem_filter.mpr ⟨he, hwanted⟩))
    have hrow : (slot, e.to_open) ∈ relocked groups e.id db :=
      hes ▸ List.mem_map_of_mem (List.mem_filter.mpr ⟨he, by simp [hwanted]⟩)
    refine Dict.get_eq_none.mp hnone (Dict.mem_keys_ofList.mpr ?_)
    exact List.mem_map.mpr ⟨_, List.mem_flatMap.mpr ⟨e.id, hscan, hrow⟩, rfl⟩

theorem settling_congr {opens' : List ((Nat × String) × OpenEpisode)}
    (h : ∀ s ∈ Dict.keys groups, Dict.get s opens = Dict.get s opens') :
    settling match_settings m opens groups = settling match_settings m opens' groups :=
  List.flatMap_congr (fun p hp =>
    congrArg (settle match_settings m.batch · p.1 p.2) (h p.1 (List.mem_map_of_mem hp)))

theorem found_rows (gis : Gis G) (match_settings : MatchSettings) (settings : DeliverSettings)
    (m : Matcher G) (h : 2 * groups.length ≤ 32767) :
    Task.perform gis match_settings settings (.open_episodes m groups) db =
      .ok ([], [.lock m groups [] (m.scan ((db.episodes.filter (wanted groups)).map
        Episode.id))]) := by
  have hbind : bind_arguments (2 * (Dict.keys groups).length) = .ok () :=
    bind_arguments_ok.mpr (by rwa [Dict.keys, List.length_map])
  rw [Task.perform, hbind]
  rfl

theorem execute_alone {db' : NotificationsDb G} (hd : Indexed db)
    (h : m.execute gis match_settings settings db = .ok db') :
    Alone (engine gis match_settings settings) db [.has_active_subscriptions m] db' := by
  obtain ⟨r, hr, rfl⟩ := Sessions.map_ok h
  obtain ⟨r₁, hgroups, hr⟩ := bind_ok.mp hr
  obtain rfl := Except.ok.inj hr
  obtain ⟨hlen, hgroups⟩ := execute_groups_iff.mp hgroups
  by_cases hactive : MatchingRepo.has_active_subscriptions db = true
  · have hread : Task.perform gis match_settings settings (.has_active_subscriptions m) db =
        .ok ([], [.matches_ m]) := by simp only [Task.perform, hactive, if_true]
    simp only [groups_of, hactive, if_true] at hlen hgroups
    have hsettle := settle_alone
      (@match_groups_serial _ gis match_settings settings db m.batch _ _ _ hgroups)
    have hlock : Alone (engine gis match_settings settings) db
        [.lock m (group gis (MatchingRepo.matches_ gis m.batch.source m.batch.batch_at
          match_settings.quake_max_age m.batch.events db)) [] _] r₁.1 := lock_alone (by
      rw [List.nil_append, settling_congr (fun s hs => scanned_eq hd m hs)]
      exact hsettle)
    exact .next hread (.next rfl (.next (found_rows gis match_settings settings m hlen) hlock))
  · have hread : Task.perform gis match_settings settings (.has_active_subscriptions m) db =
        .ok ([], []) := by simp [Task.perform, hactive]
    simp only [groups_of, hactive, if_false, Bool.false_eq_true] at hgroups
    obtain rfl := Except.ok.inj hgroups
    exact .next hread (.done _)

-- with no other transaction around, a matcher does what execute does
theorem matcher_refines {db' : NotificationsDb G} (hd : Indexed db)
    (h : m.execute gis match_settings settings db = .ok db') (i : Nat) :
    ∃ n, Run (engine gis match_settings settings).Step ⟨db, []⟩
      (.start i m :: (List.replicate n (.next i) ++ [.commit i])) ⟨db', []⟩ := by
  have hv : (engine gis match_settings settings).view db [] = db := rfl
  obtain ⟨n, hn⟩ := (execute_alone hd h).run draw_apply i hv
  exact ⟨n, .cons rfl hn⟩

def matchers : ReadCommitted.Engine (NotificationsDb Ring) (Write Ring) (Task Ring) (Matcher Ring)
    PyError Sessions.Row := engine planar_gis default_settings default_deliver

def alert_matcher : Matcher Ring := ⟨alert_batch, id, fun _ => .refl _⟩

-- both find nothing open; the second loses the insert, and its retry finds the row of the first
def raced : List (Move (Matcher Ring)) :=
  [.start 0 alert_matcher, .start 1 alert_matcher, .next 0, .next 1, .next 0, .next 1, .next 0,
    .next 1, .next 0, .next 1, .next 0, .next 0, .commit 0, .abort 1,
    .start 2 alert_matcher, .next 2, .next 2, .next 2, .next 2, .next 2, .next 2, .commit 2]

theorem matching_serializable_raced :
    ∃ t, Run matchers.Step ⟨watching, []⟩ raced t ∧
      (Ends matchers t ∧ Indexed t.db ∧
        ∃ serial, serially (Matcher.execute planar_gis default_settings default_deliver)
          (committed [] raced) watching = .ok serial ∧ SameUpToIds watching.next_id t.db serial) ∧
      (committed [] raced).length = 2 ∧ t.sessions.isEmpty = true ∧ t.db.deliveries.length = 1 := by
  have hempty : Indexed watching :=
    ⟨List.nodup_nil, by simp [watching], List.nodup_nil, by simp [watching], by simp [watching],
      by simp [watching], by simp [watching]⟩
  have hrun : (matchers.run (fun _ _ => True) ⟨watching, []⟩ raced).any (fun t =>
      t.sessions.isEmpty && decide (t.db.deliveries.length = 1)) = true := by decide +kernel
  obtain ⟨t, ht, hp⟩ := (Option.any_eq_true _ _).mp hrun
  simp only [Bool.and_eq_true, decide_eq_true_eq] at hp
  have h : Run matchers.Step ⟨watching, []⟩ raced t := (run_sound ht).mono (fun _ _ _ h => h.2)
  exact ⟨t, h, matching_serializable hempty h, rfl, hp.1, hp.2⟩

end GeoHazard.Matchers
