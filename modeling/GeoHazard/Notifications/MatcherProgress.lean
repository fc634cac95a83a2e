import GeoHazard.Notifications.MatcherStages

namespace GeoHazard.Matchers
open MatchBatchUseCase Sessions ReadCommitted

variable {G : Type} {gis : Gis G} {match_settings : MatchSettings} {settings : DeliverSettings}
  {db db' v : NotificationsDb G} {slot : Nat × String} {g : Group} {b : Batch G} {m : Matcher G}
  {cur : Option OpenEpisode} {p : Statement G} {ps qs todo rest : List (Statement G)}
  {ws ws' writes before : List (Write G)} {w : Write G}
  {opens : List ((Nat × String) × OpenEpisode)} {groups : Groups} {rows : List Sessions.Row}
  {n₀ : Nat}

-- the writes of one group, each about its open episode or about the one it opens
inductive Wrote (b : Batch G) (slot : Nat × String) (g : Group) (cur : Option OpenEpisode)
    (ws : List (Write G)) : Write G → Prop
  | refreshed {c : OpenEpisode} (n : Nat) (x : Option Timestamptz) (at_ : Timestamptz) :
      cur = some c → Wrote b slot g cur ws (.refreshed c.id n x at_)
  | closed {c : OpenEpisode} (at_ : Timestamptz) : cur = some c →
      Wrote b slot g cur ws (.closed c.id at_)
  | opened (id : Nat) : Wrote b slot g cur ws (opening b slot g id)
  | escalated {c : OpenEpisode} {d : Delivery} : cur = some c → d.episode_id = c.id →
      Wrote b slot g cur ws (.inserted d)
  | announced {d : Delivery} : opening b slot g d.episode_id ∈ ws →
      Wrote b slot g cur ws (.inserted d)

theorem wrote_closing {id : Nat} (hw : w ∈ closing b cur ++ opening b slot g id :: ws)
    (hws : ∀ w ∈ ws, ∃ d, w = .inserted d ∧ d.episode_id = id) :
    Wrote b slot g cur (closing b cur ++ opening b slot g id :: ws) w := by
  rcases List.mem_append.mp hw with hw | hw
  · cases cur with
    | none => simp [closing] at hw
    | some c => exact List.mem_singleton.mp hw ▸ .closed b.batch_at rfl
  · rcases List.mem_cons.mp hw with rfl | hw
    · exact .opened id
    · obtain ⟨d, rfl, rfl⟩ := hws w hw
      exact .announced (List.mem_append_right _ List.mem_cons_self)

theorem Settling.wrote (h : Settling gis match_settings b db slot g cur ps ws) (hw : w ∈ ws) :
    Wrote b slot g cur ws w := by
  cases h with
  | ready => simp at hw
  | touched _ | raised _ | repeated _ =>
      obtain rfl := List.mem_singleton.mp hw
      exact .refreshed _ _ _ rfl
  | escalated id _ _ =>
      rcases List.mem_cons.mp hw with rfl | hw
      · exact .refreshed _ _ _ rfl
      · obtain rfl := List.mem_singleton.mp hw
        exact .escalated rfl rfl
  | closed _ =>
      obtain rfl := List.mem_singleton.mp hw
      exact .closed _ rfl
  | opened id _ _ _ => exact wrote_closing hw (by simp)
  | announced id id' _ _ _ =>
      exact wrote_closing hw (fun w hw => ⟨_, List.mem_singleton.mp hw, rfl⟩)

theorem Wrote.kind (h : Wrote b slot g cur ws w) : Foreign [] w := by
  cases h with
  | refreshed | closed => exact List.not_mem_nil
  | opened => exact ⟨List.not_mem_nil, List.not_mem_nil⟩
  | escalated | announced => exact ⟨List.not_mem_nil, List.not_mem_nil⟩

theorem Settling.elsewhere (h : Settling gis match_settings b db slot g cur ps ws)
    (hlive : ∀ c, cur = some c → Live slot db c) {s : Nat × String} (hne : slot ≠ s) :
    Elsewhere db s ws := by
  have hcur : ∀ c, cur = some c → ∃ e ∈ db.episodes, e.id = c.id ∧ e.slot ≠ s := by
    intro c hc
    obtain ⟨e, he, -, hes, rfl⟩ := hlive c hc
    exact ⟨e, he, rfl, hes ▸ hne⟩
  refine ⟨fun id at_ hw => ?_, fun d hw => ?_⟩
  · cases h.wrote hw with
    | closed _ hc => exact hcur _ hc
  · cases h.wrote hw with
    | escalated hc hid => exact .inl (hid ▸ hcur _ hc)
    | announced hopened => exact .inr ⟨_, hopened, rfl⟩

theorem Settling.unannounced (h : Settling gis match_settings b db slot g cur (p :: rest) ws)
    (d : Delivery) : .inserted d ∉ ws := by
  generalize hps : p :: rest = ps at h
  cases h with
  | ready | raised | closed => simp
  | touched | repeated | escalated | announced => simp at hps
  | opened id _ _ _ => cases cur <;> simp [closing, opening]

theorem Settling.one_write (h : Settling gis match_settings b db slot g cur (p :: rest) ws)
    (hp : p.perform gis match_settings settings v = .ok (ws', qs)) : OneWrite v.next_id ws' := by
  have hopen : ∀ {at_ now}, p = .open_ slot .opened g at_ now → OneWrite v.next_id ws' := by
    rintro at_ now rfl
    obtain ⟨_, _, _, rfl⟩ := performed_open hp
    exact .inr ⟨_, rfl, fun id hid => ⟨(Option.some.inj hid).symm, rfl⟩⟩
  have hadd : ∀ {id reason now}, p = .add_delivery slot id reason g now →
      OneWrite v.next_id ws' := by
    rintro id reason now rfl
    obtain ⟨-, ⟨-, rfl⟩ | ⟨-, rfl⟩⟩ := performed_delivery hp
    · exact .inl rfl
    · exact .inr ⟨_, rfl, fun id hid => ⟨(Option.some.inj hid).symm, rfl⟩⟩
  have hupdate : ∀ {w : Write G}, (.ok ([w], []) : Except PyError _) = .ok (ws', qs) →
      created w = none → OneWrite v.next_id ws' := by
    intro w hw hc
    obtain ⟨rfl, rfl⟩ := Prod.mk.inj (Except.ok.inj hw)
    exact .inr ⟨w, rfl, fun id hid => by simp [hc] at hid⟩
  generalize hps : p :: rest = ps at h
  cases h with
  | ready =>
      rcases settle_cases match_settings b cur slot g with ⟨e, -, hs⟩ | ⟨c, rfl, -, hs⟩ |
        ⟨c, rfl, -, hs⟩ | ⟨c, rfl, -, hs⟩ | ⟨rfl, hs⟩
      · obtain ⟨rfl, -⟩ := List.cons.inj (hps.trans hs)
        simp [Statement.perform] at hp
      · obtain ⟨rfl, -⟩ := List.cons.inj (hps.trans hs)
        exact hupdate hp rfl
      · obtain ⟨rfl, -⟩ := List.cons.inj (hps.trans hs)
        exact hupdate hp rfl
      · obtain ⟨rfl, -⟩ := List.cons.inj (hps.trans hs)
        exact hupdate hp rfl
      · exact hopen (List.cons.inj (hps.trans hs)).1
  | touched | repeated | escalated | announced => simp at hps
  | raised => exact hadd (List.cons.inj hps).1
  | closed => exact hopen (List.cons.inj hps).1
  | opened => exact hadd (List.cons.inj hps).1

theorem Live.agree {c : OpenEpisode} (h : Live slot db c) (ha : Agree rows db db')
    (hrow : .episode c.id ∈ rows) : Live slot db' c := by
  obtain ⟨e, he, hec, hes, rfl⟩ := h
  exact ⟨e, (ha.episode e hrow).mpr he, hec, hes, rfl⟩

theorem notified_agree {id severity : Nat} (ha : Agree rows db db') (hrow : .episode id ∈ rows) :
    Notified id severity db' ↔ Notified id severity db := by
  constructor
  · rintro ⟨d, hd, rfl, hsev⟩
    exact ⟨d, (ha.notified d hrow).mp hd, rfl, hsev⟩
  · rintro ⟨d, hd, rfl, hsev⟩
    exact ⟨d, (ha.notified d hrow).mpr hd, rfl, hsev⟩

theorem Settling.agree (h : Settling gis match_settings b db slot g cur ps ws)
    (ha : Agree rows db db') (hcur : ∀ c, cur = some c → .episode c.id ∈ rows)
    (hrows : ∀ w ∈ ws, ∀ r ∈ held w, r ∈ rows) :
    Settling gis match_settings b db' slot g cur ps ws := by
  have hnone : ∀ {id} {rest : List (Write G)}, opening b slot g id ∈ rest →
      (∀ w ∈ rest, ∀ r ∈ held w, r ∈ rows) → (cur = none → NoneOpen slot db) →
      cur = none → NoneOpen slot db' := fun hw hr hn hc =>
    ha.slot slot (hr _ hw _ (List.mem_cons_of_mem _ List.mem_cons_self)) (hn hc)
  cases h with
  | ready => exact .ready cur
  | touched hact => exact .touched hact
  | raised hact => exact .raised hact
  | repeated hact hn => exact .repeated hact ((notified_agree ha (hcur _ rfl)).mpr hn)
  | escalated id hact hn =>
      exact .escalated id hact (fun hn' => hn ((notified_agree ha (hcur _ rfl)).mp hn'))
  | closed hact => exact .closed hact
  | opened id hact hfit hn =>
      exact .opened id hact hfit
        (hnone (List.mem_append_right _ List.mem_cons_self) hrows hn)
  | announced id id' hact hfit hn =>
      exact .announced id id' hact hfit
        (hnone (List.mem_append_right _ List.mem_cons_self) hrows hn)

theorem settle_cons (match_settings : MatchSettings) (b : Batch G) (cur : Option OpenEpisode)
    (slot : Nat × String) (g : Group) :
    ∃ p ps, settle match_settings b cur slot g = p :: ps := by
  rcases settle_cases match_settings b cur slot g with ⟨e, -, hs⟩ | ⟨c, -, -, hs⟩ |
    ⟨c, -, -, hs⟩ | ⟨c, -, -, hs⟩ | ⟨-, hs⟩ <;> exact ⟨_, _, hs⟩

-- the groups in their order: some settled, one under way, the rest not begun
inductive Underway (gis : Gis G) (match_settings : MatchSettings) (m : Matcher G)
    (db : NotificationsDb G) (opens : List ((Nat × String) × OpenEpisode)) :
    Groups → List (Statement G) → List (Write G) → Prop
  | nil : Underway gis match_settings m db opens [] [] []
  | current {slot : Nat × String} {g : Group} {groups : Groups} {p : Statement G}
      {rest : List (Statement G)} {ws : List (Write G)} :
      Settling gis match_settings m.batch db slot g (Dict.get slot opens) (p :: rest) ws →
      Underway gis match_settings m db opens ((slot, g) :: groups)
        (p :: rest ++ settling match_settings m opens groups) ws
  | settled {slot : Nat × String} {g : Group} {groups : Groups} {todo : List (Statement G)}
      {ws ws' : List (Write G)} :
      Settling gis match_settings m.batch db slot g (Dict.get slot opens) [] ws →
      Underway gis match_settings m db opens groups todo ws' →
      Underway gis match_settings m db opens ((slot, g) :: groups) todo (ws ++ ws')

theorem Underway.ready (groups : Groups) :
    Underway gis match_settings m db opens groups (settling match_settings m opens groups) [] := by
  cases groups with
  | nil => exact .nil
  | cons p groups =>
      obtain ⟨slot, g⟩ := p
      obtain ⟨p, rest, hsettle⟩ := settle_cons match_settings m.batch (Dict.get slot opens) slot g
      have hready : Settling gis match_settings m.batch db slot g (Dict.get slot opens) (p :: rest)
          [] := hsettle ▸ .ready _
      rw [settling, List.flatMap_cons, hsettle]
      exact .current hready

theorem Underway.intro
    (h : Settling gis match_settings m.batch db slot g (Dict.get slot opens) ps ws) :
    Underway gis match_settings m db opens ((slot, g) :: groups)
      (ps ++ settling match_settings m opens groups) ws := by
  cases ps with
  | nil => simpa using Underway.settled h (Underway.ready groups)
  | cons p rest => exact .current h

theorem Underway.next
    (h : Underway gis match_settings m db opens groups (p :: rest) ws)
    (hp : p.perform gis match_settings settings (view db (before ++ ws)) = .ok (ws', qs))
    (hd : Indexed db) (hf : Fresh n₀ db (before ++ ws)) (hn : (Dict.keys groups).Nodup)
    (hlive : ∀ s c, Dict.get s opens = some c → Live s db c)
    (hb : ∀ s ∈ Dict.keys groups, Elsewhere db s before) (hk : ∀ w ∈ before, Foreign [] w) :
    Underway gis match_settings m db opens groups (qs ++ rest) (ws ++ ws') ∧
      OneWrite db.next_id ws' := by
  generalize htodo : p :: rest = todo at h
  induction h generalizing before with
  | nil => simp at htodo
  | @current slot g groups p' rest' ws h =>
      obtain ⟨rfl, rfl⟩ := List.cons.inj htodo
      have hsees := (hb slot List.mem_cons_self).sees hd hf (fun w hw =>
        (List.mem_append.mp hw).elim (hk w) (fun hw => (h.wrote hw).kind)) h.unannounced
        (hlive slot) g.severity
      refine ⟨?_, view_next_id db (before ++ ws) ▸ h.one_write hp⟩
      have hnext := @Underway.intro _ _ _ _ _ _ _ _ _ _ groups (h.next rfl hp hsees)
      rwa [List.append_assoc] at hnext
  | @settled slot g groups todo ws₁ ws₂ h _ ih =>
      rw [← List.append_assoc] at hp hf
      obtain ⟨hslot, hnodup⟩ := List.nodup_cons.mp hn
      obtain ⟨hnext, hone⟩ := ih hp hf hnodup (fun s hs => (hb s (List.mem_cons_of_mem _ hs)).append
        (h.elsewhere (hlive slot) (fun heq => hslot (heq ▸ hs)))) (fun w hw =>
          (List.mem_append.mp hw).elim (hk w) (fun hw => (h.wrote hw).kind)) htodo
      exact ⟨List.append_assoc _ _ _ ▸ .settled h hnext, hone⟩

theorem Wrote.mono (h : Wrote b slot g cur ws w) (hs : ∀ w ∈ ws, w ∈ ws') :
    Wrote b slot g cur ws' w := by
  cases h with
  | refreshed n x at_ hc => exact .refreshed n x at_ hc
  | closed at_ hc => exact .closed at_ hc
  | opened id => exact .opened id
  | escalated hc hid => exact .escalated hc hid
  | announced hw => exact .announced (hs _ hw)

theorem Underway.wrote (h : Underway gis match_settings m db opens groups todo ws) (hw : w ∈ ws) :
    ∃ slot g, slot ∈ Dict.keys groups ∧ Wrote m.batch slot g (Dict.get slot opens) ws w := by
  induction h with
  | nil => simp at hw
  | current h => exact ⟨_, _, List.mem_cons_self, h.wrote hw⟩
  | settled h _ ih =>
      rcases List.mem_append.mp hw with hw | hw
      · exact ⟨_, _, List.mem_cons_self, (h.wrote hw).mono (fun _ => List.mem_append_left _)⟩
      · obtain ⟨slot, g, hs, hwrote⟩ := ih hw
        exact ⟨slot, g, List.mem_cons_of_mem _ hs, hwrote.mono (fun _ => List.mem_append_right _)⟩

theorem Underway.agree (h : Underway gis match_settings m db opens groups todo ws)
    (ha : Agree rows db db')
    (hcur : ∀ s ∈ Dict.keys groups, ∀ c, Dict.get s opens = some c → .episode c.id ∈ rows)
    (hrows : ∀ w ∈ ws, ∀ r ∈ held w, r ∈ rows) :
    Underway gis match_settings m db' opens groups todo ws := by
  induction h with
  | nil => exact .nil
  | current h => exact .current (h.agree ha (hcur _ List.mem_cons_self) hrows)
  | settled h _ ih =>
      exact .settled
        (h.agree ha (hcur _ List.mem_cons_self) (fun w hw => hrows w (List.mem_append_left _ hw)))
        (ih (fun s hs => hcur s (List.mem_cons_of_mem _ hs))
          (fun w hw => hrows w (List.mem_append_right _ hw)))

def Locks (ws : List (Write G)) : Prop := ∀ w ∈ ws, ∃ ids, w = .locked ids

-- rows as they were when they were locked
def Locked (db : NotificationsDb G) (ws : List (Write G))
    (opens : List ((Nat × String) × OpenEpisode)) : Prop :=
  ∀ s c, (s, c) ∈ opens → Live s db c ∧ ∃ w ∈ ws, .episode c.id ∈ held w

-- where a matcher stands, over what is committed meanwhile
inductive Stage (gis : Gis G) (match_settings : MatchSettings) (m : Matcher G)
    (db : NotificationsDb G) : List (Task G) → List (Write G) → Prop
  | begun : Stage gis match_settings m db [.has_active_subscriptions m] []
  | active : MatchingRepo.has_active_subscriptions db = true →
      Stage gis match_settings m db [.matches_ m] []
  | grouped : Stage gis match_settings m db [.open_episodes m (m.groups gis match_settings db)] []
  | locking {found : List ((Nat × String) × OpenEpisode)} {locks : List (Write G)}
      (ids : List Nat) : 2 * (m.groups gis match_settings db).length ≤ 32767 → Locks locks →
      Locked db locks found →
      Stage gis match_settings m db [.lock m (m.groups gis match_settings db) found ids] locks
  | settling {opens : List ((Nat × String) × OpenEpisode)} {locks ws : List (Write G)}
      {todo : List (Statement G)} : 2 * (m.groups gis match_settings db).length ≤ 32767 →
      Locks locks → Locked db locks opens →
      Underway gis match_settings m db opens (m.groups gis match_settings db) todo ws →
      Stage gis match_settings m db (todo.map .settle) (locks ++ ws)

theorem Locks.view_eq (h : Locks ws) : view db ws = db := by
  induction ws with
  | nil => rfl
  | cons w ws ih =>
      obtain ⟨ids, rfl⟩ := h w List.mem_cons_self
      exact ih (fun w' hw' => h w' (List.mem_cons_of_mem _ hw'))

theorem Locks.elsewhere (h : Locks ws) (db : NotificationsDb G) (slot : Nat × String) :
    Elsewhere db slot ws := by
  refine ⟨fun id at_ hw => ?_, fun d hw => ?_⟩
  · obtain ⟨ids, hids⟩ := h _ hw
    simp at hids
  · obtain ⟨ids, hids⟩ := h _ hw
    simp at hids

theorem Locks.kind (h : Locks ws) (hw : w ∈ ws) : Foreign rows w := by
  obtain ⟨ids, rfl⟩ := h w hw
  trivial

theorem Locked.agree (h : Locked db ws opens) (ha : Agree rows db db')
    (hrows : ∀ w ∈ ws, ∀ r ∈ held w, r ∈ rows) : Locked db' ws opens := by
  intro s c hm
  obtain ⟨hlive, w, hw, hr⟩ := h s c hm
  exact ⟨hlive.agree ha (hrows w hw _ hr), w, hw, hr⟩

theorem mem_relocked {id : Nat} {c : OpenEpisode} (h : (slot, c) ∈ relocked groups id db) :
    Live slot db c ∧ c.id = id := by
  obtain ⟨e, he, heq⟩ := List.mem_map.mp h
  obtain ⟨rfl, rfl⟩ := Prod.mk.inj heq
  obtain ⟨hmem, hp⟩ := List.mem_filter.mp he
  simp only [wanted, Bool.and_eq_true, decide_eq_true_eq, Option.isNone_iff_eq_none] at hp
  exact ⟨⟨e, hmem, hp.2.1, rfl, rfl⟩, hp.1⟩

theorem Locked.relock (h : Locked db ws opens) (groups : Groups) (episode_id : Nat) :
    Locked db (ws ++ [.locked [episode_id]]) (opens ++ relocked groups episode_id db) := by
  intro s c hm
  rcases List.mem_append.mp hm with hm | hm
  · obtain ⟨hlive, w, hw, hr⟩ := h s c hm
    exact ⟨hlive, w, List.mem_append_left _ hw, hr⟩
  · obtain ⟨hlive, rfl⟩ := mem_relocked hm
    exact ⟨hlive, _, List.mem_append_right _ List.mem_cons_self, List.mem_cons_self⟩

theorem Matcher.groups_agree (ha : Agree rows db db') :
    m.groups gis match_settings db' = m.groups gis match_settings db :=
  groups_of_congr ha.subscriptions ha.watch_areas _ _ _

theorem Stage.agree {tasks : List (Task G)} (h : Stage gis match_settings m db tasks writes)
    (ha : Agree rows db db') (hrows : ∀ w ∈ writes, ∀ r ∈ held w, r ∈ rows) :
    Stage gis match_settings m db' tasks writes := by
  cases h with
  | begun => exact .begun
  | active hactive =>
      refine .active ?_
      rwa [MatchingRepo.has_active_subscriptions, ha.subscriptions]
  | grouped => exact Matcher.groups_agree ha ▸ .grouped
  | locking ids hn hl hf =>
      have hgroups := @Matcher.groups_agree _ gis match_settings _ _ m _ ha
      rw [← hgroups] at hn ⊢
      exact .locking ids hn hl (hf.agree ha hrows)
  | settling hn hl hf hu =>
      have hlocks := fun w hw => hrows w (List.mem_append_left _ hw)
      refine .settling (Matcher.groups_agree ha ▸ hn) hl (hf.agree ha hlocks)
        (Matcher.groups_agree ha ▸ hu.agree ha ?_
          (fun w hw => hrows w (List.mem_append_right _ hw)))
      intro s _ c hc
      obtain ⟨-, w, hw, hr⟩ := hf s c (Dict.mem_of_get hc)
      exact hlocks w hw _ hr

theorem keys_nodup (m : Matcher G) (db : NotificationsDb G) :
    (Dict.keys (m.groups gis match_settings db)).Nodup :=
  (groups_of_ok m.batch.source m.batch.batch_at m.batch.events db).1

theorem settled_tasks {tasks : List (Task G)} {q : Task G}
    (h : todo.map Task.settle = q :: tasks) :
    ∃ p rest, todo = p :: rest ∧ q = .settle p ∧ tasks = rest.map .settle := by
  obtain ⟨p, rest, rfl, hp, hrest⟩ := List.map_eq_cons_iff.mp h
  exact ⟨p, rest, rfl, hp.symm, hrest.symm⟩

theorem Stage.next {q : Task G} {tasks ts : List (Task G)}
    (h : Stage gis match_settings m db (q :: tasks) writes)
    (hp : q.perform gis match_settings settings (view db writes) = .ok (ws, ts))
    (hd : Indexed db) (hf : Fresh n₀ db writes) :
    Stage gis match_settings m db (ts ++ tasks) (writes ++ ws) ∧ OneWrite db.next_id ws := by
  generalize htasks : q :: tasks = all at h
  cases h with
  | begun =>
      obtain ⟨rfl, rfl⟩ := List.cons.inj htasks
      obtain ⟨rfl, rfl⟩ := Prod.mk.inj (Except.ok.inj hp)
      refine ⟨?_, .inl rfl⟩
      split
      · next hactive => exact .active hactive
      · next hactive =>
          have hnone : m.groups gis match_settings db = [] := if_neg hactive
          exact @Stage.settling _ gis match_settings m db [] [] [] [] (by simp [hnone])
            (by simp [Locks]) (by simp [Locked]) (hnone ▸ .nil)
  | active hactive =>
      obtain ⟨rfl, rfl⟩ := List.cons.inj htasks
      obtain ⟨rfl, rfl⟩ := Prod.mk.inj (Except.ok.inj hp)
      have hgroups : m.groups gis match_settings db = group gis (MatchingRepo.matches_ gis
          m.batch.source m.batch.batch_at match_settings.quake_max_age m.batch.events db) :=
        if_pos hactive
      exact ⟨hgroups ▸ .grouped, .inl rfl⟩
  | grouped =>
      obtain ⟨rfl, rfl⟩ := List.cons.inj htasks
      obtain ⟨_, hn, hp⟩ := bind_ok.mp hp
      obtain ⟨rfl, rfl⟩ := Prod.mk.inj (Except.ok.inj hp)
      rw [bind_arguments_ok, Dict.keys, List.length_map] at hn
      exact ⟨.locking _ hn (by simp [Locks]) (by simp [Locked]), .inl rfl⟩
  | @locking found _ ids hn hl hfound =>
      obtain ⟨rfl, rfl⟩ := List.cons.inj htasks
      cases ids with
      | nil =>
          obtain ⟨rfl, rfl⟩ := Prod.mk.inj (Except.ok.inj hp)
          rw [List.append_nil]
          exact ⟨.settling hn hl (fun s c hm => hfound s c (Dict.mem_of_mem_ofList hm)) (.ready _),
            .inl rfl⟩
      | cons episode_id ids =>
          obtain ⟨rfl, rfl⟩ := Prod.mk.inj (Except.ok.inj hp)
          rw [hl.view_eq]
          refine ⟨.locking ids hn ?_ (hfound.relock _ episode_id), .inr ⟨_, rfl, by simp [created]⟩⟩
          intro w hw
          rcases List.mem_append.mp hw with hw | hw
          · exact hl w hw
          · exact ⟨_, List.mem_singleton.mp hw⟩
  | settling hlen hl hfound hu =>
      obtain ⟨p, rest, rfl, rfl, rfl⟩ := settled_tasks htasks.symm
      obtain ⟨r, hr, he⟩ := Sessions.map_ok hp
      obtain ⟨rfl, rfl⟩ := Prod.mk.inj he
      obtain ⟨hnext, hone⟩ := hu.next hr hd hf (keys_nodup m db)
        (fun s c hc => (hfound s c (Dict.mem_of_get hc)).1) (fun s _ => hl.elsewhere db s)
        (fun w hw => hl.kind hw)
      refine ⟨?_, hone⟩
      rw [← List.map_append, List.append_assoc]
      exact .settling hlen hl hfound hnext

end GeoHazard.Matchers
