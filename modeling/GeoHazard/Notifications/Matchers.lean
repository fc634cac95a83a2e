import GeoHazard.Library.CommitOrder
import GeoHazard.Notifications.SessionSerial

namespace GeoHazard.Matchers
open MatchBatchUseCase Sessions ReadCommitted

variable {G : Type}

-- one match_notifications, with the order in which its SELECT ... FOR UPDATE comes to the rows
structure Matcher (G : Type) where
  batch : Batch G
  scan : List Nat → List Nat
  scanned : ∀ ids, (scan ids).Perm ids

-- the SELECT ... FOR UPDATE finds its rows in a snapshot and locks them one after the other
inductive Task (G : Type) where
  | has_active_subscriptions (m : Matcher G)
  | matches_ (m : Matcher G)
  | open_episodes (m : Matcher G) (groups : Groups)
  | lock (m : Matcher G) (groups : Groups) (rows : List ((Nat × String) × OpenEpisode))
      (ids : List Nat)
  | settle (s : Statement G)

variable (gis : Gis G) (match_settings : MatchSettings) (settings : DeliverSettings)

def wanted (groups : Groups) (e : Episode) : Bool :=
  e.closed_at.isNone && (Dict.keys groups).contains e.slot

-- once it has the lock, a waiter evaluates the WHERE again on the row as it then is
def relocked (groups : Groups) (episode_id : Nat) (db : NotificationsDb G) :
    List ((Nat × String) × OpenEpisode) :=
  (db.episodes.filter (fun e => decide (e.id = episode_id) && wanted groups e)).map
    (fun e => (e.slot, e.to_open))

def settling (m : Matcher G) (opens : List ((Nat × String) × OpenEpisode)) (groups : Groups) :
    List (Statement G) :=
  groups.flatMap (fun p => settle match_settings m.batch (Dict.get p.1 opens) p.1 p.2)

def Task.perform :
    Task G → NotificationsDb G → Except PyError (List (Write G) × List (Task G))
  | .has_active_subscriptions m, db =>
      .ok ([], if MatchingRepo.has_active_subscriptions db then [.matches_ m] else [])
  | .matches_ m, db =>
      .ok ([], [.open_episodes m (group gis (MatchingRepo.matches_ gis m.batch.source
        m.batch.batch_at match_settings.quake_max_age m.batch.events db))])
  | .open_episodes m groups, db => do
      bind_arguments (2 * (Dict.keys groups).length)
      .ok ([], [.lock m groups [] (m.scan ((db.episodes.filter (wanted groups)).map Episode.id))])
  | .lock m groups rows [], _ =>
      .ok ([], (settling match_settings m (Dict.ofList rows) groups).map .settle)
  | .lock m groups rows (episode_id :: ids), db =>
      .ok ([.locked [episode_id]], [.lock m groups (rows ++ relocked groups episode_id db) ids])
  | .settle s, db =>
      (s.perform gis match_settings settings db).map (fun r => (r.1, r.2.map .settle))

-- the primary keys make an inserted row its transaction's own
def held : Write G → List Sessions.Row
  | .opened e => [.episode e.id, .open_slot e.slot]
  | .inserted d => [.delivery d.id, .level d.episode_id d.severity]
  | w => w.rows

def engine : ReadCommitted.Engine (NotificationsDb G) (Write G) (Task G) (Matcher G) PyError
    Sessions.Row where
  program m := [.has_active_subscriptions m]
  perform := Task.perform gis match_settings settings
  apply := Write.apply
  draw := Write.draw
  rows := held

def Matcher.execute (m : Matcher G) (db : NotificationsDb G) :
    Except PyError (NotificationsDb G) :=
  (Command.matching m.batch).execute gis match_settings settings db

def Matcher.groups (m : Matcher G) (db : NotificationsDb G) : Groups :=
  groups_of gis match_settings m.batch.source m.batch.batch_at m.batch.events db

variable {gis match_settings settings}

def statement_rank : Statement G → Nat
  | .has_active_subscriptions _ | .get_removed _ => 4
  | .matches_ _ | .delete _ => 3
  | .open_episodes _ _ | .area_in_use _ | .claim _ _ | .get_paused _ | .get_resumed _
  | .get_failed _ _ _ => 2
  | .open_ _ _ _ _ _ | .create_area _ _ => 1
  | _ => 0

def Task.rank : Task G → Nat × Nat
  | .has_active_subscriptions _ => (4, 0)
  | .matches_ _ => (3, 0)
  | .open_episodes _ _ => (2, 0)
  | .lock _ _ _ ids => (1, ids.length)
  | .settle s => (0, statement_rank s)

theorem settle_rank {b : Batch G} {cur : Option OpenEpisode} {slot : Nat × String} {g : Group}
    {q : Statement G} (h : q ∈ settle match_settings b cur slot g) : statement_rank q < 2 := by
  rcases settle_cases match_settings b cur slot g with ⟨e, -, hs⟩ | ⟨cur, -, -, hs⟩ |
    ⟨cur, -, -, hs⟩ | ⟨cur, -, -, hs⟩ | ⟨-, hs⟩
  · exact List.mem_singleton.mp (hs ▸ h) ▸ Nat.zero_lt_two
  · exact List.mem_singleton.mp (hs ▸ h) ▸ Nat.zero_lt_two
  · rcases List.mem_pair.mp (hs ▸ h) with rfl | rfl <;> exact Nat.zero_lt_two
  · rcases List.mem_pair.mp (hs ▸ h) with rfl | rfl
    · exact Nat.zero_lt_two
    · exact Nat.one_lt_two
  · exact List.mem_singleton.mp (hs ▸ h) ▸ Nat.one_lt_two

theorem edits_rank {r r' : Subscription} {q : Statement G} (h : q ∈ edits r r') :
    statement_rank q = 0 := by
  unfold edits at h
  split at h
  · simp at h
  · exact List.mem_singleton.mp h ▸ rfl

theorem statement_smaller {p q : Statement G} {db : NotificationsDb G} {ws : List (Write G)}
    {ps : List (Statement G)} (h : p.perform gis match_settings settings db = .ok (ws, ps))
    (hq : q ∈ ps) : statement_rank q < statement_rank p := by
  have hlast : ∀ {x : Except PyError (List (Write G) × List (Statement G))} {vs qs},
      x = .ok (vs, qs) → x = .ok (ws, ps) → q ∈ qs := by
    intro x vs qs h₁ h₂
    obtain ⟨rfl, rfl⟩ := Prod.mk.inj (Except.ok.inj (h₁.symm.trans h₂))
    exact hq
  cases p with
  | has_active_subscriptions b =>
      have hm := hlast rfl h
      split at hm
      · exact List.mem_singleton.mp hm ▸ Nat.lt_succ_self _
      · simp at hm
  | matches_ b => exact List.mem_singleton.mp (hlast rfl h) ▸ Nat.lt_succ_self _
  | open_episodes b groups =>
      obtain ⟨opens, -, h⟩ := bind_ok.mp h
      obtain ⟨p, _, hm⟩ := List.mem_flatMap.mp (hlast rfl h)
      exact settle_rank hm
  | raise e => simp [Statement.perform] at h
  | open_ slot reason g at_ now =>
      simp only [Statement.perform, bind, Except.bind] at h
      split at h
      · simp at h
      · exact List.mem_singleton.mp (hlast rfl h) ▸ Nat.lt_succ_self _
  | create_area area n => exact List.mem_singleton.mp (hlast rfl h) ▸ Nat.lt_succ_self _
  | get_paused subscription_id =>
      simp only [Statement.perform, bind, Except.bind] at h
      split at h
      · simp at h
      · rcases List.mem_append.mp (hlast rfl h) with hm | hm
        · exact edits_rank hm ▸ Nat.zero_lt_two
        · exact List.mem_singleton.mp hm ▸ Nat.zero_lt_two
  | get_resumed subscription_id =>
      simp only [Statement.perform, bind, Except.bind] at h
      split at h
      · simp at h
      · exact edits_rank (hlast rfl h) ▸ Nat.zero_lt_two
  | get_failed subscription_id error now =>
      have hm := hlast rfl h
      split at hm
      · simp at hm
      · split at hm
        · rcases List.mem_append.mp hm with hm | hm
          · exact edits_rank hm ▸ Nat.zero_lt_two
          · exact List.mem_singleton.mp hm ▸ Nat.zero_lt_two
        · exact edits_rank hm ▸ Nat.zero_lt_two
  | get_removed subscription_id =>
      simp only [Statement.perform, bind, Except.bind] at h
      split at h
      · simp at h
      · exact List.mem_singleton.mp (hlast rfl h) ▸ Nat.lt_succ_self _
  | delete s => exact List.mem_singleton.mp (hlast rfl h) ▸ Nat.lt_succ_self _
  | area_in_use area_id =>
      have hm := hlast rfl h
      split at hm
      · simp at hm
      · exact List.mem_singleton.mp hm ▸ Nat.zero_lt_two
  | claim now skipped =>
      simp only [Statement.perform, bind, Except.bind] at h
      split at h
      · simp at h
      · exact List.mem_singleton.mp (hlast rfl h) ▸ Nat.zero_lt_two
  | refresh _ _ _ _ | close _ _ | add_delivery _ _ _ _ _ | create _ _ | update _ _ | fail_pending _
  | delete_area _ | attempt _ | mark_sent _ _ _ | purge_deliveries _ | purge_episodes _ =>
      have hm := hlast rfl h
      simp at hm

theorem task_smaller {p q : Task G} {db : NotificationsDb G} {ws : List (Write G)}
    {ps : List (Task G)} (h : p.perform gis match_settings settings db = .ok (ws, ps))
    (hq : q ∈ ps) : Prod.Lex (· < ·) (· < ·) q.rank p.rank := by
  cases p with
  | has_active_subscriptions m =>
      obtain ⟨rfl, rfl⟩ := Prod.mk.inj (Except.ok.inj h)
      split at hq
      · exact List.mem_singleton.mp hq ▸ .left _ _ (Nat.lt_succ_self 3)
      · simp at hq
  | matches_ m =>
      obtain ⟨rfl, rfl⟩ := Prod.mk.inj (Except.ok.inj h)
      exact List.mem_singleton.mp hq ▸ .left _ _ (Nat.lt_succ_self 2)
  | open_episodes m groups =>
      obtain ⟨_, -, h⟩ := bind_ok.mp h
      obtain ⟨rfl, rfl⟩ := Prod.mk.inj (Except.ok.inj h)
      exact List.mem_singleton.mp hq ▸ .left _ _ (Nat.lt_succ_self 1)
  | lock m groups rows ids =>
      cases ids with
      | nil =>
          obtain ⟨rfl, rfl⟩ := Prod.mk.inj (Except.ok.inj h)
          obtain ⟨s, _, rfl⟩ := List.mem_map.mp hq
          exact .left _ _ Nat.zero_lt_one
      | cons episode_id ids =>
          obtain ⟨rfl, rfl⟩ := Prod.mk.inj (Except.ok.inj h)
          exact List.mem_singleton.mp hq ▸ .right _ (Nat.lt_succ_self _)
  | settle s =>
      obtain ⟨r, hr, he⟩ := Sessions.map_ok h
      obtain ⟨rfl, rfl⟩ := Prod.mk.inj he
      obtain ⟨q, hm, rfl⟩ := List.mem_map.mp hq
      exact .right _ (statement_smaller hr hm)

theorem matchers_end (s : Shared (NotificationsDb G) (Write G) (Task G)) :
    Ends (engine gis match_settings settings) s :=
  ends (InvImage.wf Task.rank (WellFounded.prod_lex Nat.lt_wfRel.wf Nat.lt_wfRel.wf))
    (fun _ _ _ _ h _ hq => task_smaller h hq) s

end GeoHazard.Matchers
