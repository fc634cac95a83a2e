import GeoHazard.Library.TwoSessions
import GeoHazard.Notifications.SessionSerial

namespace GeoHazard.Sessions
open ReadCommitted DeliveryRepo

variable {G : Type} {gis : Gis G} {match_settings : MatchSettings} {settings : DeliverSettings}
  {db v : NotificationsDb G} {S : Nat} {T : List Nat} {g : Subscription → Subscription}

-- the statements of the record phase, of pause and of resume
def Statement.recording : Statement G → Prop
  | .update _ f => Keeps f
  | .get_paused _ | .get_resumed _ | .get_failed _ _ _ | .fail_pending _ | .mark_sent _ _ _
  | .purge_deliveries _ | .purge_episodes _ => True
  | _ => False

def Write.recording : Write G → Prop
  | .updated _ f => Keeps f
  | .failed _ _ | .sent _ _ _ | .purged _ _ => True
  | _ => False

def Statement.weight : Statement G → Nat
  | .get_paused _ | .get_resumed _ | .get_failed _ _ _ => 3
  | _ => 1

theorem edits_recording (r r' : Subscription) :
    ∀ q ∈ (edits r r' : List (Statement G)), q.recording := by
  intro q hq
  rw [mem_edits hq]
  exact orm_update_keeps r r'

theorem edits_weight (r r' : Subscription) :
    Dict.total Statement.weight (edits r r' : List (Statement G)) ≤ 1 := by
  unfold edits
  split
  · simp
  · simp [Statement.weight]

structure Recorded (p : Statement G) (ws : List (Write G)) (ps : List (Statement G)) : Prop where
  writes : ∀ w ∈ ws, w.recording
  todo : ∀ q ∈ ps, q.recording
  less : Dict.total Statement.weight ps < p.weight

theorem edits_recorded {p : Statement G} (hp : p.weight = 3) (r r' : Subscription) :
    Recorded p [] (edits r r') := by
  have hle := edits_weight (G := G) r r'
  exact ⟨by simp, edits_recording r r', by omega⟩

theorem edits_failed_recorded {p : Statement G} (hp : p.weight = 3) (r r' : Subscription) (S : Nat) :
    Recorded p [] (edits r r' ++ [.fail_pending S]) := by
  have hle := edits_weight (G := G) r r'
  refine ⟨by simp, fun q hq => ?_, ?_⟩
  · rcases List.mem_append.mp hq with hq | hq
    · exact edits_recording r r' q hq
    · obtain rfl := List.mem_singleton.mp hq
      trivial
  · simp only [Dict.total_append, Dict.total_cons, Dict.total_nil, hp]
    have hone : Statement.weight (.fail_pending S : Statement G) = 1 := rfl
    omega

theorem recorded {p : Statement G} {ws : List (Write G)} {ps : List (Statement G)}
    (hr : p.recording) (h : p.perform gis match_settings settings v = .ok (ws, ps)) :
    Recorded p ws ps := by
  cases p with
  | get_paused id =>
      simp only [Statement.perform, bind, Except.bind] at h
      split at h
      · simp at h
      · simp only [Except.ok.injEq, Prod.mk.injEq] at h
        obtain ⟨rfl, rfl⟩ := h
        exact edits_failed_recorded rfl _ _ id
  | get_resumed id =>
      simp only [Statement.perform, bind, Except.bind] at h
      split at h
      · simp at h
      · simp only [Except.ok.injEq, Prod.mk.injEq] at h
        obtain ⟨rfl, rfl⟩ := h
        exact edits_recorded rfl _ _
  | get_failed id error now =>
      simp only [Statement.perform, Except.ok.injEq, Prod.mk.injEq] at h
      obtain ⟨rfl, rfl⟩ := h
      split
      · exact ⟨by simp, by simp, by simp [Statement.weight]⟩
      · split
        · exact edits_failed_recorded rfl _ _ id
        · exact edits_recorded rfl _ _
  | update id f =>
      simp only [Statement.perform, Except.ok.injEq, Prod.mk.injEq] at h
      obtain ⟨rfl, rfl⟩ := h
      exact ⟨fun w hw => List.mem_singleton.mp hw ▸ hr, by simp, by simp [Statement.weight]⟩
  | fail_pending _ | mark_sent _ _ _ | purge_deliveries _ | purge_episodes _ =>
      simp only [Statement.perform, Except.ok.injEq, Prod.mk.injEq] at h
      obtain ⟨rfl, rfl⟩ := h
      exact ⟨fun w hw => List.mem_singleton.mp hw ▸ trivial, by simp, by simp [Statement.weight]⟩
  | has_active_subscriptions _ | matches_ _ | open_episodes _ _ | refresh _ _ _ _ | close _ _
  | open_ _ _ _ _ _ | add_delivery _ _ _ _ _ | raise _ | create_area _ _ | create _ _ | get_removed _
  | delete _ | area_in_use _ | delete_area _ | claim _ _ | attempt _ => exact hr.elim

theorem recording_creates {w : Write G} (h : w.recording) : w.creates = false := by
  cases w <;> first | rfl | exact h.elim

theorem recording_drawless :
    Drawless (engine gis match_settings settings) (Statement.recording (G := G)) where
  drawn p v ws ps hp h db := by
    have hzero : ws.countP Write.creates = 0 := by
      rw [List.countP_eq_zero]
      exact fun w hw => by simp [recording_creates ((recorded hp h).writes w hw)]
    have heq := drawn_eq db ws
    rw [hzero] at heq
    exact heq
  todo _ _ _ _ hp h := (recorded hp h).todo

theorem recording_shrinks :
    Shrinks (engine gis match_settings settings) (Statement.recording (G := G)) Statement.weight where
  todo _ _ _ _ hp h := (recorded hp h).todo
  less _ _ _ _ hp h := (recorded hp h).less

-- what a command on S writes, on its row and on those of its deliveries that are still pending
def touched (S : Nat) (g : Subscription → Subscription) (T : List Nat) (db : NotificationsDb G) :
    NotificationsDb G :=
  Write.apply (Write.apply db (.updated S g)) (.failed S T)

theorem touched_self (S : Nat) (db : NotificationsDb G) : touched S id [] db = db := by
  have hs : Table.update (fun s => decide (s.id = S)) id db.subscriptions = db.subscriptions := by
    simp [Table.update]
  have hd : Table.update (fun d => decide (d.id ∈ ([] : List Nat)) && is_pending_of S d) dropped
      db.deliveries = db.deliveries := Table.update_eq_self (by simp)
  exact congrArg₂ (fun subscriptions deliveries =>
    { db with subscriptions := subscriptions, deliveries := deliveries }) hs hd

-- a write that goes the same way before and after a command on S
def Write.Clear (S : Nat) (g : Subscription → Subscription) (T : List Nat) : Write G → Prop
  | .updated subscription_id f => Keeps f ∧ (subscription_id = S → g = id)
  | .sent delivery_ids _ _ => ∀ i ∈ delivery_ids, i ∉ T
  | .failed _ _ | .purged _ _ => True
  | _ => False

theorem rows_comm {α : Type} {p q : α → Bool} {f g : α → α}
    (hrow : ∀ r, (if p (if q r then g r else r) then f (if q r then g r else r)
      else if q r then g r else r) =
      if q (if p r then f r else r) then g (if p r then f r else r) else if p r then f r else r)
    (t : List α) : Table.update p f (Table.update q g t) = Table.update q g (Table.update p f t) := by
  simp only [Table.update, List.map_map]
  exact List.map_congr_left (fun r _ => hrow r)

theorem touched_comm (hg : Keeps g) {w : Write G} (hw : w.Clear S g T) (db : NotificationsDb G) :
    Write.apply (touched S g T db) w = touched S g T (Write.apply db w) := by
  cases w with
  | updated i f =>
      obtain ⟨hf, hi⟩ := hw
      have hrows := @rows_comm _ (fun s => decide (s.id = i)) (fun s => decide (s.id = S)) f g
        (fun r => ?_) db.subscriptions
      · exact congrArg (fun subscriptions => { touched S g T db with
          subscriptions := subscriptions }) hrows
      · by_cases hS : r.id = S
        · by_cases hri : r.id = i
          · obtain rfl := hi (hri.symm.trans hS)
            simp
          · have hgi : ¬ (g r).id = i := fun h => hri ((hg r).symm.trans h)
            simp [hS, hgi, hS ▸ hri]
        · by_cases hri : r.id = i
          · have hfS : ¬ (f r).id = S := fun h => hS ((hf r).symm.trans h)
            simp [hri, hri ▸ hS, hfS]
          · simp [hS, hri]
  | sent ids m n =>
      have hrows := @rows_comm _ (fun d => decide (d.id ∈ ids))
        (fun d => decide (d.id ∈ T) && is_pending_of S d) (delivered n m) dropped (fun d => ?_)
        db.deliveries
      · exact congrArg (fun deliveries => { touched S g T db with deliveries := deliveries }) hrows
      · by_cases hd : d.id ∈ ids
        · have hT := hw d.id hd
          have hT' : (delivered n m d).id ∉ T := hT
          simp [hd, hT, hT']
        · by_cases hT : (decide (d.id ∈ T) && is_pending_of S d) = true
          · have hid : (dropped d).id ∉ ids := hd
            simp only [hT, if_true, hid, decide_false, Bool.false_eq_true, if_false, hd]
          · simp only [hT, if_false, hd, decide_false, Bool.false_eq_true]
  | failed i ids =>
      have hrows := @rows_comm _ (fun d => decide (d.id ∈ ids) && is_pending_of i d)
        (fun d => decide (d.id ∈ T) && is_pending_of S d) dropped dropped (fun d => ?_)
        db.deliveries
      · exact congrArg (fun deliveries => { touched S g T db with deliveries := deliveries }) hrows
      · have hdrop' : ∀ j d, is_pending_of j (dropped d) = false :=
          fun j d => by simp [is_pending_of, dropped]
        cases hd : decide (d.id ∈ ids) && is_pending_of i d with
        | true =>
            cases hT : decide (d.id ∈ T) && is_pending_of S d with
            | true => simp only [if_true, hdrop', Bool.and_false, Bool.false_eq_true, if_false]
            | false =>
                simp only [hd, if_true, hdrop', Bool.and_false, Bool.false_eq_true, if_false]
        | false =>
            cases hT : decide (d.id ∈ T) && is_pending_of S d with
            | true => simp only [hT, if_true, hdrop', Bool.and_false, Bool.false_eq_true, if_false]
            | false => simp only [hd, hT, Bool.false_eq_true, if_false]
  | purged ids es =>
      have hrows : (Table.update (fun d => decide (d.id ∈ T) && is_pending_of S d) dropped
          db.deliveries).filter (fun d => decide (d.id ∉ ids) && decide (d.episode_id ∉ es)) =
          Table.update (fun d => decide (d.id ∈ T) && is_pending_of S d) dropped
            (db.deliveries.filter (fun d => decide (d.id ∉ ids) && decide (d.episode_id ∉ es))) := by
        simp only [Table.update, List.filter_map]
        refine congrArg _ (List.filter_congr (fun d _ => ?_))
        simp only [Function.comp_apply]
        split <;> rfl
      exact congrArg (fun deliveries => { touched S g T db with
        episodes := db.episodes.filter (fun e => decide (e.id ∉ es))
        deliveries := deliveries }) hrows
  | locked _ | refreshed _ _ _ _ | closed _ _ | opened _ | inserted _ | area _ | created _
  | removed _ | area_deleted _ | attempted _ => exact hw.elim

-- a statement that reads nothing of what a command on S has written
def Statement.Unaffected (S : Nat) (g : Subscription → Subscription) (T : List Nat) :
    Statement G → Prop
  | .update _ f => Keeps f
  | .mark_sent _ _ _ => True
  | .get_failed subscription_id _ _ => subscription_id = S → g = id
  | .fail_pending subscription_id => subscription_id = S → T = []
  | .purge_deliveries _ | .purge_episodes _ => T = []
  | _ => False

theorem touched_find (hg : Keeps g) {i : Nat} (hi : i = S → g = id) (db : NotificationsDb G) :
    Table.find Subscription.id i (touched S g T db).subscriptions =
      Table.find Subscription.id i db.subscriptions := by
  have hfind : Table.find Subscription.id i (touched S g T db).subscriptions =
      (Table.find Subscription.id i db.subscriptions).map
        (fun s => if decide (s.id = S) then g s else s) := Table.find_update (fun s _ => hg s) i _
  rw [hfind]
  cases hr : Table.find Subscription.id i db.subscriptions with
  | none => rfl
  | some r =>
      have hid := (Table.find_some_mem hr).2
      by_cases hS : i = S
      · simp [hi hS]
      · simp [hid, hS]

theorem filter_update {α : Type} {p q : α → Bool} {f : α → α} {t : List α}
    (hq : ∀ r ∈ t, q r = true → p r = false ∧ p (f r) = false) :
    (Table.update q f t).filter p = t.filter p := by
  induction t with
  | nil => rfl
  | cons r t ih =>
      have ht := ih (fun s hs => hq s (List.mem_cons_of_mem _ hs))
      simp only [Table.update, List.map_cons] at ht ⊢
      by_cases hr : q r = true
      · obtain ⟨hpr, hpf⟩ := hq r List.mem_cons_self hr
        simp only [hr, if_true, List.filter_cons, hpr, hpf, Bool.false_eq_true, if_false, ht]
      · simp only [hr, if_false, Bool.false_eq_true, List.filter_cons, ht]

theorem pending_other {i : Nat} (hi : i ≠ S) {d : Delivery} (h : is_pending_of S d = true) :
    is_pending_of i d = false ∧ is_pending_of i (dropped d) = false := by
  have hsub := pending_of_subscription h
  have hne : ¬ S = i := fun he => hi he.symm
  exact ⟨by simp [is_pending_of, hsub, hne], by simp [is_pending_of, dropped]⟩

theorem touched_pending {i : Nat} (hi : i = S → T = []) (db : NotificationsDb G) :
    (touched S g T db).deliveries.filter (is_pending_of i) =
      db.deliveries.filter (is_pending_of i) := by
  refine filter_update (fun d _ hd => ?_)
  obtain ⟨hT, hp⟩ := Bool.and_eq_true_iff.mp hd
  by_cases hS : i = S
  · rw [hi hS] at hT
    simp at hT
  · exact pending_other hS hp

theorem unaffected_perform (hg : Keeps g) {p : Statement G} (hp : p.Unaffected S g T)
    (v : NotificationsDb G) : p.perform gis match_settings settings (touched S g T v) =
      p.perform gis match_settings settings v := by
  cases p with
  | update _ _ => rfl
  | mark_sent _ _ _ => rfl
  | get_failed i e n => simp only [Statement.perform, touched_find hg hp v]
  | fail_pending i => simp only [Statement.perform, touched_pending hp v]
  | purge_deliveries c =>
      obtain rfl : T = [] := hp
      have hd : (touched S g [] v).deliveries = v.deliveries := Table.update_eq_self (by simp)
      simp only [Statement.perform, hd]
  | purge_episodes c =>
      obtain rfl : T = [] := hp
      have hd : (touched S g [] v).deliveries = v.deliveries := Table.update_eq_self (by simp)
      have he : (touched S g [] v).episodes = v.episodes := rfl
      simp only [Statement.perform, hd, he]
  | has_active_subscriptions _ | matches_ _ | open_episodes _ _ | refresh _ _ _ _ | close _ _
  | open_ _ _ _ _ _ | add_delivery _ _ _ _ _ | raise _ | create_area _ _ | create _ _ | get_removed _
  | get_paused _ | get_resumed _
  | delete _ | area_in_use _ | delete_area _ | claim _ _ | attempt _ => exact hp.elim

-- the writes of a command on S that holds their locks
structure Wrote (S : Nat) (g : Subscription → Subscription) (T : List Nat)
    (writes : List (Write G)) : Prop where
  view : ∀ db, view db writes = touched S g T db
  keeps : Keeps g
  row : g = id ∨ .updated S g ∈ writes
  pending : T = [] ∨ .failed S T ∈ writes

theorem clear_of_apart {ws writes : List (Write G)} (hw : Wrote S g T writes)
    (h : (engine gis match_settings settings).disjoint ws writes = true)
    (hr : ∀ w ∈ ws, w.recording) : ∀ w ∈ ws, w.Clear S g T := by
  rw [rows_disjoint_iff] at h
  intro w hmem
  have hrec := hr w hmem
  cases w with
  | updated i f =>
      refine ⟨hrec, fun hi => hw.row.resolve_right (fun hg => ?_)⟩
      exact h _ hmem _ hg (.subscription i) (by simp [engine, Write.rows])
        (by simp [engine, Write.rows, hi])
  | sent ids m n =>
      intro i hi hT
      rcases hw.pending with rfl | hT'
      · simp at hT
      · exact h _ hmem _ hT' (.delivery i) (by simpa [engine, Write.rows] using hi)
          (by simpa [engine, Write.rows] using hT)
  | failed _ _ => trivial
  | purged _ _ => trivial
  | locked _ | refreshed _ _ _ _ | closed _ _ | opened _ | inserted _ | area _ | created _
  | removed _ | area_deleted _ | attempted _ => exact hrec.elim

theorem trace_writes {N : Statement G → Prop} (hN : ∀ p, N p → p.recording)
    {program todo : List (Statement G)} {writes : List (Write G)}
    (h : Trace (engine gis match_settings settings) N db program writes todo) :
    ∀ w ∈ writes, w.recording := by
  induction h with
  | start => simp
  | next _ hp hq ih =>
      intro w hw
      rcases List.mem_append.mp hw with hw | hw
      · exact ih w hw
      · exact (recorded (hN _ hp) hq).writes w hw

theorem trace_touched {N : Statement G → Prop} (hN : ∀ p, N p → p.Unaffected S g T)
    {program todo : List (Statement G)} {ws writes : List (Write G)}
    (h : Trace (engine gis match_settings settings) N db program ws todo) (hw : Wrote S g T writes)
    (hapart : (engine gis match_settings settings).disjoint ws writes = true)
    (hr : ∀ w ∈ ws, w.recording) :
    Trace (engine gis match_settings settings) N (view db writes) program ws todo := by
  rw [hw.view]
  refine h.transfer (fun p v hp => unaffected_perform hw.keeps (hN p hp) v) (fun w hmem d => ?_)
  exact touched_comm hw.keeps (clear_of_apart hw hapart hr w hmem) d

end GeoHazard.Sessions
