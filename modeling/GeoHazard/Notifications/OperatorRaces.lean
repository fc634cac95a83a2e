import GeoHazard.Notifications.OperatorSerial
import GeoHazard.Notifications.PurgeRaces

namespace GeoHazard.Sessions
open ReadCommitted DeliveryRepo DeliverNotificationsUseCase SubscriptionAdmin Transition

variable {G : Type}

def Statement.updates (S : Nat) : Statement G → Bool
  | .update subscription_id _ => decide (subscription_id = S)
  | _ => false

def Statement.fails (S : Nat) : Statement G → Bool
  | .fail_pending subscription_id => decide (subscription_id = S)
  | _ => false

def Statement.marks (T : List Nat) : Statement G → Bool
  | .mark_sent delivery_ids _ _ => delivery_ids.any (fun i => decide (i ∈ T))
  | _ => false

def Statement.purges_episodes : Statement G → Bool
  | .purge_episodes _ => true
  | _ => false

def Write.updates (S : Nat) : Write G → Bool
  | .updated subscription_id _ => decide (subscription_id = S)
  | _ => false

def Write.marks (T : List Nat) : Write G → Bool
  | .sent delivery_ids _ _ => delivery_ids.any (fun i => decide (i ∈ T))
  | _ => false

abbrev Transaction (G : Type) := Session (Write G) (Statement G)

-- a pause that has written the row and has the deliveries still to write
def HalfPaused (S : Nat) (y : Transaction G) : Prop :=
  y.writes.any (Write.updates S) = true ∧ y.todo.any (Statement.fails S) = true

-- a record transaction that has written deliveries with the ids T and has the row still to write
def HalfSent (S : Nat) (T : List Nat) (x : Transaction G) : Prop :=
  x.writes.any (Write.marks T) = true ∧ x.todo.any (Statement.updates S) = true

def Facing (s : Shared (NotificationsDb G) (Write G) (Statement G))
    (P : Transaction G → Transaction G → Prop) : Prop :=
  ∀ x ∈ s.sessions, x.1 = 0 → ∀ y ∈ s.sessions, y.1 = 1 → P x.2 y.2

namespace Recording

variable (R : Recording G) (op : Operator)

def opening : Shared (NotificationsDb G) (Write G) (Statement G) :=
  pair R.db ⟨R.program, []⟩ ⟨(op.command R.S).program R.settings, []⟩

def Uncrossed (s : Shared (NotificationsDb G) (Write G) (Statement G)) : Move (Command G) → Prop
  -- each of the two holds a row that the other is about to write
  | .next 0 => Facing s (fun x y => x.todo.head?.any (Statement.marks R.T) = true →
      ¬ HalfPaused R.S y)
  | .next 1 => Facing s (fun x y => y.todo.head?.any (Statement.updates R.S) = true →
      y.todo.any (Statement.fails R.S) = true → ¬ HalfSent R.S R.T x)
  | .next _ => True
  -- resume has read the row before the failure is committed, and writes it after
  | .commit 0 => Facing s (fun _ y => op = .resume → R.outcome.message_id = none →
      y.todo.any (Statement.updates R.S) = true → R.Clean R.row ∨ R.Streak R.row)
  | .commit 1 => Facing s (fun x y =>
      -- mark_failed has read the row before the resume is committed, and writes it after
      (op = .resume → R.outcome.message_id = none → x.todo.any (Statement.updates R.S) = true →
        y.writes.any (Write.updates R.S) = true → R.Cleared R.row) ∧
      -- the pause is committed between the two purges
      (op = .pause → x.todo.head?.any Statement.purges_episodes = true →
        ¬ (Stranded R.S R.cutoff (view s.db x.writes) ∧ Freed R.S R.cutoff (view s.db x.writes))))
  | .commit _ => True
  | .start _ _ | .abort _ => False

def InTurn (X : NotificationsDb G) : Prop :=
  (∃ d, (op.command R.S).execute R.gis R.match_settings R.settings R.db = .ok d ∧
    X = R.finish d) ∨
  (op.command R.S).execute R.gis R.match_settings R.settings (R.finish R.db) = .ok X

variable {R op} {v b X : NotificationsDb G} {writes ws : List (Write G)}
  {todo : List (Statement G)} {x y : Transaction G}

theorem facing_pair {db : NotificationsDb G} {P : Transaction G → Transaction G → Prop}
    (h : Facing (pair db x y) P) : P x y :=
  h (0, x) (by simp [pair]) rfl (1, y) (by simp [pair]) rfl

theorem program_recording (R : Recording G) : ∀ p ∈ R.program, p.recording := by
  rw [program_eq]
  intro p hp
  have hown : ∀ p ∈ R.own, p.recording := by
    intro p hp
    simp only [own, record_outcome, R.attempted, Bool.false_eq_true, if_false] at hp
    split at hp
    · simp only [List.mem_cons, List.not_mem_nil, or_false] at hp
      rcases hp with rfl | rfl
      · trivial
      · exact (recovered_quiet _).keeps
    · exact List.mem_singleton.mp hp ▸ trivial
  rcases List.mem_append.mp hp with hp | hp
  · exact (others_elsewhere (fun _ ho => List.mem_append_left R.after ho) p hp).recording
  · rcases List.mem_append.mp hp with hp | hp
    · exact hown p hp
    · exact unaffected_recording ((rest_resting p hp).unaffected id)

theorem finish_trace (R : Recording G) : ∃ ws,
    R.Traced Statement.recording ws [] ∧ view R.db ws = R.finish R.db := by
  have halone := R.finish_alone R.keyed
  have hall : Alone R.engine R.db (R.program ++ []) (R.finish R.db) :=
    (List.append_nil R.program).symm ▸ halone
  obtain ⟨ws, h⟩ := hall.reach drawless R.program_recording
  rw [List.append_nil] at h
  exact ⟨ws, h, (h.rest drawless halone).end_eq⟩

theorem rest_ne (R : Recording G) : R.rest ≠ [] := by
  simp [rest, purges]

theorem At.finished (h : R.At writes []) : (∃ f, .updated R.S f ∈ writes) ∧
    Table.find Subscription.id R.S (view R.db writes).subscriptions = some (R.effect R.row) ∧
    (R.GivesUp R.row → .failed R.S R.T ∈ writes) := by
  generalize ht : [] = t at h
  cases h with
  | before _ _ => simp [rest_ne] at ht
  | marked _ _ _ _ => simp at ht
  | read _ _ => simp [rest_ne] at ht
  | dropping _ _ _ _ _ => simp at ht
  | settled _ _ _ _ _ => simp [purges] at ht
  | halfway _ _ _ _ => simp at ht
  | through hg hu hfind => exact ⟨⟨_, hu⟩, hfind, fun he => absurd he hg⟩
  | gone _ hu hf hfind _ => exact ⟨⟨_, hu⟩, hfind, fun _ => hf⟩

structure Finished (R : Recording G) (b : NotificationsDb G) : Prop where
  keyed : Keyed b
  found : Table.find Subscription.id R.S b.subscriptions = some (R.effect R.row)
  pending : PendingIn R.S R.T b
  given_up : R.GivesUp R.row → PendingIn R.S [] b

theorem finished (R : Recording G) : R.Finished (R.finish R.db) := by
  obtain ⟨ws, h, hview⟩ := R.finish_trace
  have hw := trace_writes (fun _ => id) h
  obtain ⟨_, hfind, hgone⟩ := (at_of_trace h).finished
  rw [← hview]
  exact ⟨view_keyed hw R.keyed, hfind, view_pending_in hw (targets_pending_in R.S R.db),
    fun hg => view_failed_none hw (hgone hg)⟩

theorem in_turn_first (op : Operator) : R.InTurn op (R.finish (op.apply R.S R.db)) :=
  .inl ⟨_, op.execute_ok R.found, rfl⟩

theorem in_turn_last (op : Operator) : R.InTurn op (op.apply R.S (R.finish R.db)) :=
  .inr (op.execute_ok R.finished.found)

theorem in_turn_absorbed (hg : R.GivesUp R.row) : R.InTurn .pause (R.finish R.db) :=
  give_up_absorbs hg ▸ in_turn_first .pause

theorem effect_id : (R.effect R.row).id = R.S := (effect_keeps R.row).trans row_id

theorem in_turn_failed (h : paused R.row = R.row) :
    R.InTurn .pause (fail_pending R.S (R.finish R.db)) := by
  have hf := R.finished
  by_cases hg : R.GivesUp R.row
  · rw [fail_none (hf.given_up hg)]
    exact in_turn_absorbed hg
  · have hwrite : write R.S paused (R.finish R.db) = R.finish R.db := by
      rw [write_row hf.keyed.subscriptions hf.found, paused_effect hg h,
        write_same hf.keyed.subscriptions hf.found]
    have hlast := in_turn_last (R := R) .pause
    simp only [Operator.apply, hwrite] at hlast
    exact hlast

section Last

theorem read_last (h : op.change R.row ≠ R.row) (hop : op = .resume →
      R.outcome.message_id = none → R.Clean R.row ∨ R.Streak R.row) :
    ∃ X, R.InTurn op X ∧ Alone R.engine (R.finish R.db)
      (.update R.S (R.update op) :: op.finishing R.S) X := by
  have hf := R.finished
  have hwrite := write_row hf.keyed.subscriptions hf.found (R.update op)
  have hupdate : Alone R.engine (R.finish R.db) [.update R.S (R.update op)]
      (write R.S (R.update op) (R.finish R.db)) := serial_one rfl rfl
  have hrow := write_row hf.keyed.subscriptions hf.found op.change
  cases op with
  | pause =>
      refine ⟨_, ?_, hupdate.append (fail_pending_serial R.S _)⟩
      rw [hwrite]
      by_cases hg : R.GivesUp R.row ∧ R.row.paused_reason = some "pausada a mano"
      · have hkeep : R.update .pause (R.effect R.row) = R.effect R.row :=
          paused_after_give_up hg.1 hg.2
        rw [hkeep, write_same hf.keyed.subscriptions hf.found, fail_none (hf.given_up hg.1)]
        exact in_turn_absorbed hg.1
      · have hpause : R.update .pause (R.effect R.row) = paused (R.effect R.row) :=
          paused_after (fun hu he => hg ⟨hu, he⟩)
        have hlast := in_turn_last (R := R) .pause
        simp only [Operator.apply] at hlast
        rw [hpause]
        exact hrow ▸ hlast
  | resume =>
      refine ⟨_, ?_, hupdate⟩
      have hlast := in_turn_last (R := R) .resume
      simp only [Operator.apply] at hlast
      cases hm : R.outcome.message_id with
      | some m =>
          have hresume : R.update .resume (R.effect R.row) =
              SubscriptionAdmin.resumed (R.effect R.row) :=
            resumed_after_sent hm
          rw [hwrite, hresume]
          exact hrow ▸ hlast
      | none =>
          rcases hop rfl hm with hclean | hstreak
          · exact finish_resumed_clean hm hclean ▸ in_turn_first .resume
          · have hresume : R.update .resume (R.effect R.row) =
                SubscriptionAdmin.resumed (R.effect R.row) :=
              resumed_after_streak hm hstreak
            rw [hwrite, hresume]
            exact hrow ▸ hlast

abbrev Contest (R : Recording G) (op : Operator) : Transaction G → Transaction G → Prop :=
  Both R.engine Statement.recording R.db R.program [op.read R.S]

theorem apart_updated {f g : Subscription → Subscription}
    (h : R.engine.disjoint writes ws = true) (hf : .updated R.S f ∈ writes) :
    .updated R.S g ∉ ws := by
  intro hg
  rw [rows_disjoint_iff] at h
  exact h _ hf _ hg (.subscription R.S) (by simp [engine, Sessions.engine, Write.rows])
    (by simp [engine, Sessions.engine, Write.rows])

theorem left_commit (hb : R.Contest op ⟨[], writes⟩ y)
    (hc : op = .resume → R.outcome.message_id = none →
      y.todo.any (Statement.updates R.S) = true → R.Clean R.row ∨ R.Streak R.row) :
    ∃ X, R.InTurn op X ∧ Alone R.engine (view (view R.db writes) y.writes) y.todo X := by
  have hview : view R.db writes = R.finish R.db :=
    (hb.left.rest drawless (R.finish_alone R.keyed)).end_eq
  obtain ⟨⟨f, hf⟩, _, _⟩ := (at_of_trace hb.left).finished
  have hfin := R.finished
  have hright := operated_of_trace hb.right
  rw [hview]
  obtain ⟨todo, ws⟩ := y
  cases hright with
  | unread =>
      exact ⟨_, in_turn_last op, op.serial hfin.keyed hfin.found⟩
  | read hne =>
      exact read_last hne (fun ho hm => hc ho hm (by simp [Statement.updates]))
  | updated hne => exact absurd List.mem_cons_self (apart_updated hb.apart hf)
  | dropped hne _ => exact absurd List.mem_cons_self (apart_updated hb.apart hf)
  | same heq =>
      cases op with
      | pause => exact ⟨_, in_turn_failed heq, fail_pending_serial R.S _⟩
      | resume =>
          refine ⟨_, ?_, .done _⟩
          have hid : Operator.resume.apply R.S R.db = R.db :=
            (write_row R.keyed.subscriptions R.found SubscriptionAdmin.resumed).trans
              (by rw [show SubscriptionAdmin.resumed R.row = R.row from heq,
                write_same R.keyed.subscriptions R.found])
          have hfirst := in_turn_first (R := R) .resume
          rwa [hid] at hfirst
  | same_dropped heq hop =>
      subst hop
      refine ⟨_, in_turn_failed heq, ?_⟩
      have hid : write R.S id (R.finish R.db) = R.finish R.db := by simp [write, Table.update]
      have hfail : view (R.finish R.db) [.failed R.S R.T] = fail_pending R.S (R.finish R.db) := by
        rw [view_failed, touched_pending_in hfin.pending, hid]
      exact hfail ▸ .done _

end Last

section First

variable {g : Subscription → Subscription} {T : List Nat}

-- the command has committed
structure Committed (R : Recording G) (op : Operator) (g : Subscription → Subscription)
    (T : List Nat) (writes ws : List (Write G)) : Prop where
  wrote : Wrote R.S g T ws
  view : view R.db ws = op.apply R.S R.db
  apart : R.engine.disjoint writes ws = true

theorem Committed.rest (h : R.Committed op g T writes ws) {N : Statement G → Prop}
    (hN : ∀ p, N p → p.Unaffected R.S g T) (ht : R.Traced N writes todo) :
    Alone R.engine (Sessions.view (Sessions.view R.db ws) writes) todo
      (R.finish (op.apply R.S R.db)) := by
  have hrec : ∀ p, N p → p.recording := fun p hp => unaffected_recording (hN p hp)
  have hlater := trace_touched hN ht h.wrote h.apart (trace_writes hrec ht)
  have hk := R.apply_keyed op
  rw [← h.view] at hk
  have hend := trace_rest hrec hlater hk
  rwa [h.view] at hend ⊢

theorem Committed.turn (h : R.Committed op g T writes ws) {N : Statement G → Prop}
    (hN : ∀ p, N p → p.Unaffected R.S g T) (ht : R.Traced N writes todo) :
    ∃ X, R.InTurn op X ∧
      Alone R.engine (Sessions.view (Sessions.view R.db ws) writes) todo X :=
  ⟨_, in_turn_first op, h.rest hN ht⟩

theorem Committed.beneath (h : R.Committed op g T writes ws) (hr : ∀ w ∈ writes, w.recording) :
    Sessions.view (Sessions.view R.db ws) writes = touched R.S g T (Sessions.view R.db writes) := by
  have hcomm : ∀ w ∈ writes, ∀ d, R.engine.apply (touched R.S g T d) w =
      touched R.S g T (R.engine.apply d w) := fun w hw d =>
    touched_comm h.wrote.keeps (clear_of_apart h.wrote h.apart hr w hw) d
  rw [h.wrote.view]
  exact view_comm hcomm R.db

theorem update_row (R : Recording G) (op : Operator) : R.update op R.row = op.change R.row :=
  op.change_orm R.row

theorem lapsed_congr (hm : R.outcome.message_id = none)
    (hu : Table.Unique Subscription.id v.subscriptions) {r r' : Subscription}
    (hr' : Table.find Subscription.id R.S v.subscriptions = some r')
    (hg : gives_up R.now R.settings.pause_after r' = gives_up R.now R.settings.pause_after r)
    (hrow : orm_update r (R.effect r) r' = R.effect r') : R.lapsed r v = R.lapsed r' v := by
  rw [lapsed_row hm hu hr', lapsed, write_row hu hr', hrow, hg]

theorem read_first (hm : R.outcome.message_id = none)
    (h : R.Committed op (R.update op) T writes ws)
    (ht : R.Traced (Statement.Elsewhere R.S R.T) writes
      (.get_failed R.S (DeliverNotificationsUseCase.error_text R.outcome) R.now :: R.rest))
    (hc : op = .resume → R.Cleared R.row) :
    ∃ X, R.InTurn op X ∧ Alone R.engine (Sessions.view (Sessions.view R.db ws) writes)
      (R.failure R.row ++ R.rest) X := by
  have hrec : ∀ p : Statement G, p.Elsewhere R.S R.T → p.recording := fun _ h => h.recording
  have hfind := elsewhere_find ht
  have hu := trace_unique hrec ht
  have hkeep := @update_keeps G R op
  have hfound := touched_found (T := T) hkeep hfind
  have hunique := touched_unique (T := T) (S := R.S) hkeep hu
  rw [h.beneath (trace_writes hrec ht)]
  have hlater := trace_touched (fun _ hp => hp.unaffected (R.update op) T) ht h.wrote h.apart
    (trace_writes hrec ht)
  have hk := R.apply_keyed op
  rw [← h.view] at hk
  have hserial := read_rest hm hrec hlater hk (r := op.change R.row)
    (by rw [h.beneath (trace_writes hrec ht), hfound, update_row])
  rw [h.beneath (trace_writes hrec ht), h.view] at hserial
  rw [update_row] at hfound
  have hreal := failure_serial hm row_id (touched R.S (R.update op) T (Sessions.view R.db writes))
  cases op with
  | pause =>
      by_cases he : R.GivesUp R.row ∧ (R.effect R.row).paused_reason = R.row.paused_reason
      · -- the text of the give-up is the one that the row already had, and it is not written again
        have hrow : orm_update R.row (R.effect R.row) (Operator.pause.change R.row) =
            paused (R.effect R.row) := gave_up_after_pause he.1 he.2
        have hlapsed : R.lapsed R.row (touched R.S (R.update .pause) T (Sessions.view R.db writes)) =
            touched R.S paused [] (R.lapsed R.row (Sessions.view R.db writes)) := by
          rw [lapsed_row hm hu hfind, lapsed, write_row hunique hfound, hrow, if_pos he.1.2,
            if_pos he.1.2, fail_write_touched hkeep, touched_nil]
          exact (congrArg (fail_pending R.S) (write_const effect_id _)).symm
        have hbefore := rest_touched (Operator.change_keeps .pause)
          (read_rest hm hrec ht R.keyed hfind)
        have hlast := in_turn_last (R := R) .pause
        have hnone : PendingIn R.S [] (write R.S paused (R.finish R.db)) :=
          R.finished.given_up he.1
        have hfail : Operator.pause.apply R.S (R.finish R.db) =
            touched R.S paused [] (R.finish R.db) :=
          (fail_none hnone).trans (touched_nil R.S paused _).symm
        rw [hlapsed] at hreal
        exact ⟨_, hfail ▸ hlast, hreal.append hbefore⟩
      · have hrow := failed_after_pause hm (fun hu hr => he ⟨hu, hr⟩)
        rw [lapsed_congr (r := R.row) hm hunique hfound rfl hrow] at hreal
        exact ⟨_, in_turn_first .pause, hreal.append hserial⟩
  | resume =>
      have hclear := hc rfl
      rw [lapsed_congr (r := R.row) hm hunique hfound hclear.same
        (failed_after_resume hm hclear)] at hreal
      exact ⟨_, in_turn_first .resume, hreal.append hserial⟩

theorem purged_view (R : Recording G) (hk : Keyed v) (cutoff : Timestamptz) :
    Write.apply v (.purged ((v.deliveries.filter (outdated cutoff)).map Delivery.id) []) =
      deliveries_purged cutoff v := by
  have hone : Alone R.engine v [.purge_deliveries cutoff] (Write.apply v
      (.purged ((v.deliveries.filter (outdated cutoff)).map Delivery.id) [])) := serial_one rfl rfl
  exact hone.unique (purge_deliveries_serial hk.deliveries cutoff)

theorem purges_alone (hk : Keyed v) (h : Alone R.engine v R.purges X) :
    episodes_purged R.cutoff (deliveries_purged R.cutoff v) = X := by
  have hfirst := @purge_deliveries_serial G R.gis R.match_settings R.settings v hk.deliveries R.cutoff
  have hrest : Alone R.engine (deliveries_purged R.cutoff v) [.purge_episodes R.cutoff] X :=
    hfirst.after h
  exact (purge_episodes_serial (deliveries_purged R.cutoff v) hk.episodes R.cutoff).unique hrest

theorem halfway_first (heq : paused R.row = R.row)
    (ht : R.Traced (fun p => ∀ T, p.Unaffected R.S id T) writes R.purges)
    (h : R.Committed .pause id R.T (writes ++ [.purged (((Sessions.view R.db writes).deliveries.filter
      (outdated R.cutoff)).map Delivery.id) []]) ws)
    (hc : ¬ (Stranded R.S R.cutoff (deliveries_purged R.cutoff (Sessions.view R.db writes)) ∧
      Freed R.S R.cutoff (deliveries_purged R.cutoff (Sessions.view R.db writes)))) :
    ∃ X, R.InTurn .pause X ∧ Alone R.engine (Sessions.view (Sessions.view R.db ws) (writes ++
      [.purged (((Sessions.view R.db writes).deliveries.filter (outdated R.cutoff)).map
        Delivery.id) []])) [.purge_episodes R.cutoff] X := by
  have hrec : ∀ p : Statement G, (∀ T, p.Unaffected R.S id T) → p.recording :=
    fun _ hp => unaffected_recording (hp [])
  have hw := trace_writes hrec ht
  have hk := view_keyed hw R.keyed
  have hpending := view_pending_in hw (targets_pending_in R.S R.db)
  have hfailed : ∀ u : NotificationsDb G, PendingIn R.S R.T u →
      touched R.S id R.T u = fail_pending R.S u := fun u hu => by
    rw [touched_pending_in hu]
    simp [write, Table.update]
  have hcommitted : R.Committed .pause id R.T writes ws :=
    ⟨h.wrote, h.view, (disjoint_append.mp h.apart).1⟩
  have hpurged := R.purged_view hk R.cutoff
  have hover := h.beneath (fun w hm => (List.mem_append.mp hm).elim (hw w)
    (fun hm => List.mem_singleton.mp hm ▸ trivial))
  rw [view_concat, view_concat, hpurged] at hover
  rw [view_concat, hover, hfailed _ (fun d hd hp => hpending d (List.mem_filter.mp hd).1 hp)]
  refine ⟨episodes_purged R.cutoff
    (fail_pending R.S (deliveries_purged R.cutoff (Sessions.view R.db writes))), ?_,
    purge_episodes_serial (fail_pending R.S (deliveries_purged R.cutoff (Sessions.view R.db writes)))
      hk.episodes R.cutoff⟩
  by_cases hfree : Freed R.S R.cutoff (deliveries_purged R.cutoff (Sessions.view R.db writes))
  · have hstay := fail_then_purge (fun hs => hc ⟨hs, hfree⟩)
    have hserial := hcommitted.rest (fun _ hp => hp R.T) ht
    rw [hcommitted.beneath hw, hfailed _ hpending] at hserial
    have hk' : Keyed (fail_pending R.S (Sessions.view R.db writes)) :=
      ⟨hk.subscriptions, hk.episodes, Table.unique_update (p := is_pending_of R.S) (f := dropped)
        (fun _ _ => rfl) hk.deliveries⟩
    have hend := (hstay.trans (purges_alone hk' hserial)).symm
    exact hend ▸ in_turn_first .pause
  · have hend := (purge_then_fail hfree).trans
      (congrArg (fail_pending R.S) (purges_alone hk (trace_rest hrec ht R.keyed)))
    exact hend.symm ▸ in_turn_failed heq

theorem failure_updates (hm : R.outcome.message_id = none) :
    (R.failure R.row ++ R.rest).any (Statement.updates R.S) = true := by
  simp [failure, failed_edits hm, row_id, Statement.updates]

theorem written_first (h : R.Committed op (R.update op) T writes ws)
    (hu : .updated R.S (R.update op) ∈ ws) (ha : R.At writes todo)
    (hc : op = .resume → R.outcome.message_id = none →
      todo.any (Statement.updates R.S) = true → R.Cleared R.row) :
    ∃ X, R.InTurn op X ∧
      Alone R.engine (Sessions.view (Sessions.view R.db ws) writes) todo X := by
  cases ha with
  | before ht _ => exact h.turn (fun _ hp => hp.unaffected _ _) ht
  | marked _ ht _ _ => exact h.turn (fun _ hp => hp _ _) ht
  | read hm ht => exact read_first hm h ht (fun ho => hc ho hm (failure_updates hm))
  | dropping _ _ hf _ _ => exact absurd hu (apart_updated h.apart hf)
  | settled _ _ _ hf _ => exact absurd hu (apart_updated h.apart hf)
  | halfway _ _ hf _ =>
      exact absurd hu (apart_updated h.apart (List.mem_append_left _ hf))
  | through _ hf _ => exact absurd hu (apart_updated h.apart hf)
  | gone _ hf _ _ _ => exact absurd hu (apart_updated h.apart hf)

theorem apart_failed {R : Recording G} (h : R.engine.disjoint writes ws = true)
    (hf : .failed R.S R.T ∈ writes) (hg : .failed R.S R.T ∈ ws) : R.T = [] := by
  rw [rows_disjoint_iff] at h
  rw [List.eq_nil_iff_forall_not_mem]
  intro i hi
  have hrow : Row.delivery i ∈ R.engine.rows (.failed R.S R.T) := List.mem_map_of_mem hi
  exact h _ hf _ hg _ hrow hrow

theorem failed_first (heq : paused R.row = R.row) (h : R.Committed .pause id R.T writes ws)
    (hf : .failed R.S R.T ∈ ws) (hl : R.Traced Statement.recording writes todo)
    (hc : todo.head?.any Statement.purges_episodes = true →
      ¬ (Stranded R.S R.cutoff (Sessions.view R.db writes) ∧
        Freed R.S R.cutoff (Sessions.view R.db writes))) :
    ∃ X, R.InTurn .pause X ∧
      Alone R.engine (Sessions.view (Sessions.view R.db ws) writes) todo X := by
  have hrest := hl.rest drawless (R.finish_alone R.keyed)
  have hw := trace_writes (fun _ => id) hl
  cases at_of_trace hl with
  | before ht _ => exact h.turn (fun _ hp => hp.unaffected _ _) ht
  | marked _ ht _ _ => exact h.turn (fun _ hp => hp _ _) ht
  | read hm ht =>
      have hread := (ht.mono (M := fun p => ∀ T, p.Unaffected R.S id T)
        (fun p hp T => hp.unaffected id T)).next (fun _ _ => rfl)
        (perform_failed hm (elsewhere_find ht))
      rw [List.append_nil] at hread
      exact h.turn (fun _ hp => hp R.T) hread
  | dropping _ ht _ _ _ => exact h.turn (fun _ hp => hp R.T) ht
  | settled _ ht _ _ _ => exact h.turn (fun _ hp => hp R.T) ht
  | @halfway w _ _ ht _ _ =>
      have hrec : ∀ p : Statement G, (∀ T, p.Unaffected R.S id T) → p.recording :=
        fun _ hp => unaffected_recording (hp [])
      have hk := view_keyed (trace_writes hrec ht) R.keyed
      have hfree := hc rfl
      rw [view_concat, R.purged_view hk R.cutoff] at hfree
      exact halfway_first heq ht h hfree
  | through _ _ _ =>
      refine ⟨_, in_turn_failed heq, ?_⟩
      have hend : Sessions.view R.db writes = R.finish R.db := hrest.end_eq
      have hid : write R.S id (R.finish R.db) = R.finish R.db := by simp [write, Table.update]
      rw [h.beneath hw, hend, touched_pending_in R.finished.pending, hid]
      exact .done _
  | gone _ _ hg _ _ =>
      have hnone := apart_failed h.apart hg hf
      have hsame : Sessions.view R.db ws = R.db := by
        rw [h.wrote.view, hnone, touched_self]
      rw [hsame]
      have hfirst := in_turn_first (R := R) .pause
      rw [← h.view, hsame] at hfirst
      exact ⟨_, hfirst, hrest⟩

theorem right_commit (hb : R.Contest op x ⟨[], ws⟩)
    (hresume : op = .resume → R.outcome.message_id = none →
      x.todo.any (Statement.updates R.S) = true → ws.any (Write.updates R.S) = true →
        R.Cleared R.row)
    (hpause : op = .pause → x.todo.head?.any Statement.purges_episodes = true →
      ¬ (Stranded R.S R.cutoff (Sessions.view R.db x.writes) ∧
        Freed R.S R.cutoff (Sessions.view R.db x.writes))) :
    ∃ X, R.InTurn op X ∧
      Alone R.engine (Sessions.view (Sessions.view R.db ws) x.writes) x.todo X := by
  have hview : Sessions.view R.db ws = op.apply R.S R.db :=
    (hb.right.rest drawless (op.serial R.keyed R.found)).end_eq
  have ha := at_of_trace hb.left
  have hright := operated_of_trace hb.right
  generalize ht : [] = t at hright
  cases hright with
  | unread => simp at ht
  | read _ => simp at ht
  | updated hne =>
      cases op with
      | pause => simp at ht
      | resume =>
          have h : R.Committed .resume (R.update .resume) [] x.writes
              [.updated R.S (R.update .resume)] :=
            ⟨wrote_updated update_keeps, hview, hb.apart⟩
          exact written_first h List.mem_cons_self ha
            (fun ho hm hany => hresume ho hm hany (by simp [Write.updates]))
  | dropped hne hop =>
      subst hop
      have h : R.Committed .pause (R.update .pause) R.T x.writes
          [.updated R.S (R.update .pause), .failed R.S R.T] :=
        ⟨wrote_dropped update_keeps R.T, hview, hb.apart⟩
      exact written_first h List.mem_cons_self ha (fun ho => by simp at ho)
  | same heq =>
      refine ⟨_, hview ▸ in_turn_first op, ?_⟩
      exact hb.left.rest drawless (R.finish_alone R.keyed)
  | same_dropped heq hop =>
      subst hop
      have h : R.Committed .pause id R.T x.writes [.failed R.S R.T] :=
        ⟨wrote_failed R.S R.T, hview, hb.apart⟩
      exact failed_first heq h List.mem_cons_self hb.left (hpause rfl)

end First

end Recording

end GeoHazard.Sessions
