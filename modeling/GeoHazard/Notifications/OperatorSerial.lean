import GeoHazard.Notifications.OperatorTrace

namespace GeoHazard.Sessions
open ReadCommitted DeliveryRepo DeliverNotificationsUseCase SubscriptionAdmin

variable {G : Type}

section Rows

variable {v : NotificationsDb G} {S : Nat}

theorem apply_keyed {w : Write G} (hw : w.recording) (hk : Keyed v) : Keyed (Write.apply v w) := by
  have hkeys : ∀ (p : Delivery → Bool) (f : Delivery → Delivery), (∀ d, (f d).id = d.id) →
      Table.Unique Delivery.id (Table.update p f v.deliveries) := fun p f hf =>
    Table.unique_update (fun d _ => hf d) hk.deliveries
  cases w with
  | updated i f =>
      exact ⟨Table.unique_update (fun s _ => hw s) hk.subscriptions, hk.episodes, hk.deliveries⟩
  | failed i ids => exact ⟨hk.subscriptions, hk.episodes, hkeys _ _ (fun _ => rfl)⟩
  | sent ids m n => exact ⟨hk.subscriptions, hk.episodes, hkeys _ _ (fun _ => rfl)⟩
  | purged ids es =>
      exact ⟨hk.subscriptions, hk.episodes.sublist List.filter_sublist,
        hk.deliveries.sublist List.filter_sublist⟩
  | locked _ | refreshed _ _ _ _ | closed _ _ | opened _ | inserted _ | area _ | created _
  | removed _ | area_deleted _ | attempted _ => exact hw.elim

theorem view_keyed {ws : List (Write G)} (hw : ∀ w ∈ ws, w.recording) (hk : Keyed v) :
    Keyed (view v ws) := by
  induction ws generalizing v with
  | nil => exact hk
  | cons w ws ih => exact ih (fun w' h => hw w' (by simp [h])) (apply_keyed (hw w (by simp)) hk)

theorem Operator.apply_keyed (op : Operator) (hk : Keyed v) : Keyed (op.apply S v) := by
  have hs := Table.unique_update (p := fun s => decide (s.id = S))
    (fun s _ => op.change_keeps s) hk.subscriptions
  cases op with
  | pause =>
      have hd := Table.unique_update (p := is_pending_of S) (f := dropped) (fun _ _ => rfl)
        hk.deliveries
      exact ⟨hs, hk.episodes, hd⟩
  | resume => exact ⟨hs, hk.episodes, hk.deliveries⟩

theorem write_row (hu : Table.Unique Subscription.id v.subscriptions) {r : Subscription}
    (hr : Table.find Subscription.id S v.subscriptions = some r) (f : Subscription → Subscription) :
    write S f v = write S (fun _ => f r) v := by
  obtain ⟨hmem, rfl⟩ := Table.find_some_mem hr
  refine congrArg (fun subscriptions => { v with subscriptions := subscriptions }) ?_
  refine List.map_congr_left (fun s hs => ?_)
  split
  · next he => rw [Table.unique_eq hu hs hmem (of_decide_eq_true he)]
  · rfl

theorem write_write {g : Subscription → Subscription} (hg : Keeps g) (y : Subscription)
    (v : NotificationsDb G) : write S (fun _ => y) (write S g v) = write S (fun _ => y) v := by
  refine congrArg (fun subscriptions => { v with subscriptions := subscriptions }) ?_
  simp only [write, Table.update, List.map_map]
  refine List.map_congr_left (fun s _ => ?_)
  by_cases hs : s.id = S
  · simp [hs, hg s]
  · simp [hs]

theorem write_same (hu : Table.Unique Subscription.id v.subscriptions) {r : Subscription}
    (hr : Table.find Subscription.id S v.subscriptions = some r) : write S (fun _ => r) v = v := by
  have hid : write S id v = v := by simp [write, Table.update]
  exact (write_row hu hr id).symm.trans hid

theorem touched_nil (S : Nat) (g : Subscription → Subscription) (v : NotificationsDb G) :
    touched S g [] v = write S g v := (Recording.view_updated S g v).symm

theorem fail_touched (g : Subscription → Subscription) (T : List Nat) (v : NotificationsDb G) :
    fail_pending S (touched S g T v) = fail_pending S (write S g v) := by
  refine congrArg (fun deliveries => { write S g v with deliveries := deliveries }) ?_
  simp only [touched, Write.apply, write, Table.update, List.map_map]
  refine List.map_congr_left (fun d _ => ?_)
  have hdrop : is_pending_of S (dropped d) = false := by simp [is_pending_of, dropped]
  simp only [Function.comp_apply]
  by_cases hp : is_pending_of S d = true
  · by_cases hT : d.id ∈ T
    · simp only [hT, hp, hdrop, decide_true, Bool.and_self, if_true, Bool.false_eq_true, if_false]
    · simp only [hT, hp, decide_false, Bool.false_and, Bool.false_eq_true, if_false, if_true]
  · simp only [hp, Bool.and_false, Bool.false_eq_true, if_false]

-- the pending deliveries of S are among those with the ids T
def PendingIn (S : Nat) (T : List Nat) (v : NotificationsDb G) : Prop :=
  ∀ d ∈ v.deliveries, is_pending_of S d = true → d.id ∈ T

theorem touched_pending_in {T : List Nat} (h : PendingIn S T v) (g : Subscription → Subscription) :
    touched S g T v = fail_pending S (write S g v) := by
  refine congrArg (fun deliveries => { write S g v with deliveries := deliveries }) ?_
  refine List.map_congr_left (fun d hd => ?_)
  by_cases hp : is_pending_of S d = true
  · simp only [h d hd hp, hp, decide_true, Bool.and_self, if_true]
  · simp only [hp, Bool.and_false, Bool.false_eq_true, if_false]

theorem fail_none (h : PendingIn S [] v) : fail_pending S v = v := by
  have hds : Table.update (is_pending_of S) dropped v.deliveries = v.deliveries := by
    refine Table.update_eq_self (fun d hd => ?_)
    rw [Bool.eq_false_iff]
    exact fun hp => absurd (h d hd hp) (by simp)
  exact congrArg (fun deliveries => { v with deliveries := deliveries }) hds

theorem recording_inserts {w : Write G} (h : w.recording) : w.inserts = [] := by
  cases w <;> first | rfl | exact h.elim

theorem view_pending_in {ws : List (Write G)} {T : List Nat} (hw : ∀ w ∈ ws, w.recording)
    (h : PendingIn S T v) : PendingIn S T (view v ws) := by
  intro d hd hp
  rcases mem_view hd with ⟨d₀, hd₀, hk⟩ | ⟨d₀, hd₀, _⟩
  · have hdesc := kept_descends hk
    exact hdesc.id ▸ h d₀ hd₀ (hdesc.pending_of hp)
  · have hnone := recording_inserts (hw _ hd₀)
    simp [Write.inserts] at hnone

theorem view_failed_none {ws : List (Write G)} (hw : ∀ w ∈ ws, w.recording)
    (h : .failed S (targets S v) ∈ ws) : PendingIn S [] (view v ws) := by
  intro d hd hp
  rcases mem_view hd with ⟨d₀, hd₀, hk⟩ | ⟨d₀, hd₀, _⟩
  · have hnot := kept_failed h (fun hp₀ =>
      List.mem_map_of_mem (List.mem_filter.mpr ⟨hd₀, hp₀⟩)) hk
    rw [hnot] at hp
    simp at hp
  · have hnone := recording_inserts (hw _ hd₀)
    simp [Write.inserts] at hnone

theorem targets_pending_in (S : Nat) (v : NotificationsDb G) : PendingIn S (targets S v) v :=
  fun _ hd hp => List.mem_map_of_mem (List.mem_filter.mpr ⟨hd, hp⟩)

end Rows

section Columns

theorem changed_set {α : Type} [DecidableEq α] {old new cur : α} (h : new ≠ old) :
    changed old new cur = new := if_neg h

theorem changed_not {α : Type} [DecidableEq α] (old cur : α) :
    changed old old cur = cur := if_pos rfl

theorem changed_to {α : Type} [DecidableEq α] (old new : α) : changed old new new = new := by
  unfold changed
  split <;> rfl

-- an UPDATE that carries the columns that r' changes, column by column
theorem orm_columns {r r' s t : Subscription}
    (h : t = { s with
      status := t.status, paused_reason := t.paused_reason
      consecutive_failures := t.consecutive_failures, failing_since := t.failing_since
      retry_at := t.retry_at, last_error := t.last_error })
    (status : changed r.status r'.status s.status = t.status)
    (paused_reason : changed r.paused_reason r'.paused_reason s.paused_reason = t.paused_reason)
    (consecutive_failures : changed r.consecutive_failures r'.consecutive_failures
      s.consecutive_failures = t.consecutive_failures)
    (failing_since : changed r.failing_since r'.failing_since s.failing_since = t.failing_since)
    (retry_at : changed r.retry_at r'.retry_at s.retry_at = t.retry_at)
    (last_error : changed r.last_error r'.last_error s.last_error = t.last_error) :
    orm_update r r' s = t := by
  rw [h]
  simp only [orm_update, status, paused_reason, consecutive_failures, failing_since, retry_at,
    last_error]

end Columns

namespace Recording

variable {R : Recording G} {op : Operator} {v b X : NotificationsDb G} {S : Nat} {T : List Nat}
  {g : Subscription → Subscription} {writes ws : List (Write G)} {todo : List (Statement G)}

theorem unaffected_recording {p : Statement G} (h : p.Unaffected S g T) : p.recording := by
  cases p <;> first | exact h | trivial

theorem finish_alone (R : Recording G) (hk : Keyed b) : Alone R.engine b R.program (R.finish b) :=
  finish_serial hk R.now R.outcomes

theorem drawless : Drawless R.engine (Statement.recording (G := G)) := recording_drawless

theorem trace_rest {N : Statement G → Prop} (hN : ∀ p, N p → p.recording)
    (h : Trace R.engine N b R.program ws todo) (hk : Keyed b) :
    Alone R.engine (view b ws) todo (R.finish b) :=
  (h.mono hN).rest drawless (R.finish_alone hk)

theorem apply_keyed (op : Operator) : Keyed (op.apply R.S R.db) := op.apply_keyed R.keyed

-- what mark_failed makes of a database on which it has read r
def lapsed (R : Recording G) (r : Subscription) (v : NotificationsDb G) : NotificationsDb G :=
  if gives_up R.now R.settings.pause_after r then
    fail_pending R.S (write R.S (orm_update r (R.effect r)) v)
  else write R.S (orm_update r (R.effect r)) v

theorem failure_serial (hm : R.outcome.message_id = none) {r : Subscription} (hr : r.id = R.S)
    (v : NotificationsDb G) : Alone R.engine v (R.failure r) (R.lapsed r v) := by
  have hedit : Alone R.engine v [.update R.S (orm_update r (R.effect r))]
      (write R.S (orm_update r (R.effect r)) v) := serial_one rfl rfl
  rw [failure, failed_edits hm, hr, lapsed]
  split
  · exact hedit.append (fail_pending_serial R.S _)
  · exact hedit.append (.done _)

theorem read_rest (hm : R.outcome.message_id = none) {N : Statement G → Prop}
    (hN : ∀ p, N p → p.recording)
    (h : Trace R.engine N b R.program ws
      (.get_failed R.S (DeliverNotificationsUseCase.error_text R.outcome) R.now :: R.rest))
    (hk : Keyed b) {r : Subscription}
    (hr : Table.find Subscription.id R.S (view b ws).subscriptions = some r) :
    Alone R.engine (R.lapsed r (view b ws)) R.rest (R.finish b) := by
  have hrest := (trace_rest hN h hk).step (perform_failed hm hr)
  exact (failure_serial hm (Table.find_some_mem hr).2 _).after hrest

theorem lapsed_row (hm : R.outcome.message_id = none)
    (hu : Table.Unique Subscription.id v.subscriptions) {r : Subscription}
    (hr : Table.find Subscription.id R.S v.subscriptions = some r) :
    R.lapsed r v = if gives_up R.now R.settings.pause_after r then
      fail_pending R.S (write R.S (fun _ => R.effect r) v)
    else write R.S (fun _ => R.effect r) v := by
  rw [lapsed, write_row hu hr, failed_orm hm]

-- the rest of a record transaction, after all it does with S
def Resting (R : Recording G) (p : Statement G) : Prop := p.Elsewhere R.S R.T ∨ p ∈ R.purges

theorem rest_resting : ∀ p ∈ R.rest, R.Resting p := by
  intro p hp
  exact (List.mem_append.mp hp).imp_left (later_elsewhere p)

theorem Resting.unaffected {p : Statement G} (h : R.Resting p) (g : Subscription → Subscription) :
    p.Unaffected R.S g [] := by
  rcases h with h | h
  · exact h.unaffected g []
  · simp only [purges, List.mem_cons, List.not_mem_nil, or_false] at h
    rcases h with rfl | rfl <;> rfl

theorem elsewhere_clear {w : Write G} (h : w.Elsewhere S T) (g : Subscription → Subscription)
    {T' : List Nat} (hT : ∀ i ∈ T', i ∈ T) : w.Clear S g T' := by
  cases w with
  | updated _ _ => exact ⟨h.2, fun he => absurd he h.1⟩
  | failed _ _ => trivial
  | sent ids _ _ => exact fun i hi hT' => h i hi (hT i hT')
  | purged _ _ | locked _ | refreshed _ _ _ _ | closed _ _ | opened _ | inserted _ | area _
  | created _ | removed _ | area_deleted _ | attempted _ => exact h.elim

theorem resting_performed {p : Statement G} {ps : List (Statement G)} (hp : R.Resting p)
    (h : R.engine.perform p v = .ok (ws, ps)) :
    (∀ w ∈ ws, ∀ g, w.Clear R.S g []) ∧ ∀ q ∈ ps, R.Resting q := by
  rcases hp with hp | hp
  · obtain ⟨hws, hps⟩ := elsewhere_performed hp h
    exact ⟨fun w hw g => elsewhere_clear (hws w hw) g (by simp), fun q hq => .inl (hps q hq)⟩
  · simp only [purges, List.mem_cons, List.not_mem_nil, or_false] at hp
    rcases hp with rfl | rfl <;> cases h <;> simp [Write.Clear]

theorem resting_drawless : Drawless R.engine R.Resting where
  drawn _ _ _ _ hp h := drawless.drawn _ _ _ _ (unaffected_recording (hp.unaffected id)) h
  todo _ _ _ _ hp h := (resting_performed hp h).2

theorem resting_blind (hg : Keeps g) : Blind R.engine (touched R.S g []) R.Resting where
  same _ v hp := unaffected_perform hg (hp.unaffected g) v
  comm _ _ _ _ hp h w hw d := touched_comm hg ((resting_performed hp h).1 w hw g) d

theorem rest_touched (hg : Keeps g) (h : Alone R.engine v R.rest X) :
    Alone R.engine (touched R.S g [] v) R.rest (touched R.S g [] X) :=
  h.transfer resting_drawless (resting_blind hg) rest_resting

section Effect

variable {r : Subscription}

theorem effect_gives_up (hm : R.outcome.message_id = none)
    (hg : gives_up R.now R.settings.pause_after r = true) :
    R.effect r = given_up R.gis (DeliverNotificationsUseCase.error_text R.outcome) R.now r := by
  rw [effect_failed hm, if_pos hg]

theorem effect_fails (hm : R.outcome.message_id = none)
    (hg : ¬ gives_up R.now R.settings.pause_after r = true) :
    R.effect r = failing (DeliverNotificationsUseCase.error_text R.outcome) R.now r := by
  rw [effect_failed hm, if_neg hg]

theorem failed_after_pause (hm : R.outcome.message_id = none)
    (h : R.GivesUp r → (R.effect r).paused_reason ≠ r.paused_reason) :
    orm_update r (R.effect r) (paused r) = R.effect (paused r) := by
  by_cases hg : gives_up R.now R.settings.pause_after r = true
  · have hne := h ⟨hm, hg⟩
    have hg' : gives_up R.now R.settings.pause_after (paused r) = true := hg
    rw [effect_gives_up hm hg']
    rw [effect_gives_up hm hg] at hne ⊢
    exact orm_columns rfl (changed_to _ _) (changed_set hne) (changed_self _ _) (changed_self _ _)
      (changed_not _ _) (changed_self _ _)
  · have hg' : ¬ gives_up R.now R.settings.pause_after (paused r) = true := hg
    rw [effect_fails hm hg', effect_fails hm hg]
    exact orm_columns rfl (changed_not _ _) (changed_not _ _) (changed_self _ _) (changed_self _ _)
      (changed_not _ _) (changed_self _ _)

theorem gave_up_after_pause (hg : R.GivesUp r)
    (h : (R.effect r).paused_reason = r.paused_reason) :
    orm_update r (R.effect r) (paused r) = paused (R.effect r) := by
  rw [effect_gives_up hg.1 hg.2] at h ⊢
  refine orm_columns rfl (changed_to _ _) ?_ (changed_self _ _) (changed_self _ _)
    (changed_not _ _) (changed_self _ _)
  rw [h]
  exact changed_not _ _

-- the row that mark_failed has read, cleared by a resume, gives the failure of the cleared row
structure Cleared (R : Recording G) (r : Subscription) : Prop where
  consecutive_failures : r.consecutive_failures = 0
  failing_since : r.failing_since = none
  last_error : (R.effect r).last_error ≠ r.last_error
  lapse : R.GivesUp r → r.status = .active ∧ (R.effect r).paused_reason ≠ r.paused_reason

theorem Cleared.same (h : R.Cleared r) :
    gives_up R.now R.settings.pause_after (SubscriptionAdmin.resumed r) =
      gives_up R.now R.settings.pause_after r := by
  unfold gives_up
  rw [h.failing_since]
  rfl

theorem failed_after_resume (hm : R.outcome.message_id = none) (h : R.Cleared r) :
    orm_update r (R.effect r) (SubscriptionAdmin.resumed r) =
      R.effect (SubscriptionAdmin.resumed r) := by
  have hc : ∀ {c : Nat}, c ≠ 0 → c ≠ r.consecutive_failures := fun hc => h.consecutive_failures ▸ hc
  have hf : ∀ {x : Timestamptz}, some x ≠ r.failing_since := by simp [h.failing_since]
  have hl := h.last_error
  by_cases hg : gives_up R.now R.settings.pause_after r = true
  · obtain ⟨hst, hne⟩ := h.lapse ⟨hm, hg⟩
    have hg' := h.same.trans hg
    rw [effect_gives_up hm hg']
    rw [effect_gives_up hm hg] at hne hl ⊢
    refine orm_columns rfl (changed_set ?_) ((changed_set hne).trans ?_)
      ((changed_set (hc ?_)).trans ?_) ((changed_set hf).trans ?_) (changed_not _ _) (changed_set hl)
    · rw [hst]
      simp [given_up]
    · simp [given_up, SubscriptionAdmin.resumed, h.failing_since]
    · simp [given_up, failing]
    · simp [given_up, failing, SubscriptionAdmin.resumed, h.consecutive_failures]
    · simp [given_up, failing, SubscriptionAdmin.resumed, h.failing_since]
  · have hg' : ¬ gives_up R.now R.settings.pause_after (SubscriptionAdmin.resumed r) = true :=
      h.same ▸ hg
    rw [effect_fails hm hg']
    rw [effect_fails hm hg] at hl ⊢
    refine orm_columns rfl (changed_not _ _) (changed_not _ _) ((changed_set (hc ?_)).trans ?_)
      ((changed_set hf).trans ?_) (changed_not _ _) (changed_set hl)
    · simp [failing]
    · simp [failing, SubscriptionAdmin.resumed, h.consecutive_failures]
    · simp [failing, SubscriptionAdmin.resumed, h.failing_since]

theorem paused_after (h : R.GivesUp r → r.paused_reason ≠ some "pausada a mano") :
    orm_update r (paused r) (R.effect r) = paused (R.effect r) := by
  cases hm : R.outcome.message_id with
  | some m =>
      rw [effect_sent hm]
      exact orm_columns rfl (changed_self _ _) (changed_self _ _) (changed_not _ _) (changed_not _ _)
        (changed_not _ _) (changed_not _ _)
  | none =>
      by_cases hg : gives_up R.now R.settings.pause_after r = true
      · rw [effect_gives_up hm hg]
        exact orm_columns rfl (changed_to _ _) (changed_set (h ⟨hm, hg⟩).symm) (changed_not _ _)
          (changed_not _ _) (changed_not _ _) (changed_not _ _)
      · rw [effect_fails hm hg]
        exact orm_columns rfl (changed_self _ _) (changed_self _ _) (changed_not _ _)
          (changed_not _ _) (changed_not _ _) (changed_not _ _)

theorem paused_after_give_up (hg : R.GivesUp r) (h : r.paused_reason = some "pausada a mano") :
    orm_update r (paused r) (R.effect r) = R.effect r := by
  rw [effect_gives_up hg.1 hg.2]
  refine orm_columns rfl (changed_to _ _) ?_ (changed_not _ _) (changed_not _ _) (changed_not _ _)
    (changed_not _ _)
  simp only [paused, h]
  exact changed_not _ _

theorem resumed_after_sent {m : Nat} (hm : R.outcome.message_id = some m) :
    orm_update r (SubscriptionAdmin.resumed r) (R.effect r) =
      SubscriptionAdmin.resumed (R.effect r) := by
  rw [effect_sent hm]
  exact orm_columns rfl (changed_self _ _) (changed_self _ _) (changed_to _ _) (changed_to _ _)
    (changed_to _ _) (changed_to _ _)

-- the columns that resume has found to clear are the ones that mark_failed writes
structure Streak (R : Recording G) (r : Subscription) : Prop where
  consecutive_failures : r.consecutive_failures ≠ 0
  failing_since : r.failing_since ≠ none
  last_error : r.last_error ≠ none
  lapse : R.GivesUp r → r.status = .paused ∧ r.paused_reason ≠ none

-- there is nothing for resume to clear of what mark_failed writes
structure Clean (R : Recording G) (r : Subscription) : Prop where
  consecutive_failures : r.consecutive_failures = 0
  failing_since : r.failing_since = none
  last_error : r.last_error = none
  lapse : R.GivesUp r → r.status = .active ∧ r.paused_reason = none

theorem resumed_after_streak (hm : R.outcome.message_id = none) (h : R.Streak r) :
    orm_update r (SubscriptionAdmin.resumed r) (R.effect r) =
      SubscriptionAdmin.resumed (R.effect r) := by
  have hc : changed r.consecutive_failures 0 (R.effect r).consecutive_failures = 0 :=
    changed_set h.consecutive_failures.symm
  have hf : changed r.failing_since none (R.effect r).failing_since = none :=
    changed_set h.failing_since.symm
  have hl : changed r.last_error none (R.effect r).last_error = none :=
    changed_set h.last_error.symm
  by_cases hg : gives_up R.now R.settings.pause_after r = true
  · obtain ⟨hst, hre⟩ := h.lapse ⟨hm, hg⟩
    rw [effect_gives_up hm hg] at hc hf hl ⊢
    refine orm_columns rfl (changed_set ?_) (changed_set hre.symm) hc hf (changed_self _ _) hl
    rw [hst]
    simp [SubscriptionAdmin.resumed]
  · rw [effect_fails hm hg] at hc hf hl ⊢
    exact orm_columns rfl (changed_self _ _) (changed_self _ _) hc hf (changed_self _ _) hl

theorem Clean.same (h : R.Clean r) :
    gives_up R.now R.settings.pause_after (SubscriptionAdmin.resumed r) =
      gives_up R.now R.settings.pause_after r := by
  unfold gives_up
  rw [h.failing_since]
  rfl

theorem resumed_after_clean (hm : R.outcome.message_id = none) (h : R.Clean r) :
    orm_update r (SubscriptionAdmin.resumed r) (R.effect r) =
      R.effect (SubscriptionAdmin.resumed r) := by
  by_cases hg : gives_up R.now R.settings.pause_after r = true
  · obtain ⟨hst, hre⟩ := h.lapse ⟨hm, hg⟩
    have hg' := h.same.trans hg
    rw [effect_gives_up hm hg', effect_gives_up hm hg]
    refine orm_columns rfl ?_ ?_ ?_ ?_ (changed_self _ _) ?_
    · rw [hst]
      exact changed_not _ _
    · rw [hre]
      exact (changed_not _ _).trans (by simp [given_up, h.failing_since, SubscriptionAdmin.resumed])
    · rw [h.consecutive_failures]
      exact (changed_not _ _).trans
        (by simp [given_up, failing, h.consecutive_failures, SubscriptionAdmin.resumed])
    · rw [h.failing_since]
      exact (changed_not _ _).trans
        (by simp [given_up, failing, h.failing_since, SubscriptionAdmin.resumed])
    · rw [h.last_error]
      exact changed_not _ _
  · have hg' : ¬ gives_up R.now R.settings.pause_after (SubscriptionAdmin.resumed r) = true :=
      h.same ▸ hg
    rw [effect_fails hm hg', effect_fails hm hg]
    refine orm_columns rfl (changed_self _ _) (changed_self _ _) ?_ ?_ (changed_self _ _) ?_
    · rw [h.consecutive_failures]
      exact (changed_not _ _).trans
        (by simp [failing, h.consecutive_failures, SubscriptionAdmin.resumed])
    · rw [h.failing_since]
      exact (changed_not _ _).trans (by simp [failing, h.failing_since, SubscriptionAdmin.resumed])
    · rw [h.last_error]
      exact changed_not _ _

theorem paused_effect (hg : ¬ R.GivesUp r) (h : paused r = r) : paused (R.effect r) = R.effect r := by
  have hst : r.status = .paused := h ▸ rfl
  have hre : r.paused_reason = some "pausada a mano" := h ▸ rfl
  have hpaused : ∀ s : Subscription, s.status = r.status → s.paused_reason = r.paused_reason →
      paused s = s := fun s h₁ h₂ => by rw [paused, ← hst, ← hre, ← h₁, ← h₂]
  cases hm : R.outcome.message_id with
  | some m =>
      rw [effect_sent hm]
      exact hpaused _ rfl rfl
  | none =>
      rw [effect_fails hm (fun hg' => hg ⟨hm, hg'⟩)]
      exact hpaused _ rfl rfl

end Effect

theorem write_const {y : Subscription} (hy : y.id = S) (v : NotificationsDb G) :
    write S g (write S (fun _ => y) v) = write S (fun _ => g y) v := by
  refine congrArg (fun subscriptions => { v with subscriptions := subscriptions }) ?_
  simp only [write, Table.update, List.map_map]
  refine List.map_congr_left (fun s _ => ?_)
  by_cases hs : s.id = S
  · simp [hs, hy]
  · simp [hs]

theorem fail_write_touched (hg : Keeps g) (y : Subscription) (T : List Nat)
    (v : NotificationsDb G) :
    fail_pending S (write S (fun _ => y) (touched S g T v)) =
      fail_pending S (write S (fun _ => y) v) :=
  congrArg₂ (fun subscriptions deliveries =>
      { v with subscriptions := subscriptions, deliveries := deliveries })
    (congrArg NotificationsDb.subscriptions (write_write hg y v))
    (congrArg NotificationsDb.deliveries (fail_touched g T v))

theorem touched_found (hg : Keeps g) {r : Subscription}
    (h : Table.find Subscription.id S v.subscriptions = some r) :
    Table.find Subscription.id S (touched S g T v).subscriptions = some (g r) := by
  have hfind := @find_written S S g hg v.subscriptions
  rw [h, Option.map_some, if_pos rfl] at hfind
  exact hfind

theorem touched_unique (hg : Keeps g) (h : Table.Unique Subscription.id v.subscriptions) :
    Table.Unique Subscription.id (touched S g T v).subscriptions :=
  Table.unique_update (fun s _ => hg s) h

theorem elsewhere_drawless : Drawless R.engine (Statement.Elsewhere (G := G) R.S R.T) where
  drawn _ _ _ _ hp h := drawless.drawn _ _ _ _ hp.recording h
  todo _ _ _ _ hp h := (elsewhere_performed hp h).2

theorem trace_unique {N : Statement G → Prop} (hN : ∀ p, N p → p.recording)
    {program : List (Statement G)} (h : Trace R.engine N R.db program ws todo) :
    Table.Unique Subscription.id (view R.db ws).subscriptions :=
  (view_keyed (trace_writes hN h) R.keyed).subscriptions

theorem finish_applied (hm : R.outcome.message_id = none) (hT : ∀ i ∈ T, i ∈ R.T)
    (hop : op.apply R.S R.db = touched R.S op.change T R.db) (hg : Keeps g)
    (heq : ∀ v : NotificationsDb G, Table.Unique Subscription.id v.subscriptions →
      Table.find Subscription.id R.S v.subscriptions = some R.row →
      R.lapsed (op.change R.row) (touched R.S op.change T v) = write R.S g (R.lapsed R.row v)) :
    R.finish (op.apply R.S R.db) = write R.S g (R.finish R.db) := by
  have hown : R.own = [.get_failed R.S (DeliverNotificationsUseCase.error_text R.outcome) R.now] := by
    simp only [own, record_outcome, R.attempted, hm, Bool.false_eq_true, if_false]
    rfl
  have halone := R.finish_alone R.keyed
  rw [program_eq] at halone
  obtain ⟨ws, htrace⟩ := halone.reach elsewhere_drawless
    (others_elsewhere (fun _ ho => List.mem_append_left R.after ho))
  rw [← program_eq, hown] at htrace
  have hrec : ∀ p : Statement G, p.Elsewhere R.S R.T → p.recording := fun _ h => h.recording
  have hu := trace_unique hrec htrace
  have hfind := elsewhere_find htrace
  have hclear : ∀ w ∈ ws, ∀ d, R.engine.apply (touched R.S op.change T d) w =
      touched R.S op.change T (R.engine.apply d w) := fun w hw d =>
    touched_comm op.change_keeps (elsewhere_clear (trace_elsewhere htrace w hw) op.change hT) d
  have hlater := htrace.transfer
    (fun p v hp => unaffected_perform op.change_keeps (hp.unaffected op.change T) v) hclear
  have hview : view (touched R.S op.change T R.db) ws = touched R.S op.change T (view R.db ws) :=
    view_comm hclear R.db
  rw [← hop] at hlater hview
  have hbefore := read_rest hm hrec htrace R.keyed hfind
  have hafter := read_rest hm hrec hlater (apply_keyed op)
    (hview ▸ touched_found op.change_keeps hfind)
  rw [hview, heq _ hu hfind, ← touched_nil] at hafter
  exact (hafter.unique (rest_touched hg hbefore)).trans (touched_nil R.S g _)

theorem pause_touched (R : Recording G) :
    Operator.pause.apply R.S R.db = touched R.S paused R.T R.db :=
  (touched_pending_in (targets_pending_in R.S R.db) paused).symm

theorem resume_touched (R : Recording G) :
    Operator.resume.apply R.S R.db = touched R.S SubscriptionAdmin.resumed [] R.db :=
  (touched_nil R.S SubscriptionAdmin.resumed R.db).symm

theorem give_up_absorbs (hg : R.GivesUp R.row) :
    R.finish (Operator.pause.apply R.S R.db) = R.finish R.db := by
  have heffect : R.effect (paused R.row) = R.effect R.row := by
    have hg' : gives_up R.now R.settings.pause_after (paused R.row) = true := hg.2
    rw [effect_gives_up hg.1 hg.2, effect_gives_up hg.1 hg']
    rfl
  have hid : ∀ v : NotificationsDb G, write R.S id v = v := fun v => by simp [write, Table.update]
  refine (finish_applied (g := id) hg.1 (fun _ hi => hi) (pause_touched R) (fun _ => rfl)
    (fun v hu hv => ?_)).trans (hid _)
  have hkeep := Operator.change_keeps .pause
  have hg' : gives_up R.now R.settings.pause_after (Operator.pause.change R.row) = true := hg.2
  rw [hid, lapsed_row hg.1 hu hv, lapsed_row hg.1 (touched_unique hkeep hu)
    (touched_found hkeep hv), if_pos hg.2, if_pos hg', fail_write_touched hkeep]
  exact congrArg (fun y => fail_pending R.S (write R.S (fun _ => y) v)) heffect

theorem finish_resumed_clean (hm : R.outcome.message_id = none) (h : R.Clean R.row) :
    R.finish (Operator.resume.apply R.S R.db) =
      write R.S (orm_update R.row (SubscriptionAdmin.resumed R.row)) (R.finish R.db) := by
  have hkeep := Operator.change_keeps .resume
  have hid : (R.effect R.row).id = R.S := (effect_keeps R.row).trans row_id
  refine finish_applied hm (by simp) (resume_touched R) (orm_update_keeps _ _) (fun v hu hv => ?_)
  have hrow := resumed_after_clean hm h
  rw [lapsed_row hm hu hv, lapsed_row hm (touched_unique hkeep hu) (touched_found hkeep hv),
    touched_nil]
  by_cases hg : gives_up R.now R.settings.pause_after R.row = true
  · have hg' : gives_up R.now R.settings.pause_after (Operator.resume.change R.row) = true :=
      h.same.trans hg
    rw [if_pos hg, if_pos hg', write_write hkeep]
    exact (congrArg (fail_pending R.S) ((write_const hid v).trans (congrArg
      (fun y => write R.S (fun _ => y) v) hrow))).symm
  · have hg' : ¬ gives_up R.now R.settings.pause_after (Operator.resume.change R.row) = true :=
      fun he => hg (h.same.symm.trans he)
    rw [if_neg hg, if_neg hg', write_write hkeep]
    exact ((write_const hid v).trans (congrArg (fun y => write R.S (fun _ => y) v) hrow)).symm

end Recording

end GeoHazard.Sessions
