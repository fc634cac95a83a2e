import GeoHazard.Notifications.DeliverOutcomes
import GeoHazard.Notifications.RecordTrace

namespace GeoHazard.Sessions
open ReadCommitted DeliveryRepo DeliverNotificationsUseCase

variable {G : Type}

section Elsewhere

variable {gis : Gis G} {match_settings : MatchSettings} {settings : DeliverSettings}
  {db v : NotificationsDb G} {S : Nat} {T : List Nat}

-- a statement that reads and writes nothing of S
def Statement.Elsewhere (S : Nat) (T : List Nat) : Statement G → Prop
  | .update subscription_id f => subscription_id ≠ S ∧ Keeps f
  | .get_failed subscription_id _ _ | .fail_pending subscription_id => subscription_id ≠ S
  | .mark_sent delivery_ids _ _ => ∀ i ∈ delivery_ids, i ∉ T
  | _ => False

def Write.Elsewhere (S : Nat) (T : List Nat) : Write G → Prop
  | .updated subscription_id f => subscription_id ≠ S ∧ Keeps f
  | .failed subscription_id _ => subscription_id ≠ S
  | .sent delivery_ids _ _ => ∀ i ∈ delivery_ids, i ∉ T
  | _ => False

theorem Statement.Elsewhere.recording {p : Statement G} (h : p.Elsewhere S T) : p.recording := by
  cases p <;> first | exact h.2 | trivial

theorem Write.Elsewhere.recording {w : Write G} (h : w.Elsewhere S T) : w.recording := by
  cases w <;> first | exact h.2 | trivial

theorem Statement.Elsewhere.unaffected {p : Statement G} (h : p.Elsewhere S T)
    (g : Subscription → Subscription) (T' : List Nat) : p.Unaffected S g T' := by
  cases p with
  | update _ _ => exact h.2
  | mark_sent _ _ _ => trivial
  | get_failed _ _ _ => exact fun he => absurd he h
  | fail_pending _ => exact fun he => absurd he h
  | has_active_subscriptions _ | matches_ _ | open_episodes _ _ | refresh _ _ _ _ | close _ _
  | open_ _ _ _ _ _ | add_delivery _ _ _ _ _ | raise _ | create_area _ _ | create _ _ | get_removed _
  | get_paused _ | get_resumed _ | purge_deliveries _ | purge_episodes _
  | delete _ | area_in_use _ | delete_area _ | claim _ _ | attempt _ => exact h.elim

theorem record_outcome_elsewhere {o : Outcome} (now : Timestamptz) (ho : o.claim.id ≠ S)
    (hT : ∀ i ∈ o.claim.delivery_ids, i ∉ T) :
    ∀ p ∈ (record_outcome now o : List (Statement G)), p.Elsewhere S T := by
  intro p hp
  unfold record_outcome at hp
  split at hp
  · exact List.mem_singleton.mp hp ▸ ⟨ho, (released_quiet _).keeps⟩
  · split at hp
    · simp only [List.mem_cons, List.not_mem_nil, or_false] at hp
      rcases hp with rfl | rfl
      · exact hT
      · exact ⟨ho, (recovered_quiet _).keeps⟩
    · exact List.mem_singleton.mp hp ▸ ho

theorem edits_elsewhere {r r' : Subscription} (hr : r.id ≠ S) :
    ∀ q ∈ (edits r r' : List (Statement G)), q.Elsewhere S T := by
  intro q hq
  rw [mem_edits hq]
  exact ⟨hr, orm_update_keeps r r'⟩

theorem elsewhere_performed {p : Statement G} {ws : List (Write G)} {ps : List (Statement G)}
    (hp : p.Elsewhere S T) (h : p.perform gis match_settings settings v = .ok (ws, ps)) :
    (∀ w ∈ ws, w.Elsewhere S T) ∧ ∀ q ∈ ps, q.Elsewhere S T := by
  cases p with
  | get_failed i e n =>
      simp only [Statement.perform, Except.ok.injEq, Prod.mk.injEq] at h
      obtain ⟨rfl, rfl⟩ := h
      refine ⟨by simp, fun q hq => ?_⟩
      split at hq
      · simp at hq
      · next r hr =>
          have hid : r.id ≠ S := (Table.find_some_mem hr).2 ▸ hp
          split at hq
          · rcases List.mem_append.mp hq with hq | hq
            · exact edits_elsewhere hid q hq
            · exact List.mem_singleton.mp hq ▸ hp
          · exact edits_elsewhere hid q hq
  | update _ _ | fail_pending _ | mark_sent _ _ _ =>
      simp only [Statement.perform, Except.ok.injEq, Prod.mk.injEq] at h
      obtain ⟨rfl, rfl⟩ := h
      exact ⟨fun w hw => List.mem_singleton.mp hw ▸ hp, by simp⟩
  | has_active_subscriptions _ | matches_ _ | open_episodes _ _ | refresh _ _ _ _ | close _ _
  | open_ _ _ _ _ _ | add_delivery _ _ _ _ _ | raise _ | create_area _ _ | create _ _ | get_removed _
  | get_paused _ | get_resumed _ | purge_deliveries _ | purge_episodes _
  | delete _ | area_in_use _ | delete_area _ | claim _ _ | attempt _ => exact hp.elim

theorem apply_find {w : Write G} (hw : w.recording) (hS : ∀ f, w ≠ .updated S f) :
    Table.find Subscription.id S (Write.apply v w).subscriptions =
      Table.find Subscription.id S v.subscriptions := by
  cases w with
  | updated i f =>
      have hi : i ≠ S := fun he => hS f (he ▸ rfl)
      rw [Write.apply, SubscriptionAdmin.write, find_written f hw]
      simp [hi]
  | failed _ _ | sent _ _ _ | purged _ _ => rfl
  | locked _ | refreshed _ _ _ _ | closed _ _ | opened _ | inserted _ | area _ | created _
  | removed _ | area_deleted _ | attempted _ => exact hw.elim

theorem view_find {ws : List (Write G)} (hr : ∀ w ∈ ws, w.recording)
    (hS : ∀ w ∈ ws, ∀ f, w ≠ .updated S f) :
    Table.find Subscription.id S (view v ws).subscriptions =
      Table.find Subscription.id S v.subscriptions := by
  induction ws generalizing v with
  | nil => rfl
  | cons w ws ih =>
      exact (ih (fun w' h => hr w' (by simp [h])) (fun w' h => hS w' (by simp [h]))).trans
        (apply_find (hr w (by simp)) (hS w (by simp)))

theorem elsewhere_pending {w : Write G} (hw : w.Elsewhere S T)
    (hT : ∀ d ∈ v.deliveries, is_pending_of S d = true → d.id ∈ T) :
    (Write.apply v w).deliveries.filter (is_pending_of S) =
      v.deliveries.filter (is_pending_of S) := by
  cases w with
  | updated _ _ => rfl
  | failed i ids =>
      exact filter_update (fun d _ hd =>
        pending_other (Ne.symm hw) (Bool.and_eq_true_iff.mp hd).2)
  | sent ids m n =>
      refine filter_update (fun d hd hin => ⟨?_, by simp [is_pending_of, delivered]⟩)
      rw [Bool.eq_false_iff]
      exact fun hp => hw d.id (of_decide_eq_true hin) (hT d hd hp)
  | purged _ _ | locked _ | refreshed _ _ _ _ | closed _ _ | opened _ | inserted _ | area _
  | created _ | removed _ | area_deleted _ | attempted _ => exact hw.elim

theorem view_elsewhere {ws : List (Write G)} (hw : ∀ w ∈ ws, w.Elsewhere S T)
    (hT : ∀ d ∈ v.deliveries, is_pending_of S d = true → d.id ∈ T) :
    (view v ws).deliveries.filter (is_pending_of S) = v.deliveries.filter (is_pending_of S) := by
  induction ws generalizing v with
  | nil => rfl
  | cons w ws ih =>
      have hone := elsewhere_pending (hw w (by simp)) hT
      refine (ih (fun w' h => hw w' (by simp [h])) (fun d hd hp => ?_)).trans hone
      have hmem : d ∈ (Write.apply v w).deliveries.filter (is_pending_of S) :=
        List.mem_filter.mpr ⟨hd, hp⟩
      rw [hone] at hmem
      exact hT d (List.mem_filter.mp hmem).1 hp

theorem trace_elsewhere {program todo : List (Statement G)} {writes : List (Write G)}
    (h : Trace (engine gis match_settings settings) (Statement.Elsewhere S T) db program writes todo) :
    ∀ w ∈ writes, w.Elsewhere S T := by
  induction h with
  | start => simp
  | next _ hp hq ih =>
      intro w hw
      rcases List.mem_append.mp hw with hw | hw
      · exact ih w hw
      · exact (elsewhere_performed hp hq).1 w hw

theorem elsewhere_not_updated {w : Write G} (h : w.Elsewhere S T) (f : Subscription → Subscription) :
    w ≠ .updated S f := by
  rintro rfl
  exact h.1 rfl

end Elsewhere

-- one record transaction, with an outcome about the subscription that it finds as row
structure Recording (G : Type) where
  gis : Gis G
  match_settings : MatchSettings
  settings : DeliverSettings
  db : NotificationsDb G
  before : List Outcome
  outcome : Outcome
  after : List Outcome
  now : Timestamptz
  row : Subscription
  keyed : Keyed db
  found : Table.find Subscription.id outcome.claim.id db.subscriptions = some row
  attempted : outcome.skipped = false
  others : ∀ o ∈ before ++ after, o.claim.id ≠ outcome.claim.id
  deliveries : ∀ o ∈ before ++ after, ∀ i ∈ o.claim.delivery_ids, i ∉ targets outcome.claim.id db

namespace Recording

variable (R : Recording G)

def S : Nat := R.outcome.claim.id

def T : List Nat := targets R.S R.db

def outcomes : List Outcome := R.before ++ R.outcome :: R.after

def engine : Engine (NotificationsDb G) (Write G) (Statement G) (Command G) PyError Row :=
  Sessions.engine R.gis R.match_settings R.settings

def program : List (Statement G) := (Command.finish R.now R.outcomes).program R.settings

def finish (db : NotificationsDb G) : NotificationsDb G :=
  (DeliverNotificationsUseCase.finished R.gis R.settings R.now R.outcomes db).1

def cutoff : Timestamptz := R.now - R.settings.retention

def purges : List (Statement G) := [.purge_deliveries R.cutoff, .purge_episodes R.cutoff]

def rest : List (Statement G) := R.after.flatMap (record_outcome R.now) ++ R.purges

def own : List (Statement G) := record_outcome R.now R.outcome

def effect : Subscription → Subscription := outcome_effect R.gis R.settings R.now R.outcome

def GivesUp (r : Subscription) : Prop :=
  R.outcome.message_id = none ∧ gives_up R.now R.settings.pause_after r = true

-- what mark_failed goes on to after it has read r
def failure (r : Subscription) : List (Statement G) :=
  edits r (R.effect r) ++
    if gives_up R.now R.settings.pause_after r then [.fail_pending R.S] else []

abbrev Traced (N : Statement G → Prop) : List (Write G) → List (Statement G) → Prop :=
  Trace R.engine N R.db R.program

-- how far the transaction has come, while what it started from is still what is committed
inductive At : List (Write G) → List (Statement G) → Prop
  | before {writes : List (Write G)} {todo : List (Statement G)} :
      R.Traced (Statement.Elsewhere R.S R.T) writes (todo ++ (R.own ++ R.rest)) →
      (∀ p ∈ todo, p.Elsewhere R.S R.T) → At writes (todo ++ (R.own ++ R.rest))
  | marked {writes : List (Write G)} {m : Nat} : R.outcome.message_id = some m →
      R.Traced (fun p => ∀ g T, p.Unaffected R.S g T) writes
        (.update R.S (recovered R.now) :: R.rest) →
      .sent R.outcome.claim.delivery_ids m R.now ∈ writes →
      Table.find Subscription.id R.S (view R.db writes).subscriptions = some R.row →
      At writes (.update R.S (recovered R.now) :: R.rest)
  | read {writes : List (Write G)} : R.outcome.message_id = none →
      R.Traced (Statement.Elsewhere R.S R.T) writes
        (.get_failed R.S (error_text R.outcome) R.now :: R.rest) →
      At writes (R.failure R.row ++ R.rest)
  | dropping {writes : List (Write G)} {f : Subscription → Subscription} : R.GivesUp R.row →
      R.Traced (fun p => ∀ T, p.Unaffected R.S id T) writes (.fail_pending R.S :: R.rest) →
      .updated R.S f ∈ writes → targets R.S (view R.db writes) = R.T →
      Table.find Subscription.id R.S (view R.db writes).subscriptions = some (R.effect R.row) →
      At writes (.fail_pending R.S :: R.rest)
  | settled {writes : List (Write G)} {todo : List (Statement G)}
      {f : Subscription → Subscription} : ¬ R.GivesUp R.row →
      R.Traced (fun p => ∀ T, p.Unaffected R.S id T) writes (todo ++ R.purges) →
      (∀ p ∈ todo, p.Elsewhere R.S R.T) → .updated R.S f ∈ writes →
      Table.find Subscription.id R.S (view R.db writes).subscriptions = some (R.effect R.row) →
      At writes (todo ++ R.purges)
  | halfway {writes : List (Write G)} {f : Subscription → Subscription} : ¬ R.GivesUp R.row →
      R.Traced (fun p => ∀ T, p.Unaffected R.S id T) writes R.purges →
      .updated R.S f ∈ writes →
      Table.find Subscription.id R.S (view R.db writes).subscriptions = some (R.effect R.row) →
      At (writes ++ [.purged (((view R.db writes).deliveries.filter (outdated R.cutoff)).map
        Delivery.id) []]) [.purge_episodes R.cutoff]
  | through {writes : List (Write G)} {f : Subscription → Subscription} : ¬ R.GivesUp R.row →
      .updated R.S f ∈ writes →
      Table.find Subscription.id R.S (view R.db writes).subscriptions = some (R.effect R.row) →
      At writes []
  | gone {writes : List (Write G)} {todo : List (Statement G)} {f : Subscription → Subscription} :
      R.GivesUp R.row → .updated R.S f ∈ writes → .failed R.S R.T ∈ writes →
      Table.find Subscription.id R.S (view R.db writes).subscriptions = some (R.effect R.row) →
      (∀ p ∈ todo, p.Elsewhere R.S R.T ∨ p ∈ R.purges) → At writes todo

variable {R}

theorem program_eq : R.program =
    R.before.flatMap (record_outcome R.now) ++ (R.own ++ R.rest) := by
  simp [program, Command.program, outcomes, own, rest, purges, cutoff]

theorem others_elsewhere {outcomes : List Outcome} (h : ∀ o ∈ outcomes, o ∈ R.before ++ R.after) :
    ∀ p ∈ outcomes.flatMap (record_outcome (G := G) R.now), p.Elsewhere R.S R.T := by
  intro p hp
  obtain ⟨o, ho, hp⟩ := List.mem_flatMap.mp hp
  exact record_outcome_elsewhere R.now (R.others o (h o ho)) (R.deliveries o (h o ho)) p hp

theorem start : R.At [] R.program := by
  have hbefore := R.others_elsewhere (fun _ ho => List.mem_append_left R.after ho)
  rw [program_eq]
  exact .before (program_eq (R := R) ▸ .start) hbefore

theorem later_elsewhere : ∀ p ∈ R.after.flatMap (record_outcome (G := G) R.now),
    p.Elsewhere R.S R.T := others_elsewhere (fun _ ho => List.mem_append_right _ ho)

theorem effect_sent {m : Nat} (hm : R.outcome.message_id = some m) : R.effect = recovered R.now := by
  funext r
  simp only [effect, outcome_effect, R.attempted, hm, Bool.false_eq_true, if_false]

theorem effect_failed (hm : R.outcome.message_id = none) (r : Subscription) : R.effect r =
    if gives_up R.now R.settings.pause_after r then given_up R.gis (error_text R.outcome) R.now r
    else failing (error_text R.outcome) R.now r := by
  simp only [effect, outcome_effect, R.attempted, hm, Bool.false_eq_true, if_false]

theorem effect_keeps : Keeps R.effect := by
  intro r
  unfold effect outcome_effect
  split
  · rfl
  · split
    · rfl
    · split <;> rfl

theorem failed_orm (hm : R.outcome.message_id = none) (r : Subscription) :
    orm_update r (R.effect r) r = R.effect r := by
  rw [effect_failed hm]
  split <;> exact orm_update_self rfl

theorem failed_edits (hm : R.outcome.message_id = none) (r : Subscription) :
    (edits r (R.effect r) : List (Statement G)) = [.update r.id (orm_update r (R.effect r))] := by
  refine if_neg (fun he => ?_)
  have hc : (R.effect r).consecutive_failures = r.consecutive_failures + 1 := by
    rw [effect_failed hm]
    split <;> rfl
  rw [he] at hc
  omega

theorem perform_failed (hm : R.outcome.message_id = none) {v : NotificationsDb G} {r : Subscription}
    (hr : Table.find Subscription.id R.S v.subscriptions = some r) :
    R.engine.perform (.get_failed R.S (error_text R.outcome) R.now) v = .ok ([], R.failure r) := by
  simp only [engine, Sessions.engine, Statement.perform, hr, failure, effect_failed hm]
  split
  · rfl
  · simp

theorem find_next {writes ws : List (Write G)} {x : Option Subscription}
    (h : Table.find Subscription.id R.S (view R.db writes).subscriptions = x)
    (hr : ∀ w ∈ ws, w.recording) (hS : ∀ w ∈ ws, ∀ f, w ≠ .updated R.S f) :
    Table.find Subscription.id R.S (view R.db (writes ++ ws)).subscriptions = x := by
  have happ : view R.db (writes ++ ws) = view (view R.db writes) ws := by simp [view]
  rw [happ, view_find hr hS, h]

theorem elsewhere_find {writes : List (Write G)} {todo : List (Statement G)}
    (h : R.Traced (Statement.Elsewhere R.S R.T) writes todo) :
    Table.find Subscription.id R.S (view R.db writes).subscriptions = some R.row := by
  have hw := trace_elsewhere h
  exact @find_next G R [] writes _ R.found (fun w hm => (hw w hm).recording)
    (fun w hm => elsewhere_not_updated (hw w hm))

theorem elsewhere_targets {writes : List (Write G)} {todo : List (Statement G)}
    (h : R.Traced (Statement.Elsewhere R.S R.T) writes todo) :
    targets R.S (view R.db writes) = R.T := by
  have hT : ∀ d ∈ R.db.deliveries, is_pending_of R.S d = true → d.id ∈ R.T := fun d hd hp =>
    List.mem_map_of_mem (List.mem_filter.mpr ⟨hd, hp⟩)
  exact congrArg (List.map Delivery.id) (view_elsewhere (trace_elsewhere h) hT)

theorem find_updated {writes : List (Write G)} {r : Subscription} {f : Subscription → Subscription}
    (hf : Keeps f) (h : Table.find Subscription.id R.S (view R.db writes).subscriptions = some r) :
    Table.find Subscription.id R.S (view R.db (writes ++ [.updated R.S f])).subscriptions =
      some (f r) := by
  rw [view_concat, Write.apply, SubscriptionAdmin.write, find_written f hf, h]
  simp

theorem row_id : R.row.id = R.S := (Table.find_some_mem R.found).2

section Step

variable {writes ws : List (Write G)} {p : Statement G} {todo ps : List (Statement G)}

theorem step_before (h : R.Traced (Statement.Elsewhere R.S R.T) writes (R.own ++ R.rest))
    (ht : R.own ++ R.rest = p :: todo) (hp : R.engine.perform p (view R.db writes) = .ok (ws, ps)) :
    R.At (writes ++ ws) (ps ++ todo) := by
  have hfind := elsewhere_find h
  cases hm : R.outcome.message_id with
  | some m =>
      simp only [own, record_outcome, R.attempted, hm, Bool.false_eq_true, if_false, List.cons_append,
        List.nil_append, List.cons.injEq] at h ht
      obtain ⟨rfl, rfl⟩ := ht
      have hnext := (h.mono (M := fun p => ∀ g T, p.Unaffected R.S g T)
        (fun p hp => hp.unaffected)).next (fun _ _ => trivial) hp
      cases hp
      exact .marked hm hnext (by simp) (find_next hfind (by simp [Write.recording]) (by simp))
  | none =>
      simp only [own, record_outcome, R.attempted, hm, Bool.false_eq_true, if_false, List.cons_append,
        List.nil_append, List.cons.injEq] at h ht
      obtain ⟨rfl, rfl⟩ := ht
      have hread := (perform_failed hm hfind).symm.trans hp
      obtain ⟨rfl, rfl⟩ := Prod.mk.inj (Except.ok.inj hread)
      rw [List.append_nil]
      exact .read hm h

theorem step_marked {m : Nat} (hm : R.outcome.message_id = some m)
    (h : R.Traced (fun p => ∀ g T, p.Unaffected R.S g T) writes
      (.update R.S (recovered R.now) :: R.rest))
    (hfind : Table.find Subscription.id R.S (view R.db writes).subscriptions = some R.row) :
    R.At (writes ++ [.updated R.S (recovered R.now)]) R.rest := by
  have hnext := (h.mono (M := fun p => ∀ T, p.Unaffected R.S id T) (fun p hp T => hp id T)).next
    (fun _ => (recovered_quiet R.now).keeps) rfl
  have hrow := find_updated (recovered_quiet R.now).keeps hfind
  have heffect := congrFun (effect_sent hm) R.row
  refine .settled (fun hg => ?_) hnext later_elsewhere
    (List.mem_append_right _ List.mem_cons_self) (hrow.trans (congrArg some heffect.symm))
  rw [hg.1] at hm
  simp at hm

theorem step_read (hm : R.outcome.message_id = none)
    (h : R.Traced (Statement.Elsewhere R.S R.T) writes
      (.get_failed R.S (error_text R.outcome) R.now :: R.rest))
    (ht : R.failure R.row ++ R.rest = p :: todo)
    (hp : R.engine.perform p (view R.db writes) = .ok (ws, ps)) :
    R.At (writes ++ ws) (ps ++ todo) := by
  have hfind := elsewhere_find h
  have hread := (h.mono (M := fun p => ∀ T, p.Unaffected R.S id T)
    (fun p hp T => hp.unaffected id T)).next (fun _ _ => rfl) (perform_failed hm hfind)
  rw [List.append_nil] at hread
  simp only [failure, failed_edits hm, row_id] at ht hread
  obtain ⟨rfl, rfl⟩ := List.cons.inj ht
  have hkeeps := orm_update_keeps R.row (R.effect R.row)
  cases hp
  have hnext := hread.next (fun _ => hkeeps) rfl
  have hrow := find_updated hkeeps hfind
  rw [failed_orm hm] at hrow
  cases hg : gives_up R.now R.settings.pause_after R.row with
  | true =>
      simp only [hg, if_true] at hnext ⊢
      refine .dropping ⟨hm, hg⟩ hnext (List.mem_append_right _ List.mem_cons_self) ?_ hrow
      rw [view_concat]
      exact elsewhere_targets h
  | false =>
      simp only [hg, Bool.false_eq_true, if_false, List.nil_append] at hnext ⊢
      exact .settled (fun he => by simp [he.2] at hg) hnext later_elsewhere
        (List.mem_append_right _ List.mem_cons_self) hrow

theorem elsewhere_step (h : p.Elsewhere R.S R.T)
    (hp : R.engine.perform p (view R.db writes) = .ok (ws, ps)) {x : Option Subscription}
    (hx : Table.find Subscription.id R.S (view R.db writes).subscriptions = x) :
    (∀ q ∈ ps, q.Elsewhere R.S R.T) ∧
      Table.find Subscription.id R.S (view R.db (writes ++ ws)).subscriptions = x := by
  obtain ⟨hws, hps⟩ := elsewhere_performed h hp
  exact ⟨hps, find_next hx (fun w hw => (hws w hw).recording)
    (fun w hw => elsewhere_not_updated (hws w hw))⟩

theorem At.step (h : R.At writes (p :: todo))
    (hp : R.engine.perform p (view R.db writes) = .ok (ws, ps)) : R.At (writes ++ ws) (ps ++ todo) := by
  generalize ht : p :: todo = t at h
  cases h with
  | @before _ ts h hts =>
      cases ts with
      | nil => exact step_before h ht.symm hp
      | cons q ts =>
          rw [List.cons_append, List.cons.injEq] at ht
          obtain ⟨rfl, rfl⟩ := ht
          have hq := hts p List.mem_cons_self
          obtain ⟨hps, _⟩ := elsewhere_step hq hp rfl
          rw [← List.append_assoc]
          refine .before ?_ (fun x hx => ?_)
          · rw [List.append_assoc]
            exact h.next hq hp
          · exact (List.mem_append.mp hx).elim (hps x) (fun hx => hts x (List.mem_cons_of_mem _ hx))
  | marked hm h _ hfind =>
      obtain ⟨rfl, rfl⟩ := List.cons.inj ht
      cases hp
      exact step_marked hm h hfind
  | read hm h => exact step_read hm h ht.symm hp
  | @dropping _ f hg h hu hT hfind =>
      obtain ⟨rfl, rfl⟩ := List.cons.inj ht
      cases hp
      refine .gone hg (List.mem_append_left _ hu) (List.mem_append_right _ ?_)
        (find_next hfind (by simp [Write.recording]) (by simp)) (fun x hx => ?_)
      · rw [← hT]
        exact List.mem_cons_self
      · rw [List.nil_append, rest, List.mem_append] at hx
        exact hx.imp_left (later_elsewhere x)
  | @settled _ ts f hg h hts hu hfind =>
      cases ts with
      | nil =>
          obtain ⟨rfl, rfl⟩ := List.cons.inj ht
          cases hp
          exact .halfway hg h hu hfind
      | cons q ts =>
          rw [List.cons_append, List.cons.injEq] at ht
          obtain ⟨rfl, rfl⟩ := ht
          have hq := hts p List.mem_cons_self
          obtain ⟨hps, hrow⟩ := elsewhere_step hq hp hfind
          rw [← List.append_assoc]
          refine .settled hg ?_ (fun x hx => ?_) (List.mem_append_left _ hu) hrow
          · rw [List.append_assoc]
            exact h.next (fun T => hq.unaffected id T) hp
          · exact (List.mem_append.mp hx).elim (hps x) (fun hx => hts x (List.mem_cons_of_mem _ hx))
  | halfway hg h hu hfind =>
      obtain ⟨rfl, rfl⟩ := List.cons.inj ht
      cases hp
      refine .through hg (List.mem_append_left _ (List.mem_append_left _ hu)) ?_
      exact find_next (find_next hfind (by simp [Write.recording]) (by simp))
        (by simp [Write.recording]) (by simp)
  | through => simp at ht
  | @gone _ _ f hg hu hf hfind hts =>
      subst ht
      have hrest : ∀ x ∈ todo, x.Elsewhere R.S R.T ∨ x ∈ R.purges :=
        fun x hx => hts x (List.mem_cons_of_mem _ hx)
      rcases hts p List.mem_cons_self with hq | hq
      · obtain ⟨hps, hrow⟩ := elsewhere_step hq hp hfind
        exact .gone hg (List.mem_append_left _ hu) (List.mem_append_left _ hf) hrow
          (fun x hx => (List.mem_append.mp hx).elim (fun hx => .inl (hps x hx)) (hrest x))
      · simp only [purges, List.mem_cons, List.not_mem_nil, or_false] at hq
        rcases hq with rfl | rfl <;> cases hp <;>
          exact .gone hg (List.mem_append_left _ hu) (List.mem_append_left _ hf)
            (find_next hfind (by simp [Write.recording]) (by simp)) hrest

end Step

theorem at_of_trace {N : Statement G → Prop} {writes : List (Write G)} {todo : List (Statement G)}
    (h : R.Traced N writes todo) : R.At writes todo := by
  induction h with
  | start => exact start
  | next _ _ hp ih => exact ih.step hp

end Recording

end GeoHazard.Sessions
