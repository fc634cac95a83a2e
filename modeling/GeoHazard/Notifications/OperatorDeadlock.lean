import GeoHazard.Notifications.OperatorRaces

namespace GeoHazard.Sessions
open ReadCommitted DeliveryRepo DeliverNotificationsUseCase SubscriptionAdmin Transition

variable {G : Type} {S : Nat} {T : List Nat}

theorem Statement.Elsewhere.not_updates {p : Statement G} (h : p.Elsewhere S T) :
    p.updates S = false := by
  cases p <;> first | rfl | exact decide_eq_false h.1

theorem Statement.Elsewhere.not_marks {p : Statement G} (h : p.Elsewhere S T) :
    p.marks T = false := by
  cases p with
  | mark_sent ids m n =>
      have hids : ∀ i ∈ ids, i ∉ T := h
      simpa [Statement.marks] using hids
  | has_active_subscriptions _ | matches_ _ | open_episodes _ _ | refresh _ _ _ _ | close _ _
  | open_ _ _ _ _ _ | add_delivery _ _ _ _ _ | raise _ | create_area _ _ | create _ _ | get_removed _
  | get_paused _ | get_resumed _ | get_failed _ _ _ | fail_pending _ | update _ _
  | purge_deliveries _ | purge_episodes _
  | delete _ | area_in_use _ | delete_area _ | claim _ _ | attempt _ => rfl

theorem Write.Elsewhere.not_marks {w : Write G} (h : w.Elsewhere S T) : w.marks T = false := by
  cases w with
  | sent ids m n =>
      have hids : ∀ i ∈ ids, i ∉ T := h
      simpa [Write.marks] using hids
  | locked _ | refreshed _ _ _ _ | closed _ _ | opened _ | inserted _ | area _ | created _
  | updated _ _ | failed _ _ | removed _ | area_deleted _ | attempted _ | purged _ _ => rfl

namespace Recording

variable {R : Recording G} {op : Operator} {v : NotificationsDb G} {writes ws : List (Write G)}
  {p : Statement G} {todo ps : List (Statement G)} {x y : Transaction G}

theorem elsewhere_no_marks (h : R.Traced (Statement.Elsewhere R.S R.T) writes todo) :
    writes.any (Write.marks R.T) = false := by
  rw [List.any_eq_false]
  exact fun w hw => by simp [(trace_elsewhere h w hw).not_marks]

theorem performed_marks (hr : p.recording) (hp : R.engine.perform p v = .ok (ws, ps))
    (h : ws.any (Write.marks T) = true) : p.marks T = true := by
  cases p with
  | mark_sent ids m n =>
      cases hp
      simpa [Write.marks, Statement.marks] using h
  | update _ _ | fail_pending _ | purge_deliveries _ | purge_episodes _ =>
      cases hp
      simp [Write.marks] at h
  | get_failed _ _ _ =>
      cases hp
      simp at h
  | get_paused i =>
      simp only [engine, Sessions.engine, Statement.perform, bind, Except.bind] at hp
      split at hp
      · simp at hp
      · cases hp
        simp at h
  | get_resumed i =>
      simp only [engine, Sessions.engine, Statement.perform, bind, Except.bind] at hp
      split at hp
      · simp at hp
      · cases hp
        simp at h
  | has_active_subscriptions _ | matches_ _ | open_episodes _ _ | refresh _ _ _ _ | close _ _
  | open_ _ _ _ _ _ | add_delivery _ _ _ _ _ | raise _ | create_area _ _ | create _ _ | get_removed _
  | delete _ | area_in_use _ | delete_area _ | claim _ _ | attempt _ => exact hr.elim

theorem updates_unmarked (ha : R.At writes (p :: todo))
    (hp : R.engine.perform p (view R.db writes) = .ok (ws, ps))
    (hu : ps.any (Statement.updates R.S) = true) : writes.any (Write.marks R.T) = false := by
  have hresting : ∀ {p : Statement G}, R.Resting p →
      R.engine.perform p (view R.db writes) = .ok (ws, ps) → ps.any (Statement.updates R.S) = false := by
    intro p hq hp
    rw [List.any_eq_false]
    intro q hmem
    rcases (resting_performed hq hp).2 q hmem with h | h
    · simp [h.not_updates]
    · simp only [purges, List.mem_cons, List.not_mem_nil, or_false] at h
      rcases h with rfl | rfl <;> simp [Statement.updates]
  generalize ht : p :: todo = t at ha
  cases ha with
  | before h _ => exact elsewhere_no_marks h
  | marked _ _ _ _ =>
      obtain ⟨rfl, rfl⟩ := List.cons.inj ht
      cases hp
      simp at hu
  | read _ h => exact elsewhere_no_marks h
  | dropping _ _ _ _ _ =>
      obtain ⟨rfl, rfl⟩ := List.cons.inj ht
      cases hp
      simp at hu
  | @settled _ ts _ _ _ hts _ _ =>
      have hq : R.Resting p := by
        have hmem : p ∈ ts ++ R.purges := ht ▸ List.mem_cons_self
        exact (List.mem_append.mp hmem).imp_left (hts p)
      simp [hresting hq hp] at hu
  | halfway _ _ _ _ =>
      obtain ⟨rfl, rfl⟩ := List.cons.inj ht
      cases hp
      simp at hu
  | through _ _ _ => simp at ht
  | gone _ _ _ _ hts =>
      subst ht
      simp [hresting (hts p List.mem_cons_self) hp] at hu

theorem half_sent_step (ha : R.At writes (p :: todo)) (hr : p.recording)
    (hp : R.engine.perform p (view R.db writes) = .ok (ws, ps)) (hm : p.marks R.T = false)
    (hn : ¬ HalfSent R.S R.T ⟨p :: todo, writes⟩) :
    ¬ HalfSent R.S R.T ⟨ps ++ todo, writes ++ ws⟩ := by
  rintro ⟨hmark, hupdate⟩
  rw [List.any_append, Bool.or_eq_true] at hmark hupdate
  have hwrites : writes.any (Write.marks R.T) = true := by
    refine hmark.resolve_right (fun hws => ?_)
    rw [performed_marks hr hp hws] at hm
    simp at hm
  rcases hupdate with hps | htodo
  · simp [updates_unmarked ha hp hps] at hwrites
  · exact hn ⟨hwrites, by simp [htodo]⟩

theorem half_paused_step (ho : R.Operated op writes (p :: todo))
    (hp : R.engine.perform p (view R.db writes) = .ok (ws, ps))
    (h : HalfPaused R.S ⟨ps ++ todo, writes ++ ws⟩) :
    p.updates R.S = true ∧ (p :: todo).any (Statement.fails R.S) = true := by
  obtain ⟨hupdate, hfail⟩ := h
  generalize ht : p :: todo = t at ho
  cases ho with
  | unread =>
      obtain ⟨rfl, rfl⟩ := List.cons.inj ht
      have hread := (op.perform_read R.found).symm.trans hp
      obtain ⟨rfl, rfl⟩ := Prod.mk.inj (Except.ok.inj hread)
      simp at hupdate
  | read _ =>
      obtain ⟨rfl, rfl⟩ := List.cons.inj ht
      cases hp
      exact ⟨by simp [Statement.updates], by simpa [Statement.fails] using hfail⟩
  | updated _ =>
      obtain ⟨rfl, rfl, rfl⟩ := finishing_inv ht
      cases hp
      simp at hfail
  | dropped _ _ => simp at ht
  | same _ =>
      obtain ⟨rfl, rfl, rfl⟩ := finishing_inv ht
      cases hp
      simp at hfail
  | same_dropped _ _ => simp at ht

theorem pending_of_other {i : Nat} (hi : i ≠ R.S) (hw : ∀ w ∈ writes, w.recording) :
    ∀ j ∈ targets i (view R.db writes), j ∉ R.T := by
  intro j hj hT
  obtain ⟨d, hd, rfl⟩ := List.mem_map.mp hj
  obtain ⟨d', hd', hid⟩ := List.mem_map.mp hT
  obtain ⟨hd, hp⟩ := List.mem_filter.mp hd
  obtain ⟨hd', hp'⟩ := List.mem_filter.mp hd'
  rcases mem_view hd with ⟨d₀, hd₀, hk⟩ | ⟨d₀, hd₀, _⟩
  · have hdesc := kept_descends hk
    obtain rfl := Table.unique_eq R.keyed.deliveries hd' hd₀ (hid.trans hdesc.id)
    have hsub := pending_of_subscription (hdesc.pending_of hp)
    exact hi (hsub.symm.trans (pending_of_subscription hp'))
  · have hnone := recording_inserts (hw _ hd₀)
    simp [Write.inserts] at hnone

theorem sightless_rows (h : R.Traced (fun p => ∀ g T, p.Unaffected R.S g T) writes todo)
    (hm : writes.any (Write.marks R.T) = false) :
    ∀ w ∈ writes, ∀ i ∈ R.T, Row.delivery i ∉ w.rows := by
  have hrec : ∀ p : Statement G, (∀ g T, p.Unaffected R.S g T) → p.recording :=
    fun _ hp => unaffected_recording (hp id [])
  induction h with
  | start => simp
  | @next writes ws p todo ps ht hp hq ih =>
      rw [List.any_append, Bool.or_eq_false_iff] at hm
      intro w hw i hi hrow
      rcases List.mem_append.mp hw with hw | hw
      · exact ih hm.1 w hw i hi hrow
      · have hwrec := (recorded (hrec p hp) hq).writes w hw
        cases p with
        | mark_sent ids m n =>
            cases hq
            obtain rfl := List.mem_singleton.mp hw
            have hmem : i ∈ ids := by simpa [Write.rows] using hrow
            have hnone := List.any_eq_false.mp hm.2 _ List.mem_cons_self
            simp only [Write.marks, List.any_eq_true, decide_eq_true_eq, not_exists, not_and] at hnone
            exact hnone i hmem hi
        | fail_pending j =>
            cases hq
            obtain rfl := List.mem_singleton.mp hw
            have hj : j ≠ R.S := fun he => by simpa using hp id [0] he
            have hmem : Row.delivery i ∈ (targets j (view R.db writes)).map Row.delivery := hrow
            rw [List.mem_map_of_injective (fun _ _ he => Row.delivery.inj he)] at hmem
            exact pending_of_other hj (trace_writes hrec ht) i hmem hi
        | update _ _ =>
            cases hq
            obtain rfl := List.mem_singleton.mp hw
            simp [Write.rows] at hrow
        | get_failed _ _ _ =>
            cases hq
            simp at hw
        | purge_deliveries _ | purge_episodes _ =>
            have hnone : [0] = [] := hp id [0]
            simp at hnone
        | has_active_subscriptions _ | matches_ _ | open_episodes _ _ | refresh _ _ _ _ | close _ _
        | open_ _ _ _ _ _ | add_delivery _ _ _ _ _ | raise _ | create_area _ _ | create _ _ | get_removed _
        | get_paused _ | get_resumed _ | delete _ | area_in_use _ | delete_area _ | claim _ _
        | attempt _ => exact (hp id []).elim

abbrev Advancing (R : Recording G) (x y : Transaction G) : Prop :=
  ∃ a t, a.Advances ∧ R.engine.Step (pair R.db x y) a t

theorem left_advances (hb : R.Contest op ⟨p :: todo, writes⟩ y)
    (hd : ∀ ws ps, R.engine.perform p (view R.db writes) = .ok (ws, ps) →
      R.engine.disjoint ws y.writes = true) : R.Advancing ⟨p :: todo, writes⟩ y := by
  have hrest := hb.left.rest drawless (R.finish_alone R.keyed)
  cases hrest with
  | next hp _ =>
      refine next_step (i := 0) rfl hp ?_
      simpa [Engine.unlocked, pair] using hd _ _ hp

theorem right_advances (hb : R.Contest op x ⟨p :: todo, writes⟩)
    (hd : ∀ ws ps, R.engine.perform p (view R.db writes) = .ok (ws, ps) →
      R.engine.disjoint ws x.writes = true) : R.Advancing x ⟨p :: todo, writes⟩ := by
  have hrest := hb.right.rest drawless (op.serial R.keyed R.found)
  cases hrest with
  | next hp _ =>
      refine next_step (i := 1) rfl hp ?_
      simpa [Engine.unlocked, pair] using hd _ _ hp

theorem disjoint_nil (ws : List (Write G)) : R.engine.disjoint ws [] = true := by
  rw [rows_disjoint_iff]
  simp

theorem idle_advances (hb : R.Contest op x ⟨todo, []⟩) : R.Advancing x ⟨todo, []⟩ := by
  obtain ⟨xs, xw⟩ := x
  cases xs with
  | nil => exact commit_step (i := 0) rfl
  | cons p xs => exact left_advances hb (fun ws _ _ => disjoint_nil ws)

theorem updated_disjoint {f : Subscription → Subscription} (hw : ∀ w ∈ ws, w.updates R.S = false)
    (hr : ∀ w ∈ ws, w.recording) : R.engine.disjoint ws [.updated R.S f] = true := by
  rw [rows_disjoint_iff]
  intro w hmem w' hw' r hrow hrow'
  obtain rfl := List.mem_singleton.mp hw'
  obtain rfl : r = .subscription R.S := List.mem_singleton.mp hrow'
  have hrec := hr w hmem
  have hnot := hw w hmem
  change Row.subscription R.S ∈ w.rows at hrow
  cases w with
  | updated i f => simp [Write.rows, Write.updates, eq_comm] at hrow hnot; exact hnot hrow
  | failed _ _ | sent _ _ _ | purged _ _ => simp [Write.rows] at hrow
  | locked _ | refreshed _ _ _ _ | closed _ _ | opened _ | inserted _ | area _ | created _
  | removed _ | area_deleted _ | attempted _ => exact hrec.elim

theorem performed_updates (hr : p.recording) (hn : p.updates R.S = false)
    (hp : R.engine.perform p v = .ok (ws, ps)) : ∀ w ∈ ws, w.updates R.S = false := by
  intro w hw
  cases p with
  | update i f =>
      cases hp
      obtain rfl := List.mem_singleton.mp hw
      exact hn
  | mark_sent _ _ _ | fail_pending _ | purge_deliveries _ | purge_episodes _ =>
      cases hp
      obtain rfl := List.mem_singleton.mp hw
      rfl
  | get_failed _ _ _ =>
      cases hp
      simp at hw
  | get_paused i =>
      simp only [engine, Sessions.engine, Statement.perform, bind, Except.bind] at hp
      split at hp
      · simp at hp
      · cases hp
        simp at hw
  | get_resumed i =>
      simp only [engine, Sessions.engine, Statement.perform, bind, Except.bind] at hp
      split at hp
      · simp at hp
      · cases hp
        simp at hw
  | has_active_subscriptions _ | matches_ _ | open_episodes _ _ | refresh _ _ _ _ | close _ _
  | open_ _ _ _ _ _ | add_delivery _ _ _ _ _ | raise _ | create_area _ _ | create _ _ | get_removed _
  | delete _ | area_in_use _ | delete_area _ | claim _ _ | attempt _ => exact hr.elim

theorem not_updating_advances {f : Subscription → Subscription} {ys : List (Statement G)}
    (hb : R.Contest op ⟨p :: todo, writes⟩ ⟨ys, [.updated R.S f]⟩) (hr : p.recording)
    (hn : p.updates R.S = false) : R.Advancing ⟨p :: todo, writes⟩ ⟨ys, [.updated R.S f]⟩ :=
  left_advances hb (fun _ _ hp =>
    updated_disjoint (performed_updates hr hn hp) (recorded hr hp).writes)

theorem failed_disjoint (h : ∀ w ∈ writes, ∀ i ∈ R.T, Row.delivery i ∉ w.rows) :
    R.engine.disjoint [.failed R.S R.T] writes = true := by
  rw [rows_disjoint_iff]
  intro w hw w' hw' r hrow hrow'
  obtain rfl := List.mem_singleton.mp hw
  obtain ⟨i, hi, rfl⟩ := List.mem_map.mp hrow
  exact h w' hw' i hi hrow'

theorem own_starts (R : Recording G) : ∃ p todo, R.own ++ R.rest = p :: todo ∧ p.recording ∧
    p.updates R.S = false := by
  simp only [own, record_outcome, R.attempted, Bool.false_eq_true, if_false]
  split
  · exact ⟨_, _, rfl, trivial, rfl⟩
  · exact ⟨_, _, rfl, trivial, rfl⟩

theorem pause_advances {f : Subscription → Subscription}
    (hb : R.Contest .pause x ⟨[.fail_pending R.S], [.updated R.S f]⟩)
    (h : ∀ w ∈ x.writes, ∀ i ∈ R.T, Row.delivery i ∉ w.rows) :
    R.Advancing x ⟨[.fail_pending R.S], [.updated R.S f]⟩ := by
  refine right_advances hb (fun ws ps hp => ?_)
  cases hp
  exact failed_disjoint h

theorem half_paused_advances {f : Subscription → Subscription}
    (hb : R.Contest .pause x ⟨[.fail_pending R.S], [.updated R.S f]⟩)
    (hn : ¬ HalfSent R.S R.T x) : R.Advancing x ⟨[.fail_pending R.S], [.updated R.S f]⟩ := by
  obtain ⟨xs, xw⟩ := x
  have hx := at_of_trace hb.left
  have hmine : Write.updated R.S f ∈ ([.updated R.S f] : List (Write G)) := List.mem_cons_self
  cases hx with
  | @before _ ts ht hts =>
      cases ts with
      | nil =>
          obtain ⟨p, todo, hown, hr, hn⟩ := R.own_starts
          change R.Contest .pause ⟨R.own ++ R.rest, xw⟩ _ at hb
          change R.Advancing ⟨R.own ++ R.rest, xw⟩ _
          rw [hown] at hb ⊢
          exact not_updating_advances hb hr hn
      | cons q ts =>
          exact not_updating_advances hb (hts q List.mem_cons_self).recording
            (hts q List.mem_cons_self).not_updates
  | marked _ ht _ _ =>
      refine pause_advances hb (sightless_rows ht ?_)
      rw [← Bool.not_eq_true]
      exact fun hm => hn ⟨hm, by simp [Statement.updates]⟩
  | read _ ht =>
      exact pause_advances hb (sightless_rows (ht.mono (fun _ hp => hp.unaffected))
        (elsewhere_no_marks ht))
  | dropping _ _ hf _ _ => exact absurd hmine (apart_updated hb.apart hf)
  | settled _ _ _ hf _ => exact absurd hmine (apart_updated hb.apart hf)
  | halfway _ _ hf _ => exact absurd hmine (apart_updated hb.apart (List.mem_append_left _ hf))
  | through _ hf _ => exact absurd hmine (apart_updated hb.apart hf)
  | gone _ hf _ _ _ => exact absurd hmine (apart_updated hb.apart hf)

theorem progress (hb : R.Contest op x y) (hj : ¬ (HalfPaused R.S y ∧ HalfSent R.S R.T x)) :
    R.Advancing x y := by
  obtain ⟨ys, yw⟩ := y
  have hy := operated_of_trace hb.right
  cases hy with
  | unread => exact idle_advances hb
  | read _ => exact idle_advances hb
  | same _ => exact idle_advances hb
  | dropped _ _ => exact commit_step (i := 1) rfl
  | same_dropped _ _ => exact commit_step (i := 1) rfl
  | updated _ =>
      cases op with
      | resume => exact commit_step (i := 1) rfl
      | pause =>
          have hpaused : HalfPaused R.S (⟨[.fail_pending R.S], [.updated R.S (R.update .pause)]⟩ :
              Transaction G) := ⟨by simp [Write.updates], by simp [Statement.fails]⟩
          exact half_paused_advances hb (fun hs => hj ⟨hpaused, hs⟩)

end Recording

end GeoHazard.Sessions
