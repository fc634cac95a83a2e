import GeoHazard.Notifications.DeliveryLifeCycle
import GeoHazard.Notifications.OperatorDeadlock
import GeoHazard.Notifications.PauseRace

namespace GeoHazard.Sessions
open ReadCommitted DeliveryRepo DeliverNotificationsUseCase SubscriptionAdmin Transition

variable {G : Type}

namespace Recording

variable {R : Recording G} {op : Operator} {x x' y y' : Transaction G}

theorem command_program (R : Recording G) (op : Operator) :
    (op.command R.S : Command G).program R.settings = [op.read R.S] := by
  cases op <;> rfl

theorem left_next_inv {a : Move (Command G)} (ha : a = .next 0)
    (h : R.engine.Step (pair R.db x y) a (pair R.db x' y)) :
    ∃ p todo writes ws ps, x = ⟨p :: todo, writes⟩ ∧
      R.engine.perform p (view R.db writes) = .ok (ws, ps) ∧ x' = ⟨ps ++ todo, writes ++ ws⟩ := by
  rcases Step.cases h with ⟨_, _, rfl, _⟩ | ⟨i, p, todo, writes, ws, ps, rfl, hi, hp, _, ht⟩ |
    ⟨_, _, rfl, _⟩ | ⟨_, _, rfl, _⟩
  · simp at ha
  · obtain rfl := Move.next.inj ha
    rcases get_pair hi with ⟨_, rfl⟩ | ⟨h01, _⟩
    · refine ⟨p, todo, writes, ws, ps, rfl, hp, ?_⟩
      have hsessions := congrArg Shared.sessions ht
      simp only [pair, Dict.set, if_true, List.cons.injEq, Prod.mk.injEq, true_and] at hsessions
      exact hsessions.1
    · simp at h01
  · simp at ha
  · simp at ha

theorem right_next_inv {a : Move (Command G)} (ha : a = .next 1)
    (h : R.engine.Step (pair R.db x y) a (pair R.db x y')) :
    ∃ p todo writes ws ps, y = ⟨p :: todo, writes⟩ ∧
      R.engine.perform p (view R.db writes) = .ok (ws, ps) ∧ y' = ⟨ps ++ todo, writes ++ ws⟩ := by
  rcases Step.cases h with ⟨_, _, rfl, _⟩ | ⟨i, p, todo, writes, ws, ps, rfl, hi, hp, _, ht⟩ |
    ⟨_, _, rfl, _⟩ | ⟨_, _, rfl, _⟩
  · simp at ha
  · obtain rfl := Move.next.inj ha
    rcases get_pair hi with ⟨h10, _⟩ | ⟨_, rfl⟩
    · simp at h10
    · refine ⟨p, todo, writes, ws, ps, rfl, hp, ?_⟩
      have hsessions := congrArg Shared.sessions ht
      simpa [pair, Dict.set] using hsessions
  · simp at ha
  · simp at ha

theorem duel (R : Recording G) (op : Operator) :
    Duel R.engine Statement.recording (R.Uncrossed op)
      (fun x y => ¬ (HalfPaused R.S y ∧ HalfSent R.S R.T x)) (R.InTurn op) R.db R.program
      [op.read R.S] where
  drawless := drawless
  left := R.program_recording
  right p hp := by
    obtain rfl := List.mem_singleton.mp hp
    cases op <;> trivial
  draw_apply := draw_apply
  moves s a hc := by
    cases a with
    | start _ _ => exact hc.elim
    | next _ => trivial
    | commit _ => trivial
    | abort _ => exact hc.elim
  start h := by simp [HalfPaused] at h
  left_next x y x' hb hj hc hs := by
    obtain ⟨p, todo, writes, ws, ps, rfl, hp, rfl⟩ := left_next_inv rfl hs
    rintro ⟨hpaused, hsent⟩
    have hr := hb.left.drawless drawless R.program_recording p List.mem_cons_self
    refine half_sent_step (at_of_trace hb.left) hr hp ?_ (fun h => hj ⟨hpaused, h⟩) hsent
    rw [← Bool.not_eq_true]
    simp only [Uncrossed] at hc
    exact fun hm => facing_pair hc (by simpa using hm) hpaused
  right_next x y y' hb hj hc hs := by
    obtain ⟨p, todo, writes, ws, ps, rfl, hp, rfl⟩ := right_next_inv rfl hs
    rintro ⟨hpaused, hsent⟩
    obtain ⟨hupdate, hfail⟩ := half_paused_step (operated_of_trace hb.right) hp hpaused
    simp only [Uncrossed] at hc
    exact facing_pair hc (by simpa using hupdate) hfail hsent
  left_commit x y hb hx hc := by
    obtain ⟨todo, writes⟩ := x
    obtain rfl : todo = [] := hx
    simp only [Uncrossed] at hc
    exact left_commit hb (facing_pair hc)
  right_commit x y hb hy hc := by
    obtain ⟨todo, writes⟩ := y
    obtain rfl : todo = [] := hy
    simp only [Uncrossed] at hc
    obtain ⟨hresume, hpause⟩ := facing_pair hc
    exact right_commit hb hresume hpause
  progress x y hb hj := progress hb hj

theorem record_outcome_weight (now : Timestamptz) (o : Outcome) :
    Dict.total Statement.weight (record_outcome (G := G) now o) ≤ 3 := by
  unfold record_outcome
  split
  · simp [Statement.weight]
  · split <;> simp [Statement.weight]

theorem outcomes_weight (now : Timestamptz) (outcomes : List Outcome) :
    Dict.total Statement.weight (outcomes.flatMap (record_outcome (G := G) now)) ≤
      3 * outcomes.length := by
  induction outcomes with
  | nil => simp
  | cons o outcomes ih =>
      have hone := record_outcome_weight (G := G) now o
      simp only [List.flatMap_cons, Dict.total_append, List.length_cons]
      omega

theorem opening_eq (R : Recording G) (op : Operator) :
    R.opening op = pair R.db ⟨R.program, []⟩ ⟨[op.read R.S], []⟩ := by
  rw [opening, command_program]

theorem opening_weight (R : Recording G) (op : Operator) :
    (R.opening op).weight Statement.weight ≤ 3 * R.outcomes.length + 7 := by
  have hall := outcomes_weight (G := G) R.now R.outcomes
  have hread : Statement.weight (op.read R.S : Statement G) = 3 := by cases op <;> rfl
  rw [opening_eq]
  simp only [pair, Shared.weight, Dict.values, program, Command.program, List.map_cons,
    List.map_nil, Dict.total_append, Dict.total_cons, Dict.total_nil, hread]
  simp only [Statement.weight]
  omega

theorem opening_within (R : Recording G) (op : Operator) :
    (R.opening op).Within Statement.recording := by
  intro q hq p hp
  rw [opening_eq] at hq
  simp only [pair, List.mem_cons, List.not_mem_nil, or_false] at hq
  rcases hq with rfl | rfl
  · exact R.program_recording p hp
  · exact (duel R op).right p hp

theorem commands_serialize {as : List (Move (Command G))}
    {s : Shared (NotificationsDb G) (Write G) (Statement G)}
    (h : Run (Guarded (R.Uncrossed op) R.engine.Step) (R.opening op) as s) :
    (s.sessions ≠ [] → ∃ a t, a.Advances ∧ R.engine.Step s a t) ∧
      as.length ≤ 3 * R.outcomes.length + 7 ∧ (s.sessions = [] → R.InTurn op s.db) := by
  have hduel := duel R op
  obtain ⟨hgo, hend⟩ := hduel.outcome (opening_eq R op ▸ h)
  have hlen := recording_shrinks.run hduel.moves h (R.opening_within op)
  have hweight := R.opening_weight op
  exact ⟨hgo, by omega, hend⟩

section Decide

instance (s : Shared (NotificationsDb G) (Write G) (Statement G))
    (P : Transaction G → Transaction G → Prop) [∀ x y, Decidable (P x y)] : Decidable (Facing s P) :=
  inferInstanceAs (Decidable (∀ x ∈ s.sessions, x.1 = 0 → ∀ y ∈ s.sessions, y.1 = 1 → P x.2 y.2))

instance (S : Nat) (y : Transaction G) : Decidable (HalfPaused S y) :=
  inferInstanceAs (Decidable (_ ∧ _))

instance (S : Nat) (T : List Nat) (x : Transaction G) : Decidable (HalfSent S T x) :=
  inferInstanceAs (Decidable (_ ∧ _))

instance (S : Nat) (cutoff : Timestamptz) (v : NotificationsDb G) : Decidable (Stranded S cutoff v) :=
  inferInstanceAs (Decidable (∃ d ∈ v.deliveries, is_pending_of S d = true ∧
    outdated cutoff (dropped d) = true ∧ ∀ e ∈ v.episodes, e.id = d.episode_id →
      outlived cutoff (fail_pending S v).deliveries e = false))

instance (S : Nat) (cutoff : Timestamptz) (v : NotificationsDb G) : Decidable (Freed S cutoff v) :=
  inferInstanceAs (Decidable (∃ e ∈ v.episodes,
    outlived cutoff (fail_pending S v).deliveries e = true ∧ outlived cutoff v.deliveries e = false))

instance (r : Subscription) : Decidable (R.GivesUp r) := inferInstanceAs (Decidable (_ ∧ _))

instance (r : Subscription) : Decidable (R.Cleared r) :=
  decidable_of_iff (r.consecutive_failures = 0 ∧ r.failing_since = none ∧
      (R.effect r).last_error ≠ r.last_error ∧
      (R.GivesUp r → r.status = .active ∧ (R.effect r).paused_reason ≠ r.paused_reason))
    ⟨fun ⟨hc, hf, hl, hg⟩ => ⟨hc, hf, hl, hg⟩, fun ⟨hc, hf, hl, hg⟩ => ⟨hc, hf, hl, hg⟩⟩

instance (r : Subscription) : Decidable (R.Streak r) :=
  decidable_of_iff (r.consecutive_failures ≠ 0 ∧ r.failing_since ≠ none ∧ r.last_error ≠ none ∧
      (R.GivesUp r → r.status = .paused ∧ r.paused_reason ≠ none))
    ⟨fun ⟨hc, hf, hl, hg⟩ => ⟨hc, hf, hl, hg⟩, fun ⟨hc, hf, hl, hg⟩ => ⟨hc, hf, hl, hg⟩⟩

instance (r : Subscription) : Decidable (R.Clean r) :=
  decidable_of_iff (r.consecutive_failures = 0 ∧ r.failing_since = none ∧ r.last_error = none ∧
      (R.GivesUp r → r.status = .active ∧ r.paused_reason = none))
    ⟨fun ⟨hc, hf, hl, hg⟩ => ⟨hc, hf, hl, hg⟩, fun ⟨hc, hf, hl, hg⟩ => ⟨hc, hf, hl, hg⟩⟩

instance (s : Shared (NotificationsDb G) (Write G) (Statement G)) :
    ∀ a : Move (Command G), Decidable (R.Uncrossed op s a)
  | .next 0 => inferInstanceAs (Decidable (Facing s (fun x y =>
      x.todo.head?.any (Statement.marks R.T) = true → ¬ HalfPaused R.S y)))
  | .next 1 => inferInstanceAs (Decidable (Facing s (fun x y =>
      y.todo.head?.any (Statement.updates R.S) = true →
        y.todo.any (Statement.fails R.S) = true → ¬ HalfSent R.S R.T x)))
  | .commit 0 => inferInstanceAs (Decidable (Facing s (fun _ y => op = .resume →
      R.outcome.message_id = none → y.todo.any (Statement.updates R.S) = true →
        R.Clean R.row ∨ R.Streak R.row)))
  | .commit 1 => inferInstanceAs (Decidable (Facing s (fun x y =>
      (op = .resume → R.outcome.message_id = none → x.todo.any (Statement.updates R.S) = true →
        y.writes.any (Write.updates R.S) = true → R.Cleared R.row) ∧
      (op = .pause → x.todo.head?.any Statement.purges_episodes = true →
        ¬ (Stranded R.S R.cutoff (view s.db x.writes) ∧
          Freed R.S R.cutoff (view s.db x.writes))))))
  | .next (_ + 2) | .commit (_ + 2) => .isTrue trivial
  | .start _ _ | .abort _ => .isFalse id

end Decide

-- what a run of moves comes to
def ended (R : Recording Ring) (op : Operator) (as : List (Move (Command Ring))) :
    Shared (NotificationsDb Ring) (Write Ring) (Statement Ring) :=
  (R.engine.run (fun _ _ => True) (R.opening op) as).getD (R.opening op)

theorem ended_run {R : Recording Ring} {op : Operator} {as : List (Move (Command Ring))}
    (h : (R.engine.run (R.Uncrossed op) (R.opening op) as).isSome = true) :
    Run (Guarded (R.Uncrossed op) R.engine.Step) (R.opening op) as
      ((R.engine.run (R.Uncrossed op) (R.opening op) as).getD (R.opening op)) := by
  obtain ⟨s, hs⟩ := Option.isSome_iff_exists.mp h
  rw [hs]
  exact run_sound hs

theorem free_run {R : Recording Ring} {op : Operator} {as : List (Move (Command Ring))}
    (h : (R.engine.run (fun _ _ => True) (R.opening op) as).isSome = true) :
    Run R.engine.Step (R.opening op) as (R.ended op as) := by
  obtain ⟨s, hs⟩ := Option.isSome_iff_exists.mp h
  have hrun : Run (Guarded (fun _ _ => True) R.engine.Step) (R.opening op) as s := run_sound hs
  rw [ended, hs]
  exact hrun.mono (fun _ _ _ hg => hg.2)

-- a subscription that has been failing for a day, with one delivery to send
def failing_subscription : Subscription :=
  { subscription with
    consecutive_failures := 3
    failing_since := some (july 2 10).instant
    last_error := some "HTTP 503" }

def due_delivery : Delivery where
  id := 3
  subscription_id := 1
  episode_id := 2
  severity := 2
  reason := .opened
  items := []
  item_count := 1
  status := .pending
  attempts := 4
  message_id := none
  created_at := (july 2 10).instant
  sent_at := none

def due_db : NotificationsDb Ring :=
  ⟨[failing_subscription], [watched_area],
    [⟨2, 1, "aemet", 2, none, (july 2 10).instant, (july 2 10).instant, none⟩], [due_delivery], 4⟩

def due_claim : ClaimedSubscription :=
  ⟨1, .ntfy, "https://ntfy.sh", "topic", [.weather_warning], 0, "Vega", none,
    [due_delivery.to_pending]⟩

def recording (message_id : Option Nat) (error : Option String) : Recording Ring where
  gis := planar_gis
  match_settings := default_settings
  settings := default_deliver
  db := due_db
  before := []
  outcome := ⟨due_claim, message_id, error, false⟩
  after := []
  now := (july 3 12).instant
  row := failing_subscription
  keyed := ⟨by simp [Table.Unique, due_db], by simp [Table.Unique, due_db],
    by simp [Table.Unique, due_db]⟩
  found := rfl
  attempted := rfl
  others := by simp
  deliveries := by simp

def accepted : Recording Ring := recording (some 7) none

def rejected : Recording Ring := recording none (some "HTTP 503")

-- the resume comes between the two UPDATEs of mark_sent
def one_resume : List (Move (Command Ring)) :=
  [.next 0, .next 1, .next 1, .commit 1, .next 0, .next 0, .next 0, .commit 0]

theorem commands_serialize_sent :
    ∃ s, Run (Guarded (accepted.Uncrossed .resume) accepted.engine.Step) (accepted.opening .resume)
      one_resume s ∧ s.sessions = [] ∧ accepted.InTurn .resume s.db := by
  have hrun := @ended_run accepted .resume one_resume (by decide +kernel)
  have hquiet : ((accepted.engine.run (accepted.Uncrossed .resume) (accepted.opening .resume)
      one_resume).getD (accepted.opening .resume)).sessions.isEmpty = true := by decide +kernel
  have hnone := List.isEmpty_iff.mp hquiet
  exact ⟨_, hrun, hnone, (commands_serialize hrun).2.2 hnone⟩

-- mark_sent holds the delivery and wants the row, pause holds the row and wants the delivery
def half_each : List (Move (Command Ring)) := [.next 0, .next 1, .next 1]

-- mark_failed has read the row before the resume, and writes it after
def late_resume : List (Move (Command Ring)) :=
  [.next 0, .next 1, .next 1, .commit 1, .next 0, .next 0, .next 0, .next 0, .commit 0]

theorem crossed_commands :
    (∃ s, Run accepted.engine.Step (accepted.opening .pause) half_each s ∧ s.sessions ≠ [] ∧
      ∀ a t, a.Advances → ¬ accepted.engine.Step s a t) ∧
    ∃ s, Run rejected.engine.Step (rejected.opening .resume) late_resume s ∧ s.sessions = [] ∧
      (∃ r ∈ s.db.subscriptions, r.status = .paused) ∧ (∃ d ∈ s.db.deliveries, d.status = .failed) ∧
      ¬ rejected.InTurn .resume s.db := by
  refine ⟨⟨ended accepted .pause half_each, free_run (by decide +kernel), ?_,
    blocked (by decide +kernel)⟩, ⟨ended rejected .resume late_resume, free_run (by decide +kernel),
    ?_, by decide +kernel, by decide +kernel, ?_⟩⟩
  · have hopen : (ended accepted .pause half_each).sessions.isEmpty = false := by decide +kernel
    exact List.isEmpty_eq_false_iff.mp hopen
  · have hquiet : (ended rejected .resume late_resume).sessions.isEmpty = true := by decide +kernel
    exact List.isEmpty_iff.mp hquiet
  · have hpaused : (ended rejected .resume late_resume).db.subscriptions.all
        (fun r => r.status == .active) = false := by decide +kernel
    rintro (⟨d, hd, heq⟩ | hd)
    · have hactive : ((Operator.resume.command rejected.S).execute rejected.gis
          rejected.match_settings rejected.settings rejected.db).toOption.all
          (fun d => (rejected.finish d).subscriptions.all (fun r => r.status == .active)) = true := by
        decide +kernel
      rw [hd] at hactive
      rw [heq] at hpaused
      exact absurd (hactive.symm.trans hpaused) (by decide)
    · have hactive : ((Operator.resume.command rejected.S).execute rejected.gis
          rejected.match_settings rejected.settings (rejected.finish rejected.db)).toOption.all
          (fun d => d.subscriptions.all (fun r => r.status == .active)) = true := by
        decide +kernel
      rw [hd] at hactive
      exact absurd (hactive.symm.trans hpaused) (by decide)

end Recording

end GeoHazard.Sessions
