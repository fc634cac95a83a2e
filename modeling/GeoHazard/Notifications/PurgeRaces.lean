import GeoHazard.Notifications.SessionSerial

namespace GeoHazard.Sessions
open DeliveryRepo

variable {G : Type} {v : NotificationsDb G} {S : Nat} {cutoff : Timestamptz}

-- a pending delivery of S that is old enough for the purge, of an episode that is not
def Stranded (S : Nat) (cutoff : Timestamptz) (v : NotificationsDb G) : Prop :=
  ∃ d ∈ v.deliveries, is_pending_of S d = true ∧ outdated cutoff (dropped d) = true ∧
    ∀ e ∈ v.episodes, e.id = d.episode_id →
      outlived cutoff (fail_pending S v).deliveries e = false

-- an episode that only the pending deliveries of S keep from the purge
def Freed (S : Nat) (cutoff : Timestamptz) (v : NotificationsDb G) : Prop :=
  ∃ e ∈ v.episodes, outlived cutoff (fail_pending S v).deliveries e = true ∧
    outlived cutoff v.deliveries e = false

def deliveries_purged (cutoff : Timestamptz) (v : NotificationsDb G) : NotificationsDb G :=
  { v with deliveries := v.deliveries.filter (fun d => !outdated cutoff d) }

def episodes_purged (cutoff : Timestamptz) (v : NotificationsDb G) : NotificationsDb G :=
  { v with
    episodes := v.episodes.filter (fun e => !outlived cutoff v.deliveries e)
    deliveries := v.deliveries.filter (fun d =>
      !(v.episodes.filter (outlived cutoff v.deliveries)).any
        (fun e => decide (e.id = d.episode_id))) }

theorem pending_status {d : Delivery} (h : is_pending_of S d = true) : d.status = .pending := by
  simp only [is_pending_of, Bool.and_eq_true, beq_iff_eq] at h
  exact h.2

theorem outlived_failed {e : Episode} (h : outlived cutoff v.deliveries e = true) :
    outlived cutoff (fail_pending S v).deliveries e = true := by
  simp only [outlived, Bool.and_eq_true, Bool.not_eq_true', List.any_eq_false, fail_pending] at h ⊢
  refine ⟨h.1, fun d hd => ?_⟩
  obtain ⟨d₀, hd₀, rfl⟩ := Table.mem_update.mp hd
  have hnot := h.2 d₀ hd₀
  split
  · simp [dropped]
  · exact hnot

theorem freed_filter (h : ¬ Freed S cutoff v) :
    ∀ e ∈ v.episodes, outlived cutoff (fail_pending S v).deliveries e =
      outlived cutoff v.deliveries e := by
  intro e he
  cases ho : outlived cutoff v.deliveries e with
  | true => exact outlived_failed ho
  | false =>
      rw [Bool.eq_false_iff]
      exact fun hf => h ⟨e, he, hf, ho⟩

theorem purge_then_fail (h : ¬ Freed S cutoff v) : episodes_purged cutoff (fail_pending S v) =
    fail_pending S (episodes_purged cutoff v) := by
  have hsame := freed_filter h
  have hkept : v.episodes.filter (fun e => !outlived cutoff (fail_pending S v).deliveries e) =
      v.episodes.filter (fun e => !outlived cutoff v.deliveries e) :=
    List.filter_congr (fun e he => by rw [hsame e he])
  have hgone : v.episodes.filter (outlived cutoff (fail_pending S v).deliveries) =
      v.episodes.filter (outlived cutoff v.deliveries) :=
    List.filter_congr (fun e he => hsame e he)
  have hds : (Table.update (is_pending_of S) dropped v.deliveries).filter (fun d =>
      !(v.episodes.filter (outlived cutoff v.deliveries)).any
        (fun e => decide (e.id = d.episode_id))) =
      Table.update (is_pending_of S) dropped (v.deliveries.filter (fun d =>
        !(v.episodes.filter (outlived cutoff v.deliveries)).any
          (fun e => decide (e.id = d.episode_id)))) := by
    simp only [Table.update, List.filter_map]
    refine congrArg _ (List.filter_congr (fun d _ => ?_))
    simp only [Function.comp_apply]
    split <;> rfl
  have hgone' : (fail_pending S v).episodes.filter (outlived cutoff (fail_pending S v).deliveries) =
      v.episodes.filter (outlived cutoff v.deliveries) := hgone
  simp only [episodes_purged, hgone']
  exact congrArg₂ (fun episodes deliveries =>
    { v with episodes := episodes, deliveries := deliveries }) hkept hds

theorem purged_failed (S : Nat) (cutoff : Timestamptz) (ds : List Delivery) :
    (Table.update (is_pending_of S) dropped ds).filter (fun d => !outdated cutoff d) =
      (Table.update (is_pending_of S) dropped (ds.filter (fun d => !outdated cutoff d))).filter
        (fun d => !outdated cutoff d) := by
  simp only [Table.update, List.filter_map, List.filter_filter]
  refine congrArg _ (List.filter_congr (fun d _ => ?_))
  simp only [Function.comp_apply]
  by_cases hp : is_pending_of S d = true
  · simp [pending_not_outdated (pending_status hp)]
  · simp [hp]

theorem fail_then_purge (h : ¬ Stranded S cutoff (deliveries_purged cutoff v)) :
    episodes_purged cutoff (fail_pending S (deliveries_purged cutoff v)) =
      episodes_purged cutoff (deliveries_purged cutoff (fail_pending S v)) := by
  obtain ⟨ds, hds⟩ : ∃ ds, ds = (fail_pending S (deliveries_purged cutoff v)).deliveries := ⟨_, rfl⟩
  have hlater : (deliveries_purged cutoff (fail_pending S v)).deliveries =
      ds.filter (fun d => !outdated cutoff d) := by
    rw [hds]
    exact purged_failed S cutoff v.deliveries
  have hgone : ∀ e, outlived cutoff (deliveries_purged cutoff (fail_pending S v)).deliveries e =
      outlived cutoff ds e := fun e => by rw [hlater, outlived_purged]
  have hepisodes : (deliveries_purged cutoff (fail_pending S v)).episodes = v.episodes := rfl
  -- a delivery old enough for the purge goes with its episode
  have hcascade : ∀ d ∈ ds, outdated cutoff d = true →
      (v.episodes.filter (outlived cutoff ds)).any (fun e => decide (e.id = d.episode_id)) =
        true := by
    intro d hd ho
    rw [hds] at hd
    obtain ⟨d₀, hd₀, rfl⟩ := Table.mem_update.mp hd
    by_cases hp : is_pending_of S d₀ = true
    · rw [if_pos hp] at ho ⊢
      by_contra hnone
      rw [Bool.not_eq_true] at hnone
      refine h ⟨d₀, hd₀, hp, ho, fun e he heq => ?_⟩
      rw [← hds, Bool.eq_false_iff]
      intro hout
      simp only [List.any_eq_false, decide_eq_true_eq] at hnone
      exact hnone e (List.mem_filter.mpr ⟨he, hout⟩) heq
    · rw [if_neg hp] at ho
      have hkept := (List.mem_filter.mp hd₀).2
      simp [ho] at hkept
  have hdeliveries : ds.filter (fun d => !(v.episodes.filter (outlived cutoff ds)).any
      (fun e => decide (e.id = d.episode_id))) =
      (ds.filter (fun d => !outdated cutoff d)).filter (fun d =>
        !(v.episodes.filter (outlived cutoff ds)).any (fun e => decide (e.id = d.episode_id))) := by
    rw [List.filter_filter]
    refine List.filter_congr (fun d hd => ?_)
    cases ho : outdated cutoff d with
    | true => simp [hcascade d hd ho]
    | false => simp
  have hfilter : v.episodes.filter
      (outlived cutoff (deliveries_purged cutoff (fail_pending S v)).deliveries) =
      v.episodes.filter (outlived cutoff ds) := List.filter_congr (fun e _ => hgone e)
  have hkept : v.episodes.filter (fun e => !outlived cutoff ds e) = v.episodes.filter (fun e =>
      !outlived cutoff (deliveries_purged cutoff (fail_pending S v)).deliveries e) :=
    List.filter_congr (fun e _ => by rw [hgone e])
  have hrows : ds.filter (fun d => !(v.episodes.filter (outlived cutoff ds)).any
      (fun e => decide (e.id = d.episode_id))) =
      (episodes_purged cutoff (deliveries_purged cutoff (fail_pending S v))).deliveries := by
    simp only [episodes_purged, hepisodes, hfilter]
    rw [hlater, hdeliveries]
  subst hds
  exact congrArg₂ (fun episodes deliveries =>
    { v with episodes := episodes, deliveries := deliveries }) hkept hrows

end GeoHazard.Sessions
