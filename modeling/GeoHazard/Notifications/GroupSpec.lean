import GeoHazard.Notifications.MatchBatch

namespace GeoHazard.MatchBatchUseCase

variable {G : Type} {gis : Gis G} {settings : MatchSettings} {source : Source}
  {batch_at : Timestamptz}

structure MatchOk (source : Source) (batch_at : Timestamptz) (m : Match) : Prop where
  src : m.source = source
  ends_at : source = .aemet → ∃ ends_at, m.ends_at = some ends_at ∧ batch_at < ends_at

-- what holds of a group while it grows, the empty one included
structure Partial (gis : Gis G) (source : Source) (batch_at : Timestamptz) (slot : Nat × String)
    (g : Group) : Prop where
  severity : g.severity ≤ 4
  later : ∀ x, g.expires_at = some x → batch_at < x
  expires : source ≠ .aemet → g.expires_at = none
  members : ∀ m ∈ g.matches_, slot_of gis m = slot

structure GroupOk (gis : Gis G) (source : Source) (batch_at : Timestamptz) (slot : Nat × String)
    (g : Group) : Prop extends Partial gis source batch_at slot g where
  key : is_aemet_key slot.2 = decide (source = .aemet)
  positive : 1 ≤ g.severity
  aemet : source = .aemet → g.expires_at ≠ none

theorem partial_empty (slot : Nat × String) : Partial gis source batch_at slot ⟨0, none, []⟩ :=
  ⟨by simp, by simp, by simp, by simp⟩

theorem grown_ok {g : Group} {m : Match} (hm : MatchOk source batch_at m)
    (hg : Partial gis source batch_at (slot_of gis m) g) :
    GroupOk gis source batch_at (slot_of gis m) (grown g m) := by
  have hsev := m.severity.property
  have hkey : is_aemet_key (slot_of gis m).2 = decide (source = .aemet) := by
    rw [slot_of, is_aemet_key_episode_key, hm.src]
  refine ⟨⟨?_, ?_, ?_, ?_⟩, hkey, ?_, ?_⟩
  · have := hg.severity
    simp only [grown]
    omega
  · intro x hx
    cases hs : source with
    | aemet =>
        obtain ⟨ends_at, he, hlt⟩ := hm.ends_at hs
        simp only [grown, hm.src, hs, he, Option.some.injEq] at hx
        exact hx ▸ lt_of_lt_of_le hlt (le_max_right _ _)
    | effis =>
        simp only [grown, hm.src, hs] at hx
        exact hg.later x hx
    | ign =>
        simp only [grown, hm.src, hs] at hx
        exact hg.later x hx
  · intro hne
    have hold := hg.expires hne
    cases hs : source <;> simp_all [grown, hm.src]
  · intro m' hm'
    rcases List.mem_append.mp hm' with hm' | hm'
    · exact hg.members m' hm'
    · rw [List.mem_singleton.mp hm']
  · simp only [grown]
    omega
  · intro hs
    obtain ⟨ends_at, he, _⟩ := hm.ends_at hs
    simp [grown, hm.src, hs, he]

def GroupsOk (gis : Gis G) (source : Source) (batch_at : Timestamptz) (groups : Groups) : Prop :=
  (Dict.keys groups).Nodup ∧ ∀ slot g, Dict.get slot groups = some g →
    GroupOk gis source batch_at slot g

theorem add_match_ok {groups : Groups} {m : Match} (hm : MatchOk source batch_at m)
    (h : GroupsOk gis source batch_at groups) :
    GroupsOk gis source batch_at (add_match gis groups m) := by
  refine ⟨Dict.nodup_keys_set h.1, fun slot g hg => ?_⟩
  rw [add_match, Dict.get_set] at hg
  split at hg
  · next hslot =>
      rw [← hslot, ← Option.some.inj hg]
      refine grown_ok hm ?_
      cases hold : Dict.get (slot_of gis m) groups with
      | none => exact partial_empty _
      | some g' => exact (h.2 _ g' hold).toPartial
  · exact h.2 slot g hg

theorem group_ok {ms : List Match} (h : ∀ m ∈ ms, MatchOk source batch_at m) :
    GroupsOk gis source batch_at (group gis ms) := by
  have hfold : ∀ (groups : Groups), GroupsOk gis source batch_at groups →
      GroupsOk gis source batch_at (ms.foldl (add_match gis) groups) := by
    induction ms with
    | nil => exact fun _ hg => hg
    | cons m ms ih =>
        exact fun groups hg => ih (fun m' hm' => h m' (by simp [hm'])) _
          (add_match_ok (h m (by simp)) hg)
  exact hfold [] ⟨List.nodup_nil, by simp⟩

theorem mem_matches_of_group {m : Match} {slot : Nat × String} {g : Group} {ms : List Match}
    (hg : Dict.get slot (group gis ms) = some g) (hm : m ∈ g.matches_) : m ∈ ms := by
  have hfold : ∀ (groups : Groups), (∀ g', Dict.get slot (ms.foldl (add_match gis) groups) = some g' →
      ∀ m ∈ g'.matches_, m ∈ ms ∨ ∃ g₀, Dict.get slot groups = some g₀ ∧ m ∈ g₀.matches_) := by
    clear hg hm
    induction ms with
    | nil => exact fun groups g' hg' m hm => .inr ⟨g', hg', hm⟩
    | cons m₀ ms ih =>
        intro groups g' hg' m hm
        rcases ih (add_match gis groups m₀) g' hg' m hm with hms | ⟨g₀, hg₀, hm₀⟩
        · exact .inl (List.mem_cons_of_mem _ hms)
        · rw [add_match, Dict.get_set] at hg₀
          split at hg₀
          · next hslot =>
              rw [← Option.some.inj hg₀] at hm₀
              rcases List.mem_append.mp hm₀ with hm₀ | hm₀
              · cases hold : Dict.get (slot_of gis m₀) groups with
                | none => simp [hold] at hm₀
                | some g₁ => exact .inr ⟨g₁, hslot ▸ hold, by simpa [hold] using hm₀⟩
              · exact .inl (by simp [List.mem_singleton.mp hm₀])
          · exact .inr ⟨g₀, hg₀, hm₀⟩
  rcases hfold [] g hg m hm with hms | ⟨g₀, hg₀, _⟩
  · exact hms
  · simp at hg₀

theorem match_ok {quake_max_age : Nat} {events : List (HazardEvent G)} {db : NotificationsDb G}
    {m : Match} (h : m ∈ MatchingRepo.matches_ gis source batch_at quake_max_age events db) :
    MatchOk source batch_at m := by
  obtain ⟨s, _, area, _, e, _, hj, rfl⟩ := (MatchingRepo.mem_matches gis).mp h
  simp only [MatchingRepo.joined, Bool.and_eq_true, decide_eq_true_eq] at hj
  obtain ⟨⟨⟨_, hsrc⟩, _⟩, hnot⟩ := hj.1
  refine ⟨hsrc, fun hs => ?_⟩
  subst hs
  simp only [MatchingRepo.notifiable] at hnot
  cases hx : e.ends_at with
  | none => simp [hx] at hnot
  | some ends_at => exact ⟨ends_at, hx, by simpa [hx] using hnot⟩

theorem groups_of_ok (source : Source) (batch_at : Timestamptz) (events : List (HazardEvent G))
    (db : NotificationsDb G) :
    GroupsOk gis source batch_at (groups_of gis settings source batch_at events db) := by
  unfold groups_of
  split
  · exact group_ok (fun m hm => match_ok hm)
  · exact ⟨List.nodup_nil, by simp⟩

end GeoHazard.MatchBatchUseCase
