import GeoHazard.Notifications.MatcherFrame

namespace GeoHazard.Matchers
open MatchBatchUseCase Sessions

variable {G : Type} {db dbs : NotificationsDb G} {n₀ : Nat} {f k : Nat → Nat}

theorem Indexed.update {p : Episode → Bool} {F : Episode → Episode} (h : Indexed db)
    (hid : ∀ e, (F e).id = e.id) (hslot : ∀ e, (F e).slot = e.slot)
    (hopen : ∀ e, (F e).closed_at = none → e.closed_at = none) :
    Indexed { db with episodes := Table.update p F db.episodes } := by
  have hrow : ∀ e ∈ Table.update p F db.episodes, ∃ o ∈ db.episodes, e.id = o.id ∧
      e.slot = o.slot ∧ (e.closed_at = none → o.closed_at = none) ∧
      e = if p o then F o else o := by
    intro e he
    obtain ⟨o, ho, rfl⟩ := Table.mem_update.mp he
    refine ⟨o, ho, ?_, ?_, ?_, rfl⟩
    · split
      · exact hid o
      · rfl
    · split
      · exact hslot o
      · rfl
    · split
      · exact hopen o
      · exact id
  refine ⟨Table.unique_update (fun e _ => hid e) h.episodes, ?_, h.deliveries, h.levels,
    fun d hd => ?_, fun e he => ?_, h.delivery_ids⟩
  · intro e he o ho hec hoc hs
    obtain ⟨e', he', -, hes, heo, rfl⟩ := hrow e he
    obtain ⟨o', ho', -, hos, hoo, rfl⟩ := hrow o ho
    rw [h.one_open e' he' o' ho' (heo hec) (hoo hoc) (hes.symm.trans (hs.trans hos))]
  · obtain ⟨e, he, hid'⟩ := h.owner d hd
    refine ⟨_, Table.mem_update.mpr ⟨e, he, rfl⟩, ?_⟩
    split
    · exact (hid e).trans hid'
    · exact hid'
  · obtain ⟨o, ho, hid', -⟩ := hrow e he
    exact hid' ▸ h.episode_ids o ho

theorem Indexed.opened {e : Episode} (h : Indexed db) (hnew : ∀ o ∈ db.episodes, o.id ≠ e.id)
    (hnone : NoneOpen e.slot db) (hlt : e.id < db.next_id) :
    Indexed { db with episodes := db.episodes ++ [e] } where
  episodes := Table.unique_concat h.episodes (Table.find_none.mpr hnew)
  one_open a hma o hmo hac hoc hs := by
    rcases List.mem_append.mp hma with ha | ha
    · rcases List.mem_append.mp hmo with ho | ho
      · exact h.one_open a ha o ho hac hoc hs
      · obtain rfl := List.mem_singleton.mp ho
        exact absurd hac (hnone a ha hs)
    · obtain rfl := List.mem_singleton.mp ha
      rcases List.mem_append.mp hmo with ho | ho
      · exact absurd hoc (hnone o ho hs.symm)
      · exact (List.mem_singleton.mp ho).symm
  deliveries := h.deliveries
  levels := h.levels
  owner d hd := by
    obtain ⟨o, ho, hid⟩ := h.owner d hd
    exact ⟨o, List.mem_append_left _ ho, hid⟩
  episode_ids o ho := by
    rcases List.mem_append.mp ho with ho | ho
    · exact h.episode_ids o ho
    · exact List.mem_singleton.mp ho ▸ hlt
  delivery_ids := h.delivery_ids

theorem Indexed.inserted {d : Delivery} (h : Indexed db) (hnew : ∀ o ∈ db.deliveries, o.id ≠ d.id)
    (hlevel : ¬ Notified d.episode_id d.severity db) {e : Episode} (he : e ∈ db.episodes)
    (howner : e.id = d.episode_id) (hlt : d.id < db.next_id) :
    Indexed { db with deliveries := db.deliveries ++ [d] } where
  episodes := h.episodes
  one_open := h.one_open
  deliveries := Table.unique_concat h.deliveries (Table.find_none.mpr hnew)
  levels a hma o hmo hid hsev := by
    rcases List.mem_append.mp hma with ha | ha
    · rcases List.mem_append.mp hmo with ho | ho
      · exact h.levels a ha o ho hid hsev
      · obtain rfl := List.mem_singleton.mp ho
        exact absurd ⟨a, ha, hid, hsev⟩ hlevel
    · obtain rfl := List.mem_singleton.mp ha
      rcases List.mem_append.mp hmo with ho | ho
      · exact absurd ⟨o, ho, hid.symm, hsev.symm⟩ hlevel
      · exact (List.mem_singleton.mp ho).symm
  owner o hmo := by
    rcases List.mem_append.mp hmo with ho | ho
    · exact h.owner o ho
    · obtain rfl := List.mem_singleton.mp ho
      exact ⟨e, he, howner⟩
  episode_ids := h.episode_ids
  delivery_ids o ho := by
    rcases List.mem_append.mp ho with ho | ho
    · exact h.delivery_ids o ho
    · exact List.mem_singleton.mp ho ▸ hlt

theorem Indexed.drawn (h : Indexed db) (n : Nat) : Indexed { db with next_id := db.next_id + n } :=
  { h with
    episode_ids := fun e he => Nat.lt_add_right n (h.episode_ids e he)
    delivery_ids := fun d hd => Nat.lt_add_right n (h.delivery_ids d hd) }

def renamed_episode (f : Nat → Nat) (e : Episode) : Episode := { e with id := f e.id }

def renamed_open (f : Nat → Nat) (c : OpenEpisode) : OpenEpisode := { c with id := f c.id }

def renamed_delivery (f k : Nat → Nat) (d : Delivery) : Delivery :=
  { d with id := k d.id, episode_id := f d.episode_id }

-- the rows of the one are those of the other, but for the ids drawn from n₀ on
structure Renamed (n₀ : Nat) (f k : Nat → Nat) (db dbs : NotificationsDb G) : Prop where
  fixed : ∀ n < n₀, f n = n ∧ k n = n
  episode_ids : ∀ e ∈ db.episodes, ∀ o ∈ db.episodes, f e.id = f o.id → e.id = o.id
  delivery_ids : ∀ d ∈ db.deliveries, ∀ o ∈ db.deliveries, k d.id = k o.id → d.id = o.id
  episodes : dbs.episodes = db.episodes.map (renamed_episode f)
  deliveries : dbs.deliveries = db.deliveries.map (renamed_delivery f k)
  subscriptions : dbs.subscriptions = db.subscriptions
  watch_areas : dbs.watch_areas = db.watch_areas

def SameUpToIds (n₀ : Nat) (db dbs : NotificationsDb G) : Prop := ∃ f k, Renamed n₀ f k db dbs

structure Simulated (n₀ : Nat) (f k : Nat → Nat) (db dbs : NotificationsDb G) : Prop
    extends Renamed n₀ f k db dbs where
  episodes_below : ∀ e ∈ db.episodes, f e.id < dbs.next_id
  deliveries_below : ∀ d ∈ db.deliveries, k d.id < dbs.next_id

theorem Simulated.update {p q : Episode → Bool} {F : Episode → Episode}
    (h : Simulated n₀ f k db dbs) (hq : ∀ e ∈ db.episodes, q (renamed_episode f e) = p e)
    (hF : ∀ e, F (renamed_episode f e) = renamed_episode f (F e)) (hid : ∀ e, (F e).id = e.id) :
    Simulated n₀ f k { db with episodes := Table.update p F db.episodes }
      { dbs with episodes := Table.update q F dbs.episodes } := by
  have hrow : ∀ e ∈ Table.update p F db.episodes, ∃ o ∈ db.episodes, e.id = o.id := by
    intro e he
    obtain ⟨o, ho, rfl⟩ := Table.mem_update.mp he
    refine ⟨o, ho, ?_⟩
    split
    · exact hid o
    · rfl
  refine { h with
    episode_ids := fun e he o ho heq => ?_
    episodes := ?_
    episodes_below := fun e he => ?_ }
  · obtain ⟨e', he', hee⟩ := hrow e he
    obtain ⟨o', ho', hoo⟩ := hrow o ho
    rw [hee, hoo] at heq ⊢
    exact h.episode_ids e' he' o' ho' heq
  · rw [h.episodes]
    simp only [Table.update, List.map_map]
    refine List.map_congr_left (fun e he => ?_)
    simp only [Function.comp_apply, hq e he, hF]
    split <;> rfl
  · obtain ⟨o, ho, heo⟩ := hrow e he
    exact heo ▸ h.episodes_below o ho

theorem Simulated.opened (h : Simulated n₀ f k db dbs) (hd : Indexed db) {id : Nat}
    (hnew : ∀ o ∈ db.episodes, o.id ≠ id) (hn : n₀ ≤ id) (slot : Nat × String) (severity : Nat)
    (expires_at : Option Timestamptz) (at_ : Timestamptz) :
    Simulated n₀ (Function.update f id dbs.next_id) k
      { db with
        episodes := db.episodes ++ [EpisodeRepo.opened slot severity expires_at at_ id] }
      { dbs with
        episodes := dbs.episodes ++ [EpisodeRepo.opened slot severity expires_at at_ dbs.next_id]
        next_id := dbs.next_id + 1 } := by
  have hold : ∀ e ∈ db.episodes, Function.update f id dbs.next_id e.id = f e.id := fun e he =>
    Function.update_of_ne (hnew e he) _ _
  have hself : Function.update f id dbs.next_id id = dbs.next_id := Function.update_self _ _ _
  refine { h with
    fixed := fun n hlt => ?_
    episode_ids := fun e he o ho heq => ?_
    episodes := ?_
    deliveries := ?_
    episodes_below := fun e he => ?_
    deliveries_below := fun d hd' => Nat.lt_succ_of_lt (h.deliveries_below d hd') }
  · rw [Function.update_of_ne (Nat.ne_of_lt (lt_of_lt_of_le hlt hn))]
    exact h.fixed n hlt
  · rcases List.mem_append.mp he with he | he
    · rcases List.mem_append.mp ho with ho | ho
      · rw [hold e he, hold o ho] at heq
        exact h.episode_ids e he o ho heq
      · obtain rfl := List.mem_singleton.mp ho
        rw [hold e he] at heq
        exact absurd (heq.trans hself) (Nat.ne_of_lt (h.episodes_below e he))
    · obtain rfl := List.mem_singleton.mp he
      rcases List.mem_append.mp ho with ho | ho
      · rw [hold o ho] at heq
        exact absurd (heq.symm.trans hself) (Nat.ne_of_lt (h.episodes_below o ho))
      · exact (List.mem_singleton.mp ho).symm ▸ rfl
  · have hrows : dbs.episodes =
        db.episodes.map (renamed_episode (Function.update f id dbs.next_id)) :=
      h.episodes.trans (List.map_congr_left (fun e he => by rw [renamed_episode, ← hold e he]; rfl))
    simp [← hrows, renamed_episode, EpisodeRepo.opened]
  · rw [h.deliveries]
    refine List.map_congr_left (fun d hd' => ?_)
    obtain ⟨e, he, hid⟩ := hd.owner d hd'
    simp only [renamed_delivery, ← hid, hold e he]
  · rcases List.mem_append.mp he with he | he
    · exact (hold e he).symm ▸ Nat.lt_succ_of_lt (h.episodes_below e he)
    · obtain rfl := List.mem_singleton.mp he
      exact lt_of_eq_of_lt hself (Nat.lt_succ_self _)

theorem Simulated.inserted (h : Simulated n₀ f k db dbs) {id : Nat}
    (hnew : ∀ o ∈ db.deliveries, o.id ≠ id) (hn : n₀ ≤ id) (gis : Gis G) (slot : Nat × String)
    (episode_id : Nat) (reason : Reason) (g : Group) (now : Timestamptz) :
    Simulated n₀ f (Function.update k id dbs.next_id)
      { db with
        deliveries := db.deliveries ++ [delivered gis slot episode_id reason g now id] }
      { dbs with
        deliveries := dbs.deliveries ++
          [delivered gis slot (f episode_id) reason g now dbs.next_id]
        next_id := dbs.next_id + 1 } := by
  have hold : ∀ d ∈ db.deliveries, Function.update k id dbs.next_id d.id = k d.id := fun d hd =>
    Function.update_of_ne (hnew d hd) _ _
  have hself : Function.update k id dbs.next_id id = dbs.next_id := Function.update_self _ _ _
  refine { h with
    fixed := fun n hlt => ?_
    delivery_ids := fun d hd o ho heq => ?_
    deliveries := ?_
    episodes_below := fun e he => Nat.lt_succ_of_lt (h.episodes_below e he)
    deliveries_below := fun d hd => ?_ }
  · rw [Function.update_of_ne (Nat.ne_of_lt (lt_of_lt_of_le hlt hn))]
    exact h.fixed n hlt
  · rcases List.mem_append.mp hd with hd | hd
    · rcases List.mem_append.mp ho with ho | ho
      · rw [hold d hd, hold o ho] at heq
        exact h.delivery_ids d hd o ho heq
      · obtain rfl := List.mem_singleton.mp ho
        rw [hold d hd] at heq
        exact absurd (heq.trans hself) (Nat.ne_of_lt (h.deliveries_below d hd))
    · obtain rfl := List.mem_singleton.mp hd
      rcases List.mem_append.mp ho with ho | ho
      · rw [hold o ho] at heq
        exact absurd (heq.symm.trans hself) (Nat.ne_of_lt (h.deliveries_below o ho))
      · exact (List.mem_singleton.mp ho).symm ▸ rfl
  · have hrows : dbs.deliveries =
        db.deliveries.map (renamed_delivery f (Function.update k id dbs.next_id)) :=
      h.deliveries.trans
        (List.map_congr_left (fun d hd => by rw [renamed_delivery, ← hold d hd]; rfl))
    simp [← hrows, renamed_delivery, delivered, EpisodeRepo.delivery]
  · rcases List.mem_append.mp hd with hd | hd
    · exact (hold d hd).symm ▸ Nat.lt_succ_of_lt (h.deliveries_below d hd)
    · obtain rfl := List.mem_singleton.mp hd
      exact lt_of_eq_of_lt hself (Nat.lt_succ_self _)

end GeoHazard.Matchers
