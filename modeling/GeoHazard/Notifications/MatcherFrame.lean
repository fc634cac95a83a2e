import GeoHazard.Notifications.Matchers

namespace GeoHazard.Matchers
open MatchBatchUseCase Sessions ReadCommitted

variable {G : Type} {db : NotificationsDb G} {ws : List (Write G)}

def Live (slot : Nat × String) (db : NotificationsDb G) (cur : OpenEpisode) : Prop :=
  ∃ e ∈ db.episodes, e.closed_at = none ∧ e.slot = slot ∧ e.to_open = cur

def NoneOpen (slot : Nat × String) (db : NotificationsDb G) : Prop :=
  ∀ e ∈ db.episodes, e.slot = slot → e.closed_at ≠ none

def Notified (episode_id severity : Nat) (db : NotificationsDb G) : Prop :=
  ∃ d ∈ db.deliveries, d.episode_id = episode_id ∧ d.severity = severity

-- the keys and the unique indexes of the two tables
structure Indexed (db : NotificationsDb G) : Prop where
  episodes : Table.Unique Episode.id db.episodes
  one_open : ∀ e ∈ db.episodes, ∀ o ∈ db.episodes, e.closed_at = none → o.closed_at = none →
    e.slot = o.slot → e = o
  deliveries : Table.Unique Delivery.id db.deliveries
  levels : ∀ c ∈ db.deliveries, ∀ d ∈ db.deliveries, c.episode_id = d.episode_id →
    c.severity = d.severity → c = d
  owner : ∀ d ∈ db.deliveries, ∃ e ∈ db.episodes, e.id = d.episode_id
  episode_ids : ∀ e ∈ db.episodes, e.id < db.next_id
  delivery_ids : ∀ d ∈ db.deliveries, d.id < db.next_id

-- the two states are the same to a transaction that holds these rows
structure Agree (rows : List Sessions.Row) (db db' : NotificationsDb G) : Prop where
  subscriptions : db'.subscriptions = db.subscriptions
  watch_areas : db'.watch_areas = db.watch_areas
  next_id : db.next_id ≤ db'.next_id
  episode : ∀ e, .episode e.id ∈ rows → (e ∈ db'.episodes ↔ e ∈ db.episodes)
  notified : ∀ d, .episode d.episode_id ∈ rows → (d ∈ db'.deliveries ↔ d ∈ db.deliveries)
  delivery : ∀ d, .delivery d.id ∈ rows → (d ∈ db'.deliveries ↔ d ∈ db.deliveries)
  slot : ∀ slot, .open_slot slot ∈ rows → NoneOpen slot db → NoneOpen slot db'

theorem Agree.refl (rows : List Sessions.Row) (db : NotificationsDb G) : Agree rows db db :=
  ⟨rfl, rfl, le_refl _, fun _ _ => .rfl, fun _ _ => .rfl, fun _ _ => .rfl, fun _ _ h => h⟩

theorem Agree.trans {rows : List Sessions.Row} {a b c : NotificationsDb G} (h : Agree rows a b)
    (k : Agree rows b c) : Agree rows a c where
  subscriptions := k.subscriptions.trans h.subscriptions
  watch_areas := k.watch_areas.trans h.watch_areas
  next_id := le_trans h.next_id k.next_id
  episode e he := (k.episode e he).trans (h.episode e he)
  notified d hd := (k.notified d hd).trans (h.notified d hd)
  delivery d hd := (k.delivery d hd).trans (h.delivery d hd)
  slot s hs := k.slot s hs ∘ h.slot s hs

theorem Agree.drawn (rows : List Sessions.Row) (db : NotificationsDb G) (ws : List (Write G)) :
    Agree rows db (ws.foldl Write.draw db) := by
  rw [drawn_eq]
  exact ⟨rfl, rfl, Nat.le_add_right _ _, fun _ _ => .rfl, fun _ _ => .rfl, fun _ _ => .rfl,
    fun _ _ h => h⟩

def Foreign (rows : List Sessions.Row) : Write G → Prop
  | .locked _ => True
  | .refreshed episode_id _ _ _ | .closed episode_id _ => .episode episode_id ∉ rows
  | .opened e => .episode e.id ∉ rows ∧ .open_slot e.slot ∉ rows
  | .inserted d => .delivery d.id ∉ rows ∧ .episode d.episode_id ∉ rows
  | _ => False

theorem agree_update {rows : List Sessions.Row} {episode_id : Nat} {p : Episode → Bool}
    {f : Episode → Episode} (hrow : .episode episode_id ∉ rows)
    (hp : ∀ e, p e = true → e.id = episode_id) (hid : ∀ e, (f e).id = e.id)
    (hslot : ∀ e, (f e).slot = e.slot) (hopen : ∀ e, (f e).closed_at = none → e.closed_at = none) :
    Agree rows db { db with episodes := Table.update p f db.episodes } := by
  refine ⟨rfl, rfl, le_refl _, fun e he => ?_, fun _ _ => .rfl, fun _ _ => .rfl,
    fun s _ hs e he => ?_⟩
  · have hne : e.id ≠ episode_id := fun heq => hrow (heq ▸ he)
    refine Table.mem_update.trans ⟨?_, fun hm => ⟨e, hm, if_neg (fun h => hne (hp e h))⟩⟩
    rintro ⟨o, ho, rfl⟩
    split at hne
    · next hpo => exact absurd ((hid o).trans (hp o hpo)) hne
    · next hpo => rwa [if_neg hpo]
  · obtain ⟨o, ho, rfl⟩ := Table.mem_update.mp he
    split
    · exact fun hes hec => hs o ho ((hslot o).symm.trans hes) (hopen o hec)
    · exact hs o ho

theorem Foreign.agree {rows : List Sessions.Row} {w : Write G} (h : Foreign rows w) :
    Agree rows db (Write.apply db w) := by
  cases w with
  | locked episode_ids => exact .refl rows db
  | refreshed episode_id notified_severity expires_at at_ =>
      exact agree_update h (fun _ => of_decide_eq_true) (fun _ => rfl) (fun _ => rfl) (fun _ => id)
  | closed episode_id at_ =>
      exact agree_update h (fun _ he => of_decide_eq_true (Bool.and_eq_true_iff.mp he).1)
        (fun _ => rfl) (fun _ => rfl) (fun _ he => by simp [Episode.closed] at he)
  | opened o =>
      refine ⟨rfl, rfl, le_refl _, fun e he => ?_, fun _ _ => .rfl, fun _ _ => .rfl,
        fun s hs hnone e he hes => ?_⟩
      · have hne : e ≠ o := fun heq => h.1 (heq ▸ he)
        simp [Write.apply, hne]
      · rcases List.mem_append.mp he with he | he
        · exact hnone e he hes
        · obtain rfl := List.mem_singleton.mp he
          exact absurd (hes ▸ hs) h.2
  | inserted o =>
      refine ⟨rfl, rfl, le_refl _, fun _ _ => .rfl, fun d hd => ?_, fun d hd => ?_, fun _ _ => id⟩
      · have hne : d ≠ o := fun heq => h.2 (heq ▸ hd)
        simp [Write.apply, hne]
      · have hne : d ≠ o := fun heq => h.1 (heq ▸ hd)
        simp [Write.apply, hne]
  | area _ | created _ | updated _ _ | failed _ _ | removed _ | area_deleted _ | attempted _
  | sent _ _ _ | purged _ _ => exact h.elim

theorem foreign_agree {rows : List Sessions.Row} (h : ∀ w ∈ ws, Foreign rows w) :
    Agree rows db (view db ws) := by
  induction ws generalizing db with
  | nil => exact .refl rows db
  | cons w ws ih =>
      exact (h w List.mem_cons_self).agree.trans
        (ih (fun w' hw => h w' (List.mem_cons_of_mem _ hw)))

end GeoHazard.Matchers
