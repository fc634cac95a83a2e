import GeoHazard.Notifications.GroupSpec
import Mathlib.Data.List.Pairwise

namespace GeoHazard

variable {G : Type} {grace : Nat}

def episodes_of (slot : Nat × String) (episodes : List Episode) : List Episode :=
  episodes.filter (fun e => decide (e.slot = slot))

def deliveries_of (episode_id : Nat) (deliveries : List Delivery) : List Delivery :=
  deliveries.filter (fun d => decide (d.episode_id = episode_id))

def Over (grace : Nat) (at_ : Timestamptz) (e : Episode) : Prop :=
  ∃ c x, e.closed_at = some c ∧ c ≤ at_ ∧ e.expires_at = some x ∧ x + grace ≤ at_

def Before (grace : Nat) (a b : Episode) : Prop := Over grace b.opened_at a

theorem Over.closed {at_ : Timestamptz} {e : Episode} (h : Over grace at_ e) :
    e.closed_at ≠ none := by
  obtain ⟨c, _, hc, _⟩ := h
  simp [hc]

theorem Over.mono {at_ later : Timestamptz} {e : Episode} (h : Over grace at_ e)
    (hle : at_ ≤ later) : Over grace later e := by
  obtain ⟨c, x, hc, hcle, hx, hxle⟩ := h
  exact ⟨c, x, hc, le_trans hcle hle, hx, le_trans hxle hle⟩

-- the deliveries of one episode, in the order they were created
structure Ratchet (notified_severity : Nat) (ds : List Delivery) : Prop where
  increasing : (ds.map Delivery.severity).Pairwise (· < ·)
  reasons : ds.map Delivery.reason = .opened :: List.replicate (ds.length - 1) .escalated
  notified : (ds.map Delivery.severity).getLast? = some notified_severity
  range : ∀ d ∈ ds, 1 ≤ d.severity ∧ d.severity ≤ 4

structure EpisodeOk (deliveries : List Delivery) (e : Episode) : Prop where
  key : Fits e.slot
  closed : ∀ c, e.closed_at = some c → e.opened_at < c
  aemet : is_aemet_key e.key = true → e.expires_at ≠ none
  expires : ∀ x, e.expires_at = some x → is_aemet_key e.key = true ∧ e.opened_at < x
  ratchet : Ratchet e.notified_severity (deliveries_of e.id deliveries)
  owner : ∀ d ∈ deliveries_of e.id deliveries, d.subscription_id = e.subscription_id

structure RatchetInv (grace : Nat) (db : NotificationsDb G) : Prop where
  unique : Table.Unique Episode.id db.episodes
  fresh : ∀ e ∈ db.episodes, e.id < db.next_id
  delivered : ∀ d ∈ db.deliveries, d.episode_id < db.next_id
  order : ∀ slot, (episodes_of slot db.episodes).Pairwise (Before grace)
  alive : ∀ e ∈ db.episodes, ∃ o ∈ db.episodes, o.slot = e.slot ∧ o.closed_at = none
  episodes : ∀ e ∈ db.episodes, EpisodeOk db.deliveries e

theorem mem_episodes_of {slot : Nat × String} {episodes : List Episode} {e : Episode} :
    e ∈ episodes_of slot episodes ↔ e ∈ episodes ∧ e.slot = slot := by
  simp [episodes_of]

theorem RatchetInv.comparable {db : NotificationsDb G} (h : RatchetInv grace db) {a b : Episode}
    (ha : a ∈ db.episodes) (hb : b ∈ db.episodes) (hs : a.slot = b.slot) (hne : a ≠ b) :
    Before grace a b ∨ Before grace b a := by
  have hp : (episodes_of b.slot db.episodes).Pairwise
      (fun a b => Before grace a b ∨ Before grace b a) := (h.order b.slot).imp Or.inl
  have : Std.Symm (fun a b => Before grace a b ∨ Before grace b a) := ⟨fun _ _ => Or.symm⟩
  exact hp.forall (mem_episodes_of.mpr ⟨ha, hs⟩) (mem_episodes_of.mpr ⟨hb, rfl⟩) hne

theorem RatchetInv.one_open {db : NotificationsDb G} (h : RatchetInv grace db) {a b : Episode}
    (ha : a ∈ db.episodes) (hb : b ∈ db.episodes) (hs : a.slot = b.slot)
    (hao : a.closed_at = none) (hbo : b.closed_at = none) : a = b := by
  by_contra hne
  rcases h.comparable ha hb hs hne with hab | hba
  · exact hab.closed hao
  · exact hba.closed hbo

theorem Ratchet.le_notified {n : Nat} {ds : List Delivery} (h : Ratchet n ds) {d : Delivery}
    (hd : d ∈ ds) : d.severity ≤ n := by
  obtain ⟨init, hinit⟩ := List.getLast?_eq_some_iff.mp h.notified
  have hm : d.severity ∈ ds.map Delivery.severity := List.mem_map_of_mem hd
  have hp := h.increasing
  rw [hinit] at hm hp
  rcases List.mem_append.mp hm with hm | hm
  · exact Nat.le_of_lt ((List.pairwise_append.mp hp).2.2 _ hm n (by simp))
  · exact Nat.le_of_eq (List.mem_singleton.mp hm)

theorem Ratchet.ne_nil {n : Nat} {ds : List Delivery} (h : Ratchet n ds) : ds ≠ [] := by
  rintro rfl
  simpa using h.notified

theorem Ratchet.escalate {n : Nat} {ds : List Delivery} (h : Ratchet n ds) {d : Delivery}
    (hlt : n < d.severity) (hr : d.reason = .escalated) (hd : d.severity ≤ 4) :
    Ratchet d.severity (ds ++ [d]) where
  increasing := by
    rw [List.map_append, List.pairwise_append]
    refine ⟨h.increasing, by simp, fun a ha b hb => ?_⟩
    obtain ⟨d', hd', rfl⟩ := List.mem_map.mp ha
    simp only [List.map_cons, List.map_nil, List.mem_singleton] at hb
    exact hb ▸ lt_of_le_of_lt (h.le_notified hd') hlt
  reasons := by
    obtain ⟨k, hk⟩ := Nat.exists_eq_succ_of_ne_zero
      (fun h0 => h.ne_nil (List.eq_nil_of_length_eq_zero h0))
    simp [h.reasons, hr, hk, List.replicate_succ']
  notified := by simp
  range d' hd' := by
    rcases List.mem_append.mp hd' with hd' | hd'
    · exact h.range d' hd'
    · rw [List.mem_singleton.mp hd']
      exact ⟨by omega, hd⟩

theorem ratchet_opened {d : Delivery} (hr : d.reason = .opened) (hd : 1 ≤ d.severity)
    (hd4 : d.severity ≤ 4) : Ratchet d.severity [d] where
  increasing := by simp
  reasons := by simp [hr]
  notified := by simp
  range d' hd' := by
    rw [List.mem_singleton.mp hd']
    exact ⟨hd, hd4⟩

theorem episodes_of_update {slot : Nat × String} {p : Episode → Bool} {f : Episode → Episode}
    (hf : ∀ e, p e = true → (f e).slot = e.slot) (episodes : List Episode) :
    episodes_of slot (Table.update p f episodes) =
      (episodes_of slot episodes).map (fun e => if p e then f e else e) := by
  simp only [episodes_of, Table.update, List.filter_map]
  congr 1
  apply List.filter_congr
  intro e _
  by_cases hp : p e = true
  · simp [hp, hf e hp]
  · simp [hp]

theorem episodes_of_append (slot : Nat × String) (es fs : List Episode) :
    episodes_of slot (es ++ fs) = episodes_of slot es ++ episodes_of slot fs :=
  List.filter_append ..

theorem deliveries_of_append (id : Nat) (ds fs : List Delivery) :
    deliveries_of id (ds ++ fs) = deliveries_of id ds ++ deliveries_of id fs :=
  List.filter_append ..

theorem deliveries_of_other {id : Nat} {ds : List Delivery} (h : ∀ d ∈ ds, d.episode_id ≠ id) :
    deliveries_of id ds = [] := by
  simpa [deliveries_of] using h

theorem deliveries_of_all {id : Nat} {ds : List Delivery} (h : ∀ d ∈ ds, d.episode_id = id) :
    deliveries_of id ds = ds := by
  simpa [deliveries_of] using h

theorem EpisodeOk.append {deliveries extra : List Delivery} {e : Episode}
    (h : EpisodeOk deliveries e) (hx : ∀ d ∈ extra, d.episode_id ≠ e.id) :
    EpisodeOk (deliveries ++ extra) e := by
  have hd : deliveries_of e.id (deliveries ++ extra) = deliveries_of e.id deliveries := by
    rw [deliveries_of_append, deliveries_of_other hx, List.append_nil]
  exact ⟨h.key, h.closed, h.aemet, h.expires, hd ▸ h.ratchet, hd ▸ h.owner⟩

section Rewritten

variable {es : List Episode} {e n : Episode}

abbrev rewritten (e n : Episode) (es : List Episode) : List Episode :=
  Table.update (fun o => decide (o.id = e.id)) (fun _ => n) es

theorem update_rewritten (hu : Table.Unique Episode.id es) (he : e ∈ es) (f : Episode → Episode) :
    Table.update (fun o => decide (o.id = e.id)) f es = rewritten e (f e) es := by
  refine List.map_congr_left (fun o ho => ?_)
  by_cases hoe : o.id = e.id
  · simp [Table.unique_eq hu ho he hoe]
  · simp [hoe]

theorem episodes_of_rewritten (hu : Table.Unique Episode.id es) (he : e ∈ es)
    (hslot : n.slot = e.slot) (slot : Nat × String) :
    episodes_of slot (rewritten e n es) =
      (episodes_of slot es).map (fun o => if o.id = e.id then n else o) := by
  rw [episodes_of, episodes_of, rewritten, Table.update, List.filter_map]
  simp only [decide_eq_true_eq]
  congr 1
  apply List.filter_congr
  intro o ho
  by_cases hoe : o = e
  · simp [hoe, hslot]
  · have hne : ¬ o.id = e.id := fun hi => hoe (Table.unique_eq hu ho he hi)
    simp [hne]

theorem order_rewritten (hu : Table.Unique Episode.id es) (he : e ∈ es) (hopen : e.closed_at = none)
    (hslot : n.slot = e.slot) (hat : n.opened_at = e.opened_at) {slot : Nat × String}
    (h : (episodes_of slot es).Pairwise (Before grace)) :
    (episodes_of slot (rewritten e n es)).Pairwise (Before grace) := by
  rw [episodes_of_rewritten hu he hslot, List.pairwise_map]
  refine h.imp_of_mem (fun {a b} ha hb hab => ?_)
  have hae : ¬ a.id = e.id := by
    intro hi
    obtain rfl := Table.unique_eq hu (mem_episodes_of.mp ha).1 he hi
    exact hab.closed hopen
  simp only [if_neg hae]
  by_cases hbe : b.id = e.id
  · obtain rfl := Table.unique_eq hu (mem_episodes_of.mp hb).1 he hbe
    rw [if_pos rfl, Before, hat]
    exact hab
  · rwa [if_neg hbe]

theorem alive_rewritten (hu : Table.Unique Episode.id es) (he : e ∈ es) (hslot : n.slot = e.slot)
    (hcl : n.closed_at = none) (h : ∀ o ∈ es, ∃ w ∈ es, w.slot = o.slot ∧ w.closed_at = none) :
    ∀ o ∈ rewritten e n es, ∃ w ∈ rewritten e n es, w.slot = o.slot ∧ w.closed_at = none := by
  have hold : ∀ o ∈ es, ∃ w ∈ rewritten e n es, w.slot = o.slot ∧ w.closed_at = none := by
    intro o ho
    obtain ⟨w, hw, hs, hwo⟩ := h o ho
    by_cases hwe : w = e
    · exact ⟨n, (Table.mem_update_row hu he).mpr (.inl rfl), hslot.trans (hwe ▸ hs), hcl⟩
    · exact ⟨w, (Table.mem_update_row hu he).mpr (.inr ⟨hw, hwe⟩), hs, hwo⟩
  intro o ho
  rcases (Table.mem_update_row hu he).mp ho with rfl | ⟨ho, _⟩
  · obtain ⟨w, hw, hs, hwo⟩ := hold e he
    exact ⟨w, hw, hs.trans hslot.symm, hwo⟩
  · exact hold o ho

end Rewritten

theorem RatchetInv.rewrite {db db' : NotificationsDb G} (h : RatchetInv grace db) {e : Episode}
    (he : e ∈ db.episodes) (hopen : e.closed_at = none) {f : Episode → Episode}
    {extra : List Delivery}
    (heps : db'.episodes = Table.update (fun o => decide (o.id = e.id)) f db.episodes)
    (hds : db'.deliveries = db.deliveries ++ extra) (hnext : db.next_id ≤ db'.next_id)
    (hid : (f e).id = e.id) (hslot : (f e).slot = e.slot) (hat : (f e).opened_at = e.opened_at)
    (hcl : (f e).closed_at = none) (hextra : ∀ d ∈ extra, d.episode_id = e.id)
    (hok : EpisodeOk db'.deliveries (f e)) : RatchetInv grace db' := by
  rw [update_rewritten h.unique he] at heps
  have hcases : ∀ o ∈ db'.episodes, o = f e ∨ (o ∈ db.episodes ∧ o ≠ e) := by
    intro o ho
    rw [heps] at ho
    exact (Table.mem_update_row h.unique he).mp ho
  refine ⟨?_, fun o ho => ?_, fun d hd => ?_, fun slot => ?_, ?_, fun o ho => ?_⟩
  · rw [heps]
    refine Table.unique_update (fun o ho => ?_) h.unique
    rw [decide_eq_true_eq] at ho
    exact hid.trans ho.symm
  · rcases hcases o ho with rfl | ⟨ho, _⟩
    · exact lt_of_lt_of_le (hid ▸ h.fresh e he) hnext
    · exact lt_of_lt_of_le (h.fresh o ho) hnext
  · rw [hds] at hd
    rcases List.mem_append.mp hd with hd | hd
    · exact lt_of_lt_of_le (h.delivered d hd) hnext
    · exact lt_of_lt_of_le (hextra d hd ▸ h.fresh e he) hnext
  · rw [heps]
    exact order_rewritten h.unique he hopen hslot hat (h.order slot)
  · rw [heps]
    exact alive_rewritten h.unique he hslot hcl h.alive
  · rcases hcases o ho with rfl | ⟨ho, hoe⟩
    · exact hok
    · rw [hds]
      refine (h.episodes o ho).append (fun d hd hi => hoe ?_)
      exact Table.unique_eq h.unique ho he (hi.symm.trans (hextra d hd))

end GeoHazard
