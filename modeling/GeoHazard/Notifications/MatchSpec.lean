import GeoHazard.Notifications.Ratchet

namespace GeoHazard

variable {G : Type} {gis : Gis G} {settings : MatchSettings} {grace : Nat} {source : Source}
  {batch_at now : Timestamptz} {db : NotificationsDb G} {slot : Nat × String} {g : Group}

-- what the dictionary of open episodes says of a slot, given the rows of that slot
def Current (es : List Episode) : Option OpenEpisode → Prop
  | none => es = []
  | some cur => ∃ e ∈ es, e.closed_at = none ∧ e.to_open = cur

-- an open episode that covers the group: matching the group again would only touch it
def Covered (batch_at : Timestamptz) (g : Group) (es : List Episode) : Prop :=
  ∃ e ∈ es, e.closed_at = none ∧ g.severity ≤ e.notified_severity ∧ batch_at ≤ e.last_matched_at ∧
    ∀ x, g.expires_at = some x → ∃ y, e.expires_at = some y ∧ x ≤ y

theorem RatchetInv.current (h : RatchetInv grace db) {wanted : List (Nat × String)}
    (hs : slot ∈ wanted) :
    Current (episodes_of slot db.episodes)
      (Dict.get slot (EpisodeRepo.open_rows wanted db)) := by
  rw [EpisodeRepo.open_rows, Dict.get_ofList]
  cases hg : Dict.get slot ((db.episodes.filter
      (fun e => e.closed_at.isNone && decide (e.slot ∈ wanted))).map
      (fun e => (e.slot, e.to_open))).reverse with
  | none =>
      refine List.eq_nil_iff_forall_not_mem.mpr (fun e he => ?_)
      obtain ⟨hm, hes⟩ := mem_episodes_of.mp he
      obtain ⟨o, ho, hos, hoo⟩ := h.alive e hm
      refine Dict.get_eq_none.mp hg ?_
      rw [Dict.keys, List.mem_map]
      refine ⟨(o.slot, o.to_open), ?_, hos.trans hes⟩
      rw [List.mem_reverse]
      exact List.mem_map_of_mem (List.mem_filter.mpr
        ⟨ho, by simpa [hoo, hos.trans hes] using hs⟩)
  | some cur =>
      have hm := List.mem_reverse.mp (Dict.mem_of_get hg)
      obtain ⟨e, he, heq⟩ := List.mem_map.mp hm
      obtain ⟨hmem, hp⟩ := List.mem_filter.mp he
      simp only [Prod.mk.injEq] at heq
      simp only [Bool.and_eq_true, Option.isNone_iff_eq_none] at hp
      exact ⟨e, mem_episodes_of.mpr ⟨hmem, heq.1⟩, hp.1, heq.2⟩

theorem RatchetInv.open_row (h : RatchetInv grace db) {wanted : List (Nat × String)} {e : Episode}
    (he : e ∈ db.episodes) (hopen : e.closed_at = none) (hs : e.slot ∈ wanted) :
    Dict.get e.slot (EpisodeRepo.open_rows wanted db) = some e.to_open := by
  have hc := h.current hs
  have hmem := mem_episodes_of.mpr ⟨he, rfl⟩
  cases hg : Dict.get e.slot (EpisodeRepo.open_rows wanted db) with
  | none =>
      rw [hg] at hc
      exact absurd hmem (hc ▸ List.not_mem_nil)
  | some cur =>
      rw [hg] at hc
      obtain ⟨o, ho, hoo, rfl⟩ := hc
      obtain ⟨homem, hos⟩ := mem_episodes_of.mp ho
      rw [h.one_open homem he hos hoo hopen]

theorem update_self {es : List Episode} (hu : Table.Unique Episode.id es) {e : Episode}
    (he : e ∈ es) {f : Episode → Episode} (hf : f e = e) :
    Table.update (fun o => decide (o.id = e.id)) f es = es := by
  unfold Table.update
  calc es.map (fun o => if decide (o.id = e.id) = true then f o else o)
      = es.map id := by
        apply List.map_congr_left
        intro o ho
        by_cases hoe : o.id = e.id
        · simp [Table.unique_eq hu ho he hoe, hf]
        · simp [hoe]
    _ = es := List.map_id es

theorem refreshed_covered {e : Episode} (hat : batch_at ≤ e.last_matched_at)
    (hx : ∀ x, g.expires_at = some x → ∃ y, e.expires_at = some y ∧ x ≤ y) :
    Episode.refreshed e.notified_severity g.expires_at batch_at e = e := by
  have hexp : (Episode.refreshed e.notified_severity g.expires_at batch_at e).expires_at =
      e.expires_at := by
    cases hg : g.expires_at with
    | none => rfl
    | some x =>
        obtain ⟨y, hy, hle⟩ := hx x hg
        simp [Episode.refreshed, hy, greatest, max_eq_left hle]
  have hlast := max_eq_left hat
  cases e
  simp only [Episode.refreshed] at hexp
  simp only [Episode.refreshed, max_self, Episode.mk.injEq, true_and, and_true]
  exact ⟨hexp, hlast⟩

theorem is_current_of_later {cur : OpenEpisode} (ha : Addable grace cur.expires_at)
    (h : ∀ x, cur.expires_at = some x → batch_at < x) :
    is_current (some cur) batch_at grace = .ok true := by
  refine is_current_iff.mpr ⟨ha, iff_of_true rfl (fun x hx => ?_)⟩
  exact lt_of_lt_of_le (h x hx) (Int.le_add_of_nonneg_right (Int.natCast_nonneg grace))

theorem expired_of_not_current {cur : OpenEpisode}
    (h : is_current (some cur) batch_at grace = .ok false) :
    ∃ x, cur.expires_at = some x ∧ x + grace ≤ batch_at := by
  have hlate := not_iff_not.mpr (is_current_iff.mp h).2
  simp only [Bool.false_eq_true, not_false_eq_true, true_iff, not_forall, not_lt,
    exists_prop] at hlate
  exact hlate

theorem EpisodeOk.covers {deliveries : List Delivery} {e : Episode} (h : EpisodeOk deliveries e)
    (ha : Addable grace e.expires_at)
    (hg : MatchBatchUseCase.GroupOk gis source batch_at e.slot g)
    (hx : ∀ x, g.expires_at = some x → ∃ y, e.expires_at = some y ∧ x ≤ y) :
    is_current (some e.to_open) batch_at grace = .ok true := by
  refine is_current_of_later ha (fun y hy => ?_)
  have hkey := hg.key
  rw [show e.slot.2 = e.key from rfl, (h.expires y hy).1, eq_comm, decide_eq_true_eq] at hkey
  obtain ⟨x, hgx⟩ := Option.ne_none_iff_exists'.mp (hg.aemet hkey)
  obtain ⟨y', hy', hle⟩ := hx x hgx
  rw [show e.to_open.expires_at = e.expires_at from rfl, hy', Option.some.injEq] at hy
  exact hy ▸ lt_of_lt_of_le (hg.later x hgx) hle

theorem EpisodeOk.refreshed {ds ds' : List Delivery} {e : Episode} {n : Nat} (h : EpisodeOk ds e)
    (hg : MatchBatchUseCase.GroupOk gis source batch_at e.slot g)
    (hr : Ratchet (max e.notified_severity n) (deliveries_of e.id ds'))
    (ho : ∀ d ∈ deliveries_of e.id ds', d.subscription_id = e.subscription_id) :
    EpisodeOk ds' (Episode.refreshed n g.expires_at batch_at e) where
  key := h.key
  closed := h.closed
  aemet hk := by
    have hkey := hg.key
    rw [show e.slot.2 = e.key from rfl, show is_aemet_key e.key = true from hk, eq_comm,
      decide_eq_true_eq] at hkey
    obtain ⟨x, hx⟩ := Option.ne_none_iff_exists'.mp (hg.aemet hkey)
    simp [Episode.refreshed, hx]
  expires x hx := by
    simp only [Episode.refreshed] at hx
    cases hgx : g.expires_at with
    | none =>
        simp only [hgx] at hx
        exact h.expires x hx
    | some y =>
        simp only [hgx, Option.some.injEq] at hx
        have hkey : is_aemet_key e.key = true := by
          refine hg.key.trans ?_
          by_contra hne
          simp [hg.expires (by simpa using hne)] at hgx
        obtain ⟨z, hz⟩ := Option.ne_none_iff_exists'.mp (h.aemet hkey)
        refine ⟨hkey, lt_of_lt_of_le (h.expires z hz).2 ?_⟩
        rw [← hx, greatest, hz]
        exact le_max_left _ _
  ratchet := hr
  owner := ho

theorem refreshed_expires (n : Nat) (e : Episode) :
    ∀ x, g.expires_at = some x →
      ∃ y, (Episode.refreshed n g.expires_at batch_at e).expires_at = some y ∧ x ≤ y :=
  fun x hx => ⟨greatest e.expires_at x, by simp [Episode.refreshed, hx], le_max_right _ _⟩

structure Matched (grace : Nat) (batch_at : Timestamptz) (slot : Nat × String) (g : Group)
    (db db' : NotificationsDb G) : Prop where
  inv : RatchetInv grace db'
  subscriptions : db'.subscriptions = db.subscriptions
  watch_areas : db'.watch_areas = db.watch_areas
  others : ∀ s, s ≠ slot → episodes_of s db'.episodes = episodes_of s db.episodes
  covered : Covered batch_at g (episodes_of slot db'.episodes)
  marked : ∀ e ∈ db'.episodes,
    e.opened_at = batch_at ∨ e.opened_at ∈ db.episodes.map Episode.opened_at

theorem episodes_of_update_other {es : List Episode} (hu : Table.Unique Episode.id es)
    {e : Episode} (he : e ∈ es) {p : Episode → Bool} (hp : ∀ o, p o = true → o.id = e.id)
    {f : Episode → Episode} {s : Nat × String} (hs : s ≠ e.slot) (hf : (f e).slot = e.slot) :
    episodes_of s (Table.update p f es) = episodes_of s es := by
  unfold episodes_of Table.update
  rw [List.filter_map]
  calc ((es.filter _).map fun o => if p o = true then f o else o)
      = (es.filter (fun o => decide (o.slot = s))).map (fun o => if p o = true then f o else o) := by
        congr 1
        apply List.filter_congr
        intro o ho
        by_cases hpo : p o = true
        · obtain rfl := Table.unique_eq hu ho he (hp o hpo)
          simp [hpo, hf]
        · simp [hpo]
    _ = (es.filter (fun o => decide (o.slot = s))).map id := by
        apply List.map_congr_left
        intro o ho
        obtain ⟨hoe, hos⟩ := List.mem_filter.mp ho
        have hpo : ¬ p o = true := by
          intro hpo
          obtain rfl := Table.unique_eq hu hoe he (hp o hpo)
          exact hs (of_decide_eq_true hos).symm
        simp [hpo]
    _ = es.filter (fun o => decide (o.slot = s)) := List.map_id _

theorem matched_refresh (h : RatchetInv grace db) {e : Episode} (he : e ∈ db.episodes)
    (hopen : e.closed_at = none)
    (hg : MatchBatchUseCase.GroupOk gis source batch_at e.slot g) {n : Nat}
    (hn : g.severity ≤ max e.notified_severity n) (extra : List Delivery) {next_id : Nat}
    (hnext : db.next_id ≤ next_id) (hextra : ∀ d ∈ extra, d.episode_id = e.id)
    (hr : Ratchet (max e.notified_severity n)
      (deliveries_of e.id db.deliveries ++ extra))
    (ho : ∀ d ∈ extra, d.subscription_id = e.subscription_id) :
    Matched grace batch_at e.slot g db
      { EpisodeRepo.refresh e.id n g.expires_at batch_at db with
        deliveries := db.deliveries ++ extra, next_id := next_id } := by
  have hds : deliveries_of e.id (db.deliveries ++ extra) =
      deliveries_of e.id db.deliveries ++ extra := by
    rw [deliveries_of_append, deliveries_of_all hextra]
  have hmem : Episode.refreshed n g.expires_at batch_at e ∈
      Table.update (fun o => decide (o.id = e.id)) (Episode.refreshed n g.expires_at batch_at)
        db.episodes := Table.mem_update.mpr ⟨e, he, by simp⟩
  refine ⟨?_, rfl, rfl, fun s hs => ?_, ⟨_, mem_episodes_of.mpr ⟨hmem, rfl⟩, hopen, hn,
    le_max_right _ _, refreshed_expires n e⟩, fun o ho => .inr ?_⟩
  · refine h.rewrite he hopen rfl rfl hnext rfl rfl rfl hopen hextra ?_
    refine (h.episodes e he).refreshed hg (hds ▸ hr) (fun d hd => ?_)
    rw [hds] at hd
    rcases List.mem_append.mp hd with hd | hd
    · exact (h.episodes e he).owner d hd
    · exact ho d hd
  · exact episodes_of_update_other h.unique he (fun o hp => of_decide_eq_true hp) hs rfl
  · rw [← Table.keys_update (p := fun o => decide (o.id = e.id))
      (f := Episode.refreshed n g.expires_at batch_at) (fun _ _ => rfl) db.episodes]
    exact List.mem_map_of_mem ho

-- the rows es are ready for a new episode of the slot that opens at batch_at
structure Reopenable (grace : Nat) (batch_at : Timestamptz) (slot : Nat × String)
    (db : NotificationsDb G) (es : List Episode) : Prop where
  ids : es.map Episode.id = db.episodes.map Episode.id
  others : ∀ s, s ≠ slot → episodes_of s es = episodes_of s db.episodes
  order : (episodes_of slot es).Pairwise (Before grace)
  earlier : ∀ e ∈ episodes_of slot es, Over grace batch_at e
  opened : es.map Episode.opened_at = db.episodes.map Episode.opened_at
  episodes : ∀ e ∈ es, EpisodeOk db.deliveries e

theorem reopenable_none (h : RatchetInv grace db) (hnil : episodes_of slot db.episodes = []) :
    Reopenable grace batch_at slot db db.episodes :=
  ⟨rfl, fun _ _ => rfl, h.order slot, by simp [hnil], rfl, h.episodes⟩

theorem RatchetInv.before_open (h : RatchetInv grace db) {a e : Episode} (ha : a ∈ db.episodes)
    (he : e ∈ db.episodes) (hs : a.slot = e.slot) (hopen : e.closed_at = none) (hne : a ≠ e) :
    Before grace a e := by
  rcases h.comparable ha he hs hne with hab | hea
  · exact hab
  · exact absurd hopen hea.closed

theorem reopenable_close (h : RatchetInv grace db) {e : Episode} (he : e ∈ db.episodes)
    (hopen : e.closed_at = none) (hexp : is_current (some e.to_open) batch_at grace = .ok false) :
    Reopenable grace batch_at e.slot db (EpisodeRepo.close e.id batch_at db).episodes := by
  obtain ⟨x, hx, hle⟩ := expired_of_not_current hexp
  have hrow : ∀ o : Episode, (decide (o.id = e.id) && o.closed_at.isNone) = true → o.id = e.id :=
    fun o ho => of_decide_eq_true (Bool.and_eq_true_iff.mp ho).1
  have hlt : e.opened_at < batch_at :=
    lt_of_lt_of_le ((h.episodes e he).expires x hx).2
      (le_trans (Int.le_add_of_nonneg_right (Int.natCast_nonneg grace)) hle)
  have hcases : ∀ o' ∈ (EpisodeRepo.close e.id batch_at db).episodes,
      o' = Episode.closed batch_at e ∨ (o' ∈ db.episodes ∧ o' ≠ e) := by
    intro o' ho'
    obtain ⟨o, ho, rfl⟩ := Table.mem_update.mp ho'
    by_cases hoe : o.id = e.id
    · obtain rfl := Table.unique_eq h.unique ho he hoe
      exact .inl (by simp [hopen])
    · have hne : o ≠ e := fun hi => hoe (congrArg _ hi)
      exact .inr (by simpa [hoe] using ⟨ho, hne⟩)
  refine ⟨Table.keys_update (f := Episode.closed batch_at) (fun _ _ => rfl) _,
    fun s hs => episodes_of_update_other h.unique he hrow hs rfl, ?_, fun o ho => ?_,
    Table.keys_update (f := Episode.closed batch_at) (fun _ _ => rfl) _, fun o ho => ?_⟩
  · rw [show (EpisodeRepo.close e.id batch_at db).episodes = Table.update
      (fun o => decide (o.id = e.id) && o.closed_at.isNone) (Episode.closed batch_at) db.episodes
      from rfl, episodes_of_update (f := Episode.closed batch_at) (fun _ _ => rfl), List.pairwise_map]
    refine (h.order e.slot).imp_of_mem (fun {a b} ha _ hab => ?_)
    have hat : ∀ p : Bool, (if p = true then Episode.closed batch_at b else b).opened_at =
        b.opened_at := fun p => by cases p <;> rfl
    obtain ⟨c, hc⟩ := Option.ne_none_iff_exists'.mp hab.closed
    simp only [hc, Option.isNone_some, Bool.and_false, Bool.false_eq_true, if_false]
    rw [Before, hat]
    exact hab
  · obtain ⟨ho, hos⟩ := mem_episodes_of.mp ho
    rcases hcases o ho with rfl | ⟨hodb, hne⟩
    · exact ⟨batch_at, x, rfl, le_refl _, hx, hle⟩
    · exact (h.before_open hodb he hos hopen hne).mono (le_of_lt hlt)
  · rcases hcases o ho with rfl | ⟨hodb, _⟩
    · have hok := h.episodes e he
      refine ⟨hok.key, fun c hc => ?_, hok.aemet, hok.expires, hok.ratchet, hok.owner⟩
      exact Option.some.inj hc ▸ hlt
    · exact h.episodes o hodb

section Opened

variable {es : List Episode}

theorem Reopenable.fresh (h : RatchetInv grace db) (hr : Reopenable grace batch_at slot db es)
    {e : Episode} (he : e ∈ es) : e.id < db.next_id := by
  have hm : e.id ∈ db.episodes.map Episode.id := hr.ids ▸ List.mem_map_of_mem he
  obtain ⟨o, ho, hoe⟩ := List.mem_map.mp hm
  exact hoe ▸ h.fresh o ho

theorem Reopenable.others_opened (hr : Reopenable grace batch_at slot db es) {n : Episode}
    (hn : n.slot = slot) {s : Nat × String} (hs : s ≠ slot) :
    episodes_of s (es ++ [n]) = episodes_of s db.episodes := by
  rw [episodes_of_append, hr.others s hs]
  have hne : ¬ slot = s := fun hi => hs hi.symm
  simp [episodes_of, hn, hne]

theorem Reopenable.order_opened (h : RatchetInv grace db)
    (hr : Reopenable grace batch_at slot db es) {n : Episode} (hn : n.slot = slot)
    (hat : n.opened_at = batch_at) (s : Nat × String) :
    (episodes_of s (es ++ [n])).Pairwise (Before grace) := by
  by_cases hs : s = slot
  · subst hs
    have hone : episodes_of s [n] = [n] := by simp [episodes_of, hn]
    rw [episodes_of_append, hone, List.pairwise_append]
    refine ⟨hr.order, by simp, fun a ha b hb => ?_⟩
    rw [List.mem_singleton.mp hb, Before, hat]
    exact hr.earlier a ha
  · rw [hr.others_opened hn hs]
    exact h.order s

theorem Reopenable.alive_opened (h : RatchetInv grace db)
    (hr : Reopenable grace batch_at slot db es) {n : Episode} (hn : n.slot = slot)
    (hopen : n.closed_at = none) {e : Episode} (he : e ∈ es ++ [n]) :
    ∃ o ∈ es ++ [n], o.slot = e.slot ∧ o.closed_at = none := by
  by_cases hs : e.slot = slot
  · exact ⟨n, List.mem_append_right _ (List.mem_singleton.mpr rfl), hn.trans hs.symm, hopen⟩
  · have hmem : e ∈ episodes_of e.slot db.episodes :=
      hr.others_opened hn hs ▸ mem_episodes_of.mpr ⟨he, rfl⟩
    obtain ⟨o, ho, hos, hoo⟩ := h.alive e (mem_episodes_of.mp hmem).1
    have ho' : o ∈ episodes_of e.slot (es ++ [n]) :=
      (hr.others_opened hn hs).symm ▸ mem_episodes_of.mpr ⟨ho, hos⟩
    exact ⟨o, (mem_episodes_of.mp ho').1, hos, hoo⟩

theorem opened_ok (h : RatchetInv grace db) (hfits : Fits slot)
    (hg : MatchBatchUseCase.GroupOk gis source batch_at slot g) {d : Delivery}
    (hid : d.episode_id = db.next_id) (hsub : d.subscription_id = slot.1)
    (hsev : d.severity = g.severity) (hreason : d.reason = .opened) :
    EpisodeOk (db.deliveries ++ [d])
      (EpisodeRepo.opened slot g.severity g.expires_at batch_at db.next_id) := by
  have hnew : deliveries_of db.next_id (db.deliveries ++ [d]) = [d] := by
    rw [deliveries_of_append, deliveries_of_other (fun d hd => (h.delivered d hd).ne),
      deliveries_of_all (by simpa using hid), List.nil_append]
  refine ⟨hfits, by simp [EpisodeRepo.opened], fun hk => ?_, fun x hx => ?_, ?_, fun d' hd => ?_⟩
  · exact hg.aemet (of_decide_eq_true (hg.key.symm.trans hk))
  · refine ⟨?_, hg.later x hx⟩
    refine hg.key.trans ?_
    by_contra hne
    have hno := hg.expires (by simpa using hne)
    simp [EpisodeRepo.opened, hno] at hx
  · change Ratchet g.severity (deliveries_of db.next_id (db.deliveries ++ [d]))
    rw [hnew, ← hsev]
    exact ratchet_opened hreason (hsev ▸ hg.positive) (hsev ▸ hg.severity)
  · change d' ∈ deliveries_of db.next_id (db.deliveries ++ [d]) at hd
    rw [hnew] at hd
    rw [List.mem_singleton.mp hd]
    exact hsub

theorem matched_open (h : RatchetInv grace db) (hr : Reopenable grace batch_at slot db es)
    (hfits : Fits slot) (hg : MatchBatchUseCase.GroupOk gis source batch_at slot g) (d : Delivery)
    {next_id : Nat} (hnext : db.next_id < next_id) (hid : d.episode_id = db.next_id)
    (hsub : d.subscription_id = slot.1) (hsev : d.severity = g.severity)
    (hreason : d.reason = .opened) :
    Matched grace batch_at slot g db
      { db with
        episodes := es ++ [EpisodeRepo.opened slot g.severity g.expires_at batch_at db.next_id]
        deliveries := db.deliveries ++ [d], next_id := next_id } := by
  have hslot : (EpisodeRepo.opened slot g.severity g.expires_at batch_at db.next_id).slot = slot :=
    rfl
  refine ⟨⟨?_, fun e he => ?_, fun d' hd => ?_, fun s => hr.order_opened h hslot rfl s,
    fun e he => hr.alive_opened h hslot rfl he, fun e he => ?_⟩,
    rfl, rfl, fun s hs => hr.others_opened hslot hs, ⟨_, mem_episodes_of.mpr
      ⟨List.mem_append_right _ (by simp), hslot⟩, rfl, le_refl _, le_refl _,
      fun x hx => ⟨x, hx, le_refl _⟩⟩, fun e he => ?_⟩
  · refine @Table.unique_concat _ _ _ Episode.id _ _ ?_ ?_
    · rw [Table.Unique, hr.ids]
      exact h.unique
    · exact Table.find_none.mpr (fun e he => (hr.fresh h he).ne)
  · rcases List.mem_append.mp he with he | he
    · exact lt_trans (hr.fresh h he) hnext
    · rw [List.mem_singleton.mp he]
      exact hnext
  · rcases List.mem_append.mp hd with hd | hd
    · exact lt_trans (h.delivered d' hd) hnext
    · rw [List.mem_singleton.mp hd]
      exact hid ▸ hnext
  · rcases List.mem_append.mp he with he | he
    · refine (hr.episodes e he).append (fun d' hd => ?_)
      rw [List.mem_singleton.mp hd, hid]
      exact (hr.fresh h he).ne'
    · rw [List.mem_singleton.mp he]
      exact opened_ok h hfits hg hid hsub hsev hreason
  · rcases List.mem_append.mp he with he | he
    · exact .inr (hr.opened ▸ List.mem_map_of_mem he)
    · exact .inl (by rw [List.mem_singleton.mp he]; rfl)

end Opened

namespace MatchBatchUseCase

def delivered (gis : Gis G) (slot : Nat × String) (episode_id : Nat) (reason : Reason) (g : Group)
    (now : Timestamptz) (id : Nat) : Delivery :=
  EpisodeRepo.delivery slot.1 episode_id g.severity reason
    ((g.matches_.take MAX_ITEMS_PER_DELIVERY).map (feature gis)) g.matches_.length now id

theorem open_matched (now : Timestamptz) {es : List Episode} (h : RatchetInv grace db)
    (hr : Reopenable grace batch_at slot db es) (hfits : Fits slot)
    (hg : GroupOk gis source batch_at slot g) :
    ∃ db', (EpisodeRepo.open_ slot g.severity g.expires_at batch_at { db with episodes := es } >>=
        fun p => .ok (add_delivery gis slot p.2 .opened g now p.1)) = .ok (db', true) ∧
      Matched grace batch_at slot g db db' := by
  have hopen := (@EpisodeRepo.open_iff _ slot g.severity g.expires_at batch_at
    { db with episodes := es } _).mpr
      ⟨hfits, fun e he hs => (hr.earlier e (mem_episodes_of.mpr ⟨he, hs⟩)).closed, rfl⟩
  refine ⟨_, ?_, matched_open h hr hfits hg (delivered gis slot db.next_id .opened g now
    (db.next_id + 1)) (Nat.lt_add_of_pos_right Nat.two_pos) rfl rfl rfl rfl⟩
  rw [hopen]
  exact congrArg Except.ok
    (EpisodeRepo.add_delivery_new (fun d hd hid => absurd hid (h.delivered d hd).ne))

theorem escalate_matched (now : Timestamptz) {e : Episode} (h : RatchetInv grace db)
    (he : e ∈ db.episodes) (hopen : e.closed_at = none) (hg : GroupOk gis source batch_at e.slot g)
    (hlt : e.notified_severity < g.severity) :
    ∃ db', add_delivery gis e.slot e.id .escalated g now
        (EpisodeRepo.refresh e.id g.severity g.expires_at batch_at db) = (db', true) ∧
      Matched grace batch_at e.slot g db db' := by
  have hok := h.episodes e he
  have hnone : ∀ d ∈ db.deliveries, d.episode_id = e.id → d.severity ≠ g.severity := by
    intro d hd hid hsev
    have hle := hok.ratchet.le_notified (List.mem_filter.mpr ⟨hd, decide_eq_true hid⟩)
    omega
  refine ⟨_, EpisodeRepo.add_delivery_new hnone,
    matched_refresh h he hopen hg (n := g.severity) (le_max_right _ _)
    [delivered gis e.slot e.id .escalated g now db.next_id] (Nat.le_succ _) ?_ ?_ ?_⟩
  · simp [delivered, EpisodeRepo.delivery]
  · rw [Nat.max_eq_right (Nat.le_of_lt hlt)]
    exact hok.ratchet.escalate (d := delivered gis e.slot e.id .escalated g now db.next_id) hlt rfl
      hg.severity
  · simp [delivered, EpisodeRepo.delivery, Episode.slot]

theorem touch_matched {e : Episode} (h : RatchetInv grace db) (he : e ∈ db.episodes)
    (hopen : e.closed_at = none) (hg : GroupOk gis source batch_at e.slot g)
    (hle : g.severity ≤ e.notified_severity) :
    Matched grace batch_at e.slot g db
      (EpisodeRepo.refresh e.id e.notified_severity g.expires_at batch_at db) := by
  have hr := (h.episodes e he).ratchet
  have hm := matched_refresh h he hopen hg (n := e.notified_severity) (by omega)
    [] (le_refl _) (by simp) (by simpa using hr) (by simp)
  simpa [EpisodeRepo.refresh] using hm

-- what a round of the loop needs in order to return
def Settleable (grace : Nat) (slot : Nat × String) (current : Option OpenEpisode) : Prop :=
  Fits slot ∧ ∀ cur, current = some cur → Addable grace cur.expires_at

theorem match_group_spec (now : Timestamptz) {current : Option OpenEpisode}
    (h : RatchetInv settings.grace db) (hs : Settleable settings.grace slot current)
    (hc : Current (episodes_of slot db.episodes) current) (hg : GroupOk gis source batch_at slot g) :
    ∃ db', match_group gis settings batch_at now current slot g db = .ok (db',
        decide (decide_action current g.severity batch_at settings.grace ≠ .ok .TOUCH)) ∧
      Matched settings.grace batch_at slot g db db' := by
  have hopened : ∀ {db'}, decide_action current g.severity batch_at settings.grace = .ok .OPEN →
      (EpisodeRepo.open_ slot g.severity g.expires_at batch_at (vacated batch_at current db) >>=
        fun p => .ok (add_delivery gis slot p.2 .opened g now p.1)) = .ok (db', true) →
      match_group gis settings batch_at now current slot g db = .ok (db',
        decide (decide_action current g.severity batch_at settings.grace ≠ .ok .TOUCH)) := by
    intro db' hact hdb
    simp [match_group_open hact, hdb, hact]
  cases current with
  | none =>
      obtain ⟨db', hdb, hm⟩ := open_matched now h (reopenable_none h hc) hs.1 hg
      exact ⟨db', hopened rfl hdb, hm⟩
  | some cur =>
      have ha := hs.2 cur rfl
      obtain ⟨e, hmem, hopen, rfl⟩ := hc
      obtain ⟨he, rfl⟩ := mem_episodes_of.mp hmem
      by_cases hlate : ∀ x, e.expires_at = some x → batch_at < x + settings.grace
      · have hcur : is_current (some e.to_open) batch_at settings.grace = .ok true :=
          is_current_iff.mpr ⟨ha, iff_of_true rfl hlate⟩
        by_cases hlt : e.notified_severity < g.severity
        · have hact := decide_action_escalate hcur hlt
          obtain ⟨db', hdb, hm⟩ := escalate_matched now h he hopen hg hlt
          refine ⟨db', ?_, hm⟩
          rw [match_group_escalate hact, hact]
          exact congrArg Except.ok hdb
        · have hact := decide_action_touch hcur (not_lt.mp hlt)
          refine ⟨_, ?_, touch_matched h he hopen hg (not_lt.mp hlt)⟩
          rw [match_group_touch hact, hact]
          rfl
      · have hcur : is_current (some e.to_open) batch_at settings.grace = .ok false :=
          is_current_iff.mpr ⟨ha, iff_of_false Bool.false_ne_true hlate⟩
        obtain ⟨db', hdb, hm⟩ := open_matched now h (reopenable_close h he hopen hcur) hs.1 hg
        exact ⟨db', hopened (decide_action_open hcur g.severity) hdb, hm⟩

theorem match_group_settleable {now : Timestamptz} {current : Option OpenEpisode}
    {r : NotificationsDb G × Bool} (h : RatchetInv settings.grace db)
    (hc : Current (episodes_of slot db.episodes) current)
    (hr : match_group gis settings batch_at now current slot g db = .ok r) :
    Settleable settings.grace slot current := by
  have hkey : ∀ cur, current = some cur → Fits slot := by
    rintro cur rfl
    obtain ⟨e, hmem, -, -⟩ := hc
    obtain ⟨he, rfl⟩ := mem_episodes_of.mp hmem
    exact (h.episodes e he).key
  rcases match_group_cases hr with ⟨cur, hcur, hact, -⟩ | ⟨cur, hcur, hact, -⟩ | ⟨p, hact, hp, -⟩
  · refine ⟨hkey cur hcur, fun c hc' => ?_⟩
    obtain rfl := Option.some.inj (hcur.symm.trans hc')
    exact decide_action_addable hact
  · refine ⟨hkey cur hcur, fun c hc' => ?_⟩
    obtain rfl := Option.some.inj (hcur.symm.trans hc')
    exact decide_action_addable hact
  · refine ⟨(EpisodeRepo.open_iff.mp hp).1, fun c hc' => ?_⟩
    rw [hc'] at hact
    exact decide_action_addable hact

theorem match_group_covered (now : Timestamptz) {current : Option OpenEpisode}
    (h : RatchetInv settings.grace db) (ha : ∀ cur, current = some cur →
      Addable settings.grace cur.expires_at)
    (hc : Current (episodes_of slot db.episodes) current) (hg : GroupOk gis source batch_at slot g)
    (hcov : Covered batch_at g (episodes_of slot db.episodes)) :
    match_group gis settings batch_at now current slot g db = .ok (db, false) := by
  obtain ⟨o, homem, hoo, hsev, hat, hx⟩ := hcov
  obtain ⟨ho, rfl⟩ := mem_episodes_of.mp homem
  cases current with
  | none => exact absurd homem (hc ▸ List.not_mem_nil)
  | some cur =>
      have hadd := ha cur rfl
      obtain ⟨e, hmem, hopen, rfl⟩ := hc
      obtain ⟨he, hs⟩ := mem_episodes_of.mp hmem
      obtain rfl := h.one_open he ho hs hopen hoo
      have hcur : is_current (some e.to_open) batch_at settings.grace = .ok true :=
        (h.episodes e he).covers hadd hg hx
      have hsame : EpisodeRepo.refresh e.id e.notified_severity g.expires_at batch_at db = db := by
        simp [EpisodeRepo.refresh, update_self h.unique he (refreshed_covered hat hx)]
      rw [match_group_touch (decide_action_touch hcur hsev), show e.to_open.id = e.id from rfl,
        show e.to_open.notified_severity = e.notified_severity from rfl, hsame]

-- what the loop over the groups does, with the open episodes read before it
structure LoopMatched (settings : MatchSettings) (batch_at : Timestamptz)
    (opens : List ((Nat × String) × OpenEpisode)) (groups : Groups) (db db' : NotificationsDb G)
    (created : Groups) : Prop where
  inv : RatchetInv settings.grace db'
  subscriptions : db'.subscriptions = db.subscriptions
  watch_areas : db'.watch_areas = db.watch_areas
  others : ∀ s ∉ Dict.keys groups, episodes_of s db'.episodes = episodes_of s db.episodes
  covered : ∀ slot g, (slot, g) ∈ groups → Covered batch_at g (episodes_of slot db'.episodes)
  marked : ∀ e ∈ db'.episodes,
    e.opened_at = batch_at ∨ e.opened_at ∈ db.episodes.map Episode.opened_at
  created : created = groups.filter (fun p => decide
    (decide_action (Dict.get p.1 opens) p.2.severity batch_at settings.grace ≠ .ok .TOUCH))

theorem match_groups_spec (now : Timestamptz) {opens : List ((Nat × String) × OpenEpisode)} :
    ∀ {groups : Groups} {db : NotificationsDb G}, RatchetInv settings.grace db →
      (Dict.keys groups).Nodup →
      (∀ slot ∈ Dict.keys groups, Settleable settings.grace slot (Dict.get slot opens)) →
      (∀ slot g, (slot, g) ∈ groups → GroupOk gis source batch_at slot g) →
      (∀ slot ∈ Dict.keys groups, Current (episodes_of slot db.episodes) (Dict.get slot opens)) →
      ∃ db' created, match_groups gis settings batch_at now opens groups db = .ok (db', created) ∧
        LoopMatched settings batch_at opens groups db db' created := by
  intro groups
  induction groups with
  | nil =>
      exact fun h _ _ _ _ => ⟨_, _, rfl, h, rfl, rfl, fun _ _ => rfl, by simp,
        fun e he => .inr (List.mem_map_of_mem he), rfl⟩
  | cons p groups ih =>
      intro db h hn hf hg hc
      obtain ⟨slot, g⟩ := p
      simp only [Dict.keys, List.map_cons, List.nodup_cons] at hn
      obtain ⟨db₁, heq₁, h₁⟩ := match_group_spec now h (hf slot (by simp [Dict.keys]))
        (hc slot (by simp [Dict.keys]))
        (hg slot g (by simp))
      have hne : ∀ s ∈ Dict.keys groups, s ≠ slot := fun s hs he => hn.1 (he ▸ hs)
      obtain ⟨db₂, created, heq₂, h₂⟩ := ih h₁.inv hn.2
        (fun s hs => hf s (List.mem_cons_of_mem _ hs))
        (fun s g' hm => hg s g' (List.mem_cons_of_mem _ hm))
        (fun s hs => by
          rw [h₁.others s (hne s hs)]
          exact hc s (List.mem_cons_of_mem _ hs))
      refine ⟨db₂, _, by simp only [match_groups, heq₁, heq₂, bind, Except.bind]; rfl, h₂.inv,
        h₂.subscriptions.trans h₁.subscriptions, h₂.watch_areas.trans h₁.watch_areas,
        fun s hs => ?_, fun s g' hm => ?_, fun e he => ?_, ?_⟩
      · simp only [Dict.keys, List.map_cons, List.mem_cons, not_or] at hs
        exact (h₂.others s hs.2).trans (h₁.others s hs.1)
      · rcases List.mem_cons.mp hm with he | hm
        · simp only [Prod.mk.injEq] at he
          obtain ⟨rfl, rfl⟩ := he
          rw [h₂.others s hn.1]
          exact h₁.covered
        · exact h₂.covered s g' hm
      · rcases h₂.marked e he with he | he
        · exact .inl he
        · obtain ⟨o, ho, hoe⟩ := List.mem_map.mp he
          exact hoe ▸ h₁.marked o ho
      · rw [List.filter_cons, h₂.created]

theorem match_groups_settleable {now : Timestamptz} {opens : List ((Nat × String) × OpenEpisode)} :
    ∀ {groups : Groups} {db : NotificationsDb G}, RatchetInv settings.grace db →
      (Dict.keys groups).Nodup → (∀ slot g, (slot, g) ∈ groups → GroupOk gis source batch_at slot g) →
      (∀ slot ∈ Dict.keys groups, Current (episodes_of slot db.episodes) (Dict.get slot opens)) →
      ∀ {r : NotificationsDb G × Groups},
        match_groups gis settings batch_at now opens groups db = .ok r →
        ∀ slot ∈ Dict.keys groups, Settleable settings.grace slot (Dict.get slot opens) := by
  intro groups
  induction groups with
  | nil => simp [Dict.keys]
  | cons p groups ih =>
      intro db h hn hg hc r hr s hs
      obtain ⟨slot, g⟩ := p
      simp only [Dict.keys, List.map_cons, List.nodup_cons] at hn
      obtain ⟨r₁, hr₁, hr⟩ := bind_ok.mp hr
      obtain ⟨r₂, hr₂, -⟩ := bind_ok.mp hr
      have hcur := hc slot (by simp [Dict.keys])
      have hset := match_group_settleable h hcur hr₁
      obtain ⟨db₁, heq₁, h₁⟩ := match_group_spec now h hset hcur (hg slot g (by simp))
      obtain rfl := Except.ok.inj (heq₁.symm.trans hr₁)
      have hne : ∀ s ∈ Dict.keys groups, s ≠ slot := fun s hs he => hn.1 (he ▸ hs)
      rcases List.mem_cons.mp hs with rfl | hs
      · exact hset
      · refine ih h₁.inv hn.2 (fun s g' hm => hg s g' (List.mem_cons_of_mem _ hm))
          (fun s hs => ?_) hr₂ s hs
        rw [h₁.others s (hne s hs)]
        exact hc s (List.mem_cons_of_mem _ hs)

theorem match_groups_covered (now : Timestamptz) {opens : List ((Nat × String) × OpenEpisode)}
    (h : RatchetInv settings.grace db) : ∀ {groups : Groups},
      (∀ slot g, (slot, g) ∈ groups → GroupOk gis source batch_at slot g ∧
        Settleable settings.grace slot (Dict.get slot opens) ∧
        Current (episodes_of slot db.episodes) (Dict.get slot opens) ∧
        Covered batch_at g (episodes_of slot db.episodes)) →
      match_groups gis settings batch_at now opens groups db = .ok (db, []) := by
  intro groups
  induction groups with
  | nil => exact fun _ => rfl
  | cons p groups ih =>
      intro hall
      obtain ⟨slot, g⟩ := p
      obtain ⟨hg, hset, hc, hcov⟩ := hall slot g (by simp)
      have htail := ih (fun s g' hm => hall s g' (List.mem_cons_of_mem _ hm))
      simp [match_groups, match_group_covered now h hset.2 hc hg hcov, htail, bind, Except.bind]

abbrev Executed (gis : Gis G) (settings : MatchSettings) (source : Source)
    (batch_at : Timestamptz) (events : List (HazardEvent G)) (db db' : NotificationsDb G)
    (created : Groups) : Prop :=
  LoopMatched settings batch_at
    (EpisodeRepo.open_rows (Dict.keys (groups_of gis settings source batch_at events db)) db)
    (groups_of gis settings source batch_at events db) db db' created

-- when execute returns: the keys fit their column, the keys of the SELECT its arguments, and
-- the end of each open episode plus the grace is a datetime
structure Executable (grace : Nat) (groups : Groups) (db : NotificationsDb G) : Prop where
  fits : ∀ slot ∈ Dict.keys groups, Fits slot
  arguments : 2 * groups.length ≤ 32767
  addable : ∀ e ∈ db.episodes, e.closed_at = none → e.slot ∈ Dict.keys groups →
    Addable grace e.expires_at

theorem Executable.settleable {groups : Groups} (hx : Executable grace groups db)
    (h : RatchetInv grace db) {s : Nat × String} (hs : s ∈ Dict.keys groups) :
    Settleable grace s (Dict.get s (EpisodeRepo.open_rows (Dict.keys groups) db)) := by
  refine ⟨hx.fits s hs, fun cur hcur => ?_⟩
  have hc := h.current hs
  rw [hcur] at hc
  obtain ⟨e, hmem, hopen, rfl⟩ := hc
  obtain ⟨he, rfl⟩ := mem_episodes_of.mp hmem
  exact hx.addable e he hopen hs

theorem execute_groups_spec (source : Source) (batch_at now : Timestamptz)
    (events : List (HazardEvent G)) (h : RatchetInv settings.grace db)
    (hx : Executable settings.grace (groups_of gis settings source batch_at events db) db) :
    ∃ db' created, execute_groups gis settings source batch_at now events db = .ok (db', created) ∧
      Executed gis settings source batch_at events db db' created := by
  obtain ⟨hn, hok⟩ := @groups_of_ok _ gis settings source batch_at events db
  obtain ⟨db', created, heq, hm⟩ := match_groups_spec now h hn (fun s hs => hx.settleable h hs)
    (fun s g hm => hok s g (Dict.get_of_mem hn hm)) (fun s hs => h.current hs)
  exact ⟨db', created, execute_groups_iff.mpr ⟨hx.arguments, heq⟩, hm⟩

theorem execute_groups_ok {now : Timestamptz} {events : List (HazardEvent G)}
    {db' : NotificationsDb G} {created : Groups} (h : RatchetInv settings.grace db)
    (heq : execute_groups gis settings source batch_at now events db = .ok (db', created)) :
    Executable settings.grace (groups_of gis settings source batch_at events db) db ∧
      Executed gis settings source batch_at events db db' created := by
  obtain ⟨hn, hok⟩ := @groups_of_ok _ gis settings source batch_at events db
  obtain ⟨hlen, hloop⟩ := execute_groups_iff.mp heq
  have hset := match_groups_settleable h hn (fun s g hm => hok s g (Dict.get_of_mem hn hm))
    (fun s hs => h.current hs) hloop
  have hx : Executable settings.grace (groups_of gis settings source batch_at events db) db :=
    ⟨fun s hs => (hset s hs).1, hlen, fun e he hopen hs =>
      (hset e.slot hs).2 e.to_open (h.open_row he hopen hs)⟩
  obtain ⟨db₁, created₁, heq₁, h₁⟩ := execute_groups_spec source batch_at now events h hx
  obtain ⟨rfl, rfl⟩ := Prod.mk.inj (Except.ok.inj (heq.symm.trans heq₁))
  exact ⟨hx, h₁⟩

theorem groups_of_congr {db' : NotificationsDb G} (hs : db'.subscriptions = db.subscriptions)
    (ha : db'.watch_areas = db.watch_areas) (source : Source) (batch_at : Timestamptz)
    (events : List (HazardEvent G)) :
    groups_of gis settings source batch_at events db' =
      groups_of gis settings source batch_at events db := by
  simp [groups_of, MatchingRepo.has_active_subscriptions, MatchingRepo.matches_, MatchingRepo.rows,
    hs, ha]

theorem execute_groups_again {db' : NotificationsDb G} {created : Groups} {now : Timestamptz}
    {events : List (HazardEvent G)} {r : NotificationsDb G × Groups}
    (h : Executed gis settings source batch_at events db db' created)
    (hr : execute_groups gis settings source batch_at now events db' = .ok r) : r = (db', []) := by
  obtain ⟨hn, hok⟩ := @groups_of_ok _ gis settings source batch_at events db
  obtain ⟨hx, -⟩ := execute_groups_ok h.inv hr
  obtain ⟨-, hloop⟩ := execute_groups_iff.mp hr
  rw [groups_of_congr h.subscriptions h.watch_areas] at hx hloop
  have hcovered := match_groups_covered now h.inv (fun s g hm => by
    have hs : s ∈ Dict.keys (groups_of gis settings source batch_at events db) :=
      List.mem_map_of_mem (f := Prod.fst) hm
    exact ⟨hok s g (Dict.get_of_mem hn hm), hx.settleable h.inv hs, h.inv.current hs,
      h.covered s g hm⟩)
  exact Except.ok.inj (hloop.symm.trans hcovered)

end MatchBatchUseCase

end GeoHazard
