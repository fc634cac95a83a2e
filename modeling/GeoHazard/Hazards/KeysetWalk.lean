import GeoHazard.Hazards.ServedEvents
import Mathlib.Data.List.Forall2
import Mathlib.Logic.Function.Basic

namespace GeoHazard

variable {G : Type} {env : Env G} {lib : Shapely env} {text : CursorText} {sql : SpatialSql G}
variable {bbox_raw province : Option String} {f : Filters} {limit : Nat}

-- a row is in the filters' reach at the time of the request
def Matches (env : Env G) (sql : SpatialSql G) (bbox_raw province : Option String) (f : Filters)
    (now : Timestamptz) (e : HazardEvent G) : Prop :=
  ∃ bbox, parse_bbox env bbox_raw = .ok bbox ∧
    HazardEventRepo.selected sql bbox province f now e = true

-- every request of a walk meets a clock and a table of its own, and carries the last nextCursor
inductive ListWalk (lib : Shapely env) (text : CursorText) (sql : SpatialSql G)
    (bbox_raw province : Option String) (f : Filters) (limit : Nat) :
    Option String → List (Timestamptz × HazardEventRepo.Rows G) →
      List EventFeatureCollection → Prop
  | last {cursor_raw : Option String} {now : Timestamptz} {t : HazardEventRepo.Rows G}
      {c : EventFeatureCollection}
      (h : ListEventsUseCase.execute lib text sql bbox_raw province f limit cursor_raw now t = .ok c)
      (hlast : c.nextCursor = none) :
      ListWalk lib text sql bbox_raw province f limit cursor_raw [(now, t)] [c]
  | next {cursor_raw : Option String} {now : Timestamptz} {t : HazardEventRepo.Rows G}
      {c : EventFeatureCollection} {nextCursor : String}
      {ts : List (Timestamptz × HazardEventRepo.Rows G)} {cs : List EventFeatureCollection}
      (h : ListEventsUseCase.execute lib text sql bbox_raw province f limit cursor_raw now t = .ok c)
      (hnext : c.nextCursor = some nextCursor)
      (w : ListWalk lib text sql bbox_raw province f limit (some nextCursor) ts cs) :
      ListWalk lib text sql bbox_raw province f limit cursor_raw ((now, t) :: ts) (c :: cs)

def returned (cs : List EventFeatureCollection) : List EventFeature :=
  (cs.map EventFeatureCollection.features).flatten

def reached (sql : SpatialSql G) (bbox : Option Bbox) (province : Option String) (f : Filters)
    (s : Timestamptz × HazardEventRepo.Rows G) : HazardEventRepo.Rows G :=
  s.2.filter (HazardEventRepo.selected sql bbox province f s.1)

def Serves (lib : Shapely env) (e : HazardEvent G) (feature : EventFeature) : Prop :=
  feature_from_orm lib e = .ok feature

theorem request_ok {cursor_raw : Option String} {now : Timestamptz} {t : HazardEventRepo.Rows G}
    {c : EventFeatureCollection}
    (h : ListEventsUseCase.execute lib text sql bbox_raw province f limit cursor_raw now t = .ok c) :
    ∃ bbox cursor items key, parse_bbox env bbox_raw = .ok bbox ∧
      ListEventsUseCase.parse_cursor text cursor_raw = .ok cursor ∧
      Keyset.page HazardEvent.page_key limit (cursor.map toLex)
        (reached sql bbox province f (now, t)) = (items, key) ∧
      List.Forall₂ (Serves lib) items c.features ∧
      c.nextCursor = key.map (fun k => Pagination.encode_cursor text (ofLex k).1 (ofLex k).2) := by
  obtain ⟨bbox, cursor, hb, hc, hf, hn⟩ := ListEventsUseCase.execute_ok h
  refine ⟨bbox, cursor, _, _, hb, hc, rfl, hf, ?_⟩
  rw [hn]
  simp only [HazardEventRepo.list_page, Option.map_map]
  rfl

theorem request_served {bbox : Option Bbox} {c : Option EventKey} {cursor_raw : Option String}
    {now : Timestamptz} {t items : HazardEventRepo.Rows G} {key : Option EventKey}
    (hb : parse_bbox env bbox_raw = .ok bbox)
    (hc : ListEventsUseCase.parse_cursor text cursor_raw = .ok (c.map ofLex))
    (hp : Keyset.page HazardEvent.page_key limit c (reached sql bbox province f (now, t)) =
      (items, key)) (hserved : ∀ e ∈ items, lib.geometry_collection e.geom = false) :
    ∃ collection, ListEventsUseCase.execute lib text sql bbox_raw province f limit cursor_raw now t =
        .ok collection ∧ collection.nextCursor =
        key.map (fun k => Pagination.encode_cursor text (ofLex k).1 (ofLex k).2) := by
  have hkey : (c.map ofLex).map toLex = c := by cases c <;> rfl
  have hrows : (HazardEventRepo.list_page sql bbox province f limit (c.map ofLex) now t).1 = items := by
    simp only [reached] at hp
    simp [HazardEventRepo.list_page, hkey, hp]
  obtain ⟨collection, hok⟩ := (ListEventsUseCase.execute_iff hb hc).mpr (hrows ▸ hserved)
  obtain ⟨bbox', cursor', items', key', hb', hc', hp', _, hn⟩ := request_ok hok
  obtain rfl := Except.ok.inj (hb.symm.trans hb')
  obtain rfl := Except.ok.inj (hc.symm.trans hc')
  rw [hkey, hp, Prod.mk.injEq] at hp'
  exact ⟨collection, hok, hp'.2 ▸ hn⟩

theorem parse_encoded (text : CursorText) (k : EventKey) :
    ListEventsUseCase.parse_cursor text
      (some (Pagination.encode_cursor text (ofLex k).1 (ofLex k).2)) = .ok (some (ofLex k)) := by
  simp [ListEventsUseCase.parse_cursor, Pagination.decode_encode]

theorem ListWalk.keyset {cursor_raw : Option String}
    {ts : List (Timestamptz × HazardEventRepo.Rows G)} {cs : List EventFeatureCollection}
    (w : ListWalk lib text sql bbox_raw province f limit cursor_raw ts cs) :
    ∃ bbox cursor ps, parse_bbox env bbox_raw = .ok bbox ∧
      ListEventsUseCase.parse_cursor text cursor_raw = .ok cursor ∧
      Keyset.Walk HazardEvent.page_key limit (cursor.map toLex)
        (ts.map (reached sql bbox province f)) ps ∧
      List.Forall₂ (List.Forall₂ (Serves lib)) ps (cs.map EventFeatureCollection.features) := by
  induction w with
  | last h hlast =>
      obtain ⟨bbox, cursor, items, key, hb, hc, hp, hf, hn⟩ := request_ok h
      cases key with
      | none => exact ⟨bbox, cursor, [items], hb, hc, .last hp, .cons hf .nil⟩
      | some k => simp [hlast] at hn
  | next h hnext w ih =>
      obtain ⟨bbox, cursor, items, key, hb, hc, hp, hf, hn⟩ := request_ok h
      obtain ⟨bbox', cursor', ps, hb', hc', hw, hfs⟩ := ih
      obtain rfl := Except.ok.inj (hb.symm.trans hb')
      cases key with
      | none => simp [hnext] at hn
      | some k =>
          obtain rfl := Option.some.inj (hnext.symm.trans hn)
          rw [parse_encoded, Except.ok.injEq] at hc'
          subst hc'
          exact ⟨bbox, cursor, items :: ps, hb, hc, .next hp hw, .cons hf hfs⟩

theorem ListWalk.first {ts : List (Timestamptz × HazardEventRepo.Rows G)}
    {cs : List EventFeatureCollection}
    (w : ListWalk lib text sql bbox_raw province f limit none ts cs) :
    ∃ bbox ps, parse_bbox env bbox_raw = .ok bbox ∧
      Keyset.Walk HazardEvent.page_key limit none (ts.map (reached sql bbox province f)) ps ∧
      ps.length = cs.length ∧ List.Forall₂ (Serves lib) ps.flatten (returned cs) := by
  obtain ⟨bbox, cursor, ps, hb, hc, hw, hf⟩ := w.keyset
  obtain rfl : cursor = none := by simpa [ListEventsUseCase.parse_cursor, eq_comm] using hc
  exact ⟨bbox, ps, hb, hw, by simpa using hf.length_eq, List.rel_flatten hf⟩

theorem ListWalk.of_keyset {bbox : Option Bbox} (hb : parse_bbox env bbox_raw = .ok bbox)
    {c : Option EventKey} {us ps : List (HazardEventRepo.Rows G)}
    (w : Keyset.Walk HazardEvent.page_key limit c us ps)
    (hserved : ∀ e ∈ ps.flatten, lib.geometry_collection e.geom = false)
    {cursor_raw : Option String}
    (hc : ListEventsUseCase.parse_cursor text cursor_raw = .ok (c.map ofLex))
    {ts : List (Timestamptz × HazardEventRepo.Rows G)}
    (hts : ts.map (reached sql bbox province f) = us) :
    ∃ cs, ListWalk lib text sql bbox_raw province f limit cursor_raw ts cs := by
  induction w generalizing cursor_raw ts with
  | @last c u p h =>
      obtain ⟨⟨now, t⟩, rfl, rfl⟩ := List.map_eq_singleton_iff.mp hts
      obtain ⟨collection, hok, hn⟩ := request_served hb hc h
        (fun e he => hserved e (by simpa using he))
      exact ⟨[collection], .last hok hn⟩
  | @next c u p k us ps h w ih =>
      obtain ⟨⟨now, t⟩, ts, rfl, rfl, hrest⟩ := List.map_eq_cons_iff.mp hts
      obtain ⟨collection, hok, hn⟩ := request_served hb hc h
        (fun e he => hserved e (by simp [he]))
      obtain ⟨cs, hcs⟩ := ih (fun e he => hserved e (by
        rw [List.flatten_cons, List.mem_append]
        exact .inr he)) (parse_encoded text k) hrest
      exact ⟨collection :: cs, .next hok hn hcs⟩

theorem nodup_page_key {bbox : Option Bbox} {s : Timestamptz × HazardEventRepo.Rows G}
    (h : (s.2.map (fun e => e.id)).Nodup) :
    ((reached sql bbox province f s).map HazardEvent.page_key).Nodup := by
  have hsub : (reached sql bbox province f s).Sublist s.2 := List.filter_sublist
  have hids := h.sublist (hsub.map (fun e => e.id))
  have hne := List.pairwise_map.mp hids
  exact List.pairwise_map.mpr (hne.imp (fun hid hkey => hid (congrArg (fun k => (ofLex k).2) hkey)))

theorem nodup_reached {bbox : Option Bbox} {ts : List (Timestamptz × HazardEventRepo.Rows G)}
    (hid : ∀ s ∈ ts, (s.2.map (fun e => e.id)).Nodup) :
    ∀ u ∈ ts.map (reached sql bbox province f), (u.map HazardEvent.page_key).Nodup := by
  intro u hu
  obtain ⟨s, hs, rfl⟩ := List.mem_map.mp hu
  exact nodup_page_key (hid s hs)

theorem drawn {bbox : Option Bbox} {ts : List (Timestamptz × HazardEventRepo.Rows G)}
    {cursor : Option EventKey} {ps : List (HazardEventRepo.Rows G)}
    (hw : Keyset.Walk HazardEvent.page_key limit cursor (ts.map (reached sql bbox province f)) ps) :
    ∀ e ∈ ps.flatten, ∃ s ∈ ts, e ∈ s.2 ∧
      HazardEventRepo.selected sql bbox province f s.1 e = true := by
  intro e he
  obtain ⟨u, hu, hmem⟩ := hw.drawn e he
  obtain ⟨s, hs, rfl⟩ := List.mem_map.mp hu
  exact ⟨s, hs, List.mem_filter.mp hmem⟩

theorem keys_of_served {items : HazardEventRepo.Rows G} {features : List EventFeature}
    (h : List.Forall₂ (Serves lib) items features) :
    features.map EventFeature.page_key = items.map HazardEvent.page_key := by
  induction h with
  | nil => rfl
  | cons hf _ ih => rw [List.map_cons, List.map_cons, ih, feature_from_orm_key hf]

theorem ListWalk.decreasing {ts : List (Timestamptz × HazardEventRepo.Rows G)}
    {cs : List EventFeatureCollection}
    (w : ListWalk lib text sql bbox_raw province f limit none ts cs) (hl : 1 ≤ limit)
    (hid : ∀ s ∈ ts, (s.2.map (fun e => e.id)).Nodup) :
    (returned cs).Pairwise (fun a b => b.page_key < a.page_key) := by
  obtain ⟨bbox, ps, hb, hw, _, hf⟩ := w.first
  have hkeys : (ps.flatten.map HazardEvent.page_key).Pairwise (fun a b => b < a) :=
    List.pairwise_map.mpr (hw.decreasing hl (nodup_reached hid)).1
  rw [← keys_of_served hf] at hkeys
  exact List.pairwise_map.mp hkeys

theorem found {bbox : Option Bbox} {ts : List (Timestamptz × HazardEventRepo.Rows G)}
    {ps : List (HazardEventRepo.Rows G)} (hl : 1 ≤ limit)
    (hb : parse_bbox env bbox_raw = .ok bbox)
    (hw : Keyset.Walk HazardEvent.page_key limit none (ts.map (reached sql bbox province f)) ps)
    (hid : ∀ s ∈ ts, (s.2.map (fun e => e.id)).Nodup) {starts_at : Timestamptz} {id : Nat}
    (hrow : ∀ s ∈ ts, ∃ e ∈ s.2, e.id = id ∧ e.starts_at = starts_at ∧
      Matches env sql bbox_raw province f s.1 e) :
    ∃ e ∈ ps.flatten, e.page_key = toLex (starts_at, id) := by
  refine hw.complete hl (nodup_reached hid) (by simp) (fun u hu => ?_)
  obtain ⟨s, hs, rfl⟩ := List.mem_map.mp hu
  obtain ⟨e, he, rfl, rfl, bbox', hb', hsel⟩ := hrow s hs
  obtain rfl := Except.ok.inj (hb.symm.trans hb')
  exact ⟨e, List.mem_filter.mpr ⟨he, hsel⟩, rfl⟩

theorem ListWalk.exactly_once {ts : List (Timestamptz × HazardEventRepo.Rows G)}
    {cs : List EventFeatureCollection}
    (w : ListWalk lib text sql bbox_raw province f limit none ts cs) (hl : 1 ≤ limit)
    (hid : ∀ s ∈ ts, (s.2.map (fun e => e.id)).Nodup) {starts_at : Timestamptz} {id : Nat}
    (hrow : ∀ s ∈ ts, ∃ e ∈ s.2, e.id = id ∧ e.starts_at = starts_at ∧
      Matches env sql bbox_raw province f s.1 e) :
    ((returned cs).map (fun feature => feature.id)).count id = 1 := by
  obtain ⟨bbox, ps, hb, hw, _, hf⟩ := w.first
  have hfound := found hl hb hw hid hrow
  -- a row with this id has this key too, since the id is the same row in its snapshot
  have hkey : ∀ e ∈ ps.flatten, e.id = id → e.page_key = toLex (starts_at, id) := by
    intro e he heq
    obtain ⟨s, hs, hmem, _⟩ := drawn hw e he
    obtain ⟨r, hr, hrid, rfl, _⟩ := hrow s hs
    have hsame := List.inj_on_of_nodup_map (hid s hs) hmem hr (heq.trans hrid.symm)
    rw [hsame, HazardEvent.page_key, hrid]
  have hids : (returned cs).map (fun feature => feature.id) = ps.flatten.map (fun e => e.id) := by
    have hkeys := congrArg (List.map (fun k => (ofLex k).2)) (keys_of_served hf)
    rw [List.map_map, List.map_map] at hkeys
    exact hkeys
  have hone : ((ps.flatten.map HazardEvent.page_key).count (toLex (starts_at, id))) = 1 :=
    List.count_eq_one_of_mem (hw.once hl (nodup_reached hid)) (List.mem_map.mpr hfound)
  rw [hids, ← hone, List.count_eq_countP, List.count_eq_countP, List.countP_map, List.countP_map]
  refine List.countP_congr (fun e he => ?_)
  simp only [Function.comp_apply, beq_iff_eq]
  exact ⟨hkey e he, fun h => congrArg (fun k => (ofLex k).2) h⟩

theorem selected_at (hf : f.active ≠ some true) (bbox : Option Bbox) (now now' : Timestamptz) :
    HazardEventRepo.selected sql bbox province f now =
      HazardEventRepo.selected sql bbox province f now' := by
  have hactive : f.active.getD false = false := by
    cases ha : f.active with
    | none => rfl
    | some b => cases b <;> simp_all
  funext e
  simp [HazardEventRepo.selected, apply_filters, hactive]

theorem ListWalk.length_of_unchanging {ts : List (Timestamptz × HazardEventRepo.Rows G)}
    {cs : List EventFeatureCollection} {t : HazardEventRepo.Rows G} {bbox : Option Bbox}
    (w : ListWalk lib text sql bbox_raw province f limit none ts cs) (hl : 1 ≤ limit)
    (hf : f.active ≠ some true) (hid : (t.map (fun e => e.id)).Nodup)
    (hb : parse_bbox env bbox_raw = .ok bbox) (ht : ∀ s ∈ ts, s.2 = t) (now : Timestamptz) :
    cs.length = Keyset.pages limit (t.countP (HazardEventRepo.selected sql bbox province f now)) := by
  obtain ⟨bbox', ps, hb', hw, hlen, _⟩ := w.first
  obtain rfl := Except.ok.inj (hb.symm.trans hb')
  have hsame : ∀ u ∈ ts.map (reached sql bbox province f),
      u = reached sql bbox province f (now, t) := by
    intro u hu
    obtain ⟨s, hs, rfl⟩ := List.mem_map.mp hu
    simp only [reached, ht s hs, selected_at hf bbox s.1 now]
  rw [← hlen, hw.length_of_constant hl (nodup_page_key (s := (now, t)) hid) hsame]
  simp [Keyset.ordered, reached, List.length_insertionSort, List.countP_eq_length_filter]

theorem ListWalk.served {ts : List (Timestamptz × HazardEventRepo.Rows G)}
    {cs : List EventFeatureCollection} {t : HazardEventRepo.Rows G} {bbox : Option Bbox}
    (w : ListWalk lib text sql bbox_raw province f limit none ts cs) (hl : 1 ≤ limit)
    (hf : f.active ≠ some true) (hid : (t.map (fun e => e.id)).Nodup)
    (hb : parse_bbox env bbox_raw = .ok bbox) (ht : ∀ s ∈ ts, s.2 = t) {now : Timestamptz}
    {e : HazardEvent G} (he : e ∈ t)
    (hsel : HazardEventRepo.selected sql bbox province f now e = true) :
    lib.geometry_collection e.geom = false := by
  obtain ⟨bbox', ps, hb', hw, _, hserved⟩ := w.first
  obtain rfl := Except.ok.inj (hb.symm.trans hb')
  have hids : ∀ s ∈ ts, (s.2.map (fun e => e.id)).Nodup := fun s hs => ht s hs ▸ hid
  have hrow : ∀ s ∈ ts, ∃ r ∈ s.2, r.id = e.id ∧ r.starts_at = e.starts_at ∧
      Matches env sql bbox_raw province f s.1 r :=
    fun s hs => ⟨e, ht s hs ▸ he, rfl, rfl, bbox, hb, selected_at hf bbox s.1 now ▸ hsel⟩
  obtain ⟨r, hr, hkey⟩ := found hl hb hw hids hrow
  obtain ⟨s, hs, hmem, _⟩ := drawn hw r hr
  obtain rfl := List.inj_on_of_nodup_map hid (ht s hs ▸ hmem) he
    (congrArg (fun k => (ofLex k).2) hkey)
  exact feature_from_orm_ok.mp (each_exists.mp ⟨_, each_ok.mpr hserved⟩ r hr)

theorem ListWalk.exists_of_unchanging {t : HazardEventRepo.Rows G} {bbox : Option Bbox}
    (hl : 1 ≤ limit) (hf : f.active ≠ some true) (hid : (t.map (fun e => e.id)).Nodup)
    (hb : parse_bbox env bbox_raw = .ok bbox) (clock : Nat → Timestamptz)
    (hserved : ∀ e ∈ t, HazardEventRepo.selected sql bbox province f (clock 0) e = true →
      lib.geometry_collection e.geom = false) :
    ∃ cs, ListWalk lib text sql bbox_raw province f limit none
      ((List.range cs.length).map (fun i => (clock i, t))) cs := by
  have hu : ((reached sql bbox province f (clock 0, t)).map HazardEvent.page_key).Nodup :=
    nodup_page_key hid
  obtain ⟨ps, hw⟩ := Keyset.Walk.exists hl hu none
  have hts : ((List.range ps.length).map (fun i => (clock i, t))).map
      (reached sql bbox province f) =
        List.replicate ps.length (reached sql bbox province f (clock 0, t)) := by
    refine List.eq_replicate_iff.mpr ⟨by simp, fun u hu => ?_⟩
    simp only [List.map_map, List.mem_map] at hu
    obtain ⟨i, _, rfl⟩ := hu
    simp only [Function.comp_apply, reached, selected_at hf bbox (clock i) (clock 0)]
  have hrows : ∀ e ∈ ps.flatten, lib.geometry_collection e.geom = false := by
    intro e he
    obtain ⟨u, hmem, heu⟩ := hw.drawn e he
    obtain rfl := (List.mem_replicate.mp hmem).2
    exact hserved e (List.mem_filter.mp heu).1 (List.mem_filter.mp heu).2
  have hc : ListEventsUseCase.parse_cursor text none = .ok ((none : Option EventKey).map ofLex) := rfl
  obtain ⟨cs, hcs⟩ := ListWalk.of_keyset hb hw hrows hc hts
  obtain ⟨_, ps', _, hw', hlen, _⟩ := hcs.first
  have hcount : cs.length = ps.length := by
    rw [← hlen, hw'.shape.2]
    simp
  exact ⟨cs, by rwa [hcount]⟩

theorem keyset_walk (hl : 1 ≤ limit) :
    (∀ ts cs, ListWalk lib text sql bbox_raw province f limit none ts cs →
      (∀ s ∈ ts, (s.2.map (fun e => e.id)).Nodup) →
      (∀ starts_at id, (∀ s ∈ ts, ∃ e ∈ s.2, e.id = id ∧ e.starts_at = starts_at ∧
          Matches env sql bbox_raw province f s.1 e) →
        ((returned cs).map (fun feature => feature.id)).count id = 1) ∧
      (returned cs).Pairwise (fun a b => b.page_key < a.page_key)) ∧
    (f.active ≠ some true → ∀ t bbox, (t.map (fun e => e.id)).Nodup →
      parse_bbox env bbox_raw = .ok bbox →
      (∀ ts cs, ListWalk lib text sql bbox_raw province f limit none ts cs →
        (∀ s ∈ ts, s.2 = t) → ∀ now, cs.length =
          Keyset.pages limit (t.countP (HazardEventRepo.selected sql bbox province f now))) ∧
      ∀ clock : Nat → Timestamptz,
        ((∃ cs, ListWalk lib text sql bbox_raw province f limit none
            ((List.range cs.length).map (fun i => (clock i, t))) cs) ↔
          ∀ e ∈ t, HazardEventRepo.selected sql bbox province f (clock 0) e = true →
            lib.geometry_collection e.geom = false)) ∧
    ∀ cursor_raw now t bbox cursor, parse_bbox env bbox_raw = .ok bbox →
      ListEventsUseCase.parse_cursor text cursor_raw = .ok cursor →
      ((∃ c, ListEventsUseCase.execute lib text sql bbox_raw province f limit cursor_raw now t =
          .ok c) ↔
        ∀ e ∈ (HazardEventRepo.list_page sql bbox province f limit cursor now t).1,
          lib.geometry_collection e.geom = false) := by
  refine ⟨fun ts cs w hid => ⟨fun _ _ hrow => w.exactly_once hl hid hrow, w.decreasing hl hid⟩,
    fun hf t bbox hid hb => ⟨fun ts cs w ht now => w.length_of_unchanging hl hf hid hb ht now,
      fun clock => ⟨fun ⟨cs, w⟩ e he hsel => ?_, ListWalk.exists_of_unchanging hl hf hid hb clock⟩⟩,
    fun _ _ _ _ _ hb hc => ListEventsUseCase.execute_iff hb hc⟩
  refine w.served hl hf hid hb (fun s hs => ?_) he hsel
  obtain ⟨i, _, rfl⟩ := List.mem_map.mp hs
  rfl

-- one value has the text that the library gives it, any other a text after "="
def spelled {α : Type} [DecidableEq α] (value : α) (text : List Char) (other : α → List Char)
    (a : α) : String :=
  String.ofList (if a = value then text else '=' :: other a)

theorem spelled_injective {α : Type} [DecidableEq α] {value : α} {text : List Char}
    {other : α → List Char} (ho : Function.Injective other) (ht : text.head? ≠ some '=') :
    Function.Injective (spelled value text other) := by
  intro a b h
  have htext := String.ofList_injective h
  by_cases ha : a = value
  · by_cases hb : b = value
    · exact ha.trans hb.symm
    · rw [if_pos ha, if_neg hb] at htext
      simp [htext] at ht
  · by_cases hb : b = value
    · rw [if_neg ha, if_pos hb] at htext
      simp [← htext] at ht
    · rw [if_neg ha, if_neg hb, List.cons.injEq] at htext
      exact ho htext.2

theorem quote_pair_injective : Function.Injective
    (fun p : String × String => Json.quote p.1 ++ Json.quote p.2) := by
  rintro ⟨a, b⟩ ⟨c, d⟩ h
  obtain ⟨rfl, hrest⟩ := Json.quote_inj h
  have hsecond : Json.quote b ++ [] = Json.quote d ++ [] := congrArg (· ++ []) hrest
  rw [(Json.quote_inj hsecond).1]

def noon : Timestamptz := (july 2 12).instant

def noon_iso : String := "2026-07-02T12:00:00+00:00"

def second_id : String := "00000000-0000-0000-0000-000000000002"

def noon_json : String :=
  "[\"2026-07-02T12:00:00+00:00\", \"00000000-0000-0000-0000-000000000002\"]"

def noon_cursor : String :=
  "WyIyMDI2LTA3LTAyVDEyOjAwOjAwKzAwOjAwIiwgIjAwMDAwMDAwLTAwMDAtMDAwMC0wMDAwLTAwMDAwMDAwMDAwMiJd"

def isoformat : Timestamptz → String := spelled noon noon_iso.toList Json.intText

def uuid_text : Nat → String := spelled 2 second_id.toList (fun n => Json.intText n)

def json_pair : String × String → String :=
  spelled (noon_iso, second_id) noon_json.toList (fun p => Json.quote p.1 ++ Json.quote p.2)

def base64 : String → String := spelled noon_json noon_cursor.toList String.toList

theorem isoformat_injective : Function.Injective isoformat :=
  spelled_injective (fun _ _ h => Json.intText_injective h) (by decide)

theorem uuid_text_injective : Function.Injective uuid_text :=
  spelled_injective (fun _ _ h => Int.ofNat.inj (Json.intText_injective h)) (by decide)

theorem json_pair_injective : Function.Injective json_pair :=
  spelled_injective quote_pair_injective (by decide)

theorem base64_injective : Function.Injective base64 :=
  spelled_injective (fun _ _ h => String.toList_injective h) (by decide)

noncomputable def cursor_text : CursorText where
  isoformat := isoformat
  fromisoformat := Function.partialInv isoformat
  str := uuid_text
  UUID := Function.partialInv uuid_text
  dumps := json_pair
  loads raw := match Function.partialInv json_pair raw with
    | some p => .ok (.arr [.str p.1, .str p.2])
    | none => .error .value_error
  urlsafe_b64encode := base64
  urlsafe_b64decode := Function.partialInv base64
  fromisoformat_isoformat := Function.partialInv_left isoformat_injective
  UUID_str := Function.partialInv_left uuid_text_injective
  loads_dumps p := by simp only [Function.partialInv_left json_pair_injective p]
  urlsafe_b64decode_encode := Function.partialInv_left base64_injective

def plane_sql : SpatialSql PlaneShape where
  ST_MakeEnvelope b := .polygon [(b.min_lon, b.min_lat), (b.max_lon, b.max_lat)]
  ST_Intersects a b := a = b
  near_prefilter latitude longitude _ := .point longitude latitude
  ST_DWithin g latitude longitude _ := g = .point longitude latitude
  ST_Distance _ _ _ := PlaneShape.zero
  round x := x

def quake (id hour : Nat) : HazardEvent PlaneShape where
  source := .ign
  hazard_type := .earthquake
  external_id := "es2026" ++ toString id
  geom := .point PlaneShape.zero PlaneShape.two
  severity := severity_two
  starts_at := (july 2 hour).instant
  ends_at := some (july 2 hour).instant
  attrs := .obj []
  content_hash := ""
  id := id
  province_code := none
  created_at := noon
  updated_at := none
  xmin := 1

-- two earthquakes, and a third one that is inserted between the two requests
def two_requests : List (Timestamptz × HazardEventRepo.Rows PlaneShape) :=
  [(noon, [quake 1 10, quake 2 12]), (noon + 1, [quake 1 10, quake 2 12, quake 3 14])]

open PlaneShape

def quake_collection (id hour : Nat) (nextCursor : Option String) : EventFeatureCollection where
  features := [⟨id, [("type", .str "Point"), ("coordinates", .list [.float zero, .float two])],
    .model_validate (quake id hour)⟩]
  numberReturned := 1
  nextCursor := nextCursor
  attribution := attributions_for ["ign"]

theorem quake_served {cursor_raw : Option String} {cursor : Option (Timestamptz × Nat)}
    {now : Timestamptz} {t : HazardEventRepo.Rows PlaneShape} {id hour : Nat}
    {key : Option (Timestamptz × Nat)}
    (hc : ListEventsUseCase.parse_cursor cursor_text cursor_raw = .ok cursor)
    (hp : HazardEventRepo.list_page plane_sql none none no_filters 1 cursor now t =
      ([quake id hour], key)) :
    ListEventsUseCase.execute shapely cursor_text plane_sql none none no_filters 1 cursor_raw now t =
      .ok (quake_collection id hour
        (key.map (fun k => Pagination.encode_cursor cursor_text k.1 k.2))) := by
  have hfeature : each (feature_from_orm shapely) [quake id hour] =
      .ok (quake_collection id hour none).features := rfl
  have hnone : parse_bbox plane_env none = .ok none := rfl
  rw [ListEventsUseCase.execute_parsed hnone hc, hp]
  simp only [hfeature]
  rfl

theorem two_requests_walk : ListWalk shapely cursor_text plane_sql none none no_filters 1 none
    two_requests [quake_collection 2 12 (some noon_cursor), quake_collection 1 10 none] := by
  have henc : Pagination.encode_cursor cursor_text noon 2 = noon_cursor := by decide
  have hnone : ListEventsUseCase.parse_cursor cursor_text none = .ok none := rfl
  have hrows : HazardEventRepo.list_page plane_sql none none no_filters 1 none noon
      [quake 1 10, quake 2 12] = ([quake 2 12], some (noon, 2)) := rfl
  have hfirst := quake_served hnone hrows
  have hdec : ListEventsUseCase.parse_cursor cursor_text (some noon_cursor) =
      .ok (some (noon, 2)) := henc ▸ parse_encoded cursor_text (toLex (noon, 2))
  have hlater : HazardEventRepo.list_page plane_sql none none no_filters 1 (some (noon, 2)) (noon + 1)
      [quake 1 10, quake 2 12, quake 3 14] = ([quake 1 10], none) := rfl
  have hsecond := quake_served hdec hlater
  rw [Option.map_some, henc] at hfirst
  exact .next hfirst rfl (.last hsecond rfl)

-- the third earthquake comes late; over the first two alone there are two pages
theorem keyset_walk_inserting :
    ((returned [quake_collection 2 12 (some noon_cursor), quake_collection 1 10 none]).map
        (fun feature => feature.id)).count 1 = 1 ∧
      (returned [quake_collection 2 12 (some noon_cursor), quake_collection 1 10 none]).Pairwise
        (fun a b => b.page_key < a.page_key) ∧
      ∃ cs, ListWalk shapely cursor_text plane_sql none none no_filters 1 none
        ((List.range cs.length).map (fun i : Nat => (noon + i, [quake 1 10, quake 2 12]))) cs ∧
        cs.length = 2 := by
  obtain ⟨hwalks, hstatic, _⟩ := @keyset_walk _ _ shapely cursor_text plane_sql none none no_filters
    1 (le_refl 1)
  obtain ⟨honce, hdecreasing⟩ := hwalks two_requests _ two_requests_walk (by decide)
  refine ⟨honce (july 2 10).instant 1 (fun s hs => ⟨quake 1 10, ?_, rfl, rfl, none, rfl, ?_⟩),
    hdecreasing, ?_⟩
  · simp only [two_requests, List.mem_cons, List.not_mem_nil, or_false] at hs
    rcases hs with rfl | rfl <;> simp
  · simp only [two_requests, List.mem_cons, List.not_mem_nil, or_false] at hs
    rcases hs with rfl | rfl <;> rfl
  · obtain ⟨hlength, hexists⟩ := hstatic (by decide) [quake 1 10, quake 2 12] none (by decide) rfl
    obtain ⟨cs, w⟩ := (hexists (fun i => noon + i)).mpr (by simp [quake, shapely, is_collection])
    refine ⟨cs, w, hlength _ cs w (fun s hs => ?_) noon⟩
    obtain ⟨i, _, rfl⟩ := List.mem_map.mp hs
    rfl

-- a walk over the table with the repaired ring never ends
theorem spiked_walk_never_ends :
    SyncStep plane_env (Db.empty _) (.committed (ran_at 1 (july 2 11)) (.aemet [spiked_warning]))
      spiked ∧
    ∀ text sql, spiked.hazard_events.countP
        (HazardEventRepo.selected sql none none no_filters noon) = 1 ∧
      ¬ ∃ ts cs, (∀ s ∈ ts, s.2 = spiked.hazard_events) ∧
        ListWalk shapely text sql none none no_filters 100 none ts cs := by
  refine ⟨SyncStep.after (by decide), fun text sql => ⟨rfl, ?_⟩⟩
  rintro ⟨ts, cs, ht, w⟩
  have hraised : ∀ now t c, t = spiked.hazard_events →
      ListEventsUseCase.execute shapely text sql none none no_filters 100 none now t ≠ .ok c := by
    rintro now _ c rfl hok
    simp [spiked_raises text sql now] at hok
  cases w with
  | last h => exact hraised _ _ _ (ht _ (List.mem_singleton_self _)) h
  | next h => exact hraised _ _ _ (ht _ List.mem_cons_self) h

end GeoHazard
