import GeoHazard.Hazards.Parsers
import GeoHazard.Hazards.ReferenceEnv

namespace GeoHazard

open EffisParser

structure InRange (v : PyFloat × PyFloat) : Prop where
  finite_lon : v.1.isfinite = true
  finite_lat : v.2.isfinite = true
  west : minus_180.le v.1 = true
  east : v.1.le plus_180 = true
  south : minus_90.le v.2 = true
  north : v.2.le plus_90 = true

section
variable {F : Type} (val : F → PyFloat)

def number : Json F → Option PyFloat
  | .bool b => PyFloat.of_int (if b then 1 else 0)
  | .int n => PyFloat.of_int n
  | .float x => some (val x)
  | _ => none

def leaf : List (Json F) → Option (PyFloat × PyFloat)
  | first :: second :: _ => (number val first).bind (fun x => (number val second).map (fun y => (x, y)))
  | _ => none

-- the pairs of numbers in a tree of coordinates
mutual
def positions : Json F → List (PyFloat × PyFloat)
  | .arr xs =>
      match leaf val xs with
      | some v => [v]
      | none => positions_each xs
  | _ => []

def positions_each : List (Json F) → List (PyFloat × PyFloat)
  | [] => []
  | x :: xs => positions x ++ positions_each xs
end

end

-- what shapely documents of the vertices of a geometry
structure Vertices {G : Type} (env : Env G) where
  vertices : G → List (PyFloat × PyFloat)
  Point : ∀ lon lat v, v ∈ vertices (env.Point lon lat) ↔ v = (lon.val, lat.val)
  Polygon : ∀ ring v, v ∈ vertices (env.Polygon ring) ↔ v ∈ ring
  shape : ∀ geom_type coordinates g,
    env.shape (.obj [("type", .str geom_type), ("coordinates", coordinates)]) = some g →
    ∀ v ∈ vertices g, v ∈ positions Subtype.val coordinates
  -- its new vertices are where edges of the ring cross, so they stay in the bounding box
  make_valid_inside : ∀ g, (∀ v ∈ vertices g, InRange v) → ∀ v ∈ vertices (env.make_valid g), InRange v
  -- no vertex of the input is lost
  make_valid_keeps : ∀ g, (∀ v ∈ vertices g, v.1.isfinite = true ∧ v.2.isfinite = true) →
    ∀ v ∈ vertices g, v ∈ vertices (env.make_valid g)

theorem raise_none_ok {α : Type} {e : ParseError} {o : Option α} {a : α} :
    raise_none e o = .ok a ↔ o = some a := by
  cases o <;> simp [raise_none]

theorem isfinite_of_between {low high x : PyFloat} (hlow : -0x7ff0000000000000 < low.order)
    (hhigh : high.order < 0x7ff0000000000000) (hl : low.le x = true) (hh : x.le high = true) :
    x.isfinite = true := by
  simp only [PyFloat.le, PyFloat.ge, Bool.and_eq_true, decide_eq_true_eq] at hl hh
  have horder : x.order = -(x.magnitude : Int) ∨ x.order = (x.magnitude : Int) := by
    simp only [PyFloat.order]
    split
    · exact .inl rfl
    · exact .inr rfl
  simp only [PyFloat.isfinite, decide_eq_true_eq]
  omega

theorem InRange.of_between {v : PyFloat × PyFloat} (hw : minus_180.le v.1 = true)
    (he : v.1.le plus_180 = true) (hs : minus_90.le v.2 = true) (hn : v.2.le plus_90 = true) :
    InRange v where
  finite_lon := isfinite_of_between (by decide) (by decide) hw he
  finite_lat := isfinite_of_between (by decide) (by decide) hs hn
  west := hw
  east := he
  south := hs
  north := hn

theorem of_int_180 {n : Int} (hl : -180 ≤ n) (hh : n ≤ 180) : ∃ x, PyFloat.of_int n = some x ∧
    minus_180.le x = true ∧ x.le plus_180 = true := by
  have hall : ∀ k : Nat, k < 361 → ((PyFloat.of_int ((k : Int) - 180)).any
      (fun x => minus_180.le x && x.le plus_180)) = true := by decide +kernel
  have hk := hall (n + 180).toNat (by omega)
  have hn : (((n + 180).toNat : Int) - 180) = n := by omega
  rw [hn, Option.any_eq_true] at hk
  obtain ⟨x, hx, hb⟩ := hk
  exact ⟨x, hx, by simpa using hb⟩

theorem of_int_90 {n : Int} (hl : -90 ≤ n) (hh : n ≤ 90) : ∃ x, PyFloat.of_int n = some x ∧
    minus_90.le x = true ∧ x.le plus_90 = true := by
  have hall : ∀ k : Nat, k < 181 → ((PyFloat.of_int ((k : Int) - 90)).any
      (fun x => minus_90.le x && x.le plus_90)) = true := by decide +kernel
  have hk := hall (n + 90).toNat (by omega)
  have hn : (((n + 90).toNat : Int) - 90) = n := by omega
  rw [hn, Option.any_eq_true] at hk
  obtain ⟨x, hx, hb⟩ := hk
  exact ⟨x, hx, by simpa using hb⟩

theorem finite_ok {x : JsonValue} {y : PyJson} (h : finite x = .ok y) :
    ∃ f, number id x = some f ∧ number Subtype.val y = some f := by
  cases x with
  | bool b =>
      simp only [finite, Except.ok.injEq] at h
      subst h
      cases b with
      | false => exact ⟨_, rfl, rfl⟩
      | true => exact ⟨_, rfl, rfl⟩
  | int n =>
      simp only [finite] at h
      split at h
      · next hs =>
          obtain ⟨f, hf⟩ := Option.isSome_iff_exists.mp hs
          simp only [Except.ok.injEq] at h
          subst h
          exact ⟨f, hf, hf⟩
      · simp at h
  | float x =>
      simp only [finite] at h
      split at h
      · simp only [Except.ok.injEq] at h
        subst h
        exact ⟨x, rfl, rfl⟩
      · simp at h
  | _ => simp [finite] at h

theorem between_number {bound : Int} {low high : PyFloat} (hbound : 1 ≤ bound)
    (hint : ∀ {n : Int}, -bound ≤ n → n ≤ bound →
      ∃ x, PyFloat.of_int n = some x ∧ low.le x = true ∧ x.le high = true)
    {y : PyJson} {f : PyFloat} (hb : between bound low high y = true)
    (hf : number Subtype.val y = some f) : low.le f = true ∧ f.le high = true := by
  cases y with
  | bool b =>
      have hle : -bound ≤ (if b then 1 else 0) ∧ (if b then 1 else 0) ≤ bound := by
        split <;> omega
      obtain ⟨x, hx, h⟩ := hint hle.1 hle.2
      rw [number, hx, Option.some.injEq] at hf
      exact hf ▸ h
  | int n =>
      simp only [between, Bool.and_eq_true, decide_eq_true_eq] at hb
      obtain ⟨x, hx, h⟩ := hint hb.1 hb.2
      rw [number, hx, Option.some.injEq] at hf
      exact hf ▸ h
  | float x =>
      simp only [number, Option.some.injEq] at hf
      simpa [between, ← hf] using hb
  | _ => simp [between] at hb

theorem swap_pair_ok {lat lon : JsonValue} {c : PyJson} (h : swap_pair lat lon = .ok c) :
    ∃ x y, number id lat = some x ∧ number id lon = some y ∧
      positions Subtype.val c = [(y, x)] ∧ InRange (y, x) ∧ ∃ xs, c = .arr xs := by
  simp only [swap_pair, bind_ok] at h
  obtain ⟨lat', hlat, lon', hlon, h⟩ := h
  obtain ⟨x, hx, hx'⟩ := finite_ok hlat
  obtain ⟨y, hy, hy'⟩ := finite_ok hlon
  split at h
  · next hb =>
      simp only [Bool.and_eq_true] at hb
      simp only [Except.ok.injEq] at h
      subst h
      obtain ⟨hs, hn⟩ := between_number (by decide) of_int_90 hb.1 hx'
      obtain ⟨hw, he⟩ := between_number (by decide) of_int_180 hb.2 hy'
      refine ⟨x, y, hx, hy, ?_, .of_between hw he hs hn, _, rfl⟩
      simp [positions, leaf, hx', hy']
  · simp at h

theorem leaf_none {F : Type} {val : F → PyFloat} {xs : List (Json F)}
    (h : ∀ first ∈ xs.head?, number val first = none) : leaf val xs = none := by
  cases xs with
  | nil => rfl
  | cons first rest =>
      cases rest with
      | nil => rfl
      | cons second rest => simp [leaf, h first (by simp)]

theorem number_none {x : JsonValue} (h : is_number x = false) :
    number id x = none := by
  cases x <;> simp_all [is_number, number]

theorem map_ok {ε α β : Type} {x : Except ε α} {f : α → β} {b : β} :
    x.map f = .ok b ↔ ∃ a, x = .ok a ∧ f a = b := by
  cases x <;> simp [Except.map]

theorem swapped_parts {first : JsonValue} {rest : List JsonValue} {cs : List PyJson}
    (hn : is_number first = false)
    (h : positions_each Subtype.val cs = (positions_each id (first :: rest)).map Prod.swap ∧
      (∀ v ∈ positions_each Subtype.val cs, InRange v) ∧ ∀ c ∈ cs, ∃ xs, c = .arr xs) :
    positions Subtype.val (.arr cs) = (positions id (.arr (first :: rest))).map Prod.swap ∧
    (∀ v ∈ positions Subtype.val (.arr cs), InRange v) ∧ ∃ xs, Json.arr cs = .arr xs := by
  have hleaf : leaf Subtype.val cs = none := by
    refine leaf_none (fun c hc => ?_)
    obtain ⟨xs, rfl⟩ := h.2.2 c (List.mem_of_mem_head? hc)
    rfl
  have hsource : leaf id (first :: rest) = none :=
    leaf_none (fun x hx => by
      simp only [List.head?_cons, Option.mem_def, Option.some.injEq] at hx
      exact hx ▸ number_none hn)
  simp only [positions, hleaf, hsource]
  exact ⟨h.1, h.2.1, cs, rfl⟩

mutual
theorem swap_pairs_ok : ∀ {frames : Nat} {coords : JsonValue} {c : PyJson},
    swap_pairs frames coords = .ok c →
    positions Subtype.val c = (positions id coords).map Prod.swap ∧
    (∀ v ∈ positions Subtype.val c, InRange v) ∧ ∃ xs, c = .arr xs
  | 0, _, c, h => by simp [swap_pairs] at h
  | _ + 1, .arr [], c, h => by simp [swap_pairs] at h
  | frames + 1, .arr [first], c, h => by
      simp only [swap_pairs] at h
      split at h
      · simp at h
      · next hn =>
          obtain ⟨cs, hcs, rfl⟩ := map_ok.mp h
          exact swapped_parts (by simpa using hn) (swap_parts_ok hcs)
  | frames + 1, .arr (first :: second :: rest), c, h => by
      simp only [swap_pairs] at h
      split at h
      · obtain ⟨x, y, hx, hy, hp, hr, hxs⟩ := swap_pair_ok h
        rw [hp]
        refine ⟨?_, fun v hv => (List.mem_singleton.mp hv) ▸ hr, hxs⟩
        simp [positions, leaf, hx, hy]
      · next hn =>
          obtain ⟨cs, hcs, rfl⟩ := map_ok.mp h
          exact swapped_parts (by simpa using hn) (swap_parts_ok hcs)
  | _ + 1, .null, _, h => by simp [swap_pairs] at h
  | _ + 1, .bool _, _, h => by simp [swap_pairs] at h
  | _ + 1, .int _, _, h => by simp [swap_pairs] at h
  | _ + 1, .float _, _, h => by simp [swap_pairs] at h
  | _ + 1, .str _, _, h => by simp [swap_pairs] at h
  | _ + 1, .obj _, _, h => by simp [swap_pairs] at h

theorem swap_parts_ok : ∀ {frames : Nat} {parts : List JsonValue} {cs : List PyJson},
    swap_parts frames parts = .ok cs →
    positions_each Subtype.val cs = (positions_each id parts).map Prod.swap ∧
    (∀ v ∈ positions_each Subtype.val cs, InRange v) ∧ ∀ c ∈ cs, ∃ xs, c = .arr xs
  | _, [], cs, h => by
      simp only [swap_parts, Except.ok.injEq] at h
      subst h
      simp [positions_each]
  | frames, part :: parts, cs, h => by
      simp only [swap_parts, bind_ok] at h
      obtain ⟨c, hc, ds, hds, h⟩ := h
      simp only [Except.ok.injEq] at h
      subst h
      obtain ⟨hp, hr, hx⟩ := swap_pairs_ok hc
      obtain ⟨hps, hrs, hxs⟩ := swap_parts_ok hds
      simp only [positions_each, List.map_append, hp, hps, List.mem_append, List.mem_cons,
        forall_eq_or_imp, true_and]
      refine ⟨fun v hv => ?_, hx, hxs⟩
      rcases hv with hv | hv
      · exact hr v (hp ▸ hv)
      · exact hrs v (hps ▸ hv)
end

theorem swap_axes_ok {lib : TextLib} {geometry : JsonValue} {swapped : PyJson}
    (h : swap_axes lib geometry = .ok swapped) :
    ∃ geom_type coordinates c, subscript "coordinates" geometry = .ok coordinates ∧
      swap_pairs lib.frames coordinates = .ok c ∧
      swapped = .obj [("type", .str geom_type), ("coordinates", c)] := by
  simp only [swap_axes, bind_ok] at h
  obtain ⟨geom_type, _, coordinates, hc, c, hs, h⟩ := h
  cases geom_type with
  | str geom_type =>
      simp only [Except.ok.injEq] at h
      exact ⟨geom_type, coordinates, c, hc, hs, h.symm⟩
  | _ => simp at h

theorem parse_feature_read {lib : TextLib} {feature : JsonValue} {kind : EffisKind}
    {record : Feature} (h : parse_feature lib feature kind = .ok (some record)) :
    ∃ properties geometry, subscript "geometry" feature = .ok geometry ∧
      match kind with
      | .hotspot => read_hotspot lib properties geometry = .ok record
      | .burnt_area => read_burnt_area lib properties geometry = .ok record := by
  have hread : read_feature lib feature kind = .ok (some record) := by
    simp only [parse_feature] at h
    split at h
    · next r hr => exact hr.trans h
    · split at h <;> simp at h
  simp only [read_feature, bind_ok] at hread
  obtain ⟨properties, _, geometry, hg, geom_type, _, hread⟩ := hread
  refine ⟨properties, geometry, hg, ?_⟩
  cases kind with
  | hotspot =>
      simp only at hread
      split at hread
      · obtain ⟨r, hr, he⟩ := map_ok.mp hread
        exact Option.some.inj he ▸ hr
      · simp at hread
  | burnt_area =>
      simp only at hread
      split at hread
      · obtain ⟨r, hr, he⟩ := map_ok.mp hread
        exact Option.some.inj he ▸ hr
      · simp at hread

theorem parse_feature_ok {lib : TextLib} {feature : JsonValue} {kind : EffisKind} {record : Feature}
    (h : parse_feature lib feature kind = .ok (some record)) :
    ∃ geometry, subscript "geometry" feature = .ok geometry ∧
      swap_axes lib geometry = .ok record.geometry := by
  obtain ⟨properties, geometry, hg, hread⟩ := parse_feature_read h
  refine ⟨geometry, hg, ?_⟩
  cases kind with
  | hotspot =>
      simp only [read_hotspot, bind_ok, Except.ok.injEq] at hread
      obtain ⟨_, _, _, _, swapped, hs, _, _, _, _, _, _, rfl⟩ := hread
      exact hs
  | burnt_area =>
      simp only [read_burnt_area, bind_ok, Except.ok.injEq] at hread
      obtain ⟨_, _, _, _, _, _, _, _, swapped, hs, _, _, _, _, _, _, rfl⟩ := hread
      exact hs

theorem finite_in_ok {x low high : PyFloat} {f : FiniteFloat}
    (h : IgnParser.finite_in x low high = some f) : f.val = x ∧ low.le x = true ∧ x.le high = true := by
  simp only [IgnParser.finite_in] at h
  split at h
  · split at h
    · next hb =>
        simp only [Option.some.injEq] at h
        exact ⟨h ▸ rfl, by simpa using hb⟩
    · simp at h
  · simp at h

theorem first_text_some {item : Element} {tag text : String}
    (h : IgnParser.first_text item tag = some text) : item.findtext tag = some text := by
  simp only [IgnParser.first_text, Option.filter_eq_some_iff] at h
  exact h.1

theorem parse_item_ok {lib : TextLib} {item : Element} {record : IgnParser.Item}
    (h : IgnParser.parse_item lib item = .ok (some record)) :
    ∃ lat_text lon_text, item.findtext (IgnParser.GEO_NS ++ "lat") = some lat_text ∧
      item.findtext (IgnParser.GEO_NS ++ "long") = some lon_text ∧
      lib.float lat_text = some record.latitude.val ∧ lib.float lon_text = some record.longitude.val ∧
      InRange (record.longitude.val, record.latitude.val) := by
  simp only [IgnParser.parse_item, bind_ok] at h
  obtain ⟨evid, _, h⟩ := h
  split at h
  · next lat_text lon_text magnitude region raw_moment hlat hlon hdesc =>
      split at h
      · simp at h
      · simp only [bind_ok] at h
        obtain ⟨latitude, hla, longitude, hlo, h⟩ := h
        split at h
        · next la lo hfa hfo =>
            simp only [bind_ok] at h
            obtain ⟨occurred_at, _, m, _, h⟩ := h
            simp only [Except.ok.injEq, Option.some.injEq] at h
            subst h
            obtain ⟨hva, hs, hn⟩ := finite_in_ok hfa
            obtain ⟨hvo, hw, he⟩ := finite_in_ok hfo
            refine ⟨lat_text, lon_text, first_text_some hlat, first_text_some hlon, ?_, ?_, ?_⟩
            · rw [hva]
              exact raise_none_ok.mp hla
            · rw [hvo]
              exact raise_none_ok.mp hlo
            · rw [hva, hvo]
              exact .of_between hw he hs hn
        · simp at h
  · simp at h

variable {G : Type} {env : Env G}

-- a vertex "lat,lon" of the CAP text and the pair it is read as
def SwappedPair (env : Env G) (pair : String) (p : PyFloat × PyFloat) : Prop :=
  env.float (partition ',' pair).1 = some p.2 ∧ env.float (partition ',' pair).2 = some p.1

theorem cap_vertex_ok {pair : String} {p : PyFloat × PyFloat} (h : cap_vertex env pair = .ok p) :
    SwappedPair env pair p := by
  simp only [cap_vertex] at h
  split at h
  · simp at h
  · split at h
    · simp at h
    · next lon hlon =>
        split at h
        · simp at h
        · next lat hlat =>
            simp only [Except.ok.injEq] at h
            subst h
            exact ⟨hlat, hlon⟩

theorem ring_inside (geos : Vertices env) {points : List (PyFloat × PyFloat)}
    (h : ∀ p ∈ points, InRange p) : ∀ v ∈ geos.vertices (ring_geometry env points), InRange v := by
  have hring : ∀ v ∈ geos.vertices (env.Polygon points), InRange v :=
    fun v hv => h v ((geos.Polygon points v).mp hv)
  simp only [ring_geometry]
  split
  · exact hring
  · exact geos.make_valid_inside _ hring

theorem ring_keeps (geos : Vertices env) {points : List (PyFloat × PyFloat)}
    (h : env.is_valid (env.Polygon points) = true ∨
      ∀ p ∈ points, p.1.isfinite = true ∧ p.2.isfinite = true) :
    ∀ p ∈ points, p ∈ geos.vertices (ring_geometry env points) := by
  intro p hp
  have hring := (geos.Polygon points p).mpr hp
  simp only [ring_geometry]
  split
  · exact hring
  · next hv =>
      refine geos.make_valid_keeps _ (fun v hvm => ?_) p hring
      exact (h.resolve_left hv) v ((geos.Polygon points v).mp hvm)

theorem aemet_to_row_ring {warning : AemetWarning} {row : Row G}
    (h : SyncAemetUseCase.to_row env warning = .ok row) : ∃ polygon points,
      warning.polygon = some polygon ∧ collect (cap_vertex env) (split polygon) = .ok points ∧
      row.geom = ring_geometry env points := by
  simp only [SyncAemetUseCase.to_row] at h
  split at h
  · next level polygon onset expires _ hpolygon _ _ =>
      split at h
      · simp at h
      · simp only [bind_ok] at h
        obtain ⟨g, hg, severity, _, h⟩ := h
        simp only [Except.ok.injEq] at h
        obtain ⟨points, hp, _, rfl, _⟩ := cap_polygon_to_wkb_ok.mp hg
        exact ⟨polygon, points, hpolygon, hp, h ▸ rfl⟩
  · simp at h

theorem effis_to_row_shape {record : EffisRecord} {row : Row G}
    (h : SyncEffisUseCase.to_row env record = .ok row) : env.shape record.geometry = some row.geom := by
  simp only [SyncEffisUseCase.to_row, bind_ok] at h
  obtain ⟨g, hg, h⟩ := h
  simp only [Except.ok.injEq] at h
  rw [← h]
  exact (geojson_to_wkb_ok.mp hg).1

theorem stored_vertices_in_range (geos : Vertices env) (lib : TextLib) :
    (∀ item record, IgnParser.parse_item lib item = .ok (some record) →
      ∃ lat_text lon_text, item.findtext (IgnParser.GEO_NS ++ "lat") = some lat_text ∧
        item.findtext (IgnParser.GEO_NS ++ "long") = some lon_text ∧
        ∀ r : IgnRecord, r.latitude = record.latitude → r.longitude = record.longitude →
        ∀ v ∈ geos.vertices (SyncIgnUseCase.to_row env r).geom,
          InRange v ∧ lib.float lon_text = some v.1 ∧ lib.float lat_text = some v.2) ∧
    (∀ feature kind record, parse_feature lib feature kind = .ok (some record) →
      ∃ geometry coordinates, subscript "geometry" feature = .ok geometry ∧
        subscript "coordinates" geometry = .ok coordinates ∧
        ∀ r : EffisRecord, r.geometry = record.geometry →
        ∀ row, SyncEffisUseCase.to_row env r = .ok row →
        ∀ v ∈ geos.vertices row.geom, InRange v ∧ v.swap ∈ positions id coordinates) ∧
    ∀ root warning, AemetParser.parse_cap lib root = .ok warning →
      ∀ row, SyncAemetUseCase.to_row env warning = .ok row →
      ∃ polygon points, warning.polygon = some polygon ∧
        List.Forall₂ (SwappedPair env) (split polygon) points ∧
        ((∀ p ∈ points, InRange p) → ∀ v ∈ geos.vertices row.geom, InRange v) ∧
        (env.is_valid (env.Polygon points) = true → ∀ v, v ∈ geos.vertices row.geom ↔ v ∈ points) ∧
        (env.is_valid (env.Polygon points) = true ∨
            (∀ p ∈ points, p.1.isfinite = true ∧ p.2.isfinite = true) →
          ((∀ v ∈ geos.vertices row.geom, InRange v) ↔ ∀ p ∈ points, InRange p)) := by
  refine ⟨fun item record h => ?_, fun feature kind record h => ?_, fun root warning _ row hrow => ?_⟩
  · obtain ⟨lat_text, lon_text, hlat, hlon, hla, hlo, hr⟩ := parse_item_ok h
    refine ⟨lat_text, lon_text, hlat, hlon, fun r hrla hrlo v hv => ?_⟩
    have hpoint := (geos.Point _ _ v).mp hv
    rw [hpoint, hrla, hrlo]
    exact ⟨hr, hlo, hla⟩
  · obtain ⟨geometry, hg, hs⟩ := parse_feature_ok h
    obtain ⟨geom_type, coordinates, c, hc, hsc, hgeom⟩ := swap_axes_ok hs
    obtain ⟨hp, hr, _⟩ := swap_pairs_ok hsc
    refine ⟨geometry, coordinates, hg, hc, fun r hrg row hrow v hv => ?_⟩
    have hshape := effis_to_row_shape hrow
    rw [hrg, hgeom] at hshape
    have hmem := geos.shape geom_type c row.geom hshape v hv
    refine ⟨hr v hmem, ?_⟩
    rw [hp, List.mem_map] at hmem
    obtain ⟨w, hw, rfl⟩ := hmem
    exact hw
  · obtain ⟨polygon, points, hpolygon, hp, hgeom⟩ := aemet_to_row_ring hrow
    rw [hgeom]
    refine ⟨polygon, points, hpolygon, (collect_forall₂ hp).imp (fun _ _ => cap_vertex_ok),
      ring_inside geos, fun hv v => ?_, fun hk => ⟨fun h p hp => h p (ring_keeps geos hk p hp),
        ring_inside geos⟩⟩
    rw [ring_geometry, if_pos hv]
    exact geos.Polygon points v

def plane_floats : List (String × PyFloat) :=
  [("0", ⟨0x0000000000000000⟩), ("1", ⟨0x3ff0000000000000⟩), ("200", ⟨0x4069000000000000⟩)]

def plane_shape : PyJson → Option (List (PyFloat × PyFloat))
  | .obj [("type", .str _), ("coordinates", coordinates)] => some (positions Subtype.val coordinates)
  | _ => none

def vertex_env : Env (List (PyFloat × PyFloat)) :=
  { planar_env id with float := fun s => Dict.get s plane_floats, shape := plane_shape }

def vertex_lists : Vertices vertex_env where
  vertices := id
  Point _ _ _ := by simp [vertex_env, planar_env]
  Polygon _ _ := Iff.rfl
  shape geom_type coordinates g h v hv := by
    simp only [vertex_env, plane_shape, Option.some.injEq] at h
    exact h ▸ hv
  make_valid_inside _ h := h
  make_valid_keeps _ _ _ h := h

def feed_lib : TextLib where
  evid s := some (Dict.get s [("https://www.ign.es/?evid=es2026a", "es2026a")]|>.getD "")
  description s := Dict.get s [("terremoto de magnitud 1 en MADRID en la fecha 02/07/2026 12:00:00",
    ("1", "MADRID", "02/07/2026 12:00:00"))]
  strptime s := Dict.get s [("2026-07-02 10:00:00", july 2 10)]
  strptime_madrid s := Dict.get s [("02/07/2026 12:00:00", july 2 10)]
  fromisoformat s := Dict.get s [("2026-07-02T10:00:00-00:00", july 2 10),
    ("2026-07-03T10:00:00-00:00", july 3 10)]
  float s := Dict.get s plane_floats
  str _ := some "7"
  frames := 900
  repr _ := "7"

def text_element (tag text : String) : Element := .mk tag (some text) []

def cap_alert (polygon : String) : Element :=
  .mk (AemetParser.CAP_NS ++ "alert") none [
    text_element (AemetParser.CAP_NS ++ "identifier") "A",
    text_element (AemetParser.CAP_NS ++ "sent") "2026-07-02T10:00:00-00:00",
    text_element (AemetParser.CAP_NS ++ "msgType") "Alert",
    .mk (AemetParser.CAP_NS ++ "info") none [
      text_element (AemetParser.CAP_NS ++ "language") "es-ES",
      text_element (AemetParser.CAP_NS ++ "onset") "2026-07-02T10:00:00-00:00",
      text_element (AemetParser.CAP_NS ++ "expires") "2026-07-03T10:00:00-00:00",
      .mk (AemetParser.CAP_NS ++ "parameter") none [
        text_element (AemetParser.CAP_NS ++ "valueName") "AEMET-Meteoalerta nivel",
        text_element (AemetParser.CAP_NS ++ "value") "amarillo"],
      .mk (AemetParser.CAP_NS ++ "area") none [
        text_element (AemetParser.CAP_NS ++ "polygon") polygon]]]

def feed_item : Element :=
  .mk "item" none [
    text_element "guid" "https://www.ign.es/?evid=es2026a",
    text_element "description" "terremoto de magnitud 1 en MADRID en la fecha 02/07/2026 12:00:00",
    text_element (IgnParser.GEO_NS ++ "lat") "0",
    text_element (IgnParser.GEO_NS ++ "long") "1"]

def wfs_hotspot : JsonValue :=
  .obj [("properties", .obj [("id", .int 7), ("acq_at", .str "2026-07-02 10:00:00")]),
    ("geometry", .obj [("type", .str "Point"), ("coordinates", .arr [.int 0, .int 1])])]

def feed_record : IgnParser.Item :=
  ⟨"es2026a", ⟨0x3ff0000000000000⟩, "MADRID", ⟨⟨0x0000000000000000⟩, rfl⟩, ⟨⟨0x3ff0000000000000⟩, rfl⟩,
    july 2 10, [("raw_local_moment", .str "02/07/2026 12:00:00")]⟩

def stored_quake : IgnRecord :=
  ⟨"es2026a", ⟨⟨0x3ff0000000000000⟩, rfl⟩, "MADRID", feed_record.latitude, feed_record.longitude,
    july 2 10, feed_record.attrs⟩

def wfs_record : Feature :=
  ⟨"hs-7", .hotspot, .obj [("type", .str "Point"), ("coordinates", .arr [.int 1, .int 0])], july 2 10,
    none, [("product", .str "all.hs"), ("class", .str ""),
      ("raw_acquired_at", .str "2026-07-02 10:00:00")]⟩

def stored_hotspot : EffisRecord :=
  ⟨"hs-7", .hotspot, wfs_record.geometry, july 2 10, none,
    [("product", .str "all.hs"), ("class", .str ""), ("raw_acquired_at", .str "2026-07-02 10:00:00")]⟩

def cap_geometry (root : Element) : Option (List (PyFloat × PyFloat)) :=
  (AemetParser.parse_cap feed_lib root).toOption.bind (fun warning =>
    (SyncAemetUseCase.to_row vertex_env warning).toOption.map (fun row => row.geom))

theorem cap_geometry_row {root : Element} {ring : List (PyFloat × PyFloat)}
    (h : cap_geometry root = some ring) : ∃ warning row,
      AemetParser.parse_cap feed_lib root = .ok warning ∧
      SyncAemetUseCase.to_row vertex_env warning = .ok row ∧ row.geom = ring := by
  simp only [cap_geometry] at h
  cases hw : AemetParser.parse_cap feed_lib root with
  | error e => simp [hw, Except.toOption] at h
  | ok warning =>
      cases hr : SyncAemetUseCase.to_row vertex_env warning with
      | error e => simp [hw, hr, Except.toOption] at h
      | ok row => exact ⟨warning, row, rfl, hr, by simpa [hw, hr, Except.toOption] using h⟩

theorem feed_item_parsed : IgnParser.parse_item feed_lib feed_item = .ok (some feed_record) := rfl

theorem wfs_hotspot_parsed : parse_feature feed_lib wfs_hotspot .hotspot = .ok (some wfs_record) := rfl

def square_ring : String := "0,0 0,1 1,1 0,0"

def far_ring : String := "0,0 0,200 1,200 0,0"

theorem square_geometry : cap_geometry (cap_alert square_ring) = some
    [(⟨0x0000000000000000⟩, ⟨0x0000000000000000⟩), (⟨0x3ff0000000000000⟩, ⟨0x0000000000000000⟩),
      (⟨0x3ff0000000000000⟩, ⟨0x3ff0000000000000⟩), (⟨0x0000000000000000⟩, ⟨0x0000000000000000⟩)] := by
  decide

theorem far_geometry : cap_geometry (cap_alert far_ring) = some
    [(⟨0x0000000000000000⟩, ⟨0x0000000000000000⟩), (⟨0x4069000000000000⟩, ⟨0x0000000000000000⟩),
      (⟨0x4069000000000000⟩, ⟨0x3ff0000000000000⟩), (⟨0x0000000000000000⟩, ⟨0x0000000000000000⟩)] := by
  decide

theorem stored_vertices_in_range_feed :
    (∀ v ∈ vertex_lists.vertices (SyncIgnUseCase.to_row vertex_env stored_quake).geom, InRange v) ∧
    (∀ row, SyncEffisUseCase.to_row vertex_env stored_hotspot = .ok row →
      ∀ v ∈ vertex_lists.vertices row.geom, InRange v) ∧
    ∃ warning row polygon points,
      AemetParser.parse_cap feed_lib (cap_alert square_ring) = .ok warning ∧
      SyncAemetUseCase.to_row vertex_env warning = .ok row ∧ warning.polygon = some polygon ∧
      List.Forall₂ (SwappedPair vertex_env) (split polygon) points ∧
      ((∀ v ∈ vertex_lists.vertices row.geom, InRange v) ↔ ∀ p ∈ points, InRange p) := by
  have h := stored_vertices_in_range vertex_lists feed_lib
  refine ⟨?_, fun row hrow v hv => ?_, ?_⟩
  · obtain ⟨_, _, _, _, hq⟩ := h.1 _ _ feed_item_parsed
    exact fun v hv => (hq stored_quake rfl rfl v hv).1
  · obtain ⟨_, _, _, _, hs⟩ := h.2.1 _ _ _ wfs_hotspot_parsed
    exact (hs stored_hotspot rfl row hrow v hv).1
  · obtain ⟨warning, row, hw, hr, _⟩ := cap_geometry_row square_geometry
    obtain ⟨polygon, points, hp, hall, _, _, hiff⟩ := h.2.2 _ _ hw row hr
    exact ⟨warning, row, polygon, points, hw, hr, hp, hall, hiff (.inl rfl)⟩

example : (SyncEffisUseCase.to_row vertex_env stored_hotspot).isOk = true := by decide

theorem far_vertex_stored : ∃ warning row,
    AemetParser.parse_cap feed_lib (cap_alert far_ring) = .ok warning ∧
    SyncAemetUseCase.to_row vertex_env warning = .ok row ∧
    ∃ v ∈ vertex_lists.vertices row.geom, ¬ InRange v := by
  obtain ⟨warning, row, hw, hr, hgeom⟩ := cap_geometry_row far_geometry
  refine ⟨warning, row, hw, hr, (⟨0x4069000000000000⟩, ⟨0x0000000000000000⟩), ?_, fun hin => ?_⟩
  · rw [hgeom]
    simp [vertex_lists]
  · exact absurd hin.east (by decide)

end GeoHazard
