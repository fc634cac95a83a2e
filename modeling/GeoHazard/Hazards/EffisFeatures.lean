import GeoHazard.Hazards.EffisWalk

namespace GeoHazard.EffisParser

def member (key : String) : JsonValue → Option JsonValue
  | .obj kvs => Dict.get key kvs
  | _ => none

theorem subscript_ok {key : String} {x v : JsonValue} :
    subscript key x = .ok v ↔ member key x = some v := by
  cases x <;> simp [subscript, member, raise_none_ok]

theorem subscript_uncaught {key : String} {x : JsonValue} : ¬ Uncaught (subscript key x) := by
  cases x with
  | obj kvs => simp [subscript, uncaught_raise_none, caught]
  | _ => simp [subscript, uncaught_error, caught]

theorem get_uncaught {key : String} {default x : JsonValue} : ¬ Uncaught (get key default x) := by
  cases x with
  | obj kvs => exact uncaught_ok
  | _ => simp [get, uncaught_error, caught]

theorem get_isOk (key : String) (default : JsonValue) {x v : JsonValue} {name : String}
    (h : member name x = some v) : ∃ y, get key default x = .ok y := by
  cases x with
  | obj kvs => exact ⟨_, rfl⟩
  | _ => simp [member] at h

def to_float (lib : TextLib) : JsonValue → Option PyFloat
  | .str s => lib.float s
  | x => number id x

theorem parse_float_ok {lib : TextLib} {x : JsonValue} {f : PyFloat} :
    parse_float lib x = .ok f ↔ to_float lib x = some f := by
  cases x <;> simp [parse_float, to_float, number, raise_none_ok]

theorem parse_float_uncaught {lib : TextLib} {x : JsonValue} :
    Uncaught (parse_float lib x) ↔ too_large x = true := by
  cases x with
  | int n => simp [parse_float, too_large, uncaught_raise_none, caught]
  | bool b =>
      have hb : ∃ f, PyFloat.of_int (if b then 1 else 0) = some f := by
        cases b
        · exact ⟨_, rfl⟩
        · exact ⟨_, rfl⟩
      obtain ⟨f, hf⟩ := hb
      simp [parse_float, too_large, hf, raise_none, uncaught_ok]
  | str s => simp [parse_float, too_large, uncaught_raise_none, caught]
  | float x => simp [parse_float, too_large, uncaught_ok]
  | _ => simp [parse_float, too_large, uncaught_error, caught]

def IsArea (lib : TextLib) (area : JsonValue) : Prop :=
  ∃ x, to_float lib area = some x ∧ x.isfinite = true ∧ x.lt ⟨0⟩ = false

theorem area_of_isOk {lib : TextLib} {area : JsonValue} :
    (∃ a, area_of lib area = .ok a) ↔ IsArea lib area := by
  simp only [area_of, bind_ok, parse_float_ok, IsArea]
  constructor
  · rintro ⟨a, x, hx, h⟩
    split at h
    · next hfinite =>
        split at h
        · simp at h
        · next hlt => exact ⟨x, hx, hfinite, by simpa using hlt⟩
    · simp at h
  · rintro ⟨x, hx, hfinite, hlt⟩
    exact ⟨_, x, hx, by rw [dif_pos hfinite, hlt]; rfl⟩

theorem area_of_uncaught {lib : TextLib} {area : JsonValue} :
    Uncaught (area_of lib area) ↔ too_large area = true := by
  simp only [area_of, uncaught_bind, parse_float_uncaught, or_iff_left_iff_imp]
  rintro ⟨x, _, h⟩
  split at h
  · split at h
    · simp [uncaught_error, caught] at h
    · exact absurd h uncaught_ok
  · simp [uncaught_error, caught] at h

def IsMoment (lib : TextLib) (raw : JsonValue) : Prop :=
  ∃ s t, raw = .str s ∧ lib.strptime s = some t

theorem parse_moment_isOk {lib : TextLib} {raw : JsonValue} :
    (∃ t, parse_moment lib raw = .ok t) ↔ IsMoment lib raw := by
  cases raw <;> simp [parse_moment, IsMoment, raise_none_ok]

theorem parse_moment_uncaught {lib : TextLib} {raw : JsonValue} : ¬ Uncaught (parse_moment lib raw) := by
  cases raw <;> simp [parse_moment, uncaught_raise_none, uncaught_error, caught]

def GEOMETRIES : EffisKind → List String
  | .hotspot => HOTSPOT_GEOMETRIES
  | .burnt_area => BURNT_AREA_GEOMETRIES

def id_field : EffisKind → String
  | .hotspot => "id"
  | .burnt_area => "fire_id"

def moment_field : EffisKind → String
  | .hotspot => "acq_at"
  | .burnt_area => "initialdate"

structure Listed (kind : EffisKind) (feature properties geometry : JsonValue) (geom_type : String) :
    Prop where
  has_properties : member "properties" feature = some properties
  has_geometry : member "geometry" feature = some geometry
  has_type : member "type" geometry = some (.str geom_type)
  listed : geom_type ∈ GEOMETRIES kind

-- the reading of the feature gets as far as its coordinates
structure Reaches (lib : TextLib) (kind : EffisKind) (properties geometry coordinates : JsonValue) :
    Prop where
  has_area : kind = .burnt_area → ∃ area, member "area" properties = some area ∧ IsArea lib area
  has_id : ∃ id text, member (id_field kind) properties = some id ∧ lib.str id = some text
  has_coordinates : member "coordinates" geometry = some coordinates

-- an exception leaves the feature: an area or a coordinate past the doubles, a text among the
-- coordinates, or nesting past the recursion limit
inductive FeatureEscapes (lib : TextLib) (kind : EffisKind) (feature : JsonValue) : Prop
  | area {properties geometry area : JsonValue} {geom_type : String} (hk : kind = .burnt_area)
      (hl : Listed kind feature properties geometry geom_type)
      (ha : member "area" properties = some area) (h : too_large area = true)
  | id {properties geometry id : JsonValue} {geom_type : String}
      (hl : Listed kind feature properties geometry geom_type)
      (ha : kind = .burnt_area → ∃ area, member "area" properties = some area ∧ IsArea lib area)
      (hi : member (id_field kind) properties = some id) (h : lib.str id = none)
  | walk {properties geometry coordinates : JsonValue} {geom_type : String}
      (hl : Listed kind feature properties geometry geom_type)
      (hr : Reaches lib kind properties geometry coordinates) (h : Escapes lib.frames coordinates)

structure FeatureReads (lib : TextLib) (kind : EffisKind) (feature : JsonValue) (geom_type : String)
    (coordinates : JsonValue) : Prop where
  parts : ∃ properties geometry moment, Listed kind feature properties geometry geom_type ∧
    Reaches lib kind properties geometry coordinates ∧
    member (moment_field kind) properties = some moment ∧ IsMoment lib moment
  walks : Walks lib.frames coordinates

variable {lib : TextLib} {properties geometry : JsonValue} {geom_type : String}

theorem swap_axes_uncaught (ht : member "type" geometry = some (.str geom_type)) :
    Uncaught (swap_axes lib geometry) ↔
      ∃ coordinates, member "coordinates" geometry = some coordinates ∧
        Escapes lib.frames coordinates := by
  simp only [swap_axes, uncaught_bind, subscript_uncaught, subscript_ok, ht, swap_pairs_escapes,
    Option.some.injEq, exists_eq_left', uncaught_ok, and_false, exists_false, or_false, false_or]

theorem swap_axes_iff (ht : member "type" geometry = some (.str geom_type)) {swapped : PyJson} :
    swap_axes lib geometry = .ok swapped ↔ ∃ coordinates c,
      member "coordinates" geometry = some coordinates ∧ swap_pairs lib.frames coordinates = .ok c ∧
      swapped = .obj [("type", .str geom_type), ("coordinates", c)] := by
  simp only [swap_axes, bind_ok, subscript_ok, ht, Option.some.injEq, exists_eq_left',
    Except.ok.injEq]
  constructor
  · rintro ⟨coordinates, hc, c, hs, rfl⟩
    exact ⟨coordinates, c, hc, hs, rfl⟩
  · rintro ⟨coordinates, c, hc, hs, rfl⟩
    exact ⟨coordinates, hc, c, hs, rfl⟩

theorem swap_axes_isOk (ht : member "type" geometry = some (.str geom_type)) :
    (∃ swapped, swap_axes lib geometry = .ok swapped) ↔
      ∃ coordinates, member "coordinates" geometry = some coordinates ∧
        Walks lib.frames coordinates := by
  simp only [swap_axes_iff ht, ← swap_pairs_walks]
  constructor
  · rintro ⟨_, coordinates, c, hc, hs, _⟩
    exact ⟨coordinates, hc, c, hs⟩
  · rintro ⟨coordinates, hc, c, hs⟩
    exact ⟨_, coordinates, c, hc, hs, rfl⟩

theorem read_hotspot_uncaught (ht : member "type" geometry = some (.str geom_type)) :
    Uncaught (read_hotspot lib properties geometry) ↔
      (∃ id, member "id" properties = some id ∧ lib.str id = none) ∨
      ∃ coordinates, Reaches lib .hotspot properties geometry coordinates ∧
        Escapes lib.frames coordinates := by
  simp only [read_hotspot, uncaught_bind, subscript_uncaught, subscript_ok, uncaught_raise_none,
    raise_none_ok, swap_axes_uncaught ht, parse_moment_uncaught, get_uncaught, uncaught_ok, caught,
    and_true, and_false, exists_false, or_false, false_or]
  constructor
  · rintro ⟨id, hid, hs | ⟨text, hs, coordinates, hc, he⟩⟩
    · exact .inl ⟨id, hid, hs⟩
    · exact .inr ⟨coordinates, ⟨by simp, ⟨id, text, hid, hs⟩, hc⟩, he⟩
  · rintro (⟨id, hid, hs⟩ | ⟨coordinates, ⟨_, ⟨id, text, hid, hs⟩, hc⟩, he⟩)
    · exact ⟨id, hid, .inl hs⟩
    · exact ⟨id, hid, .inr ⟨text, hs, coordinates, hc, he⟩⟩

theorem read_burnt_area_uncaught (ht : member "type" geometry = some (.str geom_type)) :
    Uncaught (read_burnt_area lib properties geometry) ↔
      (∃ area, member "area" properties = some area ∧ too_large area = true) ∨
      (∃ area id, member "area" properties = some area ∧ IsArea lib area ∧
        member "fire_id" properties = some id ∧ lib.str id = none) ∨
      ∃ coordinates, Reaches lib .burnt_area properties geometry coordinates ∧
        Escapes lib.frames coordinates := by
  simp only [read_burnt_area, uncaught_bind, subscript_uncaught, subscript_ok, uncaught_raise_none,
    raise_none_ok, swap_axes_uncaught ht, parse_moment_uncaught, get_uncaught, uncaught_ok, caught,
    area_of_uncaught, and_true, and_false, exists_false, or_false, false_or]
  constructor
  · rintro ⟨area, ha, hlarge | ⟨a, hread, id, hid, hs | ⟨text, hs, coordinates, hc, he⟩⟩⟩
    · exact .inl ⟨area, ha, hlarge⟩
    · exact .inr (.inl ⟨area, id, ha, area_of_isOk.mp ⟨a, hread⟩, hid, hs⟩)
    · exact .inr (.inr ⟨coordinates, ⟨fun _ => ⟨area, ha, area_of_isOk.mp ⟨a, hread⟩⟩,
        ⟨id, text, hid, hs⟩, hc⟩, he⟩)
  · rintro (⟨area, ha, hlarge⟩ | ⟨area, id, ha, hread, hid, hs⟩ | ⟨coordinates, hr, he⟩)
    · exact ⟨area, ha, .inl hlarge⟩
    · obtain ⟨a, hread⟩ := area_of_isOk.mpr hread
      exact ⟨area, ha, .inr ⟨a, hread, id, hid, .inl hs⟩⟩
    · obtain ⟨area, ha, hread⟩ := hr.has_area rfl
      obtain ⟨a, hread⟩ := area_of_isOk.mpr hread
      obtain ⟨id, text, hid, hs⟩ := hr.has_id
      exact ⟨area, ha, .inr ⟨a, hread, id, hid, .inr ⟨text, hs, coordinates, hr.has_coordinates, he⟩⟩⟩

-- what is left once the coordinates are reached
def Completes (lib : TextLib) (kind : EffisKind) (properties geometry : JsonValue) : Prop :=
  ∃ coordinates moment, Reaches lib kind properties geometry coordinates ∧
    Walks lib.frames coordinates ∧ member (moment_field kind) properties = some moment ∧
    IsMoment lib moment

theorem read_hotspot_isOk (ht : member "type" geometry = some (.str geom_type)) :
    (∃ record, read_hotspot lib properties geometry = .ok record) ↔
      Completes lib .hotspot properties geometry := by
  simp only [read_hotspot, bind_ok, subscript_ok, raise_none_ok]
  constructor
  · rintro ⟨_, id, hid, text, hs, swapped, hsw, moment, hm, t, hmt, _⟩
    obtain ⟨coordinates, hc, hw⟩ := (swap_axes_isOk ht).mp ⟨swapped, hsw⟩
    exact ⟨coordinates, moment, ⟨by simp, ⟨id, text, hid, hs⟩, hc⟩, hw, hm,
      parse_moment_isOk.mp ⟨t, hmt⟩⟩
  · rintro ⟨coordinates, moment, ⟨_, ⟨id, text, hid, hs⟩, hc⟩, hw, hm, hmt⟩
    obtain ⟨swapped, hsw⟩ := (swap_axes_isOk ht).mpr ⟨coordinates, hc, hw⟩
    obtain ⟨t, hmt⟩ := parse_moment_isOk.mpr hmt
    obtain ⟨label, hlabel⟩ := get_isOk "CLASS" (.str "") hid
    exact ⟨_, id, hid, text, hs, swapped, hsw, moment, hm, t, hmt, label, hlabel, rfl⟩

theorem read_burnt_area_isOk (ht : member "type" geometry = some (.str geom_type)) :
    (∃ record, read_burnt_area lib properties geometry = .ok record) ↔
      Completes lib .burnt_area properties geometry := by
  simp only [read_burnt_area, bind_ok, subscript_ok, raise_none_ok]
  constructor
  · rintro ⟨_, area, ha, a, hread, id, hid, text, hs, swapped, hsw, moment, hm, t, hmt, _⟩
    obtain ⟨coordinates, hc, hw⟩ := (swap_axes_isOk ht).mp ⟨swapped, hsw⟩
    exact ⟨coordinates, moment, ⟨fun _ => ⟨area, ha, area_of_isOk.mp ⟨a, hread⟩⟩,
      ⟨id, text, hid, hs⟩, hc⟩, hw, hm, parse_moment_isOk.mp ⟨t, hmt⟩⟩
  · rintro ⟨coordinates, moment, hr, hw, hm, hmt⟩
    obtain ⟨area, ha, hread⟩ := hr.has_area rfl
    obtain ⟨a, hread⟩ := area_of_isOk.mpr hread
    obtain ⟨id, text, hid, hs⟩ := hr.has_id
    obtain ⟨swapped, hsw⟩ := (swap_axes_isOk ht).mpr ⟨coordinates, hr.has_coordinates, hw⟩
    obtain ⟨t, hmt⟩ := parse_moment_isOk.mpr hmt
    obtain ⟨final, hfinal⟩ := get_isOk "finaldate" (.str "") hid
    exact ⟨_, area, ha, a, hread, id, hid, text, hs, swapped, hsw, moment, hm, t, hmt, final,
      hfinal, rfl⟩

variable {kind : EffisKind} {feature : JsonValue}

def read_kind (lib : TextLib) (properties geometry : JsonValue) : EffisKind → Except ParseError Feature
  | .hotspot => read_hotspot lib properties geometry
  | .burnt_area => read_burnt_area lib properties geometry

theorem read_feature_eq : read_feature lib feature kind = (do
    let properties ← subscript "properties" feature
    let geometry ← subscript "geometry" feature
    let geom_type ← subscript "type" geometry
    if is_type (GEOMETRIES kind) geom_type then (read_kind lib properties geometry kind).map some
    else .ok none) := by
  cases kind <;> rfl

theorem is_type_iff {names : List String} {x : JsonValue} :
    is_type names x = true ↔ ∃ name, x = .str name ∧ name ∈ names := by
  cases x <;> simp [is_type]

theorem read_kind_uncaught (hl : Listed kind feature properties geometry geom_type) :
    Uncaught (read_kind lib properties geometry kind) → FeatureEscapes lib kind feature := by
  cases kind with
  | hotspot =>
      rw [read_kind, read_hotspot_uncaught hl.has_type]
      rintro (⟨id, hid, hs⟩ | ⟨coordinates, hr, he⟩)
      · exact .id hl (by simp) hid hs
      · exact .walk hl hr he
  | burnt_area =>
      rw [read_kind, read_burnt_area_uncaught hl.has_type]
      rintro (⟨area, ha, hlarge⟩ | ⟨area, id, ha, hread, hid, hs⟩ | ⟨coordinates, hr, he⟩)
      · exact .area rfl hl ha hlarge
      · exact .id hl (fun _ => ⟨area, ha, hread⟩) hid hs
      · exact .walk hl hr he

theorem Listed.unique {p p' g g' : JsonValue} {t t' : String} (h : Listed kind feature p g t)
    (h' : Listed kind feature p' g' t') : p = p' ∧ g = g' ∧ t = t' := by
  obtain rfl := Option.some.inj (h.has_properties.symm.trans h'.has_properties)
  obtain rfl := Option.some.inj (h.has_geometry.symm.trans h'.has_geometry)
  have ht := h.has_type.symm.trans h'.has_type
  simp only [Option.some.injEq, Json.str.injEq] at ht
  exact ⟨rfl, rfl, ht⟩

theorem uncaught_read_kind (h : FeatureEscapes lib kind feature) :
    ∃ properties geometry geom_type, Listed kind feature properties geometry geom_type ∧
      Uncaught (read_kind lib properties geometry kind) := by
  cases h with
  | @area p g area t hk hl ha h =>
      subst hk
      exact ⟨p, g, t, hl, (read_burnt_area_uncaught hl.has_type).mpr (.inl ⟨area, ha, h⟩)⟩
  | @id p g id t hl ha hi h =>
      refine ⟨p, g, t, hl, ?_⟩
      cases kind with
      | hotspot => exact (read_hotspot_uncaught hl.has_type).mpr (.inl ⟨id, hi, h⟩)
      | burnt_area =>
          obtain ⟨area, ha, hread⟩ := ha rfl
          exact (read_burnt_area_uncaught hl.has_type).mpr (.inr (.inl ⟨area, id, ha, hread, hi, h⟩))
  | @walk p g coordinates t hl hr h =>
      refine ⟨p, g, t, hl, ?_⟩
      cases kind with
      | hotspot => exact (read_hotspot_uncaught hl.has_type).mpr (.inr ⟨coordinates, hr, h⟩)
      | burnt_area =>
          exact (read_burnt_area_uncaught hl.has_type).mpr (.inr (.inr ⟨coordinates, hr, h⟩))

theorem read_feature_uncaught :
    Uncaught (read_feature lib feature kind) ↔ FeatureEscapes lib kind feature := by
  simp only [read_feature_eq, uncaught_bind, subscript_uncaught, subscript_ok, false_or]
  constructor
  · rintro ⟨properties, hp, geometry, hg, geom_type, ht, h⟩
    split at h
    · next htype =>
        obtain ⟨name, rfl, hn⟩ := is_type_iff.mp htype
        exact read_kind_uncaught ⟨hp, hg, ht, hn⟩ (uncaught_map.mp h)
    · exact absurd h uncaught_ok
  · intro h
    obtain ⟨p, g, t, hl, hu⟩ := uncaught_read_kind h
    refine ⟨p, hl.has_properties, g, hl.has_geometry, .str t, hl.has_type, ?_⟩
    rw [if_pos (is_type_iff.mpr ⟨t, rfl, hl.listed⟩)]
    exact uncaught_map.mpr hu

theorem parse_feature_error :
    (∃ e, parse_feature lib feature kind = .error e) ↔ FeatureEscapes lib kind feature := by
  rw [← read_feature_uncaught, parse_feature]
  cases hread : read_feature lib feature kind with
  | ok record => simp [uncaught_ok]
  | error e => cases hc : caught e <;> simp [uncaught_error, hc]

theorem read_kind_isOk (hl : Listed kind feature properties geometry geom_type) :
    (∃ record, read_kind lib properties geometry kind = .ok record) ↔
      Completes lib kind properties geometry := by
  cases kind with
  | hotspot => exact read_hotspot_isOk hl.has_type
  | burnt_area => exact read_burnt_area_isOk hl.has_type

theorem parse_feature_some {record : Feature} :
    parse_feature lib feature kind = .ok (some record) ↔ ∃ properties geometry geom_type,
      Listed kind feature properties geometry geom_type ∧
      read_kind lib properties geometry kind = .ok record := by
  have hread : parse_feature lib feature kind = .ok (some record) ↔
      read_feature lib feature kind = .ok (some record) := by
    rw [parse_feature]
    cases read_feature lib feature kind with
    | ok r => simp
    | error e => cases hc : caught e <;> simp [hc]
  rw [hread, read_feature_eq]
  simp only [bind_ok, subscript_ok]
  constructor
  · rintro ⟨properties, hp, geometry, hg, geom_type, ht, h⟩
    split at h
    · next htype =>
        obtain ⟨name, rfl, hn⟩ := is_type_iff.mp htype
        obtain ⟨r, hr, he⟩ := map_ok.mp h
        exact ⟨properties, geometry, name, ⟨hp, hg, ht, hn⟩, Option.some.inj he ▸ hr⟩
    · simp at h
  · rintro ⟨p, g, t, hl, hr⟩
    refine ⟨p, hl.has_properties, g, hl.has_geometry, .str t, hl.has_type, ?_⟩
    rw [if_pos (is_type_iff.mpr ⟨t, rfl, hl.listed⟩), hr]
    rfl

theorem parse_feature_reads : (∃ record, parse_feature lib feature kind = .ok (some record)) ↔
    ∃ geom_type coordinates, FeatureReads lib kind feature geom_type coordinates := by
  simp only [parse_feature_some]
  constructor
  · rintro ⟨record, p, g, t, hl, hr⟩
    obtain ⟨coordinates, moment, hreach, hw, hm, hmt⟩ := (read_kind_isOk hl).mp ⟨record, hr⟩
    exact ⟨t, coordinates, ⟨p, g, moment, hl, hreach, hm, hmt⟩, hw⟩
  · rintro ⟨t, coordinates, ⟨p, g, moment, hl, hreach, hm, hmt⟩, hw⟩
    obtain ⟨record, hr⟩ := (read_kind_isOk hl).mpr ⟨coordinates, moment, hreach, hw, hm, hmt⟩
    exact ⟨record, p, g, t, hl, hr⟩

theorem read_kind_geometry {record : Feature} (hl : Listed kind feature properties geometry geom_type)
    (h : read_kind lib properties geometry kind = .ok record) : ∃ coordinates c,
      member "coordinates" geometry = some coordinates ∧ swap_pairs lib.frames coordinates = .ok c ∧
      record.geometry = .obj [("type", .str geom_type), ("coordinates", c)] := by
  cases kind with
  | hotspot =>
      simp only [read_kind, read_hotspot, bind_ok] at h
      obtain ⟨_, _, _, _, swapped, hs, _, _, _, _, _, _, hr⟩ := h
      obtain rfl := Except.ok.inj hr
      exact (swap_axes_iff hl.has_type).mp hs
  | burnt_area =>
      simp only [read_kind, read_burnt_area, bind_ok] at h
      obtain ⟨_, _, _, _, _, _, _, _, swapped, hs, _, _, _, _, _, _, hr⟩ := h
      obtain rfl := Except.ok.inj hr
      exact (swap_axes_iff hl.has_type).mp hs

theorem parse_feature_geometry {record : Feature} {coordinates : JsonValue}
    (h : parse_feature lib feature kind = .ok (some record))
    (hr : FeatureReads lib kind feature geom_type coordinates) :
    ∃ c, swap_pairs lib.frames coordinates = .ok c ∧
      record.geometry = .obj [("type", .str geom_type), ("coordinates", c)] := by
  obtain ⟨p, g, t, hl, hread⟩ := parse_feature_some.mp h
  obtain ⟨p', g', _, hl', hreach, _⟩ := hr.parts
  obtain ⟨rfl, rfl, rfl⟩ := hl.unique hl'
  obtain ⟨coordinates', c, hc, hs, hgeom⟩ := read_kind_geometry hl hread
  obtain rfl := Option.some.inj (hc.symm.trans hreach.has_coordinates)
  exact ⟨c, hs, hgeom⟩

end GeoHazard.EffisParser
