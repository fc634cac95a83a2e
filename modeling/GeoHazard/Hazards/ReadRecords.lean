import GeoHazard.Hazards.EffisLifecycle
import GeoHazard.Hazards.StoredVertices

namespace GeoHazard

-- a record as the use case takes it: JSONB has no nan, so what a row keeps of it is finite
structure EffisRecord.ReadFrom (r : EffisRecord) (f : EffisParser.Feature) : Prop where
  external_id : r.external_id = f.external_id
  kind : r.kind = f.kind
  geometry : r.geometry = f.geometry
  observed_at : r.observed_at = f.observed_at
  area_ha : r.area_ha = f.area_ha
  attrs : Json.mapFields Subtype.val r.attrs = f.attrs

structure IgnRecord.ReadFrom (r : IgnRecord) (i : IgnParser.Item) : Prop where
  external_id : r.external_id = i.external_id
  magnitude : r.magnitude.val = i.magnitude
  region : r.region = i.region
  latitude : r.latitude = i.latitude
  longitude : r.longitude = i.longitude
  occurred_at : r.occurred_at = i.occurred_at
  attrs : r.attrs = i.attrs

-- the records that the parsers of the sources return
def EffisRecord.Read (kind : EffisKind) (r : EffisRecord) : Prop :=
  ∃ lib feature f, EffisParser.parse_feature lib feature kind = .ok (some f) ∧ r.ReadFrom f

def IgnRecord.Read (r : IgnRecord) : Prop :=
  ∃ lib item i, IgnParser.parse_item lib item = .ok (some i) ∧ r.ReadFrom i

def AemetWarning.Read (w : AemetWarning) : Prop :=
  ∃ lib root, AemetParser.parse_cap lib root = .ok w

def Fetched.Read : Fetched → Prop
  | .effis hotspots burnt_areas =>
      (∀ r ∈ hotspots, r.Read .hotspot) ∧ ∀ r ∈ burnt_areas, r.Read .burnt_area
  | .ign records => ∀ r ∈ records, r.Read
  | .aemet warnings => ∀ w ∈ warnings, w.Read

def SyncAction.Read : SyncAction → Prop
  | .committed _ fetched => fetched.Read
  | _ => True

-- the keys that to_row adds to attrs are not among those of the parser
def AemetWarning.Clean (w : AemetWarning) : Prop :=
  (Dict.keys w.attrs).Nodup ∧ "level" ∉ Dict.keys w.attrs

def EffisRecord.Clean (r : EffisRecord) : Prop :=
  (Dict.keys r.attrs).Nodup ∧ "area_ha" ∉ Dict.keys r.attrs

def IgnRecord.Clean (r : IgnRecord) : Prop := (Dict.keys r.attrs).Nodup

def Fetched.Clean : Fetched → Prop
  | .effis hotspots burnt_areas => ∀ r ∈ hotspots ++ burnt_areas, r.Clean
  | .ign records => ∀ r ∈ records, r.Clean
  | .aemet warnings => ∀ w ∈ warnings, w.Clean

def SyncAction.Clean : SyncAction → Prop
  | .committed _ fetched => fetched.Clean
  | _ => True

namespace EffisParser

variable {lib : TextLib} {properties geometry : JsonValue} {f : Feature}

theorem read_hotspot_record (h : read_hotspot lib properties geometry = .ok f) :
    f.kind = .hotspot ∧ (∃ id, f.external_id = "hs-" ++ id) ∧
      Dict.keys f.attrs = ["product", "class", "raw_acquired_at"] := by
  simp only [read_hotspot, bind_ok, Except.ok.injEq] at h
  obtain ⟨_, _, id, _, _, _, _, _, _, _, _, _, rfl⟩ := h
  exact ⟨rfl, ⟨id, rfl⟩, rfl⟩

theorem read_burnt_area_record (h : read_burnt_area lib properties geometry = .ok f) :
    f.kind = .burnt_area ∧ (∃ id, f.external_id = "ba-" ++ id) ∧
      Dict.keys f.attrs = ["product", "fire_id", "raw_initialdate", "raw_finaldate"] := by
  simp only [read_burnt_area, bind_ok, Except.ok.injEq] at h
  obtain ⟨_, _, _, _, _, _, id, _, _, _, _, _, _, _, _, _, rfl⟩ := h
  exact ⟨rfl, ⟨id, rfl⟩, rfl⟩

end EffisParser

theorem IgnParser.parse_item_attrs {lib : TextLib} {item : Element} {i : IgnParser.Item}
    (h : IgnParser.parse_item lib item = .ok (some i)) :
    ∃ raw_moment, i.attrs = [("raw_local_moment", .str raw_moment)] := by
  simp only [IgnParser.parse_item, bind_ok] at h
  obtain ⟨evid, _, h⟩ := h
  split at h
  · next raw_moment _ _ _ =>
      split at h
      · simp at h
      · simp only [bind_ok] at h
        obtain ⟨_, _, _, _, h⟩ := h
        split at h
        · simp only [bind_ok, Except.ok.injEq, Option.some.injEq] at h
          obtain ⟨_, _, _, _, rfl⟩ := h
          exact ⟨raw_moment, rfl⟩
        · simp at h
  · simp at h

namespace AemetParser

-- the texts that are there, under the keys that they have
theorem keys_of_texts (kvs : List (String × Option String)) :
    (Dict.keys (kvs.filterMap (fun kv => kv.2.map (fun value => (kv.1, (.str value : PyJson)))))).Sublist
      (kvs.map Prod.fst) := by
  induction kvs with
  | nil => exact .slnil
  | cons kv kvs ih =>
      cases hv : kv.2 with
      | none => simpa [hv, Dict.keys] using ih.cons kv.1
      | some value => simpa [hv, Dict.keys] using ih

theorem parse_cap_keys {lib : TextLib} {root : Element} {w : AemetWarning}
    (h : parse_cap lib root = .ok w) : (Dict.keys w.attrs).Sublist
      ["headline", "description", "cap_severity", "probability", "parameter"] := by
  simp only [parse_cap] at h
  split at h
  · simp only [bind_ok] at h
    obtain ⟨sent, _, h⟩ := h
    split at h
    · obtain rfl := Except.ok.inj h
      exact List.nil_sublist _
    · simp only [bind_ok, Except.ok.injEq] at h
      obtain ⟨_, _, _, _, rfl⟩ := h
      exact keys_of_texts _
  · simp at h

end AemetParser

theorem EffisRecord.ReadFrom.keys {r : EffisRecord} {f : EffisParser.Feature} (h : r.ReadFrom f) :
    Dict.keys r.attrs = Dict.keys f.attrs := by
  rw [← h.attrs, Json.keys_mapFields]

theorem EffisRecord.Read.hotspot {r : EffisRecord} (h : r.Read .hotspot) : r.Hotspot ∧ r.Clean := by
  obtain ⟨lib, feature, f, hparse, hfrom⟩ := h
  obtain ⟨properties, geometry, _, hread⟩ := parse_feature_read hparse
  obtain ⟨hkind, hid, hkeys⟩ := EffisParser.read_hotspot_record hread
  refine ⟨⟨hfrom.kind.trans hkind, hfrom.external_id ▸ hid⟩, ?_⟩
  simp [EffisRecord.Clean, hfrom.keys, hkeys]

theorem EffisRecord.Read.burnt_area {r : EffisRecord} (h : r.Read .burnt_area) :
    r.BurntArea ∧ r.Clean := by
  obtain ⟨lib, feature, f, hparse, hfrom⟩ := h
  obtain ⟨properties, geometry, _, hread⟩ := parse_feature_read hparse
  obtain ⟨hkind, hid, hkeys⟩ := EffisParser.read_burnt_area_record hread
  refine ⟨⟨hfrom.kind.trans hkind, hfrom.external_id ▸ hid⟩, ?_⟩
  simp [EffisRecord.Clean, hfrom.keys, hkeys]

theorem IgnRecord.Read.clean {r : IgnRecord} (h : r.Read) : r.Clean := by
  obtain ⟨lib, item, i, hparse, hfrom⟩ := h
  obtain ⟨raw_moment, hattrs⟩ := IgnParser.parse_item_attrs hparse
  simp [IgnRecord.Clean, hfrom.attrs, hattrs, Dict.keys]

theorem AemetWarning.Read.clean {w : AemetWarning} (h : w.Read) : w.Clean := by
  obtain ⟨lib, root, hparse⟩ := h
  have hsub := AemetParser.parse_cap_keys hparse
  exact ⟨.sublist hsub (by decide), fun hlevel => absurd (hsub.subset hlevel) (by decide)⟩

theorem Fetched.Read.clean {fetched : Fetched} (h : fetched.Read) : fetched.Clean := by
  cases fetched with
  | effis hotspots burnt_areas =>
      intro r hr
      rcases List.mem_append.mp hr with hr | hr
      · exact (h.1 r hr).hotspot.2
      · exact (h.2 r hr).burnt_area.2
  | ign records => exact fun r hr => (h r hr).clean
  | aemet warnings => exact fun w hw => (h w hw).clean

theorem Fetched.Read.parsed {fetched : Fetched} (h : fetched.Read) : fetched.Parsed := by
  cases fetched with
  | effis hotspots burnt_areas =>
      exact ⟨fun r hr => (h.1 r hr).hotspot.1, fun r hr => (h.2 r hr).burnt_area.1⟩
  | ign records => trivial
  | aemet warnings => trivial

theorem SyncAction.Read.clean {a : SyncAction} (h : a.Read) : a.Clean := by
  cases a with
  | committed tx fetched => exact Fetched.Read.clean h
  | rolled_back => trivial
  | failed => trivial

theorem SyncAction.Read.parsed {a : SyncAction} (h : a.Read) : a.Parsed := by
  cases a with
  | committed tx fetched => exact Fetched.Read.parsed h
  | rolled_back => trivial
  | failed => trivial

end GeoHazard
