import GeoHazard.Library.SkipLoop
import GeoHazard.Hazards.StoredVertices

namespace GeoHazard.IgnParser

def feed_items (root : Element) : List Element :=
  (root.findall "channel").flatMap (fun channel => channel.findall "item")

def parse_items (lib : TextLib) (items : List Element) : Except ParseError (List Item) :=
  SkipLoop.loop (parse_item lib) items

def checked (items : List Element) (records : List Item) : Except ParseError (List Item) :=
  if !items.isEmpty && records.isEmpty then
    .error (.protocol_error ("none of the " ++ toString items.length ++
      " feed items were parseable"))
  else .ok records

def parse_georss (lib : TextLib) (fromstring : Except String Element) :
    Except ParseError (List Item) :=
  match fromstring with
  | .error exc => .error (.protocol_error ("unparseable GeoRSS feed: " ++ exc))
  | .ok root => do
      let records ← parse_items lib (feed_items root)
      checked (feed_items root) records

def guid (item : Element) : String := ((first_text item "guid").or (first_text item "link")).getD ""

def description (lib : TextLib) (item : Element) : Option (String × String × String) :=
  lib.description ((first_text item "description").getD "")

structure Texts where
  evid : String
  latitude : String
  longitude : String
  magnitude : String
  region : String
  raw_moment : String

def texts (lib : TextLib) (item : Element) : Option Texts := do
  let evid ← (lib.evid (guid item)).filter (· != "")
  let latitude ← first_text item (GEO_NS ++ "lat")
  let longitude ← first_text item (GEO_NS ++ "long")
  let (magnitude, region, raw_moment) ← description lib item
  some ⟨evid, latitude, longitude, magnitude, region, raw_moment⟩

def Texts.record (t : Texts) (latitude longitude : FiniteFloat) (occurred_at : Datetime)
    (magnitude : PyFloat) : Item where
  external_id := t.evid
  magnitude := magnitude
  region := t.region
  latitude := latitude
  longitude := longitude
  occurred_at := occurred_at
  attrs := [("raw_local_moment", .str t.raw_moment)]

def Texts.read (lib : TextLib) (t : Texts) : Except ParseError (Option Item) := do
  let latitude ← parse_float lib t.latitude
  let longitude ← parse_float lib t.longitude
  match finite_in latitude minus_90 plus_90, finite_in longitude minus_180 plus_180 with
  | some latitude, some longitude => do
      let occurred_at ← raise_none
        (.value_error "time data does not match format '%d/%m/%Y %H:%M:%S'")
        (lib.strptime_madrid t.raw_moment)
      let magnitude ← parse_float lib t.magnitude
      .ok (some (t.record latitude longitude occurred_at magnitude))
  | _, _ => .ok none

-- the record of an item when all of its texts can be interpreted
def Texts.usable (lib : TextLib) (t : Texts) : Option Item := do
  let latitude ← (lib.float t.latitude).bind (finite_in · minus_90 plus_90)
  let longitude ← (lib.float t.longitude).bind (finite_in · minus_180 plus_180)
  let occurred_at ← lib.strptime_madrid t.raw_moment
  let magnitude ← (lib.float t.magnitude).filter PyFloat.isfinite
  some (t.record latitude longitude occurred_at magnitude)

def usable (lib : TextLib) (item : Element) : Option Item := (texts lib item).bind (Texts.usable lib)

-- one record for each item that can be interpreted, and an error where there are items and none can
def skip_malformed (lib : TextLib) (root : Element) : Except ParseError (List Item) :=
  checked (feed_items root) ((feed_items root).filterMap (usable lib))

-- float reads both coordinates and, where these are in range, the moment is a date of the calendar
-- and the magnitude is finite
structure Texts.Legible (lib : TextLib) (t : Texts) : Prop where
  latitude : (lib.float t.latitude).isSome = true
  longitude : (lib.float t.longitude).isSome = true
  rest : ((lib.float t.latitude).bind (finite_in · minus_90 plus_90)).isSome = true →
    ((lib.float t.longitude).bind (finite_in · minus_180 plus_180)).isSome = true →
    (lib.strptime_madrid t.raw_moment).isSome = true ∧
      (lib.float t.magnitude).any PyFloat.isfinite = true

structure Legible (lib : TextLib) (item : Element) : Prop where
  url : (lib.evid (guid item)).isSome = true
  numbers : ∀ t, texts lib item = some t → t.Legible lib

variable {lib : TextLib} {item : Element}

theorem parse_item_eq : parse_item lib item =
    (lib.evid (guid item)).elim (.error (.value_error "Invalid IPv6 URL"))
      (fun _ => (texts lib item).elim (.ok none) (Texts.read lib)) := by
  unfold parse_item texts
  change raise_none _ (lib.evid (guid item)) >>= _ = _
  cases he : lib.evid (guid item) with
  | none => rfl
  | some evid =>
      have hd : lib.description ((first_text item "description").getD "") = description lib item := rfl
      simp only [raise_none, bind, Except.bind, hd]
      cases first_text item (GEO_NS ++ "lat") with
      | none => by_cases hempty : evid = "" <;> simp [hempty, Option.filter]
      | some lat_text =>
          cases first_text item (GEO_NS ++ "long") with
          | none => by_cases hempty : evid = "" <;> simp [hempty, Option.filter]
          | some lon_text =>
              cases description lib item with
              | none => by_cases hempty : evid = "" <;> simp [hempty, Option.filter]
              | some text =>
                  by_cases hempty : evid = ""
                  · simp [hempty, Option.filter]
                  · simp only [hempty, Option.filter, bne_iff_ne, ne_eq, not_false_eq_true, if_true]
                    rfl

theorem read_legible {t : Texts} : t.read lib = .ok (t.usable lib) ↔ t.Legible lib := by
  unfold Texts.read Texts.usable
  cases hlat : lib.float t.latitude with
  | none => 
      refine iff_of_false (by simp [parse_float, raise_none, hlat, bind, Except.bind]) (fun h => ?_)
      simpa [hlat] using h.latitude
  | some lat =>
      cases hlon : lib.float t.longitude with
      | none =>
          refine iff_of_false
            (by simp [parse_float, raise_none, hlat, hlon, bind, Except.bind]) (fun h => ?_)
          simpa [hlon] using h.longitude
      | some lon =>
          simp only [parse_float, hlat, hlon, raise_none, bind, Except.bind, Option.bind_some]
          cases hla : finite_in lat minus_90 plus_90 with
          | none =>
              exact iff_of_true rfl ⟨by simp [hlat], by simp [hlon], by simp [hlat, hla]⟩
          | some la =>
              cases hlo : finite_in lon minus_180 plus_180 with
              | none => exact iff_of_true rfl ⟨by simp [hlat], by simp [hlon], by simp [hlon, hlo]⟩
              | some lo =>
                  have hrest : t.Legible lib ↔ (lib.strptime_madrid t.raw_moment).isSome = true ∧
                      (lib.float t.magnitude).any PyFloat.isfinite = true := by
                    refine ⟨fun h => h.rest (by simp [hlat, hla]) (by simp [hlon, hlo]), fun h => ?_⟩
                    exact ⟨by simp [hlat], by simp [hlon], fun _ _ => h⟩
                  rw [hrest]
                  cases lib.strptime_madrid t.raw_moment with
                  | none => simp
                  | some occurred_at =>
                      cases lib.float t.magnitude with
                      | none => simp
                      | some m => by_cases hm : m.isfinite = true <;> simp [hm, Option.filter]

theorem parse_item_legible : parse_item lib item = .ok (usable lib item) ↔ Legible lib item := by
  rw [parse_item_eq, usable]
  cases he : lib.evid (guid item) with
  | none =>
      refine iff_of_false (by simp) (fun h => ?_)
      simpa [he] using h.url
  | some evid =>
      cases ht : texts lib item with
      | none => exact iff_of_true rfl ⟨by simp [he], by simp [ht]⟩
      | some t =>
          refine read_legible.trans ⟨fun h => ⟨by simp [he], fun t' ht' => ?_⟩, fun h => h.numbers t ht⟩
          rw [ht, Option.some.injEq] at ht'
          exact ht' ▸ h

theorem texts_evid {t : Texts} (h : texts lib item = some t) :
    (lib.evid (guid item)).isSome = true := by
  cases he : lib.evid (guid item) with
  | none => simp [texts, he] at h
  | some evid => rfl

theorem usable_some {record : Item} (h : usable lib item = some record) :
    ∃ t latitude longitude occurred_at magnitude, texts lib item = some t ∧
      (lib.float t.latitude).bind (finite_in · minus_90 plus_90) = some latitude ∧
      (lib.float t.longitude).bind (finite_in · minus_180 plus_180) = some longitude ∧
      lib.strptime_madrid t.raw_moment = some occurred_at ∧
      lib.float t.magnitude = some magnitude ∧ magnitude.isfinite = true ∧
      record = t.record latitude longitude occurred_at magnitude := by
  obtain ⟨t, ht, hu⟩ := Option.bind_eq_some_iff.mp h
  obtain ⟨latitude, hlat, hu⟩ := Option.bind_eq_some_iff.mp hu
  obtain ⟨longitude, hlon, hu⟩ := Option.bind_eq_some_iff.mp hu
  obtain ⟨occurred_at, hmoment, hu⟩ := Option.bind_eq_some_iff.mp hu
  obtain ⟨magnitude, hm, hu⟩ := Option.bind_eq_some_iff.mp hu
  obtain ⟨hm, hfinite⟩ := Option.filter_eq_some_iff.mp hm
  exact ⟨t, latitude, longitude, occurred_at, magnitude, ht, hlat, hlon, hmoment, hm, hfinite,
    (Option.some.inj hu).symm⟩

theorem usable_legible {record : Item} (h : usable lib item = some record) : Legible lib item := by
  obtain ⟨t, latitude, longitude, occurred_at, magnitude, ht, hlat, hlon, hmoment, hm, hfinite, _⟩ :=
    usable_some h
  refine ⟨texts_evid ht, fun t' ht' => ?_⟩
  obtain rfl := Option.some.inj (ht'.symm.trans ht)
  obtain ⟨lat, hla, _⟩ := Option.bind_eq_some_iff.mp hlat
  obtain ⟨lon, hlo, _⟩ := Option.bind_eq_some_iff.mp hlon
  exact ⟨by simp [hla], by simp [hlo], fun _ _ => ⟨by simp [hmoment], by simp [hm, hfinite]⟩⟩

theorem usable_in_range {record : Item} (h : usable lib item = some record) :
    InRange (record.longitude.val, record.latitude.val) ∧ record.magnitude.isfinite = true := by
  obtain ⟨t, latitude, longitude, occurred_at, magnitude, _, hlat, hlon, _, _, hfinite, rfl⟩ :=
    usable_some h
  obtain ⟨lat, _, hla⟩ := Option.bind_eq_some_iff.mp hlat
  obtain ⟨lon, _, hlo⟩ := Option.bind_eq_some_iff.mp hlon
  obtain ⟨hva, hs, hn⟩ := finite_in_ok hla
  obtain ⟨hvo, hw, he⟩ := finite_in_ok hlo
  refine ⟨?_, hfinite⟩
  simp only [Texts.record, hva, hvo]
  exact .of_between hw he hs hn

theorem parse_items_legible {items : List Element} :
    parse_items lib items = .ok (items.filterMap (usable lib)) ↔ ∀ item ∈ items, Legible lib item := by
  simp only [← parse_item_legible]
  exact SkipLoop.loop_usable_iff
    (fun item record hu => (parse_item_legible.mpr (usable_legible hu)).trans (congrArg _ hu))

theorem checked_inj {items : List Element} {r s : List Item} (h : checked items r = checked items s) :
    r = s := by
  unfold checked at h
  split at h <;> split at h
  · next hr hs =>
      simp only [Bool.and_eq_true, List.isEmpty_iff] at hr hs
      rw [hr.2, hs.2]
  · simp at h
  · simp at h
  · exact Except.ok.inj h

theorem raise_none_error {α : Type} {e e' : ParseError} {o : Option α}
    (h : raise_none e o = .error e') : e' = e := by
  cases o with
  | none => exact (Except.error.inj h).symm
  | some a => simp [raise_none] at h

theorem read_error {t : Texts} {e : ParseError} (h : t.read lib = .error e) :
    ∃ message, e = .value_error message := by
  simp only [Texts.read, parse_float, bind_error] at h
  rcases h with h | ⟨latitude, _, h | ⟨longitude, _, h⟩⟩
  · exact ⟨_, raise_none_error h⟩
  · exact ⟨_, raise_none_error h⟩
  · split at h
    · rcases bind_error.mp h with h | ⟨_, _, h⟩
      · exact ⟨_, raise_none_error h⟩
      · rcases bind_error.mp h with h | ⟨_, _, h⟩
        · exact ⟨_, raise_none_error h⟩
        · simp at h
    · simp at h

theorem parse_items_error {items : List Element} {e : ParseError}
    (h : parse_items lib items = .error e) : ∃ message, e = .value_error message := by
  obtain ⟨item, _, h⟩ := SkipLoop.loop_error h
  rw [parse_item_eq] at h
  cases he : lib.evid (guid item) with
  | none =>
      rw [he] at h
      exact ⟨_, (Except.error.inj h).symm⟩
  | some evid =>
      cases ht : texts lib item with
      | none => simp [he, ht] at h
      | some t =>
          rw [he, ht] at h
          exact read_error h

theorem georss_skips_malformed (lib : TextLib) (root : Element) :
    (parse_georss lib (.ok root) = skip_malformed lib root ↔
      ∀ item ∈ feed_items root, Legible lib item) ∧
    ∀ records, skip_malformed lib root = .ok records → ∀ record ∈ records,
      InRange (record.longitude.val, record.latitude.val) ∧ record.magnitude.isfinite = true := by
  refine ⟨⟨fun h => ?_, fun h => ?_⟩, fun records h record hm => ?_⟩
  · cases hitems : parse_items lib (feed_items root) with
    | error e =>
        obtain ⟨message, rfl⟩ := parse_items_error hitems
        simp only [parse_georss, hitems, bind, Except.bind, skip_malformed, checked] at h
        split at h <;> simp at h
    | ok records =>
        simp only [parse_georss, hitems, bind, Except.bind, skip_malformed] at h
        exact parse_items_legible.mp (hitems.trans (congrArg Except.ok (checked_inj h)))
  · simp only [parse_georss, parse_items_legible.mpr h, bind, Except.bind, skip_malformed]
  · simp only [skip_malformed, checked] at h
    split at h
    · simp at h
    · obtain rfl := Except.ok.inj h
      obtain ⟨item, _, hu⟩ := List.mem_filterMap.mp hm
      exact usable_in_range hu

def comma_item : Element :=
  .mk "item" none [
    text_element "guid" "https://www.ign.es/?evid=es2026a",
    text_element "description" "terremoto de magnitud 1 en MADRID en la fecha 02/07/2026 12:00:00",
    text_element (GEO_NS ++ "lat") "40,4",
    text_element (GEO_NS ++ "long") "1"]

def comma_feed : Element := .mk "rss" none [.mk "channel" none [feed_item, comma_item]]

theorem comma_feed_raises : parse_georss feed_lib (.ok comma_feed) =
    .error (.value_error "could not convert string to float") := rfl

theorem comma_feed_usable : skip_malformed feed_lib comma_feed = .ok [feed_record] := rfl

theorem comma_breaks_feed :
    ¬ ∀ (lib : TextLib) (root : Element),
      parse_georss lib (.ok root) = skip_malformed lib root := by
  intro hall
  have h := hall feed_lib comma_feed
  rw [comma_feed_raises, comma_feed_usable] at h
  simp at h

end GeoHazard.IgnParser
