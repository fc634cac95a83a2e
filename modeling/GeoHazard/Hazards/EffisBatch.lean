import GeoHazard.Library.JsonLimits
import GeoHazard.Library.SkipLoop
import GeoHazard.Hazards.EffisFeatures

namespace GeoHazard.EffisParser

section Nesting

variable {F : Type}

def is_numeral : Json F → Bool
  | .bool _ | .int _ | .float _ => true
  | _ => false

def is_position : Json F → Bool
  | .arr (first :: _ :: _) => is_numeral first
  | _ => false

def all_in (p : Json F → Bool) : Json F → Bool
  | .arr xs => xs.all p
  | _ => false

-- shapely closes a ring of three positions and refuses a shorter one
def closes : Json F → Bool
  | .arr xs => decide (3 ≤ xs.length)
  | _ => false

def is_ring : Json F → Bool := all_in is_position

def is_ring_that_closes (x : Json F) : Bool := is_ring x && closes x

-- a pair for Point, rings of positions for Polygon, lists of such for MultiPolygon
def well_nested (geom_type : String) (coordinates : Json F) : Bool :=
  if geom_type = "Point" then is_position coordinates
  else if geom_type = "Polygon" then all_in is_ring coordinates
  else if geom_type = "MultiPolygon" then all_in (all_in is_ring) coordinates
  else false

def rings_close (geom_type : String) (coordinates : Json F) : Bool :=
  if geom_type = "Polygon" then all_in closes coordinates
  else if geom_type = "MultiPolygon" then all_in (all_in closes) coordinates
  else true

theorem all_in_numeral {p : Json F → Bool} {x : Json F} (h : is_numeral x = true) :
    all_in p x = false := by
  cases x <;> simp_all [is_numeral, all_in]

theorem is_position_numeral {x : Json F} (h : is_numeral x = true) : is_position x = false := by
  cases x <;> simp_all [is_numeral, is_position]

theorem all_in_and (p q : Json F → Bool) (x : Json F) :
    (all_in p x && all_in q x) = all_in (fun y => p y && q y) x := by
  cases x with
  | arr xs =>
      simp only [all_in]
      induction xs with
      | nil => rfl
      | cons x xs ih =>
          simp only [List.all_cons, ← ih]
          cases p x <;> cases q x <;> simp
  | _ => rfl

end Nesting

inductive Pairs : PyJson → Prop
  | pair {lon lat : PyJson} (hlat : between 90 minus_90 plus_90 lat = true)
      (hlon : between 180 minus_180 plus_180 lon = true) : Pairs (.arr [lon, lat])
  | parts {cs : List PyJson} (hne : cs ≠ []) (h : ∀ c ∈ cs, Pairs c) : Pairs (.arr cs)

-- what shapely documents of shape on a tree of pairs in range
structure Shapely {G : Type} (env : Env G) : Prop where
  shape : ∀ geom_type c, Pairs c → well_nested geom_type c = true →
    ((∃ g, env.shape (.obj [("type", .str geom_type), ("coordinates", c)]) = some g ∧
      env.is_empty g = false) ↔ rings_close geom_type c = true)

variable {frames : Nat}

theorem is_numeral_eq (x : JsonValue) : is_numeral x = is_number x := by
  cases x <;> rfl

theorem is_numeral_between {bound : Int} {low high : PyFloat} {c : PyJson}
    (h : between bound low high c = true) : is_numeral c = true := by
  cases c <;> simp_all [between, is_numeral]

theorem swap_parts_forall₂ {xs : List JsonValue} {cs : List PyJson} (h : swap_parts frames xs = .ok cs) :
    List.Forall₂ (fun x c => swap_pairs frames x = .ok c) xs cs := by
  induction xs generalizing cs with
  | nil =>
      simp only [swap_parts, Except.ok.injEq] at h
      exact h ▸ .nil
  | cons x xs ih =>
      simp only [swap_parts, bind_ok] at h
      obtain ⟨c, hc, ds, hds, h⟩ := h
      exact Except.ok.inj h ▸ .cons hc (ih hds)

inductive Swapped (frames : Nat) (x : JsonValue) (c : PyJson) : Prop
  | position (hx : is_position x = true) (lon lat : PyJson)
      (hlat : between 90 minus_90 plus_90 lat = true)
      (hlon : between 180 minus_180 plus_180 lon = true) (hc : c = .arr [lon, lat])
  | parts (n : Nat) (hn : frames = n + 1) (first : JsonValue) (rest : List JsonValue)
      (hx : x = .arr (first :: rest)) (hf : is_number first = false) (cs : List PyJson)
      (hc : c = .arr cs) (h : List.Forall₂ (fun x c => swap_pairs n x = .ok c) (first :: rest) cs)

theorem swapped {x : JsonValue} {c : PyJson} (h : swap_pairs frames x = .ok c) : Swapped frames x c := by
  have hw := swap_pairs_walks.mp ⟨c, h⟩
  cases hw with
  | @pair n lat lon rest hlat hlon =>
      have hn := in_bound_number hlat
      rw [swap_pairs_pair hn] at h
      simp only [swap_pair, bind_ok] at h
      obtain ⟨lat', _, lon', _, h⟩ := h
      split at h
      · next hb =>
          obtain ⟨hbl, hbo⟩ := Bool.and_eq_true_iff.mp hb
          exact .position (by simp [is_position, is_numeral_eq, hn]) lon' lat' hbl hbo
            (Except.ok.inj h).symm
      · simp at h
  | @parts n part rest hn hall =>
      rw [swap_pairs_parts hn] at h
      obtain ⟨cs, hcs, rfl⟩ := map_ok.mp h
      exact .parts n rfl part rest rfl hn cs rfl (swap_parts_forall₂ hcs)

theorem forall₂_right {α β : Type} {R : α → β → Prop} {xs : List α} {ys : List β}
    (h : List.Forall₂ R xs ys) {y : β} (hy : y ∈ ys) : ∃ x, R x y := by
  induction h with
  | nil => simp at hy
  | cons hxy _ ih =>
      rcases List.mem_cons.mp hy with rfl | hy
      · exact ⟨_, hxy⟩
      · exact ih hy

theorem swapped_pairs {x : JsonValue} {c : PyJson} (h : swap_pairs frames x = .ok c) : Pairs c := by
  induction frames generalizing x c with
  | zero => simp [swap_pairs] at h
  | succ n ih =>
      cases swapped h with
      | position _ lon lat hlat hlon hc => exact hc ▸ .pair hlat hlon
      | parts m hm first rest hx hf cs hc hall =>
          obtain rfl := Nat.succ.inj hm
          subst hc
          refine .parts (fun he => ?_) (fun d hd => ?_)
          · subst he
            cases hall
          · obtain ⟨y, hy⟩ := forall₂_right hall hd
            exact ih hy

theorem is_numeral_swapped {x : JsonValue} {c : PyJson} (h : swap_pairs frames x = .ok c) :
    is_numeral c = false := by
  cases swapped h with
  | position _ lon lat _ _ hc => exact hc ▸ rfl
  | parts _ _ _ _ _ _ cs hc _ => exact hc ▸ rfl

theorem is_position_swap {x : JsonValue} {c : PyJson} (h : swap_pairs frames x = .ok c) :
    is_position c = is_position x := by
  cases swapped h with
  | position hx lon lat _ hlon hc =>
      rw [hx, hc]
      exact is_numeral_between hlon
  | parts n _ first rest hx hf cs hc hall =>
      subst hx hc
      cases hall with
      | @cons _ c _ cs hfirst hrest =>
          have hpos : is_position (.arr (c :: cs)) = false := by
            cases cs with
            | nil => rfl
            | cons d ds => exact is_numeral_swapped hfirst
          rw [hpos]
          cases rest with
          | nil => rfl
          | cons second rest => exact ((is_numeral_eq first).trans hf).symm

theorem all_in_swap {p : JsonValue → Bool} {q : PyJson → Bool}
    (hpq : ∀ {n : Nat} {x : JsonValue} {c : PyJson}, swap_pairs n x = .ok c → q c = p x)
    (hp : ∀ {x : JsonValue}, is_numeral x = true → p x = false)
    (hq : ∀ {c : PyJson}, is_numeral c = true → q c = false) {x : JsonValue} {c : PyJson}
    (h : swap_pairs frames x = .ok c) : all_in q c = all_in p x := by
  cases swapped h with
  | position hx lon lat _ hlon hc =>
      subst hc
      have hqlon := hq (is_numeral_between hlon)
      cases x with
      | arr xs =>
          match xs with
          | [] | [_] => simp [is_position] at hx
          | first :: second :: rest => simp [all_in, hqlon, hp hx]
      | _ => simp [is_position] at hx
  | parts n _ first rest hx hf cs hc hall =>
      subst hx hc
      simp only [all_in]
      clear hf h
      generalize first :: rest = xs at hall ⊢
      induction hall with
      | nil => rfl
      | cons hxc _ ih => simp only [List.all_cons, hpq hxc, ih]

theorem closes_swap {x : JsonValue} {c : PyJson} (h : swap_pairs frames x = .ok c)
    (hx : is_position x = false) : closes c = closes x := by
  cases swapped h with
  | position hx' => simp [hx] at hx'
  | parts n _ first rest hx hf cs hc hall =>
      subst hx hc
      simp only [closes, hall.length_eq]

theorem is_ring_swap {x : JsonValue} {c : PyJson} (h : swap_pairs frames x = .ok c) :
    is_ring c = is_ring x :=
  all_in_swap is_position_swap is_position_numeral is_position_numeral h

theorem ring_closes_swap {x : JsonValue} {c : PyJson} (h : swap_pairs frames x = .ok c) :
    is_ring_that_closes c = is_ring_that_closes x := by
  rw [is_ring_that_closes, is_ring_that_closes, is_ring_swap h]
  cases hring : is_ring x with
  | false => rfl
  | true =>
      have hx : is_position x = false := by
        cases x with
        | arr xs =>
            cases xs with
            | nil => rfl
            | cons first rest =>
                cases rest with
                | nil => rfl
                | cons second rest =>
                    simp only [is_ring, all_in, List.all_cons, Bool.and_eq_true] at hring
                    by_contra hn
                    rw [Bool.not_eq_false] at hn
                    simp [is_position_numeral hn] at hring
        | _ => rfl
      rw [closes_swap h hx]

theorem ring_numeral {F : Type} {x : Json F} (h : is_numeral x = true) :
    is_ring_that_closes x = false := by
  rw [is_ring_that_closes, is_ring, all_in_numeral h, Bool.false_and]

variable {geom_type : String} {x : JsonValue} {c : PyJson}

theorem geometry_swap (h : swap_pairs frames x = .ok c) :
    (well_nested geom_type c && rings_close geom_type c) =
      (well_nested geom_type x && rings_close geom_type x) := by
  have hpolygon := all_in_swap ring_closes_swap ring_numeral ring_numeral h
  have hmulti := all_in_swap (all_in_swap ring_closes_swap ring_numeral ring_numeral)
    all_in_numeral all_in_numeral h
  have hring : ∀ {F : Type}, all_in (is_ring_that_closes (F := F)) =
      fun x => all_in is_ring x && all_in closes x := by
    intro F
    funext x
    exact (all_in_and is_ring closes x).symm
  rw [hring, hring] at hpolygon hmulti
  rw [← all_in_and, ← all_in_and] at hmulti
  unfold well_nested rings_close
  by_cases hpoint : geom_type = "Point"
  · simp [hpoint, is_position_swap h]
  · by_cases hp : geom_type = "Polygon"
    · simpa [hp] using hpolygon
    · by_cases hm : geom_type = "MultiPolygon"
      · simpa [hm] using hmulti
      · simp [hpoint, hp, hm]

inductive ParseFailure where
  | effis_protocol_error (message : String)
  | escaped (e : ParseError)

def too_many_digits (limits : Json.Limits) (n : Int) : String :=
  "Exceeds the limit (" ++ toString limits.digits ++ " digits) for integer string conversion: " ++
    "value has " ++ toString (Json.digit_count n) ++ " digits; " ++
    "use sys.set_int_max_str_digits() to increase the limit"

-- over the text of the document: an integer past the digit limit is a ValueError
def json_loads (limits : Json.Limits) (document : JsonValue) : Except ParseError JsonValue :=
  match Json.fault limits.digits document limits.depth with
  | none => .ok document
  | some (.digits n) => .error (.value_error (too_many_digits limits n))
  | some .depth => .error .recursion_error

def iterate : JsonValue → Except ParseFailure (List JsonValue)
  | .arr xs => .ok xs
  | .str s => .ok (s.toList.map (fun c => .str (String.singleton c)))
  | .obj kvs => .ok (kvs.map (fun kv => .str kv.1))
  | _ => .error (.escaped .type_error)

def parse_features (lib : TextLib) (kind : EffisKind) (features : List JsonValue) :
    Except ParseFailure (List Feature) :=
  match SkipLoop.loop (fun feature => parse_feature lib feature kind) features with
  | .error e => .error (.escaped e)
  | .ok records =>
      if !features.isEmpty && records.isEmpty then
        .error (.effis_protocol_error ("none of the " ++ toString features.length ++
          " EFFIS features were parseable"))
      else .ok records

def parse (lib : TextLib) (exc_text : ParseError → String) (loads : Except ParseError JsonValue)
    (kind : EffisKind) : Except ParseFailure (List Feature) :=
  match loads >>= subscript "features" with
  | .error e =>
      match e with
      | .value_error _ | .type_error | .key_error _ =>
          .error (.effis_protocol_error ("unparseable EFFIS WFS response: " ++ exc_text e))
      | e => .error (.escaped e)
  | .ok features => iterate features >>= parse_features lib kind

def parse_hotspots (lib : TextLib) (exc_text : ParseError → String)
    (loads : Except ParseError JsonValue) : Except ParseFailure (List Feature) :=
  parse lib exc_text loads .hotspot

def parse_burnt_areas (lib : TextLib) (exc_text : ParseError → String)
    (loads : Except ParseError JsonValue) : Except ParseFailure (List Feature) :=
  parse lib exc_text loads .burnt_area

def features_list (document : JsonValue) : Option (List JsonValue) :=
  match member "features" document with
  | some (.arr features) => some features
  | _ => none

variable {G : Type} (env : Env G) (lib : TextLib) (kind : EffisKind)

def accepted (record : Feature) : Bool :=
  match record.geometry with
  | .obj [("type", .str geom_type), ("coordinates", coordinates)] =>
      well_nested geom_type coordinates && (geojson_to_wkb env record.geometry).isOk
  | _ => false

-- the record of a feature that can be read and stored
def usable (feature : JsonValue) : Option Feature :=
  match parse_feature lib feature kind with
  | .ok (some record) => if accepted env record then some record else none
  | _ => none

-- one record for each usable feature, or a protocol error without a list or where none is usable
inductive SkipsMalformed (document : JsonValue) : Except ParseFailure (List Feature) → Prop
  | protocol (message : String) (h : ∀ features, features_list document = some features →
      features ≠ [] ∧ features.filterMap (usable env lib kind) = []) :
      SkipsMalformed document (.error (.effis_protocol_error message))
  | records (features : List JsonValue) (hl : features_list document = some features)
      (h : features = [] ∨ features.filterMap (usable env lib kind) ≠ []) :
      SkipsMalformed document (.ok (features.filterMap (usable env lib kind)))

-- no exception leaves the feature, and what it reads is nested as its type requires, in rings that
-- close
structure Harmless (feature : JsonValue) : Prop where
  caught : ¬ FeatureEscapes lib kind feature
  nested : ∀ geom_type coordinates, FeatureReads lib kind feature geom_type coordinates →
    well_nested geom_type coordinates = true ∧ rings_close geom_type coordinates = true

-- a list of harmless features, or a text or an object that iterates over texts
def HarmlessMember : JsonValue → Prop
  | .arr features => ∀ feature ∈ features, Harmless lib kind feature
  | .str s => s ≠ ""
  | .obj kvs => kvs ≠ []
  | _ => False

-- json.loads takes the document and its features are harmless, or it refuses an integer of a
-- document that has no list of features, or a list without a usable one
inductive HarmlessDocument (limits : Json.Limits) (document : JsonValue) : Prop
  | taken (h : Json.fault limits.digits document limits.depth = none)
      (hm : ∀ features, member "features" document = some features → HarmlessMember lib kind features)
  | refused (n : Int) (h : Json.fault limits.digits document limits.depth = some (.digits n))
      (hu : ∀ features, features_list document = some features →
        features ≠ [] ∧ ∀ feature ∈ features, usable env lib kind feature = none)

variable {env lib kind}

theorem usable_keeps (feature : JsonValue) (record : Feature)
    (h : usable env lib kind feature = some record) :
    parse_feature lib feature kind = .ok (some record) := by
  unfold usable at h
  split at h
  · next r hr =>
      split at h
      · exact hr.trans (congrArg Except.ok h)
      · simp at h
  · simp at h

theorem accepted_iff (shapely : Shapely env) {feature : JsonValue} {record : Feature}
    {geom_type : String} {coordinates : JsonValue}
    (h : parse_feature lib feature kind = .ok (some record))
    (hr : FeatureReads lib kind feature geom_type coordinates) :
    accepted env record = true ↔
      well_nested geom_type coordinates = true ∧ rings_close geom_type coordinates = true := by
  obtain ⟨c, hc, hgeom⟩ := parse_feature_geometry h hr
  have hshape : well_nested geom_type c = true →
      ((geojson_to_wkb env record.geometry).isOk = true ↔ rings_close geom_type c = true) := by
    intro hw
    rw [← shapely.shape geom_type c (swapped_pairs hc) hw, hgeom]
    simp only [← geojson_to_wkb_ok]
    cases geojson_to_wkb env (.obj [("type", .str geom_type), ("coordinates", c)]) <;>
      simp [Except.isOk, Except.toBool]
  have hswap := @geometry_swap _ geom_type _ _ hc
  rw [← Bool.and_eq_true, ← hswap, Bool.and_eq_true]
  unfold accepted
  rw [hgeom] at hshape ⊢
  simp only [Bool.and_eq_true]
  exact and_congr_right hshape

theorem harmless_iff (shapely : Shapely env) {feature : JsonValue} :
    parse_feature lib feature kind = .ok (usable env lib kind feature) ↔
      Harmless lib kind feature := by
  constructor
  · intro h
    refine ⟨fun he => ?_, fun geom_type coordinates hr => ?_⟩
    · obtain ⟨e, he⟩ := parse_feature_error.mpr he
      simp [he] at h
    · obtain ⟨record, hp⟩ := parse_feature_reads.mpr ⟨_, _, hr⟩
      have hu : usable env lib kind feature = some record := Except.ok.inj (h.symm.trans hp)
      refine (accepted_iff shapely hp hr).mp ?_
      unfold usable at hu
      simp only [hp] at hu
      by_contra hno
      simp [hno] at hu
  · intro h
    cases hp : parse_feature lib feature kind with
    | error e => exact absurd (parse_feature_error.mp ⟨e, hp⟩) h.caught
    | ok o =>
        cases o with
        | none => simp [usable, hp]
        | some record =>
            obtain ⟨geom_type, coordinates, hr⟩ := parse_feature_reads.mp ⟨record, hp⟩
            have hacc := (accepted_iff shapely hp hr).mpr (h.nested _ _ hr)
            simp [usable, hp, hacc]

theorem parse_features_iff (shapely : Shapely env) {document : JsonValue} {features : List JsonValue}
    (hl : features_list document = some features) :
    SkipsMalformed env lib kind document (parse_features lib kind features) ↔
      ∀ feature ∈ features, Harmless lib kind feature := by
  simp only [← harmless_iff shapely,
    ← SkipLoop.loop_usable_iff (f := fun feature => parse_feature lib feature kind) usable_keeps]
  unfold parse_features
  cases hloop : SkipLoop.loop (fun feature => parse_feature lib feature kind) features with
  | error e => exact iff_of_false (by rintro ⟨⟩) (by simp)
  | ok records =>
      simp only [Except.ok.injEq]
      constructor
      · intro h
        split at h
        · next hnone =>
            simp only [Bool.and_eq_true, List.isEmpty_iff] at hnone
            cases h with
            | protocol _ h => rw [hnone.2, (h features hl).2]
        · generalize hr : (Except.ok records : Except ParseFailure (List Feature)) = r at h
          cases h with
          | protocol => simp at hr
          | records features' hl' =>
              obtain rfl := Option.some.inj (hl'.symm.trans hl)
              exact Except.ok.inj hr
      · rintro rfl
        split
        · next hnone =>
            simp only [Bool.and_eq_true, Bool.not_eq_true', List.isEmpty_iff,
              List.isEmpty_eq_false_iff] at hnone
            refine .protocol _ (fun features' hl' => ?_)
            obtain rfl := Option.some.inj (hl'.symm.trans hl)
            exact hnone
        · next hsome =>
            simp only [Bool.and_eq_true, Bool.not_eq_true', List.isEmpty_iff,
              List.isEmpty_eq_false_iff, not_and, ne_eq] at hsome
            refine .records features hl ?_
            by_cases he : features = []
            · exact .inl he
            · exact .inr (hsome he)

theorem parse_texts {texts : List String} : parse_features lib kind (texts.map .str) =
    if texts.isEmpty then .ok []
    else .error (.effis_protocol_error ("none of the " ++ toString texts.length ++
      " EFFIS features were parseable")) := by
  have hnone : ∀ feature ∈ texts.map (Json.str : String → JsonValue),
      parse_feature lib feature kind = .ok none := by
    intro feature hf
    obtain ⟨s, _, rfl⟩ := List.mem_map.mp hf
    cases kind <;> rfl
  have hloop := @SkipLoop.loop_usable _ _ _ _ (fun _ => none) _ hnone
  rw [parse_features, hloop, List.length_map]
  cases texts with
  | nil => rfl
  | cons s texts => simp

theorem member_of_list {document features : JsonValue} (hf : member "features" document = some features)
    (h : ∀ xs, features ≠ .arr xs) : features_list document = none := by
  simp only [features_list, hf]
  cases features with
  | arr xs => exact absurd rfl (h xs)
  | _ => rfl

theorem texts_skip {document : JsonValue} {texts : List String} (hl : features_list document = none) :
    SkipsMalformed env lib kind document (parse_features lib kind (texts.map .str)) ↔ texts ≠ [] := by
  rw [parse_texts]
  cases texts with
  | nil =>
      refine iff_of_false (fun h => ?_) (by simp)
      generalize hr : (if List.isEmpty ([] : List String) then Except.ok [] else _) = r at h
      cases h with
      | protocol => simp at hr
      | records features hl' => simp [hl] at hl'
  | cons s texts =>
      refine iff_of_true (.protocol _ (fun features hl' => ?_)) (by simp)
      simp [hl] at hl'

theorem usable_accepted {feature : JsonValue} {record : Feature}
    (h : usable env lib kind feature = some record) :
    ∃ g, geojson_to_wkb env record.geometry = .ok g := by
  unfold usable at h
  split at h
  · split at h
    · next hacc =>
        obtain rfl := Option.some.inj h
        unfold accepted at hacc
        split at hacc
        · next hgeom =>
            simp only [Bool.and_eq_true] at hacc
            cases hg : geojson_to_wkb env _ with
            | ok g => exact ⟨g, rfl⟩
            | error e => simp [hg, Except.isOk, Except.toBool] at hacc
        · simp at hacc
    · simp at h
  · simp at h

theorem subscript_error {key : String} {x : JsonValue} {e : ParseError}
    (h : subscript key x = .error e) : (∃ key, e = .key_error key) ∨ e = .type_error := by
  cases x with
  | obj kvs =>
      simp only [subscript] at h
      cases hg : Dict.get key kvs with
      | none => exact .inl ⟨key, by simpa [hg, raise_none] using h.symm⟩
      | some v => simp [hg, raise_none] at h
  | _ => exact .inr (Except.error.inj h).symm

theorem taken_skips_malformed (shapely : Shapely env) (exc_text : ParseError → String)
    (document : JsonValue) :
    SkipsMalformed env lib kind document (parse lib exc_text (.ok document) kind) ↔
      ∀ features, member "features" document = some features → HarmlessMember lib kind features := by
  change SkipsMalformed env lib kind document (match subscript "features" document with
    | .error _ => _
    | .ok features => iterate features >>= parse_features lib kind) ↔ _
  cases hs : subscript "features" document with
  | error e =>
      have hno : member "features" document = none := by
        cases hm : member "features" document with
        | none => rfl
        | some features => simp [subscript_ok.mpr hm] at hs
      refine iff_of_true ?_ (by simp [hno])
      have hl : ∀ features, features_list document ≠ some features := by simp [features_list, hno]
      obtain ⟨key, rfl⟩ | rfl := subscript_error hs
      · exact .protocol _ (fun features h => absurd h (hl features))
      · exact .protocol _ (fun features h => absurd h (hl features))
  | ok features =>
      have hm := subscript_ok.mp hs
      simp only [hm, Option.some.injEq, forall_eq']
      cases features with
      | arr xs => exact parse_features_iff shapely (by simp [features_list, hm])
      | str s =>
          have hl := member_of_list hm (by simp)
          have ht := @texts_skip _ env lib kind document (s.toList.map String.singleton) hl
          rw [List.map_map] at ht
          simp only [HarmlessMember]
          refine ht.trans (not_congr ?_)
          rw [List.map_eq_nil_iff, String.toList_eq_nil_iff]
      | obj kvs =>
          have hl := member_of_list hm (by simp)
          have ht := @texts_skip _ env lib kind document (kvs.map Prod.fst) hl
          rw [List.map_map] at ht
          simp only [HarmlessMember]
          exact ht.trans (not_congr List.map_eq_nil_iff)
      | _ => exact iff_of_false (by rintro ⟨⟩) id

theorem refused_skips_malformed (exc_text : ParseError → String) (document : JsonValue)
    (message : String) :
    SkipsMalformed env lib kind document (parse lib exc_text (.error (.value_error message)) kind) ↔
      ∀ features, features_list document = some features →
        features ≠ [] ∧ ∀ feature ∈ features, usable env lib kind feature = none := by
  simp only [← List.filterMap_eq_nil_iff]
  constructor
  · intro h
    cases h with
    | protocol _ h => exact h
  · exact .protocol _

theorem effis_skips_malformed (shapely : Shapely env) (exc_text : ParseError → String)
    (limits : Json.Limits) (document : JsonValue) :
    (SkipsMalformed env lib kind document (parse lib exc_text (json_loads limits document) kind) ↔
      HarmlessDocument env lib kind limits document) ∧
    (Json.fault limits.digits document limits.depth = none ↔
      Json.nesting document ≤ limits.depth ∧
        ∀ n ∈ Json.integers document, Json.digit_count n ≤ limits.digits) ∧
    ∀ feature record, usable env lib kind feature = some record →
      ∃ g, geojson_to_wkb env record.geometry = .ok g := by
  refine ⟨?_, Json.fault_none document limits.depth, fun feature record h => usable_accepted h⟩
  unfold json_loads
  cases hf : Json.fault limits.digits document limits.depth with
  | none =>
      rw [taken_skips_malformed shapely exc_text document]
      refine ⟨.taken hf, fun h => ?_⟩
      cases h with
      | taken _ hm => exact hm
      | refused n h => simp [hf] at h
  | some fault =>
      cases fault with
      | digits n =>
          rw [refused_skips_malformed]
          refine ⟨.refused n hf, fun h => ?_⟩
          cases h with
          | taken h => simp [hf] at h
          | refused _ _ hu => exact hu
      | depth =>
          refine iff_of_false (by rintro ⟨⟩) (fun h => ?_)
          cases h with
          | taken h => simp [hf] at h
          | refused n h => simp [hf] at h

-- shape on what the walk gives, over a plane where a geometry is its list of vertices
def wfs_shape : PyJson → Option (List (PyFloat × PyFloat))
  | .obj [("type", .str geom_type), ("coordinates", coordinates)] =>
      if well_nested geom_type coordinates && rings_close geom_type coordinates then
        some (positions Subtype.val coordinates)
      else none
  | _ => none

def wfs_env : Env (List (PyFloat × PyFloat)) :=
  { planar_env id with shape := wfs_shape, is_empty := fun _ => false }

theorem wfs_shapely : Shapely wfs_env where
  shape geom_type c _ hw := by
    cases hr : rings_close geom_type c <;> simp [wfs_env, wfs_shape, hw, hr]

def wfs_feature (coordinates : JsonValue) : JsonValue :=
  .obj [("properties", .obj [("id", .int 7), ("acq_at", .str "2026-07-02 10:00:00")]),
    ("geometry", .obj [("type", .str "Point"), ("coordinates", coordinates)])]

def wfs_document (features : List JsonValue) : JsonValue := .obj [("features", .arr features)]

def cpython : Json.Limits := ⟨4300, 1000⟩

theorem effis_skips_malformed_null : SkipsMalformed wfs_env feed_lib .hotspot
    (wfs_document [wfs_hotspot, .obj [("properties", .null)]])
    (parse_hotspots feed_lib (fun _ => "") (json_loads cpython (wfs_document
      [wfs_hotspot, .obj [("properties", .null)]]))) := by
  refine (effis_skips_malformed wfs_shapely _ _ _).1.mpr (.taken (by decide) (fun features hf => ?_))
  obtain rfl := Option.some.inj (hf.symm.trans (rfl : member "features" (wfs_document _) = some _))
  intro feature hm
  simp only [List.mem_cons, List.not_mem_nil, or_false] at hm
  rcases hm with rfl | rfl
  · exact (harmless_iff wfs_shapely).mp rfl
  · exact (harmless_iff wfs_shapely).mp rfl

theorem text_coordinates_break_batch :
    ¬ ∀ (env : Env (List (PyFloat × PyFloat))) (lib : TextLib) (exc_text : ParseError → String)
      (limits : Json.Limits) (document : JsonValue) (kind : EffisKind), Shapely env →
      SkipsMalformed env lib kind document (parse lib exc_text (json_loads limits document) kind) := by
  intro hall
  have h := hall wfs_env feed_lib (fun _ => "") cpython
    (wfs_document [wfs_hotspot, wfs_feature (.str "40.4,-3.7")]) .hotspot wfs_shapely
  have hraise : parse feed_lib (fun _ => "") (json_loads cpython
      (wfs_document [wfs_hotspot, wfs_feature (.str "40.4,-3.7")])) .hotspot =
        .error (.escaped .recursion_error) := rfl
  rw [hraise] at h
  cases h

end GeoHazard.EffisParser
