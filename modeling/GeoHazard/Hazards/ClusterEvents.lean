import GeoHazard.Library.GroupBy
import GeoHazard.Library.OrderBy
import GeoHazard.Hazards.KeysetWalk
import Mathlib.Algebra.Order.BigOperators.Group.List

namespace GeoHazard
open HazardEventRepo

variable {G : Type} {f : Filters} {now : Timestamptz} {t : Rows G}

structure ClusterRow (G : Type) where
  cluster_id : Nat
  count : Nat
  max_severity : Nat
  first_starts_at : Timestamptz
  last_starts_at : Timestamptz
  centroid : G

-- both work on the metric projection; the window function labels each row, NULL for the noise,
-- and centroid is ST_Centroid(ST_Collect(_))
structure ClusterSql (G : Type) extends SpatialSql G where
  ST_ClusterDBSCAN : PyFloat → Nat → List G → List (Option Nat)
  centroid : List G → G
  labels : ∀ eps_m min_points gs, (ST_ClusterDBSCAN eps_m min_points gs).length = gs.length

namespace HazardEventRepo

def MAX_CLUSTERS : Nat := 500

def clustered (sql : ClusterSql G) (eps_m : PyFloat) (min_points : Nat) (base : Rows G) :
    List (Nat × HazardEvent G) :=
  (base.zip (sql.ST_ClusterDBSCAN eps_m min_points (base.map (fun e => e.geom)))).filterMap
    (fun p => p.2.map (fun cluster_id => (cluster_id, p.1)))

def cluster_base (sql : ClusterSql G) (bbox : Option Bbox) (f : Filters) (now : Timestamptz)
    (t : Rows G) : Rows G :=
  t.filter (fun e => bbox.all (fun b => sql.ST_Intersects e.geom (sql.ST_MakeEnvelope b)) &&
    apply_filters f now e)

def to_cluster (sql : ClusterSql G) (cluster_id : Nat) (members : Rows G) : ClusterRow G where
  cluster_id := cluster_id
  count := members.length
  max_severity := GroupBy.maximum (fun e => e.severity.val) members
  first_starts_at := (members.map (fun e => e.starts_at)).min?.getD 0
  last_starts_at := (members.map (fun e => e.starts_at)).max?.getD 0
  centroid := sql.centroid (members.map (fun e => e.geom))

-- ORDER BY count DESC, cluster_id
def cluster_before (a b : ClusterRow G) : Prop :=
  b.count < a.count ∨ (a.count = b.count ∧ a.cluster_id ≤ b.cluster_id)

instance (a b : ClusterRow G) : Decidable (cluster_before a b) := inferInstanceAs (Decidable (_ ∨ _))

def cluster_rows (sql : ClusterSql G) (eps_m : PyFloat) (min_points : Nat) (bbox : Option Bbox)
    (f : Filters) (now : Timestamptz) (t : Rows G) : List (ClusterRow G) :=
  OrderBy.limited cluster_before MAX_CLUSTERS
    ((GroupBy.aggregate Prod.fst (fun rows => rows.map Prod.snd)
      (clustered sql eps_m min_points (cluster_base sql bbox f now t))).map
        (fun p => to_cluster sql p.1 p.2))

end HazardEventRepo

structure ClusterFeature where
  geometry : List (String × PyObject)
  cluster_id : Nat
  count : Nat
  max_severity : Nat
  first_starts_at : Timestamptz
  last_starts_at : Timestamptz

structure ClusterFeatureCollection where
  features : List ClusterFeature
  numberReturned : Nat
  attribution : List SourceAttribution

def SOURCES : List String := ["effis", "ign", "aemet"]

namespace ClusterEventsUseCase

variable {env : Env G}

def feature (lib : Shapely env) (row : ClusterRow G) : Except KeyError ClusterFeature := do
  .ok ⟨← wkb_to_geojson lib row.centroid, row.cluster_id, row.count, row.max_severity,
    row.first_starts_at, row.last_starts_at⟩

def attribution (f : Filters) : List SourceAttribution :=
  attributions_for (if truthy f.source then f.source.toList else SOURCES)

def execute (lib : Shapely env) (sql : ClusterSql G) (eps_m : PyFloat) (min_points : Nat)
    (bbox_raw : Option String) (f : Filters) (now : Timestamptz) (t : Rows G) :
    Except ServeError ClusterFeatureCollection := do
  let bbox ← catch_value_error (fun e => "invalid bbox: " ++ e.text) (parse_bbox env bbox_raw)
  if bbox.isNone && f.starts_after.isNone then
    .error (.business_validation "clusters requires a bounding filter: bbox or starts_after")
  else do
    let features ← catch_key_error (each (feature lib)
      (cluster_rows sql eps_m min_points bbox f now t))
    .ok ⟨features, features.length, attribution f⟩

end ClusterEventsUseCase

section
variable {sql : ClusterSql G} {eps_m : PyFloat} {min_points : Nat} {bbox : Option Bbox}

theorem clusters_by : OrderBy.By (cluster_before (G := G))
    (fun c => toLex (OrderDual.toDual c.count, c.cluster_id)) :=
  ⟨fun {a b} => by rw [Prod.Lex.toLex_le_toLex]; rfl⟩

theorem first_last {xs : List Timestamptz} (h : xs ≠ []) :
    (xs.min?.getD 0 ∈ xs ∧ ∀ x ∈ xs, xs.min?.getD 0 ≤ x) ∧
      (xs.max?.getD 0 ∈ xs ∧ ∀ x ∈ xs, x ≤ xs.max?.getD 0) := by
  obtain ⟨least, hleast⟩ := Option.ne_none_iff_exists'.mp (mt List.min?_eq_none_iff.mp h)
  obtain ⟨most, hmost⟩ := Option.ne_none_iff_exists'.mp (mt List.max?_eq_none_iff.mp h)
  rw [hleast, hmost]
  exact ⟨List.min?_eq_some_iff.mp hleast, List.max?_eq_some_iff.mp hmost⟩

structure Sums (sql : ClusterSql G) (c : ClusterRow G) (members : Rows G) : Prop where
  nonempty : members ≠ []
  count : c.count = members.length
  severity : (∃ e ∈ members, e.severity.val = c.max_severity) ∧
    ∀ e ∈ members, e.severity.val ≤ c.max_severity
  first : (∃ e ∈ members, e.starts_at = c.first_starts_at) ∧
    ∀ e ∈ members, c.first_starts_at ≤ e.starts_at
  last : (∃ e ∈ members, e.starts_at = c.last_starts_at) ∧
    ∀ e ∈ members, e.starts_at ≤ c.last_starts_at
  centroid : c.centroid = sql.centroid (members.map (fun e => e.geom))

theorem to_cluster_sums {members : Rows G} (h : members ≠ []) (cluster_id : Nat) :
    Sums sql (to_cluster sql cluster_id members) members := by
  have hne : members.map (fun e => e.starts_at) ≠ [] := mt List.map_eq_nil_iff.mp h
  obtain ⟨⟨hfirst, hleast⟩, hlast, hmost⟩ := first_last hne
  exact ⟨h, rfl, ⟨@GroupBy.maximum_mem _ members (fun e => e.severity.val) h,
      fun o ho => @GroupBy.le_maximum _ members (fun e => e.severity.val) o ho⟩,
    ⟨List.mem_map.mp hfirst, fun o ho => hleast _ (List.mem_map_of_mem ho)⟩,
    ⟨List.mem_map.mp hlast, fun o ho => hmost _ (List.mem_map_of_mem ho)⟩, rfl⟩

def members (sql : ClusterSql G) (eps_m : PyFloat) (min_points : Nat) (base : Rows G)
    (cluster_id : Nat) : Rows G :=
  (GroupBy.group Prod.fst cluster_id (clustered sql eps_m min_points base)).map Prod.snd

def cluster_ids (sql : ClusterSql G) (eps_m : PyFloat) (min_points : Nat) (base : Rows G) :
    List Nat :=
  GroupBy.keys Prod.fst (clustered sql eps_m min_points base)

def noise (sql : ClusterSql G) (eps_m : PyFloat) (min_points : Nat) (base : Rows G) : Rows G :=
  (base.zip (sql.ST_ClusterDBSCAN eps_m min_points (base.map (fun e => e.geom)))).filterMap
    (fun p => if p.2 = none then some p.1 else none)

theorem labelled_perm {base : Rows G} {labels : List (Option Nat)}
    (h : labels.length = base.length) :
    (((base.zip labels).filterMap (fun p => p.2.map (fun cluster_id => (cluster_id, p.1)))).map
        Prod.snd ++
      (base.zip labels).filterMap (fun p => if p.2 = none then some p.1 else none)).Perm base := by
  induction base generalizing labels with
  | nil => simp
  | cons e base ih =>
      cases labels with
      | nil => simp at h
      | cons label labels =>
          have hrest := ih (Nat.succ.inj h)
          cases label with
          | none =>
              simp only [List.zip_cons_cons, List.filterMap_cons, Option.map_none, if_pos]
              exact List.perm_middle.trans (hrest.cons e)
          | some cluster_id => simpa using hrest

theorem clusters_perm (base : Rows G) :
    ((cluster_ids sql eps_m min_points base).flatMap (members sql eps_m min_points base) ++
      noise sql eps_m min_points base).Perm base := by
  have hgroups := GroupBy.perm_groups Prod.fst (clustered sql eps_m min_points base)
  have hmembers : (cluster_ids sql eps_m min_points base).flatMap
      (members sql eps_m min_points base) =
        ((cluster_ids sql eps_m min_points base).flatMap (fun k =>
          GroupBy.group Prod.fst k (clustered sql eps_m min_points base))).map Prod.snd := by
    rw [List.map_flatMap]
    rfl
  rw [hmembers]
  have hlabels := sql.labels eps_m min_points (base.map (fun e => e.geom))
  exact ((hgroups.map Prod.snd).append_right _).trans
    (labelled_perm (hlabels.trans (List.length_map _)))

theorem length_clustered (base : Rows G) :
    (clustered sql eps_m min_points base).length + (noise sql eps_m min_points base).length =
      base.length := by
  have hlabels := sql.labels eps_m min_points (base.map (fun e => e.geom))
  have hlen := (labelled_perm (hlabels.trans (List.length_map _))).length_eq
  rwa [List.length_append, List.length_map] at hlen

abbrev all_clusters (sql : ClusterSql G) (eps_m : PyFloat) (min_points : Nat) (base : Rows G) :
    List (ClusterRow G) :=
  (GroupBy.aggregate Prod.fst (fun rows => rows.map Prod.snd)
    (clustered sql eps_m min_points base)).map (fun p => to_cluster sql p.1 p.2)

theorem members_ne_nil {base : Rows G} {k : Nat} (h : k ∈ cluster_ids sql eps_m min_points base) :
    members sql eps_m min_points base k ≠ [] := by
  obtain ⟨r, hr⟩ := GroupBy.mem_keys.mp h
  rw [members, ne_eq, List.map_eq_nil_iff]
  exact List.ne_nil_of_mem (GroupBy.mem_group.mpr hr)

theorem mem_all_clusters {base : Rows G} {c : ClusterRow G} :
    c ∈ all_clusters sql eps_m min_points base ↔
      c.cluster_id ∈ cluster_ids sql eps_m min_points base ∧
        c = to_cluster sql c.cluster_id (members sql eps_m min_points base c.cluster_id) := by
  constructor
  · intro hc
    obtain ⟨⟨k, rows⟩, hrow, rfl⟩ := List.mem_map.mp hc
    obtain ⟨hk, rfl⟩ := GroupBy.mem_aggregate.mp hrow
    exact ⟨GroupBy.mem_keys.mpr hk, rfl⟩
  · rintro ⟨hmem, heq⟩
    exact List.mem_map.mpr ⟨(c.cluster_id, members sql eps_m min_points base c.cluster_id),
      GroupBy.mem_aggregate.mpr ⟨GroupBy.mem_keys.mp hmem, rfl⟩, heq.symm⟩

theorem nodup_all_clusters (base : Rows G) :
    ((all_clusters sql eps_m min_points base).map ClusterRow.cluster_id).Nodup := by
  have hkeys := @GroupBy.nodup_keys_aggregate _ _ _ Prod.fst
    (clustered sql eps_m min_points base) _ (fun rows => rows.map Prod.snd)
  rw [all_clusters, List.map_map]
  exact hkeys

theorem sum_all_clusters (base : Rows G) :
    ((all_clusters sql eps_m min_points base).map ClusterRow.count).sum =
      (clustered sql eps_m min_points base).length := by
  rw [← @GroupBy.sum_length_aggregate _ _ _ Prod.fst (clustered sql eps_m min_points base)]
  simp only [all_clusters, GroupBy.aggregate, List.map_map, Function.comp_def, to_cluster,
    List.length_map]

structure ClustersOk (sql : ClusterSql G) (eps_m : PyFloat) (min_points : Nat) (base : Rows G)
    (rows : List (ClusterRow G)) : Prop where
  split : ((cluster_ids sql eps_m min_points base).flatMap (members sql eps_m min_points base) ++
    noise sql eps_m min_points base).Perm base
  sums : ∀ c ∈ rows, c.cluster_id ∈ cluster_ids sql eps_m min_points base ∧
    Sums sql c (members sql eps_m min_points base c.cluster_id)
  distinct : (rows.map ClusterRow.cluster_id).Nodup
  sorted : rows.Pairwise cluster_before
  total : (rows.map ClusterRow.count).sum + (noise sql eps_m min_points base).length ≤ base.length ∧
    (rows.length < MAX_CLUSTERS →
      (rows.map ClusterRow.count).sum + (noise sql eps_m min_points base).length = base.length)
  largest : ∀ k ∈ cluster_ids sql eps_m min_points base, k ∈ rows.map ClusterRow.cluster_id ∨
    (rows.length = MAX_CLUSTERS ∧
      ∀ c ∈ rows, (members sql eps_m min_points base k).length ≤ c.count)

theorem limited_clusters_ok (base : Rows G) : ClustersOk sql eps_m min_points base
    (OrderBy.limited cluster_before MAX_CLUSTERS (all_clusters sql eps_m min_points base)) := by
  obtain ⟨rest, hperm, hafter⟩ := clusters_by.limited_rest MAX_CLUSTERS
    (all_clusters sql eps_m min_points base)
  have hlen := @OrderBy.length_limited _ cluster_before _ MAX_CLUSTERS
    (all_clusters sql eps_m min_points base)
  have hsum := (hperm.map ClusterRow.count).sum_eq
  rw [List.map_append, List.sum_append, sum_all_clusters] at hsum
  have hsize := hperm.length_eq
  rw [List.length_append] at hsize
  have hnoise := @length_clustered _ sql eps_m min_points base
  refine ⟨clusters_perm base, fun c hc => ?_, ?_, clusters_by.limited_sorted _ _,
    ⟨by omega, fun hfew => ?_⟩, fun k hk => ?_⟩
  · obtain ⟨hid, heq⟩ := mem_all_clusters.mp (OrderBy.mem_limited hc)
    rw [heq]
    exact ⟨hid, to_cluster_sums (members_ne_nil hid) c.cluster_id⟩
  · have hnodup := ((hperm.map ClusterRow.cluster_id).nodup_iff).mpr (nodup_all_clusters base)
    rw [List.map_append] at hnodup
    exact (List.nodup_append.mp hnodup).1
  · have hnil : rest = [] := List.length_eq_zero_iff.mp (by omega)
    rw [hnil, List.map_nil, List.sum_nil, Nat.add_zero] at hsum
    omega
  · have hmem : to_cluster sql k (members sql eps_m min_points base k) ∈
        all_clusters sql eps_m min_points base := mem_all_clusters.mpr ⟨hk, rfl⟩
    rcases List.mem_append.mp (hperm.mem_iff.mpr hmem) with hin | hout
    · exact .inl (List.mem_map.mpr ⟨_, hin, rfl⟩)
    · have hpos := List.length_pos_of_mem hout
      refine .inr ⟨by omega, fun c hc => ?_⟩
      rcases hafter c hc _ hout with hlt | ⟨heq, -⟩
      · exact hlt.le
      · exact heq.ge

theorem mem_members {base : Rows G} {k : Nat} {e : HazardEvent G}
    (h : e ∈ members sql eps_m min_points base k) : e ∈ base := by
  obtain ⟨⟨label, o⟩, hgroup, rfl⟩ := List.mem_map.mp h
  obtain ⟨⟨o', l⟩, hzip, hlabel⟩ := List.mem_filterMap.mp (GroupBy.mem_group.mp hgroup).1
  obtain ⟨_, -, heq⟩ := Option.map_eq_some_iff.mp hlabel
  rw [← (Prod.mk.inj heq).2]
  exact (List.of_mem_zip hzip).1

theorem attributed_source {source : Source} {sources : List String} (h : source.name ∈ sources) :
    ∃ a ∈ attributions_for sources, a.source = source.name := by
  have hget : ∃ a, Dict.get source.name ATTRIBUTIONS = some a ∧ a.source = source.name := by
    cases source <;> exact ⟨_, rfl, rfl⟩
  obtain ⟨a, ha, hsource⟩ := hget
  refine ⟨a, List.mem_filterMap.mpr ⟨source.name, ?_, ha⟩, hsource⟩
  exact (List.mem_insertionSort _).mpr (List.mem_dedup.mpr h)

theorem clusters_attributed {e : HazardEvent G} (h : apply_filters f now e = true) :
    ∃ a ∈ ClusterEventsUseCase.attribution f, a.source = e.source.name := by
  have hall : e.source.name ∈ SOURCES := by cases e.source <;> simp [SOURCES, Source.name]
  refine attributed_source ?_
  split
  · cases hs : f.source with
    | none => simp [hs, truthy] at *
    | some source =>
        simp only [apply_filters, hs, Bool.and_eq_true, Option.all_some, decide_eq_true_eq] at h
        simp [h.1.1.1.1.2]
  · exact hall

structure ClustersServed {env : Env G} (lib : Shapely env) (sql : ClusterSql G) (eps_m : PyFloat)
    (min_points : Nat) (bbox : Option Bbox) (f : Filters) (now : Timestamptz) (t : Rows G)
    (collection : ClusterFeatureCollection) : Prop where
  bounded : bbox ≠ none ∨ f.starts_after ≠ none
  rows : ClustersOk sql eps_m min_points (cluster_base sql bbox f now t)
    (cluster_rows sql eps_m min_points bbox f now t)
  features : List.Forall₂ (fun row feature => ClusterEventsUseCase.feature lib row = .ok feature)
    (cluster_rows sql eps_m min_points bbox f now t) collection.features
  filtered : ∀ k, ∀ e ∈ members sql eps_m min_points (cluster_base sql bbox f now t) k,
    e ∈ t ∧ apply_filters f now e = true ∧
      ∀ b, bbox = some b → sql.ST_Intersects e.geom (sql.ST_MakeEnvelope b) = true
  attributed : ∀ k, ∀ e ∈ members sql eps_m min_points (cluster_base sql bbox f now t) k,
    ∃ a ∈ collection.attribution, a.source = e.source.name

theorem cluster_feature_ok {env : Env G} {lib : Shapely env} {row : ClusterRow G} :
    (∃ feature, ClusterEventsUseCase.feature lib row = .ok feature) ↔
      lib.geometry_collection row.centroid = false := by
  rw [← serves_iff]
  simp only [ClusterEventsUseCase.feature, bind_ok]
  exact ⟨fun ⟨_, geometry, h, _⟩ => ⟨geometry, h⟩, fun ⟨geometry, h⟩ => ⟨_, geometry, h, rfl⟩⟩

theorem clusters_execute_ok {env : Env G} {lib : Shapely env} {bbox_raw : Option String}
    {collection : ClusterFeatureCollection} :
    ClusterEventsUseCase.execute lib sql eps_m min_points bbox_raw f now t = .ok collection ↔
      ∃ bbox features, parse_bbox env bbox_raw = .ok bbox ∧
        (bbox ≠ none ∨ f.starts_after ≠ none) ∧
        each (ClusterEventsUseCase.feature lib)
          (cluster_rows sql eps_m min_points bbox f now t) = .ok features ∧
        collection = ⟨features, features.length, ClusterEventsUseCase.attribution f⟩ := by
  cases hp : parse_bbox env bbox_raw with
  | error e =>
      simp [ClusterEventsUseCase.execute, hp, catch_value_error, Except.mapError, bind, Except.bind]
  | ok bbox =>
      have hbounded : (bbox.isNone && f.starts_after.isNone) = false ↔
          bbox ≠ none ∨ f.starts_after ≠ none := by
        cases bbox <;> cases f.starts_after <;> simp
      have hbind : ClusterEventsUseCase.execute lib sql eps_m min_points bbox_raw f now t =
          if bbox.isNone && f.starts_after.isNone then
            .error (.business_validation
              "clusters requires a bounding filter: bbox or starts_after")
          else (do
            let features ← catch_key_error (each (ClusterEventsUseCase.feature lib)
              (cluster_rows sql eps_m min_points bbox f now t))
            .ok ⟨features, features.length, ClusterEventsUseCase.attribution f⟩) := by
        simp only [ClusterEventsUseCase.execute, hp, catch_value_error, Except.mapError, bind,
          Except.bind]
      rw [hbind]
      cases hb : bbox.isNone && f.starts_after.isNone with
      | true =>
          have hnot := mt hbounded.mpr (by simp [hb])
          constructor
          · intro h
            simp at h
          · rintro ⟨_, _, hsame, hor, _⟩
            obtain rfl := Except.ok.inj hsame
            exact absurd hor hnot
      | false =>
          simp only [if_false, Bool.false_eq_true, bind_ok, catch_key_error_ok]
          constructor
          · rintro ⟨features, hfeatures, h⟩
            exact ⟨bbox, features, rfl, hbounded.mp hb, hfeatures, (Except.ok.inj h).symm⟩
          · rintro ⟨_, features, hsame, -, hfeatures, rfl⟩
            obtain rfl := Except.ok.inj hsame
            exact ⟨features, hfeatures, rfl⟩

theorem clusters_answer {env : Env G} {lib : Shapely env} {bbox_raw : Option String} :
    (∃ collection, ClusterEventsUseCase.execute lib sql eps_m min_points bbox_raw f now t =
        .ok collection) ↔
      ∃ bbox, parse_bbox env bbox_raw = .ok bbox ∧ (bbox ≠ none ∨ f.starts_after ≠ none) ∧
        ∀ row ∈ cluster_rows sql eps_m min_points bbox f now t,
          lib.geometry_collection row.centroid = false := by
  simp only [clusters_execute_ok, ← cluster_feature_ok, ← each_exists]
  constructor
  · rintro ⟨_, bbox, features, hparse, hbounded, hfeatures, -⟩
    exact ⟨bbox, hparse, hbounded, features, hfeatures⟩
  · rintro ⟨bbox, hparse, hbounded, features, hfeatures⟩
    exact ⟨_, bbox, features, hparse, hbounded, hfeatures, rfl⟩

theorem served_members {k : Nat} {e : HazardEvent G}
    (he : e ∈ members sql eps_m min_points (cluster_base sql bbox f now t) k) :
    e ∈ t ∧ apply_filters f now e = true ∧
      ∀ b, bbox = some b → sql.ST_Intersects e.geom (sql.ST_MakeEnvelope b) = true := by
  obtain ⟨ht, hboth⟩ := List.mem_filter.mp (mem_members he)
  obtain ⟨hb, hf⟩ := Bool.and_eq_true_iff.mp hboth
  refine ⟨ht, hf, ?_⟩
  rintro b rfl
  simpa using hb

theorem clusters_served {env : Env G} {lib : Shapely env} {bbox_raw : Option String} :
    ((∃ collection, ClusterEventsUseCase.execute lib sql eps_m min_points bbox_raw f now t =
        .ok collection) ↔
      ∃ bbox, parse_bbox env bbox_raw = .ok bbox ∧ (bbox ≠ none ∨ f.starts_after ≠ none) ∧
        ∀ row ∈ cluster_rows sql eps_m min_points bbox f now t,
          lib.geometry_collection row.centroid = false) ∧
    ∀ collection, ClusterEventsUseCase.execute lib sql eps_m min_points bbox_raw f now t =
        .ok collection →
      ∃ bbox, parse_bbox env bbox_raw = .ok bbox ∧
        ClustersServed lib sql eps_m min_points bbox f now t collection := by
  refine ⟨clusters_answer, fun collection h => ?_⟩
  obtain ⟨bbox, features, hparse, hbounded, hfeatures, rfl⟩ := clusters_execute_ok.mp h
  exact ⟨bbox, hparse, hbounded, limited_clusters_ok _, each_ok.mp hfeatures,
    fun k e he => served_members he, fun k e he => clusters_attributed (served_members he).2.1⟩

end

namespace PlaneShape

def label : PlaneShape → Option Nat
  | .point lon _ => if lon = zero then some 0 else if lon = two then some 1 else none
  | _ => none

def plane_clusters : ClusterSql PlaneShape where
  toSpatialSql := plane_sql
  ST_ClusterDBSCAN _ _ gs := gs.map label
  centroid gs := gs.headD (.point zero zero)
  labels _ _ _ := List.length_map _

def since_july : Filters := { no_filters with starts_after := some (july 1 0).instant }

def quake_at (lon : PyFloat) (id hour : Nat) : HazardEvent PlaneShape :=
  { quake id hour with geom := .point lon two }

-- two earthquakes side by side, one further east, and one that is near no other
def four_quakes : Rows PlaneShape :=
  [quake_at two 1 10, quake_at zero 2 12, quake_at four 3 13, quake_at zero 4 14]

theorem clusters_served_plane :
    ∃ collection, ClusterEventsUseCase.execute shapely plane_clusters four 2 none since_july noon
        four_quakes = .ok collection ∧
      collection.features.map (fun feature => (feature.cluster_id, feature.count)) =
        [(0, 2), (1, 1)] ∧
      noise plane_clusters four 2 (cluster_base plane_clusters none since_july noon four_quakes) =
        [quake_at four 3 13] ∧
      ∃ bbox, parse_bbox plane_env none = .ok bbox ∧
        ClustersServed shapely plane_clusters four 2 bbox since_july noon four_quakes
          collection :=
  ⟨_, rfl, rfl, rfl, clusters_served.2 _ rfl⟩

end PlaneShape

end GeoHazard
