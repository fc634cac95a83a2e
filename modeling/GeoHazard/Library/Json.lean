import GeoHazard.Library.Dict
import Mathlib.Data.String.Basic
import Mathlib.Data.List.Sort

inductive Json (F : Type) where
  | null
  | bool (b : Bool)
  | int (n : Int)
  | float (x : F)
  | str (s : String)
  | arr (xs : List (Json F))
  | obj (kvs : List (String × Json F))

namespace Json

variable {F : Type}

def sortKeys {α : Type} (kvs : List (String × α)) : List (String × α) :=
  kvs.insertionSort (fun a b => a.1 ≤ b.1)

mutual
def canon : Json F → Json F
  | .null => .null
  | .bool b => .bool b
  | .int n => .int n
  | .float x => .float x
  | .str s => .str s
  | .arr xs => .arr (canonList xs)
  | .obj kvs => .obj (sortKeys (canonFields kvs))

def canonList : List (Json F) → List (Json F)
  | [] => []
  | x :: xs => canon x :: canonList xs

def canonFields : List (String × Json F) → List (String × Json F)
  | [] => []
  | (k, v) :: kvs => (k, canon v) :: canonFields kvs
end

mutual
def map {E : Type} (f : F → E) : Json F → Json E
  | .null => .null
  | .bool b => .bool b
  | .int n => .int n
  | .float x => .float (f x)
  | .str s => .str s
  | .arr xs => .arr (mapList f xs)
  | .obj kvs => .obj (mapFields f kvs)

def mapList {E : Type} (f : F → E) : List (Json F) → List (Json E)
  | [] => []
  | x :: xs => map f x :: mapList f xs

def mapFields {E : Type} (f : F → E) : List (String × Json F) → List (String × Json E)
  | [] => []
  | (k, v) :: kvs => (k, map f v) :: mapFields f kvs
end

structure FloatText (F : Type) where
  text : F → List Char
  numeric : ∀ x, ∀ c ∈ text x, c.isDigit ∨ c = '-' ∨ c = '+' ∨ c = '.' ∨ c = 'e'
  first : ∀ x, ∃ c cs, text x = c :: cs ∧ (c.isDigit ∨ c = '-')
  injective : Function.Injective text
  not_int : ∀ x (n : Int), text x ≠ (toString n).toList

theorem keys_mapFields {E : Type} (f : F → E) (kvs : List (String × Json F)) :
    Dict.keys (mapFields f kvs) = Dict.keys kvs := by
  induction kvs with
  | nil => rfl
  | cons kv kvs ih => exact congrArg (kv.1 :: ·) ih

theorem canonList_eq_map (xs : List (Json F)) : canonList xs = xs.map canon := by
  induction xs with
  | nil => rfl
  | cons x xs ih => simp [canonList, ih]

theorem canonFields_eq_map (kvs : List (String × Json F)) :
    canonFields kvs = kvs.map (fun kv => (kv.1, canon kv.2)) := by
  induction kvs with
  | nil => rfl
  | cons kv kvs ih =>
      obtain ⟨k, v⟩ := kv
      simp [canonFields, ih]

theorem canon_obj (kvs : List (String × Json F)) :
    canon (.obj kvs) = .obj (sortKeys (kvs.map (fun kv => (kv.1, canon kv.2)))) := by
  rw [canon, canonFields_eq_map]

theorem sortKeys_perm {α : Type} (kvs : List (String × α)) : (sortKeys kvs).Perm kvs :=
  List.perm_insertionSort _ _

theorem keys_perm_sortKeys {α : Type} (kvs : List (String × α)) :
    (Dict.keys (sortKeys kvs)).Perm (Dict.keys kvs) :=
  (sortKeys_perm kvs).map _

theorem get_sortKeys {α : Type} {kvs : List (String × α)} (hn : (Dict.keys kvs).Nodup) (k : String) :
    Dict.get k (sortKeys kvs) = Dict.get k kvs := by
  have hs : (Dict.keys (sortKeys kvs)).Nodup := (keys_perm_sortKeys kvs).nodup_iff.mpr hn
  apply Option.ext
  intro v
  rw [Dict.get_iff hs, Dict.get_iff hn, (sortKeys_perm kvs).mem_iff]

theorem get_map_canon (k : String) (kvs : List (String × Json F)) :
    Dict.get k (kvs.map (fun kv => (kv.1, canon kv.2))) = (Dict.get k kvs).map canon := by
  induction kvs with
  | nil => rfl
  | cons kv kvs ih =>
      obtain ⟨a, v⟩ := kv
      by_cases ha : a = k
      · simp [Dict.get, ha]
      · simp [Dict.get, ha, ih]

theorem get_canon_obj {kvs kvs' : List (String × Json F)} (hn : (Dict.keys kvs).Nodup)
    (hn' : (Dict.keys kvs').Nodup) (h : canon (.obj kvs) = canon (.obj kvs')) (k : String) :
    (Dict.get k kvs).map canon = (Dict.get k kvs').map canon := by
  simp only [canon_obj, Json.obj.injEq] at h
  have hk : ∀ d : List (String × Json F),
      Dict.keys (d.map (fun kv => (kv.1, canon kv.2))) = Dict.keys d := by
    intro d
    simp [Dict.keys]
  have hd : ∀ d : List (String × Json F), (Dict.keys d).Nodup →
      (Dict.get k d).map canon = Dict.get k (sortKeys (d.map (fun kv => (kv.1, canon kv.2)))) := by
    intro d hnd
    rw [get_sortKeys (by rwa [hk]), get_map_canon]
  rw [hd kvs hn, hd kvs' hn', h]

end Json
