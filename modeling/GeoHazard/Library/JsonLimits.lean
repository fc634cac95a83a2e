import GeoHazard.Library.Json

namespace Json

variable {F : Type}

-- the longest integer and the deepest nesting that a reader takes
structure Limits where
  digits : Nat
  depth : Nat

inductive Fault where
  | digits (n : Int)
  | depth
  deriving DecidableEq

def digit_count (n : Int) : Nat := (Nat.toDigits 10 n.natAbs).length

-- the first fault from left to right, with so many levels left
mutual
def fault (digits : Nat) : Json F → Nat → Option Fault
  | .int n, _ => if digit_count n ≤ digits then none else some (.digits n)
  | .arr _, 0 => some .depth
  | .arr xs, depth + 1 => faultList digits xs depth
  | .obj _, 0 => some .depth
  | .obj kvs, depth + 1 => faultFields digits kvs depth
  | _, _ => none

def faultList (digits : Nat) : List (Json F) → Nat → Option Fault
  | [], _ => none
  | x :: xs, depth => (fault digits x depth).or (faultList digits xs depth)

def faultFields (digits : Nat) : List (String × Json F) → Nat → Option Fault
  | [], _ => none
  | (_, v) :: kvs, depth => (fault digits v depth).or (faultFields digits kvs depth)
end

mutual
def nesting : Json F → Nat
  | .arr xs => nestingList xs + 1
  | .obj kvs => nestingFields kvs + 1
  | _ => 0

def nestingList : List (Json F) → Nat
  | [] => 0
  | x :: xs => max (nesting x) (nestingList xs)

def nestingFields : List (String × Json F) → Nat
  | [] => 0
  | (_, v) :: kvs => max (nesting v) (nestingFields kvs)
end

mutual
def integers : Json F → List Int
  | .int n => [n]
  | .arr xs => integersList xs
  | .obj kvs => integersFields kvs
  | _ => []

def integersList : List (Json F) → List Int
  | [] => []
  | x :: xs => integers x ++ integersList xs

def integersFields : List (String × Json F) → List Int
  | [] => []
  | (_, v) :: kvs => integers v ++ integersFields kvs
end

mutual
theorem fault_none {digits : Nat} : ∀ (x : Json F) (depth : Nat), fault digits x depth = none ↔
    nesting x ≤ depth ∧ ∀ n ∈ integers x, digit_count n ≤ digits
  | .int n, _ => by simp [fault, nesting, integers]
  | .arr _, 0 => by simp [fault, nesting]
  | .arr xs, depth + 1 => by
      rw [fault, faultList_none xs depth, nesting, Nat.add_le_add_iff_right, integers]
  | .obj _, 0 => by simp [fault, nesting]
  | .obj kvs, depth + 1 => by
      rw [fault, faultFields_none kvs depth, nesting, Nat.add_le_add_iff_right, integers]
  | .null, _ | .bool _, _ | .float _, _ | .str _, _ => by simp [fault, nesting, integers]

theorem faultList_none {digits : Nat} : ∀ (xs : List (Json F)) (depth : Nat),
    faultList digits xs depth = none ↔
      nestingList xs ≤ depth ∧ ∀ n ∈ integersList xs, digit_count n ≤ digits
  | [], _ => by simp [faultList, nestingList, integersList]
  | x :: xs, depth => by
      rw [faultList, Option.or_eq_none_iff, fault_none x depth, faultList_none xs depth, nestingList,
        Nat.max_le, integersList, List.forall_mem_append]
      exact and_and_and_comm

theorem faultFields_none {digits : Nat} : ∀ (kvs : List (String × Json F)) (depth : Nat),
    faultFields digits kvs depth = none ↔
      nestingFields kvs ≤ depth ∧ ∀ n ∈ integersFields kvs, digit_count n ≤ digits
  | [], _ => by simp [faultFields, nestingFields, integersFields]
  | (_, v) :: kvs, depth => by
      rw [faultFields, Option.or_eq_none_iff, fault_none v depth, faultFields_none kvs depth,
        nestingFields, Nat.max_le, integersFields, List.forall_mem_append]
      exact and_and_and_comm
end

end Json
