import Mathlib.Algebra.Group.Nat.Defs
import Mathlib.Tactic.Common

namespace Decimal

def pad : Nat → Nat → List Char
  | 0, _ => []
  | k + 1, n => pad k (n / 10) ++ [Nat.digitChar (n % 10)]

def digits : Nat → List Char → Option (Nat × List Char)
  | 0, cs => some (0, cs)
  | k + 1, cs => do
      let (n, cs) ← digits k cs
      match cs with
      | [] => none
      | c :: cs => if c.isDigit then some (n * 10 + (c.toNat - 48), cs) else none

def lit (c : Char) : List Char → Option (List Char)
  | [] => none
  | d :: cs => if d = c then some cs else none

@[simp] theorem lit_cons (c : Char) (cs : List Char) : lit c (c :: cs) = some cs := by
  simp [lit]

theorem digitChar_spec :
    ∀ d < 10, (Nat.digitChar d).isDigit = true ∧ (Nat.digitChar d).toNat - 48 = d := by
  decide

theorem digits_pad (k : Nat) {n : Nat} (cs : List Char) (h : n < 10 ^ k) :
    digits k (pad k n ++ cs) = some (n, cs) := by
  induction k generalizing n cs with
  | zero =>
      have hn : n = 0 := by simpa using h
      simp [digits, pad, hn]
  | succ k ih =>
      have hq : n / 10 < 10 ^ k := by
        rw [Nat.div_lt_iff_lt_mul (by decide)]
        simpa [Nat.pow_succ] using h
      have hd := digitChar_spec (n % 10) (Nat.mod_lt _ (by decide))
      have hi := ih (Nat.digitChar (n % 10) :: cs) hq
      simp only [digits, pad, List.append_assoc, List.singleton_append, hi, Option.bind_eq_bind,
        Option.bind_some, hd.1, hd.2, if_true, Option.some.injEq, Prod.mk.injEq, and_true]
      omega

end Decimal
