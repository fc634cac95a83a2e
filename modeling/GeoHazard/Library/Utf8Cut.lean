import Mathlib.Algebra.Ring.Nat
import Mathlib.Data.List.Basic

namespace Utf8Cut

def encode (cs : List Char) : List UInt8 := cs.flatMap String.utf8EncodeChar

-- what decodes to no character is left out, a byte at a time
def decode_ignore : Nat → List UInt8 → List Char
  | 0, _ => []
  | _ + 1, [] => []
  | fuel + 1, b :: bs =>
      match (b :: bs).toByteArray.utf8DecodeChar? 0 with
      | some c => c :: decode_ignore fuel ((b :: bs).drop c.utf8Size)
      | none => decode_ignore fuel bs

def size (cs : List Char) : Nat := (cs.map Char.utf8Size).sum

-- the characters whose encodings end within n bytes
def fit : Nat → List Char → List Char
  | _, [] => []
  | n, c :: cs => if c.utf8Size ≤ n then c :: fit (n - c.utf8Size) cs else []

theorem length_encode (cs : List Char) : (encode cs).length = size cs := by
  induction cs with
  | nil => rfl
  | cons c cs ih =>
      simp only [encode, size] at ih
      simp [encode, size, ih]

theorem size_append (cs ds : List Char) : size (cs ++ ds) = size cs + size ds := by
  simp [size]

theorem size_le_of_infix {cs ds : List Char} (h : cs <:+: ds) : size cs ≤ size ds := by
  obtain ⟨before, after, rfl⟩ := h
  rw [size_append, size_append]
  omega

theorem fit_prefix_self (n : Nat) (cs : List Char) : fit n cs <+: cs := by
  induction cs generalizing n with
  | nil => exact List.prefix_refl _
  | cons c cs ih =>
      unfold fit
      split
      · exact List.cons_prefix_cons.mpr ⟨rfl, ih _⟩
      · exact List.nil_prefix

theorem size_fit (n : Nat) (cs : List Char) : size (fit n cs) ≤ n := by
  induction cs generalizing n with
  | nil => exact Nat.zero_le _
  | cons c cs ih =>
      unfold fit
      split
      · have hrest := ih (n - c.utf8Size)
        simp only [size, List.map_cons, List.sum_cons] at hrest ⊢
        omega
      · exact Nat.zero_le _

theorem prefix_fit {n : Nat} {p cs : List Char} (hp : p <+: cs) (hn : size p ≤ n) :
    p <+: fit n cs := by
  induction cs generalizing n p with
  | nil => exact hp
  | cons c cs ih =>
      cases p with
      | nil => exact List.nil_prefix
      | cons d p =>
          obtain ⟨rfl, htail⟩ := List.cons_prefix_cons.mp hp
          simp only [size, List.map_cons, List.sum_cons] at hn
          have hrest : size p ≤ n - d.utf8Size := by
            simp only [size]
            omega
          rw [fit, if_pos (by omega)]
          exact List.cons_prefix_cons.mpr ⟨rfl, ih htail hrest⟩

theorem fit_eq_self {n : Nat} {cs : List Char} (h : size cs ≤ n) : fit n cs = cs :=
  (fit_prefix_self n cs).eq_of_length_le (prefix_fit (List.prefix_refl cs) h).length_le

theorem fit_append (n : Nat) (cs ds : List Char) :
    fit n (cs ++ ds) = if size cs ≤ n then cs ++ fit (n - size cs) ds else fit n cs := by
  induction cs generalizing n with
  | nil => simp [size]
  | cons c cs ih =>
      have hsize : size (c :: cs) = c.utf8Size + size cs := by simp [size]
      rw [List.cons_append, fit, fit, hsize]
      by_cases hc : c.utf8Size ≤ n
      · rw [if_pos hc, if_pos hc, ih, Nat.sub_sub]
        by_cases hcs : size cs ≤ n - c.utf8Size
        · rw [if_pos hcs, if_pos (by omega), List.cons_append]
        · rw [if_neg hcs, if_neg (by omega)]
      · rw [if_neg hc, if_neg hc, if_neg (by omega)]

theorem infix_fit {n : Nat} {r cs : List Char} :
    r <:+: fit n cs ↔ ∃ p, p ++ r <+: cs ∧ size (p ++ r) ≤ n := by
  constructor
  · rintro ⟨p, q, heq⟩
    have hp : p ++ r <+: fit n cs := ⟨q, heq⟩
    refine ⟨p, hp.trans (fit_prefix_self n cs), ?_⟩
    have hsize := size_fit n cs
    rw [← heq, size_append] at hsize
    omega
  · rintro ⟨p, hp, hsize⟩
    exact (List.suffix_append p r).isInfix.trans (prefix_fit hp hsize).isInfix

theorem decode_head (c : Char) (bs : List UInt8) :
    (String.utf8EncodeChar c ++ bs).toByteArray.utf8DecodeChar? 0 = some c := by
  rw [List.toByteArray_append]
  exact ByteArray.utf8DecodeChar?_utf8EncodeChar_append

theorem decode_truncated {c : Char} {bs rest : List UInt8} (h : String.utf8EncodeChar c = bs ++ rest)
    (hrest : rest ≠ []) : bs.toByteArray.utf8DecodeChar? 0 = none := by
  cases hd : bs.toByteArray.utf8DecodeChar? 0 with
  | none => rfl
  | some d =>
      have hwhole := ByteArray.utf8DecodeChar?_append_eq_some hd rest.toByteArray
      rw [← List.toByteArray_append, ← h] at hwhole
      have hc := decode_head c []
      rw [List.append_nil] at hc
      obtain rfl := Option.some.inj (hc.symm.trans hwhole)
      have hsize := ByteArray.le_size_of_utf8DecodeChar?_eq_some hd
      have hlength := congrArg List.length h
      have hpos := List.length_pos_iff.mpr hrest
      simp only [List.size_toByteArray, String.length_utf8EncodeChar, List.length_append] at *
      omega

theorem decode_continuation {c : Char} {before bs rest : List UInt8}
    (h : String.utf8EncodeChar c = before ++ bs ++ rest) (hbefore : before ≠ []) :
    bs.toByteArray.utf8DecodeChar? 0 = none := by
  cases hd : bs.toByteArray.utf8DecodeChar? 0 with
  | none => rfl
  | some d =>
      have hsome : (bs.toByteArray.utf8DecodeChar? 0).isSome := by rw [hd]; rfl
      have hlt := ByteArray.lt_size_of_isSome_utf8DecodeChar? hsome
      have hfirst := ByteArray.isUTF8FirstByte_of_isSome_utf8DecodeChar? hsome
      have hlength : 0 < bs.length := by simpa using hlt
      have hpos := List.length_pos_iff.mpr hbefore
      have hin : before.length < (String.utf8EncodeChar c).length := by
        rw [h]
        simp only [List.length_append]
        omega
      have hget : (String.utf8EncodeChar c)[before.length] = bs.toByteArray[0] := by
        rw [List.getElem_toByteArray]
        simp [h, List.getElem_append_right, hlength]
      have hzero := (UInt8.isUTF8FirstByte_getElem_utf8EncodeChar).mp (hget ▸ hfirst)
      omega

theorem decode_ignore_none {fuel : Nat} {bs : List UInt8}
    (h : ∀ before after, bs = before ++ after → after.toByteArray.utf8DecodeChar? 0 = none) :
    decode_ignore fuel bs = [] := by
  induction fuel generalizing bs with
  | zero => rfl
  | succ fuel ih =>
      cases bs with
      | nil => rfl
      | cons b bs =>
          have hhead := h [] (b :: bs) rfl
          have hrest : decode_ignore fuel bs = [] :=
            ih (fun before after heq => h (b :: before) after (by rw [heq]; rfl))
          simp only [decode_ignore, hhead, hrest]

theorem decode_ignore_char {fuel : Nat} (c : Char) (bs : List UInt8) :
    decode_ignore (fuel + 1) (String.utf8EncodeChar c ++ bs) = c :: decode_ignore fuel bs := by
  have hhead := decode_head c bs
  have hdrop : (String.utf8EncodeChar c ++ bs).drop c.utf8Size = bs :=
    List.drop_left' (String.length_utf8EncodeChar c)
  cases hbytes : String.utf8EncodeChar c ++ bs with
  | nil =>
      have hlength := congrArg List.length hbytes
      have hpos := c.utf8Size_pos
      simp only [List.length_append, String.length_utf8EncodeChar, List.length_nil] at hlength
      omega
  | cons b rest =>
      rw [hbytes] at hhead hdrop
      simp only [decode_ignore, hhead, hdrop]

theorem decode_take {fuel n : Nat} {cs : List Char} (h : n ≤ fuel) :
    decode_ignore fuel ((encode cs).take n) = fit n cs := by
  induction cs generalizing fuel n with
  | nil => cases fuel <;> simp [encode, decode_ignore, fit]
  | cons c cs ih =>
      have hencode : encode (c :: cs) = String.utf8EncodeChar c ++ encode cs := rfl
      have hpos := c.utf8Size_pos
      unfold fit
      split
      · next hfits =>
          obtain ⟨fuel, rfl⟩ : ∃ k, fuel = k + 1 := ⟨fuel - 1, by omega⟩
          rw [hencode, List.take_append, List.take_of_length_le (by simpa using hfits),
            String.length_utf8EncodeChar, decode_ignore_char, ih (by omega)]
      · next hcut =>
          have htake : (encode (c :: cs)).take n = (String.utf8EncodeChar c).take n := by
            rw [hencode, List.take_append_of_le_length]
            rw [String.length_utf8EncodeChar]
            omega
          have hrest : (String.utf8EncodeChar c).drop n ≠ [] := by
            rw [Ne, List.drop_eq_nil_iff, String.length_utf8EncodeChar]
            omega
          rw [htake]
          refine decode_ignore_none (fun before after heq => ?_)
          have hwhole : String.utf8EncodeChar c =
              before ++ after ++ (String.utf8EncodeChar c).drop n := by
            rw [← heq, List.take_append_drop]
          cases before with
          | nil => exact decode_truncated hwhole hrest
          | cons b before => exact decode_continuation hwhole (by simp)

end Utf8Cut
