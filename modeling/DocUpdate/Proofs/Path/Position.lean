import Mathlib.Data.List.Induction
import DocUpdate.Path.Basic

/-!
# Positions have one name

Digits without a leading zero are determined by their value, so two segments that name the
same position of an array are the same segment.
-/

namespace DocUpdate

/-! ## Digits -/

theorem digits?_nil : digits? [] = some 0 := rfl

theorem digits?_concat (cs : List Char) (c : Char) :
    digits? (cs ++ [c]) =
      (digits? cs).bind fun n =>
        if c.isDigit then some (10 * n + (c.toNat - '0'.toNat)) else none := by
  simp [digits?, List.foldl_append]

theorem digits?_concat_eq_some {cs : List Char} {c : Char} {n : Nat} :
    digits? (cs ++ [c]) = some n ↔
      ∃ m, digits? cs = some m ∧ c.isDigit = true ∧ n = 10 * m + (c.toNat - 48) := by
  rw [digits?_concat, Option.bind_eq_some_iff]
  refine exists_congr fun m => and_congr_right fun _ => ?_
  by_cases h : c.isDigit = true <;> simp [h, eq_comm]

theorem isDigit_iff (c : Char) : c.isDigit = true ↔ 48 ≤ c.toNat ∧ c.toNat ≤ 57 := by
  simp only [Char.isDigit, Bool.and_eq_true, decide_eq_true_eq, ge_iff_le, UInt32.le_iff_toNat_le]
  exact Iff.rfl

theorem char_eq_of_toNat {c d : Char} (h : c.toNat = d.toNat) : c = d :=
  Char.ext (UInt32.toNat_inj.mp h)

theorem head?_of_concat {cs : List Char} {c x : Char} (h : (cs ++ [c]).head? ≠ some x) :
    cs.head? ≠ some x := by
  cases cs with
  | nil => simp
  | cons => simpa using h

/-- Digits that do not start with a zero are not worth zero. -/
theorem digits?_pos {cs : List Char} {n : Nat} (hne : cs ≠ []) (hz : cs.head? ≠ some '0')
    (h : digits? cs = some n) : 0 < n := by
  induction cs using List.reverseRecOn generalizing n with
  | nil => exact absurd rfl hne
  | append_singleton cs c ih =>
    obtain ⟨m, hm, hc, rfl⟩ := digits?_concat_eq_some.mp h
    rw [isDigit_iff] at hc
    by_cases hcs : cs = []
    · subst hcs
      have : c.toNat ≠ 48 := fun h48 => hz (by simp [char_eq_of_toNat (d := '0') h48])
      omega
    · have := ih hcs (head?_of_concat hz) hm
      omega

/-- Digits without a leading zero are determined by their value. -/
theorem digits?_injective {cs ds : List Char} {n : Nat} (hc : cs.head? ≠ some '0')
    (hd : ds.head? ≠ some '0') (hcs : digits? cs = some n) (hds : digits? ds = some n) :
    cs = ds := by
  induction cs using List.reverseRecOn generalizing ds n with
  | nil =>
    by_contra hne
    have := digits?_pos (fun h => hne h.symm) hd hds
    simp [digits?_nil] at hcs
    omega
  | append_singleton cs c ih =>
    rcases List.eq_nil_or_concat ds with rfl | ⟨ds, d, rfl⟩
    · have := digits?_pos (by simp) hc hcs
      simp [digits?_nil] at hds
      omega
    rw [List.concat_eq_append] at *
    obtain ⟨m, hm, hcd, rfl⟩ := digits?_concat_eq_some.mp hcs
    obtain ⟨k, hk, hdd, hn⟩ := digits?_concat_eq_some.mp hds
    rw [isDigit_iff] at hcd hdd
    obtain rfl : c = d := char_eq_of_toNat (by omega)
    obtain rfl : m = k := by omega
    rw [ih (head?_of_concat hc) (head?_of_concat hd) hm hk]

/-! ## Positions -/

theorem arrayIndex?_eq_some {name : String} {i : Nat} (h : arrayIndex? name = some i) :
    name.toList ≠ [] ∧ digits? name.toList = some i ∧
      (name.toList.head? ≠ some '0' ∨ name.toList = ['0']) := by
  simp only [arrayIndex?] at h
  split at h
  · simp at h
  rename_i hlead
  obtain ⟨hn, -⟩ := Option.filter_eq_some_iff.mp h
  unfold natural? at hn
  split at hn
  · simp at hn
  rename_i hne
  refine ⟨by simpa using hne, hn, ?_⟩
  by_cases hz : name.toList.head? = some '0'
  · cases hcs : name.toList with
    | nil => simp [hcs] at hne
    | cons c cs => simp_all
  · exact .inl hz

/-- Two names of one position are the same. -/
theorem arrayIndex?_injective {a b : String} {i : Nat} (ha : arrayIndex? a = some i)
    (hb : arrayIndex? b = some i) : a = b := by
  obtain ⟨hane, hai, hal⟩ := arrayIndex?_eq_some ha
  obtain ⟨hbne, hbi, hbl⟩ := arrayIndex?_eq_some hb
  apply String.toList_inj.mp
  have zero : digits? ['0'] = some 0 := rfl
  rcases hal with hal | hal <;> rcases hbl with hbl | hbl
  · exact digits?_injective hal hbl hai hbi
  · have := digits?_pos hane hal hai
    rw [hbl, zero] at hbi
    simp at hbi
    omega
  · have := digits?_pos hbne hbl hbi
    rw [hal, zero] at hai
    simp at hai
    omega
  · rw [hal, hbl]

end DocUpdate
