import DocUpdate.Proofs.Number.Denoted
import DocUpdate.Proofs.Number.Digits
import DocUpdate.Proofs.Number.Text
import DocUpdate.Proofs.Number.Truncation
import DocUpdate.Proofs.Reading
import DocUpdate.Proofs.Value.Integer
import DocUpdate.Proofs.Value.Order
import DocUpdate.Update.Reader

/-!
# Whole numbers

A number is read as an integer exactly if it compares as equal to this integer, whatever its type.
Doubles are read only below the size from which on they skip integers. Positions, slices and
directions are read so.
-/

namespace DocUpdate

/-! ## Scaled integers -/

/-- Division gives an integer if nothing is left over. -/
theorem quotient_eq_some_iff {d : Nat} (hd : 0 < d) (m n : Int) :
    (if m % d = 0 then some (m / d) else none) = some n ↔ m = n * d := by
  have hd' : (d : Int) ≠ 0 := by omega
  split
  case isTrue h =>
    rw [Option.some.injEq]
    exact Int.ediv_eq_iff_eq_mul_left hd' (Int.dvd_of_emod_eq_zero h)
  case isFalse h =>
    refine iff_of_false nofun ?_
    rintro rfl
    exact h (Int.mul_emod_left n d)

/-- An integer with a scale is an integer if the scale is, or if it divides. -/
theorem scaled_eq_some_iff {b : Nat} (hb : 0 < b) (m e n : Int) :
    (if 0 ≤ e then some (m * (b.pow e.toNat : Nat))
      else if m % (b.pow (-e).toNat : Nat) = 0 then some (m / (b.pow (-e).toNat : Nat))
      else none) = some n ↔ (m : ℚ) * (b : ℚ) ^ e = n := by
  have hb' : (b : ℚ) ≠ 0 := by exact_mod_cast hb.ne'
  have hunit : (b : ℚ) ^ (-e).toNat ≠ 0 := pow_ne_zero _ hb'
  have hscaled : (m : ℚ) * (b : ℚ) ^ e = n ↔
      m * (b.pow e.toNat : Nat) = n * (b.pow (-e).toNat : Nat) := by
    rw [← mul_left_inj' hunit, mul_assoc, zpow_mul_pow_toNat hb']
    simp only [Nat.pow_eq, Nat.cast_pow]
    exact_mod_cast Iff.rfl
  rw [hscaled]
  split
  case isTrue h =>
    rw [Int.toNat_of_nonpos (Int.neg_nonpos_of_nonneg h), Option.some.injEq]
    simp
  case isFalse h =>
    rw [Int.toNat_of_nonpos (not_le.mp h).le]
    simpa using quotient_eq_some_iff (Nat.pow_pos hb) m n

theorem Wide.toInt?_eq_some_iff (a : Wide) (n : Int) : a.toInt? = some n ↔ a.size = .finite n := by
  cases a with
  | nan | infinity => exact iff_of_false nofun nofun
  | finite m s => simpa [toInt?, size, pow10] using scaled_eq_some_iff (b := 10) (by decide) m (-s) n

theorem Double.significand_mod_eq_zero_iff (x : Double) (d : Nat) :
    x.significand % d = 0 ↔ x.signed % d = 0 := by
  rw [← Nat.dvd_iff_mod_eq_zero, ← Int.dvd_iff_emod_eq_zero, signed]
  split
  · rw [Int.dvd_neg, Int.natCast_dvd_natCast]
  · rw [Int.natCast_dvd_natCast]

theorem Double.toInt?_eq_some_iff (x : Double) (n : Int) :
    x.toInt? = some n ↔ x.size = .finite n := by
  by_cases hfinite : x.isFinite = true
  · rw [size_of_finite hfinite, Size.finite.injEq]
    simpa [toInt?, hfinite, significand_mod_eq_zero_iff, pow2]
      using scaled_eq_some_iff (b := 2) (by decide) x.signed x.exponent n
  · have hnone : x.toInt? = none := by rw [toInt?, if_pos (by simpa using hfinite)]
    rw [hnone]
    exact iff_of_false (Option.some_ne_none n).symm fun hsize => hfinite (isFinite_of_size hsize)

/-- A number is equal to an integer if this is its exact size. -/
theorem Number.cmp_int_eq_iff (x : Number) (n : Int) :
    x.cmp (.int n) = .eq ↔ x.size = .finite n := by
  have hmixed : ¬ x.Mixed (.int n) := by cases x <;> exact id
  rw [cmp_eq_size hmixed]
  exact Std.LawfulEqCmp.compare_eq_iff_eq

namespace Value

/-! ## Integers read from values -/

/-- Any number that compares as equal to the integer, but no double from the size on where they
skip integers. -/
def IsWhole (v : Value) (n : Int64) : Prop :=
  v.isNumeric = true ∧ v.cmp (.int64 n) = .eq ∧
    ∀ x, v = .double x → ∃ q, x.denoted = .rational q ∧ |q| < 2 ^ 53

variable {v : Value} {x : Number} {m : Int}

theorem isNumeric_eq (v : Value) : v.isNumeric = v.number?.isSome := by cases v <;> rfl

theorem asInteger_of_not_number (h : v.number? = none) : v.asInteger = none := by
  cases v with
  | int32 | int64 | double | decimal => cases h
  | _ => rfl

/-- The integer that is read is the exact size of the number. -/
theorem asInteger_iff_of_number (h : v.number? = some x) : v.asInteger = some m ↔
    x.size = .finite m ∧ FitsLong m ∧ ∀ y, v = double y → m.natAbs < doubleIntegerLimit := by
  have integer {n : Int} (hn : FitsLong n) :
      some n = some m ↔ (Number.int n).size = .finite m ∧ FitsLong m := by
    rw [Option.some.injEq, Number.size, Size.finite.injEq, Int.cast_inj]
    exact ⟨fun heq => ⟨heq, heq ▸ hn⟩, And.left⟩
  cases v <;> cases h
  case int32 k => simp [asInteger, integer (fits_of_number? (v := .int32 k) rfl)]
  case int64 k => simp [asInteger, integer (fits_of_number? (v := .int64 k) rfl)]
  case double y =>
    rw [asInteger, Option.filter_eq_some_iff, Double.toInt?_eq_some_iff, decide_eq_true_eq]
    exact and_congr_right fun _ => ⟨fun hsmall => ⟨Double.fitsLong_of_natAbs_lt hsmall,
      fun _ _ => hsmall⟩, fun hsmall => hsmall.2 y rfl⟩
  case decimal d =>
    simp only [asInteger, Option.map_eq_some_iff, Option.bind_eq_some_iff, int64Of?_eq_some_iff,
      Wide.toInt?_eq_some_iff, Wide.size_ofDecimal]
    constructor
    · rintro ⟨k, ⟨n, hsize, rfl⟩, rfl⟩
      exact ⟨hsize, fitsLong_iff.mpr ⟨k, rfl⟩, nofun⟩
    · rintro ⟨hsize, hfits, -⟩
      obtain ⟨k, rfl⟩ := fitsLong_iff.mp hfits
      exact ⟨k, ⟨_, hsize, rfl⟩, rfl⟩

/-- Only integers of 64 bits are read. -/
theorem exists_of_asInteger (h : v.asInteger = some m) : ∃ n : Int64, n.toInt = m := by
  cases hx : v.number? with
  | none => cases (asInteger_of_not_number hx).symm.trans h
  | some x =>
    obtain ⟨-, hfits, -⟩ := (asInteger_iff_of_number hx).mp h
    exact fitsLong_iff.mp hfits

/-- Reading in steps gives the same. -/
theorem asLong?_eq_some_iff (v : Value) (n : Int64) :
    v.asLong? = some n ↔ v.asInteger = some n.toInt := by
  cases v
  case int32 k =>
    rw [asLong?, asInteger, Option.some.injEq, Option.some.injEq, ← Int64.toInt_inj,
      Int32.toInt_toInt64]
  case int64 k => rw [asLong?, asInteger, Option.some.injEq, Option.some.injEq, Int64.toInt_inj]
  case double x =>
    rw [asLong?, Double.asLong?_eq_some_iff, asInteger, Option.filter_eq_some_iff,
      Double.toInt?_eq_some_iff, decide_eq_true_eq, doubleIntegerLimit]
  case decimal d =>
    rw [asLong?, asInteger, d.ofText_text, Option.map_eq_some_iff]
    simp only [Int64.toInt_inj, exists_eq_right]
  -- Nothing else is a number.
  all_goals simp [asLong?, asInteger]

/-- For a double that is an integer the limit is one for this integer. -/
theorem exists_rational_iff {y : Double} {n : Int} (h : y.size = .finite n) :
    (∃ q, y.denoted = .rational q ∧ |q| < 2 ^ 53) ↔ n.natAbs < doubleIntegerLimit := by
  have hlimit : |(n : ℚ)| < 2 ^ 53 ↔ n.natAbs < doubleIntegerLimit := by
    rw [← Int.cast_abs, ← Nat.cast_natAbs, doubleIntegerLimit, pow2, Nat.pow_eq]
    exact_mod_cast Iff.rfl
  have hdenoted : y.denoted = .rational n := by rw [← y.denoted_size, h, Size.denoted]
  simp [hdenoted, ExtRat.rational_inj, hlimit]

theorem asInteger_eq_some_iff (v : Value) (n : Int64) :
    v.asInteger = some n.toInt ↔ v.IsWhole n := by
  cases hx : v.number? with
  | none =>
    rw [asInteger_of_not_number hx, IsWhole, isNumeric_eq, hx]
    exact iff_of_false nofun fun h => absurd h.1 Bool.false_ne_true
  | some x =>
    have hfits : FitsLong n.toInt := fitsLong_iff.mpr ⟨n, rfl⟩
    rw [asInteger_iff_of_number hx, IsWhole, isNumeric_eq, hx, cmp_of_number hx (b := .int64 n) rfl,
      Number.cmp_int_eq_iff]
    simp only [Option.isSome_some, true_and, hfits]
    refine and_congr_right fun hsize => forall_congr' fun y => imp_congr_right ?_
    rintro rfl
    cases hx
    exact (exists_rational_iff hsize).symm

theorem asInteger_eq_none_iff (v : Value) : v.asInteger = none ↔ ∀ n, ¬ v.IsWhole n := by
  simp only [← asInteger_eq_some_iff]
  constructor
  · intro h n
    rw [h]
    exact nofun
  · intro h
    cases hv : v.asInteger with
    | none => rfl
    | some m =>
      obtain ⟨n, rfl⟩ := exists_of_asInteger hv
      exact absurd hv (h n)

end Value

/-! ## Modifiers -/

/-- The integer that stands for a direction. -/
def Direction.toLong : Direction → Int64
  | .ascending => 1
  | .descending => -1

namespace Action

variable {v : Value} (path : Path) (modifier : String)

theorem readInteger_ok_iff {n : Int64} :
    readInteger path modifier v = .ok n.toInt ↔ v.IsWhole n := by
  rw [← Value.asInteger_eq_some_iff, readInteger]
  cases v.asInteger <;> simp [refuse]

theorem readInteger_refused_iff :
    readInteger path modifier v = refuse .push path (.pushInteger modifier v.kind) ↔
      ∀ n, ¬ v.IsWhole n := by
  rw [← Value.asInteger_eq_none_iff, readInteger]
  cases v.asInteger <;> simp [refuse]

variable {path} {items : Push} {direction : Direction}

theorem readModifier_position_iff {n : Int64} : readModifier path items ("$position", v) =
    .ok { items with position := some n.toInt } ↔ v.IsWhole n := by
  have hinjective : Function.Injective fun n => { items with position := some n } :=
    fun _ _ h => Option.some.inj (congrArg Push.position h)
  exact (map_ok_iff hinjective).trans (readInteger_ok_iff path "$position")

theorem readModifier_slice_iff {n : Int64} : readModifier path items ("$slice", v) =
    .ok { items with slice := some n.toInt } ↔ v.IsWhole n := by
  have hinjective : Function.Injective fun n => { items with slice := some n } :=
    fun _ _ h => Option.some.inj (congrArg Push.slice h)
  exact (map_ok_iff hinjective).trans (readInteger_ok_iff path "$slice")

theorem direction?_eq_some_iff : direction? v = some direction ↔ v.IsWhole direction.toLong := by
  rw [← Value.asInteger_eq_some_iff, direction?]
  cases v.asInteger with
  | none => exact iff_of_false nofun nofun
  | some n =>
    have hone : Direction.ascending.toLong.toInt = 1 := rfl
    have hminus : Direction.descending.toLong.toInt = -1 := rfl
    cases direction <;> simp only [hone, hminus, Option.some.injEq] <;> grind

theorem readSort_whole_iff : readSort path v = .ok (.whole direction) ↔
    v.IsWhole direction.toLong := by
  rw [← direction?_eq_some_iff]
  unfold readSort
  split
  case h_1 d hd => simp [hd]
  case h_2 hnone =>
    refine iff_of_false (fun h => ?_) (by simp [hnone])
    split at h
    · obtain ⟨_, -, heq⟩ := map_ok h
      cases heq
    · cases h

theorem readModifier_sort_iff : readModifier path items ("$sort", v) =
    .ok { items with sort := some (.whole direction) } ↔ v.IsWhole direction.toLong := by
  have hinjective : Function.Injective fun sort => { items with sort := some sort } :=
    fun _ _ h => Option.some.inj (congrArg Push.sort h)
  exact (map_ok_iff hinjective).trans readSort_whole_iff

theorem readSortKey_iff {name : String} {key : Path} :
    readSortKey path (name, v) = .ok ⟨key, direction⟩ ↔
      Path.ofText name = .ok key ∧ v.IsWhole direction.toLong := by
  rw [← direction?_eq_some_iff, readSortKey]
  cases Path.ofText name with
  | error e => exact iff_of_false nofun nofun
  | ok target => cases direction? v <;> simp [bind, Except.bind, pure, Except.pure, refuse]

end Action

/-- Exactly the whole numbers of 64 bits are read, whatever their type, as an integer, as a
position, as the size of a slice and as a direction. Everything else is refused. To read them in
steps gives the same. -/
theorem Value.read_as_whole (v : Value) :
    (∀ n : Int64, v.asInteger = some n.toInt ↔ v.IsWhole n) ∧
    (v.asInteger = none ↔ ∀ n, ¬ v.IsWhole n) ∧
    (∀ n, v.asLong? = some n ↔ v.asInteger = some n.toInt) ∧
    (∀ path (items : Push) (n : Int64),
      (Action.readModifier path items ("$position", v) =
        .ok { items with position := some n.toInt } ↔ v.IsWhole n) ∧
      (Action.readModifier path items ("$slice", v) =
        .ok { items with slice := some n.toInt } ↔ v.IsWhole n)) ∧
    (∀ path modifier, Action.readInteger path modifier v =
      Action.refuse .push path (.pushInteger modifier v.kind) ↔ ∀ n, ¬ v.IsWhole n) ∧
    ∀ path (items : Push) (direction : Direction),
      (Action.readModifier path items ("$sort", v) =
        .ok { items with sort := some (.whole direction) } ↔ v.IsWhole direction.toLong) ∧
      ∀ name key, Action.readSortKey path (name, v) = .ok ⟨key, direction⟩ ↔
        Path.ofText name = .ok key ∧ v.IsWhole direction.toLong := by
  refine ⟨v.asInteger_eq_some_iff, v.asInteger_eq_none_iff, v.asLong?_eq_some_iff, ?_, ?_, ?_⟩
  · exact fun _ _ _ => ⟨Action.readModifier_position_iff, Action.readModifier_slice_iff⟩
  · exact fun path modifier => Action.readInteger_refused_iff path modifier
  · exact fun _ _ _ => ⟨Action.readModifier_sort_iff, fun _ _ => Action.readSortKey_iff⟩

/-- One as an integer, as a double and as two decimals. -/
example :
    let cent : Finite := ⟨false, 100, -2, by decide, by decide, by decide⟩
    let tenth : Finite := ⟨false, 10, -1, by decide, by decide, by decide⟩
    [Value.int32 1, .double ⟨0x3ff0000000000000⟩, .decimal (.finite cent),
      .decimal (.finite tenth)].map Value.asInteger = [some 1, some 1, some 1, some 1] := by decide

end DocUpdate
