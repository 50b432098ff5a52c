import DocUpdate.Proofs.Update.Content
import DocUpdate.Proofs.Value.Integer

/-!
# Counting

Integers are added and multiplied without rounding as long as the results have 64 bits. The first
result that does not is stored as a double.
-/

namespace DocUpdate

/-! ## One step -/

namespace Value

variable {op : Arith} {i j : Integer}

theorem arithmetic_int (op : Arith) (h : (i.isLong || j.isLong) = false) :
    arithmetic op i.value j.value = some (intOrWider op i.toInt j.toInt) := by
  cases i <;> cases j <;> first | rfl | cases h

theorem arithmetic_long (op : Arith) (h : i.isLong || j.isLong) :
    arithmetic op i.value j.value = some (longOrDouble op i.toInt j.toInt) := by
  cases i <;> cases j <;> first | rfl | cases h

theorem longOrDouble_of_fits {a b : Int} (h : FitsLong (op.onInt a b)) :
    ∃ n : Int64, longOrDouble op a b = .int64 n ∧ n.toInt = op.onInt a b := by
  have hsome : int64Of? (op.onInt a b) = some (Int64.ofInt (op.onInt a b)) := if_pos h
  exact ⟨_, by rw [longOrDouble, hsome], int64Of?_eq_some_iff.mp hsome⟩

theorem longOrDouble_of_not_fits {a b : Int} (h : ¬ FitsLong (op.onInt a b)) :
    longOrDouble op a b = .double (op.onDouble (Double.ofInt a) (Double.ofInt b)) := by
  have hnone : int64Of? (op.onInt a b) = none := if_neg h
  rw [longOrDouble, hnone]

theorem intOrWider_of_fits {a b : Int} (h : FitsInt (op.onInt a b)) :
    ∃ n : Int32, intOrWider op a b = .int32 n ∧ n.toInt = op.onInt a b := by
  have hsome : int32Of? (op.onInt a b) = some (Int32.ofInt (op.onInt a b)) := if_pos h
  exact ⟨_, by rw [intOrWider, hsome], int32Of?_eq_some_iff.mp hsome⟩

theorem intOrWider_of_not_fits {a b : Int} (h : ¬ FitsInt (op.onInt a b)) :
    intOrWider op a b = longOrDouble op a b := by
  have hnone : int32Of? (op.onInt a b) = none := if_neg h
  rw [intOrWider, hnone]

/-- A result that fits in 64 bits is exact. It has 32 bits if both sides have and it fits. -/
theorem exists_arithmetic_exact (h : FitsLong (op.onInt i.toInt j.toInt)) : ∃ k : Integer,
    arithmetic op i.value j.value = some k.value ∧ k.toInt = op.onInt i.toInt j.toInt ∧
      (k.isLong = false ↔ i.isLong = false ∧ j.isLong = false ∧ FitsInt k.toInt) := by
  obtain ⟨n, hn, hlong⟩ := longOrDouble_of_fits h
  cases hwide : i.isLong || j.isLong with
  | true =>
    refine ⟨.long n, by rw [arithmetic_long op hwide, hn]; rfl, hlong, iff_of_false nofun ?_⟩
    rintro ⟨hi, hj, -⟩
    simp [hi, hj] at hwide
  | false =>
    -- Two integers of 32 bits, whose result may still need 64.
    by_cases hfits : FitsInt (op.onInt i.toInt j.toInt)
    · obtain ⟨m, hm, hint⟩ := intOrWider_of_fits hfits
      obtain ⟨hi, hj⟩ := Bool.or_eq_false_iff.mp hwide
      refine ⟨.int m, by rw [arithmetic_int op hwide, hm]; rfl, hint, iff_of_true rfl ⟨hi, hj, ?_⟩⟩
      exact Integer.fitsInt_toInt rfl
    · refine ⟨.long n, ?_, hlong, iff_of_false nofun ?_⟩
      · rw [arithmetic_int op hwide, intOrWider_of_not_fits hfits, hn]
        rfl
      · rintro ⟨-, -, hint⟩
        exact hfits (hlong ▸ hint)

theorem arithmetic_of_not_fits (h : ¬ FitsLong (op.onInt i.toInt j.toInt)) :
    arithmetic op i.value j.value =
      some (.double (op.onDouble (Double.ofInt i.toInt) (Double.ofInt j.toInt))) := by
  rw [← longOrDouble_of_not_fits h]
  cases hwide : i.isLong || j.isLong with
  | true => exact arithmetic_long op hwide
  | false =>
    have hfits : ¬ FitsInt (op.onInt i.toInt j.toInt) := fun hint => h hint.fitsLong
    rw [arithmetic_int op hwide, intOrWider_of_not_fits hfits]

end Value

/-- The operator that carries out an operation of arithmetic. -/
def Arith.action : Arith → Value → Action
  | add, amount => .inc amount
  | mul, factor => .mul factor

theorem makes_arith {op : Arith} {i : Integer} {operand result : Value} {options : Options}
    {path : Path} (h : Value.arithmetic op i.value operand = some result) :
    (Mutation.apply options ⟨path, op.action operand⟩).Makes path (some i.value) result := by
  have hset : (Edit.setValue path result).Makes path (some i.value) result := by
    refine Edit.makes_setValue ?_
    rintro _ ⟨⟩ hsame
    exact Integer.eq_of_same hsame
  cases op
  all_goals
    refine Edit.makes_readForWrite ?_
    simp only [h]
    exact hset

/-! ## Runs -/

/-- An operation and the integer on its right. -/
abbrev Count := Arith × Integer

namespace Count

def mutation (path : Path) (c : Count) : Mutation := ⟨path, c.1.action c.2.value⟩

/-- What exact arithmetic makes of an integer. -/
def exact (start : Int) (counts : List Count) : Int :=
  counts.foldl (fun n c => c.1.onInt n c.2.toInt) start

/-- The exact results after none, some and all of the counts, in order, have a property. -/
def Throughout (P : Int → Prop) (start : Int) (counts : List Count) : Prop :=
  ∀ done, done <+: counts → P (exact start done)

section

variable {P : Int → Prop} {start : Int} {c : Count} {rest : List Count}

theorem throughout_nil : Throughout P start [] ↔ P start := by simp [Throughout, exact]

theorem throughout_cons :
    Throughout P start (c :: rest) ↔ P start ∧ Throughout P (c.1.onInt start c.2.toInt) rest := by
  constructor
  · intro h
    refine ⟨h [] List.nil_prefix, fun done hdone => h (c :: done) ?_⟩
    exact List.cons_prefix_cons.mpr ⟨rfl, hdone⟩
  · rintro ⟨hstart, hrest⟩ done hdone
    rcases List.prefix_cons_iff.mp hdone with rfl | ⟨later, rfl, hlater⟩
    · exact hstart
    · exact hrest later hlater

end

variable {options : Options} {path : Path} {counts : List Count} {start : Integer}

/-- One count more. -/
theorem makes_cons {c : Count} {mid : Integer} {result : Value}
    (hc : Value.arithmetic c.1 start.value c.2.value = some mid.value)
    (hrest : (applyAll options (counts.map (mutation path))).Makes path (some mid.value) result) :
    (applyAll options ((c :: counts).map (mutation path))).Makes path (some start.value) result :=
  makes_applyAll_cons (makes_arith hc) hrest

theorem exists_makes (hfits : Throughout FitsLong start.toInt counts) (options : Options)
    (path : Path) : ∃ result : Integer,
    (applyAll options (counts.map (mutation path))).Makes path (some start.value) result.value ∧
      result.toInt = exact start.toInt counts ∧
      (result.isLong = false ↔ start.isLong = false ∧ (∀ c ∈ counts, c.2.isLong = false) ∧
        Throughout FitsInt start.toInt counts) := by
  induction counts generalizing start with
  | nil =>
    refine ⟨start, makes_applyAll_nil, rfl, fun h => ⟨h, by simp, ?_⟩, And.left⟩
    exact throughout_nil.mpr (Integer.fitsInt_toInt h)
  | cons c rest ih =>
    obtain ⟨-, hrest⟩ := throughout_cons.mp hfits
    obtain ⟨mid, hmid, hint, hwidth⟩ := Value.exists_arithmetic_exact (hrest [] List.nil_prefix)
    rw [← hint] at hrest
    obtain ⟨result, hmakes, hresult, hnarrow⟩ := ih hrest
    refine ⟨result, makes_cons hmid hmakes, by rw [hresult, hint]; rfl, ?_⟩
    rw [hnarrow, hwidth, throughout_cons, hint, List.forall_mem_cons]
    constructor
    · rintro ⟨⟨hstart, hc, -⟩, hlater, hthrough⟩
      exact ⟨hstart, ⟨hc, hlater⟩, Integer.fitsInt_toInt hstart, hthrough⟩
    · rintro ⟨hstart, ⟨hc, hlater⟩, -, hthrough⟩
      exact ⟨⟨hstart, hc, hthrough [] List.nil_prefix⟩, hlater, hthrough⟩

theorem makes_double {last : Count} (hfits : Throughout FitsLong start.toInt counts)
    (hlast : ¬ FitsLong (exact start.toInt (counts ++ [last]))) :
    (applyAll options ((counts ++ [last]).map (mutation path))).Makes path (some start.value)
      (.double (last.1.onDouble (Double.ofInt (exact start.toInt counts))
        (Double.ofInt last.2.toInt))) := by
  induction counts generalizing start with
  | nil =>
    have hdouble := Value.arithmetic_of_not_fits hlast
    exact makes_applyAll_cons (makes_arith hdouble) makes_applyAll_nil
  | cons c rest ih =>
    obtain ⟨-, hrest⟩ := throughout_cons.mp hfits
    obtain ⟨mid, hmid, hint, -⟩ := Value.exists_arithmetic_exact (hrest [] List.nil_prefix)
    have hexact : ∀ more, exact start.toInt (c :: more) = exact mid.toInt more := by
      intro more
      rw [hint]
      rfl
    rw [List.cons_append, hexact] at hlast
    rw [← hint] at hrest
    rw [List.cons_append, hexact]
    exact makes_cons hmid (ih hrest hlast)

/-- Adding to an integer and multiplying it over and over gives the exact results, as long as they
fit in 64 bits. They are stored in 32 bits until an operand or a result needs more, and then in 64.
The first result that needs more than 64 is the double that the operation gives on doubles. -/
theorem runs_exact {doc : Fields} (hread : doc.read path = .ok (some start.value))
    (hfits : Throughout FitsLong start.toInt counts) (options : Options) :
    (∃ result : Integer, doc.RunsTo options (counts.map (mutation path)) path result.value ∧
      result.toInt = exact start.toInt counts ∧
      (result.isLong = false ↔ start.isLong = false ∧ (∀ c ∈ counts, c.2.isLong = false) ∧
        Throughout FitsInt start.toInt counts)) ∧
    ∀ last, ¬ FitsLong (exact start.toInt (counts ++ [last])) →
      doc.RunsTo options ((counts ++ [last]).map (mutation path)) path
        (.double (last.1.onDouble (Double.ofInt (exact start.toInt counts))
          (Double.ofInt last.2.toInt))) := by
  have hcontent : doc.ContentAt path (some start.value) := .present hread
  obtain ⟨result, hmakes, hexact, hwidth⟩ := exists_makes hfits options path
  refine ⟨⟨result, hmakes.runsTo hcontent, hexact, hwidth⟩, fun last hlast => ?_⟩
  exact (makes_double hfits hlast).runsTo hcontent

/-- A number that had 64 bits once keeps them, also when it is small again. -/
theorem runs_small_again :
    let path : Path := ⟨⟨"a", by decide, by decide⟩, [⟨"n", by decide, by decide⟩]⟩
    let doc : Fields := [("a", .document [("n", .int32 2147483647)])]
    let counts : List Count := [(.add, .int 1), (.add, .int (-2147483646))]
    let last : Count := (.mul, .long 9223372036854775807)
    let options : Options := ⟨false, 0⟩
    doc.read path = .ok (some (.int32 2147483647)) ∧ Throughout FitsLong 2147483647 counts ∧
      doc.RunsTo options (counts.map (mutation path)) path (.int64 2) ∧
      ¬ FitsLong (exact 2147483647 (counts ++ [last])) ∧
      doc.RunsTo options ((counts ++ [last]).map (mutation path)) path
        (.double ⟨0x43F0000000000000⟩) := by
  intro path doc counts last options
  have hread : doc.read path = .ok (some (Integer.int 2147483647).value) := rfl
  have hfits : Throughout FitsLong (Integer.int 2147483647).toInt counts := by
    simp only [counts, throughout_cons, throughout_nil]
    decide
  have hlast : ¬ FitsLong (exact 2147483647 (counts ++ [last])) := by decide
  obtain ⟨⟨result, hrun, hint, hwidth⟩, hdouble⟩ := runs_exact hread hfits options
  have hover := hdouble last hlast
  have hproduct : last.1.onDouble (Double.ofInt (exact (Integer.int 2147483647).toInt counts))
      (Double.ofInt last.2.toInt) = ⟨0x43F0000000000000⟩ := by decide +kernel
  rw [hproduct] at hover
  refine ⟨hread, hfits, ?_, hlast, hover⟩
  cases result with
  | long n =>
    obtain rfl : n = 2 := Int64.toInt_inj.mp hint
    exact hrun
  | int n =>
    have hsmall := (hwidth.mp rfl).2.2 [(.add, .int 1)] (by simp [counts])
    exact absurd hsmall (by decide)

end Count

end DocUpdate
