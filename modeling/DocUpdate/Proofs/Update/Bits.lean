import DocUpdate.Proofs.Update.Content
import DocUpdate.Proofs.Value.Integer

/-!
# Bitwise steps

The value at hand gets 64 bits at the first operand that has them. As the sign is continued to the
left bit by bit, it does not matter when that is: all steps could have been made on 64 bits.
-/

namespace DocUpdate

def BitOp.onBits : BitOp → BitVec 64 → BitVec 64 → BitVec 64
  | and, a, b => a &&& b
  | or, a, b => a ||| b
  | xor, a, b => a ^^^ b

namespace Edit

/-! ## One step -/

theorem signExtend_bit32 (op : BitOp) (a b : Int32) :
    (bit32 op a b).toBitVec.signExtend 64 =
      op.onBits (a.toBitVec.signExtend 64) (b.toBitVec.signExtend 64) := by
  cases op with
  | and => exact BitVec.signExtend_and
  | or => exact BitVec.signExtend_or
  | xor => exact BitVec.signExtend_xor

theorem toBitVec_bit64 (op : BitOp) (a b : Int64) :
    (bit64 op a b).toBitVec = op.onBits a.toBitVec b.toBitVec := by cases op <;> rfl

theorem bitStep?_int (op : BitOp) (a b : Int32) :
    bitStep? (.int32 a) (op, .int32 b) = some (.int32 (bit32 op a b)) := rfl

theorem bitStep?_long (op : BitOp) {i j : Integer} (h : i.isLong || j.isLong) :
    bitStep? i.value (op, j.value) =
      some (.int64 (bit64 op (Int64.ofInt i.toInt) (Int64.ofInt j.toInt))) := by
  cases i <;> cases j <;> first | rfl | cases h

theorem exists_bitStep_bits (op : BitOp) (i j : Integer) : ∃ k : Integer,
    bitStep? i.value (op, j.value) = some k.value ∧ k.bits = op.onBits i.bits j.bits ∧
      k.isLong = (i.isLong || j.isLong) := by
  cases hlong : i.isLong || j.isLong with
  | true =>
    refine ⟨.long _, bitStep?_long op hlong, ?_, rfl⟩
    rw [Integer.bits, toBitVec_bit64, i.toBitVec_ofInt, j.toBitVec_ofInt]
  | false =>
    cases i with
    | long a => cases hlong
    | int a =>
      cases j with
      | long b => cases hlong
      | int b => exact ⟨.int _, bitStep?_int op a b, signExtend_bit32 op a b, rfl⟩

/-! ## All steps -/

/-- An operation and the integer on its right. -/
abbrev BitStep := BitOp × Integer

def BitStep.stored (s : BitStep) : BitOp × Value := (s.1, s.2.value)

/-- What the steps make of 64 bits, from left to right. -/
def bitsOf (start : BitVec 64) (steps : List BitStep) : BitVec 64 :=
  steps.foldl (fun bits s => s.1.onBits bits s.2.bits) start

theorem exists_bitSteps_bits (start : Integer) (steps : List BitStep) : ∃ k : Integer,
    (steps.map BitStep.stored).foldlM bitStep? start.value = some k.value ∧
      k.bits = bitsOf start.bits steps ∧
      (k.isLong ↔ start.isLong ∨ ∃ s ∈ steps, s.2.isLong) := by
  induction steps generalizing start with
  | nil => exact ⟨start, rfl, rfl, by simp⟩
  | cons s rest ih =>
    obtain ⟨mid, hmid, hbits, hlong⟩ := exists_bitStep_bits s.1 start s.2
    obtain ⟨k, hk, hrest, hwide⟩ := ih mid
    refine ⟨k, ?_, ?_, ?_⟩
    · rw [List.map_cons, List.foldlM_cons, BitStep.stored, hmid]
      exact hk
    · rw [hrest, hbits]
      rfl
    · simp [hwide, hlong, or_assoc]

/-- A missing value has the width of the first operand, and no bit is set in it. -/
theorem exists_bitStart (steps : List BitStep) : ∃ i : Integer,
    bitStart (steps.map BitStep.stored) = i.value ∧ i.bits = 0 ∧
      (i.isLong → ∃ s ∈ steps, s.2.isLong) := by
  cases steps with
  | nil => exact ⟨.int 0, rfl, rfl, nofun⟩
  | cons s rest =>
    obtain ⟨op, operand⟩ := s
    cases operand with
    | int n => exact ⟨.int 0, rfl, rfl, nofun⟩
    | long n => exact ⟨.long 0, rfl, rfl, fun _ => ⟨_, List.mem_cons_self, rfl⟩⟩

section

variable {path : Path} {steps : List BitStep}

theorem makes_bitFrom {content : Option Value} {start : Value} {k : Integer}
    (hcontent : ∀ current, content = some current → ∃ i : Integer, current = i.value)
    (h : (steps.map BitStep.stored).foldlM bitStep? start = some k.value) :
    (bitFrom path (steps.map BitStep.stored) start).Makes path content k.value := by
  simp only [bitFrom, h]
  refine makes_setValue fun current hcurrent hsame => ?_
  obtain ⟨i, rfl⟩ := hcontent current hcurrent
  exact Integer.eq_of_same hsame

theorem makes_bit (path : Path) (start : Option Integer) (steps : List BitStep) :
    ∃ result : Integer,
    (bit path (steps.map BitStep.stored)).Makes path (start.map Integer.value) result.value ∧
      result.bits = bitsOf (start.elim 0 Integer.bits) steps ∧
      (result.isLong ↔ (∃ i ∈ start, i.isLong) ∨ ∃ s ∈ steps, s.2.isLong) := by
  cases start with
  | some i =>
    obtain ⟨k, hk, hbits, hlong⟩ := exists_bitSteps_bits i steps
    refine ⟨k, ?_, hbits, by simpa using hlong⟩
    have hfrom : (bitFrom path (steps.map BitStep.stored) i.value).Makes path (some i.value)
        k.value := by
      refine makes_bitFrom ?_ hk
      rintro _ ⟨⟩
      exact ⟨i, rfl⟩
    refine makes_readForWrite ?_
    cases i <;> exact hfrom
  | none =>
    obtain ⟨i, hi, hzero, hfirst⟩ := exists_bitStart steps
    obtain ⟨k, hk, hbits, hlong⟩ := exists_bitSteps_bits i steps
    refine ⟨k, makes_readForWrite ?_, by rw [hbits, hzero]; rfl, ?_⟩
    · rw [← hi] at hk
      exact makes_bitFrom nofun hk
    · rw [hlong]
      simpa using hfirst

end

/-- Bitwise steps on an integer succeed, and on a missing value too, which counts as zero. The
result is that of the same steps on 64 bits, and it has 64 bits just if one of the integers had. -/
theorem bit_folds {doc : Fields} {path : Path} {start : Option Integer}
    (hstart : doc.ContentAt path (start.map Integer.value)) (steps : List BitStep) :
    ∃ changed after, ∃ result : Integer,
      bit path (steps.map BitStep.stored) doc = .ok changed after ∧
      doc.Put path result.value after ∧
      result.toInt = (bitsOf (start.elim 0 Integer.bits) steps).toInt ∧
      (result.isLong ↔ (∃ i ∈ start, i.isLong) ∨ ∃ s ∈ steps, s.2.isLong) := by
  obtain ⟨result, hmakes, hbits, hlong⟩ := makes_bit path start steps
  obtain ⟨changed, after, hrun, hput⟩ := hmakes.exists_put hstart
  exact ⟨changed, after, result, hrun, hput, by rw [← hbits, Integer.toInt_bits], hlong⟩

/-- A negative number of 32 bits is masked by the upper half of 64 bits. -/
theorem bit_widens_between :
    let path : Path := ⟨⟨"a", by decide, by decide⟩, [⟨"0", by decide, by decide⟩]⟩
    let doc : Fields := [("a", .array [.int32 (-6)])]
    let steps : List BitStep := [(.xor, .int 3), (.and, .long (-4294967295)), (.or, .int 2)]
    let after : Fields := [("a", .array [.int64 (-4294967293)])]
    doc.ContentAt path (some (.int32 (-6))) ∧
      (∃ changed, bit path (steps.map BitStep.stored) doc = .ok changed after) ∧
      (bitsOf (Integer.int (-6)).bits steps).toInt = -4294967293 := by
  intro path doc steps after
  have hstart : doc.ContentAt path ((some (Integer.int (-6))).map Integer.value) := .present rfl
  obtain ⟨changed, left, result, hrun, hput, hvalue, -⟩ := bit_folds hstart steps
  obtain rfl : left = after := by
    have hleft : bit path (steps.map BitStep.stored) doc = .ok true after := rfl
    rw [hrun] at hleft
    cases hleft
    rfl
  have hread : after.read path = .ok (some (.int64 (-4294967293))) := rfl
  rw [hput.at_path] at hread
  cases result with
  | int n => cases hread
  | long n =>
    cases hread
    exact ⟨hstart, ⟨changed, hrun⟩, hvalue.symm⟩

end Edit

end DocUpdate
