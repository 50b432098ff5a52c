import DocUpdate.Proofs.StableSort.Runs
import DocUpdate.StableSort.Quick

/-!
# Stable sorting is insertion, or stops

Whatever the comparison, sorting keeps the items it is given. If the comparison orders them,
sorting does not stop and gives what insertion gives. So it stops only for more than twenty
items that are not ordered.
-/

namespace DocUpdate.StableSort

universe u

variable {α : Type u} {cmp : α → α → Ordering} {S : Set α} {items : List α}

/-! ## The same items -/

theorem quick?_perm {limit : Nat} {least : Option α} {sorted : List α}
    (h : quick? cmp limit least items = some sorted) : sorted.Perm items := by
  have hruns : ∀ {items sorted}, byRuns? cmp (small? cmp) true items = some sorted →
      sorted.Perm items := byRuns?_perm fun _ _ => small?_perm
  induction limit generalizing least items sorted with
  | zero =>
    unfold quick? at h
    split at h
    · exact small?_perm h
    · exact hruns h
  | succ limit ih =>
    unfold quick? at h
    split at h
    · exact small?_perm h
    · cases items with
      | nil => exact hruns h
      | cons a rest =>
        dsimp only at h
        generalize pivot cmp a (a :: rest) 0 (a :: rest).length = p at h
        have hsplit := fun q : α → Bool => List.filter_append_perm q (a :: rest)
        split at h
        · obtain ⟨later, hlater, h⟩ := Option.bind_eq_some_iff.mp h
          cases h
          exact List.perm_append_comm.trans (((ih hlater).append_right _).trans (hsplit _))
        · obtain ⟨high, hhigh, h⟩ := Option.bind_eq_some_iff.mp h
          obtain ⟨low, hlow, h⟩ := Option.bind_eq_some_iff.mp h
          cases h
          exact ((ih hlow).append (ih hhigh)).trans (hsplit _)

theorem sort?_perm {sorted : List α} (h : sort? cmp items = some sorted) : sorted.Perm items := by
  unfold sort? at h
  split at h
  · cases h
    exact insertion_perm cmp items
  · exact byRuns?_perm (fun _ _ => quick?_perm) h

/-! ## Splitting at a pivot -/

theorem median_mem (cmp : α → α → Ordering) {a b c : α} (ha : a ∈ S) (hb : b ∈ S) (hc : c ∈ S) :
    median cmp a b c ∈ S := by
  dsimp only [median]
  split_ifs <;> assumption

theorem pivot_mem (cmp : α → α → Ordering) {a : α} (ha : a ∈ S) (hS : ∀ b ∈ items, b ∈ S)
    (start n : Nat) : pivot cmp a items start n ∈ S := by
  fun_induction pivot cmp a items start n with
  | case1 start n _ =>
    rw [List.getD_eq_getElem?_getD]
    cases h : items[start]? with
    | none => exact ha
    | some b => exact hS b (List.mem_of_getElem? h)
  | case2 start n _ ih ih' ih'' => exact median_mem cmp ih ih' ih''

/-- Where no item is before the pivot, those that equal it are the first. -/
theorem sorts_equal (h : TotalPreorderOn cmp S) (hS : ∀ a ∈ items, a ∈ S) {p : α} (hp : p ∈ S)
    (hle : ∀ a ∈ items, ¬ cmp a p = .lt) :
    Sorts cmp S items (items.filter (cmp p · != .lt) ++
      insertion cmp (items.filter (cmp p · == .lt))) := by
  have hfilter : ∀ q : α → Bool, ∀ a ∈ items.filter q, a ∈ S :=
    fun q a ha => hS a (List.mem_of_mem_filter ha)
  refine .of_rearranged (Rearranged.partition (q := (cmp p · == .lt)) hS (by simp [bne])
    fun a ha b hb hab => ?_) (Sorts.append ⟨.refl _, ?_⟩ (sorts_insertion h (hfilter _)) ?_)
  · rw [Bool.eq_iff_iff, bne_iff_ne, bne_iff_ne]
    exact not_congr (h.gt_iff_of_eq ha hb hp hab)
  · refine List.pairwise_of_forall_mem_list fun a ha b hb hba => ?_
    obtain ⟨haS, hpa⟩ := List.mem_filter.mp ha
    have hap := h.ne_gt_of_ne_lt hp (hS a haS) (by simpa using hpa)
    exact hle b (List.mem_of_mem_filter hb)
      (h.lt_of_lt_of_le (hfilter _ b hb) (hS a haS) hp hba hap)
  · intro a ha b hb hba
    obtain ⟨haS, hpa⟩ := List.mem_filter.mp ha
    obtain ⟨hbS, hpb⟩ := List.mem_filter.mp hb
    rw [beq_iff_eq] at hpb
    have hlt := h.lt_of_lt_of_le hp (hS b hbS) (hS a haS) hpb (by simp [hba])
    simp [hlt] at hpa

/-- Items before the pivot are sorted in front of the others. -/
theorem sorts_split (h : TotalPreorderOn cmp S) (hS : ∀ a ∈ items, a ∈ S) {p : α} (hp : p ∈ S) :
    Sorts cmp S items (insertion cmp (items.filter (cmp · p == .lt)) ++
      insertion cmp (items.filter (cmp · p != .lt))) := by
  have hfilter : ∀ q : α → Bool, ∀ a ∈ items.filter q, a ∈ S :=
    fun q a ha => hS a (List.mem_of_mem_filter ha)
  refine .of_rearranged (Rearranged.partition (q := (cmp · p != .lt)) hS (by simp [bne])
    fun a ha b hb hab => ?_)
    (Sorts.append (sorts_insertion h (hfilter _)) (sorts_insertion h (hfilter _)) ?_)
  · rw [Bool.eq_iff_iff, beq_iff_eq, beq_iff_eq]
    exact h.lt_iff_of_eq ha hb hp hab
  · intro a ha b hb hba
    obtain ⟨haS, hap⟩ := List.mem_filter.mp ha
    obtain ⟨hbS, hbp⟩ := List.mem_filter.mp hb
    rw [beq_iff_eq] at hap
    have hlt := h.lt_of_lt_of_le (hS b hbS) (hS a haS) hp hba (by simp [hap])
    simp [hlt] at hbp

theorem quick?_eq (h : TotalPreorderOn cmp S) {limit : Nat} {least : Option α}
    (hS : ∀ a ∈ items, a ∈ S)
    (hleast : ∀ p ∈ least, p ∈ S ∧ ∀ a ∈ items, ¬ cmp a p = .lt) :
    quick? cmp limit least items = some (insertion cmp items) := by
  have hruns : ∀ {items}, (∀ a ∈ items, a ∈ S) →
      byRuns? cmp (small? cmp) true items = some (insertion cmp items) :=
    byRuns?_eq h (fun _ => small?_eq h) true
  induction limit generalizing least items with
  | zero =>
    unfold quick?
    split
    · exact small?_eq h hS
    · exact hruns hS
  | succ limit ih =>
    unfold quick?
    split
    · exact small?_eq h hS
    · cases items with
      | nil => exact hruns hS
      | cons a rest =>
        dsimp only
        have hp := pivot_mem cmp (hS a (by simp)) hS 0 (a :: rest).length
        generalize pivot cmp a (a :: rest) 0 (a :: rest).length = p at hp ⊢
        have hfilter : ∀ q : α → Bool, ∀ b ∈ (a :: rest).filter q, b ∈ S :=
          fun q b hb => hS b (List.mem_of_mem_filter hb)
        split
        · rename_i hnone
          have hle : ∀ b ∈ a :: rest, ¬ cmp b p = .lt := by
            intro b hb hbp
            rcases Bool.or_eq_true_iff.mp hnone with hequal | hempty
            · cases least with
              | none => cases hequal
              | some q =>
                obtain ⟨hq, hle⟩ := hleast q rfl
                have hqb := h.ne_gt_of_ne_lt (hS b hb) hq (hle b hb)
                have hqp := h.lt_of_le_of_lt hq (hS b hb) hp hqb hbp
                simp [hqp] at hequal
            · have hmem : b ∈ (a :: rest).filter (cmp · p == .lt) :=
                List.mem_filter.mpr ⟨hb, by simpa using hbp⟩
              rw [List.isEmpty_iff.mp hempty] at hmem
              cases hmem
          rw [ih (hfilter _) (by simp), ← (sorts_equal h hS hp hle).eq_insertion h hS]
          rfl
        · have hhigh : ∀ b ∈ (a :: rest).filter (cmp · p != .lt), ¬ cmp b p = .lt :=
            fun b hb => by simpa using (List.mem_filter.mp hb).2
          rw [ih (hfilter _) (by rintro _ ⟨⟩; exact ⟨hp, hhigh⟩),
            ih (hfilter _) fun q hq => ⟨(hleast q hq).1, fun b hb =>
              (hleast q hq).2 b (List.mem_of_mem_filter hb)⟩,
            ← (sorts_split h hS hp).eq_insertion h hS]
          rfl

/-- If the comparison orders items, sorting gives what insertion gives. -/
theorem sort?_eq (h : TotalPreorderOn cmp {a | a ∈ items}) :
    sort? cmp items = some (insertion cmp items) := by
  unfold sort?
  split
  · rfl
  · exact byRuns?_eq h (fun _ hS => quick?_eq h hS (by simp)) _ fun _ ha => ha

end DocUpdate.StableSort
