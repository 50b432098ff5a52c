import DocUpdate.Proofs.StableSort.Halves

/-!
# Runs are merged to one

Each run holds the items that it took from the list, and merging runs keeps them together. If
items are ordered, runs that are said to be sorted are, so nothing ever stops.
-/

namespace DocUpdate.StableSort

universe u

variable {α : Type u} {cmp : α → α → Ordering} {S : Set α} {items : List α}

/-! ## The same items -/

theorem chainLength_pos (related : α → α → Bool) (a : α) (rest : List α) :
    0 < chainLength related (a :: rest) := by
  cases rest with
  | nil => simp [chainLength]
  | cons b rest =>
    rw [chainLength]
    split <;> omega

theorem chainLength_le (related : α → α → Bool) (items : List α) :
    chainLength related items ≤ items.length := by
  fun_induction chainLength related items with
  | case1 a b rest _ ih => simpa using ih
  | case2 => simp
  | case3 => exact Nat.le_refl _

/-- A run in order that a list starts with has its first items. -/
theorem exists_existingRun (cmp : α → α → Ordering) (items : List α) :
    ∃ n, (existingRun cmp items).Perm (items.take n) ∧ n ≤ items.length ∧
      (items ≠ [] → 0 < n) := by
  unfold existingRun
  split
  · split
    · exact ⟨_, List.reverse_perm _, chainLength_le _ _, fun _ => chainLength_pos _ _ _⟩
    · exact ⟨_, .refl _, chainLength_le _ _, fun _ => chainLength_pos _ _ _⟩
  · exact ⟨items.length, by rw [List.take_length], Nat.le_refl _, List.length_pos_of_ne_nil⟩

theorem firstRun?_perm {eager : Bool} {enough : Nat} {run : Run α}
    (h : firstRun? cmp eager enough items = some run) :
    run.items.Perm (items.take run.items.length) ∧ (items ≠ [] → 0 < run.items.length) := by
  obtain ⟨n, hperm, hn, hpos⟩ := exists_existingRun cmp items
  have hlength : (existingRun cmp items).length = n := by
    rw [hperm.length_eq, List.length_take, Nat.min_eq_left hn]
  have of_take : ∀ {m : Nat} {taken : List α}, taken.Perm (items.take m) → 0 < m →
      taken.Perm (items.take taken.length) ∧ (items ≠ [] → 0 < taken.length) := by
    intro m taken htaken hm
    rw [htaken.length_eq, List.length_take]
    refine ⟨?_, fun hne => ?_⟩
    · rwa [← List.take_eq_take_min]
    · have := List.length_pos_of_ne_nil hne
      omega
  dsimp only [firstRun?] at h
  split at h
  · cases h
    rw [hlength]
    exact ⟨hperm, hpos⟩
  · split at h
    · obtain ⟨sorted, hsorted, rfl⟩ := Option.map_eq_some_iff.mp h
      exact of_take (small?_perm hsorted) (by decide)
    · cases h
      exact of_take (.refl _) (by omega)

theorem runs?_perm {eager : Bool} {enough : Nat} {runs : List (Run α)}
    (h : runs? cmp eager enough items = some runs) : (runs.flatMap (·.items)).Perm items := by
  induction items using runs?.induct generalizing runs with
  | case1 =>
    rw [runs?] at h
    cases h
    exact .refl _
  | case2 a rest ih =>
    rw [runs?] at h
    obtain ⟨run, hrun, h⟩ := Option.bind_eq_some_iff.mp h
    obtain ⟨later, hlater, h⟩ := Option.bind_eq_some_iff.mp h
    cases h
    obtain ⟨hperm, hpos⟩ := firstRun?_perm hrun
    have hdrop : (a :: rest).drop run.items.length = rest.drop (run.items.length - 1) := by
      rw [List.drop_cons (hpos (by simp))]
    rw [List.flatMap_cons, ← List.take_append_drop run.items.length (a :: rest), hdrop]
    exact hperm.append (ih run hlater)

/-- Sorted that way, items stay the same. -/
def Keeps (sort? : List α → Option (List α)) : Prop :=
  ∀ items sorted, sort? items = some sorted → sorted.Perm items

variable {sort? : List α → Option (List α)}

theorem Run.inOrder?_perm (hsort : Keeps sort?) {run : Run α} {sorted : List α}
    (h : run.inOrder? sort? = some sorted) : sorted.Perm run.items := by
  unfold inOrder? at h
  split at h
  · cases h
    exact .refl _
  · exact hsort _ _ h

theorem Run.join?_perm (hsort : Keeps sort?) {left right run : Run α}
    (h : left.join? cmp sort? right = some run) : run.items.Perm (left.items ++ right.items) := by
  unfold join? at h
  split at h
  · obtain ⟨xs, hxs, h⟩ := Option.bind_eq_some_iff.mp h
    obtain ⟨ys, hys, h⟩ := Option.bind_eq_some_iff.mp h
    cases h
    exact (merge_perm cmp xs ys).trans ((inOrder?_perm hsort hxs).append (inOrder?_perm hsort hys))
  · cases h
    exact .refl _

/-- The items of runs, the last of which comes first. -/
def laidOut : List (Run α × Nat) → List α
  | [] => []
  | (run, _) :: earlier => laidOut earlier ++ run.items

theorem collapse?_perm (hsort : Keeps sort?) {depth : Nat} {before left : List (Run α × Nat)}
    {run merged : Run α} (h : collapse? cmp sort? depth before run = some (merged, left)) :
    (laidOut left ++ merged.items).Perm (laidOut before ++ run.items) := by
  induction before generalizing run with
  | nil =>
    cases h
    exact .refl _
  | cons last earlier ih =>
    obtain ⟨last, d⟩ := last
    rw [collapse?] at h
    split at h
    · obtain ⟨joined, hjoined, h⟩ := Option.bind_eq_some_iff.mp h
      refine (ih h).trans ?_
      rw [laidOut, List.append_assoc]
      exact (Run.join?_perm hsort hjoined).append_left _
    · cases h
      exact .refl _

theorem collapse?_zero {before left : List (Run α × Nat)} {run merged : Run α}
    (h : collapse? cmp sort? 0 before run = some (merged, left)) : left = [] := by
  induction before generalizing run with
  | nil =>
    cases h
    rfl
  | cons last earlier ih =>
    rw [collapse?, if_pos (Nat.zero_le _)] at h
    obtain ⟨joined, -, h⟩ := Option.bind_eq_some_iff.mp h
    exact ih h

theorem mergeRuns?_perm (hsort : Keeps sort?) {total start : Nat} {before : List (Run α × Nat)}
    {run merged : Run α} {later : List (Run α)}
    (h : mergeRuns? cmp sort? total start before run later = some merged) :
    merged.items.Perm (laidOut before ++ run.items ++ later.flatMap (·.items)) := by
  induction later generalizing start before run with
  | nil =>
    obtain ⟨⟨all, left⟩, hall, h⟩ := Option.bind_eq_some_iff.mp h
    cases h
    have hperm := collapse?_perm hsort hall
    rw [collapse?_zero hall] at hperm
    simpa [laidOut] using hperm
  | cons next later ih =>
    obtain ⟨⟨joined, left⟩, hjoined, h⟩ := Option.bind_eq_some_iff.mp h
    refine (ih h).trans ?_
    rw [laidOut, List.flatMap_cons, ← List.append_assoc]
    exact ((collapse?_perm hsort hjoined).append_right _).append_right _

theorem byRuns?_perm (hsort : Keeps sort?) {eager : Bool} {sorted : List α}
    (h : byRuns? cmp sort? eager items = some sorted) : sorted.Perm items := by
  obtain ⟨runs, hruns, h⟩ := Option.bind_eq_some_iff.mp h
  have hitems := runs?_perm hruns
  cases runs with
  | nil =>
    cases h
    exact hitems
  | cons first later =>
    obtain ⟨run, hrun, h⟩ := Option.bind_eq_some_iff.mp h
    refine (Run.inOrder?_perm hsort h).trans ((mergeRuns?_perm hsort hrun).trans ?_)
    simpa [laidOut] using hitems

/-! ## Runs in order -/

theorem pairwise_take_chainLength {related : α → α → Bool}
    (htrans : ∀ a ∈ items, ∀ b ∈ items, ∀ c ∈ items, related a b → related b c → related a c) :
    (items.take (chainLength related items)).Pairwise fun a b => related a b := by
  fun_induction chainLength related items with
  | case1 a b rest hab ih =>
    have hrest := ih fun x hx y hy z hz => htrans x (List.mem_cons_of_mem a hx)
      y (List.mem_cons_of_mem a hy) z (List.mem_cons_of_mem a hz)
    obtain ⟨n, hn⟩ := Nat.exists_eq_succ_of_ne_zero (Nat.ne_of_gt (chainLength_pos related b rest))
    rw [List.take_succ_cons]
    rw [hn, List.take_succ_cons] at hrest ⊢
    refine List.pairwise_cons.mpr ⟨fun x hx => ?_, hrest⟩
    rcases List.mem_cons.mp hx with rfl | hx
    · exact hab
    · exact htrans a (by simp) b (by simp) x (by simp [List.mem_of_mem_take hx]) hab
        ((List.pairwise_cons.mp hrest).1 x hx)
  | case2 => simp
  | case3 items hitems =>
    rcases items with _ | ⟨a, _ | ⟨b, rest⟩⟩
    · simp
    · simp
    · exact absurd rfl (hitems a b rest)

/-- Items that each are before the one in front of them are in order from the back. -/
theorem sorts_reverse_of_falling (h : TotalPreorderOn cmp S) (hS : ∀ a ∈ items, a ∈ S)
    (hfalling : items.Pairwise fun a b => cmp b a = .lt) : Sorts cmp S items items.reverse := by
  induction items with
  | nil => exact ⟨.refl _, .nil⟩
  | cons a rest ih =>
    obtain ⟨ha, hrest⟩ := List.forall_mem_cons.mp hS
    obtain ⟨hlt, hfalling⟩ := List.pairwise_cons.mp hfalling
    rw [List.reverse_cons]
    refine .of_rearranged (Rearranged.comm h rest [a] hrest (by simpa using ha)
      (by simpa using hlt)).symm ?_
    refine (ih hrest hfalling).append ⟨.refl [a], List.pairwise_singleton _ a⟩ fun b hb c hc => ?_
    rw [List.mem_singleton.mp hc]
    exact h.not_lt_of_lt (hrest b hb) ha (hlt b hb)

theorem sorts_existingRun (h : TotalPreorderOn cmp S) (hS : ∀ a ∈ items, a ∈ S) :
    Sorts cmp S (items.take (existingRun cmp items).length) (existingRun cmp items) := by
  unfold existingRun
  split
  · rename_i a b rest
    have hlength : ∀ related : α → α → Bool, ((a :: b :: rest).take
        (chainLength related (a :: b :: rest))).length = chainLength related (a :: b :: rest) :=
      fun related => by rw [List.length_take, Nat.min_eq_left (chainLength_le _ _)]
    have htake : ∀ n, ∀ x ∈ (a :: b :: rest).take n, x ∈ S :=
      fun n x hx => hS x (List.mem_of_mem_take hx)
    split
    · rw [List.length_reverse, hlength]
      refine sorts_reverse_of_falling h (htake _) ?_
      refine (pairwise_take_chainLength fun x hx y hy z hz hxy hyz => ?_).imp (by simp)
      rw [beq_iff_eq] at hxy hyz ⊢
      exact h.lt_of_lt_of_le (hS z hz) (hS y hy) (hS x hx) hyz (by simp [hxy])
    · rw [hlength]
      refine ⟨.refl _, ?_⟩
      refine (pairwise_take_chainLength fun x hx y hy z hz hxy hyz => ?_).imp (by simp)
      rw [bne_iff_ne] at hxy hyz ⊢
      exact fun hzx => hxy (h.lt_of_le_of_lt (hS y hy) (hS z hz) (hS x hx)
        (h.ne_gt_of_ne_lt (hS z hz) (hS y hy) hyz) hzx)
  · rename_i hshort
    rw [List.take_length]
    refine ⟨.refl _, ?_⟩
    rcases items with _ | ⟨a, _ | ⟨b, rest⟩⟩
    · exact .nil
    · exact List.pairwise_singleton _ a
    · exact absurd rfl (hshort a b rest)

/-- A run that is said to be sorted is. -/
def Run.InOrder (cmp : α → α → Ordering) (run : Run α) : Prop :=
  run.sorted → run.items.Pairwise fun a b => ¬ cmp b a = .lt

theorem exists_firstRun? (h : TotalPreorderOn cmp S) (hS : ∀ a ∈ items, a ∈ S) (eager : Bool)
    (enough : Nat) : ∃ run, firstRun? cmp eager enough items = some run ∧
      Rearranged cmp S (items.take run.items.length) run.items ∧ run.InOrder cmp := by
  have htake : ∀ n, ∀ a ∈ items.take n, a ∈ S := fun n a ha => hS a (List.mem_of_mem_take ha)
  dsimp only [firstRun?]
  split
  · have hsorts := sorts_existingRun h hS
    exact ⟨_, rfl, hsorts.toRearranged, fun _ => hsorts.in_order⟩
  · split
    · rw [small?_eq h (htake smallLength)]
      have hsorts := sorts_insertion h (htake smallLength)
      refine ⟨_, rfl, ?_, fun _ => hsorts.in_order⟩
      rw [hsorts.perm.length_eq, List.length_take, ← List.take_eq_take_min]
      exact hsorts.toRearranged
    · refine ⟨_, rfl, ?_, nofun⟩
      rw [List.length_take, ← List.take_eq_take_min]
      exact .refl _

theorem exists_runs? (h : TotalPreorderOn cmp S) (hS : ∀ a ∈ items, a ∈ S) (eager : Bool)
    (enough : Nat) : ∃ runs, runs? cmp eager enough items = some runs ∧
      Rearranged cmp S items (runs.flatMap (·.items)) ∧ ∀ run ∈ runs, run.InOrder cmp := by
  induction items using runs?.induct with
  | case1 => exact ⟨[], by rw [runs?], .refl _, nofun⟩
  | case2 a rest ih =>
    obtain ⟨hdrop, -⟩ := List.forall_mem_cons.mp hS
    obtain ⟨run, hrun, hmoved, horder⟩ := exists_firstRun? h hS eager enough
    obtain ⟨later, hlater, hmoved', horder'⟩ := ih run fun b hb =>
      hS b (List.mem_cons_of_mem a (List.mem_of_mem_drop hb))
    have hpos := (firstRun?_perm hrun).2 (by simp)
    refine ⟨run :: later, by rw [runs?, hrun]; simp [hlater], ?_,
      List.forall_mem_cons.mpr ⟨horder, horder'⟩⟩
    rw [List.flatMap_cons]
    nth_rewrite 1 [← List.take_append_drop run.items.length (a :: rest)]
    rw [List.drop_cons hpos]
    exact hmoved.append hmoved'

/-! ## Merging them -/

/-- Items of `S` are sorted as by insertion. -/
def SortsAll (cmp : α → α → Ordering) (S : Set α) (sort? : List α → Option (List α)) : Prop :=
  ∀ items, (∀ a ∈ items, a ∈ S) → sort? items = some (insertion cmp items)

variable {sort? : List α → Option (List α)}

theorem Run.exists_inOrder? (h : TotalPreorderOn cmp S) (hsort : SortsAll cmp S sort?) {run : Run α}
    (hS : ∀ a ∈ run.items, a ∈ S) (hrun : run.InOrder cmp) :
    ∃ sorted, run.inOrder? sort? = some sorted ∧ Sorts cmp S run.items sorted := by
  unfold inOrder?
  split
  · rename_i hsorted
    exact ⟨_, rfl, .refl _, hrun hsorted⟩
  · exact ⟨_, hsort _ hS, sorts_insertion h hS⟩

theorem Run.exists_join? (h : TotalPreorderOn cmp S) (hsort : SortsAll cmp S sort?)
    {left right : Run α} (hl : ∀ a ∈ left.items, a ∈ S) (hr : ∀ a ∈ right.items, a ∈ S)
    (hleft : left.InOrder cmp) (hright : right.InOrder cmp) :
    ∃ run, left.join? cmp sort? right = some run ∧
      Rearranged cmp S (left.items ++ right.items) run.items ∧ run.InOrder cmp := by
  unfold join?
  split
  · obtain ⟨xs, hxs, hxsSorts⟩ := exists_inOrder? h hsort hl hleft
    obtain ⟨ys, hys, hysSorts⟩ := exists_inOrder? h hsort hr hright
    have hmerge := sorts_merge h (hxsSorts.forall_mem hl) (hysSorts.forall_mem hr)
      hxsSorts.in_order hysSorts.in_order
    exact ⟨⟨merge cmp xs ys, true⟩, by rw [hxs, hys]; rfl,
      (hxsSorts.toRearranged.append hysSorts.toRearranged).trans hmerge.toRearranged,
      fun _ => hmerge.in_order⟩
  · exact ⟨_, rfl, .refl _, nofun⟩

theorem exists_collapse? (h : TotalPreorderOn cmp S) (hsort : SortsAll cmp S sort?) (depth : Nat)
    {before : List (Run α × Nat)} {run : Run α} (hS : ∀ a ∈ laidOut before ++ run.items, a ∈ S)
    (hbefore : ∀ r ∈ before, r.1.InOrder cmp) (hrun : run.InOrder cmp) :
    ∃ merged left, collapse? cmp sort? depth before run = some (merged, left) ∧
      Rearranged cmp S (laidOut before ++ run.items) (laidOut left ++ merged.items) ∧
      (∀ r ∈ left, r.1.InOrder cmp) ∧ merged.InOrder cmp := by
  induction before generalizing run with
  | nil => exact ⟨run, [], rfl, .refl _, nofun, hrun⟩
  | cons last earlier ih =>
    obtain ⟨last, d⟩ := last
    obtain ⟨hlast, hearlier⟩ := List.forall_mem_cons.mp hbefore
    rw [collapse?]
    split
    · rw [laidOut, List.append_assoc] at hS ⊢
      obtain ⟨hearlierS, hjoinS⟩ := List.forall_mem_append.mp hS
      obtain ⟨hlastS, hrunS⟩ := List.forall_mem_append.mp hjoinS
      obtain ⟨joined, hjoined, hmoved, hjoinedOrder⟩ :=
        Run.exists_join? h hsort hlastS hrunS hlast hrun
      obtain ⟨merged, left, hmerged, hmoved', hleft, horder⟩ := ih
        (List.forall_mem_append.mpr ⟨hearlierS, hmoved.forall_mem hjoinS⟩) hearlier hjoinedOrder
      exact ⟨merged, left, by rw [hjoined]; exact hmerged, (hmoved.append_left _).trans hmoved',
        hleft, horder⟩
    · exact ⟨run, _, rfl, .refl _, hbefore, hrun⟩

theorem exists_mergeRuns? (h : TotalPreorderOn cmp S) (hsort : SortsAll cmp S sort?)
    (total start : Nat) {before : List (Run α × Nat)} {run : Run α} {later : List (Run α)}
    (hS : ∀ a ∈ laidOut before ++ run.items ++ later.flatMap (·.items), a ∈ S)
    (hbefore : ∀ r ∈ before, r.1.InOrder cmp) (hrun : run.InOrder cmp)
    (hlater : ∀ r ∈ later, r.InOrder cmp) :
    ∃ merged, mergeRuns? cmp sort? total start before run later = some merged ∧
      Rearranged cmp S (laidOut before ++ run.items ++ later.flatMap (·.items)) merged.items ∧
      merged.InOrder cmp := by
  induction later generalizing start before run with
  | nil =>
    rw [List.flatMap_nil, List.append_nil] at hS ⊢
    obtain ⟨merged, left, hmerged, hmoved, -, horder⟩ :=
      exists_collapse? h hsort 0 hS hbefore hrun
    rw [collapse?_zero hmerged] at hmoved
    exact ⟨merged, by rw [mergeRuns?, hmerged]; rfl, hmoved, horder⟩
  | cons next later ih =>
    obtain ⟨hfrontS, hlaterS⟩ := List.forall_mem_append.mp hS
    obtain ⟨hnext, hlater⟩ := List.forall_mem_cons.mp hlater
    let depth := mergeDepth total start (start + run.items.length)
      (start + run.items.length + next.items.length)
    obtain ⟨joined, left, hjoined, hmoved, hleft, horder⟩ :=
      exists_collapse? h hsort depth hfrontS hbefore hrun
    rw [List.flatMap_cons, ← List.append_assoc] at hS ⊢
    have hmoved' := (hmoved.append_right next.items).append_right (later.flatMap (·.items))
    have hlaid : ∀ a ∈ laidOut ((joined, depth) :: left) ++ next.items ++
        later.flatMap (·.items), a ∈ S := hmoved'.forall_mem hS
    obtain ⟨merged, hmerged, hmoved'', hmergedOrder⟩ := ih (start + run.items.length) hlaid
      (List.forall_mem_cons.mpr ⟨horder, hleft⟩) hnext hlater
    exact ⟨merged, by rw [mergeRuns?, hjoined]; exact hmerged, hmoved'.trans hmoved'', hmergedOrder⟩

/-- If items are ordered, sorting by runs gives what insertion gives. -/
theorem byRuns?_eq (h : TotalPreorderOn cmp S) (hsort : SortsAll cmp S sort?) (eager : Bool)
    (hS : ∀ a ∈ items, a ∈ S) : byRuns? cmp sort? eager items = some (insertion cmp items) := by
  obtain ⟨runs, hruns, hmoved, horder⟩ := exists_runs? h hS eager (enoughFor items.length)
  rw [byRuns?, hruns]
  cases runs with
  | nil =>
    obtain rfl := hmoved.perm.symm.eq_nil
    rfl
  | cons first later =>
    obtain ⟨hfirst, hlater⟩ := List.forall_mem_cons.mp horder
    rw [List.flatMap_cons] at hmoved
    have hall : ∀ a ∈ laidOut [] ++ first.items ++ later.flatMap (·.items), a ∈ S :=
      hmoved.forall_mem hS
    obtain ⟨run, hrun, hmoved', hrunOrder⟩ :=
      exists_mergeRuns? h hsort items.length 0 hall nofun hfirst hlater
    obtain ⟨sorted, hsorted, hsorts⟩ := run.exists_inOrder? h hsort
      (hmoved'.forall_mem hall) hrunOrder
    have hitems := (hsorts.of_rearranged hmoved').of_rearranged hmoved
    rw [← hitems.eq_insertion h hS]
    simp [hrun, hsorted]

end DocUpdate.StableSort
