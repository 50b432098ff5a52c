import DocUpdate.Proofs.Path.Writing
import DocUpdate.Proofs.Update.InOrder
import DocUpdate.Proofs.Update.Items
import DocUpdate.Proofs.Update.Plan

/-!
# What adding items does

Operators that add items find an array or create one, and what they make of its items is
written there. Pushing puts new items among the others, sorts all of them and keeps some.
-/

namespace DocUpdate

/-! ## The array -/

/-- The items there are before some are added: those of the array at the path, or none where an
array can be created. -/
inductive Fields.ItemsAt (doc : Fields) (p : Path) : List Value → Prop where
  | present {items : List Value} (read : doc.read p = .ok (some (.array items))) :
    ItemsAt doc p items
  | missing (read : doc.read p = .ok none) (unobstructed : ¬ doc.Obstructs p) : ItemsAt doc p []

theorem Planned.forWrite_of_free {place : Place} (h : place.fault? = none) (p : Path)
    (next : Option Value → Planned) : forWrite p place next = next place.value? := by
  cases place with
  | blocked walk => cases h
  | _ => rfl

/-- Adding items succeeds and puts the array that they end up in. -/
theorem Planned.exists_run_grow {doc : Fields} {p : Path} {items result : List Value}
    (h : doc.ItemsAt p items) (op : Operator) {edit : ItemsEdit}
    (hresult : edit.result? items = some result) : ∃ changed after,
    (grow op p (doc.place p) edit).run doc = .ok changed after ∧
      doc.Put p (.array result) after := by
  cases h with
  | present read =>
    rw [Fields.read_eq, Place.read_eq_found_iff] at read
    refine ⟨edit.changed items result, _, ?_, Fields.put_change (by rw [read]; rfl) _⟩
    rw [read]
    simp only [grow, forWrite, Place.value?, edited, hresult]
    rfl
  | missing read unobstructed =>
    have hfree : (doc.place p).fault? = none := Fields.fault?_eq_none_iff.mpr unobstructed
    refine ⟨true, _, ?_, Fields.put_change hfree _⟩
    rw [Fields.read_eq] at read
    simp only [grow, forWrite_of_free hfree, Place.value?_of_read read, created, hfree, hresult]
    rfl

namespace Push

variable {p : Push} {items : List Value}

/-- Where new items go: to the end, or to a position that is counted from the end if negative.
Behind the ends it is moved to them. -/
def InsertsAt (p : Push) (length k : Nat) : Prop :=
  match p.position with
  | none => k = length
  | some n => (k : Int) = max 0 (min (length : Int) (if n < 0 then length + n else n))

def Sorts (p : Push) (items sorted : List Value) : Prop :=
  match p.sort with
  | none => sorted = items
  | some sorting => StablySorted sorting.Before items sorted

/-- What is kept: all items, so many of the first, or so many of the last for a negative
number. -/
def Keeps (p : Push) (items kept : List Value) : Prop :=
  match p.slice with
  | none => kept = items
  | some n => kept.length = min n.natAbs items.length ∧
      if n < 0 then kept.IsSuffix items else kept.IsPrefix items

/-- The new items are inserted, then all are sorted, then some are kept. -/
def Makes (p : Push) (items result : List Value) : Prop :=
  ∃ k sorted, p.InsertsAt items.length k ∧
    p.Sorts (items.take k ++ p.each ++ items.drop k) sorted ∧ p.Keeps sorted result

/-- The keys that items are sorted by do not mix doubles and decimals. -/
def KeysUnmixed (p : Push) (items : List Value) : Prop :=
  ∀ sorting, p.sort = some sorting → Value.Unmixed {key | key ∈ items.flatMap sorting.keysOf}

theorem insertsAt_iff {length k : Nat} :
    p.InsertsAt length k ↔ k = insertionPoint length p.position := by
  unfold InsertsAt insertionPoint
  cases p.position with
  | none => exact Iff.rfl
  | some n =>
    dsimp only
    split <;> omega

/-- Where items come from does not matter to their keys. -/
theorem KeysUnmixed.perm {items' : List Value} (h : p.KeysUnmixed items)
    (hperm : items'.Perm items) : p.KeysUnmixed items' := fun sorting hsort =>
  (h sorting hsort).mono fun _ hkey => (hperm.flatMap_right _).subset hkey

theorem sorts_iff (h : p.KeysUnmixed (items ++ p.each)) {sorted : List Value} :
    p.Sorts (p.inserted items) sorted ↔ p.sorted? items = some sorted := by
  have hinserted : p.KeysUnmixed (p.inserted items) := h.perm (p.inserted_perm items)
  unfold Sorts sorted?
  cases hsort : p.sort with
  | none => exact eq_comm.trans Option.some_inj.symm
  | some sorting =>
    exact Sorting.stablySorted_iff (Sorting.totalPreorderOn_of_unmixed (hinserted sorting hsort))

theorem keeps_iff {kept : List Value} : p.Keeps items kept ↔ kept = p.sliced items := by
  unfold Keeps sliced keep
  cases p.slice with
  | none => exact Iff.rfl
  | some n =>
    dsimp only
    split
    · constructor
      · rintro ⟨hlength, hsuffix⟩
        have hstart : items.length - kept.length = items.length - n.natAbs := by omega
        rw [← hstart]
        exact List.suffix_iff_eq_drop.mp hsuffix
      · rintro rfl
        exact ⟨by rw [List.length_drop]; omega, List.drop_suffix _ _⟩
    · have hn : n.toNat = n.natAbs := by omega
      rw [hn]
      constructor
      · rintro ⟨hlength, hprefix⟩
        rw [List.take_eq_take_min, ← hlength]
        exact List.prefix_iff_eq_take.mp hprefix
      · rintro rfl
        exact ⟨List.length_take, List.take_prefix _ _⟩

/-- What pushing is to make of items is what it makes of them, and nothing else. -/
theorem makes_iff (h : p.KeysUnmixed (items ++ p.each)) {result : List Value} :
    p.Makes items result ↔ p.result? items = some result := by
  rw [result?, Option.map_eq_some_iff]
  constructor
  · rintro ⟨k, sorted, hk, hsorted, hkept⟩
    obtain rfl := insertsAt_iff.mp hk
    exact ⟨sorted, (sorts_iff h).mp hsorted, (keeps_iff.mp hkept).symm⟩
  · rintro ⟨sorted, hsorted, hkept⟩
    exact ⟨_, sorted, insertsAt_iff.mpr rfl, (sorts_iff h).mpr hsorted, keeps_iff.mpr hkept.symm⟩

theorem exists_result (h : p.KeysUnmixed (items ++ p.each)) :
    ∃ result, p.result? items = some result := by
  have hsorted : ∃ sorted, p.sorted? items = some sorted := by
    unfold sorted?
    cases hsort : p.sort with
    | none => exact ⟨_, rfl⟩
    | some sorting =>
      have hinserted := h.perm (p.inserted_perm items) sorting hsort
      exact ⟨_, StableSort.sort?_eq (Sorting.totalPreorderOn_of_unmixed hinserted)⟩
  obtain ⟨sorted, hsorted⟩ := hsorted
  exact ⟨p.sliced sorted, by rw [result?, hsorted, Option.map_some]⟩

end Push

namespace Edit

/-- Pushing into an array, or where one can be created, succeeds. The array at the path is then
what inserting the new items, sorting stably and keeping some makes of it, and nothing else
changes but what has to be created on the way. -/
theorem push_makes {doc : Fields} {path : Path} {p : Push} {items : List Value}
    (hitems : doc.ItemsAt path items) (hkeys : p.KeysUnmixed (items ++ p.each)) :
    ∃ changed after result, push path p doc = .ok changed after ∧
      (∀ other, p.Makes items other ↔ other = result) ∧ doc.Put path (.array result) after := by
  obtain ⟨result, hresult⟩ := Push.exists_result hkeys
  have hedit : (ItemsEdit.push p).result? items = some result := hresult
  obtain ⟨changed, after, hrun, hput⟩ := Planned.exists_run_grow hitems .push hedit
  refine ⟨changed, after, result, (follows_push p doc).trans hrun, fun other => ?_, hput⟩
  rw [Push.makes_iff hkeys, hresult, Option.some_inj, eq_comm]

/-- Two items with the same score keep their order, and the null is sorted to the front and
dropped. -/
theorem push_before_last :
    let path : Path := ⟨⟨"a", by decide, by decide⟩, [⟨"1", by decide, by decide⟩]⟩
    let score : Path := ⟨⟨"s", by decide, by decide⟩, []⟩
    let item : Int32 → Int32 → Value := fun s t => .document [("s", .int32 s), ("t", .int32 t)]
    let doc : Fields := [("a", .array [.null, .array [item 2 0, item 1 0]])]
    let p : Push := ⟨[item 1 1, .null], some (-1), some (.byFields [⟨score, .ascending⟩]),
      some (-3)⟩
    let after : Fields := [("a", .array [.null, .array [item 1 1, item 1 0, item 2 0]])]
    doc.ItemsAt path [item 2 0, item 1 0] ∧ p.KeysUnmixed ([item 2 0, item 1 0] ++ p.each) ∧
      (∃ changed, push path p doc = .ok changed after) ∧
      p.Makes [item 2 0, item 1 0] [item 1 1, item 1 0, item 2 0] := by
  intro path score item doc p after
  have hitems : doc.ItemsAt path [item 2 0, item 1 0] := .present rfl
  have hkeys : p.KeysUnmixed ([item 2 0, item 1 0] ++ p.each) := by
    rintro _ ⟨⟩
    refine .inl fun key hkey => ?_
    have hkey : key ∈ [Value.int32 2, .int32 1, .int32 1, .null] := hkey
    simp only [List.mem_cons, List.not_mem_nil, or_false] at hkey
    rcases hkey with rfl | rfl | rfl | rfl <;> exact Value.not_holds_of_plain rfl (by decide)
  obtain ⟨changed, left, result, hrun, hmakes, hput⟩ := push_makes hitems hkeys
  obtain rfl : left = after := by
    have hleft : push path p doc = .ok true after := rfl
    rw [hrun] at hleft
    cases hleft
    rfl
  obtain rfl : result = [item 1 1, item 1 0, item 2 0] := by
    have hread : after.read path = .ok (some (.array [item 1 1, item 1 0, item 2 0])) := rfl
    rw [hput.at_path] at hread
    cases hread
    rfl
  exact ⟨hitems, hkeys, ⟨changed, hrun⟩, (hmakes _).mpr rfl⟩

end Edit

end DocUpdate
