import DocUpdate.Proofs.Update.Order
import DocUpdate.Proofs.Value.Keys

/-!
# The order of fields

A mutation takes fields from their places or adds one behind the others, and which ones it does
is known before the run. So the fields of the document itself stay in order, and those that are
new come in the order of the mutations that add them first.
-/

namespace DocUpdate

/-! ## Adding keys -/

def addKeys (keys ks : List String) : List String := ks.foldl addKey keys

section

variable {keys ks ls : List String} {k : String}

theorem addKeys_append : addKeys keys (ks ++ ls) = addKeys (addKeys keys ks) ls :=
  List.foldl_append

theorem removeAll_append (keys : List String) (ks ls : List String) :
    keys.removeAll (ks ++ ls) = (keys.removeAll ks).removeAll ls := by
  induction ks generalizing keys with
  | nil => rw [List.nil_append, List.removeAll_nil]
  | cons k ks ih => rw [List.cons_append, List.removeAll_cons, ih, List.removeAll_cons]

theorem mem_removeAll {l : String} : l ∈ keys.removeAll ks ↔ l ∈ keys ∧ l ∉ ks := by
  simp [List.removeAll]

/-- New keys come behind the others, each where it is added first. -/
theorem addKeys_eq (keys ks : List String) :
    addKeys keys ks = keys ++ (ks.removeAll keys).eraseDups := by
  induction ks generalizing keys with
  | nil => exact (List.append_nil keys).symm
  | cons k ks ih =>
    have hcons : addKeys keys (k :: ks) = addKeys (addKey keys k) ks := rfl
    rw [hcons, ih, List.cons_removeAll]
    by_cases h : k ∈ keys
    · rw [addKey_of_mem h, if_neg (by simpa using h)]
    · rw [addKey_of_notMem h, if_pos (by simpa using h), List.eraseDups_cons, removeAll_append,
        List.removeAll_cons, List.removeAll_nil, List.append_assoc, List.singleton_append]

theorem removeAll_addKeys (h : ∀ k ∈ ks, k ∉ ls) :
    (addKeys keys ks).removeAll ls = addKeys (keys.removeAll ls) ks := by
  induction ks generalizing keys with
  | nil => rfl
  | cons k ks ih =>
    have hk := h k List.mem_cons_self
    have hfirst : (addKey keys k).removeAll ls = addKey (keys.removeAll ls) k := by
      by_cases hmem : k ∈ keys
      · rw [addKey_of_mem hmem, addKey_of_mem (mem_removeAll.mpr ⟨hmem, hk⟩)]
      · rw [addKey_of_notMem hmem, addKey_of_notMem fun hin => hmem (mem_removeAll.mp hin).1,
          List.removeAll, List.filter_append, List.filter_cons_of_pos (by simpa using hk),
          List.filter_nil]
        rfl
    have hrest := @ih (addKey keys k) fun l hl => h l (List.mem_cons_of_mem k hl)
    rw [hfirst] at hrest
    exact hrest

end

/-! ## Keys of a changed document -/

namespace Fields

/-- A change takes the first field of its path away if it empties its place, and else it is there
afterwards. -/
theorem keys_change (doc : Fields) (c : Change) : (doc.change c).keys =
    if c.path.tail = [] ∧ c.value = none then doc.keys.removeAll [c.path.head.name]
    else addKey doc.keys c.path.head.name := by
  unfold change alter
  cases htail : c.path.tail with
  | cons s rest =>
    rw [if_neg (by simp)]
    exact keys_insert doc _ _
  | nil =>
    cases hvalue : c.value with
    | none =>
      rw [if_pos ⟨rfl, rfl⟩]
      exact keys_erase doc _
    | some v =>
      rw [if_neg (by simp)]
      exact keys_insert doc _ _

theorem keys_change_some (doc : Fields) (p : Path) (v : Value) :
    (doc.change ⟨p, some v⟩).keys = addKey doc.keys p.head.name := by
  rw [keys_change, if_neg (by simp)]

theorem keys_change_none {p : Path} (h : p.tail = []) (doc : Fields) :
    (doc.change ⟨p, none⟩).keys = doc.keys.removeAll [p.head.name] := by
  rw [keys_change, if_pos ⟨h, rfl⟩]

theorem contains_iff {doc : Fields} {key : String} : doc.contains key = true ↔ key ∈ doc.keys := by
  rw [contains, Option.isSome_iff_ne_none, Ne, get?_eq_none_iff, not_not]

theorem place_of_notMem {doc : Fields} {p : Path} (h : p.head.name ∉ doc.keys) :
    doc.place p = .missing := by
  rw [place_eq, (get?_eq_none_iff doc _).mpr h]

theorem mem_keys_of_found {doc : Fields} {p : Path} {v : Value} (h : doc.place p = .found v) :
    p.head.name ∈ doc.keys := by
  by_contra hnone
  rw [place_of_notMem hnone] at h
  cases h

theorem place_of_top {p : Path} (h : p.tail = []) (doc : Fields) :
    doc.place p = match doc.get? p.head.name with
      | some v => .found v
      | none => .missing := by
  rw [place_eq, h]
  rfl

theorem contains_of_place_eq {doc mid : Fields} {p : Path} (h : p.tail = [])
    (hplace : mid.place p = doc.place p) :
    mid.contains p.head.name = doc.contains p.head.name := by
  rw [place_of_top h, place_of_top h] at hplace
  rw [contains, contains]
  cases hmid : mid.get? p.head.name <;> cases hdoc : doc.get? p.head.name <;>
    simp_all

end Fields

/-! ## What a mutation does to the keys -/

/-- The plan writes one value at the path or nothing at all. -/
def Plan.WritesAt (path : Path) (plan : Plan) : Prop :=
  plan.changes = [] ∨ ∃ v, plan.changes = [⟨path, some v⟩]

theorem Plan.writesAt_keep {path : Path} : Plan.WritesAt path ⟨false, []⟩ := .inl rfl

theorem Plan.writesAt_put {path : Path} {changed : Bool} {v : Value} :
    Plan.WritesAt path ⟨changed, [⟨path, some v⟩]⟩ := .inr ⟨v, rfl⟩

theorem Plan.WritesAt.keys_eq {path : Path} {plan : Plan} (h : plan.WritesAt path) {doc : Fields}
    (hin : path.head.name ∈ doc.keys) : (doc.changeAll plan.changes).keys = doc.keys := by
  rcases h with hkept | ⟨v, hput⟩
  · rw [hkept]
    rfl
  · rw [hput]
    exact (Fields.keys_change_some doc _ v).trans (addKey_of_mem hin)

namespace Mutation

/-- Whether a mutation puts a value where there is none. -/
def creates (options : Options) (m : Mutation) : Bool :=
  match m.action with
  | .unset | .rename _ | .pop _ | .pull _ | .pullAll _ => false
  | .setOnInsert _ => options.isInsert
  | _ => true

/-- The fields of the document itself that a mutation takes from their places. -/
def dropped (doc : Fields) (m : Mutation) : List String :=
  match m.action with
  | .unset => if m.path.tail = [] then [m.path.head.name] else []
  | .rename target =>
    if doc.contains m.path.head.name then [m.path.head.name, target.head.name] else []
  | _ => []

/-- The field of the document itself that a mutation adds if it is not there. -/
def opened (options : Options) (doc : Fields) (m : Mutation) : Option String :=
  match m.action with
  | .rename target => if doc.contains m.path.head.name then some target.head.name else none
  | _ => if m.creates options then some m.path.head.name else none

variable {options : Options} {m : Mutation} {doc after : Fields} {changed : Bool}

/-- Where nothing is, a mutation writes a value if it creates, and does nothing else. -/
theorem gives_missing (options : Options) (m : Mutation) :
    (m.plan options .missing).Gives fun plan =>
      plan.changes = [] ∧ m.creates options = false ∨
        ∃ v, plan.changes = [⟨m.path, some v⟩] ∧ m.creates options = true := by
  unfold Mutation.plan creates
  cases ha : m.action
  case set | currentDate | inc | min | max => exact .inr ⟨_, rfl, rfl⟩
  case addToSet | push =>
    dsimp only [Planned.grow, Planned.forWrite, Place.value?]
    exact Planned.gives_created fun _ _ _ => .inr ⟨_, rfl, rfl⟩
  case unset | rename | pop | pull | pullAll => exact .inl ⟨rfl, rfl⟩
  case setOnInsert value =>
    cases hinsert : options.isInsert with
    | true => exact .inr ⟨_, rfl, rfl⟩
    | false => exact .inl ⟨rfl, rfl⟩
  case mul factor =>
    dsimp only [Planned.mul, Planned.forWrite, Place.value?]
    split
    · exact .inr ⟨_, rfl, rfl⟩
    · exact Planned.gives_error rfl
  case bit steps =>
    dsimp only [Planned.bit, Planned.forWrite, Place.value?, Planned.bitFrom]
    split
    · exact .inr ⟨_, rfl, rfl⟩
    · exact Planned.gives_error rfl

/-- Apart from renaming and removing, a mutation writes a value at its path or does nothing. -/
theorem gives_writesAt (options : Options) {m : Mutation} (place : Place)
    (hunset : m.action ≠ .unset) (hrename : ∀ target, m.action ≠ .rename target) :
    (m.plan options place).Gives (Plan.WritesAt m.path) := by
  unfold Mutation.plan
  cases ha : m.action
  case unset => exact absurd ha hunset
  case rename target => exact absurd ha (hrename target)
  case set | currentDate =>
    exact Planned.gives_setValue (fun _ _ _ => Plan.writesAt_keep) fun _ => Plan.writesAt_put
  case setOnInsert value =>
    dsimp only
    split
    · exact Planned.gives_setValue (fun _ _ _ => Plan.writesAt_keep) fun _ => Plan.writesAt_put
    · exact Plan.writesAt_keep
  case inc amount =>
    exact Planned.gives_inc Plan.writesAt_keep Plan.writesAt_put fun _ _ => Plan.writesAt_put
  case mul factor => exact Planned.gives_mul Plan.writesAt_keep fun _ _ => Plan.writesAt_put
  case min | max =>
    exact Planned.gives_bound (fun _ _ _ _ => Plan.writesAt_keep) fun _ => Plan.writesAt_put
  case bit steps => exact Planned.gives_bit Plan.writesAt_keep fun _ _ => Plan.writesAt_put
  case addToSet | push =>
    exact Planned.gives_grow (fun _ _ _ => Plan.writesAt_put) fun _ _ _ _ => Plan.writesAt_put
  case pop | pull | pullAll =>
    exact Planned.gives_shrink Plan.writesAt_keep fun _ _ _ _ => Plan.writesAt_put

/-! ### One mutation -/

/-- Renaming takes both names from their places and adds the new one. -/
theorem keys_rename {target : Path} (ha : m.action = .rename target) (hm : m.RenamesTop)
    {plan : Plan} (hplan : m.plan options (doc.place m.path) = .ok plan) :
    (doc.changeAll plan.changes).keys =
      addKeys (doc.keys.removeAll (m.dropped doc)) (m.opened options doc).toList := by
  obtain ⟨hsource, htarget, -⟩ := hm target ha
  rw [Mutation.plan, ha] at hplan
  rw [dropped, opened, ha]
  dsimp only at hplan ⊢
  by_cases hin : m.path.head.name ∈ doc.keys
  · have hfound := (Fields.get?_eq_none_iff doc _).not_left.mpr hin
    obtain ⟨v, hv⟩ := Option.ne_none_iff_exists'.mp hfound
    rw [Fields.place_of_top hsource, hv] at hplan
    cases hplan
    rw [if_pos (Fields.contains_iff.mpr hin), if_pos (Fields.contains_iff.mpr hin),
      Fields.changeAll_cons, Fields.changeAll_cons, Fields.changeAll_cons]
    show (Fields.change _ _).keys = _
    rw [Fields.keys_change_some, Fields.keys_change_none htarget, Fields.keys_change_none hsource,
      ← removeAll_append]
    rfl
  · rw [Fields.place_of_notMem hin] at hplan
    cases hplan
    rw [if_neg (Fields.contains_iff.not.mpr hin), if_neg (Fields.contains_iff.not.mpr hin),
      List.removeAll_nil]
    rfl

theorem keys_unset (ha : m.action = .unset) {plan : Plan}
    (hplan : m.plan options (doc.place m.path) = .ok plan) :
    (doc.changeAll plan.changes).keys =
      addKeys (doc.keys.removeAll (m.dropped doc)) (m.opened options doc).toList := by
  have hopened : m.opened options doc = none := by
    rw [opened, creates, ha]
    rfl
  have hdropped : m.dropped doc = if m.path.tail = [] then [m.path.head.name] else [] := by
    rw [dropped, ha]
  rw [Mutation.plan, ha] at hplan
  dsimp only [Planned.remove] at hplan
  rw [hopened, hdropped]
  show _ = doc.keys.removeAll _
  cases hplace : (doc.place m.path).value? with
  | some v =>
    rw [hplace] at hplan
    cases hplan
    have hin := Fields.mem_keys_of_found (Place.value?_eq_some_iff.mp hplace)
    show (doc.change _).keys = _
    rw [Fields.keys_change]
    by_cases htop : m.path.tail = []
    · rw [if_pos ⟨htop, rfl⟩, if_pos htop]
    · rw [if_neg fun h => htop h.1, if_neg htop, addKey_of_mem hin, List.removeAll_nil]
  | none =>
    rw [hplace] at hplan
    cases hplan
    show doc.keys = _
    by_cases htop : m.path.tail = []
    · -- Removing a field that is not there changes nothing.
      rw [if_pos htop, ← Fields.keys_change_none htop, Fields.change_none_of_top htop hplace]
    · rw [if_neg htop, List.removeAll_nil]

theorem keys_other (hunset : m.action ≠ .unset) (hrename : ∀ target, m.action ≠ .rename target)
    {plan : Plan} (hplan : m.plan options (doc.place m.path) = .ok plan) :
    (doc.changeAll plan.changes).keys =
      addKeys (doc.keys.removeAll (m.dropped doc)) (m.opened options doc).toList := by
  have hdropped : m.dropped doc = [] := by
    unfold dropped
    split
    · exact absurd ‹_› hunset
    · exact absurd ‹_› (hrename _)
    · rfl
  have hopened : m.opened options doc =
      if m.creates options then some m.path.head.name else none := by
    unfold opened
    split
    · exact absurd ‹_› (hrename _)
    · rfl
  rw [hdropped, hopened, List.removeAll_nil]
  by_cases hin : m.path.head.name ∈ doc.keys
  · have hright : addKeys doc.keys (if m.creates options then some m.path.head.name
        else none).toList = doc.keys := by
      cases m.creates options with
      | true => exact addKey_of_mem hin
      | false => rfl
    rw [hright]
    exact ((gives_writesAt options _ hunset hrename).of_ok hplan).keys_eq hin
  · rw [Fields.place_of_notMem hin] at hplan
    rcases (gives_missing options m).of_ok hplan with ⟨hkept, hcreates⟩ | ⟨v, hput, hcreates⟩
    · rw [hkept, hcreates]
      rfl
    · rw [hput, hcreates]
      exact Fields.keys_change_some doc _ v

/-- A mutation drops some keys and adds at most one, both known before. -/
theorem keys_apply (hm : m.RenamesTop) (h : m.apply options doc = .ok changed after) :
    after.keys = addKeys (doc.keys.removeAll (m.dropped doc)) (m.opened options doc).toList := by
  rw [apply_eq hm] at h
  obtain ⟨plan, hplan, -, rfl⟩ := Planned.run_eq_ok.mp h
  by_cases hunset : m.action = .unset
  · exact keys_unset hunset hplan
  · by_cases hrename : ∃ target, m.action = .rename target
    · obtain ⟨target, ha⟩ := hrename
      exact keys_rename ha hm hplan
    · exact keys_other hunset (not_exists.mp hrename) hplan

/-! ### Mutations apart -/

theorem exists_claim_of_opened {k : String} (h : m.opened options doc = some k) :
    ∃ p ∈ m.claims, p.head.name = k := by
  unfold opened at h
  split at h
  · rename_i target ha
    rw [Option.ite_none_right_eq_some, Option.some.injEq] at h
    exact ⟨target, by simp [claims, ha], h.2⟩
  · rw [Option.ite_none_right_eq_some, Option.some.injEq] at h
    exact ⟨m.path, m.path_mem_claims, h.2⟩

theorem exists_claim_of_dropped (hm : m.RenamesTop) {k : String} (h : k ∈ m.dropped doc) :
    ∃ p ∈ m.claims, p.tail = [] ∧ p.head.name = k := by
  unfold dropped at h
  split at h
  · split at h
    · exact ⟨m.path, m.path_mem_claims, ‹_›, (List.mem_singleton.mp h).symm⟩
    · cases h
  · rename_i target ha
    obtain ⟨hsource, htarget, -⟩ := hm target ha
    split at h
    · rcases List.mem_cons.mp h with rfl | h
      · exact ⟨m.path, m.path_mem_claims, hsource, rfl⟩
      · exact ⟨target, by simp [claims, ha], htarget, (List.mem_singleton.mp h).symm⟩
    · cases h
  · cases h

/-- What one mutation adds another one that is apart does not drop. -/
theorem notMem_dropped_of_apart {n : Mutation} (hn : n.RenamesTop) (hapart : m.ApartFrom n)
    {mid : Fields} {k : String} (h : m.opened options doc = some k) : k ∉ n.dropped mid := by
  intro hdrop
  obtain ⟨p, hp, hpk⟩ := exists_claim_of_opened h
  obtain ⟨q, hq, htop, hqk⟩ := exists_claim_of_dropped hn hdrop
  -- A claim of one segment overlaps every path that starts with the same name.
  have hhead : p.head = q.head := Segment.ext_name (hpk.trans hqk.symm)
  have hagree : Path.agree (p.head :: p.tail) (q.head :: q.tail) = false := hapart p hp q hq
  rw [htop, hhead] at hagree
  rcases Path.agree_cons_eq_false.mp hagree with hne | htail
  · exact hne rfl
  · cases hp : p.tail <;> rw [hp] at htail <;> cases htail

theorem dropped_eq_of_place (hm : m.RenamesTop) {mid : Fields}
    (hsame : ∀ target, m.action = .rename target → mid.place m.path = doc.place m.path) :
    m.dropped mid = m.dropped doc := by
  unfold dropped
  split
  · rfl
  · rename_i target ha
    rw [Fields.contains_of_place_eq (hm target ha).1 (hsame target ha)]
  · rfl

theorem opened_eq_of_place (hm : m.RenamesTop) {mid : Fields}
    (hsame : ∀ target, m.action = .rename target → mid.place m.path = doc.place m.path) :
    m.opened options mid = m.opened options doc := by
  unfold opened
  split
  · rename_i target ha
    rw [Fields.contains_of_place_eq (hm target ha).1 (hsame target ha)]
  · rfl

end Mutation

/-! ## Runs -/

section

variable {options : Options} {m : Mutation} {ms ns : List Mutation} {doc after : Fields}
  {changed : Bool}

theorem place_applyAll_of_apart (hms : ∀ m ∈ ms, m.RenamesTop) {q : Path}
    (hq : ∀ m ∈ ms, ∀ p ∈ m.claims, p.Apart q) (hin : (doc.place q).Inside)
    (h : applyAll options ms doc = .ok changed after) : after.place q = doc.place q := by
  induction ms generalizing doc changed with
  | nil =>
    cases h
    rfl
  | cons m rest ih =>
    obtain ⟨first, mid, later, hm, hrest, -⟩ := applyAll_cons_ok h
    have hmid := Mutation.place_apply_of_apart (hms m List.mem_cons_self) hm
      (hq m List.mem_cons_self) hin
    rw [ih (fun n hn => hms n (List.mem_cons_of_mem m hn))
      (fun n hn => hq n (List.mem_cons_of_mem m hn)) (hmid ▸ hin) hrest, hmid]

theorem applyAll_append_cons_ok (h : applyAll options (ms ++ m :: ns) doc = .ok changed after) :
    ∃ c mid c' next c'', applyAll options ms doc = .ok c mid ∧ m.apply options mid = .ok c' next ∧
      applyAll options ns next = .ok c'' after := by
  induction ms generalizing doc changed with
  | nil =>
    obtain ⟨first, next, later, hm, hrest, -⟩ := applyAll_cons_ok h
    exact ⟨false, doc, first, next, later, rfl, hm, hrest⟩
  | cons n rest ih =>
    obtain ⟨first, start, later, hn, hrest, -⟩ := applyAll_cons_ok h
    obtain ⟨c, mid, c', next, c'', hdone, hm, hns⟩ := ih hrest
    exact ⟨first || c, mid, c', next, c'', applyAll_cons_of_ok hn hdone, hm, hns⟩

theorem place_source_of_applyAll (hm : m.RenamesTop) (hms : ∀ n ∈ ms, n.RenamesTop)
    (hapart : ∀ n ∈ ms, n.ApartFrom m) (h : applyAll options ms doc = .ok changed after)
    (target : Path) (ha : m.action = .rename target) : after.place m.path = doc.place m.path :=
  place_applyAll_of_apart hms (fun n hn p hp => hapart n hn p hp _ m.path_mem_claims)
    (Fields.inside_of_top (hm target ha).1 doc) h

/-- A run drops what its mutations drop and adds what they add, in their order. -/
theorem keys_applyAll (hms : ∀ m ∈ ms, m.RenamesTop) (hapart : ms.Pairwise Mutation.ApartFrom)
    (h : applyAll options ms doc = .ok changed after) :
    after.keys = addKeys (doc.keys.removeAll (ms.flatMap (Mutation.dropped doc)))
      (ms.filterMap (Mutation.opened options doc)) := by
  induction ms generalizing doc changed with
  | nil =>
    cases h
    exact List.removeAll_nil.symm
  | cons m rest ih =>
    obtain ⟨first, mid, later, hm, hrest, -⟩ := applyAll_cons_ok h
    obtain ⟨hfirst, hlater⟩ := List.pairwise_cons.mp hapart
    have hmtop := hms m List.mem_cons_self
    have htop : ∀ n ∈ rest, n.RenamesTop := fun n hn => hms n (List.mem_cons_of_mem m hn)
    -- `m` is apart from the rest, which therefore finds what it renames as it was.
    have hsame : ∀ n ∈ rest, ∀ target, n.action = .rename target →
        mid.place n.path = doc.place n.path := fun n hn target ha =>
      Mutation.place_apply_of_apart hmtop hm (fun p hp => hfirst n hn p hp _ n.path_mem_claims)
        (Fields.inside_of_top (htop n hn target ha).1 doc)
    have hdropped : rest.flatMap (Mutation.dropped mid) = rest.flatMap (Mutation.dropped doc) :=
      List.flatMap_congr fun n hn => Mutation.dropped_eq_of_place (htop n hn) (hsame n hn)
    have hopened : rest.filterMap (Mutation.opened options mid) =
        rest.filterMap (Mutation.opened options doc) :=
      List.filterMap_congr fun n hn => Mutation.opened_eq_of_place (htop n hn) (hsame n hn)
    have hcons : (m :: rest).filterMap (Mutation.opened options doc) =
        (m.opened options doc).toList ++ rest.filterMap (Mutation.opened options doc) := by
      rw [List.filterMap_cons]
      cases m.opened options doc <;> rfl
    have hkept : ∀ k ∈ (m.opened options doc).toList,
        k ∉ rest.flatMap (Mutation.dropped doc) := by
      intro k hk hdrop
      obtain ⟨n, hn, hdrop⟩ := List.mem_flatMap.mp hdrop
      exact Mutation.notMem_dropped_of_apart (htop n hn) (hfirst n hn)
        (Option.mem_toList.mp hk) hdrop
    rw [ih htop hlater hrest, hdropped, hopened, Mutation.keys_apply hmtop hm,
      removeAll_addKeys hkept, hcons, List.flatMap_cons, removeAll_append, addKeys_append]

theorem place_target_of_apply (hm : m.RenamesTop) {target : Path}
    (ha : m.action = .rename target) {v : Value} (hv : doc.place m.path = .found v)
    (h : m.apply options doc = .ok changed after) : after.place target = .found v := by
  obtain ⟨hsource, htarget, -⟩ := hm target ha
  rw [Mutation.apply_eq hm, Mutation.plan, ha, hv] at h
  obtain ⟨plan, hplan, -, rfl⟩ := Planned.run_eq_ok.mp h
  cases hplan
  exact Fields.place_change_self (Fields.fault?_of_top htarget _) v

end

namespace UpdateSpec

variable {spec : Fields} {us : UpdateSpec} {options : Options} {doc after : Fields}
  {changed : Bool}

/-- Each mutation of a run finds what it renames as it was at first, and nothing after it touches
what it claims. -/
theorem exists_step (h : parse spec = .ok us) (hrun : us.apply options doc = .ok changed after)
    {done rest : List Mutation} {m : Mutation} (hsplit : us.mutations = done ++ m :: rest) :
    ∃ c mid c' next, applyAll options done doc = .ok c mid ∧ m.apply options mid = .ok c' next ∧
      (∀ target, m.action = .rename target → mid.place m.path = doc.place m.path) ∧
      ∀ q ∈ m.claims, (next.place q).Inside → after.place q = next.place q := by
  have hms : ∀ n ∈ us.mutations, n.RenamesTop := fun _ hn => renamesTop_of_parse h hn
  have hapart := pairwise_apart_of_parse h
  rw [apply, hsplit] at hrun
  rw [hsplit] at hms hapart
  obtain ⟨c, mid, c', next, c'', hdone, hm, hrest⟩ := applyAll_append_cons_ok hrun
  obtain ⟨-, hlater, hearlier⟩ := List.pairwise_append.mp hapart
  refine ⟨c, mid, c', next, hdone, hm, fun target ha => ?_, fun q hq hin => ?_⟩
  · exact place_source_of_applyAll (hms m (by simp)) (fun n hn => hms n (by simp [hn]))
      (fun n hn => hearlier n hn m List.mem_cons_self) hdone target ha
  · have hbehind := (List.pairwise_cons.mp hlater).1
    exact place_applyAll_of_apart (fun n hn => hms n (by simp [hn]))
      (fun n hn p hp => (hbehind n hn).symm p hp q hq) hin hrest

/-- After an update the fields of the document itself stand in their old order, without those
that were removed or renamed, and behind them stand the new ones in the order of the mutations
that added them first. A renamed field keeps its value. -/
theorem keys_of_apply (h : parse spec = .ok us) (options : Options) (doc after : Fields)
    (changed : Bool) (hrun : us.apply options doc = .ok changed after) :
    let kept := doc.keys.removeAll (us.mutations.flatMap (Mutation.dropped doc))
    after.keys = kept ++
      ((us.mutations.filterMap (Mutation.opened options doc)).removeAll kept).eraseDups ∧
    (∀ done m rest, us.mutations = done ++ m :: rest → ∃ c mid c' next,
      applyAll options done doc = .ok c mid ∧ m.apply options mid = .ok c' next ∧
        ∀ k, k ∉ mid.keys.removeAll (m.dropped doc) →
          (k ∈ next.keys ↔ m.opened options doc = some k)) ∧
    (∀ m ∈ us.mutations, ∀ target v, m.action = .rename target →
      doc.read m.path = .ok (some v) → after.read target = .ok (some v)) := by
  have hms : ∀ m ∈ us.mutations, m.RenamesTop := fun _ hm => renamesTop_of_parse h hm
  refine ⟨?_, fun done m rest hsplit => ?_, fun m hm target v ha hread => ?_⟩
  · rw [keys_applyAll hms (pairwise_apart_of_parse h) hrun, addKeys_eq]
  · obtain ⟨c, mid, c', next, hdone, hm, hsame, -⟩ := exists_step h hrun hsplit
    have hmtop := hms m (by simp [hsplit])
    refine ⟨c, mid, c', next, hdone, hm, fun k hk => ?_⟩
    rw [Mutation.keys_apply hmtop hm, Mutation.dropped_eq_of_place hmtop hsame,
      Mutation.opened_eq_of_place hmtop hsame]
    cases m.opened options doc with
    | none => exact iff_of_false hk nofun
    | some l =>
      show k ∈ addKey _ l ↔ _
      rw [mem_addKey, or_iff_right hk, Option.some.injEq, eq_comm]
  · obtain ⟨done, rest, hsplit⟩ := List.append_of_mem hm
    obtain ⟨c, mid, c', next, -, happly, hsame, hrest⟩ := exists_step h hrun hsplit
    rw [Fields.read_eq, Place.read_eq_found_iff] at hread ⊢
    have htarget := place_target_of_apply (hms m hm) ha ((hsame target ha).trans hread) happly
    have hclaim : target ∈ m.claims := by simp [Mutation.claims, ha]
    rw [hrest target hclaim (by simp [htarget]), htarget]

/-- A field is renamed, another one removed, and two values share a document that is new. -/
theorem rename_behind_new_document : ∃ us after,
    parse [("$set", .document [("n.x", .int32 1), ("n.y", .int32 2)]),
      ("$rename", .document [("a", .string "z")]),
      ("$unset", .document [("b", .string "")])] = .ok us ∧
    us.apply ⟨false, 0⟩ [("a", .int32 1), ("b", .int32 2), ("c", .int32 3)] = .ok true after ∧
    after.keys = ["c", "n", "z"] := by
  have h : parse [("$set", .document [("n.x", .int32 1), ("n.y", .int32 2)]),
      ("$rename", .document [("a", .string "z")]),
      ("$unset", .document [("b", .string "")])] = .ok _ := rfl
  refine ⟨_, [("c", .int32 3), ("n", .document [("x", .int32 1), ("y", .int32 2)]),
    ("z", .int32 1)], h, rfl, ?_⟩
  exact (keys_of_apply h ⟨false, 0⟩ [("a", .int32 1), ("b", .int32 2), ("c", .int32 3)] _ _ rfl).1

end UpdateSpec

end DocUpdate
