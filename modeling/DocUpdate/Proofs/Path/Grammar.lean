import Mathlib.Data.Set.Function
import DocUpdate.Error
import DocUpdate.Proofs.Path.Text

/-!
# Which texts are paths

A text is a path if what stands between its dots are names. The first piece that is no name
decides the error, and a path is made of exactly the pieces of its text.
-/

namespace DocUpdate

/-! ## Pieces -/

/-- The names that a segment can have. -/
def IsName (cs : List Char) : Prop := cs ≠ [] ∧ cs.head? ≠ some '$'

/-- The pieces `$`, `$[]` and `$[name]`. -/
def Positional (cs : List Char) : Prop := cs = ['$'] ∨ ['$', '['] <+: cs ∧ [']'] <:+ cs

theorem pieces_eq_splitOn (separator : Char) (cs : List Char) :
    pieces separator cs = cs.splitOn separator := by
  induction cs with
  | nil => rfl
  | cons c cs ih =>
    obtain ⟨piece, rest, hpieces⟩ := List.exists_cons_of_ne_nil (pieces_ne_nil separator cs)
    rw [List.splitOn, List.splitOnP_cons_eq_if_modifyHead, ← List.splitOn, ← ih, pieces, hpieces]
    simp only [beq_iff_eq, List.modifyHead_cons]

theorem isPositional_iff (cs : List Char) : isPositional cs = true ↔ Positional cs := by
  simp only [isPositional, Positional, Bool.or_eq_true, Bool.and_eq_true, beq_iff_eq,
    List.isPrefixOf_iff_prefix, List.singleton_suffix_iff_getLast?_eq_some]

/-- What is positional starts with a dollar sign. -/
theorem Positional.head? {cs : List Char} (h : Positional cs) : cs.head? = some '$' := by
  rcases h with rfl | ⟨⟨rest, rfl⟩, -⟩ <;> rfl

/-- What is wrong with a piece that is no name. -/
def PieceFault (cs : List Char) : PathFault → Prop
  | .emptyPath | .emptyName => cs = []
  | .positional segment => Positional cs ∧ segment.toList = cs
  | .dollarName segment => cs.head? = some '$' ∧ ¬ Positional cs ∧ segment.toList = cs

namespace Segment

theorem parse_of_isName {cs : List Char} (h : IsName cs) :
    parse cs = .ok ⟨String.ofList cs, by simpa using h.1, by simpa using h.2⟩ := by
  have hpositional : ¬ isPositional cs = true := by
    rw [isPositional_iff]
    exact fun hcs => h.2 hcs.head?
  rw [parse, dif_neg h.1, if_neg hpositional, dif_neg h.2]

theorem exists_parse_iff (cs : List Char) : (∃ s, parse cs = .ok s) ↔ IsName cs := by
  refine ⟨?_, fun h => ⟨_, parse_of_isName h⟩⟩
  rintro ⟨s, hs⟩
  have hname := toList_of_parse hs
  exact ⟨hname ▸ s.ne_empty, hname ▸ s.no_dollar⟩

theorem pieceFault_of_parse {cs : List Char} {fault : PathFault} (h : parse cs = .error fault) :
    PieceFault cs fault := by
  unfold parse at h
  split at h
  · cases h
    assumption
  · split at h
    · cases h
      exact ⟨(isPositional_iff cs).mp ‹_›, String.toList_ofList⟩
    · split at h
      · cases h
        exact ⟨‹_›, (isPositional_iff cs).not.mp ‹_›, String.toList_ofList⟩
      · cases h

/-- There is a piece, so there is a segment. -/
theorem exists_cons_of_pieces {separator : Char} {cs : List Char} {segments : List Segment}
    (h : (pieces separator cs).mapM parse = .ok segments) :
    ∃ head tail, segments = head :: tail := by
  have hlength := (mapM_ok_iff.mp h).length_eq
  refine List.exists_cons_of_ne_nil fun hnil => pieces_ne_nil separator cs ?_
  rwa [hnil, List.length_nil, List.length_eq_zero_iff] at hlength

end Segment

/-- The kind of an error is decided by the piece that caused it. -/
theorem PieceFault.kind_iff {cs : List Char} {fault : PathFault} (h : PieceFault cs fault)
    (text : String) :
    ((UpdateError.malformedPath text fault).kind = .unsupportedPath ↔ Positional cs) ∧
    ((UpdateError.malformedPath text fault).kind = .invalidPath ↔
      cs = [] ∨ cs.head? = some '$' ∧ ¬ Positional cs) := by
  cases fault with
  | emptyPath | emptyName =>
    have hcs : ¬ Positional cs := fun hpositional => by
      have hhead := hpositional.head?
      rw [show cs = [] from h] at hhead
      cases hhead
    exact ⟨iff_of_false nofun hcs, iff_of_true rfl (.inl h)⟩
  | positional segment =>
    have hcs : ¬ (cs = [] ∨ cs.head? = some '$' ∧ ¬ Positional cs) := by
      rintro (rfl | hcs)
      · cases h.1.head?
      · exact hcs.2 h.1
    exact ⟨iff_of_true rfl h.1, iff_of_false nofun hcs⟩
  | dollarName segment =>
    exact ⟨iff_of_false nofun h.2.1, iff_of_true rfl (.inr ⟨h.1, h.2.1⟩)⟩

namespace Path

/-! ## Reading -/

theorem exists_parse_iff (text : String) :
    (∃ p, parse text = .ok p) ↔ text ≠ "" ∧ ∀ cs ∈ text.toList.splitOn '.', IsName cs := by
  rw [← pieces_eq_splitOn]
  constructor
  · rintro ⟨p, hp⟩
    refine ⟨?_, fun cs hcs => ?_⟩
    · rintro rfl
      cases hp
    · have hread := exists_mapM_ok_iff.mp ⟨_, segments_of_parse hp⟩ cs hcs
      exact (Segment.exists_parse_iff cs).mp hread
  · rintro ⟨htext, hnames⟩
    have htext : text.toList ≠ [] := fun h => htext (String.toList_eq_nil_iff.mp h)
    obtain ⟨segments, hsegments⟩ := exists_mapM_ok_iff.mpr fun cs hcs =>
      (Segment.exists_parse_iff cs).mpr (hnames cs hcs)
    obtain ⟨head, tail, rfl⟩ := Segment.exists_cons_of_pieces hsegments
    refine ⟨⟨head, tail⟩, ?_⟩
    rw [parse, if_neg htext, hsegments]
    rfl

/-- A text that is no path has a first piece that is no name. -/
theorem exists_piece_of_parse_error {text : String} {fault : PathFault}
    (h : parse text = .error fault) :
    ∃ before cs after, text.toList.splitOn '.' = before ++ cs :: after ∧
      (∀ name ∈ before, IsName name) ∧ ¬ IsName cs ∧ PieceFault cs fault := by
  rw [← pieces_eq_splitOn]
  unfold parse at h
  split at h
  · rename_i htext
    cases h
    exact ⟨[], [], [], by rw [htext]; rfl, nofun, fun hname => hname.1 rfl, rfl⟩
  · rcases bind_error h with hpieces | ⟨segments, hsegments, h⟩
    · obtain ⟨before, cs, after, hsplit, hbefore, hcs⟩ := mapM_error hpieces
      refine ⟨before, cs, after, hsplit, ?_, ?_, Segment.pieceFault_of_parse hcs⟩
      · exact fun name hname => (Segment.exists_parse_iff name).mp (hbefore name hname)
      · rw [← Segment.exists_parse_iff, hcs]
        exact nofun
    · obtain ⟨head, tail, rfl⟩ := Segment.exists_cons_of_pieces hsegments
      cases h

/-- A text is a path exactly if it is not empty and its pieces are names, and the names of the path
are then these pieces, which the dots join to the text again. Else the first piece that is no name
decides the error. No two names of positions in an array name the same one. -/
theorem ofText_by_pieces (text : String) :
    ((∃ p, ofText text = .ok p) ↔
      text ≠ "" ∧ ∀ cs ∈ text.toList.splitOn '.', IsName cs) ∧
    (∀ p, ofText text = .ok p →
      p.names.map String.toList = text.toList.splitOn '.' ∧
        String.intercalate "." p.names = text) ∧
    (∀ e, ofText text = .error e →
      ∃ before cs after, text.toList.splitOn '.' = before ++ cs :: after ∧
        (∀ name ∈ before, IsName name) ∧ ¬ IsName cs ∧
        (e.kind = .unsupportedPath ↔ Positional cs) ∧
        (e.kind = .invalidPath ↔ cs = [] ∨ cs.head? = some '$' ∧ ¬ Positional cs) ∧
        ∃ fault, e = .malformedPath text fault) ∧
    Set.InjOn arrayIndex? {name | (arrayIndex? name).isSome} := by
  refine ⟨?accepts, ?keeps, ?refuses, ?positions⟩
  case accepts =>
    exact (exists_congr fun p => mapError_ok).trans (exists_parse_iff text)
  case keeps =>
    intro p hp
    have hparse := mapError_ok.mp hp
    refine ⟨?_, text_of_parse hparse⟩
    rw [← pieces_eq_splitOn, names, List.map_map]
    exact Segment.map_toList_of_mapM (segments_of_parse hparse)
  case refuses =>
    intro e he
    cases hparse : parse text with
    | ok p =>
      rw [ofText, hparse] at he
      cases he
    | error fault =>
      rw [ofText, hparse] at he
      cases he
      obtain ⟨before, cs, after, hsplit, hbefore, hcs, hfault⟩ := exists_piece_of_parse_error hparse
      obtain ⟨hunsupported, hinvalid⟩ := hfault.kind_iff text
      exact ⟨before, cs, after, hsplit, hbefore, hcs, hunsupported, hinvalid, fault, rfl⟩
  case positions =>
    intro a ha b _ hab
    obtain ⟨i, hi⟩ := Option.isSome_iff_exists.mp ha
    exact arrayIndex?_injective hi (hab ▸ hi)

/-- Of two pieces that are no names the first one decides. -/
theorem positional_before_empty_piece :
    (∃ p, ofText "a.0" = .ok p ∧ p.names.map String.toList = [['a'], ['0']]) ∧
    ∃ e, ofText "a.$[x]..b" = .error e ∧ e.kind = .unsupportedPath ∧
      ∃ before cs after, "a.$[x]..b".toList.splitOn '.' = before ++ cs :: after ∧
        (∀ name ∈ before, IsName name) ∧ Positional cs := by
  have hp : ofText "a.0" = .ok ⟨⟨"a", by decide, by decide⟩, [⟨"0", by decide, by decide⟩]⟩ := rfl
  have he : ofText "a.$[x]..b" = .error (.malformedPath "a.$[x]..b" (.positional "$[x]")) := rfl
  refine ⟨⟨_, hp, ((ofText_by_pieces "a.0").2.1 _ hp).1⟩, _, he, rfl, ?_⟩
  obtain ⟨before, cs, after, hsplit, hbefore, -, hkind, -⟩ := (ofText_by_pieces _).2.2.1 _ he
  exact ⟨before, cs, after, hsplit, hbefore, hkind.mp rfl⟩

end Path

end DocUpdate
