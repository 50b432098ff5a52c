import DocUpdate.Proofs.Path.Frame
import DocUpdate.Proofs.Reading

/-!
# Paths and their texts

A path that was read from a text is written as that text again, so what an error says about a
path is what the update says. Two paths share a place exactly if the segments of one are the
first segments of the other.
-/

namespace DocUpdate

/-! ## Pieces -/

theorem pieces_ne_nil (separator : Char) (cs : List Char) : pieces separator cs ≠ [] := by
  cases cs with
  | nil => simp [pieces]
  | cons c cs =>
    rw [pieces]
    split
    · simp
    · split <;> simp

theorem intercalate_pieces (separator : Char) (cs : List Char) :
    [separator].intercalate (pieces separator cs) = cs := by
  induction cs with
  | nil => rfl
  | cons c cs ih =>
    obtain ⟨piece, rest, hpieces⟩ := List.exists_cons_of_ne_nil (pieces_ne_nil separator cs)
    rw [pieces]
    split
    · rename_i hc
      rw [hpieces, List.intercalate_cons_cons, ← hpieces, ih, hc]
      rfl
    · rw [hpieces] at ih ⊢
      -- The character goes in front of the first piece, whether or not another one follows.
      cases rest with
      | nil =>
        rw [List.intercalate_singleton] at ih ⊢
        rw [ih]
      | cons next rest =>
        rw [List.intercalate_cons_cons] at ih ⊢
        rw [← ih]
        simp

theorem pieces_of_notMem {separator : Char} {cs : List Char} (h : separator ∉ cs) :
    pieces separator cs = [cs] := by
  induction cs with
  | nil => rfl
  | cons c cs ih =>
    rw [List.mem_cons, not_or] at h
    rw [pieces, if_neg (Ne.symm h.1), ih h.2]

/-! ## Reading and writing -/

theorem Segment.toList_of_parse {cs : List Char} {s : Segment} (h : parse cs = .ok s) :
    s.name.toList = cs := by
  unfold parse at h
  split at h
  · cases h
  · split at h
    · cases h
    · split at h
      · cases h
      · cases h
        exact String.toList_ofList

theorem Segment.map_toList_of_mapM {ps : List (List Char)} {ss : List Segment}
    (h : ps.mapM parse = .ok ss) : ss.map (String.toList ∘ Segment.name) = ps := by
  have hread := mapM_ok_iff.mp h
  clear h
  induction hread with
  | nil => rfl
  | cons hs _ ih => rw [List.map_cons, ih, Function.comp_apply, toList_of_parse hs]

namespace Path

theorem segments_of_parse {text : String} {p : Path} (h : parse text = .ok p) :
    (pieces '.' text.toList).mapM Segment.parse = .ok p.segments := by
  unfold parse at h
  split at h
  · cases h
  · obtain ⟨segments, hsegments, h⟩ := bind_ok h
    split at h
    · cases h
    · cases h
      exact hsegments

/-- A path is written as it was read. -/
theorem text_of_parse {text : String} {p : Path} (h : parse text = .ok p) : p.text = text := by
  have hnames : p.names.map String.toList = pieces '.' text.toList := by
    rw [names, List.map_map]
    exact Segment.map_toList_of_mapM (segments_of_parse h)
  apply String.toList_inj.mp
  rw [Path.text, String.toList_intercalate, hnames]
  exact intercalate_pieces '.' text.toList

/-- A path without separators is one segment. -/
theorem single_of_parse {name : String} {p : Path} (h : parse name = .ok p)
    (hname : '.' ∉ name.toList) : p.head.name = name ∧ p.tail = [] := by
  have hsegments := segments_of_parse h
  rw [pieces_of_notMem hname] at hsegments
  have htexts := Segment.map_toList_of_mapM hsegments
  rw [segments, List.map_cons, List.cons.injEq, List.map_eq_nil_iff] at htexts
  exact ⟨String.toList_inj.mp htexts.1, htexts.2⟩

/-! ## Paths that share a place -/

theorem agree_iff_prefix (ss ts : List Segment) :
    agree ss ts = true ↔ ss <+: ts ∨ ts <+: ss := by
  induction ss generalizing ts with
  | nil => simp [agree]
  | cons s ss ih =>
    cases ts with
    | nil => simp [agree]
    | cons t ts =>
      simp only [agree, Bool.and_eq_true, beq_iff_eq, ih, List.cons_prefix_cons]
      constructor
      · rintro ⟨rfl, h | h⟩
        · exact .inl ⟨rfl, h⟩
        · exact .inr ⟨rfl, h⟩
      · rintro (⟨rfl, h⟩ | ⟨rfl, h⟩)
        · exact ⟨rfl, .inl h⟩
        · exact ⟨rfl, .inr h⟩

/-- Paths are apart if neither is the start of the other. -/
theorem apart_iff {p q : Path} :
    p.Apart q ↔ ¬ p.segments <+: q.segments ∧ ¬ q.segments <+: p.segments := by
  rw [Apart, overlaps, ← Bool.not_eq_true, agree_iff_prefix, not_or]

end Path

end DocUpdate
