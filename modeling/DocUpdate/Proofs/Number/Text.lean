import Mathlib.Data.List.TakeWhile
import DocUpdate.Number.WideText
import DocUpdate.Proofs.Number.Storing
import DocUpdate.Proofs.Path.Position

/-!
# The text of a decimal keeps its coefficient and exponent

A decimal that is widened through its text and stored through the text of its parts is the same
decimal again, up to the sign of zero and the kind of NaN.
-/

namespace DocUpdate

/-! ## Digits -/

/-- Nothing but digits. -/
def AllDigits (cs : List Char) : Prop := ∀ c ∈ cs, c.isDigit = true

section

variable {cs ds : List Char} {c : Char} {n k : ℕ}

theorem AllDigits.append (hcs : AllDigits cs) (hds : AllDigits ds) : AllDigits (cs ++ ds) :=
  List.forall_mem_append.mpr ⟨hcs, hds⟩

theorem AllDigits.take (h : AllDigits cs) (k : ℕ) : AllDigits (cs.take k) :=
  fun c hc => h c (List.mem_of_mem_take hc)

theorem AllDigits.drop (h : AllDigits cs) (k : ℕ) : AllDigits (cs.drop k) :=
  fun c hc => h c (List.mem_of_mem_drop hc)

theorem allDigits_toDigits (n : ℕ) : AllDigits (Nat.toDigits 10 n) :=
  fun _ hc => Nat.isDigit_of_mem_toDigits (by decide) le_rfl hc

theorem digits?_of_allDigits (h : AllDigits cs) : digits? cs = some (Nat.ofDigitChars 10 cs 0) := by
  induction cs using List.reverseRecOn with
  | nil => rfl
  | append_singleton cs c ih =>
    have hcs : AllDigits cs := fun x hx => h x (List.mem_append_left _ hx)
    rw [digits?_concat, ih hcs, Option.bind_some, if_pos (h c (by simp)), Nat.ofDigitChars_append,
      Nat.ofDigitChars_cons, Nat.ofDigitChars_nil]

theorem natural?_of_allDigits (hne : cs ≠ []) (h : AllDigits cs) :
    natural? cs = some (Nat.ofDigitChars 10 cs 0) := by
  rw [natural?, if_neg (by simpa using hne), digits?_of_allDigits h]

theorem allDigits_padded (k n : ℕ) :
    AllDigits (List.replicate k '0' ++ Nat.toDigits 10 n) := by
  refine AllDigits.append (fun c hc => ?_) (allDigits_toDigits n)
  rw [List.eq_of_mem_replicate hc]
  decide

theorem natural?_padded (k n : ℕ) :
    natural? (List.replicate k '0' ++ Nat.toDigits 10 n) = some n := by
  rw [natural?_of_allDigits (by simp [Nat.toDigits_ne_nil]) (allDigits_padded k n),
    Nat.ofDigitChars_append, Nat.ofDigitChars_replicate_zero, Nat.mul_zero,
    Nat.ofDigitChars_ten_toDigits]

theorem natural?_toDigits (n : ℕ) : natural? (Nat.toDigits 10 n) = some n := natural?_padded 0 n

theorem length_toDigits (n : ℕ) : (Nat.toDigits 10 n).length = digitCount n := by
  fun_induction digitCount n with
  | case1 n h => rw [Nat.toDigits_of_lt_base h, List.length_singleton]
  | case2 n h ih =>
    rw [Nat.toDigits_of_base_le (by decide) (not_lt.mp h), List.length_append, ih,
      List.length_singleton]

theorem head?_toDigits_ne (hn : 0 < n) : (Nat.toDigits 10 n).head? ≠ some '0' := by
  fun_induction digitCount n with
  | case1 n h =>
    rw [Nat.toDigits_of_lt_base h]
    simpa using hn.ne'
  | case2 n h ih =>
    rw [Nat.toDigits_of_base_le (by decide) (not_lt.mp h),
      List.head?_append_of_ne_nil _ Nat.toDigits_ne_nil]
    exact ih (by omega)

end

/-! ## Signs and names -/

/-- The first character is a digit, so it is neither a sign nor the first one of a name. -/
def StartsWithDigit (cs : List Char) : Prop := ∃ c ds, cs = c :: ds ∧ c.isDigit = true

def signChars (negative : Bool) : List Char := if negative then ['-'] else []

section

variable {cs ds : List Char}

theorem AllDigits.startsWithDigit (h : AllDigits cs) (hne : cs ≠ []) : StartsWithDigit cs := by
  obtain ⟨c, ds, rfl⟩ := List.exists_cons_of_ne_nil hne
  exact ⟨c, ds, rfl, h c List.mem_cons_self⟩

theorem StartsWithDigit.append (h : StartsWithDigit cs) (ds : List Char) :
    StartsWithDigit (cs ++ ds) := by
  obtain ⟨c, rest, rfl, hc⟩ := h
  exact ⟨c, rest ++ ds, rfl, hc⟩

theorem splitSign_signChars (negative : Bool) (h : StartsWithDigit cs) :
    splitSign (signChars negative ++ cs) = (negative, cs) := by
  obtain ⟨c, ds, rfl, hc⟩ := h
  cases negative with
  | true => rfl
  | false =>
    show splitSign (c :: ds) = _
    unfold splitSign
    split
    · rename_i heq
      cases heq
      exact absurd hc (by decide)
    · rename_i heq
      cases heq
      exact absurd hc (by decide)
    · rfl

theorem lowered_ne (h : StartsWithDigit cs) {c : Char} {rest : List Char}
    (hc : c.isDigit = false) : String.ofList (cs.map Char.toLower) ≠ String.ofList (c :: rest) := by
  obtain ⟨d, ds, rfl, hd⟩ := h
  intro heq
  have hlist := String.ofList_injective heq
  rw [List.map_cons] at hlist
  have hhead : d.toLower = c := (List.cons.inj hlist).1
  -- No digit is an upper case letter, so it stays a digit in lower case.
  have hlower : d.toLower = d := by
    refine dif_neg fun hletter => ?_
    have hle : 65 ≤ d.toNat := hletter.1
    have := ((isDigit_iff d).mp hd).2
    omega
  rw [← hhead, hlower, hd] at hc
  cases hc

theorem parse?_of_startsWithDigit {text : String} {negative : Bool} (h : StartsWithDigit cs)
    (htext : text.toList = signChars negative ++ cs) :
    Decimal128.parse? text = Decimal128.readFinite? negative cs := by
  unfold Decimal128.parse?
  rw [htext, splitSign_signChars negative h]
  dsimp only
  split
  case h_5 => rfl
  all_goals exact absurd ‹_› (lowered_ne h (by decide))

theorem read?_of_startsWithDigit {text : String} {negative : Bool} (h : StartsWithDigit cs)
    (htext : text.toList = signChars negative ++ cs) :
    Wide.read? text = (DecimalLiteral.read? cs).map fun parts =>
      .finite (if negative then -(parts.digits : Int) else parts.digits)
        (parts.places - parts.exponent) := by
  unfold Wide.read?
  rw [htext, splitSign_signChars negative h]
  dsimp only
  split
  case h_5 => rfl
  all_goals exact absurd ‹_› (lowered_ne h (by decide))

theorem toList_toString (z : ℤ) :
    (toString z).toList = signChars (z < 0) ++ Nat.toDigits 10 z.natAbs := by
  rw [Int.toString_eq_repr, Int.repr_eq_if]
  rcases lt_or_ge z 0 with h | h
  · have habs : (-z).toNat = z.natAbs := by omega
    rw [if_neg h.not_ge, String.toList_append, Nat.toList_repr, habs, decide_eq_true h]
    rfl
  · have habs : z.toNat = z.natAbs := by omega
    rw [if_pos h, Nat.toList_repr, habs, decide_eq_false h.not_gt]
    rfl

theorem signedInteger?_signChars (negative : Bool) (n : ℕ) :
    signedInteger? (signChars negative ++ Nat.toDigits 10 n) =
      some (if negative then -(n : ℤ) else n) := by
  have hstart := (allDigits_toDigits n).startsWithDigit Nat.toDigits_ne_nil
  rw [signedInteger?, splitSign_signChars negative hstart]
  dsimp only
  rw [natural?_toDigits]
  rfl

theorem signedInteger?_toString (z : ℤ) : signedInteger? (toString z).toList = some z := by
  rw [toList_toString, signedInteger?_signChars]
  by_cases h : z < 0
  · rw [if_pos (decide_eq_true h)]
    congr 1
    omega
  · rw [if_neg (by simpa using h)]
    congr 1
    omega

/-- A positive exponent is written with a sign. -/
theorem signedInteger?_signed (z : ℤ) : signedInteger?
    ((if z < 0 then "-" else "+").toList ++ Nat.toDigits 10 z.natAbs) = some z := by
  split
  · have hnegative : -(z.natAbs : ℤ) = z := by omega
    have hread := signedInteger?_signChars true z.natAbs
    rwa [if_pos rfl, hnegative] at hread
  · have hpositive : (z.natAbs : ℤ) = z := by omega
    have hread : signedInteger? ('+' :: Nat.toDigits 10 z.natAbs) = some (z.natAbs : ℤ) := by
      rw [signedInteger?, splitSign]
      dsimp only
      rw [natural?_toDigits]
      rfl
    rwa [hpositive] at hread

end

/-! ## Cutting a text -/

theorem cutAt_append {p : Char → Bool} {before : List Char} {c : Char}
    (hbefore : ∀ x ∈ before, p x = false) (hc : p c = true) (after : Option (List Char)) :
    cutAt p (before ++ after.elim [] (c :: ·)) = (before, after) := by
  have hskip : ∀ x ∈ before, (!p x) = true := fun x hx => by rw [hbefore x hx]; rfl
  unfold cutAt
  cases after with
  | none =>
    have hall : before.dropWhile (!p ·) = [] := List.dropWhile_eq_nil_iff.mpr hskip
    rw [Option.elim_none, List.append_nil, hall]
  | some after =>
    have hstop : (c :: after).dropWhile (!p ·) = c :: after :=
      List.dropWhile_cons_of_neg (by simp [hc])
    have htake : (c :: after).takeWhile (!p ·) = [] := List.takeWhile_cons_of_neg (by simp [hc])
    rw [Option.elim_some, List.dropWhile_append_of_pos hskip, hstop,
      List.takeWhile_append_of_pos hskip, htake, List.append_nil]

/-! ## Literals -/

theorem AllDigits.ne {cs : List Char} (h : AllDigits cs) {d : Char} (hd : d.isDigit = false) :
    ∀ c ∈ cs, (c == d) = false := by
  intro c hc
  rw [beq_eq_false_iff_ne]
  rintro rfl
  exact absurd (h c hc) (by simp [hd])

/-- Digits, with a point among them and an exponent behind them if there is one. -/
structure Literal where
  whole : List Char
  fraction : Option (List Char)
  exponentText : Option (List Char)
  exponent : ℤ
  whole_ne : whole ≠ []
  allDigits_whole : AllDigits whole
  allDigits_fraction : ∀ ds ∈ fraction, AllDigits ds
  exponent_eq : exponentText.elim (some 0) signedInteger? = some exponent

namespace Literal

variable (l : Literal)

def mantissa : List Char := l.whole ++ l.fraction.elim [] ('.' :: ·)

def text : List Char := l.mantissa ++ l.exponentText.elim [] ('E' :: ·)

def digits : List Char := l.whole ++ l.fraction.getD []

def places : ℕ := (l.fraction.getD []).length

theorem startsWithDigit : StartsWithDigit l.text :=
  ((l.allDigits_whole.startsWithDigit l.whole_ne).append _).append _

theorem mantissa_ne {d : Char} (hd : d.isDigit = false) (hpoint : d ≠ '.') :
    ∀ c ∈ l.mantissa, (c == d) = false := by
  intro c hc
  rcases List.mem_append.mp hc with hwhole | hfraction
  · exact l.allDigits_whole.ne hd c hwhole
  · cases h : l.fraction with
    | none =>
      rw [h] at hfraction
      cases hfraction
    | some ds =>
      rw [h] at hfraction
      rcases List.mem_cons.mp hfraction with rfl | hdigit
      · exact beq_eq_false_iff_ne.mpr hpoint.symm
      · exact (l.allDigits_fraction ds h).ne hd c hdigit

theorem cutAt_exponent :
    cutAt (fun c => c == 'e' || c == 'E') l.text = (l.mantissa, l.exponentText) := by
  refine cutAt_append (fun c hc => ?_) rfl _
  rw [l.mantissa_ne rfl (by decide) c hc, l.mantissa_ne rfl (by decide) c hc]
  rfl

theorem cutAt_point : cutAt (· == '.') l.mantissa = (l.whole, l.fraction) :=
  cutAt_append (l.allDigits_whole.ne rfl) rfl _

theorem exponent_eq_zero (h : l.exponentText = none) : l.exponent = 0 := by
  have hexponent := l.exponent_eq
  rw [h] at hexponent
  exact (Option.some.inj hexponent).symm

theorem signedInteger?_exponentText {t : List Char} (h : l.exponentText = some t) :
    signedInteger? t = some l.exponent := by
  have hexponent := l.exponent_eq
  rwa [h] at hexponent

theorem read?_text {n : ℕ} (hn : natural? l.digits = some n) :
    DecimalLiteral.read? l.text = some ⟨n, l.places, l.exponent⟩ := by
  have hdigits : natural? (l.whole ++ l.fraction.getD []) = some n := hn
  unfold DecimalLiteral.read?
  rw [cutAt_exponent]
  dsimp only
  rw [cutAt_point]
  cases h : l.exponentText with
  | none => simp [hdigits, l.exponent_eq_zero h, places]
  | some t => simp [hdigits, l.signedInteger?_exponentText h, places]

theorem readFinite?_text (negative : Bool) {w : Decimal128.Written}
    (hw : Decimal128.readWritten? l.digits = some w)
    (hexp : Decimal128.fitsExponent l.exponent = true)
    (hplaces : Decimal128.fitsExponent (l.exponent - l.places) = true) :
    Decimal128.readFinite? negative l.text =
      Decimal128.ofWritten? negative w (l.exponent - l.places) := by
  have hdigits : Decimal128.readWritten? (l.whole ++ l.fraction.getD []) = some w := hw
  rw [places] at hplaces
  unfold Decimal128.readFinite?
  rw [cutAt_exponent]
  dsimp only
  rw [cutAt_point]
  cases h : l.exponentText with
  | none =>
    have hzero := l.exponent_eq_zero h
    rw [hzero] at hexp hplaces
    rw [zero_sub] at hplaces
    simp [hdigits, hzero, hexp, hplaces, places]
  | some t => simp [hdigits, l.signedInteger?_exponentText h, hexp, hplaces, places]

/-- Digits can be written with a point behind the first `k` of them, if there are more. -/
theorem exists_of_digits {ds : List Char} {n : ℕ} (hne : ds ≠ []) (hds : AllDigits ds)
    (hn : natural? ds = some n) {k : ℕ} (hk : 0 < k) (exponentText : Option (List Char)) {z : ℤ}
    (hz : exponentText.elim (some 0) signedInteger? = some z) :
    ∃ l : Literal, l.text = (if k < ds.length then ds.take k ++ '.' :: ds.drop k else ds) ++
      exponentText.elim [] ('E' :: ·) ∧
      natural? l.digits = some n ∧ l.places = ds.length - k ∧ l.exponent = z := by
  by_cases hlt : k < ds.length
  · rw [if_pos hlt]
    have hwhole : ds.take k ≠ [] := by
      rw [Ne, List.take_eq_nil_iff, not_or]
      exact ⟨hk.ne', hne⟩
    have hfraction : ∀ rest ∈ some (ds.drop k), AllDigits rest := by
      rintro _ ⟨⟩
      exact hds.drop k
    refine ⟨⟨ds.take k, some (ds.drop k), exponentText, z, hwhole, hds.take k, hfraction, hz⟩,
      rfl, ?_, List.length_drop, rfl⟩
    rw [digits, Option.getD_some, List.take_append_drop, hn]
  · rw [if_neg hlt]
    refine ⟨⟨ds, none, exponentText, z, hne, hds, by simp, hz⟩, ?_, ?_, ?_, rfl⟩
    · exact congrArg (· ++ _) (List.append_nil ds)
    · rw [digits, Option.getD_none, List.append_nil, hn]
    · exact (Nat.sub_eq_zero_of_le (not_lt.mp hlt)).symm

theorem exists_padded (n : ℕ) {k : ℕ} (hk : 0 < k) :
    let ds := List.replicate (k + 1 - (Nat.toDigits 10 n).length) '0' ++ Nat.toDigits 10 n
    ∃ l : Literal, l.text = ds.take (ds.length - k) ++ '.' :: ds.drop (ds.length - k) ∧
      natural? l.digits = some n ∧ l.places = k ∧ l.exponent = 0 := by
  intro ds
  -- With the zeros at least one digit stands in front of the point.
  have hlong : k < ds.length := by
    rw [List.length_append, List.length_replicate]
    omega
  have hne : ds ≠ [] := List.ne_nil_of_length_pos (by omega)
  obtain ⟨l, htext, hn, hplaces, hexponent⟩ := exists_of_digits hne (allDigits_padded _ n)
    (natural?_padded _ n) (Nat.sub_pos_of_lt hlong) none rfl
  refine ⟨l, ?_, hn, by omega, hexponent⟩
  rw [htext, if_pos (by omega)]
  exact List.append_nil _

end Literal

namespace Decimal128

/-! ## The text of a decimal -/

theorem magnitudeText_eq (n : ℕ) (e : ℤ) : magnitudeText n e =
    let ds := (Nat.repr n).toList
    let adjusted := e + ds.length - 1
    let padded := List.replicate (e.natAbs + 1 - ds.length) '0' ++ ds
    let point := padded.length - e.natAbs
    if e ≤ 0 ∧ -6 ≤ adjusted then
      if e.natAbs = 0 then String.ofList ds
      else String.ofList (padded.take point) ++ "." ++ String.ofList (padded.drop point)
    else
      (if ds.length ≤ 1 then String.ofList ds
        else String.ofList (ds.take 1) ++ "." ++ String.ofList (ds.drop 1)) ++
      "E" ++ (if adjusted < 0 then "-" else "+") ++ Nat.repr adjusted.natAbs := rfl

/-- The digits of a coefficient stand in its text with a point and an exponent that make up for
each other. -/
theorem exists_literal (n : ℕ) (e : ℤ) : ∃ l : Literal, (magnitudeText n e).toList = l.text ∧
    natural? l.digits = some n ∧ l.places - l.exponent = -e := by
  have hne : Nat.toDigits 10 n ≠ [] := Nat.toDigits_ne_nil
  have hds := allDigits_toDigits n
  have hn := natural?_toDigits n
  have hlength := List.length_pos_iff.mpr hne
  rw [magnitudeText_eq, Nat.toList_repr]
  dsimp only
  split
  case isTrue hplain =>
    split
    case isTrue hzero =>
      obtain ⟨l, htext, hdigits, hplaces, hexponent⟩ :=
        Literal.exists_of_digits hne hds hn hlength none rfl
      refine ⟨l, ?_, hdigits, by omega⟩
      rw [htext, if_neg (lt_irrefl _), String.toList_ofList]
      exact (List.append_nil _).symm
    case isFalse hfraction =>
      obtain ⟨l, htext, hdigits, hplaces, hexponent⟩ :=
        Literal.exists_padded n (Nat.pos_of_ne_zero hfraction)
      refine ⟨l, ?_, hdigits, by omega⟩
      rw [htext]
      simp
  case isFalse hscientific =>
    obtain ⟨l, htext, hdigits, hplaces, hexponent⟩ := Literal.exists_of_digits hne hds hn one_pos
      (some _) (signedInteger?_signed (e + (Nat.toDigits 10 n).length - 1))
    refine ⟨l, ?_, hdigits, by omega⟩
    rw [htext]
    by_cases hmany : 1 < (Nat.toDigits 10 n).length
    · rw [if_pos hmany, if_neg hmany.not_ge]
      simp
    · rw [if_neg hmany, if_pos (not_lt.mp hmany)]
      simp

/-- A decimal is widened by reading its text. -/
theorem read?_text (d : Decimal128) : Wide.read? d.text = some (Wide.ofDecimal d) := by
  cases d with
  | nan negative signalling =>
    show Wide.read? "NaN" = some .nan
    rfl
  | infinity negative => cases negative <;> rfl
  | finite d =>
    obtain ⟨l, htext, hn, he⟩ := exists_literal d.coefficient d.exponent
    have hlist : (finite d).text.toList = signChars d.negative ++ l.text := by
      rw [text, String.toList_append, htext]
      cases d.negative <;> rfl
    rw [read?_of_startsWithDigit l.startsWithDigit hlist, l.read?_text hn, Option.map_some, he]
    rfl

theorem ofText_text (d : Decimal128) : Wide.ofText d.text = Wide.ofDecimal d := by
  rw [Wide.ofText, read?_text, Option.getD_some]

/-! ## Reading a coefficient and an exponent -/

theorem readWritten?_toDigits (n : ℕ) : readWritten? (Nat.toDigits 10 n) = some (.ofNat n) := by
  rcases Nat.eq_zero_or_pos n with rfl | hn
  · rfl
  · obtain ⟨c, ds, hcons⟩ := List.exists_cons_of_ne_nil (Nat.toDigits_ne_nil (n := n) (b := 10))
    have hread := natural?_toDigits n
    have hwidth := length_toDigits n
    have hhead := head?_toDigits_ne hn
    have hdigit := allDigits_toDigits n c
    rw [hcons] at hread hwidth hhead hdigit ⊢
    have hzero : ¬ (c == '0') = true := by simpa using hhead
    rw [readWritten?, List.dropWhile_cons_of_neg (p := (· == '0')) hzero]
    split
    case h_1 heq => cases heq
    case h_2 heq =>
      cases heq
      exact absurd (hdigit List.mem_cons_self) (by decide)
    case h_3 => rw [hread, Option.map_some, hwidth, Written.ofNat]

theorem parse?_scaledText {m s : ℤ} (h : fitsExponent (-s) = true) :
    parse? (Wide.scaledText m s) = ofParts? (m < 0) m.natAbs (-s) := by
  let l : Literal := ⟨Nat.toDigits 10 m.natAbs, none, some (toString (-s)).toList, -s,
    Nat.toDigits_ne_nil, allDigits_toDigits _, by simp, signedInteger?_toString (-s)⟩
  have hlist : (Wide.scaledText m s).toList = signChars (m < 0) ++ l.text := by
    rw [Wide.scaledText, String.toList_append, String.toList_append, toList_toString m]
    simp [l, Literal.text, Literal.mantissa]
  have hw : readWritten? l.digits = some (.ofNat m.natAbs) := by
    rw [Literal.digits, Option.getD_none, List.append_nil]
    exact readWritten?_toDigits _
  have hplaces : l.exponent - l.places = -s := Int.sub_zero _
  rw [parse?_of_startsWithDigit l.startsWithDigit hlist,
    l.readFinite?_text _ hw h (hplaces ▸ h), hplaces, ofParts?]

end Decimal128

/-! ## Storing through text -/

namespace Wide

open Decimal128

/-- A number is stored as its text, as long as its exponent can be read. -/
theorem store_eq_storeText {m s : ℤ} (h : fitsExponent (-(rounded m s).2) = true) :
    store (.finite m s) = storeText (.finite m s) := by
  have hparse := parse?_scaledText (m := (rounded m s).1) h
  rw [store_finite, ← hparse]
  rfl

end Wide

namespace Decimal128

/-- The decimal that storing makes of a decimal: there is one NaN, and zero has no sign. -/
def canonical : Decimal128 → Decimal128
  | nan _ _ => nan false false
  | infinity negative => infinity negative
  | finite d => finite { d with negative := d.negative && d.coefficient != 0 }

/-- The parts of a decimal are found again, with a positive zero. -/
theorem ofParts?_canonical (d : Finite) {m : ℤ} (hm : m.natAbs = d.coefficient)
    (hsign : decide (m < 0) = (d.negative && d.coefficient != 0)) :
    ofParts? (m < 0) m.natAbs d.exponent = some (canonical (.finite d)) := by
  have hparts : inRange? (d.negative && d.coefficient != 0) d.coefficient d.exponent =
      some (canonical (.finite d)) :=
    inRange?_parts { d with negative := d.negative && d.coefficient != 0 }
  rw [hsign, hm, ← hparts]
  rcases eq_or_ne d.coefficient 0 with hzero | hzero
  · rw [hzero, ofParts?_zero, min_eq_left d.le_maxExponent, max_eq_right d.minExponent_le]
  · rw [ofParts?_of_shorten? _ hzero (shorten?_of_lt d.coefficient_lt _), Written.clamp?,
      if_neg d.minExponent_le.not_gt, if_neg d.le_maxExponent.not_gt]
    rfl

theorem rounded_eq {m s : ℤ} (hm : m.natAbs < pow10 precision) (hs : s ≤ -minExponent) :
    Wide.rounded m s = (m, s) := by
  have hdigits := digitCount_le_of_lt (by decide) hm
  rw [Wide.rounded, Wide.roundPrecision_of_le hdigits, Wide.roundScale_of_le hs]

theorem exists_ofDecimal (d : Finite) : ∃ m : ℤ,
    Wide.ofDecimal (.finite d) = .finite m (-d.exponent) ∧ m.natAbs = d.coefficient ∧
      decide (m < 0) = (d.negative && d.coefficient != 0) := by
  refine ⟨_, rfl, ?_⟩
  cases d.negative with
  | true =>
    refine ⟨Int.natAbs_neg _, ?_⟩
    show decide (-(d.coefficient : ℤ) < 0) = (true && d.coefficient != 0)
    rw [Bool.eq_iff_iff, decide_eq_true_eq, Bool.true_and, bne_iff_ne]
    omega
  | false => exact ⟨Int.natAbs_natCast _, decide_eq_false (Int.natCast_nonneg _).not_gt⟩

theorem fitsExponent_exponent (d : Finite) : fitsExponent d.exponent = true := by
  have hlow : -6176 ≤ d.exponent := d.minExponent_le
  have hhigh : d.exponent ≤ 6111 := d.le_maxExponent
  have hlarge : 6176 < (pow2 127 : ℤ) := by decide
  rw [fitsExponent, Bool.and_eq_true, decide_eq_true_eq, decide_eq_true_eq]
  omega

/-- A decimal that is widened through its text and stored through the text of its parts is the same
again, except for the sign of zero and the kind of NaN. No text on the way fails to be read. -/
theorem text_round_trip (d : Decimal128) :
    Wide.read? d.text = some (Number.decimal d).widen ∧
      Wide.storeText? (Wide.ofText d.text) = some d.canonical ∧
      (Wide.ofText d.text).store = d.canonical := by
  have hread := read?_text d
  have htext : Wide.ofText d.text = Wide.ofDecimal d := by rw [Wide.ofText, hread, Option.getD_some]
  rw [htext]
  refine ⟨hread, ?_⟩
  cases d with
  | nan negative signalling => exact ⟨rfl, rfl⟩
  | infinity negative => exact ⟨rfl, rfl⟩
  | finite d =>
    obtain ⟨m, hwide, hm, hsign⟩ := exists_ofDecimal d
    have hrounded : Wide.rounded m (-d.exponent) = (m, -d.exponent) :=
      rounded_eq (hm ▸ d.coefficient_lt) (Int.neg_le_neg d.minExponent_le)
    have hparts := ofParts?_canonical d hm hsign
    have hfits := fitsExponent_exponent d
    rw [← neg_neg d.exponent] at hparts hfits
    rw [hwide]
    constructor
    · have hstored : Wide.storeText? (.finite m (-d.exponent)) = parse?
          (Wide.scaledText (Wide.rounded m (-d.exponent)).1 (Wide.rounded m (-d.exponent)).2) := rfl
      rw [hstored, hrounded, parse?_scaledText hfits, hparts]
    · rw [Wide.store_finite, hrounded, hparts, Option.getD_some]

end Decimal128

end DocUpdate
