import DocUpdate.Pattern.Extent

/-!
# Putting expressions together

What is put together is kept simple: rows and choices do not nest, neighbouring literals are
one, a choice of characters is a set, and what all branches begin with stands before them.
-/

namespace DocUpdate.Regex

/-! ## Comparison -/

mutual

/-- Whether two expressions are alike. Every capture is one of its own. -/
def same : Regex → Regex → Bool
  | empty, empty => true
  | literal a, literal b => a == b
  | set a, set b => a == b
  | assertion a, assertion b => a == b
  | repetition a least most, repetition b least' most' =>
    least == least' && most == most' && same a b
  | concat as, concat bs => sameAll as bs
  | alternation as, alternation bs => sameAll as bs
  | _, _ => false

def sameAll : List Regex → List Regex → Bool
  | [], [] => true
  | a :: as, b :: bs => same a b && sameAll as bs
  | _, _ => false

end

/-! ## Sets and repetitions -/

/-- A set of one character is that character. -/
def ofSet (chars : CharSet) : Regex :=
  match chars.single? with
  | some c => literal [c]
  | none => set chars

/-- Repeats an expression. What takes up no characters has no need of a second turn. -/
def repeated (body : Regex) (least : Nat) (most : Option Nat) : Regex :=
  let (least, most) :=
    if body.extent.zeroWidth then (min least 1, some (min (most.getD 1) 1)) else (least, most)
  if least = 0 ∧ most = some 0 then empty
  else if least = 1 ∧ most = some 1 then body
  else repetition body least most

/-! ## Rows -/

/-- The parts of an expression that is a row. -/
def parts : Regex → List Regex
  | empty => []
  | concat parts => parts
  | r => [r]

/-- Puts a part in front, as a part of the first literal if both are literals. -/
def cons (r : Regex) (rest : List Regex) : List Regex :=
  match r, rest with
  | literal a, literal b :: rest => literal (a ++ b) :: rest
  | r, rest => r :: rest

/-- One expression after another. -/
def row (rs : List Regex) : Regex :=
  match (rs.flatMap parts).foldr cons [] with
  | [] => empty
  | [r] => r
  | rs => concat rs

/-! ## Choices -/

/-- The branches of an expression that is a choice. -/
def branches : Regex → List Regex
  | alternation branches => branches
  | r => [r]

/-- The character of an expression that is one character. -/
def char? : Regex → Option Char
  | literal [c] => some c
  | _ => none

/-- The set of an expression that is a set. -/
def set? : Regex → Option CharSet
  | set chars => some chars
  | _ => none

/-- A choice among expressions that are not choices. Characters make up a set, and so do sets. -/
def choice (rs : List Regex) : Regex :=
  match rs with
  | [r] => r
  | rs =>
    match rs.mapM char? with
    | some chars => ofSet (.unions (chars.map .single))
    | none =>
      match rs.mapM set? with
      | some sets => ofSet (.unions sets)
      | none => alternation rs

/-- How many parts two rows have in common at the start. -/
def commonLength : List Regex → List Regex → Nat
  | a :: as, b :: bs => if a.same b then commonLength as bs + 1 else 0
  | _, _ => 0

/-- How many parts all rows have in common at the start. What is not a row of two parts or
more has none in common with the others. -/
def sharedLength : List Regex → Nat
  | concat first :: rest =>
    rest.foldl (fun n r => match r with
      | concat rs => min n (commonLength first rs)
      | _ => 0) first.length
  | _ => 0

/-- Any of the expressions. -/
def either (rs : List Regex) : Regex :=
  let rs := rs.flatMap branches
  match choice rs with
  | alternation rs =>
    match sharedLength rs with
    | 0 => alternation rs
    | n =>
      let suffixes := rs.map fun r => row (r.parts.drop n)
      row ((rs.headD empty).parts.take n ++ [choice (suffixes.flatMap branches)])
  | r => r

end DocUpdate.Regex
