import DocUpdate.Pattern.Build
import DocUpdate.Pattern.Automaton

/-!
# The size of an expression

An expression may be short and stand for a lot: `\w{1000}` is a thousand sets of some hundred
ranges each. It is refused if an automaton for it would be too large, forward or backward.
-/

namespace DocUpdate.Regex

/-- The bytes of a literal. -/
def literalBytes (chars : List Char) : List UInt8 := chars.flatMap String.utf8EncodeChar

/-- The bytes of an expression that is a literal. -/
def word? : Regex → Option (List UInt8)
  | literal chars => some (literalBytes chars)
  | _ => none

mutual

/-- Adds the states of an expression. What may repeat without end and can match nothing at all
needs two states more to do so. -/
def lay (scan : Scan) : Regex → Automaton → Automaton
  | empty, a => a.add 1 0
  | literal chars, a => a.add (literalBytes chars).length 0
  | set chars, a => a.addSet scan chars
  | assertion _, a => a.add 1 0
  | repetition body least most, a =>
    match least, most with
    | 0, none =>
      if body.extent.taking && !body.extent.hopeless then body.lay scan (a.add 1 8)
      else (body.lay scan a).add 3 16
    | _, none => (Automaton.times (body.lay scan) least a).add 1 8
    | 0, some 1 => (body.lay scan (a.add 1 8)).add 1 0
    | _, some most =>
      let a := if least = 0 then a.add 1 0 else Automaton.times (body.lay scan) least a
      if least = most then a
      else Automaton.times (fun a => body.lay scan (a.add 1 8)) (most - least) (a.add 1 0)
  | capture body, a =>
    match scan with
    | .forward => (body.lay .forward (a.add 1 0)).add 1 0
    | .backward => body.lay .backward a
  | concat parts, a =>
    match scan with
    | .forward => layForward .forward parts a
    | .backward => layBackward parts a
  | alternation branches, a =>
    match branches.mapM word? with
    | some words => a.addChoice scan words
    | none =>
      match branches with
      | first :: second :: rest =>
        let a := second.lay scan (first.lay scan a)
        layForward scan rest (a.add 2 (4 * branches.length))
      | rest => layForward scan rest a

/-- Adds expressions from the first to the last. -/
def layForward (scan : Scan) : List Regex → Automaton → Automaton
  | [], a => a
  | r :: rs, a => layForward scan rs (r.lay scan a)

/-- Adds expressions from the last to the first, each to be read backward. -/
def layBackward : List Regex → Automaton → Automaton
  | [], a => a
  | r :: rs, a => r.lay .backward (layBackward rs a)

end

/-- The automaton that finds an expression anywhere in a text. One that is bound to an end of
the text does not have to look for a place to begin. Only the one that reads forward marks what
it has found. -/
def finder (scan : Scan) (r : Regex) : Automaton :=
  let anchored := match scan with
    | .forward => r.extent.fromStart
    | .backward => r.extent.toEnd
  let start := if anchored then Automaton.empty.add 1 0 else Automaton.empty.add 3 16
  match scan with
  | .forward => (r.lay .forward (start.add 1 0)).add 2 0
  | .backward => (r.lay .backward start).add 1 0

/-- A choice among very many words, which needs no automaton. -/
def isWordList : Regex → Bool
  | alternation branches => 3000 ≤ branches.length && branches.all fun r => r.word?.isSome
  | _ => false

/-- The expression is not too large. -/
def fits (r : Regex) : Bool :=
  r.isWordList || (!(r.finder .forward).isFull && !(r.finder .backward).isFull)

end DocUpdate.Regex
