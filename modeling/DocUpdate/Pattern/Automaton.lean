import DocUpdate.Pattern.Utf8
import Std.Data.HashMap

/-!
# Automata by size

An automaton that reads bytes is built state by state. Of the automaton itself only the number
of its states and their size matter here: a state counts 32, a range of bytes among several 8
more, and a free choice among several 4 more. It may be read forward or backward.
-/

namespace DocUpdate

/-- Which way an automaton reads. -/
inductive Scan where
  | forward
  | backward
deriving DecidableEq

/-- An automaton in the making: how many states it has, and how large they are together. -/
structure Automaton where
  states : Nat
  size : Nat

namespace Automaton

def empty : Automaton := ⟨0, 0⟩

/-- Adds states, and `extra` for the ranges or choices in them. -/
def add (a : Automaton) (states extra : Nat) : Automaton :=
  ⟨a.states + states, a.size + 32 * states + extra⟩

/-- No automaton may be larger. -/
def limit : Nat := 10485760

def isFull (a : Automaton) : Bool := limit < a.size

/-- Takes a step a number of times, but not after the limit has been passed. -/
def times (step : Automaton → Automaton) : Nat → Automaton → Automaton
  | 0, a => a
  | n + 1, a => if a.isFull then a else times step n (step a)

/-! ## Shared states -/

/-- An automaton with the states that may be used again, by the slot of what they are made of.
What is entered displaces what stood in its slot. -/
structure Sharing where
  automaton : Automaton
  entries : Std.HashMap Nat (List Nat × Nat)

/-- The slot of a list of numbers, by a hash of 64 bits. -/
def slotOf (slots : Nat) (key : List Nat) : Nat :=
  let hash := key.foldl (fun h n => (h ^^^ UInt64.ofNat n) * 1099511628211)
    (14695981039346656037 : UInt64)
  (hash % UInt64.ofNat slots).toNat

/-- Adds a state made of `key` and enters it. -/
def Sharing.enter (s : Sharing) (slot : Nat) (key : List Nat) (extra : Nat) : Nat × Sharing :=
  let id := s.automaton.states
  (id, ⟨s.automaton.add 1 extra, s.entries.insert slot (key, id)⟩)

/-- The state made of `key`: the one entered for it, or a new one. -/
def Sharing.state (s : Sharing) (slots : Nat) (key : List Nat) (extra : Nat) : Nat × Sharing :=
  let slot := slotOf slots key
  match s.entries[slot]? with
  | some (other, id) => if other = key then (id, s) else s.enter slot key extra
  | none => s.enter slot key extra

/-! ## Sets -/

/-- The state that reads what is left of ordered sequences, up to the state `target`. Sequences
that begin alike go on from one state. No sequence is longer than `fuel`. -/
def forwardState (target fuel : Nat) (sequences : List Utf8.Sequence) (s : Sharing) :
    Nat × Sharing :=
  match fuel, sequences with
  | fuel + 1, (_ :: _) :: _ =>
    let groups := sequences.splitBy fun s t => s.head? == t.head?
    let (key, s) := groups.foldl (fun (key, s) group =>
      match group with
      | (range :: _) :: _ =>
        let (next, s) := forwardState target fuel (group.map List.tail) s
        (key ++ [range.1, range.2, next], s)
      | _ => (key, s)) ([], s)
    s.state 10000 key (8 * groups.length)
  | _, _ => (target, s)

/-- The states for sequences, each read from its end. Those that have the same first bytes end
alike. -/
def backwardStates (target : Nat) (sequences : List Utf8.Sequence) (s : Sharing) : Sharing :=
  sequences.foldl (fun s sequence =>
    let s := (sequence.foldl (fun (next, s) range => s.state 1000 [next, range.1, range.2] 0)
      (target, s)).2
    { s with automaton := s.automaton.add 0 4 }) s

/-- Adds a set. One of ASCII characters is a single state with its ranges, and one for the
end. -/
def addSet (scan : Scan) (chars : CharSet) (a : Automaton) : Automaton :=
  if a.isFull then a
  else if chars.isAscii then a.add 2 (8 * chars.ranges.length)
  else
    let sequences := Utf8.sequences chars
    match scan with
    | .forward => (forwardState a.states 4 sequences ⟨a.add 1 0, ∅⟩).2.automaton
    | .backward => (backwardStates (a.states + 1) sequences ⟨a.add 2 0, ∅⟩).automaton

/-! ## Words -/

/-- Words between empty ones. -/
def segments (segment : List (List UInt8)) : List (List UInt8) → List (List (List UInt8))
  | [] => [segment.reverse]
  | [] :: words => segment.reverse :: segments [] words
  | word :: words => segments (word :: segment) words

/-- Drops the empty words in front but for one. -/
def dropRepeats : List (List UInt8) → List (List UInt8)
  | [] :: [] :: words => dropRepeats ([] :: words)
  | words => words

/-- Adds the choice among words by their bytes, the first ones first. An empty word among others
divides them, for the words after it come second. No word is as long as `fuel`. -/
def addWords (fuel : Nat) (words : List (List UInt8)) (a : Automaton) : Automaton :=
  match fuel with
  | 0 => a
  | fuel + 1 =>
    if words.all (·.isEmpty) then a
    else
      let parts := segments [] (dropRepeats words)
      let filled := parts.filter fun segment => !segment.isEmpty
      let a := filled.foldl (fun a segment =>
        let firsts := (segment.filterMap List.head?).eraseDups
        let a := firsts.foldl (fun a byte =>
          addWords fuel ((segment.filter fun word => word.head? == some byte).map List.tail) a) a
        a.add 1 (if firsts.length = 1 then 0 else 8 * firsts.length)) a
      let choices := filled.length + (parts.length - 1)
      if choices = 1 then a else a.add 1 (4 * choices)

/-- Adds a choice among words, with a state for the end of all of them. -/
def addChoice (scan : Scan) (words : List (List UInt8)) (a : Automaton) : Automaton :=
  let words := match scan with
    | .forward => words
    | .backward => words.map List.reverse
  addWords ((words.map List.length).foldl max 0 + 1) words (a.add 1 0)

end Automaton

end DocUpdate
