import LeftRec.Regex.Engine
import LeftRec.Regex.Program

/-!
# Matching — running the automaton

The automaton is run on all its ways at once.  At every place the states that are reached are kept
in the order in which they are preferred, each once, together with the places saved on the way to
them.  A way that is done ends all that are less preferred.  Of all places where a match may start
the leftmost wins.
-/

namespace LeftRec
namespace Regex

/-- A state that takes a character or is done, and the places saved on the way to it. -/
structure Thread where
  state : Nat
  slots : Slots

/-- The states reached at a place so far, and the threads there, the least preferred first. -/
structure Front where
  seen : List Nat
  threads : List Thread

/-- A place in the text: its number, and the characters around it. -/
structure Place where
  number : Nat
  before : Option Char
  after : Option Char

/-- Add what can be reached from a state without taking a character.  Each level of recursion
reaches a new state, so the number of states is fuel enough. -/
def follow (program : Program) (place : Place) : Nat → Nat → Slots → Front → Front
  | 0, _, _, front => front
  | fuel + 1, state, slots, front =>
      if front.seen.contains state then front
      else
        let front := { front with seen := state :: front.seen }
        match program[state]? with
        | none => front
        | some (.take _) | some .done =>
            { front with threads := ⟨state, slots⟩ :: front.threads }
        | some (.look kind wide) =>
            if kind.holds wide place.before place.after then
              follow program place fuel (state + 1) slots front
            else front
        | some (.save slot) =>
            follow program place fuel (state + 1) (slots.set slot (some place.number)) front
        | some (.split first second) =>
            follow program place fuel second slots (follow program place fuel first slots front)
        | some (.jump target) => follow program place fuel target slots front

/-- Add what can be reached from a state at a place. -/
def enter (program : Program) (place : Place) (state : Nat) (slots : Slots) (front : Front) :
    Front :=
  follow program place (program.size + 1) state slots front

/-- The threads that are preferred to the first one that is done, and what that one saved. -/
def untilDone (program : Program) : List Thread → List Thread × Option Slots
  | [] => ([], none)
  | thread :: rest =>
      match program[thread.state]? with
      | some .done => ([], some thread.slots)
      | _ =>
          let (live, found) := untilDone program rest
          (thread :: live, found)

/-- Let the threads take a character, and say what they reach at the place after it. -/
def advance (program : Program) (c : Char) (place : Place) (threads : List Thread) : Front :=
  threads.foldl (fun (front : Front) (thread : Thread) =>
    match program[thread.state]? with
    | some (.take s) =>
        if s.contains c then enter program place (thread.state + 1) thread.slots front else front
    | _ => front) ⟨[], []⟩

/-- Search the rest of a text, given the front at this place and the best match so far. -/
def search (program : Program) (start : Slots) :
    List Char → Nat → Option Char → Front → Option Slots → Option Slots
  | rest, number, before, front, best =>
      let front :=
        if best.isSome then front else enter program ⟨number, before, rest.head?⟩ 0 start front
      let (live, found) := untilDone program front.threads.reverse
      let best := found.or best
      if live.isEmpty && best.isSome then best
      else
        match rest with
        | [] => best
        | c :: rest =>
            search program start rest (number + 1) (some c)
              (advance program c ⟨number + 1, some c, rest.head?⟩ live) best

/-- The automaton of an expression, and how many groups the expression has. -/
structure Automaton where
  program : Program
  groups : Nat

/-- Where an automaton matches a text leftmost: the match itself and then each group, if it took
part. -/
def Automaton.captures (e : Automaton) (text : List Char) : Option (List (Option (Nat × Nat))) :=
  (search e.program (unsaved e.groups) text 0 none ⟨[], []⟩ none).map pairUp

/-- The automaton of the expression that a text stands for, unless it is too large. -/
def Automaton.compile? (source : String) : Option Automaton :=
  (parse? source).bind fun r =>
    if r.weight ≤ weightLimit then some ⟨r.program, r.groups⟩ else none

instance : Engine Automaton where
  compile? := Automaton.compile?
  captures := Automaton.captures

end Regex
end LeftRec
