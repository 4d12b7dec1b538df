import LivePipeline.Text.CharSet

/-! Text patterns: regular expressions without look-around, and the search for a match anywhere in
a text. -/

namespace LivePipeline

namespace Pattern

/-- How the characters on both sides of a place relate to the words of a text. -/
inductive WordEdge where
  | boundary
  | inside
  | start
  | finish
  | startHalf
  | finishHalf

/-- A place between two characters. With `paired`, a carriage return ends a line too, unless a line
feed follows it. A word is made of the characters of a set. -/
inductive Anchor where
  | textStart
  | textEnd
  | lineStart (paired : Bool)
  | lineEnd (paired : Bool)
  | word (edge : WordEdge) (set : CharSet)

end Pattern

open Pattern in
inductive Pattern where
  | empty
  | one (set : CharSet)
  | anchor (anchor : Anchor)
  | captured (pattern : Pattern)
  | sequence (first second : Pattern)
  | either (left right : Pattern)
  | repeated (pattern : Pattern) (least : Nat) (most : Option Nat)

namespace Pattern

def WordEdge.holds (before behind : Bool) : WordEdge → Bool
  | boundary => before != behind
  | inside => before == behind
  | start => !before && behind
  | finish => before && !behind
  | startHalf => !before
  | finishHalf => !behind

/-- Whether an anchor holds in front of the character at `index`. -/
def Anchor.holds (text : Array Char) (index : Nat) (anchor : Anchor) : Bool :=
  let before := if index = 0 then none else text[index - 1]?
  let behind := text[index]?
  match anchor with
  | .textStart => before.isNone
  | .textEnd => behind.isNone
  | .lineStart paired =>
    before.isNone || before == some '\n' || (paired && before == some '\r' && behind != some '\n')
  | .lineEnd paired =>
    if paired then
      behind.isNone || behind == some '\r' || (behind == some '\n' && before != some '\r')
    else behind.isNone || behind == some '\n'
  | .word edge set => edge.holds (before.any set.contains) (behind.any set.contains)

/-- Adds the places that `step` reaches until nothing new is found or `fuel` is used up. -/
def grow (step : List Nat → List Nat) : Nat → List Nat → List Nat → List Nat
  | 0, reached, _ => reached
  | fuel + 1, reached, frontier =>
    let next := (step frontier).filter fun place => !reached.contains place
    if next.isEmpty then reached else grow step fuel (reached ++ next) next

/-- Where matches that begin at one of `starts` may end. -/
def ends (text : Array Char) : Pattern → List Nat → List Nat
  | empty, starts => starts
  | one set, starts =>
    starts.filterMap fun place => if text[place]?.any set.contains then some (place + 1) else none
  | anchor place, starts => starts.filter (place.holds text ·)
  | captured pattern, starts => ends text pattern starts
  | sequence first second, starts => ends text second (ends text first starts)
  | either left right, starts => (ends text left starts ++ ends text right starts).eraseDups
  | repeated pattern least most, starts =>
    let step := fun places => (ends text pattern places).eraseDups
    let required := Nat.repeat step (min least (text.size + 1)) starts
    let fuel := match most with
      | some most => min (most - least) (text.size + 1)
      | none => text.size + 1
    grow step fuel required required

/-- Whether the pattern matches some part of the text. -/
def isMatch (pattern : Pattern) (text : String) : Bool :=
  let chars := text.toList.toArray
  !(pattern.ends chars (List.range (chars.size + 1))).isEmpty

end Pattern

end LivePipeline
