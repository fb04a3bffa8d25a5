import FilterSql.Pattern.CharSet

/-!
Patterns as trees, and how they match. The alternatives of a pattern are ordered: among the matches
that start at one place the first in that order counts, and among places the leftmost.
-/

namespace FilterSql.Pattern

/-- What the two characters around a place can be asked for. -/
inductive Look
  | textStart
  | textEnd
  | lineStart
  | lineEnd
  /-- Line ends that are a line feed, a carriage return or both together. -/
  | crlfLineStart
  | crlfLineEnd
  | wordBoundary (ascii : Bool)
  | notWordBoundary (ascii : Bool)
  | wordStart (ascii : Bool)
  | wordEnd (ascii : Bool)
  | wordStartHalf (ascii : Bool)
  | wordEndHalf (ascii : Bool)
  deriving DecidableEq, Repr

namespace Look

def isWord (ascii : Bool) : Option Char → Bool
  | some c => if ascii then CharSet.asciiWord.contains c else Property.word.contains c
  | none => false

/-- Whether the look holds between the characters `before` and `after`. -/
def holds (before after : Option Char) : Look → Bool
  | textStart => before.isNone
  | textEnd => after.isNone
  | lineStart => before.isNone || before == some '\n'
  | lineEnd => after.isNone || after == some '\n'
  | crlfLineStart =>
    before.isNone || before == some '\n' || (before == some '\r' && after != some '\n')
  | crlfLineEnd =>
    after.isNone || after == some '\r' || (after == some '\n' && before != some '\r')
  | wordBoundary ascii => isWord ascii before != isWord ascii after
  | notWordBoundary ascii => isWord ascii before == isWord ascii after
  | wordStart ascii => !isWord ascii before && isWord ascii after
  | wordEnd ascii => isWord ascii before && !isWord ascii after
  | wordStartHalf ascii => !isWord ascii before
  | wordEndHalf ascii => !isWord ascii after

end Look

inductive Node
  | empty
  | chars (s : CharSet)
  | look (l : Look)
  | seq (first second : Node)
  /-- Both ways, the first one preferred. -/
  | either (first second : Node)
  /-- One round or more; a greedy repetition prefers another round to its end. -/
  | plus (greedy : Bool) (n : Node)
  /-- A repetition that has a round behind it. -/
  | again (greedy : Bool) (n : Node)
  deriving DecidableEq, Repr

namespace Node

/-- A way to go on: the pattern may end here, or take a character of the set and continue. -/
inductive Head
  | done
  | step (s : CharSet) (rest : Node)
  deriving DecidableEq, Repr

def andThen (first second : Node) : Node :=
  match first with
  | empty => second
  | _ => seq first second

def Head.andThen (h : Head) (second : Node) : Head :=
  match h with
  | done => done
  | step s rest => step s (rest.andThen second)

/-- Drops what an earlier entry of the list makes pointless. -/
def dedup (heads : List Head) : List Head :=
  heads.eraseDups

/-- The ways to go on at a place, in order of preference. A round that takes nothing ends a repetition
only if it is the first. -/
def heads (before after : Option Char) : Node → List Head
  | empty => [.done]
  | chars s => [.step s .empty]
  | look l => if l.holds before after then [.done] else []
  | seq first second =>
    let following := heads before after second
    dedup <| (heads before after first).flatMap fun
      | .done => following
      | .step s rest => [.step s (rest.andThen second)]
  | either first second => dedup (heads before after first ++ heads before after second)
  | plus greedy n => (heads before after n).map (Head.andThen · (again greedy n))
  | again greedy n =>
    let rounds := ((heads before after n).filter (· != .done)).map (Head.andThen · (again greedy n))
    if greedy then rounds ++ [.done] else .done :: rounds

/-- Follows all ways to match in step, best first; a way that ends cuts off the ones below it.
The answer is what is left of the text after the best match. -/
def run (before : Option Char) (threads : List Node) (cs : List Char) (best : Option (List Char)) :
    Option (List Char) :=
  let ways := dedup (threads.flatMap (heads before cs.head?))
  let best := if ways.contains .done then some cs else best
  match cs with
  | [] => best
  | c :: rest =>
    let next := (ways.takeWhile (· != .done)).filterMap fun
      | .step s n => if s.contains c then some n else none
      | .done => none
    if next.isEmpty then best else run (some c) next.eraseDups rest best

/-- What is left after a match that starts right here. -/
def matchHere (n : Node) (before : Option Char) (cs : List Char) : Option (List Char) :=
  run before [n] cs none

end Node

end FilterSql.Pattern
