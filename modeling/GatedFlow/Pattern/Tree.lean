import GatedFlow.Pattern.CharSet

/-! # Pattern trees and matching

A pattern is matched by following the set of all positions at once: `step` sends the set of positions where
a part may start to the set where it may end. A set of positions is a list of flags, one for each gap
between characters. Nothing is tried twice, so there is no backtracking, and a repetition grows its set
until nothing new is reached. -/

namespace GatedFlow

/-- A condition on the gap between two characters. -/
inductive Look where
  | textStart
  | textEnd
  | lineStart (carriageReturn : Bool)
  | lineEnd (carriageReturn : Bool)
  | wordEdge (ascii : Bool)
  | noWordEdge (ascii : Bool)
  | wordStart (ascii : Bool)
  | wordEnd (ascii : Bool)
  | wordStartHalf (ascii : Bool)
  | wordEndHalf (ascii : Bool)

/-- The code points before and after a gap. -/
structure Gap where
  before : Option Nat
  after : Option Nat

namespace Look

def wordAt (ascii : Bool) : Option Nat → Bool
  | none => false
  | some n => if ascii then n < 128 && isWordChar (Char.ofNat n) else isWordChar (Char.ofNat n)

/-- Whether a gap satisfies a condition. Where a carriage return counts as a line end, the gap inside a
carriage return and line feed is neither the start nor the end of a line. -/
def holds (g : Gap) : Look → Bool
  | textStart => g.before.isNone
  | textEnd => g.after.isNone
  | lineStart false => g.before.isNone || g.before == some 10
  | lineEnd false => g.after.isNone || g.after == some 10
  | lineStart true => g.before.isNone || g.before == some 10 || (g.before == some 13 && g.after != some 10)
  | lineEnd true => g.after.isNone || g.after == some 13 || (g.after == some 10 && g.before != some 13)
  | wordEdge a => wordAt a g.before != wordAt a g.after
  | noWordEdge a => wordAt a g.before == wordAt a g.after
  | wordStart a => !wordAt a g.before && wordAt a g.after
  | wordEnd a => wordAt a g.before && !wordAt a g.after
  | wordStartHalf a => !wordAt a g.before
  | wordEndHalf a => !wordAt a g.after

end Look

inductive PatternTree where
  | empty
  | chars (set : CharSet)
  | look (condition : Look)
  | group (body : PatternTree)
  | sequence (parts : List PatternTree)
  | choice (parts : List PatternTree)
  | repetition (body : PatternTree) (least : Nat) (most : Option Nat)

/-- A set of gaps, one flag for each. -/
abbrev GapSet := List Bool

namespace GapSet

def union (s t : GapSet) : GapSet := List.zipWith (· || ·) s t

def minus (s t : GapSet) : GapSet := List.zipWith (fun a b => a && !b) s t

/-- Applies a step a number of times, or until it changes nothing. -/
def iterate (f : GapSet → GapSet) : Nat → GapSet → GapSet
  | 0, s => s
  | n + 1, s =>
    let next := f s
    if next == s then s else iterate f n next

/-- What a number of further steps reaches from `frontier`, together with `reached`. -/
def close (f : GapSet → GapSet) : Nat → GapSet → GapSet → GapSet
  | 0, reached, _ => reached
  | n + 1, reached, frontier =>
    let fresh := (f frontier).minus reached
    if fresh.any id then close f n (reached.union fresh) fresh else reached

end GapSet

/-- A text as patterns see it: its code points and its gaps. -/
structure Subject where
  points : List Nat
  gaps : List Gap

namespace Subject

/-- The gaps of a text, given the code point before it. -/
def gapsFrom (before : Option Nat) : List Nat → List Gap
  | [] => [⟨before, none⟩]
  | n :: rest => ⟨before, some n⟩ :: gapsFrom (some n) rest

def ofString (s : String) : Subject :=
  let points := s.toList.map Char.toNat
  ⟨points, gapsFrom none points⟩

end Subject

namespace PatternTree

mutual
/-- The gaps where a match of the tree may end, given those where it may start. -/
def step (text : Subject) : PatternTree → GapSet → GapSet
  | empty, s => s
  | chars set, s => false :: List.zipWith (fun start n => start && set.mem n) s text.points
  | look condition, s => List.zipWith (fun start g => start && condition.holds g) s text.gaps
  | group body, s => body.step text s
  | sequence parts, s => stepThrough text parts s
  | choice parts, s => stepAny text parts s
  | repetition body least most, s =>
    let start := GapSet.iterate (fun s => body.step text s) least s
    let rounds := match most with
      | none => text.gaps.length
      | some most => min (most - least) text.gaps.length
    GapSet.close (fun s => body.step text s) rounds start start

def stepThrough (text : Subject) : List PatternTree → GapSet → GapSet
  | [], s => s
  | part :: rest, s => stepThrough text rest (part.step text s)

def stepAny (text : Subject) : List PatternTree → GapSet → GapSet
  | [], s => s.map fun _ => false
  | part :: rest, s => (part.step text s).union (stepAny text rest s)
end

mutual
/-- How deeply repetitions, groups, sequences and choices nest. -/
def depth : PatternTree → Nat
  | empty | chars _ | look _ => 0
  | group body => body.depth + 1
  | sequence parts => depthOfAll parts + 1
  | choice parts => depthOfAll parts + 1
  | repetition body _ _ => body.depth + 1

def depthOfAll : List PatternTree → Nat
  | [] => 0
  | part :: rest => max part.depth (depthOfAll rest)
end

/-- How many states a set of characters needs, roughly: large tables need many. -/
def setWeight : CharSet → Nat
  | .none => 1
  | .range _ high => if high < 128 then 1 else 4
  | .ranges table => table.length + 1
  | .digits => 60
  | .blanks => 12
  | .wordChars | .categories _ => 1400
  | .union a b | .inter a b | .diff a b => setWeight a + setWeight b
  | .complement a => setWeight a + 20
  | .anyCase a => setWeight a + 1

mutual
/-- How many states the pattern needs when counted repetitions are written out. -/
def weight : PatternTree → Nat
  | empty | look _ => 1
  | chars set => setWeight set
  | group body => body.weight + 2
  | sequence parts => weightOfAll parts
  | choice parts => weightOfAll parts + 1
  | repetition body least most => body.weight * max 1 (most.getD (least + 1)) + 1

def weightOfAll : List PatternTree → Nat
  | [] => 0
  | part :: rest => part.weight + weightOfAll rest
end

/-- Whether the pattern matches somewhere in the text. -/
def matchesIn (t : PatternTree) (s : String) : Bool :=
  let text := Subject.ofString s
  (t.step text (text.gaps.map fun _ => true)).any id

end PatternTree
end GatedFlow
