import MethodTrace.Pattern.Brackets

/-!
Reading of whole patterns.

A pattern is read from left to right. What has been read of a group, branch by branch, is kept
until the group is closed; a repetition takes the item before it.
-/

namespace MethodTrace.Pattern

/-- What has been read of a group: the finished branches and the items of the present one, each
with the last one first. -/
structure Branches where
  finished : List Tree
  items : List Tree

/-- A group that is still open: what opened it, what was read around it, and whether blanks are
skipped behind it. -/
structure OpenGroup where
  kind : GroupKind
  around : Branches
  verbose : Bool

namespace Branches

def start : Branches := ⟨[], []⟩

def add (branches : Branches) (item : Tree) : Branches :=
  { branches with items := item :: branches.items }

/-- Ends the present branch. -/
def next (branches : Branches) : Branches :=
  ⟨Tree.ofItems branches.items.reverse :: branches.finished, []⟩

/-- All branches as one pattern. -/
def toTree (branches : Branches) : Tree :=
  Tree.ofBranches branches.next.finished.reverse

end Branches

namespace Scanner

/-- Whether an item can be repeated. -/
def isRepeatable : Tree → Bool
  | .empty | .flags _ => false
  | _ => true

/-- Repeats the item before a repetition; a question mark behind it asks for as few as possible and
changes nothing about what can match. -/
def repeatLast (branches : Branches) (least : Nat) (most : Option Nat) : Scanner Branches := do
  match branches.items with
  | item :: items =>
    if !isRepeatable item then failure
    let _ ← take? ['?']
    return { branches with items := .repetition item least most :: items }
  | [] => failure

/-- Reads the counts of a repetition in braces. -/
def counts : Scanner (Nat × Option Nat) := do
  bumpSkip
  let least ← decimal
  if (← peek) = ',' then
    bumpSkip
    if (← peek) = '}' then return (least, none)
    let most ← decimal
    if most < least then failure
    return (least, some most)
  else return (least, some least)

/-- Reads a repetition in braces. -/
def counted (branches : Branches) : Scanner Branches := do
  let (least, most) ← counts
  if (← peek) ≠ '}' then failure
  bumpSkip
  repeatLast branches least most

/-- Whether flags turn the skipping of blanks on or off. -/
def verboseOf? (flags : FlagList) : Option Bool :=
  (flags.find? (·.1 == .verbose)).map (·.2)

def setVerbose (verbose : Bool) : Scanner Unit :=
  modify ({ · with verbose })

/-- Reads the rest of a pattern inside some groups; each step takes a character, so `fuel` may be
any bound on what is left. -/
def patternRest : (fuel : Nat) → Branches → List OpenGroup → Scanner Tree
  | 0, _, _ => failure
  | fuel + 1, current, outer => do
    skip
    match ← peek? with
    | none => if outer.isEmpty then return current.toTree else failure
    | some '(' =>
      let verbose := (← get).verbose
      match ← opening with
      | .flags flags =>
        setVerbose ((verboseOf? flags).getD verbose)
        patternRest fuel (current.add (.flags flags)) outer
      | .group kind =>
        let inner := match kind with
          | .plain flags => (verboseOf? flags).getD verbose
          | .capture => verbose
        setVerbose inner
        patternRest fuel Branches.start (⟨kind, current, verbose⟩ :: outer)
    | some ')' =>
      match outer with
      | [] => failure
      | group :: outer =>
        setVerbose group.verbose
        bump
        patternRest fuel (group.around.add (.group group.kind current.toTree)) outer
    | some '|' =>
      bump
      patternRest fuel current.next outer
    | some '[' => patternRest fuel (current.add (← brackets)) outer
    | some '?' =>
      bump
      patternRest fuel (← repeatLast current 0 (some 1)) outer
    | some '*' =>
      bump
      patternRest fuel (← repeatLast current 0 none) outer
    | some '+' =>
      bump
      patternRest fuel (← repeatLast current 1 none) outer
    | some '{' => patternRest fuel (← counted current) outer
    | some _ => patternRest fuel (current.add (.primitive (← primitive))) outer

end Scanner

/-- How many constructions may lie inside each other. -/
def maxDepth : Nat := 250

/-- Reads a pattern. -/
def Tree.parse? (text : String) : Option Tree := do
  let scan : Scan := ⟨text.toList, false, []⟩
  let (tree, _) ← Scanner.patternRest (text.length + 1) Branches.start [] |>.run scan
  if tree.depth ≤ maxDepth then some tree else none

end MethodTrace.Pattern
