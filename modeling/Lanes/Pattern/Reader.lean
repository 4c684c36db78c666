import Lanes.Pattern.Class
import Lanes.Pattern.Scope
import Lanes.Text.Alphanumeric

/-!
# Reading patterns

A pattern is read from left to right with the groups that are open at hand. It has to keep a limit
of height, and all of it has to be such that it can be matched.
-/
namespace Lanes.Pattern

/-! ### Groups -/

/-- What begins behind an opening parenthesis. -/
inductive Opening where
  | group (change : FlagChange)
  | named (name : List Char)
  /-- No group, but a change of flags in the row. -/
  | flags (change : FlagChange)
  deriving DecidableEq, Repr

/-- Whether a group may have a name. -/
def isName : List Char → Bool
  | [] => false
  | c :: rest =>
    (c = '_' || Alphabetic.isAlphabetic c) &&
      rest.all (fun c => Alphanumeric.isAlphanumeric c || c ∈ ['_', '.', '[', ']'])

/-- Reads the name of a group, which ends in front of a `>`. -/
def name? (cs : List Char) : Option (Opening × List Char) :=
  match cs.dropWhile (· ≠ '>') with
  | [] => none
  | _ :: rest =>
    let name := cs.takeWhile (· ≠ '>')
    if isName name then some (.named name, rest) else none

/-- Reads flags on behind a change. Those behind a hyphen are cleared. -/
def flags? (change : FlagChange) (clearing : Bool) : List Char → Option (Opening × List Char)
  | [] => none
  | c :: rest =>
    if c = ':' ∨ c = ')' then
      if clearing ∧ change.off.isEmpty then none
      else if c = ':' then some (.group change, rest)
      else if change = .nothing then none
      else some (.flags change, rest)
    else if c = '-' then if clearing then none else flags? change true rest
    else
      match Flag.ofChar? c with
      | none => none
      | some flag =>
        if change.mentions flag then none
        else if clearing then flags? { change with off := flag :: change.off } clearing rest
        else flags? { change with on := flag :: change.on } clearing rest

/-- Reads what follows an opening parenthesis. -/
def opening? (free : Bool) (cs : List Char) : Option (Opening × List Char) :=
  match skip free cs with
  | '?' :: 'P' :: '<' :: rest => name? rest
  | '?' :: '<' :: rest => name? rest
  | '?' :: rest => flags? .nothing false rest
  | rest => some (.group .nothing, rest)

/-- A group whose closing parenthesis is yet to come. -/
structure OpenGroup where
  change : FlagChange
  /-- Whether the layout is free. -/
  free : Bool
  /-- The branches that have ended, the latest in front. -/
  branches : List (List Item)
  /-- The items of the branch under way, the latest in front. -/
  items : List Item

namespace OpenGroup

/-- Begins a group in a layout. -/
def begin (change : FlagChange) (free : Bool) : OpenGroup :=
  ⟨change, change.apply .freeLayout free, [], []⟩

def add (g : OpenGroup) (item : Item) : OpenGroup := { g with items := item :: g.items }

/-- Begins another branch. -/
def turn (g : OpenGroup) : OpenGroup :=
  { g with branches := g.items.reverse :: g.branches, items := [] }

/-- All branches, with the one under way as the last. -/
def allBranches (g : OpenGroup) : List (List Item) := g.turn.branches.reverse

/-- Repeats the latest item. -/
def repeat? (g : OpenGroup) : Option OpenGroup :=
  match g.items with
  | [] | .flags _ :: _ => none
  | item :: before => some { g with items := .repeated item :: before }

end OpenGroup

/-! ### The whole pattern -/

/-- How far a pattern is read. -/
structure Progress where
  /-- The names of groups so far. -/
  names : List (List Char)
  /-- The innermost group, or the whole. -/
  group : OpenGroup
  /-- The groups around it, the innermost in front. -/
  outer : List OpenGroup

namespace Progress

/-- The begin of a pattern. -/
def initial : Progress := ⟨[], .begin .nothing false, []⟩

def add (p : Progress) (item : Item) : Progress := { p with group := p.group.add item }

def enter (p : Progress) (change : FlagChange) : Progress :=
  { p with group := .begin change p.group.free, outer := p.group :: p.outer }

/-- Goes on behind an opening parenthesis. No two groups have one name. -/
def open? (p : Progress) : Opening → Option Progress
  | .group change => some (p.enter change)
  | .named name =>
    if name ∈ p.names then none else some ({ p with names := name :: p.names }.enter .nothing)
  | .flags change =>
    some { p with
      group := { p.group with free := change.apply .freeLayout p.group.free }.add (.flags change) }

/-- Goes on behind a closing parenthesis. -/
def close? (p : Progress) : Option Progress :=
  match p.outer with
  | [] => none
  | enclosing :: further =>
    some { p with
      group := enclosing.add (.group p.group.change p.group.allBranches), outer := further }

/-- Takes in a character, and as much of what follows as belongs to it. -/
def step? (p : Progress) (c : Char) (rest : List Char) : Option (Progress × List Char) :=
  match c with
  | '(' =>
    match opening? p.group.free rest with
    | none => none
    | some (opening, behind) => (p.open? opening).map (fun next => (next, behind))
  | ')' => p.close?.map (fun next => (next, rest))
  | '|' => some ({ p with group := p.group.turn }, rest)
  | '[' =>
    (class? p.group.free rest).map (fun r => (p.add (.bracketed r.1.negated r.1.content), r.2))
  | '?' | '*' | '+' =>
    p.group.repeat?.map (fun group =>
      ({ p with group }, if rest.head? = some '?' then rest.tail else rest))
  | '\x7b' => none
  | '\\' => (escaped? p.group.free rest).map (fun r => (p.add (.atom r.1), r.2))
  | '.' => some (p.add (.atom .anyChar), rest)
  | '^' | '$' => some (p.add (.atom .edge), rest)
  | c => some (p.add (.atom (.literal (.plain c))), rest)

/-- Reads on. Each step takes a character, so that one more step than characters is enough. -/
def readFrom? : Nat → Progress → List Char → Option (List (List Item))
  | 0, _, _ => none
  | n + 1, p, cs =>
    match skip p.group.free cs with
    | [] => if p.outer.isEmpty then some p.group.allBranches else none
    | c :: rest =>
      match p.step? c rest with
      | none => none
      | some (next, behind) => readFrom? n next behind

end Progress

/-- How many levels a pattern may have. -/
def maxHeight : Nat := 250

/-- Reads a pattern. -/
def ofChars? (cs : List Char) : Option (List (List Item)) :=
  (Progress.initial.readFrom? (cs.length + 1) cs).filter
    (fun branches => height branches ≤ maxHeight)

/-- Whether a text is a pattern that can be matched. -/
def isPattern (cs : List Char) : Bool := (ofChars? cs).any isSupported

end Lanes.Pattern
