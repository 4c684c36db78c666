/-!
# Patterns

A pattern describes texts. It has branches, of which a text follows one, and a branch is a row of
items. Flags in a row change how all behind them in the same group is taken.
-/
namespace Lanes.Pattern

/-! ### Flags -/

/-- A way to take a pattern, which is on or off. -/
inductive Flag where
  /-- Upper and lower case are one. -/
  | caseless
  /-- The edges of lines count as edges of the text. -/
  | multiline
  /-- Any character may be the end of a line. -/
  | dotAll
  /-- Repetitions take little unless told otherwise. -/
  | lazyFirst
  /-- Classes and cases are those of all characters, and not of ASCII only. -/
  | unicode
  /-- A return belongs to the end of a line. -/
  | returns
  /-- Blanks and comments do not count. -/
  | freeLayout
  deriving DecidableEq, Repr

def Flag.ofChar? : Char → Option Flag
  | 'i' => some .caseless
  | 'm' => some .multiline
  | 's' => some .dotAll
  | 'U' => some .lazyFirst
  | 'u' => some .unicode
  | 'R' => some .returns
  | 'x' => some .freeLayout
  | _ => none

/-- Flags that are set and flags that are cleared. -/
structure FlagChange where
  on : List Flag
  off : List Flag
  deriving DecidableEq, Repr

namespace FlagChange

def nothing : FlagChange := ⟨[], []⟩

def mentions (change : FlagChange) (flag : Flag) : Bool :=
  flag ∈ change.on || flag ∈ change.off

/-- Whether a flag is on behind the change. -/
def apply (change : FlagChange) (flag : Flag) (before : Bool) : Bool :=
  flag ∈ change.on || (before && flag ∉ change.off)

end FlagChange

/-! ### Items -/

/-- A character that stands for itself. -/
structure Literal where
  char : Char
  /-- Whether it is given as the number of a byte. -/
  asByte : Bool
  deriving DecidableEq, Repr

namespace Literal

/-- A character given as such. -/
def plain (c : Char) : Literal := ⟨c, false⟩

def isAscii (l : Literal) : Bool := l.char.toNat < 0x80

end Literal

/-- An item without parts. -/
inductive Atom where
  | literal (l : Literal)
  | anyChar
  /-- The place at the begin or the end of the text or of a line. -/
  | edge
  /-- A place that is told by the letters around it. -/
  | wordEdge
  /-- The digits, the blanks or the letters of words, or all but these. -/
  | kind (negated : Bool)
  deriving DecidableEq, Repr

inductive ClassOperator where
  | intersection
  | difference
  | symmetricDifference
  deriving DecidableEq, Repr

mutual

/-- A part of a class of characters. -/
inductive ClassItem where
  | literal (l : Literal)
  | range (first last : Literal)
  | kind (negated : Bool)
  /-- A class that has a name. -/
  | named (negated : Bool)
  | nested (negated : Bool) (content : ClassContent)

/-- What stands between brackets. Operators bind to the left. -/
inductive ClassContent where
  | union (items : List ClassItem)
  | combined (operator : ClassOperator) (left : ClassContent) (right : List ClassItem)

end

inductive Item where
  | atom (a : Atom)
  /-- A change of flags up to the end of the group. -/
  | flags (change : FlagChange)
  | bracketed (negated : Bool) (content : ClassContent)
  | repeated (item : Item)
  | group (change : FlagChange) (branches : List (List Item))

/-! ### Height

A row or a list of branches counts as a level where it has more than one member.
-/

/-- The height of so many members of which the highest has a given height. -/
def joined (count highest : Nat) : Nat := if 2 ≤ count then highest + 1 else highest

mutual

def ClassItem.height : ClassItem → Nat
  | .nested _ content => content.height + 1
  | .literal _ | .range _ _ | .kind _ | .named _ => 0

def ClassContent.height : ClassContent → Nat
  | .union items => joined items.length (classHeight items)
  | .combined _ left right => max left.height (joined right.length (classHeight right)) + 1

/-- The height of the highest of the items. -/
def classHeight : List ClassItem → Nat
  | [] => 0
  | item :: rest => max item.height (classHeight rest)

end

mutual

def Item.height : Item → Nat
  | .atom _ | .flags _ => 0
  | .bracketed _ content => content.height + 1
  | .repeated item => item.height + 1
  | .group _ branches => joined branches.length (branchesHeight branches) + 1

/-- The height of the highest of the items. -/
def rowHeight : List Item → Nat
  | [] => 0
  | item :: rest => max item.height (rowHeight rest)

/-- The height of the highest of the branches. -/
def branchesHeight : List (List Item) → Nat
  | [] => 0
  | row :: rest => max (joined row.length (rowHeight row)) (branchesHeight rest)

end

/-- How many levels a pattern has. -/
def height (branches : List (List Item)) : Nat := joined branches.length (branchesHeight branches)

end Lanes.Pattern
