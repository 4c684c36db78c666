import Lanes.Pattern.Basic

/-!
# Which patterns can be matched

Patterns are matched against texts in UTF-8, byte by byte, and classes and cases are known of ASCII
only. So under the flag `unicode` all is refused that asks for the letters or the cases of all
characters, and without it all that may stand for a part of a character.
-/
namespace Lanes.Pattern

/-- The flags on which it depends what can be matched. -/
structure Scope where
  unicode : Bool
  caseless : Bool
  deriving DecidableEq, Repr

namespace Scope

/-- The scope of a pattern that changes no flags. -/
def standard : Scope := ⟨true, false⟩

def change (s : Scope) (change : FlagChange) : Scope :=
  ⟨change.apply .unicode s.unicode, change.apply .caseless s.caseless⟩

def allowsAtom (s : Scope) : Atom → Bool
  | .literal l => if s.unicode then !s.caseless else !l.asByte || l.isAscii
  | .anyChar => s.unicode
  | .edge => true
  | .wordEdge => !s.unicode
  | .kind negated => !s.unicode && !negated

/-- Whether a character may be a member of a class. -/
def allowsMember (s : Scope) (l : Literal) : Bool :=
  if s.unicode then !s.caseless else l.isAscii

/-- Whether a class may be one of all other characters. -/
def allowsOthers (s : Scope) (negated : Bool) : Bool := s.unicode || !negated

end Scope

mutual

def ClassItem.allowedIn (s : Scope) : ClassItem → Bool
  | .literal l => s.allowsMember l
  | .range first last => s.allowsMember first && s.allowsMember last
  | .kind negated => !s.unicode && !negated
  | .named negated => if s.unicode then !s.caseless else !negated
  | .nested negated content => s.allowsOthers negated && content.allowedIn s

def ClassContent.allowedIn (s : Scope) : ClassContent → Bool
  | .union items => classAllowedIn s items
  | .combined _ left right => left.allowedIn s && classAllowedIn s right

/-- Whether all of the items are allowed. -/
def classAllowedIn (s : Scope) : List ClassItem → Bool
  | [] => true
  | item :: rest => item.allowedIn s && classAllowedIn s rest

end

mutual

/-- The scope behind an item, if the item can be matched. -/
def Item.scopeBehind? (s : Scope) : Item → Option Scope
  | .atom a => if s.allowsAtom a then some s else none
  | .flags change => some (s.change change)
  | .bracketed negated content =>
    if s.allowsOthers negated && content.allowedIn s then some s else none
  | .repeated item => item.scopeBehind? s
  | .group change branches => (scopeBehindBranches? (s.change change) branches).map (fun _ => s)

/-- The scope behind a row, if all of it can be matched. -/
def scopeBehindRow? (s : Scope) : List Item → Option Scope
  | [] => some s
  | item :: rest =>
    match item.scopeBehind? s with
    | none => none
    | some behind => scopeBehindRow? behind rest

/-- The scope behind branches, each of which begins in the scope behind the one before it. -/
def scopeBehindBranches? (s : Scope) : List (List Item) → Option Scope
  | [] => some s
  | row :: rest =>
    match scopeBehindRow? s row with
    | none => none
    | some behind => scopeBehindBranches? behind rest

end

/-- Whether a pattern can be matched. -/
def isSupported (branches : List (List Item)) : Bool :=
  (scopeBehindBranches? .standard branches).isSome

end Lanes.Pattern
