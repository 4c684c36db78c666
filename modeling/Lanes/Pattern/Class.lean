import Lanes.Pattern.Escape

/-!
# Reading classes of characters

A class stands between brackets. It begins with a hat if it is one of all other characters, and may
hold characters, ranges, kinds, named classes and classes in brackets, with operators between them.
-/
namespace Lanes.Pattern

/-! ### Members -/

def Atom.toClassItem? : Atom → Option ClassItem
  | .literal l => some (.literal l)
  | .kind negated => some (.kind negated)
  | .anyChar | .edge | .wordEdge => none

/-- Reads what may be the begin or the end of a range. -/
def member? (free : Bool) : List Char → Option (Atom × List Char)
  | [] => none
  | '\\' :: rest => escaped? free rest
  | c :: rest => some (.literal (.plain c), rest)

/-- The range from one member to another. -/
def range? : Atom → Atom → Option ClassItem
  | .literal first, .literal last =>
    if first.char.toNat ≤ last.char.toNat then some (.range first last) else none
  | _, _ => none

/-- Reads a range or a single member. A hyphen makes no range in front of another hyphen or of the
closing bracket. -/
def rangeOrMember? (free : Bool) (cs : List Char) : Option (ClassItem × List Char) :=
  match member? free cs with
  | none => none
  | some (first, rest) =>
    let behind := skip free rest
    let afterHyphen := upcoming? free behind.tail
    if behind.head? ≠ some '-' ∨ afterHyphen = some ']' ∨ afterHyphen = some '-' then
      first.toClassItem?.map (fun item => (item, behind))
    else
      match member? free (skip free behind.tail) with
      | none => none
      | some (last, rest) => (range? first last).map (fun item => (item, rest))

def classNames : List String :=
  ["alnum", "alpha", "ascii", "blank", "cntrl", "digit", "graph", "lower", "print", "punct",
    "space", "upper", "word", "xdigit"]

/-- Reads a named class of the form `[:name:]` behind its first bracket. -/
def namedClass? : List Char → Option (ClassItem × List Char)
  | ':' :: rest =>
    let negated := rest.head? = some '^'
    let named := if negated then rest.tail else rest
    match named.dropWhile (· ≠ ':') with
    | ':' :: ']' :: behind =>
      if String.ofList (named.takeWhile (· ≠ ':')) ∈ classNames then some (.named negated, behind)
      else none
    | _ => none
  | _ => none

/-! ### Classes -/

/-- A class whose closing bracket is yet to come. -/
structure OpenClass where
  negated : Bool
  /-- Whether nothing but hyphens came so far. -/
  fresh : Bool
  /-- What is combined with the items, and how. -/
  left : Option (ClassContent × ClassOperator)
  /-- The items, the latest in front. -/
  items : List ClassItem

namespace OpenClass

/-- Begins a class behind its opening bracket. -/
def begin (free : Bool) (cs : List Char) : OpenClass × List Char :=
  match skip free cs with
  | '^' :: rest => (⟨true, true, none, []⟩, rest)
  | rest => (⟨false, true, none, []⟩, rest)

def content (o : OpenClass) : ClassContent :=
  match o.left with
  | none => .union o.items.reverse
  | some (left, operator) => .combined operator left o.items.reverse

def add (o : OpenClass) (item : ClassItem) : OpenClass :=
  { o with fresh := false, items := item :: o.items }

/-- Adds a hyphen with nothing but hyphens in front. -/
def addHyphen (o : OpenClass) : OpenClass :=
  { o with items := .literal (.plain '-') :: o.items }

/-- Goes on behind an operator. -/
def combine (o : OpenClass) (operator : ClassOperator) : OpenClass :=
  { o with fresh := false, left := some (o.content, operator), items := [] }

/-- Reads on in a class that lies in others, the innermost in front, up to the bracket that closes
the outermost. Each step takes a character, so that as many steps are enough. -/
def readFrom? (free : Bool) :
    Nat → OpenClass → List OpenClass → List Char → Option (OpenClass × List Char)
  | 0, _, _, _ => none
  | n + 1, o, outer, cs =>
    match skip free cs with
    | [] => none
    | c :: rest =>
      if o.fresh ∧ c = '-' then readFrom? free n o.addHyphen outer rest
      else if c = ']' then
        if o.fresh ∧ o.items.isEmpty then
          readFrom? free n (o.add (.literal (.plain ']'))) outer rest
        else
          match outer with
          | [] => some (o, rest)
          | enclosing :: further =>
            readFrom? free n (enclosing.add (.nested o.negated o.content)) further rest
      else if c = '[' then
        match namedClass? rest with
        | some (item, behind) => readFrom? free n (o.add item) outer behind
        | none =>
          let inner := begin free rest
          readFrom? free n inner.1 (o :: outer) inner.2
      else
        match c, rest with
        | '&', '&' :: behind => readFrom? free n (o.combine .intersection) outer behind
        | '-', '-' :: behind => readFrom? free n (o.combine .difference) outer behind
        | '~', '~' :: behind => readFrom? free n (o.combine .symmetricDifference) outer behind
        | _, _ =>
          match rangeOrMember? free (c :: rest) with
          | none => none
          | some (item, behind) => readFrom? free n (o.add item) outer behind

end OpenClass

/-- Reads a class behind its opening bracket. -/
def class? (free : Bool) (cs : List Char) : Option (OpenClass × List Char) :=
  let opened := OpenClass.begin free cs
  OpenClass.readFrom? free cs.length opened.1 [] opened.2

end Lanes.Pattern
