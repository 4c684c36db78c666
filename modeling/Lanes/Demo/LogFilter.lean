import Lanes.Demo.Directive

/-!
# Log filters

A filter is a list of directives between commas. Of the directives that cover a source the one with
the longest scope decides, of these the one with the most fields, and of equals the last. What no
directive covers is not shown.
-/
namespace Lanes.Demo

/-- A list of directives. -/
structure LogFilter where
  directives : List Directive
  deriving DecidableEq, Repr

namespace LogFilter

/-- Shows what is at least as grave as a level. -/
def atLeast (level : Level) : LogFilter := ⟨[.atLeast level]⟩

/-- Reads directives one after the other, up to the first fault. -/
def readEach : List (List Char) → Except Directive.Fault (List Directive)
  | [] => .ok []
  | piece :: rest =>
    match Directive.ofChars piece with
    | .error fault => .error fault
    | .ok d => (readEach rest).map (d :: ·)

/-- Reads a filter; without any directive it shows errors. -/
def ofText (text : String) : Except Directive.Fault LogFilter :=
  match readEach ((Blank.splitComma text.toList).filter (· ≠ [])) with
  | .error fault => .error fault
  | .ok [] => .ok (atLeast .error)
  | .ok directives => .ok ⟨directives⟩

/-- The filter that a text asks for. If there is none, or it is unreadable, what is at least worth
an `info` is shown. There is no filter where a directive splits a character. -/
def ofSetting? : Option String → Option LogFilter
  | none => some (atLeast .info)
  | some text =>
    match ofText text with
    | .ok filter => some filter
    | .error .unreadable => some (atLeast .info)
    | .error .splitsCharacter => none

/-- The directive that decides about a source. -/
def governing (filter : LogFilter) (source : LogSource) : Option Directive :=
  filter.directives.foldl (fun found d =>
    if d.covers source ∧ found.all d.overrides then some d else found) none

/-- Whether a line is shown. -/
def shows (filter : LogFilter) (line : LogLine) : Bool :=
  match filter.governing line.source with
  | some d => d.threshold.allows line.level
  | none => false

end LogFilter
end Lanes.Demo
