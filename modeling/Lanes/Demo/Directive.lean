import Lanes.Log
import Lanes.Number.Reading
import Lanes.Pattern.Reader
import Lanes.Text.Offset

/-!
# Directives of log filters

A directive has the form `target[span{field}]=level` and names the least grave level to show. A
level alone is for all sources, and where no level is given every level is meant. Blanks around a
directive do not count while its parts are told apart. The parts are then cut out of the directive
as it stands, at the same offsets. So blanks in front shift all of them, and a part may come to
begin or end within a character.
-/
namespace Lanes.Demo

/-- The levels that a directive lets through. -/
inductive Threshold where
  | off
  | atLeast (level : Level)
  deriving DecidableEq, Repr

namespace Threshold

/-- The threshold with a number on the scale of talkativeness. -/
def ofNumber? : Nat → Option Threshold
  | 0 => some .off
  | 1 => some (.atLeast .error)
  | 2 => some (.atLeast .warn)
  | 3 => some (.atLeast .info)
  | 4 => some (.atLeast .debug)
  | 5 => some (.atLeast .trace)
  | _ => none

/-- The threshold with a name in any mixture of cases. -/
def ofName? (cs : List Char) : Option Threshold :=
  match String.ofList (cs.map Char.toLower) with
  | "off" => some .off
  | "error" => some (.atLeast .error)
  | "warn" => some (.atLeast .warn)
  | "info" => some (.atLeast .info)
  | "debug" => some (.atLeast .debug)
  | "trace" => some (.atLeast .trace)
  | _ => none

def ofChars? (cs : List Char) : Option Threshold :=
  ((Decimal.natural? cs).bind ofNumber?).or (ofName? cs)

def allows : Threshold → Level → Bool
  | off, _ => false
  | atLeast least, level => least.rank ≤ level.rank

end Threshold

/-- Which events to show. -/
structure Directive where
  /-- What the target of a source has to begin with. -/
  scope : List Char
  /-- The fields that an event has to have. -/
  fields : List (List Char)
  /-- Whether it is about spans, of which no event is part. -/
  aboutSpans : Bool
  threshold : Threshold
  deriving DecidableEq, Repr

namespace Directive

/-- Shows what is at least as grave as a level. -/
def atLeast (level : Level) : Directive := ⟨[], [], false, .atLeast level⟩

/-- The one field that events have. -/
def messageField : List Char := "message".toList

/-- Whether the directive says which events of a source to show. -/
def covers (d : Directive) (source : LogSource) : Bool :=
  !d.aboutSpans && d.scope.isPrefixOf source.target.toList && d.fields.all (· = messageField)

/-- Whether a directive decides where an earlier one covers the same source. -/
def overrides (d earlier : Directive) : Bool :=
  earlier.scope.length < d.scope.length ||
    (earlier.scope.length = d.scope.length && earlier.fields.length ≤ d.fields.length)

/-- Whether a field may have a value, which is a number or a pattern. -/
def isFieldValue (cs : List Char) : Bool := (Reading.float? cs).isSome || Pattern.isPattern cs

/-- Adds a field. The value of a field, if it has one, lies between the first and the second sign of
equality. A field with a value is one of spans. -/
def addField? (d : Directive) (text : List Char) : Option Directive :=
  match text.dropWhile (· ≠ '=') with
  | [] => some { d with fields := d.fields ++ [text] }
  | _ :: rest =>
    if isFieldValue (rest.takeWhile (· ≠ '=')) then some { d with aboutSpans := true } else none

/-! ### Reading -/

/-- Why a text is no directive. -/
inductive Fault where
  | unreadable
  /-- A part begins or ends within a character. -/
  | splitsCharacter
  deriving DecidableEq, Repr

/-- The part of a directive that is being read, and the offset at which it began. -/
inductive Part where
  | beginning
  /-- A level or a target, which the sign behind it decides. -/
  | word (start : Nat)
  | span (start : Nat)
  | field (start : Nat)
  | behindField
  | behindSpan
  | level (start : Nat)
  deriving DecidableEq, Repr

/-- Whether a level or a target may begin with a character. -/
def beginsWord (c : Char) : Bool :=
  Alphanumeric.isAlphanumeric c || c = '-' || c = ':' || c = '_'

/-- A part of a directive, if it is whole. -/
def cut (part : Option (List Char)) : Except Fault (List Char) :=
  match part with
  | none => .error .splitsCharacter
  | some text => .ok text

/-- What comes of a directive, if anything. -/
def readable {α : Type} (result : Option α) : Except Fault α :=
  match result with
  | none => .error .unreadable
  | some a => .ok a

/-- Takes in the character at an offset. -/
def step (whole : List Char) (offset : Nat) (c : Char) (d : Directive) :
    Part → Except Fault (Part × Directive)
  | .beginning =>
    if c = '[' then .ok (.span (offset + 1), d)
    else if beginsWord c then .ok (.word offset, d)
    else .error .unreadable
  | .word start =>
    if c = '=' then
      (cut (Offset.between? start offset whole)).map (fun scope =>
        (.level (offset + 1), { d with scope }))
    else if c = '[' then
      (cut (Offset.between? start offset whole)).map (fun scope =>
        (.span (offset + 1), { d with scope }))
    else .ok (.word start, d)
  | .span start =>
    if c = ']' then
      (cut (Offset.between? start offset whole)).map (fun _ =>
        (.behindSpan, { d with aboutSpans := true }))
    else if c = '\x7b' then
      (cut (Offset.between? start offset whole)).map (fun name =>
        (.field (offset + 1), { d with aboutSpans := d.aboutSpans || name ≠ [] }))
    else .ok (.span start, d)
  | .field start =>
    if c = '\x7d' then
      match cut (Offset.between? start offset whole) with
      | .error fault => .error fault
      | .ok [] => .error .unreadable
      | .ok text => (readable (d.addField? text)).map (fun e => (.behindField, e))
    else .ok (.field start, d)
  | .behindField => if c = ']' then .ok (.behindSpan, d) else .error .unreadable
  | .behindSpan => if c = '=' then .ok (.level (offset + 1), d) else .error .unreadable
  | .level start => .ok (.level start, d)

/-- Takes in the end of the text. -/
def finish (whole : List Char) (d : Directive) : Part → Except Fault Directive
  | .word start =>
    (cut (Offset.drop? start whole)).map (fun text =>
      match Threshold.ofChars? text with
      | some threshold => { d with threshold }
      | none => { d with scope := text })
  | .behindSpan => .ok d
  | .level start =>
    match cut (Offset.drop? start whole) with
    | .error fault => .error fault
    | .ok [] => .ok d
    | .ok text => (readable (Threshold.ofChars? text)).map (fun threshold => { d with threshold })
  | .beginning | .span _ | .field _ | .behindField => .error .unreadable

/-- Reads on from an offset. -/
def readFrom (whole : List Char) : Nat → List Char → Directive → Part → Except Fault Directive
  | _, [], d, part => finish whole d part
  | offset, c :: rest, d, part =>
    match step whole offset c d part with
    | .error fault => .error fault
    | .ok next => readFrom whole (offset + c.utf8Size) rest next.2 next.1

/-- Reads a directive. -/
def ofChars (whole : List Char) : Except Fault Directive :=
  readFrom whole 0 (Blank.trimList whole) (atLeast .trace) .beginning

end Directive
end Lanes.Demo
