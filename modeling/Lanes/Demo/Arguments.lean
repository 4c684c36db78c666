import Lanes.Demo.Setting

/-!
# Command-line arguments

Arguments are read from left to right, and the first that is refused decides. An option may carry
its value behind an equals sign; then it is set at once. Otherwise the argument behind it may be
its value, unless that begins with a dash and is longer than a single dash. Such a value is pending:
it is set, or found missing, only where the next known option or the end of the arguments shows
that it is complete. An unknown argument is refused without a look at what is pending.
-/
namespace Lanes.Demo

/-- What an argument looks like. -/
inductive Token where
  /-- Two dashes alone: no options follow. -/
  | terminator
  /-- Two dashes and a name, possibly with a value. -/
  | long (name : String) (value : Option String)
  /-- A dash and letters, of which the first counts. -/
  | short (letter : Char)
  /-- Anything else. -/
  | word

namespace Token

/-- The parts before and behind the first equals sign. -/
def splitEquals (cs : List Char) : List Char × Option (List Char) :=
  match cs.dropWhile (· ≠ '=') with
  | [] => (cs, none)
  | _ :: behind => (cs.takeWhile (· ≠ '='), some behind)

def ofChars : List Char → Token
  | ['-', '-'] => .terminator
  | '-' :: '-' :: cs =>
    let parts := splitEquals cs
    .long (String.ofList parts.1) (parts.2.map String.ofList)
  | '-' :: letter :: _ => .short letter
  | _ => .word

def ofText (argument : String) : Token := ofChars argument.toList

end Token

/-- What a known option asks for. -/
inductive Known where
  | setting (setting : Setting)
  | stop (reason : Rejection)

namespace Known

def ofName? (name : String) : Option Known :=
  match name with
  | "help" => some (.stop .helpWanted)
  | "version" => some (.stop .versionWanted)
  | _ => (Setting.ofOption? name).map .setting

def ofLetter? : Char → Option Known
  | 'h' => some (.stop .helpWanted)
  | 'V' => some (.stop .versionWanted)
  | _ => none

end Known

/-- An option whose value is not set yet, or has not come yet. -/
structure Pending where
  setting : Setting
  value : Option String

namespace Choices

/-- Sets what is pending. -/
def commit (c : Choices) : Option Pending → Except Rejection Choices
  | .none => .ok c
  | some ⟨setting, .none⟩ => .error (.missingValue setting)
  | some ⟨setting, some value⟩ => c.set setting value

/-- Reads arguments on. -/
def read (c : Choices) (pending : Option Pending) : List String → Except Rejection Choices
  | [] => c.commit pending
  | argument :: rest =>
    match Token.ofText argument with
    | .terminator =>
      match rest with
      | [] => c.commit pending
      | next :: _ => .error (.unknownArgument next)
    | .word =>
      match pending with
      | some ⟨setting, .none⟩ => read c (some ⟨setting, some argument⟩) rest
      | _ => .error (.unknownArgument argument)
    | .short letter =>
      match Known.ofLetter? letter with
      | some (.stop reason) => (c.commit pending).bind (fun _ => .error reason)
      | _ => .error (.unknownArgument argument)
    | .long name value =>
      match Known.ofName? name, value with
      | .none, _ => .error (.unknownArgument argument)
      | some (.stop _), some _ => .error (.needlessValue name)
      | some (.stop reason), .none => (c.commit pending).bind (fun _ => .error reason)
      | some (.setting setting), .none =>
        match c.commit pending with
        | .error reason => .error reason
        | .ok committed => read committed (some ⟨setting, .none⟩) rest
      | some (.setting setting), some given =>
        match (c.commit pending).bind (fun committed => committed.set setting given) with
        | .error reason => .error reason
        | .ok changed => read changed .none rest

end Choices

/-- The settings that arguments and environment make. -/
def Settings.read (arguments : List String) (environment : List (String × String)) :
    Except Rejection Settings :=
  match Choices.none.read .none arguments with
  | .error reason => .error reason
  | .ok given => (given.setAllFrom environment).map Choices.complete

end Lanes.Demo
