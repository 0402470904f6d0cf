import FlowOffload.Json.Skip
import FlowOffload.Settings.Setup

/-!
# Reading settings

Settings are written as a JSON object whose members may come in any order, or as an array with the
values in the order of `Settings.Field.all`; what is missing keeps its default.  Members with other
names are skipped, and a setting that is given twice is an error.  Numbers are written in digits
only, addresses as dotted text, and nothing but blanks may follow.

* `Settings.parse?`: the settings a text stands for, not yet checked.
* `Settings.load`: the settings in a file, checked.
-/

namespace FlowOffload.Settings

open Json (Token)

/-- The value that a token stands for. -/
def Value.ofToken? : Token → Option Value
  | .number spelling =>
    if spelling.all Char.isDigit then some (.number (Nat.ofDigitChars 10 spelling 0)) else none
  | .bool b => some (.flag b)
  | .text pieces => do
    let cs ← Json.characters? pieces
    let a ← Ipv4.parse? cs
    return .address a
  | _ => none

/-- Sets a setting to what a token stands for. -/
def readField (s : Settings) (f : Field) (t : Token) : Option Settings := do
  s.assign f (← Value.ofToken? t)

/-- Reads the rest of an array, whose next value is for the first of the fields. -/
def readElements (s : Settings) : List Field → List Token → Option Settings
  | f :: fs, t :: r => do
    let s ← s.readField f t
    match r with
    | [.closeBracket] => some s
    | .comma :: r => readElements s fs r
    | _ => none
  | _, _ => none

/-- Reads the rest of an object from a member on; `seen` are the settings given so far. -/
def readMembers (s : Settings) (seen : List Field) (ts : List Token) : Option Settings :=
  match ts with
  | .text pieces :: .colon :: r =>
    match Json.characters? pieces with
    | none => none
    | some cs =>
      match Field.ofName? cs with
      | some f =>
        match r with
        | t :: r =>
          if f ∈ seen then none
          else
            match s.readField f t with
            | none => none
            | some s =>
              match r with
              | [.closeBrace] => some s
              | .comma :: r => readMembers s (f :: seen) r
              | _ => none
        | [] => none
      | none =>
        match _h : Json.skipValue [] r with
        | none => none
        | some rest =>
          match rest with
          | [.closeBrace] => some s
          | .comma :: rest => readMembers s seen rest
          | _ => none
  | _ => none
termination_by ts.length
decreasing_by
  · simp only [List.length_cons]; omega
  · have := Json.length_skipValue ‹_›
    simp only [List.length_cons] at this ⊢; omega

/-- The settings that tokens stand for. -/
def ofTokens? : List Token → Option Settings
  | [.openBrace, .closeBrace] => some {}
  | .openBrace :: r => readMembers {} [] r
  | [.openBracket, .closeBracket] => some {}
  | .openBracket :: r => readElements {} Field.all r
  | _ => none

/-- The settings that a text stands for. -/
def parse? (text : List Char) : Option Settings := (Json.tokens? text).bind ofTokens?

/-- The settings in a file with the given content, or without one, if they can be run with. -/
def load (content : Option ByteArray) : Except SetupError Settings :=
  match content with
  | none => .error (.io "No such file or directory (os error 2)")
  | some bytes =>
    match String.fromUTF8? bytes with
    | none => .error (.io "stream did not contain valid UTF-8")
    | some text =>
      match parse? text.toList with
      | none => .error .json
      | some s =>
        match s.check with
        | .error e => .error e
        | .ok () => .ok s

end FlowOffload.Settings
