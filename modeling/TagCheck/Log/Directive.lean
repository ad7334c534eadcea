/-
# Directives

A directive says how much detail is logged.  It may be about the parts of the program
whose names begin in some way, about what happens in a context of some name, or about
what has some field.  It is a level, the beginning of a name, or

    target[context{field=value}]=level

of which all but one may be left out.
-/

import TagCheck.Log.Context
import TagCheck.Log.Pattern
import TagCheck.Text.Alphanumeric
import TagCheck.Text.Blank

namespace TagCheck.Log

/-- How much detail to log: what ranks at most as high. -/
structure Detail where
  rank : Nat
  deriving DecidableEq, Repr

/-- The number that digits stand for, with a plus sign before them or not. -/
def naturalOf? (text : List Char) : Option Nat :=
  let digits := match text with
    | '+' :: rest => rest
    | others => others
  if digits.isEmpty || !digits.all Char.isDigit then none
  else some (digits.foldl (fun value c => 10 * value + (c.toNat - '0'.toNat)) 0)

namespace Detail

def nothing : Detail := ⟨0⟩

def everything : Detail := ⟨5⟩

/-- The words for amounts of detail. -/
def words : List (String × Detail) :=
  [("off", nothing), ("error", ⟨1⟩), ("warn", ⟨2⟩), ("info", ⟨3⟩), ("debug", ⟨4⟩),
    ("trace", everything)]

/-- The detail a word or a number stands for; case does not matter. -/
def ofText? (text : String) : Option Detail :=
  match naturalOf? text.toList with
  | some rank => if rank ≤ everything.rank then some ⟨rank⟩ else none
  | none => (words.find? (·.1 == text.toLower)).map (·.2)

/-- Whether this is enough detail for a level. -/
def covers (detail : Detail) (level : Level) : Bool := level.rank ≤ detail.rank

/-- The greater amount. -/
def max (first second : Detail) : Detail := if first.rank ≤ second.rank then second else first

end Detail

/-- What the value of a field has to be. -/
inductive ValueDemand where
  | count (value : Nat)
  /-- Something that no count is: a flag, a fraction, or text of some pattern. -/
  | other
  deriving DecidableEq, Repr

/-- A field that something has to have. -/
structure FieldDemand where
  name : String
  value : Option ValueDemand
  deriving DecidableEq, Repr

/-- A part of a filter. -/
structure Directive where
  /-- What the names of the parts of the program meant begin with; all of them if there
  is none. -/
  target : Option String
  /-- The name of the contexts meant. -/
  context : Option String
  field : Option FieldDemand
  detail : Detail
  deriving DecidableEq, Repr

/-- What is wrong with the text of a directive. -/
inductive DirectiveProblem where
  | badForm
  /-- What stands behind the equals sign is no level. -/
  | badLevel
  /-- What the value of a field has to match is no pattern. -/
  | badPattern
  deriving DecidableEq, Repr

namespace DirectiveProblem

def message : DirectiveProblem → String
  | badForm => "invalid filter directive"
  | badLevel =>
      "error parsing level filter: expected one of \"off\", \"error\", \"warn\", \"info\", " ++
        "\"debug\", \"trace\", or a number 0-5"
  | badPattern => "invalid field filter: error building NFA"

end DirectiveProblem

namespace ValueDemand

/-- The greatest count. -/
def maxCount : Nat := 0xFFFFFFFFFFFFFFFF

/-- Whether a text behind its first digits is an exponent, or nothing. -/
def isExponent : List Char → Bool
  | [] => true
  | mark :: text =>
      let digits := match text with
        | '+' :: rest | '-' :: rest => rest
        | others => others
      (mark == 'e' || mark == 'E') && !digits.isEmpty && digits.all Char.isDigit

/-- Whether a text is a number, or stands for infinity or for no number. -/
def isNumber (text : List Char) : Bool :=
  let unsigned := match text with
    | '+' :: rest | '-' :: rest => rest
    | others => others
  let whole := unsigned.takeWhile Char.isDigit
  let rest := unsigned.dropWhile Char.isDigit
  let (fraction, rest) := match rest with
    | '.' :: digits => (digits.takeWhile Char.isDigit, digits.dropWhile Char.isDigit)
    | others => ([], others)
  (!whole.isEmpty || !fraction.isEmpty) && isExponent rest ||
    ["inf", "infinity", "nan"].contains (String.ofList unsigned).toLower

/-- What a text asks of a value. -/
def ofText? (text : List Char) : Option ValueDemand :=
  match (naturalOf? text).filter (· ≤ maxCount) with
  | some value => some (count value)
  | none => if isNumber text || Pattern.isWellFormed text then some other else none

/-- Whether a count is as demanded. -/
def allows (demand : ValueDemand) (value : Nat) : Bool := demand == count value

end ValueDemand

/-- What a text between braces asks for.  What follows a second equals sign does not
count. -/
def FieldDemand.ofText? (text : List Char) : Option FieldDemand :=
  let name := String.ofList (text.takeWhile (· ≠ '='))
  match text.dropWhile (· ≠ '=') with
  | [] => some ⟨name, none⟩
  | _ :: value =>
      (ValueDemand.ofText? (value.takeWhile (· ≠ '='))).map fun value => ⟨name, some value⟩

namespace Directive

/-- The number of bytes of a text. -/
def sizeOf (text : List Char) : Nat := text.foldl (fun size c => size + c.utf8Size) 0

/-- The text behind so many bytes. -/
def dropBytes : Nat → List Char → List Char
  | 0, text => text
  | _, [] => []
  | size, c :: rest => dropBytes (size - c.utf8Size) rest

/-- The characters within so many bytes. -/
def takeBytes (size : Nat) : List Char → List Char
  | [] => []
  | c :: rest => if c.utf8Size ≤ size then c :: takeBytes (size - c.utf8Size) rest else []

/-- As much of a text as `part` takes, behind as much as `before` takes. -/
def slice (text before part : List Char) : List Char :=
  takeBytes (sizeOf part) (dropBytes (sizeOf before) text)

/-- Characters a directive can start with. -/
def canStart (c : Char) : Bool :=
  c == '[' || c == '-' || c == ':' || c == '_' || Alphanumeric.isAlphanumeric c

/-- The detail that is given behind an equals sign; everything if there is nothing. -/
def readLevel (text : List Char) : Except DirectiveProblem Detail :=
  if text.isEmpty then .ok .everything
  else
    match Detail.ofText? (String.ofList text) with
    | some detail => .ok detail
    | none => .error .badLevel

/-- Read what follows the square brackets. -/
def readAfterBrackets (text before rest : List Char) : Except DirectiveProblem Detail :=
  match rest with
  | [] => .ok .everything
  | '=' :: _ => readLevel (dropBytes (sizeOf before + 1) text)
  | _ => .error .badForm

/-- Read what stands between square brackets and behind them.  `before` is what stands
before `rest` in the text without blanks. -/
def readBrackets (text : List Char) (target : Option String) (before rest : List Char) :
    Except DirectiveProblem Directive :=
  let isInName (c : Char) : Bool := c != ']' && c != '\x7b'
  let name := rest.takeWhile isInName
  let context := String.ofList (slice text before name)
  let before := before ++ name
  match rest.dropWhile isInName with
  | ']' :: rest => do
      return ⟨target, some context, none, ← readAfterBrackets text (before ++ [']']) rest⟩
  | '\x7b' :: rest =>
      let content := rest.takeWhile (· ≠ '\x7d')
      let before := before ++ ['\x7b']
      match rest.dropWhile (· ≠ '\x7d') with
      | [] => .error .badForm
      | _ :: rest =>
          if content.isEmpty then .error .badForm
          else
            match FieldDemand.ofText? (slice text before content), rest with
            | none, _ => .error .badPattern
            | some field, ']' :: rest => do
                let context := if name.isEmpty then none else some context
                let before := before ++ content ++ ['\x7d', ']']
                return ⟨target, context, some field, ← readAfterBrackets text before rest⟩
            | some _, _ => .error .badForm
  | _ => .error .badForm

/-- The directive a text stands for, or what is wrong with it.  Where its parts are is
told without the blanks around it, but they are read from the whole text, as many
bytes behind its start. -/
def parse (text : String) : Except DirectiveProblem Directive :=
  let text := text.toList
  let inner := Blank.trim text
  if !inner.head?.any canStart then .error .badForm
  else
    let isInTarget (c : Char) : Bool := c != '=' && c != '['
    let name := inner.takeWhile isInTarget
    let target := if name.isEmpty then none else some (String.ofList (slice text [] name))
    match inner.dropWhile isInTarget with
    | [] =>
        match Detail.ofText? (String.ofList text) with
        | some detail => .ok ⟨none, none, none, detail⟩
        | none => .ok ⟨some (String.ofList text), none, none, .everything⟩
    | '=' :: _ => do
        return ⟨target, none, none, ← readLevel (dropBytes (sizeOf name + 1) text)⟩
    | _ :: rest => readBrackets text target (name ++ ['[']) rest

/-- Whether the directive says the same of everything it is about, in whatever context
it is. -/
def isPlain (d : Directive) : Bool := d.context.isNone && !d.field.any (·.value.isSome)

/-- Whether the directive is about contexts, perhaps besides others. -/
def isAboutContexts (d : Directive) : Bool := d.context.isSome || d.field.isSome

/-- Whether the directive is about the part of the program of this name. -/
def concerns (d : Directive) (target : String) : Bool :=
  match d.target with
  | none => true
  | some start => start.toList.isPrefixOf target.toList

/-- Whether the directive is about something in this part of the program with fields
of these names. -/
def concernsFields (d : Directive) (target : String) (fields : List String) : Bool :=
  d.concerns target && d.field.all fun field => fields.contains field.name

/-- Whether the directive is about batches. -/
def concernsBatches (d : Directive) : Bool :=
  d.isAboutContexts && d.concernsFields Batch.target [Batch.filesField] &&
    d.context.all (· == Batch.name)

/-- Whether a batch is as the directive demands. -/
def allowsBatch (d : Directive) (batch : Batch) : Bool :=
  (d.field.bind (·.value)).all (·.allows batch.files)

/-- Whether two directives are about the same, so that the later one replaces the
other. -/
def replaces (later earlier : Directive) : Bool :=
  later.target == earlier.target && later.context == earlier.context &&
    later.field == earlier.field

/-- How long the beginning of the name is that tells what the directive is about. -/
def targetSize (d : Directive) : Nat :=
  match d.target with
  | none => 0
  | some start => start.utf8ByteSize + 1

/-- Whether a later plain directive comes before an earlier one about the same thing:
it tells more closely what it is about, by a longer target or by a field, or it
replaces the other. -/
def supersedes (later earlier : Directive) : Bool :=
  if later.targetSize ≠ earlier.targetSize then later.targetSize > earlier.targetSize
  else
    match later.field, earlier.field with
    | none, some _ => false
    | some field, some other => !(decide (field.name < other.name))
    | _, none => true

end Directive

end TagCheck.Log
