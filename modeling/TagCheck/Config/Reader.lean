/-
# Reading a configuration

A configuration file is a JSON object with some of the known fields, or a list with
the values of all of them in order.  Fields that are not known are passed over, and
`null` is as good as no value.  The first fault ends reading.
-/

import TagCheck.Config.Field
import TagCheck.Json.Skip

namespace TagCheck.Config

open Json

/-- The value that stands where one of another type is wanted, as messages name
it. -/
def foundInstead : Reader String := fun text =>
  match text with
  | 'n' :: rest => (wordRest ['u', 'l', 'l'] rest).map fun rest => ("null", rest)
  | 't' :: rest => (wordRest ['r', 'u', 'e'] rest).map fun rest => ("boolean `true`", rest)
  | 'f' :: rest => (wordRest ['a', 'l', 's', 'e'] rest).map fun rest => ("boolean `false`", rest)
  | '-' :: rest => (Number.read true rest).map fun (number, rest) => (number.describe, rest)
  | '"' :: rest =>
      (Json.string rest).map fun (read, rest) =>
        ("string " ++ Quoted.quote (String.ofList read), rest)
  | '[' :: _ => .ok ("sequence", text)
  | '\x7b' :: _ => .ok ("map", text)
  | [] => failAtNext .valueWanted []
  | c :: _ =>
      if Number.isDigit c then
        (Number.read false text).map fun (number, rest) => (number.describe, rest)
      else failAtNext .valueWanted text

/-- Fail because a value of this description was wanted. -/
def mismatch {α : Type} (wanted : String) (text : List Char) : Except Failure α :=
  match foundInstead text with
  | .error failure => .error failure
  | .ok (found, rest) => failHere (.wrongType found wanted) rest

/-- Read a string where one of this description is wanted. -/
def text (wanted : String) : Reader String := fun input =>
  match skipBlanks input with
  | [] => failAtNext .endInValue []
  | '"' :: rest => (Json.string rest).map fun (read, rest) => (String.ofList read, rest)
  | other => mismatch wanted other

/-- Read `true` or `false`. -/
def flag : Reader Bool := fun input =>
  match skipBlanks input with
  | [] => failAtNext .endInValue []
  | 't' :: rest => (wordRest ['r', 'u', 'e'] rest).map fun rest => (true, rest)
  | 'f' :: rest => (wordRest ['a', 'l', 's', 'e'] rest).map fun rest => (false, rest)
  | other => mismatch "a boolean" other

/-- What a count is called in messages. -/
def countName : String := "usize"

/-- Take a number for a count. -/
def countOf (number : Number) : Reader Nat := fun rest =>
  match number with
  | .natural value => .ok (value, rest)
  | .negative _ => failHere (.wrongValue number.describe countName) rest
  | .fraction _ => failHere (.wrongType number.describe countName) rest

/-- Read a natural number. -/
def count : Reader Nat := fun input =>
  let counted (isNegative : Bool) (digits : List Char) : Except Failure (Nat × List Char) :=
    match Number.read isNegative digits with
    | .error failure => .error failure
    | .ok (number, rest) => countOf number rest
  match skipBlanks input with
  | [] => failAtNext .endInValue []
  | '-' :: rest => counted true rest
  | c :: rest =>
      if Number.isDigit c then counted false (c :: rest) else mismatch countName (c :: rest)

/-- Read the strings of a list behind its opening bracket.  `found` holds those
that are read, latest first; if there is none yet, no comma is wanted. -/
def textsFrom (fuel : Nat) (found : List String) : Reader (List String) := fun input =>
  match fuel with
  | 0 => .ok (found.reverse, input)
  | fuel + 1 =>
      let next (start : List Char) : Except Failure (List String × List Char) :=
        match text "a string" start with
        | .error failure => .error failure
        | .ok (value, rest) => textsFrom fuel (value :: found) rest
      match skipBlanks input with
      | [] => failAtNext .endInList []
      | ']' :: rest => .ok (found.reverse, rest)
      | c :: rest =>
          if found.isEmpty then next (c :: rest)
          else if c = ',' then
            match skipBlanks rest with
            | [] => failAtNext .endInValue []
            | ']' :: rest => failAtNext .commaAtEnd (']' :: rest)
            | other => next other
          else failAtNext .listCommaOrEndWanted (c :: rest)

/-- Read a list of strings. -/
def texts : Reader (List String) := fun input =>
  match skipBlanks input with
  | [] => failAtNext .endInValue []
  | '[' :: rest => textsFrom (rest.length + 1) [] rest
  | other => mismatch "a sequence" other

/-- Read the word for an overflow policy. -/
def policyWord : Reader OverflowPolicy := fun input =>
  match text "variant identifier" input with
  | .error failure => .error failure
  | .ok (word, rest) =>
      match OverflowPolicy.ofKeyword? word with
      | some policy => .ok (policy, rest)
      | none => failHere (.unknownWord word OverflowPolicy.keywords) rest

/-- Read `null`. -/
def unit : Reader Unit := fun input =>
  match skipBlanks input with
  | [] => failAtNext .endInValue []
  | 'n' :: rest => (wordRest ['u', 'l', 'l'] rest).map fun rest => ((), rest)
  | other => mismatch "unit" other

/-- Read an overflow policy: its word, or an object that holds nothing but `null`
under the word. -/
def policy : Reader OverflowPolicy := fun input =>
  match skipBlanks input with
  | [] => failAtNext .endInValue []
  | '"' :: rest => policyWord ('"' :: rest)
  | '\x7b' :: rest =>
      match policyWord rest with
      | .error failure => .error failure
      | .ok (policy, rest) =>
          match skipBlanks rest with
          | [] => failAtNext .endInObject []
          | ':' :: rest =>
              match unit rest with
              | .error failure => .error failure
              | .ok (_, rest) =>
                  match skipBlanks rest with
                  | [] => failHere .endInObject []
                  | '\x7d' :: rest => .ok (policy, rest)
                  | other => failHere .valueWanted other
          | other => failAtNext .colonWanted other
  | other => failAtNext .valueWanted other

/-- Read a value or `null`. -/
def optional {α : Type} (reader : Reader α) : Reader (Option α) := fun input =>
  match skipBlanks input with
  | 'n' :: rest => (wordRest ['u', 'l', 'l'] rest).map fun rest => (none, rest)
  | other => (reader other).map fun (value, rest) => (some value, rest)

/-- Read the value of a field into a configuration. -/
def fieldValue (c : Config) : Field → Reader Config
  | .extensions => fun input =>
      (optional texts input).map fun (value, rest) => ({ c with extensions := value }, rest)
  | .ignore => fun input =>
      (optional texts input).map fun (value, rest) => ({ c with ignore := value }, rest)
  | .maxDepth => fun input =>
      (optional count input).map fun (value, rest) => ({ c with maxDepth := value }, rest)
  | .overflow => fun input =>
      (optional policy input).map fun (value, rest) => ({ c with overflow := value }, rest)
  | .commentsInTemplateText => fun input =>
      (optional flag input).map fun (value, rest) =>
        ({ c with commentsInTemplateText := value }, rest)
  | .stopOnFirstError => fun input =>
      (optional flag input).map fun (value, rest) => ({ c with stopOnFirstError := value }, rest)
  | .parallel => fun input =>
      (optional flag input).map fun (value, rest) => ({ c with parallel := value }, rest)

/-- What is left where a repeated field is reported: behind the blanks and, if it
comes next, behind the end of the object. -/
def afterRepeated (rest : List Char) : List Char :=
  match skipBlanks rest with
  | '\x7d' :: rest => rest
  | other => other

/-- Read a colon and the value of a field that is known, or pass over the value of
one that is not. -/
def fieldRest (c : Config) (field : Option Field) : Reader Config := fun input =>
  match skipBlanks input with
  | [] => failAtNext .endInObject []
  | ':' :: rest =>
      match field with
      | some field => fieldValue c field rest
      | none => (skipValue rest).map fun rest => (c, rest)
  | other => failAtNext .colonWanted other

/-- Read the fields of an object behind its opening brace into a configuration that
has those of `seen` already.  Before the first field no comma is wanted. -/
def fieldsFrom (fuel : Nat) (isFirst : Bool) (seen : List Field) (c : Config) : Reader Config :=
  fun input =>
    match fuel with
    | 0 => .ok (c, input)
    | fuel + 1 =>
        let next (start : List Char) : Except Failure (Config × List Char) :=
          match Json.string start with
          | .error failure => .error failure
          | .ok (key, rest) =>
              let field := Field.ofName? (String.ofList key)
              match field.filter seen.contains with
              | some repeated => failHere (.repeatedField repeated.name) (afterRepeated rest)
              | none =>
                  match fieldRest c field rest with
                  | .error failure => .error failure
                  | .ok (c, rest) => fieldsFrom fuel false (field.toList ++ seen) c rest
        match skipBlanks input with
        | [] => failAtNext .endInObject []
        | '\x7d' :: rest => .ok (c, rest)
        | other =>
            if isFirst then
              match other with
              | '"' :: rest => next rest
              | _ => failAtNext .keyWanted other
            else
              match other with
              | ',' :: rest =>
                  match skipBlanks rest with
                  | [] => failAtNext .endInValue []
                  | '"' :: rest => next rest
                  | '\x7d' :: rest => failAtNext .commaAtEnd ('\x7d' :: rest)
                  | other => failAtNext .keyWanted other
              | _ => failAtNext .objectCommaOrEndWanted other

/-- Read the end of a list that has all its values. -/
def listEnd (input : List Char) : Except Failure (List Char) :=
  match skipBlanks input with
  | [] => failAtNext .endInList []
  | ']' :: rest => .ok rest
  | ',' :: rest =>
      match skipBlanks rest with
      | ']' :: rest => failAtNext .commaAtEnd (']' :: rest)
      | other => failAtNext .moreAtEnd other
  | other => failAtNext .moreAtEnd other

/-- What a configuration is called in messages. -/
def shapeName : String := "struct ProjectConfig"

/-- Read the values of these fields from a list, of which `count` values have been
read. -/
def valuesFrom (count : Nat) (c : Config) : List Field → Reader Config
  | [] => fun input => (listEnd input).map fun rest => (c, rest)
  | field :: others => fun input =>
      let next (start : List Char) : Except Failure (Config × List Char) :=
        match fieldValue c field start with
        | .error failure => .error failure
        | .ok (c, rest) => valuesFrom (count + 1) c others rest
      match skipBlanks input with
      | [] => failAtNext .endInList []
      | ']' :: rest =>
          let wanted := shapeName ++ " with " ++ toString Field.all.length ++ " elements"
          failHere (.wrongLength count wanted) rest
      | other =>
          if count = 0 then next other
          else
            match other with
            | ',' :: rest =>
                match skipBlanks rest with
                | [] => failAtNext .endInValue []
                | ']' :: rest => failAtNext .commaAtEnd (']' :: rest)
                | other => next other
            | _ => failAtNext .listCommaOrEndWanted other

/-- Read a configuration at the front of a text. -/
def read : Reader Config := fun input =>
  match skipBlanks input with
  | [] => failAtNext .endInValue []
  | '[' :: rest => valuesFrom 0 unset Field.all rest
  | '\x7b' :: rest => fieldsFrom (rest.length + 1) true [] unset rest
  | other => mismatch shapeName other

/-- The configuration that a whole text holds, or what is wrong with it. -/
def parse (text : String) : Except Failure Config :=
  match read text.toList with
  | .error failure => .error failure
  | .ok (c, rest) =>
      match skipBlanks rest with
      | [] => .ok c
      | other => failAtNext .moreAtEnd other

end TagCheck.Config
