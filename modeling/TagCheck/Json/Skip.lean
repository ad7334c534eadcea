/-
# Passing over a value

A field that the shape does not know may hold any value.  It is passed over with a
stack of the lists and objects that it is inside of, innermost first.
-/

import TagCheck.Json.Number
import TagCheck.Json.Text

namespace TagCheck.Json

/-- What a value can be inside of. -/
inductive Container where
  | list
  | object
  deriving DecidableEq, Repr

namespace Container

def closer : Container → Char
  | list => ']'
  | object => '\x7d'

/-- What is wrong if the text ends in one. -/
def endFault : Container → Fault
  | list => .endInList
  | object => .endInObject

/-- What is wrong if a value in one is followed by neither a comma nor its end. -/
def commaFault : Container → Fault
  | list => .listCommaOrEndWanted
  | object => .objectCommaOrEndWanted

end Container

/-- Pass over a key and its colon if the next value is a field of an object. -/
def skipKey (container : Container) (text : List Char) : Except Failure (List Char) :=
  match container with
  | .list => .ok text
  | .object =>
      match skipBlanks text with
      | '"' :: rest =>
          match skipString rest with
          | .error failure => .error failure
          | .ok rest =>
              match skipBlanks rest with
              | ':' :: rest => .ok rest
              | [] => failAtNext .endInObject []
              | rest => failAtNext .colonWanted rest
      | [] => failAtNext .endInObject []
      | rest => failAtNext .keyWanted rest

/-- The start of a value passed over: all of it, or the opening of a container. -/
def skipHead (text : List Char) : Except Failure (Option Container × List Char) :=
  match skipBlanks text with
  | [] => failAtNext .endInValue []
  | c :: rest =>
      let whole (skipped : Except Failure (List Char)) := skipped.map fun rest => (none, rest)
      match c with
      | 'n' => whole (wordRest ['u', 'l', 'l'] rest)
      | 't' => whole (wordRest ['r', 'u', 'e'] rest)
      | 'f' => whole (wordRest ['a', 'l', 's', 'e'] rest)
      | '-' => whole (skipNumber rest)
      | '"' => whole (skipString rest)
      | '[' => .ok (some .list, rest)
      | '\x7b' => .ok (some .object, rest)
      | _ =>
          if Number.isDigit c then whole (skipNumber (c :: rest))
          else failAtNext .valueWanted (c :: rest)

/-- Leave the containers that end here.  `afterValue` tells whether a value was
just passed, so that a comma may follow.  What is left to do is in the containers
handed back, the innermost of which goes on; if there are none, the value is
passed. -/
def leave (afterValue : Bool) : List Container → List Char →
    Except Failure (List Container × List Char)
  | [], text => .ok ([], text)
  | container :: outer, text =>
      match skipBlanks text with
      | [] => failAtNext container.endFault []
      | c :: rest =>
          if c = ',' && afterValue then .ok (container :: outer, rest)
          else if c = container.closer then leave true outer rest
          else if afterValue then failAtNext container.commaFault (c :: rest)
          else .ok (container :: outer, c :: rest)

/-- Pass over a value that is inside of containers, and leave all of them. -/
def skipInside (fuel : Nat) (containers : List Container) (text : List Char) :
    Except Failure (List Char) :=
  match fuel with
  | 0 => .ok text
  | fuel + 1 =>
      match skipHead text with
      | .error failure => .error failure
      | .ok (opened, rest) =>
          match leave opened.isNone (opened.toList ++ containers) rest with
          | .error failure => .error failure
          | .ok ([], rest) => .ok rest
          | .ok (container :: outer, rest) =>
              match skipKey container rest with
              | .error failure => .error failure
              | .ok rest => skipInside fuel (container :: outer) rest

/-- Pass over a value.  Every value that is begun takes at least one character. -/
def skipValue (text : List Char) : Except Failure (List Char) :=
  skipInside (text.length + 1) [] text

end TagCheck.Json
