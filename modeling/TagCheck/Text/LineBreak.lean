/-
# Where a line can be broken

A line can be broken behind spaces, between ideographs, behind most dashes and
slashes, and not within words or numbers, nor so that a closing mark begins a line or
an opening mark ends one.  Whether there is a place between two characters depends on
their classes and on a few things before them, which the context keeps.
-/

import TagCheck.Text.BreakClass

namespace TagCheck.LineBreak

/-- What matters of the characters read so far. -/
structure Context where
  /-- The class of the last character that is neither a space nor a mark that belongs
  to the one before. -/
  last : BreakClass
  /-- Whether spaces follow that character. -/
  spaced : Bool := false
  /-- Whether the very last character is a joiner. -/
  joined : Bool := false
  /-- Whether that character is a hyphen or the like right behind a Hebrew letter. -/
  behindHebrew : Bool := false
  /-- Whether that character is the first half of a flag. -/
  halfFlag : Bool := false
  deriving DecidableEq, Repr

/-- Whether a class is one of syllables or parts of syllables. -/
def isHangul : BreakClass → Bool
  | .hangulInitial | .hangulVowel | .hangulFinal | .hangulOpen | .hangulClosed => true
  | _ => false

/-- Characters that can be broken apart without regard to words. -/
def isPicture : BreakClass → Bool
  | .ideograph | .emojiBase | .emojiModifier => true
  | _ => false

/-- Whether lines end behind the class in any case. -/
def isHard : BreakClass → Bool
  | .lineEnd | .carriageReturn | .lineFeed => true
  | _ => false

/-- Whether the class is part of the character before it. -/
def isAttached : BreakClass → Bool
  | .combining | .joiner => true
  | _ => false

/-- Whether a character of the second class continues the syllable of one of the
first. -/
def continuesSyllable : BreakClass → BreakClass → Bool
  | .hangulInitial, .hangulInitial | .hangulInitial, .hangulVowel
  | .hangulInitial, .hangulOpen | .hangulInitial, .hangulClosed
  | .hangulVowel, .hangulVowel | .hangulVowel, .hangulFinal
  | .hangulOpen, .hangulVowel | .hangulOpen, .hangulFinal
  | .hangulFinal, .hangulFinal | .hangulClosed, .hangulFinal => true
  | _, _ => false

/-- Whether a digit of a number can stand right behind a character. -/
def leadsDigit : BreakClass → Bool
  | .letter | .hebrew | .digit | .beforeNumber | .afterNumber | .hyphen | .separator | .slash
  | .closingParenthesis => true
  | _ => false

/-- Whether a letter of a word can stand right behind a character. -/
def leadsLetter : BreakClass → Bool
  | .letter | .hebrew | .digit | .beforeNumber | .afterNumber | .separator
  | .closingParenthesis => true
  | _ => false

/-- Whether a sign of a number can stand right behind a character. -/
def leadsNumberSign : BreakClass → Bool
  | .letter | .hebrew | .digit | .closing | .closingParenthesis => true
  | _ => false

/-- Whether an opening mark can stand right behind a character. -/
def leadsOpening : BreakClass → Bool
  | .letter | .hebrew | .digit | .beforeNumber | .afterNumber => true
  | _ => false

/-- Whether two characters that follow each other are part of one word, number,
syllable or picture. -/
def together (left right : BreakClass) : Bool :=
  match right with
  | .digit => leadsDigit left
  | .letter | .hebrew => leadsLetter left
  | .opening => leadsOpening left
  | .afterNumber => leadsNumberSign left || isPicture left || isHangul left
  | .beforeNumber => leadsNumberSign left
  | .emojiModifier => left == .emojiBase || left == .beforeNumber
  | .ideograph | .emojiBase => left == .beforeNumber
  | _ => isHangul right && left == .beforeNumber || continuesSyllable left right

/-- Marks that cannot begin a line, even behind spaces. -/
def neverBegins : BreakClass → Bool
  | .closing | .closingParenthesis | .exclamation | .separator | .slash | .wordJoiner => true
  | _ => false

/-- Characters that no line begins with if nothing is between them and the character
before. -/
def clingsBack : BreakClass → Bool
  | .breakAfter | .hyphen | .nonStarter | .ellipsis => true
  | _ => false

/-- Marks that keep the next mark of some kind even across spaces. -/
def keepsAcross : BreakClass → BreakClass → Bool
  | .opening, _ | .quotation, .opening | .closing, .nonStarter
  | .closingParenthesis, .nonStarter | .dash, .dash => true
  | _, _ => false

/-- Whether there is no place to break between a character and the one right behind
it. -/
def adjoins (context : Context) (next : BreakClass) : Bool :=
  if context.last == .wordJoiner || context.last == .glue then true
  else if next == .glue && context.last != .breakAfter && context.last != .hyphen then true
  else if next == .quotation || context.last == .quotation then true
  else if next == .object || context.last == .object then false
  else
    clingsBack next || context.last == .breakBefore || context.behindHebrew ||
      context.last == .slash && next == .hebrew ||
      context.halfFlag && next == .regional || together context.last next

/-- Whether a line cannot be broken before a character of this class. -/
def keeps (context : Context) (next : BreakClass) : Bool :=
  if isHard context.last then context.last == .carriageReturn && next == .lineFeed
  else if isHard next || next == .space || next == .zeroWidthSpace then true
  else if context.last == .zeroWidthSpace then false
  else if context.joined then true
  else if isAttached next && !context.spaced then true
  else
    let next := if isAttached next then .letter else next
    if neverBegins next || keepsAcross context.last next then true
    else !context.spaced && adjoins context next

/-- The context behind the first character of a line. -/
def Context.start (first : BreakClass) : Context where
  last := if isAttached first then .letter else first
  spaced := first == .space
  joined := first == .joiner
  halfFlag := first == .regional

/-- The context behind one more character. -/
def Context.push (context : Context) (next : BreakClass) : Context :=
  if isHard context.last then .start next
  else if next == .space then { last := context.last, spaced := true }
  else if isAttached next && !context.spaced && context.last != .zeroWidthSpace then
    { context with joined := next == .joiner }
  else
    { Context.start next with
      behindHebrew := (next == .hyphen || next == .breakAfter) && context.last == .hebrew &&
        !context.spaced
      halfFlag := next == .regional && (context.spaced || !context.halfFlag) }

/-- For each character whether a line can be broken before it. -/
def placesFrom (context : Context) : List Char → List Bool
  | [] => []
  | c :: rest =>
      let next := BreakClass.ofChar c
      (!keeps context next) :: placesFrom (context.push next) rest

/-- For each character of a text whether a line can be broken before it. -/
def places : List Char → List Bool
  | [] => []
  | c :: rest => false :: placesFrom (.start (BreakClass.ofChar c)) rest

end TagCheck.LineBreak
