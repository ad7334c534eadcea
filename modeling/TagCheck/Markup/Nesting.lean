/-
# Nesting

The lexemes of a text are met one after the other with the stack of open tags:
an opening tag is pushed, a closing tag must close the innermost open one, and a
single tag counts on its own.  The first tag that cannot be met is the defect of
the text.  If there is none, the innermost tag left open at the end is.

What has been counted and reported before the defect stays.
-/

import TagCheck.Log.Event
import TagCheck.Markup.Lexer
import TagCheck.Markup.TagStack

namespace TagCheck

/-- What a scan found. -/
structure Outcome where
  /-- Single elements plus elements closed by their own tag. -/
  tagsChecked : Nat
  /-- The first defect, if any. -/
  defect : Option Defect
  /-- What was reported on the way, in order. -/
  events : List Event
  deriving DecidableEq, Repr

/-- The state between two lexemes. -/
structure Nesting where
  stack : TagStack
  tagsChecked : Nat
  /-- What has been reported so far, latest first. -/
  reported : List Event
  deriving DecidableEq, Repr

namespace Nesting

/-- Nothing met yet. -/
def start (options : ScanOptions) : Nesting := ⟨TagStack.ofOptions options, 0, []⟩

def report (n : Nesting) (event : Event) : Nesting :=
  { n with reported := event :: n.reported }

def count (n : Nesting) : Nesting := { n with tagsChecked := n.tagsChecked + 1 }

/-- Meet an opening tag. -/
def openTag (n : Nesting) (t : Tag) : Except Defect Nesting :=
  match n.stack.push t.name t.site with
  | .error defect => .error defect
  | .ok stack =>
      if n.stack.isFull then .ok (n.report (.dropped t.name t.site))
      else .ok ({ n with stack := stack }.report (.pushed t.name t.site))

/-- Meet a closing tag.  A fragment counts for nothing. -/
def closeTag (n : Nesting) (t : Tag) : Except Defect Nesting :=
  match n.stack.pop t.name t.site t.span with
  | .error defect => .error defect
  | .ok (_, stack) =>
      let closed := { n with stack := stack }.report (.popped t.name t.site)
      .ok (if t.name.isEmpty then closed else closed.count)

/-- Meet one lexeme. -/
def meet (n : Nesting) : Lexeme → Except Defect Nesting
  | .typeBrackets site rule => .ok (n.report (.typeBrackets site rule.name))
  | .tag t =>
      match t.form with
      | .opening => n.openTag t
      | .closing => n.closeTag t
      | .single => .ok n.count

/-- What is found if nothing more is met. -/
def outcome (n : Nesting) (defect : Option Defect) : Outcome :=
  ⟨n.tagsChecked, defect, n.reported.reverse⟩

/-- Meet lexemes up to the first defect. -/
def settle (n : Nesting) : List Lexeme → Outcome
  | [] => n.outcome n.stack.finish
  | lexeme :: rest =>
      match n.meet lexeme with
      | .error defect => n.outcome (some defect)
      | .ok met => met.settle rest

end Nesting

/-- Scan a text. -/
def scan (options : ScanOptions) (text : Text) : Outcome :=
  (Nesting.start options).settle (Lexer.lexemes options text)

end TagCheck
