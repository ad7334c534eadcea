/-
# Reading globs

A glob is read character by character.  Groups of alternatives may stand inside
each other, so what is read goes into the innermost open one.  In a character class
nearly every character stands for itself.
-/

import TagCheck.Glob.Pattern

namespace TagCheck.Glob

/-- A character class that is being read. -/
structure ClassDraft where
  negated : Bool
  /-- Latest first; a class cannot end while there are none. -/
  ranges : List (Char × Char) := []
  /-- Whether a dash waits for the end of the latest range. -/
  dashed : Bool := false

namespace ClassDraft

/-- Read a character that belongs to the class. -/
def add (draft : ClassDraft) (c : Char) : Except GlobFault ClassDraft :=
  match draft.dashed, draft.ranges with
  | true, (first, _) :: others =>
      if c < first then .error (.descendingRange first c)
      else .ok ⟨draft.negated, (first, c) :: others, false⟩
  | _, ranges => .ok ⟨draft.negated, (c, c) :: ranges, false⟩

/-- Read a dash: the start of a range unless one has begun or nothing precedes. -/
def dash (draft : ClassDraft) : Except GlobFault ClassDraft :=
  if draft.dashed || draft.ranges.isEmpty then draft.add '-'
  else .ok ⟨draft.negated, draft.ranges, true⟩

/-- The class; a dash still waiting stands for itself. -/
def token (draft : ClassDraft) : GlobToken :=
  let ranges := if draft.dashed then ('-', '-') :: draft.ranges else draft.ranges
  .charClass draft.negated ranges.reverse

end ClassDraft

/-- A group of alternatives that is being read, apart from its last branch. -/
structure OpenGroup where
  /-- What precedes the group in its surroundings, latest first. -/
  before : List GlobToken
  /-- The branches that are complete, latest first. -/
  branches : List (List GlobToken)

/-- A glob that is being read. -/
structure Draft where
  /-- The tokens of the innermost branch, latest first. -/
  current : List GlobToken := []
  /-- The open groups, innermost first. -/
  groups : List OpenGroup := []

namespace Draft

def push (draft : Draft) (token : GlobToken) : Draft :=
  { draft with current := token :: draft.current }

def isGrouped (draft : Draft) : Bool := !draft.groups.isEmpty

/-- Open a group of alternatives. -/
def openGroup (draft : Draft) : Draft := ⟨[], ⟨draft.current, []⟩ :: draft.groups⟩

/-- Go on to the next branch of the innermost group. -/
def nextBranch (draft : Draft) : Draft :=
  match draft.groups with
  | [] => draft.push (.literal ',')
  | group :: outer =>
      ⟨[], { group with branches := draft.current.reverse :: group.branches } :: outer⟩

/-- Close the innermost group. -/
def closeGroup (draft : Draft) : Except GlobFault Draft :=
  match draft.groups with
  | [] => .error .unopenedAlternatives
  | group :: outer =>
      let branches := (draft.current.reverse :: group.branches).reverse
      .ok ⟨.alternatives branches :: group.before, outer⟩

/-- The tokens of a text that ends here. -/
def finish (draft : Draft) : Except GlobFault (List GlobToken) :=
  if draft.isGrouped then .error .unclosedAlternatives else .ok draft.current.reverse

/-- Take two stars that stand for folders for such: they swallow the token in front,
which is a slash, unless that stands for folders in the same way already. -/
def pushFolders (draft : Draft) (token : GlobToken) : Draft :=
  match draft.current with
  | .leadingFolders :: _ => draft
  | .trailingFolders :: _ => draft
  | _ :: before => { draft with current := token :: before }
  | [] => draft.push token

end Draft

/-- What two stars stand for. -/
inductive StarPair where
  /-- Any folders in front; a slash that follows belongs to them. -/
  | leading
  /-- Any folders in between; the slash that follows belongs to them. -/
  | inner
  /-- Anything below a folder. -/
  | trailing
  /-- Two stars as such. -/
  | plain
  deriving DecidableEq, Repr

/-- What two stars stand for, given the character before and the text after them. -/
def starPair (draft : Draft) (previous : Option Char) (rest : List Char) : StarPair :=
  if draft.current.isEmpty then
    match rest with
    | [] => .leading
    | next :: _ => if next = '/' then .leading else .plain
  else if previous != some '/' &&
      (!draft.isGrouped || (previous != some ',' && previous != some '\x7b')) then .plain
  else
    match rest with
    | [] => .trailing
    | next :: _ =>
        if next = '/' then .inner
        else if draft.isGrouped && (next = ',' || next = '\x7d') then .trailing
        else .plain

/-- What reading goes through next. -/
inductive Stage where
  | plain (previous : Option Char)
  | inClass (draft : ClassDraft)

/-- Read on.  Every character is looked at once, but a slash may be read together
with the two stars in front of it. -/
def readFrom (draft : Draft) : Stage → List Char → Except GlobFault (List GlobToken)
  | .inClass _, [] => .error .unclosedClass
  | .inClass ranges, c :: rest =>
      if c = ']' && !ranges.ranges.isEmpty then
        readFrom (draft.push ranges.token) (.plain (some c)) rest
      else
        match if c = '-' then ranges.dash else ranges.add c with
        | .error fault => .error fault
        | .ok ranges => readFrom draft (.inClass ranges) rest
  | .plain _, [] => draft.finish
  | .plain _, '?' :: rest => readFrom (draft.push .anyByte) (.plain (some '?')) rest
  | .plain previous, '*' :: '*' :: rest =>
      match starPair draft previous rest with
      | .plain =>
          readFrom ((draft.push .anyBytes).push .anyBytes) (.plain (some '*')) rest
      | .trailing => readFrom (draft.pushFolders .trailingFolders) (.plain (some '*')) rest
      | .leading =>
          match rest with
          | [] => (draft.push .leadingFolders).finish
          | slash :: rest => readFrom (draft.push .leadingFolders) (.plain (some slash)) rest
      | .inner =>
          match rest with
          | [] => (draft.pushFolders .innerFolders).finish
          | slash :: rest => readFrom (draft.pushFolders .innerFolders) (.plain (some slash)) rest
  | .plain _, '*' :: rest => readFrom (draft.push .anyBytes) (.plain (some '*')) rest
  | .plain _, '[' :: '!' :: rest => readFrom draft (.inClass { negated := true }) rest
  | .plain _, '[' :: '^' :: rest => readFrom draft (.inClass { negated := true }) rest
  | .plain _, '[' :: rest => readFrom draft (.inClass { negated := false }) rest
  | .plain _, '\x7b' :: rest => readFrom draft.openGroup (.plain (some '\x7b')) rest
  | .plain _, '\x7d' :: rest =>
      match draft.closeGroup with
      | .error fault => .error fault
      | .ok draft => readFrom draft (.plain (some '\x7d')) rest
  | .plain _, ',' :: rest => readFrom draft.nextBranch (.plain (some ',')) rest
  | .plain _, ['\\'] => .error .danglingEscape
  | .plain _, '\\' :: c :: rest => readFrom (draft.push (.literal c)) (.plain (some c)) rest
  | .plain _, c :: rest => readFrom (draft.push (.literal c)) (.plain (some c)) rest

/-- The glob that a text stands for, or what is wrong with it. -/
def parse (text : String) : Except GlobFault Glob :=
  (readFrom {} (.plain none) text.toList).map fun tokens => ⟨text, tokens⟩

end TagCheck.Glob
