/-
# Defects

Everything that can be wrong with a checked file is one of the causes below.
Four concern the nesting of tags and point into the text; two concern the file as
a whole.  The wording, the code and the labelled spans of a report are functions
of the cause, so two reports agree exactly when their causes do.

The empty name stands for a fragment, whose tags are written `<>` and `</>`.
-/

import TagCheck.Text.Position

namespace TagCheck

/-- The category of a defect. -/
inductive DefectKind where
  | unmatchedClose
  | tagMismatch
  | unclosedTag
  | stackOverflow
  | fileUnreadable
  | outOfMemory
  deriving DecidableEq, Repr

namespace DefectKind

def name : DefectKind → String
  | unmatchedClose => "unmatched_close"
  | tagMismatch => "tag_mismatch"
  | unclosedTag => "unclosed_tag"
  | stackOverflow => "stack_overflow"
  | fileUnreadable => "file_unreadable"
  | outOfMemory => "out_of_memory"

end DefectKind

/-- What is wrong with a text or a file. -/
inductive Defect where
  /-- A closing tag where no element is open. -/
  | unmatchedClose (name : String) (site : Position) (span : Span)
  /-- A closing tag other than that of the innermost open element. -/
  | mismatch (expected : String) (openedAt : Position) (found : String)
      (site : Position) (span : Span)
  /-- An element still open where the text ends; `others` more are open around
  it. -/
  | unclosed (name : String) (site : Position) (others : Nat)
  /-- An opening tag beyond the nesting limit. -/
  | tooDeep (limit : Nat) (site : Position)
  /-- The file could not be read. -/
  | unreadable (path : String) (reason : String)
  /-- There was no room for the contents of the file. -/
  | outOfMemory (path : String)
  deriving DecidableEq, Repr

/-- A span of the text with a remark. -/
structure Label where
  span : Span
  remark : String
  deriving DecidableEq, Repr

namespace Defect

def kind : Defect → DefectKind
  | unmatchedClose .. => .unmatchedClose
  | mismatch .. => .tagMismatch
  | unclosed .. => .unclosedTag
  | tooDeep .. => .stackOverflow
  | unreadable .. => .fileUnreadable
  | outOfMemory .. => .outOfMemory

/-- Where in the text the defect was met. -/
def position : Defect → Option Position
  | unmatchedClose _ site _ | mismatch _ _ _ site _ | unclosed _ site _ | tooDeep _ site =>
      some site
  | unreadable .. | outOfMemory .. => none

/-- The sentence that reports the defect. -/
def message : Defect → String
  | unmatchedClose name _ _ => "Closing tag </" ++ name ++ "> has no matching opening tag"
  | mismatch expected openedAt found _ _ =>
      "Mismatched tags: expected </" ++ expected ++ "> (opened at line " ++
        toString openedAt.line ++ ") but found </" ++ found ++ ">"
  | unclosed name site others =>
      if name.isEmpty then
        "Unclosed fragment <> at line " ++ toString site.line ++ ", col " ++ toString site.column
      else
        "Unclosed tag <" ++ name ++ "> at line " ++ toString site.line ++ ", col " ++
          toString site.column ++ " (and " ++ toString others ++ " more unclosed)"
  | tooDeep limit _ => "Tag nesting exceeds maximum depth of " ++ toString limit
  | unreadable path _ => "Cannot open file: " ++ path
  | outOfMemory path => "Out of memory reading: " ++ path

/-- The identifier under which reports of this kind can be looked up. -/
def code (d : Defect) : String := "tsx::" ++ d.kind.name

/-- What to do about it, where there is something to say. -/
def help : Defect → Option String
  | unmatchedClose .. => some "remove the closing tag or add the opening tag it belongs to"
  | tooDeep .. => some "raise `maxDepth` or use the `truncate` overflow policy"
  | _ => none

/-- The span of an opening tag's bracket and name; of `<>` for a fragment. -/
def openingSpan (name : String) (site : Position) : Span :=
  ⟨site.offset, max name.utf8ByteSize 1 + 1⟩

/-- The spans of the text that a report marks. -/
def labels : Defect → List Label
  | unmatchedClose _ _ span => [⟨span, "nothing is open here"⟩]
  | mismatch expected openedAt _ _ span =>
      [⟨span, "this closing tag does not match"⟩,
        ⟨openingSpan expected openedAt, "innermost open tag"⟩]
  | unclosed name site _ => [⟨openingSpan name site, "never closed"⟩]
  | tooDeep _ site => [⟨⟨site.offset, 1⟩, "one level too deep"⟩]
  | unreadable .. | outOfMemory .. => []

end Defect

end TagCheck
