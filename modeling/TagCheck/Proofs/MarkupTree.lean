/-
# Trees of markup

Well-formed markup from the side of its writer: a forest of elements, fragments and plain
text, and the text it is written as (`Forest.render`). Each part carries what makes it
well-formed, so that any tree that can be built can be written down: names are names,
the braces of an expression balance, void elements are those of HTML and no others.

The lexer gets every tag of a rendering back whole (`IsTag`). What there is to show is
that the search for the end of an opening tag passes over its attributes, whatever they
quote or enclose, and is then where it was (`PassedOver`).
-/

import TagCheck.Proofs.Searches
import TagCheck.Proofs.TagText

namespace TagCheck
namespace Markup

/-! ## Trees and how they are written -/

/-- Bytes in which the braces match. -/
inductive Balanced : Text → Prop
  | nil : Balanced []
  | plain {b : UInt8} {rest : Text} (opensNone : b ≠ Byte.openBrace)
      (closesNone : b ≠ Byte.closeBrace) (follows : Balanced rest) : Balanced (b :: rest)
  | braces {inner rest : Text} (inside : Balanced inner) (follows : Balanced rest) :
      Balanced (Byte.openBrace :: inner ++ Byte.closeBrace :: rest)

/-- What a tag or an attribute is called. -/
structure Name where
  first : UInt8
  others : Text
  starts : TagName.isStart first = true
  parts : ∀ b ∈ others, TagName.isPart b = true

namespace Name

def bytes (n : Name) : Text := n.first :: n.others

/-- The name as the scanner reports it. -/
def text (n : Name) : String := Byte.spell n.bytes

end Name

/-- The value of an attribute. -/
inductive Value where
  | quoted (quote : UInt8) (bytes : Text) (quotes : Byte.isQuote quote = true)
      (plain : ∀ b ∈ bytes, b ≠ quote ∧ b ≠ Byte.backslash)
  /-- An expression between braces. Brackets and slashes are welcome in it. -/
  | braced (expression : Text) (balanced : Balanced expression)
      (unquoted : ∀ b ∈ expression, Byte.isQuote b = false)

def Value.render : Value → Text
  | quoted quote bytes .. => quote :: (bytes ++ [quote])
  | braced expression .. => Byte.openBrace :: (expression ++ [Byte.closeBrace])

structure Attribute where
  name : Name
  value : Value

def Attribute.render (a : Attribute) : Text :=
  Byte.space :: (a.name.bytes ++ Byte.equals :: a.value.render)

/-- Bytes that leave the lexer in code, and begin no tag and no comment. -/
def Plain (b : UInt8) : Prop :=
  b ≠ Byte.lessThan ∧ b ≠ Byte.slash ∧ Byte.isQuote b = false ∧ b ≠ Byte.backquote

instance (b : UInt8) : Decidable (Plain b) := inferInstanceAs (Decidable (_ ∧ _))

/-- Bytes that give a bracket behind them to the type level, or may do so as part of a
word. -/
def claims (b : UInt8) : Bool :=
  Byte.isWord b ||
    [Byte.colon, Byte.closeBracket, Byte.semicolon, Byte.comma, Byte.equals, Byte.bar,
      Byte.question, Byte.ampersand].contains b

/-- Text before a bracket, nearest byte first, whose nearest byte other than whitespace
leaves the bracket to elements. -/
def Neutral (before : List UInt8) : Prop :=
  ∀ b, before.find? (!Byte.isWhitespace ·) = some b → claims b = false

/-- Text between tags. -/
structure PlainText where
  bytes : Text
  plain : ∀ b ∈ bytes, Plain b
  neutral : Neutral bytes.reverse

/-- A node of markup. -/
inductive Node where
  | element (name : Name) (attributes : List Attribute) (children : List Node)
      (takesContent : TagName.isVoid name.text = false)
  | fragment (children : List Node)
  /-- An element that its own tag closes. -/
  | selfClosing (name : Name) (attributes : List Attribute)
  | void (name : Name) (attributes : List Attribute)
      (takesNone : TagName.isVoid name.text = true)
  | text (text : PlainText)

/-- Nodes that stand one behind the other. -/
abbrev Forest := List Node

/-- The end of an opening tag. -/
def tagEnding (selfClosing : Bool) : Text :=
  if selfClosing then [Byte.slash, Byte.greaterThan] else [Byte.greaterThan]

def openingTag (name : Name) (attributes : List Attribute) (selfClosing : Bool) : Text :=
  Byte.lessThan :: (name.bytes ++ (attributes.flatMap Attribute.render ++ tagEnding selfClosing))

def closingTag (name : Name) : Text :=
  Byte.lessThan :: Byte.slash :: (name.bytes ++ [Byte.greaterThan])

def fragmentStart : Text := [Byte.lessThan, Byte.greaterThan]

def fragmentEnd : Text := [Byte.lessThan, Byte.slash, Byte.greaterThan]

mutual

/-- The text that a node is written as. -/
def Node.render : Node → Text
  | .element name attributes children _ =>
      openingTag name attributes false ++ (Forest.render children ++ closingTag name)
  | .fragment children => fragmentStart ++ (Forest.render children ++ fragmentEnd)
  | .selfClosing name attributes => openingTag name attributes true
  | .void name attributes _ => openingTag name attributes false
  | .text text => text.bytes

def Forest.render : Forest → Text
  | [] => []
  | node :: others => node.render ++ Forest.render others

end

mutual

/-- The names of elements of every kind, in reading order. Fragments and text have none. -/
def Node.names : Node → List Name
  | .element name _ children _ => name :: Forest.names children
  | .fragment children => Forest.names children
  | .selfClosing name _ => [name]
  | .void name .. => [name]
  | .text _ => []

def Forest.names : Forest → List Name
  | [] => []
  | node :: others => node.names ++ Forest.names others

end

mutual

/-- How many elements and fragments are open at once where the nesting is deepest. -/
def Node.height : Node → Nat
  | .element _ _ children _ => Forest.height children + 1
  | .fragment children => Forest.height children + 1
  | .selfClosing .. => 0
  | .void .. => 0
  | .text _ => 0

def Forest.height : Forest → Nat
  | [] => 0
  | node :: others => max node.height (Forest.height others)

end

/-! ## Attributes are passed over -/

/-- With nothing quoted the byte before does not matter. -/
theorem attributes_forget (previous : Option UInt8) (depth passed : Nat) (text : Text) :
    attributes previous none depth passed text = attributes none none depth passed text := by
  cases text with
  | nil => rfl
  | cons b text =>
      rw [attributes_cons, attributes_cons]
      rfl

/-- With `depth` braces open in a tag, the search for its end passes over a stretch and
is then as it was. -/
def PassedOver (depth : Nat) (stretch : Text) : Prop :=
  ∀ passed rest, attributes none none depth passed (stretch ++ rest) =
    attributes none none depth (passed + stretch.length) rest

namespace PassedOver

variable {depth : Nat} {first second : Text}

theorem append (left : PassedOver depth first) (right : PassedOver depth second) :
    PassedOver depth (first ++ second) := by
  intro passed rest
  rw [List.append_assoc, left, right, List.length_append, Nat.add_assoc]

theorem flatMap {α : Type} {f : α → Text} {list : List α}
    (each : ∀ x ∈ list, PassedOver depth (f x)) : PassedOver depth (list.flatMap f) := by
  induction list with
  | nil => exact fun passed rest => rfl
  | cons x list ih =>
      rw [List.flatMap_cons]
      exact (each x List.mem_cons_self).append
        (ih fun y among => each y (List.mem_cons_of_mem x among))

theorem byte {b : UInt8} (unquoted : Byte.isQuote b = false) (opensNone : b ≠ Byte.openBrace)
    (closesNone : b ≠ Byte.closeBrace)
    (endsNone : 0 < depth ∨ b ≠ Byte.slash ∧ b ≠ Byte.greaterThan) : PassedOver depth [b] := by
  intro passed rest
  have goesOn : tagEnd? depth b rest.head? none = none := by
    rcases endsNone with inside | ⟨notSlash, notBracket⟩
    · exact if_pos inside
    · simp only [tagEnd?, notSlash, notBracket, decide_false, Bool.false_and,
        if_neg Bool.false_ne_true, if_false, ite_self]
  rw [List.singleton_append, attributes_cons, goesOn]
  simp only [quoteAfter, bracesAfter, unquoted, if_neg Bool.false_ne_true, if_neg opensNone,
    if_neg closesNone]
  exact attributes_forget ..

/-- Braces that are closed again leave as many open as before. -/
theorem braces (inner : PassedOver (depth + 1) first) :
    PassedOver depth (Byte.openBrace :: first ++ [Byte.closeBrace]) := by
  intro passed rest
  calc attributes none none depth passed (Byte.openBrace :: first ++ [Byte.closeBrace] ++ rest)
    _ = attributes (some Byte.openBrace) none (depth + 1) (passed + 1)
          (first ++ Byte.closeBrace :: rest) := by
        rw [List.append_assoc]
        rfl
    _ = attributes none none (depth + 1) (passed + 1 + first.length)
          (Byte.closeBrace :: rest) := by
        rw [attributes_forget, inner]
    _ = attributes (some Byte.closeBrace) none depth (passed + 1 + first.length + 1) rest := rfl
    _ = _ := by
        rw [attributes_forget, List.length_append, List.length_cons, List.length_singleton]
        congr 1
        omega

theorem balanced {text : Text} (balanced : Balanced text)
    (unquoted : ∀ b ∈ text, Byte.isQuote b = false) : PassedOver (depth + 1) text := by
  -- Inner braces raise the depth, so the stretch between them is passed one level deeper.
  induction balanced generalizing depth with
  | nil => exact fun passed rest => rfl
  | @plain b rest opensNone closesNone _ ih =>
      obtain ⟨first, others⟩ := List.forall_mem_cons.mp unquoted
      exact (byte first opensNone closesNone (.inl (Nat.succ_pos _))).append (ih others)
  | @braces inner rest _ _ inside follows =>
      rw [List.cons_append, List.forall_mem_cons, List.forall_mem_append,
        List.forall_mem_cons] at unquoted
      obtain ⟨_, inner, _, rest⟩ := unquoted
      have enclosed := PassedOver.append (braces (inside inner)) (@follows depth rest)
      rwa [List.append_assoc, List.singleton_append] at enclosed

/-- A value ends with the next quote of its kind if no backslash comes before it. -/
theorem attributes_of_quoted {previous : Option UInt8} {quote : UInt8} {bytes : Text}
    (unescaped : previous ≠ some Byte.backslash)
    (plain : ∀ b ∈ bytes, b ≠ quote ∧ b ≠ Byte.backslash) (depth passed : Nat) (rest : Text) :
    attributes previous (some quote) depth passed (bytes ++ quote :: rest) =
      attributes none none depth (passed + bytes.length + 1) rest := by
  -- The byte just passed is never a backslash, so no quote is taken for an escaped one.
  induction bytes generalizing previous passed with
  | nil =>
      have ends : (decide (quote = quote) && previous != some Byte.backslash) = true := by
        simp only [decide_true, Bool.true_and, bne_iff_ne, ne_eq, unescaped, not_false_eq_true]
      rw [List.nil_append, attributes, if_pos ends, attributes_forget]
      rfl
  | cons b bytes ih =>
      obtain ⟨⟨other, notBackslash⟩, plain⟩ := List.forall_mem_cons.mp plain
      have goesOn : ¬ (decide (b = quote) && previous != some Byte.backslash) = true := by
        simp only [other, decide_false, Bool.false_and, Bool.false_eq_true, not_false_eq_true]
      rw [List.cons_append, attributes, if_neg goesOn,
        ih (fun same => notBackslash (Option.some.inj same)) plain, List.length_cons]
      congr 1
      omega

theorem quoted {quote : UInt8} {bytes : Text} (quotes : Byte.isQuote quote = true)
    (plain : ∀ b ∈ bytes, b ≠ quote ∧ b ≠ Byte.backslash) :
    PassedOver depth (quote :: (bytes ++ [quote])) := by
  intro passed rest
  have unescaped : some quote ≠ some Byte.backslash := by
    rintro same
    rw [Option.some.inj same] at quotes
    exact absurd quotes (by decide)
  have opens : attributes none none depth passed (quote :: (bytes ++ quote :: rest)) =
      attributes (some quote) (some quote) depth (passed + 1) (bytes ++ quote :: rest) := by
    rw [attributes, if_pos quotes]
  rw [List.cons_append, List.append_assoc, List.singleton_append, opens,
    attributes_of_quoted unescaped plain, List.length_cons, List.length_append,
    List.length_singleton]
  congr 1
  omega

/-- Bytes of names do nothing in a tag. -/
theorem part {b : UInt8} (part : TagName.isPart b = true) : PassedOver depth [b] := by
  have plain (c : UInt8) (other : TagName.isPart c = false) : b ≠ c := by
    rintro rfl
    exact Bool.false_ne_true (other.symm.trans part)
  have unquoted : Byte.isQuote b = false := by
    rw [Byte.isQuote, Bool.or_eq_false_iff, beq_eq_false_iff_ne, beq_eq_false_iff_ne]
    exact ⟨plain _ (by decide), plain _ (by decide)⟩
  exact byte unquoted (plain _ (by decide)) (plain _ (by decide))
    (.inr ⟨plain _ (by decide), plain _ (by decide)⟩)

theorem parts {bytes : Text} (each : ∀ b ∈ bytes, TagName.isPart b = true) :
    PassedOver depth bytes := by
  have whole : PassedOver depth (bytes.flatMap fun b => [b]) :=
    .flatMap fun b among => .part (each b among)
  rwa [List.flatMap_singleton'] at whole

end PassedOver

theorem Name.isPart_of_mem (n : Name) {b : UInt8} (among : b ∈ n.bytes) :
    TagName.isPart b = true := by
  rcases List.mem_cons.mp among with first | other
  · rw [first]
    exact TagName.isPart_of_isStart n.starts
  · exact n.parts b other

theorem Name.passedOver (n : Name) (depth : Nat) : PassedOver depth n.bytes :=
  .parts fun _ => n.isPart_of_mem

theorem Value.passedOver (v : Value) (depth : Nat) : PassedOver depth v.render := by
  cases v with
  | quoted quote bytes quotes plain => exact .quoted quotes plain
  | braced expression balanced unquoted => exact (PassedOver.balanced balanced unquoted).braces

theorem Attribute.passedOver (a : Attribute) : PassedOver 0 a.render := by
  have space : PassedOver 0 [Byte.space] :=
    .byte (by decide) (by decide) (by decide) (.inr (by decide))
  have equals : PassedOver 0 [Byte.equals] :=
    .byte (by decide) (by decide) (by decide) (.inr (by decide))
  exact space.append ((a.name.passedOver 0).append (equals.append (a.value.passedOver 0)))

/-- The search for the end of an opening tag ends where the tag does. -/
theorem attributes_eq (previous : Option UInt8) (list : List Attribute) (selfClosing : Bool)
    (rest : Text) :
    attributes previous none 0 0
        (list.flatMap Attribute.render ++ tagEnding selfClosing ++ rest) =
      ⟨(list.flatMap Attribute.render ++ tagEnding selfClosing).length, selfClosing⟩ := by
  have passes : PassedOver 0 (list.flatMap Attribute.render) :=
    .flatMap fun a _ => a.passedOver
  rw [attributes_forget, List.append_assoc, passes, List.length_append, Nat.zero_add]
  cases selfClosing with
  | true => rfl
  | false => rfl

/-! ## Tags are read back -/

/-- The text is one tag, whatever follows it, where no rule claims its bracket. -/
structure IsTag (options : ScanOptions) (form : TagForm) (name : String) (text : Text) :
    Prop where
  read : ∀ previous rest, Stride.read options .code previous none (text ++ rest) =
    ⟨text.length, .code, some (.tag form name)⟩
  ends : text.getLast? = some Byte.greaterThan

namespace Name

variable {n : Name}

/-- A name that is short enough is read to its end. -/
theorem bytes_of_short {limit : Nat} (short : n.bytes.length ≤ limit) {rest : Text}
    (ends : ∀ b ∈ rest.head?, TagName.isPart b = false) :
    TagName.bytes limit (n.bytes ++ rest) = n.bytes := by
  have stops : rest.takeWhile TagName.isPart = [] := by
    cases rest with
    | nil => rfl
    | cons b rest =>
        rw [List.takeWhile_cons, ends b rfl]
        rfl
  rw [TagName.bytes, List.takeWhile_append_of_pos fun _ => n.isPart_of_mem, stops,
    List.append_nil, List.take_of_length_le short]

theorem isEmpty_text : n.text.isEmpty = false := by
  rw [Bool.eq_false_iff, Ne, String.isEmpty_iff]
  intro unnamed
  have letters : Byte.letters n.text = n.bytes :=
    Byte.letters_spell fun _ among => TagName.isAscii_of_isPart (n.isPart_of_mem among)
  rw [unnamed] at letters
  cases letters

end Name

section Reading

variable {options : ScanOptions} {name : Name} {rest : Text}
  (named : TagName.bytes options.maxNameLength (name.bytes ++ rest) = name.bytes)

include named

theorem read_openingTag (previous : Option UInt8) :
    Stride.read options .code previous none (Byte.lessThan :: (name.bytes ++ rest)) =
      (Stride.openingTag options (name.bytes ++ rest)).behind 1 := by
  have filled : TagName.bytes options.maxNameLength (name.first :: (name.others ++ rest)) ≠ [] :=
    fun nothing => List.cons_ne_nil _ _ (named.symm.trans nothing)
  have finds : Stride.Finds options none (name.bytes ++ rest) _ :=
    .openingTag name.starts filled rfl
  rw [Stride.read_bracket, finds.angleBracket_eq]
  rfl

theorem read_closingTag (previous : Option UInt8) (rule : Option Rule) :
    Stride.read options .code previous rule
        (Byte.lessThan :: Byte.slash :: (name.bytes ++ rest)) =
      ((Stride.closingTag options (name.bytes ++ rest)).behind 1).behind 1 := by
  have filled : TagName.bytes options.maxNameLength (name.first :: (name.others ++ rest)) ≠ [] :=
    fun nothing => List.cons_ne_nil _ _ (named.symm.trans nothing)
  have finds : Stride.Finds options rule (Byte.slash :: (name.bytes ++ rest)) _ :=
    .closingTag name.starts filled
  rw [Stride.read_bracket, finds.angleBracket_eq]
  rfl

end Reading

variable {options : ScanOptions} {name : Name}

/-- No byte that can follow the name of a tag goes on with it. -/
theorem isPart_head_of_attributes (list : List Attribute) (selfClosing : Bool) (rest : Text) :
    ∀ b ∈ (list.flatMap Attribute.render ++ tagEnding selfClosing ++ rest).head?,
      TagName.isPart b = false := by
  intro b first
  cases list with
  | cons a list =>
      cases first
      decide
  | nil =>
      cases selfClosing with
      | true => cases first; decide
      | false => cases first; decide

theorem isTag_opening (short : name.bytes.length ≤ options.maxNameLength)
    (list : List Attribute) (selfClosing : Bool) :
    IsTag options (if selfClosing || TagName.isVoid name.text then .single else .opening)
      name.text (openingTag name list selfClosing) where
  read previous rest := by
    have named := Name.bytes_of_short short (isPart_head_of_attributes list selfClosing rest)
    have ends : attributes name.bytes.getLast? none 0 0
        ((name.bytes ++ (list.flatMap Attribute.render ++ tagEnding selfClosing ++ rest)).drop
          name.bytes.length) =
        ⟨(list.flatMap Attribute.render ++ tagEnding selfClosing).length, selfClosing⟩ := by
      rw [List.drop_left, attributes_eq]
    rw [openingTag, List.cons_append, List.append_assoc, read_openingTag named,
      Stride.openingTag_of_named named (List.cons_ne_nil _ _) ends]
    simp only [Stride.behind, List.length_cons, List.length_append, Nat.add_comm 1]
    rfl
  ends := by
    have bracket : (tagEnding selfClosing).getLast? = some Byte.greaterThan := by
      cases selfClosing <;> rfl
    rw [openingTag, ← List.cons_append, ← List.append_assoc, List.getLast?_append, bracket,
      Option.some_or]

theorem isTag_closing (short : name.bytes.length ≤ options.maxNameLength) :
    IsTag options .closing name.text (closingTag name) where
  read previous rest := by
    have named : TagName.bytes options.maxNameLength
        (name.bytes ++ Byte.greaterThan :: rest) = name.bytes :=
      Name.bytes_of_short short fun b first => by cases first; decide
    have near : distance (· == Byte.greaterThan) (Byte.greaterThan :: rest) = 0 := rfl
    rw [closingTag, List.cons_append, List.cons_append, List.append_assoc,
      List.singleton_append, read_closingTag named,
      Stride.closingTag_of_named named (List.cons_ne_nil _ _), List.drop_left, near]
    simp only [Stride.behind, List.length_cons, List.length_append, List.length_nil]
    congr 1
    omega
  ends := by
    rw [closingTag, ← List.cons_append, ← List.cons_append, List.getLast?_concat]

theorem isTag_fragmentStart : IsTag options .opening "" fragmentStart :=
  ⟨fun _ _ => rfl, rfl⟩

theorem isTag_fragmentEnd : IsTag options .closing "" fragmentEnd :=
  ⟨fun _ _ => rfl, rfl⟩

end Markup
end TagCheck
