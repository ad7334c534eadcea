/-
# Settings are read back as they were written

What an object of JSON says about a configuration is laid down field by field (`Tells`), and a
decoder is lawful if it takes every text of such an object for the configuration, whichever of
the fields are there, in whatever order, and however they are spelled (`Decoder.Lawful`).
The reader of this library is lawful: every field is read by the reader of its kind
(`reads_fieldValue`), and no setting begins with the first letter of `null`, so that what is
set is not taken for nothing. Reading then goes through the fields one by one and sets each of
them once (`fieldsFrom_separated`).

A configuration is written as an object with all its fields in order, and `null` where nothing
is set. So a lawful decoder reads it back from what a lawful writer has written of it.
-/

import TagCheck.Config.Load
import TagCheck.Config.Printer
import TagCheck.Proofs.JsonReading

namespace TagCheck.Config

open Json

/-! ## What an object says -/

/-- What a value says about a field. -/
inductive Tells : Field → Value → Option Setting → Prop
  | nothing (field : Field) : Tells field .null none
  | extensions (values : List String) :
      Tells .extensions (.array (values.map .string)) (some (.texts values))
  | ignore (values : List String) :
      Tells .ignore (.array (values.map .string)) (some (.texts values))
  | maxDepth {depth : Nat} (fits : depth ≤ 0xFFFFFFFFFFFFFFFF) :
      Tells .maxDepth (.natural depth) (some (.count depth))
  | fail : Tells .overflow (.string "error") (some (.policy .fail))
  | truncate : Tells .overflow (.string "truncate") (some (.policy .truncate))
  | commentsInTemplateText (value : Bool) :
      Tells .commentsInTemplateText (.bool value) (some (.flag value))
  | stopOnFirstError (value : Bool) : Tells .stopOnFirstError (.bool value) (some (.flag value))
  | parallel (value : Bool) : Tells .parallel (.bool value) (some (.flag value))

/-- The object with these fields. -/
def objectOf (entries : List (Field × Value)) : Value :=
  .object (entries.map fun entry => (entry.1.name, entry.2))

/-- The fields are those of a configuration: each of them is there once at most and says what
the configuration holds, and what is not there is not set. -/
structure HeldBy (c : Config) (entries : List (Field × Value)) : Prop where
  once : (entries.map Prod.fst).Nodup
  tells : ∀ entry ∈ entries, Tells entry.1 entry.2 (c.setting? entry.1)
  others : ∀ field, field ∉ entries.map Prod.fst → c.setting? field = none

/-- A text of an object with the fields of a configuration is taken for the configuration. -/
structure Decoder.Lawful [Decoder] : Prop where
  decodes : ∀ (text : String) (entries : List (Field × Value)) (c : Config),
    IsText text.toList (objectOf entries) → c.HeldBy entries → Decoder.decode text = .ok c

/-! ## The readers of the settings -/

theorem reads_text (wanted text : String) : Reads (Config.text wanted) (.string text) text := by
  intro written rest is _
  have front := is.skipBlanks_append rest
  cases is with
  | string spelled =>
      simp only [List.cons_append, List.append_assoc, List.nil_append] at front ⊢
      rw [Config.text, front]
      simp only [string_spelled spelled, Except.map, String.ofList_toList]

theorem reads_flag (value : Bool) : Reads flag (.bool value) value := by
  intro written rest is _
  cases is with
  | bool_true => rfl
  | bool_false => rfl

theorem reads_policy {word : String} {policy : OverflowPolicy}
    (known : OverflowPolicy.ofKeyword? word = some policy) :
    Reads Config.policy (.string word) policy := by
  intro written rest is delimited
  have front := is.skipBlanks_append rest
  have read := reads_text "variant identifier" word is delimited
  cases is with
  | string spelled =>
      simp only [List.cons_append] at front read ⊢
      rw [Config.policy, front]
      simp only [policyWord, read, known]

theorem digitChar_ne_minus {digit : Nat} (small : digit < 10) : Nat.digitChar digit ≠ '-' := by
  revert digit
  decide

/-- A number is written with a digit in front. -/
theorem toDigits_front (n : Nat) :
    ∃ digit tail, Nat.toDigits 10 n = Nat.digitChar digit :: tail ∧ digit < 10 := by
  cases n with
  | zero => exact ⟨0, [], rfl, by decide⟩
  | succ n =>
      obtain ⟨digit, tail, digits, _, small⟩ := toDigits_eq_cons (Nat.succ_pos n)
      exact ⟨digit, tail, digits, small⟩

theorem reads_count {n : Nat} (fits : n ≤ Number.maxNatural) : Reads count (.natural n) n := by
  intro written rest is delimited
  have front := is.skipBlanks_append rest
  have digits : written = Nat.toDigits 10 n := by
    rw [Value.natural] at is
    cases is
    rw [Nat.toString_eq_ofList_toDigits, String.toList_ofList]
  have read := read_natural fits delimited
  obtain ⟨digit, tail, own, small⟩ := toDigits_front n
  rw [digits, own, List.cons_append] at front ⊢
  rw [own, List.cons_append] at read
  rw [count, front]
  simp [isDigit_digitChar small, digitChar_ne_minus small, read, countOf]

/-! ### Lists of strings -/

section Lists

variable {fuel : Nat} {found : List String} {rest : List Char}

theorem textsFrom_end {blanks : List Char} (blank : Blank blanks) :
    textsFrom (fuel + 1) found (blanks ++ ']' :: rest) = .ok (found.reverse, rest) := by
  simp [textsFrom, skipBlanks_append blank]

/-- One more string is read, behind a comma unless it is the first. -/
theorem textsFrom_text {input before written : List Char} {value : String} (blank : Blank before)
    (is : Denotes written (.string value)) (delimited : Delimited rest)
    (lead : Lead found.isEmpty input (before ++ (written ++ rest))) :
    textsFrom (fuel + 1) found input = textsFrom fuel (value :: found) rest := by
  have read := reads_text "a string" value is delimited
  have front := (skipBlanks_append blank _).trans (is.skipBlanks_append rest)
  cases is with
  | string spelled =>
      simp only [List.cons_append, List.append_assoc, List.nil_append] at read front lead
      generalize begun : found.isEmpty = isFirst at lead
      cases lead with
      | first => simp [textsFrom, front, begun, read]
      | later blank' => simp [textsFrom, skipBlanks_append blank', begun, front, read]

/-- The strings of a list are read to its end. -/
theorem textsFrom_separated {input written : List Char} {items : List Value}
    (separated : Separated Denotes written items) {values : List String}
    (strings : items = values.map .string) (enough : values.length < fuel)
    (lead : Lead found.isEmpty input (written ++ ']' :: rest)) :
    textsFrom fuel found input = .ok (found.reverse ++ values, rest) := by
  induction separated generalizing fuel found values input with
  | last blank blankAfter is =>
      obtain ⟨fuel, rfl⟩ := Nat.exists_eq_succ_of_ne_zero (Nat.ne_zero_of_lt enough)
      obtain ⟨value, rfl⟩ : ∃ value, values = [value] := by
        cases values with
        | nil => cases strings
        | cons value others =>
            cases others with
            | nil => exact ⟨value, rfl⟩
            | cons _ _ => cases strings
      cases strings
      simp only [List.append_assoc] at lead
      rw [textsFrom_text blank is (.behind_blanks blankAfter (.cons _ (.inr (.inl rfl)))) lead]
      obtain ⟨fuel, rfl⟩ := Nat.exists_eq_succ_of_ne_zero
        (Nat.ne_zero_of_lt (Nat.lt_of_succ_lt_succ enough))
      rw [textsFrom_end blankAfter, List.reverse_cons]
  | next blank blankAfter is more ih =>
      obtain ⟨fuel, rfl⟩ := Nat.exists_eq_succ_of_ne_zero (Nat.ne_zero_of_lt enough)
      cases values with
      | nil => cases strings
      | cons value values =>
          obtain ⟨rfl, others⟩ := List.cons.inj strings
          simp only [List.append_assoc, List.cons_append] at lead
          rw [textsFrom_text blank is (.behind_blanks blankAfter (.cons _ (.inl rfl))) lead]
          refine (ih others (Nat.lt_of_succ_lt_succ enough) ?_).trans ?_
          · exact .later blankAfter _
          · rw [List.reverse_cons, List.append_assoc]
            rfl

theorem reads_texts (values : List String) :
    Reads texts (.array (values.map .string)) values := by
  intro written rest is _
  have front := is.skipBlanks_append rest
  cases is with
  | array listed =>
      generalize strings : values.map Value.string = items at listed
      cases listed with
      | nothing blank =>
          obtain rfl : values = [] := List.map_eq_nil_iff.mp strings
          simp only [List.cons_append, List.append_assoc, List.nil_append] at front ⊢
          rw [texts, front]
          exact textsFrom_end blank
      | parts separated =>
          have few := separated.length_le Denotes.fronted
          rw [← strings, List.length_map] at few
          simp only [List.cons_append, List.append_assoc, List.nil_append] at front ⊢
          rw [texts, front]
          refine textsFrom_separated separated strings.symm ?_ (.first _)
          simp only [List.length_append, List.length_cons]
          omega

end Lists

/-! ## Fields -/

theorem reads_null {α : Type} (reader : Reader α) : Reads (optional reader) .null none := by
  intro written rest is _
  cases is
  rfl

/-- What is set does not begin like `null`. -/
theorem reads_optional {α : Type} {reader : Reader α} {value : Value} {meant : α}
    (set : value.kind ≠ Value.null.kind) (reads : Reads reader value meant) :
    Reads (optional reader) value (some meant) := by
  intro written rest is delimited
  have front := is.skipBlanks_append rest
  have read := reads is delimited
  obtain ⟨c, tail, rfl, kind, _⟩ := is.front
  have other : c ≠ 'n' := by
    rintro rfl
    exact set kind.symm
  rw [List.cons_append] at front read ⊢
  rw [optional, front]
  simp [other, read, Except.map]

/-- The configuration with one field as it is in another. -/
def withField (d : Config) (field : Field) (c : Config) : Config :=
  match field with
  | .extensions => { d with extensions := c.extensions }
  | .ignore => { d with ignore := c.ignore }
  | .maxDepth => { d with maxDepth := c.maxDepth }
  | .overflow => { d with overflow := c.overflow }
  | .commentsInTemplateText => { d with commentsInTemplateText := c.commentsInTemplateText }
  | .stopOnFirstError => { d with stopOnFirstError := c.stopOnFirstError }
  | .parallel => { d with parallel := c.parallel }

theorem setting?_withField (d c : Config) (field other : Field) :
    (d.withField field c).setting? other =
      if other = field then c.setting? other else d.setting? other := by
  cases field <;> cases other <;> rfl

/-- A configuration is what it holds in its fields. -/
theorem ext_setting {c d : Config} (same : ∀ field, c.setting? field = d.setting? field) :
    c = d := by
  have injective {α : Type} {kind : α → Setting} {x y : Option α}
      (distinct : Function.Injective kind) (same : x.map kind = y.map kind) : x = y :=
    Option.map_injective distinct same
  obtain ⟨_, _, _, _, _, _, _⟩ := c
  obtain ⟨_, _, _, _, _, _, _⟩ := d
  rw [Config.mk.injEq]
  have texts : Function.Injective Setting.texts := fun _ _ => Setting.texts.inj
  have flag : Function.Injective Setting.flag := fun _ _ => Setting.flag.inj
  exact ⟨injective texts (same .extensions), injective texts (same .ignore),
    injective (fun _ _ => Setting.count.inj) (same .maxDepth),
    injective (fun _ _ => Setting.policy.inj) (same .overflow),
    injective flag (same .commentsInTemplateText), injective flag (same .stopOnFirstError),
    injective flag (same .parallel)⟩

namespace Tells

variable {field : Field} {value : Value}

theorem eq_null (tells : Tells field value none) : value = .null := by
  cases tells
  rfl

theorem kind_ne {setting : Setting} (tells : Tells field value (some setting)) :
    value.kind ≠ Value.null.kind := by
  cases tells with
  | commentsInTemplateText on | stopOnFirstError on | parallel on =>
      cases on <;> simp [Value.kind]
  | _ => simp [Value.kind, Value.natural]

theorem reads_texts {values : List String} (tells : Tells field value (some (.texts values))) :
    Reads texts value values := by
  cases tells <;> exact Config.reads_texts values

theorem reads_count {n : Nat} (tells : Tells field value (some (.count n))) :
    Reads count value n := by
  cases tells with
  | maxDepth fits => exact Config.reads_count fits

theorem reads_policy {policy : OverflowPolicy}
    (tells : Tells field value (some (.policy policy))) : Reads Config.policy value policy := by
  cases tells <;> exact Config.reads_policy rfl

theorem reads_flag {on : Bool} (tells : Tells field value (some (.flag on))) :
    Reads flag value on := by
  cases tells <;> exact Config.reads_flag on

/-- What is told of a field is read by a reader that reads what is told of settings of this
kind. -/
theorem reads {α : Type} {reader : Reader α} {kind : α → Setting} {held : Option α}
    (tells : Tells field value (held.map kind))
    (reads : ∀ {meant}, Tells field value (some (kind meant)) → Reads reader value meant) :
    Reads (optional reader) value held := by
  cases held with
  | none =>
      rw [eq_null tells]
      exact reads_null reader
  | some meant => exact reads_optional tells.kind_ne (reads tells)

end Tells

section Held

variable {c : Config}

/-- What tells something about a field is read into any configuration. -/
theorem reads_fieldValue {field : Field} {value : Value}
    (tells : Tells field value (c.setting? field)) (d : Config) :
    Reads (fieldValue d field) value (d.withField field c) := by
  cases field with
  | extensions =>
      have read : Reads (optional texts) value c.extensions := Tells.reads tells Tells.reads_texts
      exact read.map fun value => { d with extensions := value }
  | ignore =>
      have read : Reads (optional texts) value c.ignore := Tells.reads tells Tells.reads_texts
      exact read.map fun value => { d with ignore := value }
  | maxDepth =>
      have read : Reads (optional count) value c.maxDepth := Tells.reads tells Tells.reads_count
      exact read.map fun value => { d with maxDepth := value }
  | overflow =>
      have read : Reads (optional Config.policy) value c.overflow :=
        Tells.reads tells Tells.reads_policy
      exact read.map fun value => { d with overflow := value }
  | commentsInTemplateText =>
      have read : Reads (optional flag) value c.commentsInTemplateText :=
        Tells.reads tells Tells.reads_flag
      exact read.map fun value => { d with commentsInTemplateText := value }
  | stopOnFirstError =>
      have read : Reads (optional flag) value c.stopOnFirstError :=
        Tells.reads tells Tells.reads_flag
      exact read.map fun value => { d with stopOnFirstError := value }
  | parallel =>
      have read : Reads (optional flag) value c.parallel := Tells.reads tells Tells.reads_flag
      exact read.map fun value => { d with parallel := value }

theorem passesBlanks_fieldValue (d : Config) (field : Field) :
    PassesBlanks (fieldValue d field) := by
  intro blanks blank rest
  cases field <;> simp only [fieldValue, optional, skipBlanks_append blank]

/-! ## Objects -/

section Fields

variable {fuel : Nat} {seen : List Field} {d : Config} {rest : List Char}

theorem fieldsFrom_end {isFirst : Bool} {blanks : List Char} (blank : Blank blanks) :
    fieldsFrom (fuel + 1) isFirst seen d (blanks ++ '\x7d' :: rest) = .ok (d, rest) := by
  simp [fieldsFrom, skipBlanks_append blank]

/-- A field that was not there before is read, behind a comma unless it is the first. -/
theorem fieldsFrom_field {isFirst : Bool} {input before written : List Char}
    {entry : Field × Value} (tells : Tells entry.1 entry.2 (c.setting? entry.1))
    (fresh : entry.1 ∉ seen) (blank : Blank before)
    (named : Named Denotes written (entry.1.name, entry.2)) (delimited : Delimited rest)
    (lead : Lead isFirst input (before ++ (written ++ rest))) :
    fieldsFrom (fuel + 1) isFirst seen d input =
      fieldsFrom fuel false (entry.1 :: seen) (d.withField entry.1 c) rest := by
  have front := (skipBlanks_append blank _).trans (named.fronted.skipBlanks_append rest)
  obtain ⟨field, value⟩ := entry
  cases named with
  | @mk key between after text _ _ spelled blankBetween blankAfter is =>
      have read := reads_fieldValue tells d is delimited
      rw [← passesBlanks_fieldValue d field blankAfter] at read
      simp only [List.cons_append, List.append_assoc] at front lead
      have name := string_spelled spelled (between ++ ':' :: (after ++ (text ++ rest)))
      have colon : fieldRest d (some field) (between ++ ':' :: (after ++ (text ++ rest))) =
          .ok (d.withField field c, rest) := by
        rw [fieldRest, skipBlanks_append blankBetween, skipBlanks_colon]
        exact read
      cases lead with
      | first => simp [fieldsFrom, front, name, colon, Option.filter, fresh]
      | later blank' =>
          simp [fieldsFrom, skipBlanks_append blank', front, name, colon, Option.filter, fresh]

/-- Fields that are all different, and were not there before, are read to the end of the
object. -/
theorem fieldsFrom_separated {isFirst : Bool} {input written : List Char}
    {fields : List (String × Value)} (separated : Separated (Named Denotes) written fields)
    {entries : List (Field × Value)}
    (own : fields = entries.map fun entry => (entry.1.name, entry.2))
    (tells : ∀ entry ∈ entries, Tells entry.1 entry.2 (c.setting? entry.1))
    (fresh : (entries.map Prod.fst ++ seen).Nodup) (enough : entries.length < fuel)
    (lead : Lead isFirst input (written ++ '\x7d' :: rest)) :
    fieldsFrom fuel isFirst seen d input =
      .ok (entries.foldl (fun d entry => d.withField entry.1 c) d, rest) := by
  induction separated generalizing fuel seen d entries input isFirst with
  | last blank blankAfter is =>
      obtain ⟨fuel, rfl⟩ := Nat.exists_eq_succ_of_ne_zero (Nat.ne_zero_of_lt enough)
      obtain ⟨entry, rfl⟩ : ∃ entry, entries = [entry] := by
        cases entries with
        | nil => cases own
        | cons entry others =>
            cases others with
            | nil => exact ⟨entry, rfl⟩
            | cons _ _ => cases own
      cases own
      simp only [List.append_assoc] at lead
      have new : entry.1 ∉ seen := (List.nodup_cons.mp fresh).1
      rw [fieldsFrom_field (tells entry List.mem_cons_self) new blank is
        (.behind_blanks blankAfter (.cons _ (.inr (.inr rfl)))) lead]
      obtain ⟨fuel, rfl⟩ := Nat.exists_eq_succ_of_ne_zero
        (Nat.ne_zero_of_lt (Nat.lt_of_succ_lt_succ enough))
      exact fieldsFrom_end blankAfter
  | next blank blankAfter is more ih =>
      obtain ⟨fuel, rfl⟩ := Nat.exists_eq_succ_of_ne_zero (Nat.ne_zero_of_lt enough)
      cases entries with
      | nil => cases own
      | cons entry entries =>
          obtain ⟨rfl, others⟩ := List.cons.inj own
          obtain ⟨first, later⟩ := List.forall_mem_cons.mp tells
          rw [List.map_cons, List.cons_append, List.nodup_cons, List.mem_append] at fresh
          have moved : (entries.map Prod.fst ++ entry.1 :: seen).Nodup := by
            rw [List.perm_middle.nodup_iff, List.nodup_cons, List.mem_append]
            exact fresh
          simp only [List.append_assoc, List.cons_append] at lead
          rw [fieldsFrom_field first (fun before => fresh.1 (.inr before)) blank is
            (.behind_blanks blankAfter (.cons _ (.inl rfl))) lead]
          exact ih others later moved (Nat.lt_of_succ_lt_succ enough) (.later blankAfter _)

end Fields

/-- Fields that hold a configuration set all of it. -/
theorem HeldBy.foldl_withField {entries : List (Field × Value)} (held : c.HeldBy entries) :
    entries.foldl (fun d entry => d.withField entry.1 c) unset = c := by
  have setting (entries : List (Field × Value)) (d : Config) (field : Field) :
      (entries.foldl (fun d entry => d.withField entry.1 c) d).setting? field =
        if field ∈ entries.map Prod.fst then c.setting? field else d.setting? field := by
    induction entries generalizing d with
    | nil => rfl
    | cons entry entries ih =>
        rw [List.foldl_cons, ih, setting?_withField, List.map_cons]
        by_cases here : field ∈ entries.map Prod.fst
        · rw [if_pos here, if_pos (List.mem_cons_of_mem _ here)]
        · by_cases same : field = entry.1
          · rw [if_neg here, if_pos same, if_pos (same ▸ List.mem_cons_self)]
          · rw [if_neg here, if_neg same, if_neg (by simpa [same] using here)]
  apply ext_setting
  intro field
  rw [setting]
  split
  · rfl
  · rename_i absent
    rw [held.others field absent]
    cases field <;> rfl

end Held

/-- The reader of this library is a lawful decoder. -/
theorem Decoder.lawful : Decoder.Lawful where
  decodes text entries c isText held := by
    obtain ⟨before, written, after, blank, blankAfter, is, whole⟩ := isText
    have behind : skipBlanks after = [] := by
      rw [← List.append_nil after, skipBlanks_append blankAfter]
      rfl
    have read : Config.read (before ++ (written ++ after)) = .ok (c, after) := by
      have front := (skipBlanks_append blank _).trans (is.skipBlanks_append after)
      rw [objectOf] at is
      cases is with
      | object listed =>
          generalize own : entries.map (fun entry => (entry.1.name, entry.2)) = fields at listed
          cases listed with
          | nothing blankInside =>
              obtain rfl : entries = [] := List.map_eq_nil_iff.mp own
              simp only [List.cons_append, List.append_assoc, List.nil_append] at front ⊢
              rw [Config.read, front]
              have set : unset = c := held.foldl_withField
              exact set ▸ fieldsFrom_end blankInside
          | parts separated =>
              have few := separated.length_le Named.fronted
              rw [← own, List.length_map] at few
              simp only [List.cons_append, List.append_assoc, List.nil_append] at front ⊢
              rw [Config.read, front]
              have set := held.foldl_withField
              have different : (entries.map Prod.fst ++ []).Nodup := by
                rw [List.append_nil]
                exact held.once
              refine (fieldsFrom_separated separated own.symm held.tells different ?_
                (.first _)).trans (by rw [set])
              simp only [List.length_append, List.length_cons]
              omega
    have parsed : parse text = .ok c := by
      rw [parse, whole, read]
      simp only [behind]
    change (parse text).mapError _ = _
    rw [parsed]
    rfl

/-! ## The round trip -/

/-- Every field is written as what tells its setting. -/
theorem tells_fieldJson {c : Config} (fits : ∀ depth ∈ c.maxDepth, depth ≤ 0xFFFFFFFFFFFFFFFF)
    (field : Field) : Tells field (c.fieldJson field) (c.setting? field) := by
  obtain ⟨extensions, ignore, maxDepth, overflow, comments, stop, parallel⟩ := c
  cases field with
  | extensions =>
      cases extensions with
      | none => exact .nothing _
      | some values => exact .extensions values
  | ignore =>
      cases ignore with
      | none => exact .nothing _
      | some values => exact .ignore values
  | maxDepth =>
      cases maxDepth with
      | none => exact .nothing _
      | some depth => exact .maxDepth (fits depth rfl)
  | overflow =>
      cases overflow with
      | none => exact .nothing _
      | some policy =>
          cases policy with
          | fail => exact .fail
          | truncate => exact .truncate
  | commentsInTemplateText =>
      cases comments with
      | none => exact .nothing _
      | some value => exact .commentsInTemplateText value
  | stopOnFirstError =>
      cases stop with
      | none => exact .nothing _
      | some value => exact .stopOnFirstError value
  | parallel =>
      cases parallel with
      | none => exact .nothing _
      | some value => exact .parallel value

/-- What is written of a configuration holds it. -/
theorem heldBy_all {c : Config} (fits : ∀ depth ∈ c.maxDepth, depth ≤ 0xFFFFFFFFFFFFFFFF) :
    c.HeldBy (Field.all.map fun field => (field, c.fieldJson field)) where
  once := by
    rw [List.map_map]
    change (Field.all.map id).Nodup
    decide
  tells := by
    intro entry among
    obtain ⟨field, _, rfl⟩ := List.mem_map.mp among
    exact tells_fieldJson fits field
  others := by
    intro field absent
    refine absurd (List.mem_map.mpr ⟨_, List.mem_map.mpr ⟨field, ?_, rfl⟩, rfl⟩) absent
    cases field <;> decide

theorem sound_fieldJson (c : Config) (field : Field) : (c.fieldJson field).Sound := by
  rw [fieldJson]
  split
  · rename_i setting _
    cases setting with
    | texts values =>
        refine .array fun item among => ?_
        obtain ⟨text, _, rfl⟩ := List.mem_map.mp among
        exact .string text
    | count value => exact .number (isNumber_natural value)
    | policy value => exact .string _
    | flag value => exact .bool value
  · exact .null

theorem sound_json (c : Config) : c.json.Sound := by
  refine .object fun field among => ?_
  obtain ⟨known, _, rfl⟩ := List.mem_map.mp among
  exact sound_fieldJson c known

theorem fieldJson_of {α : Type} {kind : α → Setting} {c : Config} {field : Field}
    {held : Option α} (own : c.setting? field = held.map kind) :
    c.fieldJson field = (held.map fun a => (kind a).json).getD .null := by
  rw [fieldJson, own]
  cases held <;> rfl

/-- The fields of a configuration, one by one. -/
theorem json_eq (c : Config) :
    c.json = .object [
      ("extensions", (c.extensions.map fun list => Value.array (list.map .string)).getD .null),
      ("ignore", (c.ignore.map fun list => Value.array (list.map .string)).getD .null),
      ("maxDepth", (c.maxDepth.map Value.natural).getD .null),
      ("overflow", (c.overflow.map fun policy => Value.string <|
        match policy with
        | .fail => "error"
        | .truncate => "truncate").getD .null),
      ("commentsInTemplateText", (c.commentsInTemplateText.map Value.bool).getD .null),
      ("stopOnFirstError", (c.stopOnFirstError.map Value.bool).getD .null),
      ("parallel", (c.parallel.map Value.bool).getD .null)] := by
  have extensions : c.setting? .extensions = c.extensions.map .texts := rfl
  have ignore : c.setting? .ignore = c.ignore.map .texts := rfl
  have maxDepth : c.setting? .maxDepth = c.maxDepth.map .count := rfl
  have overflow : c.setting? .overflow = c.overflow.map .policy := rfl
  have comments : c.setting? .commentsInTemplateText = c.commentsInTemplateText.map .flag := rfl
  have stop : c.setting? .stopOnFirstError = c.stopOnFirstError.map .flag := rfl
  have parallel : c.setting? .parallel = c.parallel.map .flag := rfl
  simp only [json, Field.all, List.map_cons, List.map_nil, Field.name, fieldJson_of extensions,
    fieldJson_of ignore, fieldJson_of maxDepth, fieldJson_of overflow, fieldJson_of comments,
    fieldJson_of stop, fieldJson_of parallel]
  rfl

/-- Whatever is set and whatever is not: what is written of a configuration is a text of one
object with seven fields, and a configuration of which the depth, if there is one, has 64 bits
is read back from it. What has been read is therefore checked alike: where nothing is set, 256
elements may be open, more of them are a defect, comments open in the text of template
literals, no defect ends a run, and files are checked as a batch if they have one of two
extensions. -/
theorem parse_render [Json.Writer] [Decoder] (writes : Json.Writer.Lawful)
    (decodes : Decoder.Lawful) (c : Config)
    (fits : ∀ depth ∈ c.maxDepth, depth ≤ 0xFFFFFFFFFFFFFFFF) :
    IsText c.render.toList (.object [
      ("extensions", (c.extensions.map fun list => Value.array (list.map .string)).getD .null),
      ("ignore", (c.ignore.map fun list => Value.array (list.map .string)).getD .null),
      ("maxDepth", (c.maxDepth.map Value.natural).getD .null),
      ("overflow", (c.overflow.map fun policy => Value.string <|
        match policy with
        | .fail => "error"
        | .truncate => "truncate").getD .null),
      ("commentsInTemplateText", (c.commentsInTemplateText.map Value.bool).getD .null),
      ("stopOnFirstError", (c.stopOnFirstError.map Value.bool).getD .null),
      ("parallel", (c.parallel.map Value.bool).getD .null)]) ∧
    ∃ read : Config, Decoder.decode c.render = .ok read ∧ read = c ∧
      read.scanOptions =
        { maxDepth := c.maxDepth.getD 256, overflow := c.overflow.getD .fail, maxNameLength := 127,
          commentsInTemplateText := c.commentsInTemplateText.getD true } ∧
      read.stops = c.stopOnFirstError.getD false ∧
      read.isParallel = c.parallel.getD true ∧
      ∀ path, read.checks path = true ↔ ∃ extension, Path.extension? path = some extension ∧
        match c.extensions with
        | some given => ∃ one ∈ given, String.ofList (one.toList.dropWhile (· = '.')) = extension
        | none => extension = "tsx" ∨ extension = "jsx" := by
  have written : IsText c.render.toList c.json := writes.line c.json (sound_json c)
  have whole : c.json = objectOf (Field.all.map fun field => (field, c.fieldJson field)) := by
    rw [objectOf, List.map_map]
    rfl
  refine ⟨json_eq c ▸ written, c, ?_, rfl, rfl, rfl, rfl, ?_⟩
  · exact decodes.decodes c.render _ c (whole ▸ written) (heldBy_all fits)
  · intro path
    rw [checks, Option.any_eq_true]
    refine exists_congr fun extension => and_congr_right fun _ => ?_
    rw [checkedExtensions]
    cases c.extensions with
    | none => simp [defaultExtensions]
    | some given => simp [bareExtension, eq_comm]

/-- A configuration with a setting of every kind: strings that need escapes, the largest
depth, and a field that is not set. -/
def manifold : Config where
  extensions := some ["tsx", "\"\\/", "\n\x01\x7f", "é🦀"]
  ignore := some []
  maxDepth := some 0xFFFFFFFFFFFFFFFF
  overflow := some .truncate
  commentsInTemplateText := some false
  stopOnFirstError := some true

theorem parse_render_manifold :
    (∀ depth ∈ manifold.maxDepth, depth ≤ 0xFFFFFFFFFFFFFFFF) ∧
      manifold.render =
        "\x7b\"extensions\":[\"tsx\",\"\\\"\\\\/\",\"\\n\\u0001\x7f\",\"é🦀\"],\"ignore\":[]," ++
        "\"maxDepth\":18446744073709551615,\"overflow\":\"truncate\"," ++
        "\"commentsInTemplateText\":false,\"stopOnFirstError\":true,\"parallel\":null\x7d" ∧
      Decoder.decode manifold.render = .ok manifold ∧
      manifold.scanOptions =
        { maxDepth := 0xFFFFFFFFFFFFFFFF, overflow := .truncate, maxNameLength := 127,
          commentsInTemplateText := false } ∧
      manifold.stops = true ∧ manifold.isParallel = true ∧ manifold.checks "a.tsx" = true := by
  have fits : ∀ depth ∈ manifold.maxDepth, depth ≤ 0xFFFFFFFFFFFFFFFF := by
    intro depth set
    exact Nat.le_of_eq (Option.some.inj set).symm
  obtain ⟨_, read, decoded, rfl, options, stops, parallel, checks⟩ :=
    parse_render Json.Writer.lawful Decoder.lawful manifold fits
  refine ⟨fits, by decide +kernel, decoded, options, stops, parallel, (checks "a.tsx").mpr ?_⟩
  exact ⟨"tsx", by decide +kernel, "tsx", List.mem_cons_self, by decide +kernel⟩

end TagCheck.Config
