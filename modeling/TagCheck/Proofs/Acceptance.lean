/-
# What is accepted

A text is accepted when scanning finds no defect. Under the failing policy these
are exactly the texts whose tags are derived by the grammar of nested tags and
never pend in greater number than the limit. Every element of such a text is
counted once: a single tag where it stands, any other element by its opening tag,
whose closing tag the grammar supplies.

The tags are those that the lexer finds with no regard to the stack. That this is
how a scan finds them when it meets each one at once is `Scanner.run_start`.
-/

import TagCheck.Proofs.FirstDefect
import TagCheck.Proofs.OnePass

namespace TagCheck

/-- Where no tag offends, no more are opened than are closed or allowed to pend. -/
theorem Clean.openings_le {limit : Nat} {tags earlier : List Tag} (clean : Clean limit tags)
    (starts : earlier <+: tags) : openings earlier ≤ closings earlier + limit := by
  obtain ⟨later, rfl⟩ := starts
  obtain ⟨pending, given, within⟩ := clean.of_append.exists_pending
  rw [given.openings_eq]
  exact Nat.add_le_add_left within _

/-- Well-nested tags offend nowhere if they stay within the limit. -/
theorem WellNested.clean {limit : Nat} {tags : List Tag} (nested : WellNested tags)
    (within : ∀ earlier, earlier <+: tags → openings earlier ≤ closings earlier + limit) :
    Clean limit tags := by
  intro earlier t later pending cut given
  rintro (⟨closes, misfit⟩ | ⟨opens, full⟩)
  · exact misfit (nested.fits cut given closes)
  · have opened : openings (earlier ++ [t]) = openings earlier + 1 := by
      simp [openings, opens]
    have closed : closings (earlier ++ [t]) = closings earlier := by
      simp [closings, opens]
    have bound := within (earlier ++ [t]) ⟨later, by rw [cut, List.append_assoc]; rfl⟩
    have pends := given.openings_eq
    omega

theorem leftOpen_eq_none {pending : List Tag} : leftOpen pending = none ↔ pending = [] := by
  rw [leftOpen, Option.map_eq_none_iff, List.getLast?_eq_none_iff]

/-- Acceptance is being clean and leaving nothing open. -/
theorem scan_accepts_iff_clean {options : ScanOptions} {text : Text}
    (fails : options.overflow = .fail) :
    (scan options text).defect = none ↔
      Clean options.maxDepth (tags options text) ∧ WellNested (tags options text) := by
  rcases FirstOffence.scan_verdict fails text with
    ⟨_, _, _, first, found, _⟩ | ⟨left, clean, given, found, _⟩
  · rw [found]
    constructor
    · exact fun accepted => absurd accepted (Option.some_ne_none _)
    · exact fun ⟨clean, _⟩ => absurd clean first.not_clean
  · rw [found, leftOpen_eq_none]
    constructor
    · exact fun nothing => ⟨clean, given.wellNested nothing⟩
    · exact fun ⟨_, nested⟩ => given.unique (.closed nested)

/-- A scan under the failing policy finds no defect exactly when the tags of the
text are well nested and at no point more than `maxDepth` of them pend; it then
counts each single tag and each opening tag of an element. Whether the tags are met
as they are found or after the whole text is read makes no difference. -/
theorem scan_accepts_iff_wellNested (options : ScanOptions) (text : Text)
    (fails : options.overflow = .fail) :
    let read := tags options text
    ((scan options text).defect = none ↔
      WellNested read ∧
        ∀ earlier, earlier <+: read → openings earlier ≤ closings earlier + options.maxDepth) ∧
    ((scan options text).defect = none →
      (scan options text).tagsChecked = singles read + namedOpenings read) ∧
    (Scanner.start options text).run options = scan options text := by
  intro read
  rw [scan_accepts_iff_clean fails]
  refine ⟨⟨?_, ?_⟩, ?_, Scanner.run_start options text⟩
  · rintro ⟨clean, nested⟩
    exact ⟨nested, fun _ starts => clean.openings_le starts⟩
  · rintro ⟨nested, within⟩
    exact ⟨nested.clean within, nested⟩
  · rintro ⟨clean, nested⟩
    rw [clean.scan_tagsChecked fails, completed, nested.namedOpenings_eq]

theorem scan_accepts_iff_wellNested_fragment :
    let options : ScanOptions := { maxDepth := 2 }
    let text : Text := "<a><br><></></a>".toUTF8.toList
    options.overflow = .fail ∧ WellNested (tags options text) ∧
      singles (tags options text) + namedOpenings (tags options text) = 2 := by
  intro options text
  have accepted : (scan options text).defect = none := by decide +kernel
  have counted : (scan options text).tagsChecked = 2 := by decide +kernel
  obtain ⟨accepts, counts, _⟩ := scan_accepts_iff_wellNested options text rfl
  exact ⟨rfl, (accepts.mp accepted).1, (counts accepted).symm.trans counted⟩

end TagCheck
