import RoleCatalog.Text.Blank
import Mathlib.Data.List.DropRight

/-! # Trimmed texts

Of the texts that can be had from a text by taking blanks off its ends, the trimmed one
is the only one without a blank at either end. So trimming changes nothing more in it.
-/

namespace RoleCatalog.Text

/-- Neither end of the text is a blank. -/
structure Tight (text : List Char) : Prop where
  first : ∀ character ∈ text.head?, isBlank character = false
  last : ∀ character ∈ text.getLast?, isBlank character = false

/-- The value is the text without the blanks at its ends. -/
structure Trims (text value : List Char) : Prop where
  tight : Tight value
  surrounded : ∃ before after, text = before ++ value ++ after ∧
    (∀ character ∈ before, isBlank character = true) ∧
      ∀ character ∈ after, isBlank character = true

theorem tight_nil : Tight [] :=
  ⟨nofun, nofun⟩

theorem trimEnd_eq_rdropWhile (text : List Char) : trimEnd text = text.rdropWhile isBlank :=
  rfl

theorem tight_trim (text : List Char) : Tight (trim text) where
  first := by
    intro character isFirst
    -- What is left at the end begins as the text did after its leading blanks.
    have begins : (text.dropWhile isBlank).head? = some character := by
      rcases List.rdropWhile_prefix isBlank (trimStart text) with ⟨removed, whole⟩
      rw [← trimStart, ← whole, List.head?_append]
      exact congrArg (Option.or · removed.head?) isFirst
    have nonblank := List.head?_dropWhile_not isBlank text
    rw [begins] at nonblank
    simpa using nonblank
  last := by
    intro character isLast
    rw [trim, trimEnd_eq_rdropWhile] at isLast
    have nonempty : (trimStart text).rdropWhile isBlank ≠ [] := by
      intro empty
      rw [empty] at isLast
      cases isLast
    have nonblank := List.rdropWhile_last_not isBlank (trimStart text) nonempty
    rw [List.getLast?_eq_some_getLast nonempty, Option.mem_some_iff] at isLast
    rw [isLast] at nonblank
    exact eq_false_of_ne_true nonblank

theorem trims_trim (text : List Char) : Trims text (trim text) where
  tight := tight_trim text
  surrounded := by
    refine ⟨text.takeWhile isBlank, (trimStart text).rtakeWhile isBlank, ?_, ?_, ?_⟩
    · rw [List.append_assoc, trim, trimEnd_eq_rdropWhile, List.rdropWhile_append_rtakeWhile,
        trimStart, List.takeWhile_append_dropWhile]
    · exact fun _ member => List.mem_takeWhile_imp member
    · exact fun _ member => List.mem_rtakeWhile_imp member

theorem Tight.trimStart_append {value : List Char} (tight : Tight value) (nonempty : value ≠ [])
    (after : List Char) : trimStart (value ++ after) = value ++ after := by
  cases value with
  | nil => exact absurd rfl nonempty
  | cons first rest =>
      rw [trimStart, List.cons_append, List.dropWhile_cons_of_neg]
      rw [tight.first first rfl]
      exact Bool.false_ne_true

theorem Tight.trimEnd_eq {value : List Char} (tight : Tight value) : trimEnd value = value := by
  rw [trimEnd_eq_rdropWhile, List.rdropWhile_eq_self_iff]
  intro nonempty
  rw [tight.last _ (List.getLast?_eq_some_getLast nonempty)]
  exact Bool.false_ne_true

theorem trimEnd_append {after : List Char}
    (blank : ∀ character ∈ after, isBlank character = true) (value : List Char) :
    trimEnd (value ++ after) = trimEnd value := by
  rw [trimEnd, List.reverse_append, List.dropWhile_append_of_pos, trimEnd]
  exact fun character member => blank character (List.mem_reverse.mp member)

theorem Trims.trim_eq {text value : List Char} (trims : Trims text value) :
    trim text = value := by
  rcases trims.surrounded with ⟨before, after, rfl, blankBefore, blankAfter⟩
  rw [trim, List.append_assoc, trimStart, List.dropWhile_append_of_pos blankBefore]
  by_cases empty : value = []
  · have nothing : after.dropWhile isBlank = [] := List.dropWhile_eq_nil_iff.mpr blankAfter
    rw [empty, List.nil_append, nothing]
    rfl
  · rw [← trimStart, trims.tight.trimStart_append empty, trimEnd_append blankAfter,
      trims.tight.trimEnd_eq]

theorem trims_iff {text value : List Char} : Trims text value ↔ trim text = value :=
  ⟨Trims.trim_eq, fun equal => equal ▸ trims_trim text⟩

theorem Tight.trim_eq {value : List Char} (tight : Tight value) : trim value = value :=
  Trims.trim_eq ⟨tight, [], [], (List.append_nil value).symm, nofun, nofun⟩

theorem trim_eq_nil_iff {text : List Char} :
    trim text = [] ↔ ∀ character ∈ text, isBlank character = true := by
  constructor
  · intro empty
    rcases (trims_iff.mpr empty).surrounded with ⟨before, after, rfl, blankBefore, blankAfter⟩
    rw [List.append_nil, List.forall_mem_append]
    exact ⟨blankBefore, blankAfter⟩
  · intro blank
    exact Trims.trim_eq ⟨tight_nil, text, [], by simp, blank, nofun⟩

theorem trims_toList_iff {text value : String} :
    Trims text.toList value.toList ↔ trimmed text = value := by
  rw [trims_iff, trimmed, ← String.toList_inj, String.toList_ofList]

theorem trimmed_eq_empty_iff {text : String} :
    trimmed text = "" ↔ ∀ character ∈ text.toList, isBlank character = true := by
  rw [trimmed, ← String.toList_inj, String.toList_ofList]
  exact trim_eq_nil_iff

end RoleCatalog.Text
