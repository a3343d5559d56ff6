import Mathlib.Data.List.DropRight
import ServiceMessages.Text.Segments

/-!
# Lists in one text

A text lists fields between separators.  Blanks around a field do not count,
and neither do fields that are empty.  A field with no separator inside and no
blank at its ends is read back as it was written.
-/

namespace Text

universe u

variable {α : Type u} (blank : α → Bool)

def trim (text : List α) : List α :=
  (text.dropWhile blank).rdropWhile blank

/-- There is no blank at either end. -/
def Trimmed (text : List α) : Prop :=
  (∀ first ∈ text.head?, blank first = false) ∧ ∀ last ∈ text.getLast?, blank last = false

variable {blank} {text : List α}

theorem mem_of_mem_trim {element : α} (membership : element ∈ trim blank text) : element ∈ text :=
  List.dropWhile_subset _ ((List.rdropWhile_prefix _ _).subset membership)

theorem Trimmed.trim_eq (trimmed : Trimmed blank text) : trim blank text = text := by
  have front : text.dropWhile blank = text := by
    cases text with
    | nil => rfl
    | cons first rest =>
        have notBlank := trimmed.1 first rfl
        exact List.dropWhile_cons_of_neg (by simp [notBlank])
  rw [trim, front, List.rdropWhile_eq_self_iff]
  intro nonempty
  simp [trimmed.2 _ (List.getLast?_eq_some_getLast nonempty)]

variable (blank text) in
theorem trimmed_trim : Trimmed blank (trim blank text) := by
  constructor
  · intro first isFirst
    obtain ⟨rest, trimmed⟩ : ∃ rest, trim blank text = first :: rest :=
      List.head?_eq_some_iff.mp isFirst
    obtain ⟨dropped, split⟩ := List.rdropWhile_prefix blank (text.dropWhile blank)
    have front := List.head?_dropWhile_not blank text
    rw [trim] at trimmed
    rw [← split, trimmed] at front
    simpa using front
  · intro last isLast
    have nonempty : trim blank text ≠ [] := by
      intro empty
      simp [empty] at isLast
    have back := List.rdropWhile_last_not blank (text.dropWhile blank) nonempty
    rw [List.getLast?_eq_some_getLast nonempty, Option.mem_some_iff] at isLast
    rw [← isLast]
    exact Bool.eq_false_iff.mpr back

variable [DecidableEq α] (separator : α)

variable (blank) in
def fields (text : List α) : List (List α) :=
  ((text.splitOn separator).map (trim blank)).filter (! ·.isEmpty)

variable (blank) in
/-- What can stand as a field in a text. -/
structure IsField (field : List α) : Prop where
  nonempty : field ≠ []
  absent : separator ∉ field
  trimmed : Trimmed blank field

variable {separator}

theorem isField_of_mem_fields {field : List α} (membership : field ∈ fields blank separator text) :
    IsField blank separator field := by
  obtain ⟨trimmed, nonempty⟩ := List.mem_filter.mp membership
  obtain ⟨segment, isSegment, rfl⟩ := List.mem_map.mp trimmed
  constructor
  case nonempty => simpa using nonempty
  case absent => exact fun present => not_mem_of_mem_splitOn isSegment (mem_of_mem_trim present)
  case trimmed => exact trimmed_trim blank segment

theorem fields_append (first second : List α) :
    fields blank separator (first ++ separator :: second) =
      fields blank separator first ++ fields blank separator second := by
  rw [fields, List.splitOn_append_cons_self, List.map_append, List.filter_append]
  rfl

/-- A list of fields is read back from the text that lists them. -/
theorem fields_intercalate {list : List (List α)}
    (areFields : ∀ field ∈ list, IsField blank separator field) :
    fields blank separator ([separator].intercalate list) = list := by
  by_cases empty : list = []
  · subst empty
    simp [fields, trim]
  · have trimmed : list.map (trim blank) = list := by
      apply (List.map_congr_left _).trans list.map_id
      intro field membership
      exact (areFields field membership).trimmed.trim_eq
    rw [fields, List.splitOn_intercalate separator
      (fun field membership => (areFields field membership).absent) empty, trimmed,
      List.filter_eq_self]
    intro field membership
    simpa using (areFields field membership).nonempty

theorem fields_intercalate_fields (text : List α) :
    fields blank separator ([separator].intercalate (fields blank separator text)) =
      fields blank separator text :=
  fields_intercalate fun _ => isField_of_mem_fields

end Text
