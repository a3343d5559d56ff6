import Mathlib.Data.List.Basic
import Mathlib.Data.List.Infix

/-!
# Searching and splitting sequences

First occurrences of a sequence in another one, and how occurrences relate to
the segments between separators: a sequence without the separator occurs in
the whole exactly when it occurs in one of the segments.
-/

namespace Text

universe u

variable {α : Type u} [DecidableEq α]

def firstOccurrence? (needle : List α) : List α → Option Nat
  | [] => if needle = [] then some 0 else none
  | head :: tail =>
      if needle.isPrefixOf (head :: tail) then some 0
      else (firstOccurrence? needle tail).map (· + 1)

theorem isSome_firstOccurrence?_iff (needle hay : List α) :
    (firstOccurrence? needle hay).isSome ↔ needle <:+: hay := by
  induction hay with
  | nil =>
      by_cases empty : needle = [] <;> simp [firstOccurrence?, empty]
  | cons head tail inductionHypothesis =>
      rw [List.infix_cons_iff, ← inductionHypothesis, ← List.isPrefixOf_iff_prefix]
      by_cases here : needle.isPrefixOf (head :: tail) = true <;>
        simp [firstOccurrence?, here]

theorem splitOn_cons (separator head : α) (tail : List α) :
    (head :: tail).splitOn separator =
      if head = separator then [] :: tail.splitOn separator
      else (tail.splitOn separator).modifyHead (List.cons head) := by
  simp only [List.splitOn, List.splitOnP_cons_eq_if_modifyHead, beq_iff_eq]

theorem not_mem_of_mem_splitOn {separator : α} {sequence segment : List α}
    (membership : segment ∈ sequence.splitOn separator) : separator ∉ segment := by
  induction sequence generalizing segment with
  | nil =>
      obtain rfl : segment = [] := by simpa using membership
      exact List.not_mem_nil
  | cons head tail inductionHypothesis =>
      rw [splitOn_cons] at membership
      by_cases atSeparator : head = separator
      · rw [if_pos atSeparator, List.mem_cons] at membership
        rcases membership with rfl | inTail
        · exact List.not_mem_nil
        · exact inductionHypothesis inTail
      · obtain ⟨first, rest, split⟩ :=
          List.exists_cons_of_ne_nil (List.splitOn_ne_nil separator tail)
        rw [if_neg atSeparator, split, List.modifyHead_cons, List.mem_cons] at membership
        rcases membership with rfl | inRest
        · have absent : separator ∉ first :=
            inductionHypothesis (by rw [split]; exact List.mem_cons_self)
          simp [Ne.symm atSeparator, absent]
        · exact inductionHypothesis (by rw [split]; exact List.mem_cons_of_mem _ inRest)

/-- The last segment of a sequence: what follows the last separator, or all of
it if there is none. -/
def IsLastSegment (separator : α) (sequence segment : List α) : Prop :=
  separator ∉ segment ∧ (sequence = segment ∨ ∃ front, sequence = front ++ separator :: segment)

theorem exists_isLastSegment (separator : α) (sequence : List α) :
    ∃ segment, IsLastSegment separator sequence segment := by
  induction sequence with
  | nil => exact ⟨[], List.not_mem_nil, .inl rfl⟩
  | cons head tail inductionHypothesis =>
      obtain ⟨segment, absent, rfl | ⟨front, rfl⟩⟩ := inductionHypothesis
      · by_cases atSeparator : head = separator
        · exact ⟨tail, absent, .inr ⟨[], by simp [atSeparator]⟩⟩
        · exact ⟨head :: tail, by simp [Ne.symm atSeparator, absent], .inl rfl⟩
      · exact ⟨segment, absent, .inr ⟨head :: front, rfl⟩⟩

theorem IsLastSegment.getLast?_splitOn {separator : α} {sequence segment : List α}
    (last : IsLastSegment separator sequence segment) :
    (sequence.splitOn separator).getLast? = some segment := by
  obtain ⟨absent, rfl | ⟨front, rfl⟩⟩ := last
  · rw [List.splitOn_eq_singleton absent]
    rfl
  · rw [List.splitOn_append_cons_self, List.splitOn_eq_singleton absent]
    simp

/-- Splitting finds the last segment, and nothing else is one. -/
theorem isLastSegment_iff {separator : α} {sequence segment : List α} :
    IsLastSegment separator sequence segment ↔
      (sequence.splitOn separator).getLast? = some segment := by
  constructor
  · exact IsLastSegment.getLast?_splitOn
  · intro found
    obtain ⟨last, isLast⟩ := exists_isLastSegment separator sequence
    obtain rfl := Option.some.inj (isLast.getLast?_splitOn.symm.trans found)
    exact isLast

theorem head_splitOn_prefix (separator : α) (sequence : List α) :
    ∃ first rest, sequence.splitOn separator = first :: rest ∧ first <+: sequence ∧
      ∀ needle : List α, separator ∉ needle → needle <+: sequence → needle <+: first := by
  induction sequence with
  | nil => exact ⟨[], [], by simp, List.prefix_refl _, fun _ _ isPrefix => isPrefix⟩
  | cons head tail inductionHypothesis =>
      obtain ⟨first, rest, split, isPrefix, longest⟩ := inductionHypothesis
      rw [splitOn_cons]
      by_cases atSeparator : head = separator
      · refine ⟨[], tail.splitOn separator, by simp [atSeparator], List.nil_prefix, ?_⟩
        intro needle absent occurs
        cases needle with
        | nil => exact List.nil_prefix
        | cons start remaining =>
            obtain ⟨rfl, _⟩ := List.cons_prefix_cons.mp occurs
            simp [atSeparator] at absent
      · refine ⟨head :: first, rest, by simp [atSeparator, split], ?_, ?_⟩
        · exact List.cons_prefix_cons.mpr ⟨rfl, isPrefix⟩
        · intro needle absent occurs
          cases needle with
          | nil => exact List.nil_prefix
          | cons start remaining =>
              obtain ⟨same, remainingOccurs⟩ := List.cons_prefix_cons.mp occurs
              have remainingAbsent : separator ∉ remaining :=
                fun membership => absent (List.mem_cons_of_mem _ membership)
              exact List.cons_prefix_cons.mpr
                ⟨same, longest remaining remainingAbsent remainingOccurs⟩

/-- A nonempty sequence without the separator occurs in the whole exactly when
it occurs inside one segment. -/
theorem infix_iff_exists_segment (separator : α) (needle sequence : List α)
    (nonempty : needle ≠ []) (absent : separator ∉ needle) :
    needle <:+: sequence ↔ ∃ segment ∈ sequence.splitOn separator, needle <:+: segment := by
  induction sequence with
  | nil => simp [nonempty]
  | cons head tail inductionHypothesis =>
      rw [List.infix_cons_iff, inductionHypothesis, splitOn_cons]
      by_cases atSeparator : head = separator
      · have notHere : ¬ needle <+: head :: tail := by
          intro occurs
          cases needle with
          | nil => exact nonempty rfl
          | cons start remaining =>
              obtain ⟨rfl, _⟩ := List.cons_prefix_cons.mp occurs
              simp [atSeparator] at absent
        simp only [atSeparator] at notHere
        simp [atSeparator, notHere, nonempty]
      · obtain ⟨first, rest, split, isPrefix, longest⟩ := head_splitOn_prefix separator tail
        rw [split]
        simp only [atSeparator, if_false, List.modifyHead_cons, List.mem_cons, exists_eq_or_imp,
          List.infix_cons_iff]
        constructor
        · rintro (here | inFirst | inRest)
          · cases needle with
            | nil => exact absurd rfl nonempty
            | cons start remaining =>
                obtain ⟨same, remainingOccurs⟩ := List.cons_prefix_cons.mp here
                have remainingAbsent : separator ∉ remaining :=
                  fun membership => absent (List.mem_cons_of_mem _ membership)
                exact .inl (.inl (List.cons_prefix_cons.mpr
                  ⟨same, longest remaining remainingAbsent remainingOccurs⟩))
          · exact .inl (.inr inFirst)
          · exact .inr inRest
        · rintro ((here | inFirst) | inRest)
          · exact .inl (here.trans (List.cons_prefix_cons.mpr ⟨rfl, isPrefix⟩))
          · exact .inr (.inl inFirst)
          · exact .inr (.inr inRest)

end Text
