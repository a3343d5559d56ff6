import ServiceMessages.Text.Fields

/-!
# Strings and their brands

The string operations the source uses, on lists of characters, and the
brands of strings that the handlers pass around.
-/

namespace ServiceMessages

abbrev NonEmptyString := { text : String // text ≠ "" }

/-- A string branded as an identifier in ULID format.  Which strings deserve
the brand is decided by the codec of the brand, not here. -/
structure Ulid where
  text : String
deriving DecidableEq

structure FiscalCode where
  text : String
deriving DecidableEq

def startsWith (text start : String) : Bool :=
  start.toList.isPrefixOf text.toList

/-- The position of the first occurrence of `needle`, or `-1`. -/
def indexOf (text needle : String) : Int :=
  match Text.firstOccurrence? needle.toList text.toList with
  | some position => position
  | none => -1

def split (text : String) (separator : Char) : List String :=
  (text.toList.splitOn separator).map String.ofList

def isWhiteSpace (character : Char) : Bool :=
  [0x09, 0x0A, 0x0B, 0x0C, 0x0D, 0x20, 0xA0, 0x1680, 0x2000, 0x2001, 0x2002, 0x2003, 0x2004,
    0x2005, 0x2006, 0x2007, 0x2008, 0x2009, 0x200A, 0x2028, 0x2029, 0x202F, 0x205F, 0x3000,
    0xFEFF].contains character.toNat

def trim (text : String) : String :=
  String.ofList (Text.trim isWhiteSpace text.toList)

theorem startsWith_iff (text start : String) :
    startsWith text start = true ↔ ∃ rest, text = start ++ rest := by
  rw [startsWith, List.isPrefixOf_iff_prefix]
  constructor
  · rintro ⟨rest, whole⟩
    refine ⟨String.ofList rest, ?_⟩
    rw [← String.toList_inj, String.toList_append, String.toList_ofList, whole]
  · rintro ⟨rest, rfl⟩
    rw [String.toList_append]
    exact List.prefix_append _ _

theorem indexOf_gt_iff (text needle : String) :
    indexOf text needle > -1 ↔ needle.toList <:+: text.toList := by
  rw [← Text.isSome_firstOccurrence?_iff, indexOf]
  cases Text.firstOccurrence? needle.toList text.toList with
  | none => simp
  | some position =>
      simp only [gt_iff_lt, Option.isSome_some, iff_true]
      omega

/-- A nonempty text without the separator occurs in the whole exactly when it
occurs inside one of the pieces. -/
theorem indexOf_gt_iff_split (text needle : String) (separator : Char)
    (nonempty : needle ≠ "") (absent : separator ∉ needle.toList) :
    indexOf text needle > -1 ↔
      ∃ piece ∈ split text separator, needle.toList <:+: piece.toList := by
  have nonemptyList : needle.toList ≠ [] := by
    simpa using nonempty
  rw [indexOf_gt_iff, Text.infix_iff_exists_segment separator _ _ nonemptyList absent, split]
  simp

end ServiceMessages
