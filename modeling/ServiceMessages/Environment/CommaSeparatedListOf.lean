import Mathlib.Data.List.Basic
import ServiceMessages.Common.Strings

/-!
# Lists in environment variables

The codec of a list of items that is written with commas, and why what it
reads it can write and read again.
-/

namespace ServiceMessages.Environment

/-- A value of unknown type, as far as the codecs tell values apart.  Every
string counts as a string here, also the empty one. -/
inductive Unknown where
  | string (text : String)
  | falsy
  | array (elements : List Unknown)
  | other

inductive ListError (E : Type) where
  | notAnArray
  | element (index : ℕ) (error : E)

section Lists

variable {A E : Type} (decoder : Unknown → Except E A)

def decodeElements (index : ℕ) : List Unknown → Except (List (ListError E)) (List A)
  | [] => .ok []
  | element :: rest =>
      match decoder element, decodeElements (index + 1) rest with
      | .ok item, .ok items => .ok (item :: items)
      | .ok _, .error errors => .error errors
      | .error error, .ok _ => .error [.element index error]
      | .error error, .error errors => .error (.element index error :: errors)

def readonlyArray : Unknown → Except (List (ListError E)) (List A)
  | .array elements => decodeElements decoder 0 elements
  | _ => .error [.notAnArray]

def commaSeparatedListOf (input : Unknown) : Except (List (ListError E)) (List A) :=
  readonlyArray decoder
    (match input with
      | .string text =>
          .array ((((split text ',').map trim).filter fun e => e ≠ "").map .string)
      | .falsy => .array []
      -- it should not happen, but in case we let the decoder fail
      | input => input)

/-- How the language prints an array, from how it prints the elements. -/
def printArray (print : A → String) (items : List A) : String :=
  ",".intercalate (items.map print)

end Lists

def nonEmptyString : Unknown → Except Unknown NonEmptyString
  | .string text => if nonempty : text ≠ "" then .ok ⟨text, nonempty⟩ else .error (.string text)
  | input => .error input

def decode (text : String) : Except (List (ListError Unknown)) (List NonEmptyString) :=
  commaSeparatedListOf nonEmptyString (.string text)

def encode (items : List NonEmptyString) : String :=
  printArray Subtype.val items

/-- The testers that the variable names, none if it is not set. -/
def FF_BETA_TESTERS (value : Option String) :
    Except (List (ListError Unknown)) (List NonEmptyString) :=
  decode (value.getD "")

theorem decodeElements_nonEmptyString (index : ℕ) (items : List NonEmptyString) :
    decodeElements nonEmptyString index (items.map fun item => .string item.val) = .ok items := by
  induction items generalizing index with
  | nil => rfl
  | cons item rest inductionHypothesis =>
      have decoded : nonEmptyString (.string item.val) = .ok item := by
        simp [nonEmptyString, item.property]
      rw [List.map_cons, decodeElements, decoded, inductionHypothesis]

/-- The texts that a list is made of, once blanks and empty texts are gone. -/
def fieldsOf (text : String) : List (List Char) :=
  Text.fields isWhiteSpace ',' text.toList

theorem filter_trim_split (text : String) :
    (((split text ',').map trim).filter fun e => e ≠ "") =
      (fieldsOf text).map String.ofList := by
  have trims : trim ∘ String.ofList = String.ofList ∘ Text.trim isWhiteSpace := by
    funext characters
    simp [trim]
  have empties : (fun e : String => decide (e ≠ "")) ∘ String.ofList = (! ·.isEmpty) := by
    funext characters
    cases characters <;> simp [String.ofList_eq_empty_iff]
  rw [fieldsOf, Text.fields, split, List.map_map, trims, ← List.map_map, List.filter_map, empties]

theorem exists_decode (text : String) :
    ∃ items, decode text = .ok items ∧ items.map (·.val.toList) = fieldsOf text := by
  have nonempty : ∀ field ∈ (fieldsOf text).map String.ofList, field ≠ "" := by
    intro field membership
    rw [← filter_trim_split] at membership
    simpa using (List.mem_filter.mp membership).2
  obtain ⟨items, listed⟩ : ∃ items : List NonEmptyString,
      items.map Subtype.val = (fieldsOf text).map String.ofList :=
    ⟨List.attachWith _ _ nonempty, List.attachWith_map_subtype_val _⟩
  refine ⟨items, ?_, ?_⟩
  · rw [decode, commaSeparatedListOf, filter_trim_split, ← listed, List.map_map]
    exact decodeElements_nonEmptyString 0 items
  · have characters := congrArg (List.map String.toList) listed
    simpa [Function.comp_def] using characters

theorem decode_eq_ok_iff {text : String} {items : List NonEmptyString} :
    decode text = .ok items ↔ items.map (·.val.toList) = fieldsOf text := by
  obtain ⟨decoded, isDecoded, listed⟩ := exists_decode text
  have injective : Function.Injective fun item : NonEmptyString => item.val.toList :=
    fun _ _ same => Subtype.ext (String.toList_inj.mp same)
  rw [isDecoded, Except.ok.injEq, ← listed, injective.list_map.eq_iff, eq_comm]

theorem fieldsOf_encode (items : List NonEmptyString) :
    fieldsOf (encode items) =
      Text.fields isWhiteSpace ',' ([','].intercalate (items.map (·.val.toList))) := by
  rw [fieldsOf, encode, printArray, String.toList_intercalate, List.map_map]
  rfl

/-- Every text is decoded, what is decoded is read back from its encoding, any
items without commas and without blanks at their ends are read back from theirs,
and texts joined by a comma list what each of them lists. -/
theorem commaSeparatedListOf_round_trips :
    (∀ text, ∃ items, decode text = .ok items ∧ decode (encode items) = .ok items) ∧
    (∀ items : List NonEmptyString,
      (∀ item ∈ items, ',' ∉ item.val.toList ∧
        Text.Trimmed isWhiteSpace item.val.toList) → decode (encode items) = .ok items) ∧
    ∀ first second, ∃ firstItems secondItems, decode first = .ok firstItems ∧
      decode second = .ok secondItems ∧
        decode (first ++ "," ++ second) = .ok (firstItems ++ secondItems) := by
  refine ⟨?_, ?_, ?_⟩
  · intro text
    obtain ⟨items, decoded, listed⟩ := exists_decode text
    refine ⟨items, decoded, decode_eq_ok_iff.mpr ?_⟩
    rw [fieldsOf_encode, listed, fieldsOf, Text.fields_intercalate_fields]
  · intro items clean
    rw [decode_eq_ok_iff, fieldsOf_encode, Text.fields_intercalate]
    intro field membership
    obtain ⟨item, isItem, rfl⟩ := List.mem_map.mp membership
    obtain ⟨absent, trimmed⟩ := clean item isItem
    exact ⟨by simpa using item.property, absent, trimmed⟩
  · intro first second
    obtain ⟨firstItems, firstDecoded, firstListed⟩ := exists_decode first
    obtain ⟨secondItems, secondDecoded, secondListed⟩ := exists_decode second
    refine ⟨firstItems, secondItems, firstDecoded, secondDecoded, decode_eq_ok_iff.mpr ?_⟩
    rw [List.map_append, firstListed, secondListed, fieldsOf, fieldsOf, fieldsOf,
      ← Text.fields_append]
    simp

theorem commaSeparatedListOf_round_trips_sample :
    decode (encode [⟨"TEST1", by decide⟩, ⟨"TEST2", by decide⟩]) =
      .ok [⟨"TEST1", by decide⟩, ⟨"TEST2", by decide⟩] := by
  apply commaSeparatedListOf_round_trips.2.1
  intro item membership
  have listed : item.val = "TEST1" ∨ item.val = "TEST2" := by
    simpa [Subtype.ext_iff] using membership
  rcases listed with here | here
  · rw [here]
    simp [Text.Trimmed, isWhiteSpace]
  · rw [here]
    simp [Text.Trimmed, isWhiteSpace]

end ServiceMessages.Environment
