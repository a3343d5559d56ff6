import Mathlib.Data.List.Basic
import Mathlib.Data.List.TakeDrop

/-!
# Codecs of texts

A codec prints values and reads them back from the front of any text, leaving
what follows.  The law is part of the codec, so composed codecs need no proof
of their own.
-/

namespace Text

universe u v

structure Codec (α : Type u) where
  print : α → List Char
  parse : List Char → Option (α × List Char)
  parse_print : ∀ value rest, parse (print value ++ rest) = some (value, rest)

def stripMark (mark input : List Char) : Option (List Char) :=
  if mark.isPrefixOf input then some (input.drop mark.length) else none

@[simp]
theorem stripMark_append (mark rest : List Char) : stripMark mark (mark ++ rest) = some rest := by
  simp [stripMark]

theorem stripMark_eq_none {mark input : List Char} (unmarked : ¬ mark <+: input) :
    stripMark mark input = none := by
  simp [stripMark, unmarked]

namespace Codec

variable {α : Type u} {β : Type v}

def token (mark : List Char) : Codec Unit where
  print _ := mark
  parse input := (stripMark mark input).map fun rest => ((), rest)
  parse_print := by simp

def pair (first : Codec α) (second : Codec β) : Codec (α × β) where
  print value := first.print value.1 ++ second.print value.2
  parse input :=
    (first.parse input).bind fun (left, rest) =>
      (second.parse rest).map fun (right, rest) => ((left, right), rest)
  parse_print := by simp [first.parse_print, second.parse_print]

/-- Read the values of a codec as other values, where that is possible. -/
def refine (codec : Codec α) (read : α → Option β) (write : β → α)
    (read_write : ∀ value, read (write value) = some value) : Codec β where
  print value := codec.print (write value)
  parse input :=
    (codec.parse input).bind fun (value, rest) => (read value).map fun value => (value, rest)
  parse_print := by simp [codec.parse_print, read_write]

def convert (codec : Codec α) (read : α → β) (write : β → α)
    (read_write : ∀ value, read (write value) = value) : Codec β :=
  codec.refine (fun value => some (read value)) write (by simp [read_write])

def marked (mark : List Char) (codec : Codec α) : Codec α :=
  ((token mark).pair codec).convert Prod.snd (fun value => ((), value)) (fun _ => rfl)

def closed (codec : Codec α) (mark : List Char) : Codec α :=
  (codec.pair (token mark)).convert Prod.fst (fun value => (value, ())) (fun _ => rfl)

/-- A value that may be absent in front of another one, recognized by its mark.
The other value starts differently. -/
def optional (mark : List Char) (codec : Codec α) (tail : Codec β)
    (starts : ∀ value, ∃ start, start <+: tail.print value ∧
      ¬ mark <+: start ∧ ¬ start <+: mark) : Codec (Option α × β) where
  print
    | (some value, following) => mark ++ (codec.print value ++ tail.print following)
    | (none, following) => tail.print following
  parse input :=
    match stripMark mark input with
    | some rest =>
        (codec.parse rest).bind fun (value, rest) =>
          (tail.parse rest).map fun (following, rest) => ((some value, following), rest)
    | none => (tail.parse input).map fun (following, rest) => ((none, following), rest)
  parse_print := by
    rintro ⟨value | value, following⟩ rest
    · have unmarked : ¬ mark <+: tail.print following ++ rest := by
        intro isMarked
        obtain ⟨start, isStart, notShorter, notLonger⟩ := starts following
        have started : start <+: tail.print following ++ rest :=
          isStart.trans (List.prefix_append ..)
        rcases List.prefix_or_prefix_of_prefix isMarked started with shorter | longer
        · exact notShorter shorter
        · exact notLonger longer
      simp [stripMark_eq_none unmarked, tail.parse_print]
    · simp [codec.parse_print, tail.parse_print]

def serialize (codec : Codec α) (value : α) : String :=
  String.ofList (codec.print value)

def deserialize (codec : Codec α) (text : String) : Option α :=
  match codec.parse text.toList with
  | some (value, []) => some value
  | _ => none

@[simp]
theorem deserialize_serialize (codec : Codec α) (value : α) :
    codec.deserialize (codec.serialize value) = some value := by
  have parsed := codec.parse_print value []
  rw [List.append_nil] at parsed
  simp [deserialize, serialize, parsed]

end Codec

end Text
