import ServiceMessages.Text.Codec

/-!
# Serialized values

Codecs for the pieces of a serialized record, in the compact notation without
white space: numbers, truth values, quoted texts with their escapes, and lists.
-/

namespace Text

universe u

def shortEscape? (character : Char) : Option Char :=
  if character = '"' then some '"'
  else if character = '\\' then some '\\'
  else if character = '\x08' then some 'b'
  else if character = '\x0c' then some 'f'
  else if character = '\n' then some 'n'
  else if character = '\r' then some 'r'
  else if character = '\t' then some 't'
  else none

def ofShortEscape? (letter : Char) : Option Char :=
  if letter = '"' then some '"'
  else if letter = '\\' then some '\\'
  else if letter = '/' then some '/'
  else if letter = 'b' then some '\x08'
  else if letter = 'f' then some '\x0c'
  else if letter = 'n' then some '\n'
  else if letter = 'r' then some '\r'
  else if letter = 't' then some '\t'
  else none

theorem ofShortEscape?_of_shortEscape? {character letter : Char}
    (escaped : shortEscape? character = some letter) :
    ofShortEscape? letter = some character ∧ letter ≠ 'u' := by
  unfold shortEscape? at escaped
  split_ifs at escaped with quote backslash backspace feed newline carriage tab <;>
    cases escaped <;> subst_vars <;> decide

def hexadecimal? (character : Char) : Option ℕ :=
  (List.range 16).find? fun value => Nat.digitChar value = character

theorem hexadecimal?_digitChar {digit : ℕ} (small : digit < 16) :
    hexadecimal? (Nat.digitChar digit) = some digit := by
  revert digit
  decide

def codePoint? (first second third fourth : Char) : Option Char := do
  let first ← hexadecimal? first
  let second ← hexadecimal? second
  let third ← hexadecimal? third
  let fourth ← hexadecimal? fourth
  let code := ((first * 16 + second) * 16 + third) * 16 + fourth
  if code.isValidChar then some (Char.ofNat code) else none

def escape (character : Char) : List Char :=
  match shortEscape? character with
  | some letter => ['\\', letter]
  | none =>
      if character.toNat < 32 then
        ['\\', 'u', '0', '0', Nat.digitChar (character.toNat / 16),
          Nat.digitChar (character.toNat % 16)]
      else [character]

def unquote : List Char → Option (List Char × List Char)
  | [] => none
  | '"' :: rest => some ([], rest)
  | '\\' :: 'u' :: first :: second :: third :: fourth :: rest => do
      let character ← codePoint? first second third fourth
      let (text, rest) ← unquote rest
      some (character :: text, rest)
  | '\\' :: letter :: rest => do
      let character ← ofShortEscape? letter
      let (text, rest) ← unquote rest
      some (character :: text, rest)
  | character :: rest =>
      if character.toNat < 32 then none
      else (unquote rest).map fun (text, rest) => (character :: text, rest)

theorem codePoint?_control {character : Char} (control : character.toNat < 32) :
    codePoint? '0' '0' (Nat.digitChar (character.toNat / 16))
      (Nat.digitChar (character.toNat % 16)) = some character := by
  have zero : hexadecimal? '0' = some 0 := by decide
  have high := hexadecimal?_digitChar (show character.toNat / 16 < 16 by omega)
  have low := hexadecimal?_digitChar (show character.toNat % 16 < 16 by omega)
  have code : character.toNat / 16 * 16 + character.toNat % 16 = character.toNat := by omega
  have valid : character.toNat.isValidChar := .inl (by omega)
  simp [codePoint?, zero, high, low, code, valid]

theorem unquote_escape (character : Char) (input : List Char) :
    unquote (escape character ++ input) =
      (unquote input).map fun (text, rest) => (character :: text, rest) := by
  unfold escape
  cases escaped : shortEscape? character with
  | some letter =>
      obtain ⟨readBack, notCode⟩ := ofShortEscape?_of_shortEscape? escaped
      simp [unquote, readBack, notCode]
      cases unquote input <;> rfl
  | none =>
      by_cases control : character.toNat < 32
      · simp only [control, if_true, List.cons_append, List.nil_append, unquote,
          codePoint?_control control]
        cases unquote input <;> rfl
      · have notQuote : character ≠ '"' := by
          rintro rfl
          simp [shortEscape?] at escaped
        have notBackslash : character ≠ '\\' := by
          rintro rfl
          simp [shortEscape?] at escaped
        simp [control, unquote, notBackslash]

namespace Codec

variable {α : Type u}

/-- A number in decimal notation, up to a character that is not a digit. -/
def natural (stop : Char) (stops : stop.isDigit = false) : Codec ℕ where
  print number := Nat.toDigits 10 number ++ [stop]
  parse input :=
    match input.dropWhile Char.isDigit with
    | next :: rest =>
        if next = stop then some (Nat.ofDigitChars 10 (input.takeWhile Char.isDigit) 0, rest)
        else none
    | [] => none
  parse_print := by
    intro number rest
    have digits : ∀ digit ∈ Nat.toDigits 10 number, digit.isDigit = true :=
      fun digit membership => Nat.isDigit_of_mem_toDigits (by decide) (by decide) membership
    simp [List.dropWhile_append_of_pos digits, List.takeWhile_append_of_pos digits, stops,
      Nat.ofDigitChars_ten_toDigits]

theorem unquote_flatMap_escape (text rest : List Char) :
    unquote (text.flatMap escape ++ '"' :: rest) = some (text, rest) := by
  induction text with
  | nil => rfl
  | cons character text inductionHypothesis =>
      rw [List.flatMap_cons, List.append_assoc, unquote_escape, inductionHypothesis]
      rfl

def quoted : Codec String where
  print text := '"' :: text.toList.flatMap escape ++ ['"']
  parse
    | '"' :: rest => (unquote rest).map fun (text, rest) => (String.ofList text, rest)
    | _ => none
  parse_print := by
    intro text rest
    simp [unquote_flatMap_escape]

def truthValue : Codec Bool where
  print
    | true => "true".toList
    | false => "false".toList
  parse input :=
    match stripMark "true".toList input, stripMark "false".toList input with
    | some rest, _ => some (true, rest)
    | none, some rest => some (false, rest)
    | none, none => none
  parse_print := by
    rintro (_ | _) rest <;> simp [stripMark]

/-- The elements of a list behind the first one, up to the closing bracket. -/
def parseElements (codec : Codec α) : ℕ → List Char → Option (List α × List Char)
  | 0, _ => none
  | fuel + 1, input =>
      match input with
      | ']' :: rest => some ([], rest)
      | ',' :: rest =>
          (codec.parse rest).bind fun (value, rest) =>
            (parseElements codec fuel rest).map fun (values, rest) => (value :: values, rest)
      | _ => none

theorem parseElements_print (codec : Codec α) (values : List α) (rest : List Char) (fuel : ℕ)
    (enough : values.length < fuel) :
    parseElements codec fuel
        (values.flatMap (fun value => ',' :: codec.print value) ++ ']' :: rest) =
      some (values, rest) := by
  induction values generalizing fuel with
  | nil =>
      cases fuel with
      | zero => exact absurd enough (Nat.not_lt_zero _)
      | succ fuel => rfl
  | cons value values inductionHypothesis =>
      cases fuel with
      | zero => exact absurd enough (Nat.not_lt_zero _)
      | succ fuel =>
          have remaining := inductionHypothesis fuel (by simpa using enough)
          simp [parseElements, codec.parse_print, remaining]

theorem length_le_elements (codec : Codec α) (values : List α) (rest : List Char) :
    values.length <
      (values.flatMap (fun value => ',' :: codec.print value) ++ ']' :: rest).length := by
  induction values with
  | nil => simp
  | cons value values inductionHypothesis =>
      simp only [List.length_cons, List.flatMap_cons, List.cons_append, List.length_append] at *
      omega

/-- A list in brackets.  No element may look like the end of the list. -/
def list (codec : Codec α)
    (starts : ∀ value, ∃ first rest, codec.print value = first :: rest ∧ first ≠ ']') :
    Codec (List α) where
  print
    | [] => ['[', ']']
    | value :: values =>
        '[' :: codec.print value ++ values.flatMap (fun value => ',' :: codec.print value) ++ [']']
  parse
    | '[' :: ']' :: rest => some ([], rest)
    | '[' :: input =>
        (codec.parse input).bind fun (value, rest) =>
          (parseElements codec rest.length rest).map fun (values, rest) => (value :: values, rest)
    | _ => none
  parse_print := by
    rintro (_ | ⟨value, values⟩) rest
    · rfl
    · obtain ⟨first, others, printed, distinct⟩ := starts value
      have parsed := codec.parse_print value
        (values.flatMap (fun value => ',' :: codec.print value) ++ ']' :: rest)
      rw [printed, List.cons_append] at parsed
      have elements := parseElements_print codec values rest _
        (length_le_elements codec values rest)
      simpa [printed, distinct, parsed] using elements

end Codec

end Text
