import Mathlib.Data.List.GetD
import ServiceMessages.Notify.Readers

/-!
# What the queue carries

The text of a queued message can be read back: the digits as bytes, the bytes
as characters, and the characters as a record.  No title and no body, whatever
characters it contains, can break out of its field.
-/

namespace ServiceMessages.Notify

open Text

def base64Value? (digit : Char) : Option ℕ :=
  (List.range 64).find? fun value => base64Digit value = digit

theorem base64Value?_base64Digit {value : ℕ} (small : value < 64) :
    base64Value? (base64Digit value) = some value := by
  revert value
  decide +kernel

theorem base64Digit_ne_padding {value : ℕ} (small : value < 64) : base64Digit value ≠ '=' := by
  revert value
  decide +kernel

/-- Four digits make three bytes.  Only the last digits may be padding, and
what they leave over must be zero. -/
def base64Decode : List Char → Option (List UInt8)
  | [] => some []
  | first :: second :: third :: fourth :: rest => do
      let a ← base64Value? first
      let b ← base64Value? second
      let high := UInt8.ofNat (a * 4 + b / 16)
      if third = '=' ∧ fourth = '=' ∧ rest = [] then
        if b % 16 = 0 then some [high] else none
      else do
        let c ← base64Value? third
        let middle := UInt8.ofNat (b % 16 * 16 + c / 4)
        if fourth = '=' ∧ rest = [] then
          if c % 4 = 0 then some [high, middle] else none
        else do
          let d ← base64Value? fourth
          let bytes ← base64Decode rest
          some (high :: middle :: UInt8.ofNat (c % 4 * 64 + d) :: bytes)
  | _ => none

theorem ofNat_eq_of_eq {number : ℕ} {byte : UInt8} (same : number = byte.toNat) :
    UInt8.ofNat number = byte := by
  rw [same, UInt8.ofNat_toNat]

theorem base64Decode_base64Encode (bytes : List UInt8) :
    base64Decode (base64Encode bytes) = some bytes := by
  induction bytes using base64Encode.induct with
  | case1 first second third rest inductionHypothesis =>
      have bounds := And.intro first.toNat_lt (And.intro second.toNat_lt third.toNat_lt)
      have a := base64Value?_base64Digit (show first.toNat / 4 < 64 by omega)
      have b := base64Value?_base64Digit
        (show first.toNat % 4 * 16 + second.toNat / 16 < 64 by omega)
      have c := base64Value?_base64Digit
        (show second.toNat % 16 * 4 + third.toNat / 64 < 64 by omega)
      have d := base64Value?_base64Digit (show third.toNat % 64 < 64 by omega)
      have notPadding := base64Digit_ne_padding
        (show second.toNat % 16 * 4 + third.toNat / 64 < 64 by omega)
      have notLast := base64Digit_ne_padding (show third.toNat % 64 < 64 by omega)
      simp only [base64Encode, base64Decode, a, b, c, d, notPadding, notLast, false_and, if_false,
        inductionHypothesis, Option.bind_eq_bind, Option.bind_some, Option.some.injEq,
        List.cons.injEq, and_true]
      exact ⟨ofNat_eq_of_eq (by omega), ofNat_eq_of_eq (by omega), ofNat_eq_of_eq (by omega)⟩
  | case2 first second =>
      have bounds := And.intro first.toNat_lt second.toNat_lt
      have a := base64Value?_base64Digit (show first.toNat / 4 < 64 by omega)
      have b := base64Value?_base64Digit
        (show first.toNat % 4 * 16 + second.toNat / 16 < 64 by omega)
      have c := base64Value?_base64Digit (show second.toNat % 16 * 4 < 64 by omega)
      have notPadding := base64Digit_ne_padding (show second.toNat % 16 * 4 < 64 by omega)
      have nothingLeft : second.toNat % 16 * 4 % 4 = 0 := by omega
      simp only [base64Encode, base64Decode, a, b, c, notPadding, if_false,
        if_true, nothingLeft, and_self, Option.bind_eq_bind, Option.bind_some, Option.some.injEq,
        List.cons.injEq, and_true]
      exact ⟨ofNat_eq_of_eq (by omega), ofNat_eq_of_eq (by omega)⟩
  | case3 first =>
      have bound := first.toNat_lt
      have a := base64Value?_base64Digit (show first.toNat / 4 < 64 by omega)
      have b := base64Value?_base64Digit (show first.toNat % 4 * 16 < 64 by omega)
      have nothingLeft : first.toNat % 4 * 16 % 16 = 0 := by omega
      simp only [base64Encode, base64Decode, a, b, and_self, if_true, nothingLeft,
        Option.bind_eq_bind, Option.bind_some, Option.some.injEq, List.cons.injEq, and_true]
      exact ofNat_eq_of_eq (by omega)
  | case4 => rfl

def isBase64 (character : Char) : Bool :=
  character.isAlphanum || character == '+' || character == '/' || character == '='

theorem isBase64_base64Digit (value : ℕ) : isBase64 (base64Digit value) = true := by
  by_cases small : value < 64
  · revert value
    decide +kernel
  · have beyond : base64Digit value = '=' := List.getD_eq_default _ _ (by simpa using small)
    rw [beyond]
    rfl

theorem isBase64_of_mem (bytes : List UInt8) :
    ∀ character ∈ base64Encode bytes, isBase64 character = true := by
  have padding : isBase64 '=' = true := rfl
  induction bytes using base64Encode.induct <;>
    simp_all [base64Encode, isBase64_base64Digit]

theorem length_base64Encode (bytes : List UInt8) :
    (base64Encode bytes).length = (bytes.length + 2) / 3 * 4 := by
  induction bytes using base64Encode.induct with
  | case1 first second third rest inductionHypothesis =>
      simp only [base64Encode, List.length_cons, inductionHypothesis]
      omega
  | case2 | case3 | case4 => simp [base64Encode]

section Printing

variable {α β : Type} (codec : Codec α)

theorem print_marked (mark : List Char) (value : α) :
    (codec.marked mark).print value = mark ++ codec.print value := rfl

theorem print_closed (mark : List Char) (value : α) :
    (codec.closed mark).print value = codec.print value ++ mark := rfl

theorem print_pair (other : Codec β) (value : α × β) :
    (codec.pair other).print value = codec.print value.1 ++ other.print value.2 := rfl

theorem print_refine {read : α → Option β} {write : β → α}
    (read_write : ∀ value, read (write value) = some value) (value : β) :
    (codec.refine read write read_write).print value = codec.print (write value) := rfl

theorem print_convert {read : α → β} {write : β → α}
    (read_write : ∀ value, read (write value) = value) (value : β) :
    (codec.convert read write read_write).print value = codec.print (write value) := rfl

end Printing

namespace NotifyMessage

def ofText? (text : String) : Option NonEmptyString :=
  if nonempty : text ≠ "" then some ⟨text, nonempty⟩ else none

theorem ofText?_val (id : NonEmptyString) : ofText? id.val = some id := by
  simp [ofText?, id.property]

def idCodec : Codec NonEmptyString :=
  Codec.quoted.refine ofText? Subtype.val ofText?_val

/-- The payload, and the end of the record with it. -/
def payloadCodec : Codec NotifyPayload :=
  ((Codec.quoted.marked ",\"payload\":\x7b\"message\":".toList).pair
    ((idCodec.marked ",\"message_id\":".toList).pair
      ((Codec.quoted.marked ",\"title\":".toList).closed "\x7d\x7d".toList))).convert
    (fun (message, messageId, title) => ⟨message, messageId, title⟩)
    (fun payload => (payload.message, payload.message_id, payload.title)) (fun _ => rfl)

def codec : Codec NotifyMessage :=
  ((Codec.quoted.marked "\x7b\"installationId\":".toList).pair
    ((Codec.quoted.marked ",\"kind\":".toList).pair payloadCodec)).convert
    (fun (installationId, kind, payload) => ⟨installationId, kind, payload⟩)
    (fun message => (message.installationId, message.kind, message.payload)) (fun _ => rfl)

theorem serialize_codec (notifyMessage : NotifyMessage) :
    codec.serialize notifyMessage = notifyMessage.stringify := by
  unfold stringify
  simp only [Codec.serialize]
  simp only [codec, payloadCodec, idCodec, print_convert, print_refine, print_pair,
    print_marked, print_closed, String.ofList_append, String.ofList_toList, String.append_assoc]

end NotifyMessage

def decodeObject (messageText : String) : Option NotifyMessage := do
  let bytes ← base64Decode messageText.toList
  let text ← String.fromUTF8? ⟨bytes.toArray⟩
  NotifyMessage.codec.deserialize text

theorem toList_loop (bytes : ByteArray) (position : ℕ) (read : List UInt8) :
    ByteArray.toList.loop bytes position read =
      read.reverse ++ bytes.data.toList.drop position := by
  induction position, read using ByteArray.toList.loop.induct bytes with
  | case1 position read inside inductionHypothesis =>
      have here : position < bytes.data.toList.length := inside
      have byte : bytes.get! position = bytes.data.toList[position] := by
        cases bytes with
        | mk data => exact getElem!_pos data position inside
      rw [ByteArray.toList.loop, if_pos inside, inductionHypothesis,
        List.drop_eq_getElem_cons here, byte]
      simp
  | case2 position read outside =>
      have beyond : bytes.data.toList.length ≤ position := Nat.not_lt.mp outside
      rw [ByteArray.toList.loop, if_neg outside, List.drop_eq_nil_of_le beyond, List.append_nil]

theorem toList_toUTF8 (text : String) : text.toUTF8.toList = text.toUTF8.data.toList := by
  rw [ByteArray.toList, toList_loop]
  rfl

theorem fromUTF8?_toUTF8 (text : String) :
    String.fromUTF8? ⟨text.toUTF8.toList.toArray⟩ = some text := by
  rw [toList_toUTF8, Array.toArray_toList]
  exact dif_pos text.isValidUTF8

theorem decodeObject_base64EncodeObject (notifyMessage : NotifyMessage) :
    decodeObject (base64EncodeObject notifyMessage) = some notifyMessage := by
  simp only [decodeObject, base64EncodeObject, String.toList_ofList, base64Decode_base64Encode,
    Option.bind_eq_bind, Option.bind_some, fromUTF8?_toUTF8]
  rw [← NotifyMessage.serialize_codec, Codec.deserialize_serialize]

/-- A queued text reads back as the message it was made from, and is made of
complete groups of four characters that need no escaping wherever the queue
puts them. -/
theorem queued_text_reads_back (notifyMessage : NotifyMessage) :
    decodeObject (base64EncodeObject notifyMessage) = some notifyMessage ∧
      (∀ character ∈ (base64EncodeObject notifyMessage).toList, isBase64 character = true) ∧
      4 ∣ (base64EncodeObject notifyMessage).toList.length := by
  refine ⟨decodeObject_base64EncodeObject notifyMessage, ?_, ?_⟩
  · rw [base64EncodeObject, String.toList_ofList]
    exact isBase64_of_mem _
  · rw [base64EncodeObject, String.toList_ofList, length_base64Encode]
    exact Nat.dvd_mul_left ..

end ServiceMessages.Notify
