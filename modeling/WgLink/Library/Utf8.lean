import Mathlib.Init

/-!
# Texts as bytes

The UTF-8 bytes of a text as a list, and the text of a list of bytes when the
bytes are well formed.  The two are inverse to each other.
-/

namespace WgLink.Library

/-- The UTF-8 encoding of a text. -/
def asBytes (text : String) : List UInt8 :=
  text.toUTF8.data.toList

/-- The text with the given encoding, if there is one. -/
def fromUtf8 (bytes : List UInt8) : Option String :=
  String.fromUTF8? ⟨bytes.toArray⟩

theorem fromUtf8_asBytes (text : String) :
    fromUtf8 (asBytes text) = some text := by
  have valid : text.toUTF8.IsValidUTF8 := text.isValidUTF8
  unfold fromUtf8 asBytes String.fromUTF8?
  rw [Array.toArray_toList, dif_pos valid]
  rfl

theorem asBytes_of_fromUtf8
    {bytes : List UInt8} {text : String}
    (decoded : fromUtf8 bytes = some text) :
    asBytes text = bytes := by
  unfold fromUtf8 String.fromUTF8? at decoded
  split at decoded
  · cases decoded
    rfl
  · cases decoded

theorem asBytes_inj
    {first second : String} (same : asBytes first = asBytes second) :
    first = second := by
  have decoded := fromUtf8_asBytes first
  rw [same, fromUtf8_asBytes] at decoded
  exact (Option.some.inj decoded).symm

theorem asBytes_ofList (characters : List Char) :
    asBytes (String.ofList characters) =
      characters.flatMap String.utf8EncodeChar := by
  have encoded :
      (String.ofList characters).toUTF8 =
        (characters.flatMap String.utf8EncodeChar).toByteArray := rfl
  unfold asBytes
  rw [encoded, List.data_toByteArray]

theorem asBytes_append (first second : String) :
    asBytes (first ++ second) = asBytes first ++ asBytes second := by
  have firstText := String.ofList_toList (s := first)
  have secondText := String.ofList_toList (s := second)
  rw [← firstText, ← secondText, ← String.ofList_append, asBytes_ofList,
    asBytes_ofList, asBytes_ofList, List.flatMap_append]

/-- Characters of one byte each. -/
theorem length_asBytes_of_ascii
    {characters : List Char}
    (ascii : ∀ character ∈ characters, character.utf8Size = 1) :
    (asBytes (String.ofList characters)).length = characters.length := by
  rw [asBytes_ofList]
  induction characters with
  | nil =>
      rfl
  | cons first rest inductionHypothesis =>
      have remaining :=
        inductionHypothesis fun character member =>
          ascii character (List.mem_cons_of_mem first member)
      rw [List.flatMap_cons, List.length_append, remaining,
        String.length_utf8EncodeChar, ascii first List.mem_cons_self,
        List.length_cons, Nat.add_comm]

/-- The loop of `ByteArray.toList`. -/
theorem toList_loop_eq (bytes : ByteArray) (index : Nat) (read : List UInt8) :
    ByteArray.toList.loop bytes index read =
      read.reverse ++ bytes.data.toList.drop index := by
  induction left : bytes.size - index generalizing index read with
  | zero =>
      have size : bytes.data.toList.length = bytes.size := rfl
      unfold ByteArray.toList.loop
      rw [if_neg (by omega), List.drop_of_length_le (by omega),
        List.append_nil]
  | succ remaining inductionHypothesis =>
      have inside : index < bytes.size := by omega
      have present : index < bytes.data.toList.length := inside
      have byte : bytes.get! index = bytes.data.toList[index] := by
        change bytes.data[index]! = _
        rw [getElem!_pos bytes.data index inside]
        rfl
      unfold ByteArray.toList.loop
      rw [if_pos inside, inductionHypothesis _ _ (by omega), byte,
        List.reverse_cons, List.append_assoc, List.drop_eq_getElem_cons present]
      rfl

/-- The bytes of a text as `ByteArray.toList` lists them. -/
theorem toList_toUTF8 (text : String) :
    text.toUTF8.toList = asBytes text := by
  unfold ByteArray.toList asBytes
  rw [toList_loop_eq]
  rfl

end WgLink.Library
