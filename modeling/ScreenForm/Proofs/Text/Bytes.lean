import Mathlib.Data.List.Basic
/-!
# Texts in bytes

A text is stored in UTF-8, and is edited at numbers of bytes. The byte at which a character begins is found by
counting (`Text.byteAt`), so a character is put in or taken out whole (`Text.insertAt?_ofList`,
`Text.removeAt?_ofList`).
-/

namespace ScreenForm

namespace Text

/-- The characters, each with the number of the byte at which it begins. -/
def charIndices (start : Nat) : List Char → List (Nat × Char)
  | [] => []
  | c :: cs => (start, c) :: charIndices (start + c.utf8Size) cs

/-- The byte at which a character begins, or the end of the text. -/
def byteAt (s : String) (index : Nat) : Nat :=
  ((charIndices 0 s.toList)[index]?.map Prod.fst).getD s.utf8ByteSize

/-- The bytes of the text with a character put in at a byte, which must not be inside of a character. -/
def insertAt? (s : String) (byte : Nat) (c : Char) : Option ByteArray :=
  if (String.Pos.Raw.mk byte).isValid s then
    some (s.toByteArray.extract 0 byte ++ (String.utf8EncodeChar c).toByteArray ++
      s.toByteArray.extract byte s.utf8ByteSize)
  else none

/-- The bytes of the text without the character that begins at a byte, where one must begin. -/
def removeAt? (s : String) (byte : Nat) : Option ByteArray :=
  (s.toByteArray.utf8DecodeChar? byte).map fun c =>
    s.toByteArray.extract 0 byte ++ s.toByteArray.extract (byte + c.utf8Size) s.utf8ByteSize

theorem size_utf8Encode_singleton (c : Char) : [c].utf8Encode.size = c.utf8Size := by
  rw [List.utf8Encode_singleton, List.size_toByteArray, String.length_utf8EncodeChar]

theorem size_utf8Encode_cons (c : Char) (cs : List Char) :
    (c :: cs).utf8Encode.size = c.utf8Size + cs.utf8Encode.size := by
  rw [List.utf8Encode_cons, ByteArray.size_append, size_utf8Encode_singleton]

theorem getElem?_charIndices (start : Nat) (before after : List Char) :
    (charIndices start (before ++ after))[before.length]? =
      after.head?.map fun c => (start + before.utf8Encode.size, c) := by
  induction before generalizing start with
  | nil => cases after <;> simp [charIndices]
  | cons c before ih =>
    rw [List.cons_append, charIndices, List.length_cons, List.getElem?_cons_succ, ih, size_utf8Encode_cons,
      Nat.add_assoc]

/-- The character after some others begins at the byte after theirs. -/
theorem byteAt_ofList (before after : List Char) :
    byteAt (String.ofList (before ++ after)) before.length = before.utf8Encode.size := by
  rw [byteAt, String.toList_ofList, getElem?_charIndices]
  cases after with
  | nil => simp [String.utf8ByteSize]
  | cons c after => simp

/-- A character is put in between two others. -/
theorem insertAt?_ofList (before after : List Char) (c : Char) :
    insertAt? (String.ofList (before ++ after)) (byteAt (String.ofList (before ++ after)) before.length) c =
      some (String.ofList (before ++ c :: after)).toByteArray := by
  have hbytes : (String.ofList (before ++ after)).toByteArray = before.utf8Encode ++ after.utf8Encode := by
    rw [String.toByteArray_ofList, List.utf8Encode_append]
  have hvalid : (String.Pos.Raw.mk before.utf8Encode.size).isValid (String.ofList (before ++ after)) := by
    rw [String.Pos.Raw.isValid_eq_true_iff, String.Pos.Raw.isValid_ofList]
    refine ⟨before.length, ?_⟩
    rw [List.take_left, String.utf8ByteSize, String.toByteArray_ofList]
  rw [byteAt_ofList, insertAt?, if_pos hvalid, String.utf8ByteSize, hbytes, ByteArray.extract_append_eq_left rfl,
    ByteArray.extract_append_eq_right rfl ByteArray.size_append, String.toByteArray_ofList, List.utf8Encode_append,
    List.utf8Encode_cons, List.utf8Encode_singleton, ByteArray.append_assoc]

/-- The character that begins there is taken out, and all of it. -/
theorem removeAt?_ofList (before after : List Char) (c : Char) :
    removeAt? (String.ofList (before ++ c :: after)) (byteAt (String.ofList (before ++ c :: after)) before.length) =
      some (String.ofList (before ++ after)).toByteArray := by
  have hbytes : (String.ofList (before ++ c :: after)).toByteArray =
      before.utf8Encode ++ ([c].utf8Encode ++ after.utf8Encode) := by
    rw [String.toByteArray_ofList, List.utf8Encode_append, List.utf8Encode_cons]
  have hdecode : (before.utf8Encode ++ ([c].utf8Encode ++ after.utf8Encode)).utf8DecodeChar? before.utf8Encode.size =
      some c := by
    rw [ByteArray.utf8DecodeChar?_eq_utf8DecodeChar?_extract,
      ByteArray.extract_append_eq_right rfl ByteArray.size_append, List.utf8DecodeChar?_utf8Encode_singleton_append]
  have hrest : (before.utf8Encode ++ ([c].utf8Encode ++ after.utf8Encode)).extract (before.utf8Encode.size + c.utf8Size)
      (before.utf8Encode ++ ([c].utf8Encode ++ after.utf8Encode)).size = after.utf8Encode := by
    rw [← ByteArray.append_assoc]
    refine ByteArray.extract_append_eq_right ?_ ByteArray.size_append
    rw [ByteArray.size_append, size_utf8Encode_singleton]
  rw [byteAt_ofList, removeAt?, String.utf8ByteSize, hbytes, hdecode, Option.map_some, hrest,
    ByteArray.extract_append_eq_left rfl, String.toByteArray_ofList, List.utf8Encode_append]

end Text

end ScreenForm
