import ScreenForm.Proofs.Text.Bytes
import ScreenForm.Proofs.Widget.Sized
/-!
# Fields as two texts

What a field does with keys is what happens to the characters before its cursor and those after it
(`Edit.Sized.press?_eq`). Its text is edited in bytes, at the byte where the character at the cursor begins, and
this comes to the same (`Edit.Sized.pressBytes?_eq`).
-/

namespace ScreenForm

namespace Key

/-- The character that a key types. -/
def typed? (key : Key) (multiline : Bool) : Option Char :=
  match key.code with
  | .char c => if key.control || key.alt then none else some c
  | .enter => if multiline then some '\n' else none
  | _ => none

/-- What a key makes of the characters before the cursor and those after it, if it has a use. -/
def press? (key : Key) (multiline : Bool) (halves : List Char × List Char) : Option (List Char × List Char) :=
  let (before, after) := halves
  match key.code with
  | .char _ | .enter => (key.typed? multiline).map fun c => (before ++ [c], after)
  | .backspace => before.getLast?.map fun _ => (before.dropLast, after)
  | .delete => after.head?.map fun _ => (before, after.tail)
  | .left => before.getLast?.map fun c => (before.dropLast, c :: after)
  | .right => after.head?.map fun c => (before ++ [c], after.tail)
  | .home => some ([], before ++ after)
  | .toEnd => some (before ++ after, [])
  | _ => none

theorem press?_of_typed {key : Key} {multiline : Bool} {c : Char} (h : key.typed? multiline = some c)
    (halves : List Char × List Char) : key.press? multiline halves = some (halves.1 ++ [c], halves.2) := by
  cases hcode : key.code with
  | char | enter => rw [press?, hcode, h, Option.map_some]
  | _ =>
    rw [typed?, hcode] at h
    cases h

/-- What keys make of the halves if each of them has a use. -/
def pressAll? (multiline : Bool) (halves : List Char × List Char) (keys : List Key) :
    Option (List Char × List Char) :=
  keys.foldlM (fun halves key => key.press? multiline halves) halves

theorem pressAll?_cons (multiline : Bool) (halves : List Char × List Char) (key : Key) (keys : List Key) :
    pressAll? multiline halves (key :: keys) = (key.press? multiline halves).bind (pressAll? multiline · keys) :=
  List.foldlM_cons

theorem pressAll?_append (multiline : Bool) (halves : List Char × List Char) (keys keys' : List Key) :
    pressAll? multiline halves (keys ++ keys') =
      (pressAll? multiline halves keys).bind (pressAll? multiline · keys') :=
  List.foldlM_append

/-- As many backspaces as characters that were typed before them take these back. -/
theorem pressAll?_typed {multiline : Bool} {typing erasing : List Key}
    (htyping : ∀ key ∈ typing, (key.typed? multiline).isSome)
    (herasing : ∀ key ∈ erasing, key.code = .backspace) (hlength : erasing.length = typing.length)
    (halves : List Char × List Char) : pressAll? multiline halves (typing ++ erasing) = some halves := by
  induction typing generalizing erasing halves with
  | nil =>
    rw [List.eq_nil_of_length_eq_zero hlength]
    rfl
  | cons key typing ih =>
    -- The last backspace takes back the first character.
    rcases erasing.eq_nil_or_concat with rfl | ⟨init, last, rfl⟩
    · cases hlength
    rw [List.concat_eq_append] at herasing hlength ⊢
    rw [List.forall_mem_append] at herasing
    rw [List.forall_mem_cons] at htyping
    obtain ⟨c, hc⟩ := Option.isSome_iff_exists.1 htyping.1
    have hlast : last.code = .backspace := herasing.2 last (List.mem_singleton_self last)
    have hinner := ih htyping.2 herasing.1 (by simpa using hlength) (halves.1 ++ [c], halves.2)
    have herased : last.press? multiline (halves.1 ++ [c], halves.2) = some halves := by simp [press?, hlast]
    rw [List.cons_append, pressAll?_cons, press?_of_typed hc, Option.bind_some, ← List.append_assoc, pressAll?_append,
      hinner, Option.bind_some, pressAll?_cons, herased]
    rfl

end Key

namespace Edit

variable {e : Edit} {key : Key}

theorem halves_ofHalves (e : Edit) (before after : List Char) : (e.ofHalves before after).halves = (before, after) := by
  simp [halves_eq, ofHalves]

/-- The field with its text and its cursor between these halves. -/
def around (e : Edit) (halves : List Char × List Char) : Edit := e.ofHalves halves.1 halves.2

@[simp] theorem halves_around (e : Edit) (halves : List Char × List Char) : (e.around halves).halves = halves :=
  e.halves_ofHalves ..

/-- A field is its halves, with its caption. -/
theorem Sized.around_halves (h : e.Sized) : e.around e.halves = e := by
  have hlen : e.cursor ≤ e.text.toList.length := by
    rw [String.length_toList]
    exact h
  simp [halves_eq, around, ofHalves, Nat.min_eq_left hlen]

/-- The cursor moves within the text. -/
theorem ofHalves_eq {before after : List Char} {cursor : Nat} (before' after' : List Char)
    (htext : before ++ after = before' ++ after') (hcursor : cursor = before'.length) :
    { e.ofHalves before after with cursor := cursor } = e.ofHalves before' after' := by
  rw [ofHalves, ofHalves, htext, hcursor]

theorem press?_ofHalves (e : Edit) (before after : List Char) (key : Key) : (e.ofHalves before after).press? key =
    (key.press? e.multiline (before, after)).map e.around := by
  have hmultiline : (e.ofHalves before after).multiline = e.multiline := rfl
  have hinsert (c : Char) : (e.ofHalves before after).insert c = e.ofHalves (before ++ [c]) after := by
    rw [insert, halves_ofHalves]
    rfl
  rw [press?, halves_ofHalves, Key.press?]
  cases hcode : key.code with
  | char c =>
    dsimp only
    rw [hinsert, Key.typed?, hcode]
    cases key.control || key.alt <;> rfl
  | enter =>
    dsimp only
    rw [hinsert, hmultiline, Key.typed?, hcode]
    cases e.multiline <;> rfl
  | backspace =>
    rcases before.eq_nil_or_concat with rfl | ⟨init, c, rfl⟩
    · rfl
    · have hne : (init ++ [c]).isEmpty = false := by simp
      simp only [List.concat_eq_append, List.getLast?_concat, hne]
      rfl
  | delete => cases after <;> rfl
  | left =>
    rcases before.eq_nil_or_concat with rfl | ⟨init, c, rfl⟩
    · rfl
    · have hne : (init ++ [c]).isEmpty = false := by simp
      simp only [List.concat_eq_append, List.getLast?_concat, hne, List.dropLast_concat]
      exact congrArg some (ofHalves_eq init (c :: after) (by simp) (by simp [ofHalves]))
  | right =>
    cases after with
    | nil => rfl
    | cons c after => exact congrArg some (ofHalves_eq (before ++ [c]) after (by simp) (by simp [ofHalves]))
  | home => exact congrArg some (ofHalves_eq [] (before ++ after) rfl rfl)
  | toEnd => exact congrArg some (ofHalves_eq (before ++ after) [] (by simp) (by simp [ofHalves]))
  | _ => rfl

/-- What a field does with a key happens to its halves. -/
theorem Sized.press?_eq (h : e.Sized) (key : Key) :
    e.press? key = (key.press? e.multiline e.halves).map e.around := by
  conv_lhs => rw [← h.around_halves, around, press?_ofHalves]

/-! ## In bytes -/

/-- What a field makes of the bytes of its text and of its cursor, if it has a use for the key. It fails if it has
to edit the text inside of a character. -/
def pressBytes? (e : Edit) (key : Key) : Option (Option (ByteArray × Nat)) :=
  match key.code with
  | .char c =>
    if key.control || key.alt then some none
    else (Text.insertAt? e.text (Text.byteAt e.text e.cursor) c).map fun bytes => some (bytes, e.cursor + 1)
  | .enter =>
    if e.multiline then
      (Text.insertAt? e.text (Text.byteAt e.text e.cursor) '\n').map fun bytes => some (bytes, e.cursor + 1)
    else some none
  | .backspace =>
    if 0 < e.cursor then
      (Text.removeAt? e.text (Text.byteAt e.text (e.cursor - 1))).map fun bytes => some (bytes, e.cursor - 1)
    else some none
  | .delete =>
    if e.cursor < e.text.length then
      (Text.removeAt? e.text (Text.byteAt e.text e.cursor)).map fun bytes => some (bytes, e.cursor)
    else some none
  | .left => some (if 0 < e.cursor then some (e.text.toByteArray, e.cursor - 1) else none)
  | .right => some (if e.cursor < e.text.length then some (e.text.toByteArray, e.cursor + 1) else none)
  | .home => some (some (e.text.toByteArray, 0))
  | .toEnd => some (some (e.text.toByteArray, e.text.length))
  | _ => some none

theorem pressBytes?_ofHalves (e : Edit) (before after : List Char) (key : Key) :
    (e.ofHalves before after).pressBytes? key = some ((key.press? e.multiline (before, after)).map fun halves =>
      ((String.ofList (halves.1 ++ halves.2)).toByteArray, halves.1.length)) := by
  have htext : (e.ofHalves before after).text = String.ofList (before ++ after) := rfl
  have hcursor : (e.ofHalves before after).cursor = before.length := rfl
  have hmultiline : (e.ofHalves before after).multiline = e.multiline := rfl
  have hlength : (String.ofList (before ++ after)).length = before.length + after.length := by simp
  rw [pressBytes?, Key.press?, htext, hcursor, hmultiline, hlength]
  cases hcode : key.code with
  | char c =>
    simp only [Text.insertAt?_ofList, Key.typed?, hcode]
    cases key.control || key.alt
    · simp only [Bool.false_eq_true, if_false, Option.map_some, List.append_assoc, List.singleton_append,
        List.length_append, List.length_singleton]
    · rfl
  | enter =>
    simp only [Text.insertAt?_ofList, Key.typed?, hcode]
    cases e.multiline
    · rfl
    · simp only [if_true, Option.map_some, List.append_assoc, List.singleton_append, List.length_append,
        List.length_singleton]
  | backspace =>
    rcases before.eq_nil_or_concat with rfl | ⟨init, c, rfl⟩
    · rfl
    · simp only [List.concat_eq_append, List.append_assoc, List.singleton_append, List.length_append,
        List.length_singleton, Nat.add_sub_cancel, Text.removeAt?_ofList, List.getLast?_concat, List.dropLast_concat,
        Nat.zero_lt_succ, if_true, Option.map_some]
  | delete =>
    cases after with
    | nil => simp
    | cons c after =>
      simp only [Text.removeAt?_ofList, List.length_cons, List.head?_cons, List.tail_cons, Option.map_some]
      exact if_pos (by omega)
  | left =>
    rcases before.eq_nil_or_concat with rfl | ⟨init, c, rfl⟩
    · rfl
    · simp only [List.concat_eq_append, List.append_assoc, List.singleton_append, List.length_append,
        List.length_singleton, Nat.add_sub_cancel, List.getLast?_concat, List.dropLast_concat, Nat.zero_lt_succ, if_true,
        Option.map_some]
  | right =>
    cases after with
    | nil => simp
    | cons c after =>
      simp only [List.length_cons, List.head?_cons, List.tail_cons, Option.map_some, List.append_assoc,
        List.singleton_append, List.length_append, List.length_nil, Nat.zero_add]
      rw [if_pos (by omega)]
  | home => rfl
  | toEnd => simp only [Option.map_some, List.append_nil, List.length_append]
  | _ => rfl

/-- Editing the bytes never fails, and gives the bytes of the text that the halves make up. -/
theorem Sized.pressBytes?_eq (h : e.Sized) (key : Key) :
    e.pressBytes? key = some ((key.press? e.multiline e.halves).map fun halves =>
      ((String.ofList (halves.1 ++ halves.2)).toByteArray, halves.1.length)) := by
  conv_lhs => rw [← h.around_halves, around, pressBytes?_ofHalves]

end Edit

end ScreenForm
