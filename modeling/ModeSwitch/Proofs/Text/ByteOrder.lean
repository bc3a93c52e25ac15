import Mathlib.Data.List.Lex
import ModeSwitch.Text.Utf8

/-! The order of texts and the order of their bytes.

Texts are ordered by their characters.  UTF-8 keeps this order: where two characters differ, the
encoding of the smaller one has the smaller byte at the first place where the encodings differ.
-/

namespace ModeSwitch.Text.Utf8

theorem toList_loop (bytes : ByteArray) (i : Nat) (read : List UInt8)
    : ByteArray.toList.loop bytes i read = read.reverse ++ bytes.data.toList.drop i := by
  fun_induction ByteArray.toList.loop bytes i read with
  | case1 i read inside ih =>
      have here : i < bytes.data.toList.length := by simpa using inside
      have byte : bytes.get! i = bytes.data.toList[i] := by
        simp [ByteArray.get!, getElem!_pos bytes.data i inside]
      rw [ih, List.drop_eq_getElem_cons here, byte, List.reverse_cons, List.append_assoc]
      rfl
  | case2 i read outside =>
      rw [List.drop_eq_nil_of_le (by simpa using Nat.le_of_not_lt outside), List.append_nil]

/-- The bytes of a text are those of its characters, one after another. -/
theorem encode_eq (text : String) : encode text = text.toList.flatMap String.utf8EncodeChar := by
  have bytes : text.toUTF8 = (text.toList.flatMap String.utf8EncodeChar).toByteArray := by
    conv_lhs => rw [← String.ofList_toList (s := text)]
    rfl
  rw [encode, ByteArray.toList, toList_loop, bytes, List.toList_data_toByteArray]
  rfl

/-- Of two characters the bytes of the smaller one come first, whatever follows.  Either it has a
smaller leading byte, for fewer bytes lead with a smaller one, or both have equally many. -/
theorem utf8EncodeChar_append_lt {c d : Char} (h : c < d) (xs ys : List UInt8)
    : String.utf8EncodeChar c ++ xs < String.utf8EncodeChar d ++ ys := by
  have less : c.val.toNat < d.val.toNat := h
  have valid : d.val.toNat < 0xD800 ∨ 0xDFFF < d.val.toNat ∧ d.val.toNat < 0x110000 := d.valid
  unfold String.utf8EncodeChar
  dsimp only
  generalize c.val.toNat = v at less
  generalize d.val.toNat = w at less valid
  -- Leading digits to the base 64 decide before later ones.
  have digits (n : Nat) : n / 4096 = n / 64 / 64 ∧ n / 262144 = n / 64 / 64 / 64 := by omega
  simp only [digits]
  split_ifs <;>
    simp only [List.cons_append, List.nil_append, List.cons_lt_cons_iff, UInt8.lt_iff_toNat_lt,
      ← UInt8.toNat_inj, UInt8.toNat_ofNat'] <;>
    omega

/-- The first place where two texts differ decides the order of their bytes. -/
theorem flatMap_utf8EncodeChar_lt {cs ds : List Char} (h : cs < ds)
    : cs.flatMap String.utf8EncodeChar < ds.flatMap String.utf8EncodeChar := by
  induction h with
  | @nil d ds =>
      have nonempty : String.utf8EncodeChar d ≠ [] := String.utf8EncodeChar_ne_nil
      obtain ⟨byte, bytes, leads⟩ := List.exists_cons_of_ne_nil nonempty
      rw [List.flatMap_nil, List.flatMap_cons, leads]
      exact .nil
  | rel less => exact utf8EncodeChar_append_lt less _ _
  | cons _ ih => exact List.Lex.append_left _ ih _

/-- Texts are in the order of their bytes. -/
theorem encode_lt_encode {first second : String} (h : first < second)
    : encode first < encode second := by
  rw [encode_eq, encode_eq]
  exact flatMap_utf8EncodeChar_lt (String.lt_iff.mp h)

end ModeSwitch.Text.Utf8
