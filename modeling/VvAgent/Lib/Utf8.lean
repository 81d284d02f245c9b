import Mathlib.Data.List.Basic

/-!
The UTF-8 bytes of a text, as a list: a byte below 128 stands for the character of that code
only, and a text whose bytes start with those of another starts with that text. A text of such
bytes alone has as many characters as bytes.
-/

namespace VvAgent.Lib

/-- The UTF-8 bytes of a text. -/
def textBytes (text : List Char) : List UInt8 := text.flatMap String.utf8EncodeChar

@[simp] theorem textBytes_nil : textBytes [] = [] := rfl

theorem textBytes_cons (c : Char) (text : List Char) :
    textBytes (c :: text) = String.utf8EncodeChar c ++ textBytes text := rfl

theorem textBytes_append (first second : List Char) :
    textBytes (first ++ second) = textBytes first ++ textBytes second :=
  List.flatMap_append

/-- The bytes of a character tell it from every other, whatever follows. -/
theorem utf8EncodeChar_append_inj {c d : Char} {x y : List UInt8}
    (h : String.utf8EncodeChar c ++ x = String.utf8EncodeChar d ++ y) : c = d := by
  have hc := ByteArray.utf8DecodeChar?_utf8EncodeChar_append (b := x.toByteArray) (c := c)
  have hd := ByteArray.utf8DecodeChar?_utf8EncodeChar_append (b := y.toByteArray) (c := d)
  rw [← List.toByteArray_append] at hc hd
  rw [h, hd] at hc
  exact (Option.some.inj hc).symm

/-- A text whose bytes start with those of another starts with that text. -/
theorem textBytes_prefix (front text : List Char) (rest : List UInt8)
    (h : textBytes text = textBytes front ++ rest) :
    ∃ tail, text = front ++ tail ∧ rest = textBytes tail := by
  induction front generalizing text with
  | nil => exact ⟨text, rfl, by simpa using h.symm⟩
  | cons c front ih =>
      cases text with
      | nil =>
          rw [textBytes_nil, textBytes_cons, List.append_assoc] at h
          have hempty := (List.append_eq_nil_iff.mp h.symm).1
          exact absurd hempty String.utf8EncodeChar_ne_nil
      | cons d text =>
          rw [textBytes_cons, textBytes_cons, List.append_assoc] at h
          obtain rfl := utf8EncodeChar_append_inj h
          obtain ⟨tail, rfl, htail⟩ := ih text (List.append_cancel_left h)
          exact ⟨tail, rfl, htail⟩

theorem textBytes_inj {first second : List Char} (h : textBytes first = textBytes second) :
    first = second := by
  obtain ⟨tail, rfl, htail⟩ := textBytes_prefix second first [] (by simpa using h)
  cases tail with
  | nil => simp
  | cons c tail =>
      rw [textBytes_cons] at htail
      exact absurd (List.append_eq_nil_iff.mp htail.symm).1 String.utf8EncodeChar_ne_nil

/-- A byte below 128 stands for itself. -/
theorem mem_utf8EncodeChar_ascii {c : Char} {byte : UInt8} (hbyte : byte.toNat < 128)
    (h : byte ∈ String.utf8EncodeChar c) : c.toNat = byte.toNat := by
  have hcode : c.toNat = c.val.toNat := rfl
  rw [String.utf8EncodeChar] at h
  split_ifs at h with hone htwo hthree
  all_goals
    simp only [List.mem_cons, List.not_mem_nil, or_false] at h
    rcases h with rfl | rfl | rfl | rfl <;> simp only [UInt8.toNat_ofNat'] at hbyte ⊢ <;> omega

/-- A character whose bytes are all below 128 is one byte. -/
theorem length_utf8EncodeChar_ascii {c : Char}
    (h : ∀ byte ∈ String.utf8EncodeChar c, byte.toNat < 128) :
    (String.utf8EncodeChar c).length = 1 := by
  obtain ⟨byte, rest, hbytes⟩ := List.exists_cons_of_ne_nil (String.utf8EncodeChar_ne_nil (c := c))
  have hmem : byte ∈ String.utf8EncodeChar c := by simp [hbytes]
  have hcode := mem_utf8EncodeChar_ascii (h byte hmem) hmem
  have hsmall : c.toNat < 128 := by
    rw [hcode]
    exact h byte hmem
  rw [String.length_utf8EncodeChar, Char.utf8Size_eq_one_iff]
  exact UInt32.le_iff_toNat_le.mpr (by simpa using Nat.le_of_lt_succ hsmall)

/-- A text whose bytes are all below 128 has as many characters. -/
theorem length_textBytes_ascii (text : List Char)
    (h : ∀ byte ∈ textBytes text, byte.toNat < 128) :
    (textBytes text).length = text.length := by
  induction text with
  | nil => rfl
  | cons c text ih =>
      rw [textBytes_cons] at h ⊢
      have hfirst := length_utf8EncodeChar_ascii fun byte hbyte =>
        h byte (List.mem_append_left _ hbyte)
      have hrest := ih fun byte hbyte => h byte (List.mem_append_right _ hbyte)
      rw [List.length_append, hfirst, hrest, List.length_cons, Nat.add_comm]

theorem toByteArray_eq_textBytes (text : String) :
    text.toByteArray.data.toList = textBytes text.toList := by
  rw [← String.utf8Encode_toList, List.utf8Encode, List.data_toByteArray]
  rfl

theorem utf8ByteSize_eq_textBytes (text : String) :
    text.utf8ByteSize = (textBytes text.toList).length := by
  rw [← String.size_toByteArray, ← toByteArray_eq_textBytes]
  rfl

end VvAgent.Lib
