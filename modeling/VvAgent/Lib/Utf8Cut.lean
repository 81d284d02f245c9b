import VvAgent.Lib.Utf8

/-!
The bytes of a text cut in two at any place. The cut falls behind a byte of some character; a
remainder that starts inside a character is told from the bytes of every text.
-/

namespace VvAgent.Lib

/-- The character starts with these bytes, and those may follow. -/
def Utf8Tail (bytes : List UInt8) : Prop :=
  ∃ c front, front ≠ [] ∧ String.utf8EncodeChar c = front ++ bytes

theorem utf8Tail_nil : Utf8Tail [] :=
  ⟨'a', String.utf8EncodeChar 'a', String.utf8EncodeChar_ne_nil, (List.append_nil _).symm⟩

theorem Utf8Tail.of_append {first second : List UInt8} (h : Utf8Tail (first ++ second)) : Utf8Tail second := by
  obtain ⟨c, front, hfront, hc⟩ := h
  exact ⟨c, front ++ first, by simp [hfront], by rw [hc, List.append_assoc]⟩

/-- No character starts with a byte from inside a character. -/
theorem Utf8Tail.not_first {byte : UInt8} {rest later : List UInt8} {d : Char}
    (h : Utf8Tail (byte :: rest)) (hd : String.utf8EncodeChar d = byte :: later) : False := by
  obtain ⟨c, front, hfront, hc⟩ := h
  have hinside : front.length < (String.utf8EncodeChar c).length := by
    rw [hc, List.length_append, List.length_cons]
    omega
  have hget : (String.utf8EncodeChar c)[front.length] = byte := by simp [hc]
  have hstart : 0 < (String.utf8EncodeChar d).length := by simp [hd]
  have hget' : (String.utf8EncodeChar d)[0] = byte := by simp [hd]
  have hfirst : byte.IsUTF8FirstByte := by
    rw [← hget']
    exact UInt8.isUTF8FirstByte_getElem_utf8EncodeChar.mpr rfl
  rw [← hget, UInt8.isUTF8FirstByte_getElem_utf8EncodeChar] at hfirst
  exact hfront (List.length_eq_zero_iff.mp hfirst)

/-- A remainder in front of which a character starts is none. -/
theorem Utf8Tail.eq_nil {bytes : List UInt8} {text : List Char} {d : Char} {rest : List UInt8}
    (h : Utf8Tail bytes) (heq : bytes ++ textBytes text = String.utf8EncodeChar d ++ rest) :
    bytes = [] := by
  cases bytes with
  | nil => rfl
  | cons byte bytes =>
      obtain ⟨first, later, hd⟩ := List.exists_cons_of_ne_nil (String.utf8EncodeChar_ne_nil (c := d))
      rw [hd, List.cons_append, List.cons_append] at heq
      obtain ⟨rfl, _⟩ := List.cons.inj heq
      exact (h.not_first hd).elim

theorem utf8EncodeChar_ascii {c : Char} (h : c.toNat < 128) :
    String.utf8EncodeChar c = [.ofNat c.toNat] := by
  have hcode : c.val.toNat < 128 := h
  rw [String.utf8EncodeChar, if_pos (by omega)]
  rfl

/-- An ASCII character is never cut. -/
theorem ascii_cut {c : Char} {front back : List UInt8} (hascii : c.toNat < 128)
    (hc : String.utf8EncodeChar c = front ++ back) (hfront : front ≠ []) :
    front = String.utf8EncodeChar c ∧ back = [] := by
  have hlength := congrArg List.length hc
  have hpositive := List.length_pos_of_ne_nil hfront
  rw [utf8EncodeChar_ascii hascii, List.length_singleton, List.length_append] at hlength
  obtain rfl : back = [] := List.length_eq_zero_iff.mp (by omega)
  exact ⟨by rw [hc, List.append_nil], rfl⟩

/-- No byte inside a character is an ASCII one. -/
theorem Utf8Tail.not_ascii {bytes : List UInt8} {byte : UInt8} (h : Utf8Tail bytes)
    (hbyte : byte.toNat < 128) : byte ∉ bytes := by
  intro hmem
  obtain ⟨before, after, rfl⟩ := List.append_of_mem hmem
  have htail : Utf8Tail (byte :: after) := h.of_append
  have hd : String.utf8EncodeChar (.ofNat byte.toNat) = byte :: [] := by
    have hvalid : byte.toNat.isValidChar := .inl (by omega)
    have hcode : (Char.ofNat byte.toNat).val.toNat = byte.toNat := by
      rw [Char.ofNat, dif_pos hvalid]
      rfl
    have hsmall : (Char.ofNat byte.toNat).toNat < 128 := by
      change (Char.ofNat byte.toNat).val.toNat < 128
      omega
    rw [utf8EncodeChar_ascii hsmall]
    change [UInt8.ofNat (Char.ofNat byte.toNat).val.toNat] = [byte]
    rw [hcode, UInt8.ofNat_toNat]
  exact htail.not_first hd

/-- A cut behind some bytes of a text falls behind a byte of one character. -/
theorem cut_textBytes {text : List Char} {part rest : List UInt8}
    (h : textBytes text = part ++ rest) (hpart : part ≠ []) :
    ∃ before c after front back, text = before ++ c :: after ∧ front ≠ [] ∧
      String.utf8EncodeChar c = front ++ back ∧ part = textBytes before ++ front ∧
      rest = back ++ textBytes after := by
  induction text generalizing part with
  | nil =>
      obtain ⟨rfl, _⟩ := List.append_eq_nil_iff.mp h.symm
      exact absurd rfl hpart
  | cons c text ih =>
      rw [textBytes_cons] at h
      rcases List.append_eq_append_iff.mp h with ⟨later, rfl, hlater⟩ | ⟨back, hc, rfl⟩
      · by_cases hnone : later = []
        · subst hnone
          refine ⟨[], c, text, String.utf8EncodeChar c, [], rfl, String.utf8EncodeChar_ne_nil,
            (List.append_nil _).symm, by simp, ?_⟩
          simpa using hlater.symm
        · obtain ⟨before, d, after, front, back, rfl, hfront, hd, rfl, rfl⟩ := ih hlater hnone
          exact ⟨c :: before, d, after, front, back, rfl, hfront, hd,
            by rw [textBytes_cons, List.append_assoc], rfl⟩
      · exact ⟨[], c, text, part, back, rfl, hpart, hc, rfl, rfl⟩

/-- A text that has no more bytes than characters is an ASCII one. -/
theorem ascii_of_length {text : List Char} (h : (textBytes text).length = text.length) :
    ∀ c ∈ text, c.toNat < 128 := by
  have hleast : ∀ text : List Char, text.length ≤ (textBytes text).length := by
    intro text
    induction text with
    | nil => exact Nat.le_refl _
    | cons c text ih =>
        have hpositive := List.length_pos_of_ne_nil (String.utf8EncodeChar_ne_nil (c := c))
        rw [textBytes_cons, List.length_append, List.length_cons]
        omega
  induction text with
  | nil => simp
  | cons c text ih =>
      have hpositive := List.length_pos_of_ne_nil (String.utf8EncodeChar_ne_nil (c := c))
      have hrest := hleast text
      rw [textBytes_cons, List.length_append, List.length_cons] at h
      have hone : (String.utf8EncodeChar c).length = 1 := by omega
      rw [String.length_utf8EncodeChar, Char.utf8Size_eq_one_iff] at hone
      have hcode : c.toNat ≤ 127 := UInt32.le_iff_toNat_le.mp hone
      refine List.forall_mem_cons.mpr ⟨by omega, ih ?_⟩
      omega

end VvAgent.Lib
