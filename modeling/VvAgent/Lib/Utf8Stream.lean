import VvAgent.Lib.Utf8

/-!
UTF-8 text that comes in pieces. The whole characters at the front of what has come are decoded;
the bytes behind them wait for more, as long as more bytes can complete a character. However a
text is cut, its pieces decode to the text.
-/

namespace VvAgent.Lib

/-- The character at the front of bytes, if a whole one stands there. -/
def firstChar (bytes : List UInt8) : Option Char := bytes.toByteArray.utf8DecodeChar? 0

theorem firstChar_encoded (c : Char) (rest : List UInt8) :
    firstChar (String.utf8EncodeChar c ++ rest) = some c := by
  rw [firstChar, List.toByteArray_append]
  exact ByteArray.utf8DecodeChar?_utf8EncodeChar_append

theorem of_firstChar {bytes : List UInt8} {c : Char} (h : firstChar bytes = some c) :
    ∃ rest, bytes = String.utf8EncodeChar c ++ rest := by
  obtain ⟨rest, hrest⟩ := ByteArray.exists_of_utf8DecodeChar?_eq_some h
  refine ⟨rest.data.toList, ?_⟩
  have hlist := congrArg (fun bytes : ByteArray => bytes.data.toList) hrest
  simpa using hlist

/-- The whole characters at the front of bytes, and the bytes behind them. -/
def decodeFront : Nat → List UInt8 → List Char × List UInt8
  | 0, bytes => ([], bytes)
  | bound + 1, bytes =>
      match firstChar bytes with
      | none => ([], bytes)
      | some c =>
          let rest := decodeFront bound (bytes.drop (String.utf8EncodeChar c).length)
          (c :: rest.1, rest.2)

/-- Whether more bytes can complete the first character: the bytes that may follow the given ones
form a range, whose ends are tried with the continuation bytes at both ends of theirs. -/
def completable (bytes : List UInt8) : Bool :=
  ([0x80, 0xBF] : List UInt8).any fun fill => [1, 2, 3].any fun count =>
    (firstChar (bytes ++ List.replicate count fill)).isSome

theorem completable_of_fill {bytes : List UInt8} (fill : UInt8) (count : Nat) {d : Char}
    (hfill : fill = 0x80 ∨ fill = 0xBF) (hcount : count = 1 ∨ count = 2 ∨ count = 3)
    (h : String.utf8EncodeChar d = bytes ++ List.replicate count fill) :
    completable bytes = true := by
  have hsome : (firstChar (bytes ++ List.replicate count fill)).isSome = true := by
    have hdecoded := firstChar_encoded d []
    rw [List.append_nil, h] at hdecoded
    rw [hdecoded]
    rfl
  rw [completable, List.any_eq_true]
  refine ⟨fill, by rcases hfill with rfl | rfl <;> simp, ?_⟩
  rw [List.any_eq_true]
  exact ⟨count, by rcases hcount with rfl | rfl | rfl <;> simp, hsome⟩

/-- The character of a code. -/
theorem toNat_val_ofNat {code : Nat} (h : code.isValidChar) :
    (Char.ofNat code).val.toNat = code := by
  rw [Char.ofNat, dif_pos h]
  rfl

theorem encode_two {code : Nat} (hlow : 0x7f < code) (hhigh : code ≤ 0x7ff) :
    String.utf8EncodeChar (Char.ofNat code) =
      [.ofNat (code / 64 + 0xc0), .ofNat (code % 64 + 0x80)] := by
  have hvalid : code.isValidChar := .inl (by omega)
  have hlead : code / 64 % 0x20 = code / 64 := Nat.mod_eq_of_lt (by omega)
  simp only [String.utf8EncodeChar, toNat_val_ofNat hvalid]
  rw [if_neg (by omega), if_pos hhigh, hlead]

theorem encode_three {code : Nat} (hvalid : code.isValidChar) (hlow : 0x7ff < code)
    (hhigh : code ≤ 0xffff) :
    String.utf8EncodeChar (Char.ofNat code) =
      [.ofNat (code / 4096 + 0xe0), .ofNat (code / 64 % 64 + 0x80), .ofNat (code % 64 + 0x80)] := by
  have hlead : code / 4096 % 0x10 = code / 4096 := Nat.mod_eq_of_lt (by omega)
  simp only [String.utf8EncodeChar, toNat_val_ofNat hvalid]
  rw [if_neg (by omega), if_neg (by omega), if_pos hhigh, hlead]

theorem encode_four {code : Nat} (hlow : 0xffff < code) (hhigh : code < 0x110000) :
    String.utf8EncodeChar (Char.ofNat code) =
      [.ofNat (code / 262144 + 0xf0), .ofNat (code / 4096 % 64 + 0x80),
        .ofNat (code / 64 % 64 + 0x80), .ofNat (code % 64 + 0x80)] := by
  have hvalid : code.isValidChar := .inr ⟨by omega, hhigh⟩
  have hlead : code / 262144 % 0x08 = code / 262144 := Nat.mod_eq_of_lt (by omega)
  simp only [String.utf8EncodeChar, toNat_val_ofNat hvalid]
  rw [if_neg (by omega), if_neg (by omega), if_neg (by omega), hlead]

/-- The bytes of a character that is cut can be completed. -/
theorem completable_of_cut {bytes rest : List UInt8} {c : Char}
    (h : String.utf8EncodeChar c = bytes ++ rest) (hbytes : bytes ≠ []) (hrest : rest ≠ []) :
    completable bytes = true := by
  have hfront : bytes = (String.utf8EncodeChar c).take bytes.length := by
    rw [h, List.take_left]
  have hlow := List.length_pos_of_ne_nil hbytes
  have hhigh : bytes.length < (String.utf8EncodeChar c).length := by
    have hpositive := List.length_pos_of_ne_nil hrest
    rw [h, List.length_append]
    omega
  generalize bytes.length = count at hfront hlow hhigh
  have hcode : c = Char.ofNat c.toNat := (Char.ofNat_toNat c).symm
  have hvalid : c.toNat.isValidChar := c.valid
  generalize c.toNat = code at hcode hvalid
  subst hcode
  -- The code is filled up with zeros or ones behind the bits that the bytes tell.
  by_cases hone : code ≤ 0x7f
  · have hlength : (String.utf8EncodeChar (Char.ofNat code)).length = 1 := by
      simp only [String.utf8EncodeChar, toNat_val_ofNat hvalid, if_pos hone, List.length_singleton]
    omega
  by_cases htwo : code ≤ 0x7ff
  · rw [encode_two (by omega) htwo] at hfront hhigh
    simp only [List.length_cons, List.length_nil] at hhigh
    obtain rfl : count = 1 := by omega
    apply completable_of_fill (d := Char.ofNat (code / 64 * 64)) 0x80 1 (by simp) (by simp)
    rw [encode_two (by omega) (by omega), hfront]
    have hlead : code / 64 * 64 / 64 = code / 64 := by omega
    have hlast : code / 64 * 64 % 64 = 0 := by omega
    rw [hlead, hlast]
    rfl
  by_cases hthree : code ≤ 0xffff
  · rw [encode_three hvalid (by omega) hthree] at hfront hhigh
    simp only [List.length_cons, List.length_nil] at hhigh
    obtain rfl | rfl : count = 1 ∨ count = 2 := by omega
    · by_cases hzero : code / 4096 = 0
      · apply completable_of_fill (d := Char.ofNat 0xfff) 0xBF 2 (by simp) (by simp)
        rw [encode_three (.inl (by omega)) (by omega) (by omega), hfront, hzero]
        rfl
      · apply completable_of_fill (d := Char.ofNat (code / 4096 * 4096)) 0x80 2 (by simp) (by simp)
        have hstart : (code / 4096 * 4096).isValidChar := by
          rcases hvalid with hbelow | ⟨habove, _⟩
          · exact .inl (by omega)
          · exact .inr ⟨by omega, by omega⟩
        rw [encode_three hstart (by omega) (by omega), hfront]
        have hlead : code / 4096 * 4096 / 4096 = code / 4096 := by omega
        have hsecond : code / 4096 * 4096 / 64 % 64 = 0 := by omega
        have hlast : code / 4096 * 4096 % 64 = 0 := by omega
        rw [hlead, hsecond, hlast]
        rfl
    · apply completable_of_fill (d := Char.ofNat (code / 64 * 64)) 0x80 1 (by simp) (by simp)
      have hstart : (code / 64 * 64).isValidChar := by
        rcases hvalid with hbelow | ⟨habove, _⟩
        · exact .inl (by omega)
        · exact .inr ⟨by omega, by omega⟩
      rw [encode_three hstart (by omega) (by omega), hfront]
      have hlead : code / 64 * 64 / 4096 = code / 4096 := by omega
      have hsecond : code / 64 * 64 / 64 % 64 = code / 64 % 64 := by omega
      have hlast : code / 64 * 64 % 64 = 0 := by omega
      rw [hlead, hsecond, hlast]
      rfl
  have hrange : code < 0x110000 := by
    rcases hvalid with hbelow | ⟨_, habove⟩
    · omega
    · exact habove
  rw [encode_four (by omega) hrange] at hfront hhigh
  simp only [List.length_cons, List.length_nil] at hhigh
  obtain rfl | rfl | rfl : count = 1 ∨ count = 2 ∨ count = 3 := by omega
  · by_cases hzero : code / 262144 = 0
    · apply completable_of_fill (d := Char.ofNat 0x3ffff) 0xBF 3 (by simp) (by simp)
      rw [encode_four (by omega) (by omega), hfront, hzero]
      rfl
    · apply completable_of_fill (d := Char.ofNat (code / 262144 * 262144)) 0x80 3 (by simp)
        (by simp)
      rw [encode_four (by omega) (by omega), hfront]
      have hlead : code / 262144 * 262144 / 262144 = code / 262144 := by omega
      have hsecond : code / 262144 * 262144 / 4096 % 64 = 0 := by omega
      have hthird : code / 262144 * 262144 / 64 % 64 = 0 := by omega
      have hlast : code / 262144 * 262144 % 64 = 0 := by omega
      rw [hlead, hsecond, hthird, hlast]
      rfl
  · apply completable_of_fill (d := Char.ofNat (code / 4096 * 4096)) 0x80 2 (by simp) (by simp)
    rw [encode_four (by omega) (by omega), hfront]
    have hlead : code / 4096 * 4096 / 262144 = code / 262144 := by omega
    have hsecond : code / 4096 * 4096 / 4096 % 64 = code / 4096 % 64 := by omega
    have hthird : code / 4096 * 4096 / 64 % 64 = 0 := by omega
    have hlast : code / 4096 * 4096 % 64 = 0 := by omega
    rw [hlead, hsecond, hthird, hlast]
    rfl
  · apply completable_of_fill (d := Char.ofNat (code / 64 * 64)) 0x80 1 (by simp) (by simp)
    rw [encode_four (by omega) (by omega), hfront]
    have hlead : code / 64 * 64 / 262144 = code / 262144 := by omega
    have hsecond : code / 64 * 64 / 4096 % 64 = code / 4096 % 64 := by omega
    have hthird : code / 64 * 64 / 64 % 64 = code / 64 % 64 := by omega
    have hlast : code / 64 * 64 % 64 = 0 := by omega
    rw [hlead, hsecond, hthird, hlast]
    rfl

/-! ### What has come -/

theorem decodeFront_append (bound : Nat) (bytes : List UInt8) :
    textBytes (decodeFront bound bytes).1 ++ (decodeFront bound bytes).2 = bytes := by
  induction bound generalizing bytes with
  | zero => rfl
  | succ bound ih =>
      cases hfirst : firstChar bytes with
      | none => simp [decodeFront, hfirst]
      | some c =>
          obtain ⟨rest, rfl⟩ := of_firstChar hfirst
          have hrest := ih rest
          simp only [decodeFront, hfirst, List.drop_left, textBytes_cons, List.append_assoc, hrest]

/-- All whole characters are decoded. -/
theorem firstChar_decodeFront {bound : Nat} {bytes : List UInt8} (h : bytes.length ≤ bound) :
    firstChar (decodeFront bound bytes).2 = none := by
  have hempty : firstChar [] = none := by
    cases hfirst : firstChar [] with
    | none => rfl
    | some c =>
        obtain ⟨rest, hrest⟩ := of_firstChar hfirst
        exact absurd (List.append_eq_nil_iff.mp hrest.symm).1 String.utf8EncodeChar_ne_nil
  induction bound generalizing bytes with
  | zero =>
      obtain rfl := List.length_eq_zero_iff.mp (Nat.le_zero.mp h)
      exact hempty
  | succ bound ih =>
      cases hfirst : firstChar bytes with
      | none => simp [decodeFront, hfirst]
      | some c =>
          obtain ⟨rest, rfl⟩ := of_firstChar hfirst
          have hpositive := List.length_pos_of_ne_nil (String.utf8EncodeChar_ne_nil (c := c))
          rw [List.length_append] at h
          simp only [decodeFront, hfirst, List.drop_left]
          exact ih (by omega)

/-- Where a text continues, nothing is left of what has come, or it can be completed; when all
has come, nothing is left. -/
theorem rest_of_text {text : List Char} {rest more : List UInt8}
    (h : textBytes text = rest ++ more) (hrest : firstChar rest = none) :
    (rest = [] ∨ completable rest = true) ∧ (more = [] → rest = []) := by
  cases text with
  | nil =>
      have hnone := (List.append_eq_nil_iff.mp h.symm).1
      exact ⟨.inl hnone, fun _ => hnone⟩
  | cons c text =>
      rw [textBytes_cons] at h
      rcases List.append_eq_append_iff.mp h with ⟨others, hwhole, _⟩ | ⟨others, hcut, _⟩
      · rw [hwhole, firstChar_encoded] at hrest
        cases hrest
      · have hothers : others ≠ [] := by
          rintro rfl
          rw [List.append_nil] at hcut
          rw [← hcut, ← List.append_nil (String.utf8EncodeChar c), firstChar_encoded] at hrest
          cases hrest
        refine ⟨?_, fun hmore => ?_⟩
        · by_cases hempty : rest = []
          · exact .inl hempty
          · exact .inr (completable_of_cut hcut hempty hothers)
        · subst hmore
          rw [List.append_nil] at h
          rw [← h, firstChar_encoded] at hrest
          cases hrest

end VvAgent.Lib
