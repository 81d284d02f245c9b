import VvAgent.Lib.Utf8Stream

/-!
Bytes read as a text although they need not be one. Where no character starts, the longest front
that a character could have begun with, or else one byte, is replaced by the replacement
character; bytes at the end that more bytes could complete are left over. What has been decoded
stays as it is when more bytes come.
-/

namespace VvAgent.Lib

def replacementChar : Char := '\uFFFD'

/-- How many bytes are replaced at once: as many as could have begun a character. -/
def brokenLength (bytes : List UInt8) : Nat :=
  if completable (bytes.take 3) then 3 else if completable (bytes.take 2) then 2 else 1

/-- `Utf8Error::error_len` of bytes that start with no whole character: nothing where the end came
too early. -/
def errorLength (bytes : List UInt8) : Option Nat :=
  if completable bytes then none else some (brokenLength bytes)

def decodeLossyIn : Nat → List UInt8 → List Char × List UInt8
  | 0, bytes => ([], bytes)
  | bound + 1, bytes =>
      if bytes = [] then ([], [])
      else
        match firstChar bytes with
        | some c =>
            let rest := decodeLossyIn bound (bytes.drop (String.utf8EncodeChar c).length)
            (c :: rest.1, rest.2)
        | none =>
            match errorLength bytes with
            | some length =>
                let rest := decodeLossyIn bound (bytes.drop length)
                (replacementChar :: rest.1, rest.2)
            | none => ([], bytes)

/-- The text of bytes, and the bytes at its end that have begun a character. -/
def decodeLossy (bytes : List UInt8) : List Char × List UInt8 := decodeLossyIn bytes.length bytes

/-- `String::from_utf8_lossy`. -/
def fromUtf8Lossy (bytes : List UInt8) : List Char :=
  (decodeLossy bytes).1 ++ if (decodeLossy bytes).2 = [] then [] else [replacementChar]

/-- The bytes at the end that have begun a character. -/
def unfinished (bytes : List UInt8) : List UInt8 := (decodeLossy bytes).2

/-- The text of bytes, with or without a replacement for those left over at the end. -/
def lossyText (finish : Bool) (bytes : List UInt8) : List Char :=
  if finish then fromUtf8Lossy bytes else (decodeLossy bytes).1

/-! ### More bytes -/

/-- Bytes that have not begun a character do not begin one when more come. -/
theorem firstChar_append_of_broken {bytes : List UInt8} (hfirst : firstChar bytes = none)
    (hne : bytes ≠ []) (hbroken : completable bytes = false) (more : List UInt8) :
    firstChar (bytes ++ more) = none := by
  cases hmore : firstChar (bytes ++ more) with
  | none => rfl
  | some c =>
      exfalso
      obtain ⟨rest, hrest⟩ := of_firstChar hmore
      rcases List.append_eq_append_iff.mp hrest with ⟨others, hcut, _⟩ | ⟨others, hwhole, _⟩
      · by_cases hothers : others = []
        · rw [hothers, List.append_nil] at hcut
          rw [← hcut, ← List.append_nil (String.utf8EncodeChar c), firstChar_encoded] at hfirst
          cases hfirst
        · rw [completable_of_cut hcut hne hothers] at hbroken
          cases hbroken
      · rw [hwhole, firstChar_encoded] at hfirst
        cases hfirst

theorem completable_append_of_broken {bytes : List UInt8} (hfirst : firstChar bytes = none)
    (hne : bytes ≠ []) (hbroken : completable bytes = false) (more : List UInt8) :
    completable (bytes ++ more) = false := by
  rw [completable, List.any_eq_false]
  intro fill _
  rw [Bool.not_eq_true, List.any_eq_false]
  intro count _
  rw [List.append_assoc, firstChar_append_of_broken hfirst hne hbroken]
  exact Bool.false_ne_true

theorem completable_take_append {bytes : List UInt8} (hfirst : firstChar bytes = none)
    (hne : bytes ≠ []) (hbroken : completable bytes = false) (more : List UInt8) (count : Nat) :
    completable ((bytes ++ more).take count) = completable (bytes.take count) := by
  by_cases hcount : count ≤ bytes.length
  · rw [List.take_append_of_le_length hcount]
  · have hall : bytes.take count = bytes := List.take_of_length_le (by omega)
    have hmore : (bytes ++ more).take count = bytes ++ more.take (count - bytes.length) := by
      rw [List.take_append, hall]
    rw [hmore, hall, completable_append_of_broken hfirst hne hbroken, hbroken]

/-- How many bytes are replaced is settled by those that have come. -/
theorem errorLength_append {bytes : List UInt8} {length : Nat} (hfirst : firstChar bytes = none)
    (hne : bytes ≠ []) (h : errorLength bytes = some length) (more : List UInt8) :
    firstChar (bytes ++ more) = none ∧ errorLength (bytes ++ more) = some length := by
  unfold errorLength at h ⊢
  split_ifs at h with hopen
  have hbroken : completable bytes = false := Bool.eq_false_iff.mpr hopen
  refine ⟨firstChar_append_of_broken hfirst hne hbroken more, ?_⟩
  have hmore := completable_append_of_broken hfirst hne hbroken more
  rw [if_neg (Bool.eq_false_iff.mp hmore), ← h, brokenLength, brokenLength,
    completable_take_append hfirst hne hbroken, completable_take_append hfirst hne hbroken]

theorem errorLength_bounds {bytes : List UInt8} {length : Nat} (hne : bytes ≠ [])
    (h : errorLength bytes = some length) : 0 < length ∧ length ≤ bytes.length := by
  have hpositive := List.length_pos_of_ne_nil hne
  unfold errorLength at h
  split_ifs at h with hopen
  obtain rfl := Option.some.inj h
  have hshort : ∀ count, completable (bytes.take count) = true → count ≤ bytes.length := by
    intro count htake
    by_contra hlong
    rw [List.take_of_length_le (by omega)] at htake
    exact hopen htake
  unfold brokenLength
  split_ifs with hthree htwo
  · exact ⟨by omega, hshort 3 hthree⟩
  · exact ⟨by omega, hshort 2 htwo⟩
  · exact ⟨by omega, hpositive⟩

/-! ### Decoding step by step -/

@[simp]
theorem decodeLossy_nil : decodeLossy [] = ([], []) := rfl

theorem utf8EncodeChar_length_pos (c : Char) : 0 < (String.utf8EncodeChar c).length :=
  List.length_pos_of_ne_nil String.utf8EncodeChar_ne_nil

theorem decodeLossyIn_eq {bound : Nat} {bytes : List UInt8} (h : bytes.length ≤ bound) :
    decodeLossyIn bound bytes = decodeLossy bytes := by
  suffices hall : ∀ first second (bytes : List UInt8), bytes.length ≤ first →
      bytes.length ≤ second → decodeLossyIn first bytes = decodeLossyIn second bytes from
    hall bound bytes.length bytes h (Nat.le_refl _)
  intro first
  induction first with
  | zero =>
      intro second bytes hfirst _
      obtain rfl := List.length_eq_zero_iff.mp (Nat.le_zero.mp hfirst)
      cases second <;> rfl
  | succ first ih =>
      intro second bytes hfirst hsecond
      by_cases hne : bytes = []
      · subst hne
        cases second <;> rfl
      · have hpositive := List.length_pos_of_ne_nil hne
        cases second with
        | zero => omega
        | succ second =>
            rw [decodeLossyIn, decodeLossyIn, if_neg hne, if_neg hne]
            cases hchar : firstChar bytes with
            | some c =>
                have hc := utf8EncodeChar_length_pos c
                dsimp only
                rw [ih second _ (by rw [List.length_drop]; omega) (by rw [List.length_drop]; omega)]
            | none =>
                cases herror : errorLength bytes with
                | none => rfl
                | some length =>
                    have hlength := (errorLength_bounds hne herror).1
                    dsimp only
                    rw [ih second _ (by rw [List.length_drop]; omega)
                      (by rw [List.length_drop]; omega)]

theorem decodeLossy_char (c : Char) (rest : List UInt8) :
    decodeLossy (String.utf8EncodeChar c ++ rest) =
      (c :: (decodeLossy rest).1, (decodeLossy rest).2) := by
  have hne : String.utf8EncodeChar c ++ rest ≠ [] :=
    List.append_ne_nil_of_left_ne_nil String.utf8EncodeChar_ne_nil _
  have hlength := utf8EncodeChar_length_pos c
  rw [← decodeLossyIn_eq (Nat.le_succ (String.utf8EncodeChar c ++ rest).length), decodeLossyIn,
    if_neg hne, firstChar_encoded]
  dsimp only
  rw [List.drop_left, decodeLossyIn_eq (by rw [List.length_append]; omega)]

/-- Bytes that have begun no character are replaced, whatever follows them. -/
theorem decodeLossy_broken {bytes : List UInt8} {length : Nat} (hfirst : firstChar bytes = none)
    (hne : bytes ≠ []) (herror : errorLength bytes = some length) (more : List UInt8) :
    decodeLossy (bytes ++ more) =
      (replacementChar :: (decodeLossy (bytes.drop length ++ more)).1,
        (decodeLossy (bytes.drop length ++ more)).2) := by
  obtain ⟨hpositive, hlength⟩ := errorLength_bounds hne herror
  obtain ⟨hmore, hsame⟩ := errorLength_append hfirst hne herror more
  have hall : bytes ++ more ≠ [] := List.append_ne_nil_of_left_ne_nil hne _
  rw [← decodeLossyIn_eq (Nat.le_succ (bytes ++ more).length), decodeLossyIn, if_neg hall, hmore]
  dsimp only
  rw [hsame]
  dsimp only
  rw [List.drop_append_of_le_length hlength, decodeLossyIn_eq (by
    rw [List.length_append, List.length_append, List.length_drop]
    omega)]

theorem decodeLossy_open {bytes : List UInt8} (hfirst : firstChar bytes = none)
    (hopen : errorLength bytes = none) : decodeLossy bytes = ([], bytes) := by
  by_cases hne : bytes = []
  · rw [hne]
    rfl
  · rw [← decodeLossyIn_eq (Nat.le_succ bytes.length), decodeLossyIn, if_neg hne, hfirst]
    dsimp only
    rw [hopen]

theorem decodeLossy_text (text : List Char) (rest : List UInt8) :
    decodeLossy (textBytes text ++ rest) = (text ++ (decodeLossy rest).1, (decodeLossy rest).2) := by
  induction text with
  | nil => rfl
  | cons c text ih =>
      rw [textBytes_cons, List.append_assoc, decodeLossy_char, ih]
      rfl

@[simp]
theorem lossyText_nil (finish : Bool) : lossyText finish [] = [] := by
  cases finish <;> rfl

theorem lossyText_text (finish : Bool) (text : List Char) (rest : List UInt8) :
    lossyText finish (textBytes text ++ rest) = text ++ lossyText finish rest := by
  unfold lossyText fromUtf8Lossy
  rw [decodeLossy_text]
  cases finish
  · rfl
  · exact List.append_assoc _ _ _

theorem lossyText_broken (finish : Bool) {bytes : List UInt8} {length : Nat}
    (hfirst : firstChar bytes = none) (hne : bytes ≠ [])
    (herror : errorLength bytes = some length) (more : List UInt8) :
    lossyText finish (bytes ++ more) =
      replacementChar :: lossyText finish (bytes.drop length ++ more) := by
  unfold lossyText fromUtf8Lossy
  rw [decodeLossy_broken hfirst hne herror]
  cases finish <;> rfl

/-- What bytes start with. -/
theorem lossy_cases (bytes : List UInt8) :
    (∃ c rest, bytes = String.utf8EncodeChar c ++ rest) ∨
      (firstChar bytes = none ∧ bytes ≠ [] ∧ ∃ length, errorLength bytes = some length) ∨
      (firstChar bytes = none ∧ (bytes = [] ∨ errorLength bytes = none)) := by
  cases hfirst : firstChar bytes with
  | some c =>
      obtain ⟨rest, hrest⟩ := of_firstChar hfirst
      exact .inl ⟨c, rest, hrest⟩
  | none =>
      by_cases hne : bytes = []
      · exact .inr (.inr ⟨rfl, .inl hne⟩)
      · cases herror : errorLength bytes with
        | none => exact .inr (.inr ⟨rfl, .inr rfl⟩)
        | some length => exact .inr (.inl ⟨rfl, hne, length, rfl⟩)

/-- A character is begun by three bytes at most. -/
theorem length_of_completable {bytes : List UInt8} (hfirst : firstChar bytes = none)
    (h : completable bytes = true) : bytes.length ≤ 3 := by
  rw [completable, List.any_eq_true] at h
  obtain ⟨fill, _, hfill⟩ := h
  rw [List.any_eq_true] at hfill
  obtain ⟨count, _, hsome⟩ := hfill
  obtain ⟨c, hc⟩ := Option.isSome_iff_exists.mp hsome
  obtain ⟨rest, hrest⟩ := of_firstChar hc
  rcases List.append_eq_append_iff.mp hrest with ⟨others, hcut, _⟩ | ⟨others, hwhole, _⟩
  · have hfour := Char.utf8Size_le_four c
    rw [← String.length_utf8EncodeChar, hcut, List.length_append] at hfour
    have hothers : others ≠ [] := by
      rintro rfl
      rw [List.append_nil] at hcut
      rw [← hcut, ← List.append_nil (String.utf8EncodeChar c), firstChar_encoded] at hfirst
      cases hfirst
    have hpositive := List.length_pos_of_ne_nil hothers
    omega
  · rw [hwhole, firstChar_encoded] at hfirst
    cases hfirst

/-- Bytes that are replaced are replaced also where the bytes behind them are cut off. -/
theorem fromUtf8Lossy_broken {bytes front more : List UInt8} {length : Nat}
    (hfirst : firstChar bytes = none) (hne : bytes ≠ [])
    (herror : errorLength bytes = some length) (hcut : bytes.drop length = front ++ more) :
    fromUtf8Lossy (bytes.take length ++ front) = replacementChar :: fromUtf8Lossy front := by
  obtain ⟨hpositive, hbound⟩ := errorLength_bounds hne herror
  have htake : (bytes.take length).length = length := List.length_take_of_le hbound
  have hbytes : bytes = (bytes.take length ++ front) ++ more := by
    rw [List.append_assoc, ← hcut, List.take_append_drop]
  have hnone : firstChar (bytes.take length ++ front) = none := by
    cases hchar : firstChar (bytes.take length ++ front) with
    | none => rfl
    | some c =>
        obtain ⟨rest, hrest⟩ := of_firstChar hchar
        rw [hbytes, hrest, List.append_assoc, firstChar_encoded] at hfirst
        cases hfirst
  have hfront : bytes.take length ++ front ≠ [] :=
    List.append_ne_nil_of_left_ne_nil (List.ne_nil_of_length_pos (by omega)) _
  cases hopen : errorLength (bytes.take length ++ front) with
  | some other =>
      have hsame := (errorLength_append hnone hfront hopen more).2
      rw [← hbytes, herror] at hsame
      obtain rfl := Option.some.inj hsame
      have hdecode := decodeLossy_broken hnone hfront hopen []
      rw [List.append_nil, List.append_nil, List.drop_left' htake] at hdecode
      rw [fromUtf8Lossy, hdecode]
      rfl
  | none =>
      -- The bytes could have begun a character, so that all of them are replaced at once.
      have hall : front = [] := by
        unfold errorLength at hopen
        split_ifs at hopen with hcompletable
        have hthree := length_of_completable hnone hcompletable
        rw [List.length_append, htake] at hthree
        have hcut : ∀ count, length + front.length = count →
            completable (bytes.take count) = true := by
          rintro count rfl
          rw [hbytes, List.take_left' (by rw [List.length_append, htake])]
          exact hcompletable
        have hlength : brokenLength bytes = length := by
          unfold errorLength at herror
          split_ifs at herror
          exact Option.some.inj herror
        unfold brokenLength at hlength
        apply List.length_eq_zero_iff.mp
        split_ifs at hlength with hat3 hat2
        · omega
        · have h3 : length + front.length ≠ 3 := fun heq => hat3 (hcut 3 heq)
          omega
        · have h3 : length + front.length ≠ 3 := fun heq => hat3 (hcut 3 heq)
          have h2 : length + front.length ≠ 2 := fun heq => hat2 (hcut 2 heq)
          omega
      subst hall
      rw [fromUtf8Lossy, decodeLossy_open hnone hopen]
      dsimp only
      rw [if_neg hfront]
      rfl

/-- The bytes that are left over have begun a character, if there are any; the text is that of the
bytes before them. -/
theorem decodeLossy_split (bytes : List UInt8) :
    ∃ front, bytes = front ++ (decodeLossy bytes).2 ∧
      (decodeLossy bytes).1 = fromUtf8Lossy front ∧
      ((decodeLossy bytes).2 = [] ∨
        firstChar (decodeLossy bytes).2 = none ∧ completable (decodeLossy bytes).2 = true) := by
  induction hlength : bytes.length using Nat.strongRecOn generalizing bytes with
  | _ size ih =>
      rcases lossy_cases bytes with ⟨c, rest, rfl⟩ | ⟨hfirst, hne, length, herror⟩ |
        ⟨hfirst, hopen⟩
      · have hpositive := utf8EncodeChar_length_pos c
        rw [List.length_append] at hlength
        obtain ⟨front, hfront, hdecoded, hrest⟩ := ih rest.length (by omega) rest rfl
        rw [decodeLossy_char]
        refine ⟨String.utf8EncodeChar c ++ front, ?_, ?_, hrest⟩
        · rw [List.append_assoc, ← hfront]
        · rw [fromUtf8Lossy, decodeLossy_char, hdecoded]
          rfl
      · obtain ⟨hpositive, hbound⟩ := errorLength_bounds hne herror
        have hdecode := decodeLossy_broken hfirst hne herror []
        rw [List.append_nil, List.append_nil] at hdecode
        obtain ⟨front, hfront, hdecoded, hrest⟩ := ih (bytes.drop length).length (by
          rw [List.length_drop]
          omega) (bytes.drop length) rfl
        rw [hdecode]
        refine ⟨bytes.take length ++ front, ?_, ?_, hrest⟩
        · rw [List.append_assoc, ← hfront, List.take_append_drop]
        · rw [fromUtf8Lossy_broken hfirst hne herror hfront, hdecoded]
      · rcases hopen with rfl | hopen
        · exact ⟨[], rfl, rfl, .inl rfl⟩
        · rw [decodeLossy_open hfirst hopen]
          refine ⟨[], rfl, rfl, .inr ⟨hfirst, ?_⟩⟩
          unfold errorLength at hopen
          split_ifs at hopen with hcompletable
          exact hcompletable

/-- A text in front of bytes that start with no character is the longest one there. -/
theorem prefix_of_textBytes {text other : List Char} {rest more : List UInt8}
    (hrest : firstChar rest = none) (h : textBytes text ++ rest = textBytes other ++ more) :
    other <+: text := by
  rcases List.append_eq_append_iff.mp h with ⟨later, hother, hlater⟩ | ⟨later, htext, _⟩
  · obtain ⟨tail, rfl, rfl⟩ := textBytes_prefix text other later hother
    cases tail with
    | nil =>
        rewrite [List.append_nil]
        exact List.prefix_refl text
    | cons c tail =>
        rw [hlater, textBytes_cons, List.append_assoc, firstChar_encoded] at hrest
        cases hrest
  · obtain ⟨tail, rfl, _⟩ := textBytes_prefix other text later htext
    exact List.prefix_append other tail

example : fromUtf8Lossy [0x61, 0xE4, 0xBD, 0x41, 0xFF, 0xF0, 0x90, 0x80] =
    ['a', '\uFFFD', 'A', '\uFFFD', '\uFFFD'] := by decide

end VvAgent.Lib
