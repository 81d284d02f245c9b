import Mathlib.Data.List.TakeWhile
import VvAgent.Workspace.FileTools
import VvAgent.Workspace.Local

/-!
Artifacts: texts kept below `.vv-agent/artifacts/`, written once and named by the task, the tool
call and a suffix. A replayable artifact has the digest of its text as suffix, so that writing
it again finds it in place; a captured one has a fresh id. The names of the task and the call
are made from ids of any length and alphabet, and cut at 64 characters.
-/

namespace VvAgent
open Lib Lib.Outcome

/-- Digests are written as 64 hexadecimal digits. -/
class HexDigest extends ContentDigest where
  isSha256_contentHash : ∀ raw, isSha256 (contentHash raw) = true

/-- The operations of a backend that artifacts go through. A file that is written in pieces is
given by the list of its pieces, each of them read from somewhere else. -/
structure ArtifactBackend (World : Type) where
  readBytes : World → String → IoResult ByteArray
  writeTextExclusive : World → String → String → IoResult (Nat × World)
  writeTextChunksExclusive : World → String → List (IoResult String) → IoResult (Nat × World)

/-- What was written can be read again. -/
structure LawfulArtifacts {World : Type} (backend : ArtifactBackend World) : Prop where
  text : ∀ {world path content written world'},
    backend.writeTextExclusive world path content = .ok (written, world') →
    backend.readBytes world' path = .ok content.toUTF8
  chunks : ∀ {world path pieces written world'},
    backend.writeTextChunksExclusive world path pieces = .ok (written, world') →
    ∃ texts : List String, pieces = texts.map .ok ∧
      backend.readBytes world' path = .ok (String.join texts).toUTF8

def isSegmentCharacter (c : Char) : Bool :=
  isAsciiAlphanumeric c || c == '.' || c == '_' || c == '-'

/-- One more character of an id. Nothing is added to a segment of 64 characters. -/
def pushCharacter (segment : List Char) (c : Char) : List Char :=
  if 64 ≤ segment.length then segment
  else if isSegmentCharacter c then segment ++ [c]
  else if segment.getLast? = some '-' then segment
  else segment ++ ['-']

def artifactSegment (value fallback : String) : String :=
  let segment := (value.toList.foldl pushCharacter []).dropWhile (!isAsciiAlphanumeric ·)
  if segment = [] then fallback else .ofList segment

def artifactPath (taskId toolCallId suffix : String) : String :=
  artifactPathStart ++ artifactSegment taskId "task" ++ "/" ++ artifactSegment toolCallId "call" ++
    "-" ++ suffix ++ ".txt"

def textArtifact (path : String) (sizeBytes : Nat) (sha256 : String) : ToolArtifactRef where
  path := path
  mediaType := "text/plain"
  encoding := "utf-8"
  sizeBytes := sizeBytes
  sha256 := sha256

section
variable {World : Type} [HexDigest] (backend : ArtifactBackend World)

def persistReplayableTextArtifact (world : World) (taskId toolCallId content : String) :
    IoResult (ToolArtifactRef × World) := do
  let sha256 := contentHash content.toUTF8
  let path := artifactPath taskId toolCallId sha256
  let (written, after) ← (match backend.writeTextExclusive world path content with
    | .error error =>
        if error.kind = .alreadyExists then do
          let existing ← backend.readBytes world path
          refuse (existing.data != content.toUTF8.data)
            ⟨.invalidData, "existing artifact differs from selected text"⟩
          return (content.utf8ByteSize, world)
        else .error error
    | result => result)
  refuse (written != content.utf8ByteSize)
    ⟨.writeZero, "artifact write reported " ++ toString written ++ " of " ++
      toString content.utf8ByteSize ++ " bytes"⟩
  return (textArtifact path content.utf8ByteSize sha256, after)

def readValidatedTextArtifact (world : World) (artifact : ToolArtifactRef) : IoResult String := do
  match artifact.validate with
  | .error error => .error ⟨.invalidInput, error⟩
  | .ok _ => do
      let bytes ← backend.readBytes world artifact.path
      refuse (bytes.size != artifact.sizeBytes)
        ⟨.invalidData, "artifact size_bytes does not match stored bytes"⟩
      refuse (contentHash bytes != artifact.sha256)
        ⟨.invalidData, "artifact sha256 does not match stored bytes"⟩
      require (String.fromUTF8? bytes) ⟨.invalidData, "invalid utf-8 sequence"⟩

end

/-! ### Names made from ids -/

theorem pushCharacter_characters (segment : List Char) (c : Char)
    (h : ∀ d ∈ segment, isSegmentCharacter d = true) :
    ∀ d ∈ pushCharacter segment c, isSegmentCharacter d = true := by
  intro d hd
  unfold pushCharacter at hd
  split_ifs at hd with hfull hkept hdash
  · exact h d hd
  · rcases List.mem_append.mp hd with hd | hd
    · exact h d hd
    · rwa [List.mem_singleton.mp hd]
  · exact h d hd
  · rcases List.mem_append.mp hd with hd | hd
    · exact h d hd
    · rw [List.mem_singleton.mp hd]
      rfl

theorem length_pushCharacter (segment : List Char) (c : Char) (h : segment.length ≤ 64) :
    (pushCharacter segment c).length ≤ 64 := by
  unfold pushCharacter
  split_ifs with hfull hkept hdash
  · exact h
  · rw [List.length_append, List.length_singleton]
    omega
  · exact h
  · rw [List.length_append, List.length_singleton]
    omega

theorem foldl_pushCharacter (value segment : List Char) (hlength : segment.length ≤ 64)
    (hcharacters : ∀ d ∈ segment, isSegmentCharacter d = true) :
    (value.foldl pushCharacter segment).length ≤ 64 ∧
      ∀ d ∈ value.foldl pushCharacter segment, isSegmentCharacter d = true := by
  induction value generalizing segment with
  | nil => exact ⟨hlength, hcharacters⟩
  | cons c value ih =>
      exact ih _ (length_pushCharacter segment c hlength)
        (pushCharacter_characters segment c hcharacters)

/-- A text that can stand at the front of a segment of an artifact path. -/
structure SegmentFront (text : List Char) : Prop where
  head : text.head?.any isAsciiAlphanumeric = true
  characters : ∀ c ∈ text, isSegmentCharacter c = true

theorem artifactSegment_spec (value fallback : String) (hlength : fallback.toList.length ≤ 64)
    (hfallback : SegmentFront fallback.toList) :
    (artifactSegment value fallback).toList.length ≤ 64 ∧
      SegmentFront (artifactSegment value fallback).toList := by
  obtain ⟨hshort, hcharacters⟩ := foldl_pushCharacter value.toList [] (by simp) (by simp)
  unfold artifactSegment
  by_cases hnil : (value.toList.foldl pushCharacter []).dropWhile (!isAsciiAlphanumeric ·) = []
  · simp only [hnil, if_true]
    exact ⟨hlength, hfallback⟩
  · simp only [hnil, if_false, String.toList_ofList]
    have hsuffix := List.dropWhile_suffix (fun c => !isAsciiAlphanumeric c)
      (l := value.toList.foldl pushCharacter [])
    refine ⟨hsuffix.length_le.trans hshort, ?_, fun c hc => hcharacters c (hsuffix.subset hc)⟩
    have hhead := List.head?_dropWhile_not (fun c => !isAsciiAlphanumeric c)
      (value.toList.foldl pushCharacter [])
    cases hfirst : ((value.toList.foldl pushCharacter []).dropWhile
        (!isAsciiAlphanumeric ·)).head? with
    | none => exact absurd (List.head?_eq_none_iff.mp hfirst) hnil
    | some c => simpa [hfirst] using hhead

theorem isSegmentCharacter_of_isAsciiAlphanumeric {c : Char} (h : isAsciiAlphanumeric c = true) :
    isSegmentCharacter c = true := by
  simp [isSegmentCharacter, h]

theorem isSegmentCharacter_code {c : Char} (h : isSegmentCharacter c = true) :
    45 ≤ c.toNat ∧ c.toNat ≤ 122 ∧ c.toNat ≠ 47 ∧ c.toNat ≠ 92 := by
  have hbelow : ∀ d : Char, d ≤ c ↔ d.toNat ≤ c.toNat := fun d => UInt32.le_iff_toNat_le
  have habove : ∀ d : Char, c ≤ d ↔ c.toNat ≤ d.toNat := fun d => UInt32.le_iff_toNat_le
  simp only [isSegmentCharacter, isAsciiAlphanumeric, Bool.or_eq_true, Bool.and_eq_true,
    decide_eq_true_eq, beq_iff_eq, hbelow, habove, Char.reduceToNat] at h
  rcases h with ((h | rfl) | rfl) | rfl
  · omega
  all_goals decide

/-- The characters of a segment take one byte each. -/
theorem length_textBytes_segment (text : List Char)
    (h : ∀ c ∈ text, isSegmentCharacter c = true ∨ c = '/') :
    (textBytes text).length = text.length := by
  apply length_textBytes_ascii
  intro byte hbyte
  obtain ⟨c, hc, hmem⟩ := List.mem_flatMap.mp hbyte
  have hcode : c.toNat < 128 := by
    rcases h c hc with hsegment | rfl
    · exact Nat.lt_of_le_of_lt (isSegmentCharacter_code hsegment).2.1 (by omega)
    · decide
  rw [String.utf8EncodeChar_eq_singleton (Char.utf8Size_eq_one_iff.mpr
    (UInt32.le_iff_toNat_le.mpr (Nat.le_of_lt_succ hcode)))] at hmem
  rw [List.mem_singleton.mp hmem]
  exact Nat.lt_of_le_of_lt (Nat.mod_le _ _) hcode

theorem isSha256_spec {digest : String} (h : isSha256 digest = true) :
    digest.toList.length = 64 ∧ ∀ c ∈ digest.toList, isAsciiAlphanumeric c = true := by
  simp only [isSha256, Bool.and_eq_true, beq_iff_eq, utf8ByteSize_eq_textBytes,
    toByteArray_eq_textBytes, List.all_eq_true] at h
  obtain ⟨hsize, hdigits⟩ := h
  have hhex : ∀ byte ∈ textBytes digest.toList,
      48 ≤ byte.toNat ∧ byte.toNat ≤ 57 ∨ 97 ≤ byte.toNat ∧ byte.toNat ≤ 102 := by
    intro byte hbyte
    have hdigit := hdigits byte hbyte
    simp only [isLowerHex, Bool.or_eq_true, Bool.and_eq_true, decide_eq_true_eq,
      UInt8.le_iff_toNat_le, UInt8.reduceToNat] at hdigit
    exact hdigit
  constructor
  · rw [← length_textBytes_ascii digest.toList fun byte hbyte => by
      have := hhex byte hbyte
      omega]
    exact hsize
  · intro c hc
    obtain ⟨byte, rest, hbytes⟩ :=
      List.exists_cons_of_ne_nil (String.utf8EncodeChar_ne_nil (c := c))
    have hmem : byte ∈ String.utf8EncodeChar c := by simp [hbytes]
    have hrange := hhex byte (List.mem_flatMap.mpr ⟨c, hc, hmem⟩)
    have hcode := mem_utf8EncodeChar_ascii (by omega) hmem
    have hbelow : ∀ d : Char, d ≤ c ↔ d.toNat ≤ c.toNat := fun d => UInt32.le_iff_toNat_le
    have habove : ∀ d : Char, c ≤ d ↔ c.toNat ≤ d.toNat := fun d => UInt32.le_iff_toNat_le
    simp only [isAsciiAlphanumeric, Bool.or_eq_true, Bool.and_eq_true, decide_eq_true_eq, hbelow,
      habove, Char.reduceToNat]
    omega

/-! ### Paths made from names -/

/-- A path of two segments below the artifact root. -/
structure ArtifactSpelling (path : String) (task file : List Char) : Prop where
  spelled : path.toList = artifactPathStart.toList ++ task ++ '/' :: file
  task : SegmentFront task
  file : SegmentFront file

namespace ArtifactSpelling
variable {path : String} {task file : List Char}

theorem characters (h : ArtifactSpelling path task file) :
    ∀ c ∈ path.toList, isSegmentCharacter c = true ∨ c = '/' := by
  intro c hc
  have hstart : ∀ d ∈ artifactPathStart.toList,
      (isSegmentCharacter d || d == '/') = true :=
    List.all_eq_true.mp (by decide)
  simp only [Bool.or_eq_true, beq_iff_eq] at hstart
  rw [h.spelled, List.append_assoc, List.mem_append, List.mem_append, List.mem_cons] at hc
  rcases hc with hc | hc | hc | hc
  · exact hstart c hc
  · exact .inl (h.task.characters c hc)
  · exact .inr hc
  · exact .inl (h.file.characters c hc)

theorem absent (h : ArtifactSpelling path task file) :
    path.toList.contains '\\' = false ∧ path.toList.contains '\x00' = false := by
  have habsent : ∀ c ∈ path.toList, c ≠ '\\' ∧ c ≠ '\x00' := by
    intro c hc
    rcases h.characters c hc with hsegment | rfl
    · have hcode := isSegmentCharacter_code hsegment
      constructor
      · rintro rfl
        exact absurd hcode (by decide)
      · rintro rfl
        exact absurd hcode (by decide)
    · decide
  constructor
  · simpa using fun hmem => (habsent _ hmem).1 rfl
  · simpa using fun hmem => (habsent _ hmem).2 rfl

end ArtifactSpelling

theorem SegmentFront.noSlash {text : List Char} (h : SegmentFront text) : '/' ∉ text := by
  intro hmem
  exact absurd (isSegmentCharacter_code (h.characters _ hmem)) (by decide)

theorem SegmentFront.named {text : List Char} (h : SegmentFront text) :
    ¬(text = [] ∨ text = ['.'] ∨ text = ['.', '.']) := by
  have hhead := h.head
  rintro (rfl | rfl | rfl) <;> exact absurd hhead (by decide)

/-- The path is valid exactly if its last segment is short enough. -/
theorem ArtifactSpelling.valid_iff {path : String} {task file : List Char}
    (h : ArtifactSpelling path task file) (hlength : task.length ≤ 64 ∧ file.length ≤ 256) :
    validArtifactPath path = true ↔ file.length ≤ 128 := by
  have hstartLength : artifactPathStart.toList.length = 20 := by decide
  have hsize : path.utf8ByteSize ≤ 512 := by
    rw [utf8ByteSize_eq_textBytes, length_textBytes_segment _ h.characters, h.spelled]
    simp only [List.length_append, List.length_cons, hstartLength]
    omega
  have hsplit : (path.toList.drop artifactPathStart.length).splitOn '/' = [task, file] := by
    have hdrop : path.toList.drop artifactPathStart.length =
        List.intercalate ['/'] [task, file] := by
      rw [h.spelled, List.append_assoc, ← String.length_toList, List.drop_left]
      simp
    rw [hdrop]
    apply List.splitOn_intercalate
    · intro text htext
      simp only [List.mem_cons, List.not_mem_nil, or_false] at htext
      rcases htext with rfl | rfl
      · exact h.task.noSlash
      · exact h.file.noSlash
    · simp
  have hlead : artifactPathStart.toList.isPrefixOf path.toList = true := by
    rw [h.spelled, List.append_assoc, List.isPrefixOf_iff_prefix]
    exact List.prefix_append _ _
  have hall : ∀ text : List Char, SegmentFront text →
      (text.all fun c => isAsciiAlphanumeric c || c == '.' || c == '_' || c == '-') = true :=
    fun text htext => List.all_eq_true.mpr htext.characters
  have htaskLength : task.length ≤ 128 := by omega
  simp only [validArtifactPath, hsize, hlead, h.absent.1, h.absent.2, hsplit, List.all_cons,
    List.all_nil, validArtifactSegment, h.task.head, h.file.head, hall task h.task,
    hall file h.file, htaskLength, decide_true, Bool.not_false, Bool.and_true, Bool.true_and,
    decide_eq_true_eq]

/-- The last segment of an artifact path. -/
def artifactFile (toolCallId suffix : String) : List Char :=
  (artifactSegment toolCallId "call").toList ++ '-' :: suffix.toList ++ ".txt".toList

theorem artifactPath_spelling (taskId toolCallId suffix : String)
    (hsuffix : ∀ c ∈ suffix.toList, isAsciiAlphanumeric c = true) :
    ArtifactSpelling (artifactPath taskId toolCallId suffix)
      (artifactSegment taskId "task").toList (artifactFile toolCallId suffix) := by
  obtain ⟨_, htask⟩ := artifactSegment_spec taskId "task" (by decide)
    ⟨by decide, List.all_eq_true.mp (by decide)⟩
  obtain ⟨_, hcall⟩ := artifactSegment_spec toolCallId "call" (by decide)
    ⟨by decide, List.all_eq_true.mp (by decide)⟩
  refine ⟨by simp [artifactPath, artifactFile], htask, ?_, ?_⟩
  · have hhead := hcall.head
    cases hsegment : (artifactSegment toolCallId "call").toList with
    | nil =>
        rw [hsegment] at hhead
        exact absurd hhead (by decide)
    | cons c rest =>
        rw [hsegment] at hhead
        simpa [artifactFile, hsegment] using hhead
  · have hextension : ∀ c ∈ ".txt".toList, isSegmentCharacter c = true :=
      List.all_eq_true.mp (by decide)
    intro c hc
    rw [artifactFile, List.append_assoc, List.mem_append, List.cons_append, List.mem_cons,
      List.mem_append] at hc
    rcases hc with hc | rfl | hc | hc
    · exact hcall.characters c hc
    · decide
    · exact isSegmentCharacter_of_isAsciiAlphanumeric (hsuffix c hc)
    · exact hextension c hc

/-- The segment of the call and a suffix of letters and digits have to fit into 128
characters, with the five that are put around them. -/
theorem validArtifactPath_artifactPath (taskId toolCallId suffix : String)
    (hsuffix : ∀ c ∈ suffix.toList, isAsciiAlphanumeric c = true)
    (hlength : suffix.toList.length ≤ 64) :
    validArtifactPath (artifactPath taskId toolCallId suffix) = true ↔
      (artifactSegment toolCallId "call").toList.length + suffix.toList.length ≤ 123 := by
  obtain ⟨htaskLength, _⟩ := artifactSegment_spec taskId "task" (by decide)
    ⟨by decide, List.all_eq_true.mp (by decide)⟩
  obtain ⟨hcallLength, _⟩ := artifactSegment_spec toolCallId "call" (by decide)
    ⟨by decide, List.all_eq_true.mp (by decide)⟩
  have hextensionLength : ".txt".toList.length = 4 := by decide
  have hfileLength : (artifactFile toolCallId suffix).length =
      (artifactSegment toolCallId "call").toList.length + suffix.toList.length + 5 := by
    simp only [artifactFile, List.length_append, List.length_cons, hextensionLength]
    omega
  rw [(artifactPath_spelling taskId toolCallId suffix hsuffix).valid_iff
    ⟨htaskLength, by omega⟩]
  omega

theorem validate_textArtifact [HexDigest] (path : String) (sizeBytes : Nat) (raw : ByteArray) :
    (textArtifact path sizeBytes (contentHash raw)).validate = .ok () ↔
      validArtifactPath path = true := by
  simp [ToolArtifactRef.validate, textArtifact, HexDigest.isSha256_contentHash, unit_guard_bind]

/-! ### Writing an artifact and reading it again -/

section
variable {World : Type} [HexDigest] {backend : ArtifactBackend World}

/-- An artifact of a text that is in place is read whenever its path is valid. -/
theorem readValidatedTextArtifact_eq_ok {world : World} {path content : String}
    (hplace : backend.readBytes world path = .ok content.toUTF8) :
    readValidatedTextArtifact backend world
        (textArtifact path content.utf8ByteSize (contentHash content.toUTF8)) = .ok content ↔
      validArtifactPath path = true := by
  have hvalid := validate_textArtifact path content.utf8ByteSize content.toUTF8
  unfold readValidatedTextArtifact
  cases hcheck : (textArtifact path content.utf8ByteSize (contentHash content.toUTF8)).validate with
  | error error =>
      have hbad : ¬ validArtifactPath path = true := by
        rw [← hvalid, hcheck]
        simp
      simp [hbad]
  | ok u =>
      have hgood : validArtifactPath path = true := hvalid.mp hcheck
      have hdecode : String.fromUTF8? content.toByteArray = some content := by
        simp [String.fromUTF8?, String.fromUTF8, content.isValidUTF8]
      simp [hgood, hplace, hdecode, textArtifact]

theorem persistReplayableTextArtifact_eq_ok (hlawful : LawfulArtifacts backend) {world world' : World}
    {taskId toolCallId content : String} {artifact : ToolArtifactRef}
    (h : persistReplayableTextArtifact backend world taskId toolCallId content =
      .ok (artifact, world')) :
    artifact = textArtifact (artifactPath taskId toolCallId (contentHash content.toUTF8))
        content.utf8ByteSize (contentHash content.toUTF8) ∧
      backend.readBytes world' (artifactPath taskId toolCallId (contentHash content.toUTF8)) =
        .ok content.toUTF8 := by
  simp only [persistReplayableTextArtifact, bind_eq_ok, refuse_eq_ok, exists_const, pure_ok,
    Except.ok.injEq, Prod.mk.injEq, Prod.exists] at h
  obtain ⟨written, after, hwrite, _, rfl, rfl⟩ := h
  refine ⟨rfl, ?_⟩
  cases hresult : backend.writeTextExclusive world
      (artifactPath taskId toolCallId (contentHash content.toUTF8)) content with
  | ok place =>
      rw [hresult] at hwrite
      cases hwrite
      exact hlawful.text hresult
  | error error =>
      rw [hresult] at hwrite
      by_cases hexists : error.kind = .alreadyExists
      · simp only [hexists, if_true, bind_eq_ok, refuse_eq_ok, exists_const,
          Except.ok.injEq, Prod.mk.injEq] at hwrite
        obtain ⟨existing, hread, hsame, _, rfl⟩ := hwrite
        have hequal : existing = content.toUTF8 := by
          rw [bne_eq_false_iff_eq] at hsame
          exact ByteArray.ext hsame
        rw [hread, hequal]
      · simp [hexists] at hwrite

/-- The reference to a text that is in place under its digest is valid, and leads back to the
text, exactly if the name made from the id of the call has at most 59 characters. -/
theorem replayable_iff {world : World} {taskId toolCallId content : String}
    (hplace : backend.readBytes world
      (artifactPath taskId toolCallId (contentHash content.toUTF8)) = .ok content.toUTF8) :
    ((textArtifact (artifactPath taskId toolCallId (contentHash content.toUTF8))
        content.utf8ByteSize (contentHash content.toUTF8)).validate = .ok () ↔
          (artifactSegment toolCallId "call").toList.length ≤ 59) ∧
      (readValidatedTextArtifact backend world
          (textArtifact (artifactPath taskId toolCallId (contentHash content.toUTF8))
            content.utf8ByteSize (contentHash content.toUTF8)) = .ok content ↔
        (artifactSegment toolCallId "call").toList.length ≤ 59) := by
  obtain ⟨hlength, hdigits⟩ := isSha256_spec (HexDigest.isSha256_contentHash content.toUTF8)
  have hpath := validArtifactPath_artifactPath taskId toolCallId (contentHash content.toUTF8)
    hdigits hlength.le
  rw [hlength] at hpath
  have hshort : (artifactSegment toolCallId "call").toList.length + 64 ≤ 123 ↔
      (artifactSegment toolCallId "call").toList.length ≤ 59 := by omega
  rw [readValidatedTextArtifact_eq_ok hplace, validate_textArtifact, hpath, hshort]
  exact ⟨Iff.rfl, Iff.rfl⟩

end

/-! ### The in-memory backend -/

/-- An exclusive path is its own normal form. -/
theorem exclusiveWorkspacePath_eq_ok {path key : String}
    (h : exclusiveWorkspacePath path = .ok key) : normalizeWorkspacePath path = key := by
  simp only [exclusiveWorkspacePath, unit_guard_bind, refuse_eq_ok, pure_ok, Except.ok.injEq,
    Bool.or_eq_false_iff] at h
  obtain ⟨⟨⟨_, hbackslash⟩, _⟩, hsegments, rfl⟩ := h
  have hpushed : ∀ (front segments : List (List Char)),
      (∀ segment ∈ segments, ¬(segment = [] ∨ segment = ['.'] ∨ segment = ['.', '.'])) →
      segments.foldl pushSegment front = front ++ segments := by
    intro front segments
    induction segments generalizing front with
    | nil => simp
    | cons segment segments ih =>
        intro hall
        have hfirst := hall segment (by simp)
        have hpush : pushSegment front segment = front ++ [segment] := by
          unfold pushSegment
          rw [if_neg (by tauto), if_neg (by tauto)]
        rw [List.foldl_cons, hpush, ih _ fun other hother => hall other (by simp [hother])]
        simp
  rw [normalizeWorkspacePath, pathSegments, replaced_eq_self (by simpa using hbackslash),
    hpushed [] _ (by simpa using hsegments), List.nil_append]

namespace MemoryWorkspace

/-- All pieces are read before anything is written. -/
def writeTextChunksExclusive (workspace : MemoryWorkspace) (path : String)
    (pieces : List (IoResult String)) : IoResult (Nat × MemoryWorkspace) := do
  let key ← exclusiveWorkspacePath path
  let texts ← pieces.mapM id
  let data := (String.join texts).toUTF8
  refuse ((workspace.files[key]?).isSome || workspace.dirs.contains key)
    ⟨.alreadyExists, "path already exists: " ++ path⟩
  match (parentDirs key).tail.find? fun parent => (workspace.files[parent]?).isSome with
  | some parent =>
      .error ⟨.notADirectory, "exclusive path parent is not a directory: " ++ parent⟩
  | none =>
      let written := { workspace with files := workspace.files.insert key data }
      return (data.size, written.insertParentDirs key)

def artifactBackend : ArtifactBackend MemoryWorkspace where
  readBytes := readBytes
  writeTextExclusive := fun workspace path content =>
    workspace.writeTextChunksExclusive path [.ok content]
  writeTextChunksExclusive := writeTextChunksExclusive

theorem mapM_id_eq_ok {pieces : List (IoResult String)} {texts : List String}
    (h : pieces.mapM id = .ok texts) : pieces = texts.map .ok := by
  induction pieces generalizing texts with
  | nil =>
      cases h
      rfl
  | cons piece pieces ih =>
      simp only [List.mapM_cons, bind_eq_ok, pure_ok, Except.ok.injEq, id_eq] at h
      obtain ⟨text, rfl, rest, hrest, rfl⟩ := h
      rw [ih hrest, List.map_cons]

theorem writeTextChunksExclusive_eq_ok {workspace after : MemoryWorkspace} {path : String}
    {pieces : List (IoResult String)} {written : Nat}
    (h : workspace.writeTextChunksExclusive path pieces = .ok (written, after)) :
    ∃ texts : List String, pieces = texts.map .ok ∧
      after.readBytes path = .ok (String.join texts).toUTF8 := by
  simp only [writeTextChunksExclusive, bind_eq_ok, refuse_eq_ok, exists_const] at h
  obtain ⟨key, hkey, texts, htexts, _, hwrite⟩ := h
  refine ⟨texts, mapM_id_eq_ok htexts, ?_⟩
  cases hparent : (parentDirs key).tail.find? fun parent => (workspace.files[parent]?).isSome with
  | some parent =>
      rw [hparent] at hwrite
      cases hwrite
  | none =>
      simp only [hparent, pure_ok, Except.ok.injEq, Prod.mk.injEq] at hwrite
      obtain ⟨_, rfl⟩ := hwrite
      simp only [readBytes, exclusiveWorkspacePath_eq_ok hkey, insertParentDirs, Table.get_insert,
        if_true, require_some]

theorem artifactBackend_lawful : LawfulArtifacts artifactBackend where
  text := by
    intro world path content written world' h
    obtain ⟨texts, htexts, hread⟩ := writeTextChunksExclusive_eq_ok h
    have hone : texts = [content] := by
      cases texts with
      | nil => simp at htexts
      | cons text rest => simpa [eq_comm] using htexts
    subst hone
    change world'.readBytes path = _
    simpa [String.join] using hread
  chunks := by
    intro world path pieces written world' h
    exact writeTextChunksExclusive_eq_ok h

/-- An artifact path is an exclusive path. -/
theorem exclusiveWorkspacePath_artifactPath (taskId toolCallId suffix : String)
    (hsuffix : ∀ c ∈ suffix.toList, isAsciiAlphanumeric c = true) :
    exclusiveWorkspacePath (artifactPath taskId toolCallId suffix) =
      .ok (artifactPath taskId toolCallId suffix) := by
  have hspelling := artifactPath_spelling taskId toolCallId suffix hsuffix
  have hjoined : (artifactPath taskId toolCallId suffix).toList = List.intercalate ['/']
      [".vv-agent".toList, "artifacts".toList, (artifactSegment taskId "task").toList,
        artifactFile toolCallId suffix] := by
    rw [hspelling.spelled]
    simp [artifactPathStart]
  have hsplit : (artifactPath taskId toolCallId suffix).toList.splitOn '/' =
      [".vv-agent".toList, "artifacts".toList, (artifactSegment taskId "task").toList,
        artifactFile toolCallId suffix] := by
    rw [hjoined]
    apply List.splitOn_intercalate
    · intro text htext
      simp only [List.mem_cons, List.not_mem_nil, or_false] at htext
      rcases htext with rfl | rfl | rfl | rfl
      · decide
      · decide
      · exact hspelling.task.noSlash
      · exact hspelling.file.noSlash
    · simp
  have hrelative : isAbsolutePath (artifactPath taskId toolCallId suffix).toList = false := by
    rw [isAbsolutePath, hspelling.spelled]
    rfl
  have hnamed : (((artifactPath taskId toolCallId suffix).toList.splitOn '/').any
      fun segment => segment = [] ∨ segment = ['.'] ∨ segment = ['.', '.']) = false := by
    rw [hsplit, List.any_eq_false]
    intro text htext
    simp only [List.mem_cons, List.not_mem_nil, or_false] at htext
    rcases htext with rfl | rfl | rfl | rfl
    · decide
    · decide
    · simpa using hspelling.task.named
    · simpa using hspelling.file.named
  have hnul : (artifactPath taskId toolCallId suffix).toList.contains (Char.ofNat 0) = false :=
    hspelling.absent.2
  simp only [exclusiveWorkspacePath, hrelative, hspelling.absent.1, hnul, hnamed, Bool.or_self,
    refuse_false, ok_bind, pure_ok]
  rw [hsplit, ← hjoined, String.ofList_toList]

/-- An artifact can always be written to an empty workspace. -/
theorem persistReplayableTextArtifact_empty [HexDigest] (taskId toolCallId content : String) :
    ∃ world, persistReplayableTextArtifact artifactBackend {} taskId toolCallId content =
      .ok (textArtifact (artifactPath taskId toolCallId (contentHash content.toUTF8))
        content.utf8ByteSize (contentHash content.toUTF8), world) := by
  obtain ⟨_, hdigits⟩ := isSha256_spec (HexDigest.isSha256_contentHash content.toUTF8)
  have hkey := exclusiveWorkspacePath_artifactPath taskId toolCallId _ hdigits
  have hspelling := artifactPath_spelling taskId toolCallId _ hdigits
  have hnotRoot : artifactPath taskId toolCallId (contentHash content.toUTF8) ≠ "" := by
    intro hempty
    have hlist := hspelling.spelled
    rw [hempty] at hlist
    exact absurd hlist (by simp)
  have hwrite : ∃ world, writeTextChunksExclusive {}
      (artifactPath taskId toolCallId (contentHash content.toUTF8)) [.ok content] =
        .ok (content.utf8ByteSize, world) := by
    have hmapM : [(.ok content : IoResult String)].mapM id = .ok [content] := rfl
    have habsent : ∀ parent : String, ({} : MemoryWorkspace).files[parent]? = none := by simp
    have hparents : ∀ parents : List String, parents.find? (fun _ => false) = none := by simp
    have hdirs : ({} : MemoryWorkspace).dirs.contains
        (artifactPath taskId toolCallId (contentHash content.toUTF8)) = false := by
      simpa using hnotRoot
    have hsize : (String.join [content]).toUTF8.size = content.utf8ByteSize := by
      simp [String.join]
    simp only [writeTextChunksExclusive, hkey, ok_bind, hmapM, hparents, habsent, hdirs, hsize,
      Option.isSome_none, Bool.or_self, refuse_false, pure_ok, Except.ok.injEq, Prod.mk.injEq,
      true_and, exists_eq']
  obtain ⟨world, hwrite⟩ := hwrite
  refine ⟨world, ?_⟩
  have hresult : artifactBackend.writeTextExclusive {}
      (artifactPath taskId toolCallId (contentHash content.toUTF8)) content =
        .ok (content.utf8ByteSize, world) := hwrite
  simp only [persistReplayableTextArtifact, hresult, ok_bind, bne_self_eq_false, refuse_false,
    pure_ok]

end MemoryWorkspace


end VvAgent
