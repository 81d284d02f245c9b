import VvAgent.Workspace.FileTools
import VvAgent.Lib.Run
import VvAgent.Sample

/-!
What the baselines are worth. Next to the context of the tools we follow, as a reader of the
transcript would, which contents the agent has seen or made as a whole under a path, and which
bytes it has last read or written there. The baseline of a path is the digest of the latter; it
says "whole" only of contents the agent knows, unless a part of a file was edited.
-/

namespace VvAgent
open Lib Lib.Outcome

/-- A call of one of the tools, or a change of the files by somebody else. -/
inductive FileStep (World : Type) where
  | readFile (arguments : JsonObject)
  | writeFile (arguments : JsonObject)
  | editFile (arguments : JsonObject)
  | outside (world : World)

/-- The context of the tools and what has been observed of their use. -/
structure FileSession (World : Type) where
  context : ToolContext World
  /-- The contents the agent has fully seen, or fully determined, with their paths. -/
  known : List (String × ByteArray) := []
  /-- The bytes last read or written through the tools, with their paths, the latest first. -/
  touched : List (String × ByteArray) := []

namespace FileSession
variable {World : Type}

/-- Bytes have been read or written, and with them a content has become known. -/
def note (session : FileSession World) (path : String) (raw : ByteArray)
    (learned : Option ByteArray) : FileSession World :=
  { session with
    known := learned.toList.map (path, ·) ++ session.known
    touched := (path, raw) :: session.touched }

def knows (session : FileSession World) (path : String) (raw : ByteArray) : Bool :=
  session.known.any fun entry => entry.1 == path && entry.2.data == raw.data

theorem knows_iff (session : FileSession World) (path : String) (raw : ByteArray) :
    session.knows path raw = true ↔ (path, raw) ∈ session.known := by
  simp only [knows, List.any_eq_true, Bool.and_eq_true, beq_iff_eq]
  constructor
  · rintro ⟨⟨other, bytes⟩, hmem, hpath, hbytes⟩
    have hsame : bytes = raw := ByteArray.ext hbytes
    rw [← hpath, ← hsame]
    exact hmem
  · intro hmem
    exact ⟨(path, raw), hmem, rfl, rfl⟩

/-- A page that is the whole file is seen as a whole. -/
def seen (plan : PlannedRead) : Option ByteArray := if plan.isPartial then none else some plan.raw

/-- An overwrite or a new file is made as a whole; an append makes a whole out of a whole. -/
def written (session : FileSession World) (plan : PlannedWrite) : Option ByteArray :=
  match plan.existing with
  | none => some plan.content.toUTF8
  | some raw =>
      if !plan.append then some plan.content.toUTF8
      else if session.knows plan.path raw then some (raw ++ plan.content.toUTF8)
      else none

theorem written_eq_some (session : FileSession World) {plan : PlannedWrite}
    (hknown : ∀ raw, plan.existing = some raw → plan.append = true →
      session.knows plan.path raw = true) :
    ∃ content, session.written plan = some content := by
  unfold written
  cases hexisting : plan.existing with
  | none => exact ⟨_, rfl⟩
  | some raw =>
      cases happend : plan.append with
      | false => exact ⟨plan.content.toUTF8, by simp⟩
      | true => exact ⟨raw ++ plan.content.toUTF8, by simp [hknown raw hexisting happend]⟩

/-- An edit makes a whole out of a whole. -/
def edited (session : FileSession World) (plan : PlannedEdit) : Option ByteArray :=
  if session.knows plan.path plan.raw then some plan.content.toUTF8 else none

end FileSession

section
variable [Platform] [ContentDigest] {World : Type} (backend : WorkspaceBackend World)

def FileStep.exec (step : FileStep World) (session : FileSession World) : FileSession World :=
  match step with
  | .readFile arguments =>
      let context := (ToolContext.readFile backend session.context arguments).2
      match ToolContext.planRead backend session.context arguments with
      | .ok plan => { session.note plan.path plan.raw (FileSession.seen plan) with context }
      | .error _ => { session with context }
  | .writeFile arguments =>
      let context := (ToolContext.writeFile backend session.context arguments).2
      match ToolContext.planWrite backend session.context arguments with
      | .ok plan =>
          match backend.writeText session.context.world plan.path plan.content plan.append with
          | .ok (_, world) =>
              match backend.readBytes world plan.path with
              | .ok updatedRaw =>
                  { session.note plan.path updatedRaw (session.written plan) with context }
              | .error _ => { session with context }
          | .error _ => { session with context }
      | .error _ => { session with context }
  | .editFile arguments =>
      let context := (ToolContext.editFile backend session.context arguments).2
      match ToolContext.planEdit backend session.context arguments with
      | .ok plan =>
          match backend.writeText session.context.world plan.path plan.content false with
          | .ok _ =>
              { session.note plan.path plan.content.toUTF8 (session.edited plan) with context }
          | .error _ => { session with context }
      | .error _ => { session with context }
  | .outside world => { session with context.world := world }

omit [Platform] [ContentDigest] in
theorem fileBaselines_put (sharedState : JsonObject) (path : String) (entry : Json) :
    fileBaselines (putFileBaseline sharedState path entry) =
      insertMember path entry (fileBaselines sharedState) := by
  rw [fileBaselines, putFileBaseline, lookup_insertMember, if_pos rfl]
  rfl

/-- A baseline of the given bytes. -/
structure Baseline (entry : Json) (raw : ByteArray) (isPartial : Bool) : Prop where
  fields : ∃ members, entry = .obj members ∧
    members.lookup "is_partial" = some (.bool isPartial) ∧
    members.lookup "hash" = some (.str (contentHash raw))

omit [Platform] in
theorem baselineEntry_baseline (raw : ByteArray) (size : Nat) (lineEnding : String)
    (isPartial : Bool) (source : String) :
    Baseline (baselineEntry (contentHash raw) size lineEnding isPartial source) raw isPartial :=
  ⟨_, rfl, by simp [List.lookup_cons], by simp⟩

omit [Platform] in
/-- Nothing speaks against a change: the baseline is of the same digest. -/
theorem baselineIssue_eq_none {sharedState : JsonObject} {path : String} {raw : ByteArray}
    {sources : List String} {allowPartial : Bool}
    (h : baselineIssue sharedState path raw sources allowPartial = none) :
    ∃ entry, (fileBaselines sharedState).lookup path = some entry ∧
      ∀ old isPartial, Baseline entry old isPartial →
        contentHash old = contentHash raw ∧ (allowPartial = false → isPartial = false) := by
  unfold baselineIssue at h
  cases hentry : (fileBaselines sharedState).lookup path with
  | none => simp [hentry] at h
  | some entry =>
      refine ⟨entry, rfl, ?_⟩
      rintro old isPartial ⟨members, rfl, hpartial, hhash⟩
      simp only [hentry, hpartial, hhash, Option.bind_eq_bind, Option.bind_some, Json.asObject?,
        Json.asBool?, Json.asStr?] at h
      cases hsource : (members.lookup "source").bind Json.asStr? with
      | none => simp [hsource] at h
      | some source =>
          simp only [hsource] at h
          by_cases hallowed : (!sources.contains source) = true
          · rw [if_pos hallowed] at h
            cases h
          · rw [if_neg hallowed] at h
            by_cases hrefused : (isPartial && !(allowPartial && source == readFileBaselineSource)) = true
            · rw [if_pos hrefused] at h
              cases h
            · rw [if_neg hrefused] at h
              by_cases hother : (some (contentHash old) != some (contentHash raw)) = true
              · rw [if_pos hother] at h
                cases h
              · refine ⟨by simpa using hother, fun hwhole => ?_⟩
                simpa [hwhole] using hrefused

/-- The baseline of a path is that of the bytes last touched there. Where edits of partly seen
files are left out, one that claims to be whole is of a content the agent knows. -/
structure Backed (strict : Bool) (session : FileSession World) : Prop where
  baselines : ∀ path entry,
    (fileBaselines session.context.sharedState).lookup path = some entry →
    ∃ raw isPartial, Baseline entry raw isPartial ∧ session.touched.lookup path = some raw ∧
      (strict = true → isPartial = false → (path, raw) ∈ session.known)
  decoded : ∀ entry ∈ session.known, decodes entry.2 = true

omit [Platform] in
/-- A new baseline, of the bytes that are noted with it. -/
theorem Backed.note {strict isPartial : Bool} {session : FileSession World}
    (h : Backed strict session) {path : String} {raw : ByteArray} {entry : Json}
    {learned : Option ByteArray} {world : World} (hentry : Baseline entry raw isPartial)
    (hdecoded : ∀ content, learned = some content → decodes content = true)
    (hwhole : strict = true → isPartial = false → learned = some raw) :
    Backed strict { session.note path raw learned with
      context := ⟨putFileBaseline session.context.sharedState path entry, world⟩ } where
  baselines := by
    intro other found hfound
    rw [fileBaselines_put, lookup_insertMember] at hfound
    by_cases hsame : other = path
    · subst hsame
      rw [if_pos rfl, Option.some.injEq] at hfound
      subst hfound
      refine ⟨raw, isPartial, hentry, by simp [FileSession.note], fun hstrict hfull => ?_⟩
      simp [FileSession.note, hwhole hstrict hfull]
    · rw [if_neg hsame] at hfound
      obtain ⟨old, oldPartial, hold, hlast, holdWhole⟩ := h.baselines other found hfound
      have hne : (other == path) = false := by simpa using hsame
      refine ⟨old, oldPartial, hold, ?_, fun hstrict hfull => ?_⟩
      · rw [FileSession.note, List.lookup_cons, hne]
        exact hlast
      · exact List.mem_append_right _ (holdWhole hstrict hfull)
  decoded := by
    intro known hknown
    rcases List.mem_append.mp hknown with hnew | hold
    · simp only [List.mem_map, Option.mem_toList] at hnew
      obtain ⟨content, hcontent, rfl⟩ := hnew
      exact hdecoded content hcontent
    · exact h.decoded known hold

omit [Platform] in
/-- A step that leaves the baselines and the observations alone. -/
theorem Backed.same {strict : Bool} {session after : FileSession World} (h : Backed strict session)
    (hstate : after.context.sharedState = session.context.sharedState)
    (hknown : after.known = session.known) (htouched : after.touched = session.touched) :
    Backed strict after where
  baselines := by
    intro path entry hentry
    rw [hstate] at hentry
    rw [hknown, htouched]
    exact h.baselines path entry hentry
  decoded := by
    rw [hknown]
    exact h.decoded

omit [Platform] in
/-- What a check without partial baselines has let through is known, and what any check has let
through was touched last. -/
theorem Backed.passed {strict allowPartial : Bool} {session : FileSession World}
    (h : Backed strict session) (hinjective : Function.Injective contentHash) {path : String}
    {raw : ByteArray}
    (hissue : baselineIssue session.context.sharedState path raw allowedBaselineSources
      allowPartial = none) :
    session.touched.lookup path = some raw ∧
      (strict = true → allowPartial = false → (path, raw) ∈ session.known) := by
  obtain ⟨entry, hentry, hmatches⟩ := baselineIssue_eq_none hissue
  obtain ⟨old, isPartial, hold, hlast, hwhole⟩ := h.baselines path entry hentry
  obtain ⟨hhash, hfull⟩ := hmatches old isPartial hold
  obtain rfl : old = raw := hinjective hhash
  exact ⟨hlast, fun hstrict hallow => hwhole hstrict (hfull hallow)⟩

omit [Platform] [ContentDigest] in
theorem decodes_iff (raw : ByteArray) : decodes raw = true ↔ raw.IsValidUTF8 := by
  simp [decodes, String.fromUTF8?]

omit [Platform] [ContentDigest] in
theorem decodes_toUTF8 (content : String) : decodes content.toUTF8 = true :=
  (decodes_iff _).mpr content.isValidUTF8

omit [Platform] [ContentDigest] in
theorem decodes_append {raw : ByteArray} (h : decodes raw = true) (content : String) :
    decodes (raw ++ content.toUTF8) = true :=
  (decodes_iff _).mpr (((decodes_iff _).mp h).append content.isValidUTF8)

namespace ToolContext

variable {backend} {context : ToolContext World} {arguments : JsonObject}

/-- What was read is text. -/
theorem planRead_decodes {plan : PlannedRead}
    (h : planRead backend context arguments = .ok plan) : decodes plan.raw = true := by
  simp only [planRead, bind_eq_ok, refuse_eq_ok, exists_const, require_eq_ok, pure_ok,
    Except.ok.injEq] at h
  obtain ⟨_, _, _, _, _, _, _, _, _, _, _, _, _, raw, _, text, htext, _, _, rfl⟩ := h
  rw [decodes, htext]
  rfl

omit [Platform] [ContentDigest] in
theorem mapError_eq_ok {ε ε' α : Type} {f : ε → ε'} {x : Except ε α} {a : α}
    (h : x.mapError f = .ok a) : x = .ok a := by
  cases x with
  | ok value =>
      obtain rfl := Except.ok.inj h
      rfl
  | error _ => cases h

omit [ContentDigest] in
theorem readExisting_eq_ok {path : String} {existing : Option ByteArray}
    (h : readExisting backend context path = .ok existing) :
    (existing = none → backend.holdsFile context.world path = false) ∧
      ∀ raw, existing = some raw →
        backend.holdsFile context.world path = true ∧
        backend.readBytes context.world path = .ok raw := by
  simp only [readExisting, bind_eq_ok] at h
  obtain ⟨info, hinfo, h⟩ := h
  have hheld : backend.holdsFile context.world path = info.any (·.isFile) := by
    rw [WorkspaceBackend.holdsFile, mapError_eq_ok hinfo]
    cases info with
    | none => rfl
    | some info => rfl
  by_cases hfile : info.any (·.isFile) = true
  · rw [if_pos hfile] at h
    cases hread : backend.readBytes context.world path with
    | ok raw =>
        rw [hread] at h
        obtain rfl := Except.ok.inj h
        refine ⟨(by rintro ⟨⟩), ?_⟩
        intro bytes hbytes
        obtain rfl := Option.some.inj hbytes
        exact ⟨hheld.trans hfile, rfl⟩
    | error error =>
        rw [hread] at h
        cases h
  · rw [if_neg hfile, pure_ok, Except.ok.injEq] at h
    subst h
    rw [Bool.not_eq_true] at hfile
    exact ⟨fun _ => hheld.trans hfile, by rintro _ ⟨⟩⟩

/-- The file a planned write meets, and what its baseline says. -/
theorem planWrite_eq_ok {plan : PlannedWrite}
    (h : planWrite backend context arguments = .ok plan) :
    (plan.existing = none → backend.holdsFile context.world plan.path = false) ∧
      ∀ raw, plan.existing = some raw →
        backend.holdsFile context.world plan.path = true ∧
        backend.readBytes context.world plan.path = .ok raw ∧
        (plan.append = false ∨ plan.knownFull = true →
          baselineIssue context.sharedState plan.path raw allowedBaselineSources false = none) := by
  simp only [planWrite, bind_eq_ok, refuse_eq_ok, exists_const, pure_ok, Except.ok.injEq] at h
  obtain ⟨_, _, _, existing, hexisting, hissue, rfl⟩ := h
  obtain ⟨hnone, hsome⟩ := readExisting_eq_ok hexisting
  refine ⟨hnone, fun raw hraw => ⟨(hsome raw hraw).1, (hsome raw hraw).2, ?_⟩⟩
  subst hraw
  rintro (happend | hfull)
  · dsimp only at happend
    simpa [happend] using hissue
  · simpa using hfull

/-- A planned edit has passed the check against partial baselines of other tools. -/
theorem planEdit_eq_ok {plan : PlannedEdit}
    (h : planEdit backend context arguments = .ok plan) :
    baselineIssue context.sharedState plan.path plan.raw allowedBaselineSources true = none := by
  simp only [planEdit, bind_eq_ok, refuse_eq_ok, exists_const, require_eq_ok, pure_ok,
    Except.ok.injEq] at h
  obtain ⟨_, _, _, _, _, _, _, raw, _, decoded, _, hissue, _, _, rfl⟩ := h
  simpa using hissue

end ToolContext

/-- Edits of files whose baseline shows a part of them only are left out. -/
def FileStep.editsWhole (step : FileStep World) (session : FileSession World) : Prop :=
  match step with
  | .editFile arguments =>
      ∀ plan, ToolContext.planEdit backend session.context arguments = .ok plan →
        baselineIssue session.context.sharedState plan.path plan.raw allowedBaselineSources false =
          none
  | _ => True

variable {backend}

theorem Backed.read {strict : Bool} {session : FileSession World} (h : Backed strict session)
    (arguments : JsonObject) :
    Backed strict (FileStep.exec backend (.readFile arguments) session) := by
  cases hplan : ToolContext.planRead backend session.context arguments with
  | error result =>
      simp only [FileStep.exec, ToolContext.readFile, hplan]
      exact h.same rfl rfl rfl
  | ok plan =>
      simp only [FileStep.exec, ToolContext.readFile, hplan]
      refine h.note (baselineEntry_baseline plan.raw _ _ plan.isPartial _) ?_ ?_
      · intro content hcontent
        have hdecodes := ToolContext.planRead_decodes hplan
        by_cases hpartial : plan.isPartial = true
        · simp [FileSession.seen, hpartial] at hcontent
        · simp only [FileSession.seen, if_neg hpartial, Option.some.injEq] at hcontent
          rw [← hcontent]
          exact hdecodes
      · intro _ hwhole
        simp [FileSession.seen, hwhole]

/-- What a write makes of the content of a file, where it is determined. -/
theorem written_spec {strict : Bool} {session : FileSession World} (h : Backed strict session)
    (hlawful : LawfulBackend backend) {arguments : JsonObject} {plan : PlannedWrite}
    (hplan : ToolContext.planWrite backend session.context arguments = .ok plan) {written : Nat}
    {world : World} {updatedRaw content : ByteArray}
    (hwrite : backend.writeText session.context.world plan.path plan.content plan.append =
      .ok (written, world))
    (hread : backend.readBytes world plan.path = .ok updatedRaw)
    (hcontent : session.written plan = some content) :
    decodes content = true ∧ updatedRaw = content := by
  obtain ⟨hnone, hsome⟩ := ToolContext.planWrite_eq_ok hplan
  have hwhole : ∀ made, backend.readBytes world plan.path = .ok made → updatedRaw = made :=
    fun made hmade => Except.ok.inj (hread.symm.trans hmade)
  have hover : plan.append = false → backend.readBytes world plan.path = .ok plan.content.toUTF8 := by
    intro happend
    rw [happend] at hwrite
    exact hlawful.overwrite hwrite
  unfold FileSession.written at hcontent
  cases hexisting : plan.existing with
  | none =>
      simp only [hexisting, Option.some.injEq] at hcontent
      subst hcontent
      refine ⟨decodes_toUTF8 _, hwhole _ ?_⟩
      cases happend : plan.append with
      | false => exact hover happend
      | true =>
          rw [happend] at hwrite
          exact hlawful.create (hnone hexisting) hwrite
  | some raw =>
      obtain ⟨hheld, hraw, _⟩ := hsome raw hexisting
      simp only [hexisting] at hcontent
      cases happend : plan.append with
      | false =>
          simp only [happend, Bool.not_false, if_true, Option.some.injEq] at hcontent
          subst hcontent
          exact ⟨decodes_toUTF8 _, hwhole _ (hover happend)⟩
      | true =>
          by_cases hknown : session.knows plan.path raw = true
          · simp only [happend, hknown, Bool.not_true, Bool.false_eq_true, if_false, if_true,
              Option.some.injEq] at hcontent
            subst hcontent
            have hdecodes := h.decoded _ ((session.knows_iff _ _).mp hknown)
            rw [happend] at hwrite
            exact ⟨decodes_append hdecodes _, hwhole _ (hlawful.append hheld hraw hdecodes hwrite)⟩
          · simp [happend, hknown] at hcontent

theorem Backed.write {strict : Bool} {session : FileSession World} (h : Backed strict session)
    (hlawful : LawfulBackend backend) (hinjective : Function.Injective contentHash)
    (arguments : JsonObject) :
    Backed strict (FileStep.exec backend (.writeFile arguments) session) := by
  cases hplan : ToolContext.planWrite backend session.context arguments with
  | error result =>
      simp only [FileStep.exec, ToolContext.writeFile, hplan]
      exact h.same rfl rfl rfl
  | ok plan =>
      cases hwrite : backend.writeText session.context.world plan.path plan.content plan.append with
      | error error =>
          simp only [FileStep.exec, ToolContext.writeFile, hplan, hwrite]
          exact h.same rfl rfl rfl
      | ok done =>
          obtain ⟨written, world⟩ := done
          cases hread : backend.readBytes world plan.path with
          | error error =>
              simp only [FileStep.exec, ToolContext.writeFile, hplan, hwrite, hread]
              exact h.same rfl rfl rfl
          | ok updatedRaw =>
              simp only [FileStep.exec, ToolContext.writeFile, hplan, hwrite, hread]
              refine h.note (baselineEntry_baseline updatedRaw _ _ _ _) ?_ ?_
              · exact fun content hcontent =>
                  (written_spec h hlawful hplan hwrite hread hcontent).1
              · intro hstrict hfull
                have hknown : ∀ raw, plan.existing = some raw → plan.append = true →
                    session.knows plan.path raw = true := by
                  intro raw hexisting happend
                  have hissue := (ToolContext.planWrite_eq_ok hplan).2 raw hexisting |>.2.2
                    (.inr (by simpa [happend, hexisting] using hfull))
                  exact (session.knows_iff _ _).mpr ((h.passed hinjective hissue).2 hstrict rfl)
                obtain ⟨content, hcontent⟩ := session.written_eq_some hknown
                rw [hcontent, (written_spec h hlawful hplan hwrite hread hcontent).2]

theorem Backed.edit {strict : Bool} {session : FileSession World} (h : Backed strict session)
    (hinjective : Function.Injective contentHash) (arguments : JsonObject)
    (hallowed : strict = true → FileStep.editsWhole backend (.editFile arguments) session) :
    Backed strict (FileStep.exec backend (.editFile arguments) session) := by
  cases hplan : ToolContext.planEdit backend session.context arguments with
  | error result =>
      simp only [FileStep.exec, ToolContext.editFile, hplan]
      exact h.same rfl rfl rfl
  | ok plan =>
      cases hwrite : backend.writeText session.context.world plan.path plan.content false with
      | error error =>
          simp only [FileStep.exec, ToolContext.editFile, hplan, hwrite]
          exact h.same rfl rfl rfl
      | ok done =>
          simp only [FileStep.exec, ToolContext.editFile, hplan, hwrite]
          refine h.note (baselineEntry_baseline plan.content.toUTF8 _ _ false _) ?_ ?_
          · intro content hcontent
            by_cases hknown : session.knows plan.path plan.raw = true
            · simp only [FileSession.edited, if_pos hknown, Option.some.injEq] at hcontent
              rw [← hcontent]
              exact decodes_toUTF8 _
            · simp [FileSession.edited, hknown] at hcontent
          · intro hstrict _
            have hissue := hallowed hstrict plan hplan
            have hknown := (session.knows_iff _ _).mpr
              ((h.passed hinjective hissue).2 hstrict rfl)
            simp [FileSession.edited, hknown]

/-- One step keeps the baselines honest. -/
theorem Backed.exec {strict : Bool} {session : FileSession World} (h : Backed strict session)
    (hlawful : LawfulBackend backend) (hinjective : Function.Injective contentHash)
    (step : FileStep World) (hallowed : strict = true → step.editsWhole backend session) :
    Backed strict (step.exec backend session) := by
  cases step with
  | readFile arguments => exact h.read arguments
  | writeFile arguments => exact h.write hlawful hinjective arguments
  | editFile arguments => exact h.edit hinjective arguments hallowed
  | outside world => exact h.same rfl rfl rfl

/-- The context of a run in which none of the tools has been used yet. -/
def FileSession.fresh (sharedState : JsonObject) (world : World) : FileSession World where
  context := ⟨sharedState, world⟩

omit [Platform] in
theorem Backed.fresh {sharedState : JsonObject}
    (hfresh : sharedState.lookup fileBaselinesStateKey = none) (strict : Bool) (world : World) :
    Backed strict (FileSession.fresh sharedState world) where
  baselines := by
    intro path entry hentry
    rw [FileSession.fresh, fileBaselines, hfresh] at hentry
    cases hentry
  decoded := by
    intro known hknown
    cases hknown

/-- Any sequence of reads, writes and edits, with outside changes of the files in between. In
every state reached, an edit that is carried out meets the bytes that were last read or written
through the tools under its path. If no file was edited whose baseline showed a part of it only,
then also an overwrite of an existing file that is carried out meets bytes the agent has fully
seen or fully determined. -/
theorem read_before_overwrite (hlawful : LawfulBackend backend)
    (hinjective : Function.Injective contentHash) (sharedState : JsonObject) (world : World)
    (hfresh : sharedState.lookup fileBaselinesStateKey = none) (steps : List (FileStep World)) :
    let session := run (FileStep.exec backend) steps (.fresh sharedState world)
    (∀ arguments plan, ToolContext.planEdit backend session.context arguments = .ok plan →
        session.touched.lookup plan.path = some plan.raw) ∧
      (Along (FileStep.exec backend) (FileStep.editsWhole backend) steps
          (.fresh sharedState world) →
        ∀ arguments plan raw, ToolContext.planWrite backend session.context arguments = .ok plan →
          plan.append = false → plan.existing = some raw → (plan.path, raw) ∈ session.known) := by
  intro session
  constructor
  · intro arguments plan hplan
    have hbacked : Backed false session :=
      run_preserves _ (fun _ => True) (Backed false)
        (fun step state _ hstate =>
          hstate.exec hlawful hinjective step (by rintro ⟨⟩))
        steps (fun _ _ => trivial) _ (Backed.fresh hfresh false world)
    exact (hbacked.passed hinjective (ToolContext.planEdit_eq_ok hplan)).1
  · intro halong arguments plan raw hplan happend hexisting
    have hbacked : Backed true session :=
      along_preserves
        (fun step state hallowed hstate =>
          hstate.exec hlawful hinjective step (fun _ => hallowed))
        halong (Backed.fresh hfresh true world) steps [] (List.append_nil steps).symm
    have hissue := ((ToolContext.planWrite_eq_ok hplan).2 raw hexisting).2.2 (.inl happend)
    exact (hbacked.passed hinjective hissue).2 rfl rfl

end

namespace Sample

/-- A content as a text of its own. -/
def spelled (raw : ByteArray) : String := .ofList ('#' :: raw.data.toList.map Char.ofUInt8)

/-- The digest of one content; the others are spelled out. -/
def digestOfContent (raw : ByteArray) : String :=
  if raw.data = "one\n".toUTF8.data then
    "2c8b08da5ce60398e1f19af0e5dccc744df274b826abe585eaba68c525434806"
  else spelled raw

theorem spelled_injective : Function.Injective spelled := by
  intro first second h
  have hchars := (List.cons.inj (String.ofList_injective h)).2
  have hbyte : Function.Injective Char.ofUInt8 := by
    intro left right hsame
    have hval := congrArg Char.val hsame
    exact UInt8.toUInt32_inj.mp hval
  exact ByteArray.ext (Array.toList_inj.mp (List.map_injective_iff.mpr hbyte hchars))

theorem spelled_ne (digest : String) (h : digest.toList.head? ≠ some '#') (raw : ByteArray) :
    spelled raw ≠ digest := by
  intro hsame
  rw [← hsame, spelled, String.toList_ofList] at h
  exact h rfl

theorem digestOfContent_injective : Function.Injective digestOfContent := by
  intro first second h
  have hother := spelled_ne "2c8b08da5ce60398e1f19af0e5dccc744df274b826abe585eaba68c525434806"
    (by decide)
  unfold digestOfContent at h
  by_cases hfirst : first.data = "one\n".toUTF8.data
  · by_cases hsecond : second.data = "one\n".toUTF8.data
    · exact ByteArray.ext (hfirst.trans hsecond.symm)
    · rw [if_pos hfirst, if_neg hsecond] at h
      exact absurd h.symm (hother second)
  · by_cases hsecond : second.data = "one\n".toUTF8.data
    · rw [if_neg hfirst, if_pos hsecond] at h
      exact absurd h (hother first)
    · rw [if_neg hfirst, if_neg hsecond] at h
      exact spelled_injective h

/-- The digests of a file before and after an edit. -/
def digestOfEdited (raw : ByteArray) : String :=
  if raw.data = "one\ntwo\n".toUTF8.data then
    "c3f9c8c283a2b1f2f1896f27a01cbe3cddc0c9d93f752e4639035a0f5b36f6e8"
  else "c9b0fb1fa00b3a5ce714c876c35bb18f21eed970d33d9093a3cbd7cf0c9db3dc"

/-- The in-memory workspace behind a tool context that lets every path pass. -/
def workspaceBackend : WorkspaceBackend MemoryWorkspace := MemoryWorkspace.backend fun _ _ => .ok ()

def writeNotes (content : String) : JsonObject :=
  [("content", .str content), ("path", .str "notes.txt")]

/-- The agent makes a file. -/
def notesMade : List (FileStep MemoryWorkspace) := [.writeFile (writeNotes "one\n")]

/-- Somebody makes a file; the agent reads its second line and edits that. -/
def notesEdited : List (FileStep MemoryWorkspace) :=
  [.outside { files := (∅ : Table ByteArray).insert "notes.txt" "one\ntwo\n".toUTF8 },
    .readFile [("path", .str "notes.txt"), ("start_line", .nat 2)],
    .editFile
      [("new_string", .str "three"), ("old_string", .str "two"), ("path", .str "notes.txt")]]

def notesSession (digest : ByteArray → String) (steps : List (FileStep MemoryWorkspace)) :
    FileSession MemoryWorkspace :=
  run (@FileStep.exec (runtime []).toPlatform ⟨digest⟩ _ workspaceBackend) steps (.fresh [] {})

def notesPlan (digest : ByteArray → String) (steps : List (FileStep MemoryWorkspace))
    (content : String) : Except ToolExecutionResult PlannedWrite :=
  @ToolContext.planWrite (runtime []).toPlatform ⟨digest⟩ _ workspaceBackend
    (notesSession digest steps).context (writeNotes content)

theorem notesMade_plan :
    ((notesPlan digestOfContent notesMade "two\n").toOption.any fun plan =>
      plan.path == "notes.txt" && !plan.append &&
        decide (plan.existing.map (·.data) = some "one\n".toUTF8.data)) = true := by
  decide +kernel

theorem notesEdited_plan :
    ((notesPlan digestOfEdited notesEdited "all gone\n").toOption.any fun plan =>
      plan.path == "notes.txt" && !plan.append &&
        decide (plan.existing.map (·.data) = some "one\nthree\n".toUTF8.data)) = true ∧
      (notesSession digestOfEdited notesEdited).known.length = 0 := by
  decide +kernel

end Sample

/-- A file the agent has made is overwritten by it, and its bytes are known. -/
theorem read_before_overwrite_made :
    ∃ plan raw, Sample.notesPlan Sample.digestOfContent Sample.notesMade "two\n" = .ok plan ∧
      plan.existing = some raw ∧
      (plan.path, raw) ∈ (Sample.notesSession Sample.digestOfContent Sample.notesMade).known := by
  have hchecked := Sample.notesMade_plan
  cases hplan : Sample.notesPlan Sample.digestOfContent Sample.notesMade "two\n" with
  | error result =>
      rw [hplan] at hchecked
      cases hchecked
  | ok plan =>
      rw [hplan] at hchecked
      simp only [Except.toOption, Option.any_some, Bool.and_eq_true, Bool.not_eq_true',
        decide_eq_true_eq, Option.map_eq_some_iff] at hchecked
      obtain ⟨⟨_, happend⟩, raw, hexisting, _⟩ := hchecked
      obtain ⟨_, hknown⟩ := @read_before_overwrite (Sample.runtime []).toPlatform
        ⟨Sample.digestOfContent⟩ _ Sample.workspaceBackend (MemoryWorkspace.backend_lawful _)
        Sample.digestOfContent_injective [] {} rfl Sample.notesMade
      exact ⟨plan, raw, rfl, hexisting,
        hknown ⟨trivial, trivial⟩ _ plan raw hplan happend hexisting⟩

/-- A file of which the agent has seen the second line is edited there, and may then be
overwritten: its bytes were neither seen nor determined as a whole. -/
theorem partly_seen_file_overwritten :
    ∃ plan raw, Sample.notesPlan Sample.digestOfEdited Sample.notesEdited "all gone\n" = .ok plan ∧
      plan.append = false ∧ plan.existing = some raw ∧
      ∀ path, (path, raw) ∉ (Sample.notesSession Sample.digestOfEdited Sample.notesEdited).known := by
  obtain ⟨hchecked, hunknown⟩ := Sample.notesEdited_plan
  cases hplan : Sample.notesPlan Sample.digestOfEdited Sample.notesEdited "all gone\n" with
  | error result =>
      rw [hplan] at hchecked
      cases hchecked
  | ok plan =>
      rw [hplan] at hchecked
      simp only [Except.toOption, Option.any_some, Bool.and_eq_true, Bool.not_eq_true',
        decide_eq_true_eq, Option.map_eq_some_iff] at hchecked
      obtain ⟨⟨_, happend⟩, raw, hexisting, _⟩ := hchecked
      refine ⟨plan, raw, rfl, happend, hexisting, fun path => ?_⟩
      rw [List.length_eq_zero_iff.mp hunknown]
      exact List.not_mem_nil

end VvAgent
