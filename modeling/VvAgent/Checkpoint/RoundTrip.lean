import VvAgent.Checkpoint.Codecs

/-!
Round trips of the controller's wire values. For each type the value is written and read
back; what the reader checks beyond the type's own validation is the condition of the
round trip.
-/

namespace VvAgent
open Lib Lib.Outcome Wire

theorem ControllerHandle.fromValue_toValue {handle : ControllerHandle}
    (h : handle.validate = .ok ()) : fromValue handle.toValue = .ok handle := by
  have hparts := h
  simp only [validate, checkAll_eq_ok, List.forall_mem_cons, refuse_eq_ok, Bool.or_eq_false_iff,
    decide_eq_false_iff_not, Nat.not_lt] at hparts
  obtain ⟨hkey, hrun, htrace, _⟩ := hparts
  simp only [fromValue, bind_eq_ok, valueObject_eq_ok, requireExactFields_eq_ok,
    requiredNonEmptyString_eq_ok, pure_ok]
  exact ⟨_, rfl, (), ⟨rfl, by simp [containsKey, List.lookup_cons]⟩, _, ⟨rfl, hkey⟩, _,
    ⟨rfl, hrun⟩, _, ⟨rfl, htrace⟩, (), h, rfl⟩

theorem HostInteractionMessage.fromValue_toValue {message : HostInteractionMessage}
    (h : message.validate = .ok ()) : fromValue message.toValue = .ok message := by
  simp only [fromValue, bind_eq_ok, valueObject_eq_ok, requireExactFields_eq_ok,
    requiredString_eq_ok, pure_ok]
  exact ⟨_, rfl, (), ⟨rfl, by simp [containsKey, List.lookup_cons]⟩, _, rfl, _, rfl, (), h, rfl⟩

section
variable [Platform]

theorem HostInteractionRequest.fromValue_toValue {request : HostInteractionRequest}
    (h : request.validate = .ok ()) : fromValue request.toValue = .ok request := by
  have hparts := h
  simp only [validate, validateDigest, checkAll_eq_ok, List.forall_mem_cons, badIdentity,
    unit_guard_bind, refuse_eq_ok, Bool.or_eq_false_iff, decide_eq_false_iff_not, Nat.not_lt,
    Bool.not_eq_false', beq_eq_false_iff_ne] at hparts
  obtain ⟨_, ⟨hinteraction, hoperation, hcall, _⟩, hcycle, _, _, hdigest, _⟩ := hparts
  simp only [fromValue, bind_eq_ok, valueObject_eq_ok, requireExactFields_eq_ok,
    requiredString_eq_ok, requiredNonEmptyString_eq_ok, requiredInteger_eq_ok,
    requiredDigest_eq_ok, pure_ok]
  exact ⟨_, rfl, (), ⟨rfl, by simp [containsKey, List.lookup_cons]⟩, _, rfl, _, rfl, _,
    ⟨rfl, hinteraction⟩, _, ⟨rfl, hcycle.2, fun _ => hcycle.1⟩, _, ⟨rfl, hoperation⟩, _,
    ⟨rfl, hcall⟩, _, ⟨rfl, hdigest⟩, (), h, rfl⟩

theorem HostInteractionResponse.fromValue_toValue {response : HostInteractionResponse}
    (h : response.validate = .ok ()) : fromValue response.toValue = .ok response := by
  have hparts := h
  simp only [validate, checkAll_eq_ok, List.forall_mem_cons, badIdentity, unit_guard_bind,
    refuse_eq_ok, Bool.or_eq_false_iff, decide_eq_false_iff_not, Nat.not_lt, Bool.not_eq_false',
    beq_eq_false_iff_ne] at hparts
  obtain ⟨_, ⟨hinteraction, hoperation, hcall, hcommand, _⟩, hcycle, hrequest, hdigest, hmessage,
    _⟩ := hparts
  simp only [fromValue, bind_eq_ok, valueObject_eq_ok, requireExactFields_eq_ok,
    requiredString_eq_ok, requiredNonEmptyString_eq_ok, requiredInteger_eq_ok,
    requiredDigest_eq_ok, pure_ok]
  exact ⟨_, rfl, (), ⟨rfl, by simp [containsKey, List.lookup_cons]⟩, _,
    HostInteractionMessage.fromValue_toValue hmessage, _, rfl, _, ⟨rfl, hinteraction⟩, _,
    ⟨rfl, hcycle.2, fun _ => hcycle.1⟩, _, ⟨rfl, hoperation⟩, _, ⟨rfl, hcall⟩, _,
    ⟨rfl, hrequest⟩, _, ⟨rfl, hcommand⟩, _, ⟨rfl, hdigest⟩, (), h, rfl⟩

omit [Platform] in
/-- The variant of a command is read back if it meets what `validate` asks of it. -/
theorem ControllerCommandVariant.fromValue_toValue {variant : ControllerCommandVariant}
    (h : ∀ answer, variant = .hostInteractionResponse answer →
      (∀ text ∈ [answer.interactionId, answer.operationId, answer.toolCallId],
        badIdentity text = false) ∧
      answer.logicalCycle ≠ 0 ∧ answer.logicalCycle ≤ maxWireInteger ∧
      isSha256 answer.requestDigest = true ∧ answer.response.validate = .ok ()) :
    fromValue variant.toValue = .ok variant := by
  cases variant with
  | hostInteractionResponse answer =>
      obtain ⟨hidentity, hpositive, hrange, hdigest, hmessage⟩ := h answer rfl
      simp only [badIdentity, List.forall_mem_cons, Bool.or_eq_false_iff,
        decide_eq_false_iff_not, Nat.not_lt] at hidentity
      obtain ⟨hinteraction, hoperation, hcall, _⟩ := hidentity
      simp only [fromValue, bind_eq_ok, valueObject_eq_ok, requiredString_eq_ok]
      refine ⟨_, rfl, "host_interaction_response", rfl, ?_⟩
      simp only [bind_eq_ok, requireExactFields_eq_ok, requiredNonEmptyString_eq_ok,
        requiredInteger_eq_ok, requiredDigest_eq_ok, pure_ok]
      exact ⟨(), ⟨rfl, by simp [containsKey, List.lookup_cons]⟩, _,
        HostInteractionMessage.fromValue_toValue hmessage, _, ⟨rfl, hinteraction⟩, _,
        ⟨rfl, hrange, fun _ => hpositive⟩, _, ⟨rfl, hoperation⟩, _, ⟨rfl, hcall⟩, _,
        ⟨rfl, hdigest⟩, rfl⟩
  | suspend => rfl
  | resume => rfl
  | cancel => rfl
  | abort => rfl

theorem ControllerCommand.fromValue_toValue {command : ControllerCommand}
    (h : command.validate = .ok ()) : fromValue command.toValue = .ok command := by
  have hparts := h
  simp only [validate, unit_guard_bind, refuse_eq_ok, Bool.or_eq_false_iff,
    decide_eq_false_iff_not, Nat.not_lt, beq_eq_false_iff_ne] at hparts
  obtain ⟨_, hid, hhandle, ⟨⟨hpositive, hattempt⟩, hrevision⟩, hvariant⟩ := hparts
  simp only [badIdentity, Bool.or_eq_false_iff, decide_eq_false_iff_not, Nat.not_lt] at hid
  have hread : ControllerCommandVariant.fromValue command.command.toValue = .ok command.command := by
    apply ControllerCommandVariant.fromValue_toValue
    intro answer hanswer
    simp only [hanswer, unit_guard_bind, refuse_eq_ok, Bool.or_eq_false_iff,
      decide_eq_false_iff_not, Nat.not_lt, Bool.not_eq_false', beq_eq_false_iff_ne,
      List.any_eq_false] at hvariant
    obtain ⟨hidentity, hcycle, hdigest, hmessage, _⟩ := hvariant
    exact ⟨fun text hmem => by simpa using hidentity text hmem, hcycle.1, hcycle.2, hdigest,
      hmessage⟩
  have hdigest : isSha256 command.commandDigest = true := by
    cases hkind : command.command with
    | hostInteractionResponse answer =>
        simp only [hkind, unit_guard_bind, refuse_eq_ok, Bool.not_eq_false'] at hvariant
        exact hvariant.2.2.2.2.1
    | _ =>
        simp only [hkind, unit_guard_bind, refuse_eq_ok, Bool.not_eq_false'] at hvariant
        exact hvariant.1
  simp only [fromValue, bind_eq_ok, valueObject_eq_ok, requireExactFields_eq_ok,
    requiredString_eq_ok, requiredNonEmptyString_eq_ok, requiredInteger_eq_ok,
    requiredDigest_eq_ok, pure_ok]
  exact ⟨_, rfl, (), ⟨rfl, by simp [containsKey, List.lookup_cons]⟩, _, rfl, _, ⟨rfl, hid⟩,
    _, ⟨rfl, hdigest⟩, _, ControllerHandle.fromValue_toValue hhandle, _,
    ⟨rfl, hattempt, fun _ => hpositive⟩, _, ⟨rfl, hrevision, (by rintro ⟨⟩)⟩, _, hread, (), h, rfl⟩

omit [Platform] in
theorem ControllerCommandReceipt.fromValue_toValue {receipt : ControllerCommandReceipt}
    (h : receipt.validate = .ok ()) : fromValue receipt.toValue = .ok receipt := by
  have hparts := h
  simp only [validate, unit_guard_bind, refuse_eq_ok, Bool.or_eq_false_iff, badIdentity,
    decide_eq_false_iff_not, Nat.not_lt, Bool.not_eq_false', beq_eq_false_iff_ne] at hparts
  obtain ⟨_, hid, hdigest, hhandle, ⟨⟨⟨⟨hpositive, hattempt⟩, hexpected⟩, hresulting⟩, houtbox⟩,
    _, _, hdestination, _⟩ := hparts
  have hshort : ∀ text, receipt.outboxDestination = some text →
      text.utf8ByteSize ≤ controllerCommandMaxUtf8Bytes := by
    intro text htext
    simpa [htext] using hdestination
  simp only [fromValue, bind_eq_ok, valueObject_eq_ok, requireExactFields_eq_ok,
    requiredString_eq_ok, requiredNonEmptyString_eq_ok, requiredInteger_eq_ok,
    requiredDigest_eq_ok, optionalString_eq_ok, pure_ok]
  exact ⟨_, rfl, (), ⟨rfl, by simp [containsKey, List.lookup_cons]⟩, _, rfl, _, ⟨rfl, hid⟩, _,
    ⟨rfl, hdigest⟩, _, ControllerHandle.fromValue_toValue hhandle, _,
    ⟨rfl, hattempt, fun _ => hpositive⟩, _, ⟨rfl, hexpected, (by rintro ⟨⟩)⟩, _,
    ⟨rfl, hresulting, (by rintro ⟨⟩)⟩, _, rfl, _, rfl, _, rfl, _, ⟨rfl, hshort⟩, _,
    ⟨rfl, houtbox, (by rintro ⟨⟩)⟩, (), h, rfl⟩

theorem sha256Canonical_isSha256 {value : Json} {name digest : String}
    (h : sha256Canonical value name = .ok digest) : isSha256 digest = true := by
  simp only [sha256Canonical, bind_eq_ok, pure_ok, Except.ok.injEq] at h
  obtain ⟨_, _, rfl⟩ := h
  exact Platform.sha256_isSha256 _

omit [Platform] in
theorem ControllerCommandWakeRecord.validateAction_destination
    {record : ControllerCommandWakeRecord} (h : record.validateAction = .ok ()) {text : String}
    (hsome : record.outboxDestination = some text) : text = "distributed_advance" := by
  unfold validateAction at h
  rw [hsome] at h
  split at h
  next heq => cases heq
  next heq => exact Option.some.inj heq
  next => cases h

theorem ControllerCommandWakeRecord.fromValue_toValue {record : ControllerCommandWakeRecord}
    (h : record.validate = .ok ()) : fromValue record.toValue = .ok record := by
  have hparts := h
  simp only [validate, bind_eq_ok, exists_const, refuse_eq_ok, Bool.or_eq_false_iff, badIdentity,
    decide_eq_false_iff_not, Nat.not_lt, Bool.not_eq_false', beq_eq_false_iff_ne,
    bne_eq_false_iff_eq] at hparts
  obtain ⟨⟨hid, hkey⟩, hdigest, _, hhandle, outboxId, houtboxId, ⟨_, houtbox⟩,
    ⟨⟨⟨⟨hpositive, hresume⟩, hexpected⟩, hresulting⟩, hattempt⟩, _, _, _, haction, _, _, _,
    ⟨⟨hclaim, hlease⟩, hdelivered⟩, herror⟩ := hparts
  have houtboxDigest : isSha256 record.outboxId = true := by
    rw [houtbox]
    exact sha256Canonical_isSha256 houtboxId
  have houtboxSize : record.outboxId.utf8ByteSize ≤ controllerCommandMaxUtf8Bytes := by
    have hsize := houtboxDigest
    simp only [isSha256, Bool.and_eq_true, beq_iff_eq] at hsize
    rw [hsize.1]
    decide
  have hdestination : ∀ text, record.outboxDestination = some text →
      text.utf8ByteSize ≤ controllerCommandMaxUtf8Bytes := by
    intro text htext
    rw [validateAction_destination haction htext]
    decide
  have hclaimShort : ∀ text, record.claimToken = some text →
      text.utf8ByteSize ≤ controllerCommandMaxUtf8Bytes := by
    intro text htext
    simp only [htext, Option.any_some, badIdentity, Bool.or_eq_false_iff,
      decide_eq_false_iff_not, Nat.not_lt] at hclaim
    exact hclaim.2
  have hleaseRange : ∀ n, record.leaseExpiresAtMs = some n →
      n ≤ maxWireInteger ∧ (false = true → n ≠ 0) := by
    intro n hn
    exact ⟨by simpa [hn] using hlease, (by rintro ⟨⟩)⟩
  have hdeliveredRange : ∀ n, record.deliveredAtMs = some n →
      n ≤ maxWireInteger ∧ (false = true → n ≠ 0) := by
    intro n hn
    exact ⟨by simpa [hn] using hdelivered, (by rintro ⟨⟩)⟩
  have herrorShort : ∀ text, record.lastError = some text →
      text.utf8ByteSize ≤ hostInteractionContentMaxUtf8Bytes := by
    intro text htext
    simpa [htext] using herror
  simp only [fromValue, bind_eq_ok, valueObject_eq_ok, requireExactFields_eq_ok,
    requiredString_eq_ok, requiredNonEmptyString_eq_ok, requiredInteger_eq_ok,
    requiredDigest_eq_ok, optionalString_eq_ok, optionalInteger_eq_ok, pure_ok]
  exact ⟨_, rfl, (), ⟨rfl, by simp [containsKey, List.lookup_cons]⟩, _, ⟨rfl, hid⟩, _,
    ⟨rfl, hdigest⟩, _, ⟨rfl, hkey⟩, _, ControllerHandle.fromValue_toValue hhandle, _,
    ⟨rfl, hresume, fun _ => hpositive⟩, _, ⟨rfl, hexpected, (by rintro ⟨⟩)⟩, _,
    ⟨rfl, hresulting, (by rintro ⟨⟩)⟩, _, rfl, _,
    ⟨rfl, isBlank_eq_false_of_isSha256 houtboxDigest, houtboxSize⟩, _, rfl, _, rfl, _,
    ⟨rfl, hdestination⟩, _, ⟨rfl, hattempt, (by rintro ⟨⟩)⟩, _, ⟨rfl, hclaimShort⟩, _,
    ⟨rfl, hleaseRange⟩, _, ⟨rfl, hdeliveredRange⟩, _, ⟨rfl, herrorShort⟩, (), h, rfl⟩

omit [Platform] in
theorem HostInteractionRecoveryEnvelope.fromValue_toValue
    {envelope : HostInteractionRecoveryEnvelope} (h : envelope.validate = .ok ()) :
    fromValue envelope.toValue = .ok envelope := by
  have hparts := h
  simp only [validate, checkAll_eq_ok, List.forall_mem_cons, badIdentity, unit_guard_bind,
    refuse_eq_ok, Bool.or_eq_false_iff, decide_eq_false_iff_not, Nat.not_lt, Bool.not_eq_false',
    beq_eq_false_iff_ne] at hparts
  obtain ⟨_, ⟨hrecord, hkey, hrun, htrace, hinteraction, hoperation, hcall, hcommand, _⟩,
    ⟨⟨⟨⟨hpositive, hattempt⟩, hrevision⟩, hcyclePositive⟩, hcycle⟩, hdigest⟩ := hparts
  simp only [fromValue, bind_eq_ok, valueObject_eq_ok, requireExactFields_eq_ok,
    requiredString_eq_ok, requiredNonEmptyString_eq_ok, requiredInteger_eq_ok,
    requiredDigest_eq_ok, pure_ok]
  exact ⟨_, rfl, (), ⟨rfl, by simp [containsKey, List.lookup_cons]⟩, _, rfl, _, ⟨rfl, hrecord⟩, _,
    ⟨rfl, hkey⟩, _, ⟨rfl, hrun⟩, _, ⟨rfl, htrace⟩, _, rfl, _,
    ⟨rfl, hattempt, fun _ => hpositive⟩, _, ⟨rfl, hrevision, (by rintro ⟨⟩)⟩, _,
    ⟨rfl, hcycle, fun _ => hcyclePositive⟩, _, ⟨rfl, hinteraction⟩, _, ⟨rfl, hoperation⟩, _,
    ⟨rfl, hcall⟩, _, ⟨rfl, hdigest⟩, _, ⟨rfl, hcommand⟩, (), h, rfl⟩

theorem HostInteractionNotificationPayload.fromValue_toValue
    {payload : HostInteractionNotificationPayload} (h : payload.validate = .ok ()) :
    fromValue payload.toValue = .ok payload := by
  have hparts := h
  simp only [validate, checkAll_eq_ok, List.forall_mem_cons, badIdentity, unit_guard_bind,
    refuse_eq_ok, Bool.or_eq_false_iff, decide_eq_false_iff_not, Nat.not_lt,
    beq_eq_false_iff_ne] at hparts
  obtain ⟨_, ⟨hnotification, hrecord, hinteraction, _⟩, ⟨⟨⟨hpositive, hcycle⟩, _⟩, _⟩, _⟩ := hparts
  simp only [fromValue, bind_eq_ok, valueObject_eq_ok, requireExactFields_eq_ok,
    requiredString_eq_ok, requiredNonEmptyString_eq_ok, requiredInteger_eq_ok, pure_ok]
  exact ⟨_, rfl, (), ⟨rfl, by simp [containsKey, List.lookup_cons]⟩, _, rfl, _,
    ⟨rfl, hnotification⟩, _, ⟨rfl, hrecord⟩, _, ⟨rfl, hinteraction⟩, _,
    ⟨rfl, hcycle, fun _ => hpositive⟩, _, rfl, _, rfl, _, rfl, (), h, rfl⟩

omit [Platform] in
/-- The reader bounds the cycle of a wake, its validation does not. -/
theorem ControllerCommandWake.fromValue_toValue_iff {wake : ControllerCommandWake}
    (h : wake.validate = .ok ()) :
    fromValue wake.toValue = .ok wake ↔ wake.logicalCycle ≤ maxWireInteger := by
  have hdestination : ∀ text, wake.destination = some text →
      text.utf8ByteSize ≤ controllerCommandMaxUtf8Bytes := by
    intro text htext
    have hparts := h
    simp only [validate, refuse_eq_ok, htext, Bool.not_eq_false', Bool.or_eq_true,
      Bool.and_eq_true, beq_iff_eq] at hparts
    rcases hparts with ⟨⟨_, hnone⟩, _⟩ | ⟨⟨⟨_, hsome⟩, _⟩, _⟩
    · cases hnone
    · rw [Option.some.inj hsome]
      decide
  simp only [fromValue, bind_eq_ok, valueObject_eq_ok, requireExactFields_eq_ok,
    requiredString_eq_ok, requiredInteger_eq_ok, optionalString_eq_ok, pure_ok,
    Except.ok.injEq]
  constructor
  · rintro ⟨_, _, _, _, _, _, _, _, _, ⟨_, hcycle, _⟩, _, _, _, _, rfl⟩
    exact hcycle
  · intro hcycle
    exact ⟨_, rfl, (), ⟨rfl, by simp [containsKey, List.lookup_cons]⟩, _, rfl, _,
      ⟨rfl, hdestination⟩, _, ⟨rfl, hcycle, (by rintro ⟨⟩)⟩, _, rfl, (), h, rfl⟩

/-- What the reader of resolutions asks beyond the validation of the parts. -/
def ControllerCommandResolution.wireSafe : ControllerCommandResolution → Bool
  | .applied _ wake | .replayed _ wake => wake.logicalCycle ≤ maxWireInteger
  | .rejected error =>
      !isBlank error && error.utf8ByteSize ≤ hostInteractionContentMaxUtf8Bytes

omit [Platform] in
theorem ControllerCommandResolution.readDecision_eq_ok {object : JsonObject}
    {receipt : ControllerCommandReceipt} {wake : ControllerCommandWake} :
    readDecision object = .ok (receipt, wake) ↔
      (object.length = 4 ∧ ∀ field ∈ ["schema_version", "kind", "receipt", "wake"],
        containsKey object field = true) ∧
      object.lookup "schema_version" = some (.str controllerCommandResolutionSchema) ∧
      ControllerCommandReceipt.fromValue (member object "receipt") = .ok receipt ∧
      ControllerCommandWake.fromValue (member object "wake") = .ok wake := by
  simp only [readDecision, readSchema, bind_eq_ok, requireExactFields_eq_ok,
    requiredString_eq_ok, refuse_eq_ok, exists_const, bne_eq_false_iff_eq, pure_ok,
    Except.ok.injEq, Prod.mk.injEq]
  constructor
  · rintro ⟨hfields, ⟨_, hschema, rfl⟩, _, hreceipt, _, hwake, rfl, rfl⟩
    exact ⟨hfields, hschema, hreceipt, hwake⟩
  · rintro ⟨hfields, hschema, hreceipt, hwake⟩
    exact ⟨hfields, ⟨_, hschema, rfl⟩, _, hreceipt, _, hwake, rfl, rfl⟩

omit [Platform] in
/-- The decision of a resolution is read back when the reader takes its wake. -/
theorem ControllerCommandResolution.readDecision_written {receipt : ControllerCommandReceipt}
    {wake : ControllerCommandWake} (kind : String) (hreceipt : receipt.validate = .ok ())
    (hwake : wake.validate = .ok ()) :
    readDecision
        [("kind", .str kind), ("receipt", receipt.toValue),
          ("schema_version", .str controllerCommandResolutionSchema), ("wake", wake.toValue)] =
        .ok (receipt, wake) ↔ wake.logicalCycle ≤ maxWireInteger := by
  rw [readDecision_eq_ok, ← ControllerCommandWake.fromValue_toValue_iff hwake]
  constructor
  · rintro ⟨_, _, _, hread⟩
    exact hread
  · intro hread
    exact ⟨⟨rfl, by simp [containsKey, List.lookup_cons]⟩, rfl,
      ControllerCommandReceipt.fromValue_toValue hreceipt, hread⟩

omit [Platform] in
theorem ControllerCommandResolution.fromValue_toValue_iff
    {resolution : ControllerCommandResolution} (h : resolution.validate = .ok ()) :
    fromValue resolution.toValue = .ok resolution ↔ resolution.wireSafe = true := by
  cases resolution with
  | applied receipt wake =>
      simp only [validate, unit_guard_bind] at h
      have hdecision := readDecision_written "applied" h.1 h.2
      simp only [wireSafe, decide_eq_true_eq, ← hdecision, fromValue, toValue, bind_eq_ok,
        valueObject_eq_ok, requiredString_eq_ok]
      constructor
      · rintro ⟨_, ⟨⟩, _, ⟨⟩, hread⟩
        simp only [bind_eq_ok, Prod.exists, pure_ok, Except.ok.injEq, applied.injEq] at hread
        obtain ⟨_, _, hread, rfl, rfl⟩ := hread
        exact hread
      · intro hread
        refine ⟨_, rfl, "applied", rfl, ?_⟩
        simp only [hread, ok_bind, pure_ok]
  | replayed receipt wake =>
      simp only [validate, unit_guard_bind] at h
      have hdecision := readDecision_written "replayed" h.1 h.2
      simp only [wireSafe, decide_eq_true_eq, ← hdecision, fromValue, toValue, bind_eq_ok,
        valueObject_eq_ok, requiredString_eq_ok]
      constructor
      · rintro ⟨_, ⟨⟩, _, ⟨⟩, hread⟩
        simp only [bind_eq_ok, Prod.exists, pure_ok, Except.ok.injEq, replayed.injEq] at hread
        obtain ⟨_, _, hread, rfl, rfl⟩ := hread
        exact hread
      · intro hread
        refine ⟨_, rfl, "replayed", rfl, ?_⟩
        simp only [hread, ok_bind, pure_ok]
  | rejected error =>
      simp only [wireSafe, Bool.and_eq_true, Bool.not_eq_true', decide_eq_true_eq, fromValue,
        toValue, bind_eq_ok, valueObject_eq_ok, requiredString_eq_ok]
      constructor
      · rintro ⟨_, ⟨⟩, _, ⟨⟩, hread⟩
        simp only [readSchema, bind_eq_ok, requiredNonEmptyString_eq_ok, pure_ok,
          Except.ok.injEq, rejected.injEq] at hread
        obtain ⟨_, _, _, _, _, ⟨_, hbounds⟩, rfl⟩ := hread
        exact hbounds
      · intro hbounds
        refine ⟨_, rfl, "rejected", rfl, ?_⟩
        simp only [readSchema, bind_eq_ok, requireExactFields_eq_ok, requiredString_eq_ok,
          requiredNonEmptyString_eq_ok, refuse_eq_ok, pure_ok]
        exact ⟨(), ⟨rfl, by simp [containsKey, List.lookup_cons]⟩, (), ⟨_, rfl, by simp⟩, _,
          ⟨rfl, hbounds⟩, rfl⟩

/-- What the reader of host records asks beyond their validation. -/
def HostInteractionRecord.wireSafe (record : HostInteractionRecord) : Bool :=
  record.claimToken.all (fun token => token.utf8ByteSize ≤ controllerCommandMaxUtf8Bytes) &&
    record.resolvedRevision.all (· ≤ maxWireInteger) &&
    record.consumedRevision.all (· ≤ maxWireInteger) &&
    record.lastError.all fun text => text.utf8ByteSize ≤ hostInteractionContentMaxUtf8Bytes

omit [Platform] in
/-- A record has an answer and what belongs to it, or nothing of it. -/
theorem HostInteractionRecord.stateFieldsOk_answer {record : HostInteractionRecord}
    {message : String} (h : record.stateFieldsOk = some (true, message)) :
    record.response.isSome = record.responseDigest.isSome ∧
      record.response.isSome = record.commandId.isSome := by
  unfold stateFieldsOk at h
  simp only at h
  split at h
  all_goals
    first
    | cases h
    | simp only [Option.some.injEq, Prod.mk.injEq, Bool.and_eq_true, Option.isNone_iff_eq_none] at h
      simp_all

/-- What a valid record says about its answer and its lease. -/
theorem HostInteractionRecord.validate_answer {record : HostInteractionRecord}
    (h : record.validate = .ok ()) :
    (record.response = none ∧ record.responseDigest = none ∧ record.commandId = none ∨
      ∃ response, record.response = some response ∧ response.validate = .ok () ∧
        record.responseDigest = some response.responseDigest ∧
        record.commandId = some response.commandId) ∧
    ∀ n, record.leaseExpiresAtMs = some n → n ≤ maxWireInteger := by
  simp only [validate, bind_eq_ok, exists_const, refuse_eq_ok, require_eq_ok, Prod.exists] at h
  obtain ⟨_, _, _, _, _, _, _, _, fieldsOk, message, hstate, hok, h⟩ := h
  obtain rfl : fieldsOk = true := by simpa using hok
  obtain ⟨hdigest, hcommand⟩ := stateFieldsOk_answer hstate
  cases hresponse : record.response with
  | none =>
      simp only [hresponse, bind_eq_ok, exists_const, refuse_eq_ok, Bool.or_eq_false_iff] at h hdigest hcommand
      refine ⟨.inl ⟨rfl, by simpa using hdigest.symm, by simpa using hcommand.symm⟩, ?_⟩
      intro n hn
      simpa [hn] using h.1.2
  | some response =>
      simp only [hresponse, bind_eq_ok, exists_const, refuse_eq_ok, Bool.or_eq_false_iff,
        bne_eq_false_iff_eq] at h
      obtain ⟨_, hvalid, ⟨⟨_, hresponseDigest⟩, hcommandId⟩, ⟨_, hlease⟩, _⟩ := h
      refine ⟨.inr ⟨response, rfl, hvalid, hresponseDigest, hcommandId⟩, ?_⟩
      intro n hn
      simpa [hn] using hlease

/-- The sizes of an answer's digest and command id. -/
theorem HostInteractionResponse.validate_sizes {response : HostInteractionResponse}
    (h : response.validate = .ok ()) :
    response.responseDigest.utf8ByteSize ≤ 64 ∧
      response.commandId.utf8ByteSize ≤ controllerCommandMaxUtf8Bytes := by
  simp only [validate, checkAll_eq_ok, List.forall_mem_cons, badIdentity, unit_guard_bind,
    refuse_eq_ok, Bool.or_eq_false_iff, decide_eq_false_iff_not, Nat.not_lt, Bool.not_eq_false',
    isSha256, Bool.and_eq_true, beq_iff_eq] at h
  obtain ⟨_, ⟨_, _, _, hcommand, _⟩, _, _, hdigest, _⟩ := h
  exact ⟨hdigest.1.le, hcommand.2⟩

theorem HostInteractionRecord.fromValue_toValue_iff {record : HostInteractionRecord}
    (h : record.validate = .ok ()) :
    fromValue record.toValue = .ok record ↔ record.wireSafe = true := by
  have hnull : ∀ response, HostInteractionResponse.fromValue .null ≠ .ok response := by rintro _ ⟨⟩
  simp only [wireSafe, Bool.and_eq_true, Option.all_eq_true, decide_eq_true_eq]
  constructor
  · intro hread
    simp only [fromValue, bind_eq_ok, optionalString_eq_ok, optionalInteger_eq_ok, pure_ok,
      Except.ok.injEq] at hread
    obtain ⟨_, _, _, _, _, _, _, _, _, _, _, _, _, _, _, _, _, ⟨_, hclaim⟩, _, _, _, _, _, _, _, _,
      _, _, _, _, _, _, _, ⟨_, hresolved⟩, _, ⟨_, hconsumed⟩, _, ⟨_, herror⟩, _, _, rfl⟩ := hread
    exact ⟨⟨⟨hclaim, fun n hn => (hresolved n hn).1⟩, fun n hn => (hconsumed n hn).1⟩, herror⟩
  · rintro ⟨⟨⟨hclaim, hresolved⟩, hconsumed⟩, herror⟩
    obtain ⟨hanswer, hlease⟩ := validate_answer h
    have hparts := h
    simp only [validate, bind_eq_ok, exists_const, refuse_eq_ok, Bool.or_eq_false_iff,
      badIdentity, decide_eq_false_iff_not, Nat.not_lt, Bool.not_eq_false',
      beq_eq_false_iff_ne, bne_eq_false_iff_eq] at hparts
    obtain ⟨_, ⟨hid, hkey⟩, ⟨hpositive, hattempt⟩, _, hrequest, _,
      ⟨⟨hinteraction, hcycle⟩, _⟩, hdigest, _⟩ := hparts
    have hrequestParts := hrequest
    simp only [HostInteractionRequest.validate, checkAll_eq_ok, List.forall_mem_cons, badIdentity,
      unit_guard_bind, refuse_eq_ok, Bool.or_eq_false_iff, decide_eq_false_iff_not,
      Nat.not_lt] at hrequestParts
    obtain ⟨_, ⟨hinteractionOk, _⟩, ⟨_, hcycleRange⟩, _⟩ := hrequestParts
    rw [hinteraction] at hinteractionOk
    rw [hcycle] at hcycleRange
    have hresponse : (record.response.map HostInteractionResponse.toValue).getD .null = .null ∧
        record.response = none ∨
        ∃ response, record.response = some response ∧
          HostInteractionResponse.fromValue
            ((record.response.map HostInteractionResponse.toValue).getD .null) = .ok response := by
      rcases hanswer with ⟨hnone, _⟩ | ⟨response, hsome, hvalid, _⟩
      · exact .inl ⟨by rw [hnone]; rfl, hnone⟩
      · refine .inr ⟨response, hsome, ?_⟩
        rw [hsome]
        exact HostInteractionResponse.fromValue_toValue hvalid
    have hsizes : (∀ text, record.responseDigest = some text → text.utf8ByteSize ≤ 64) ∧
        ∀ text, record.commandId = some text →
          text.utf8ByteSize ≤ controllerCommandMaxUtf8Bytes := by
      rcases hanswer with ⟨_, hdigestNone, hcommandNone⟩ | ⟨response, _, hvalid, hdigestSome, hcommandSome⟩
      · simp [hdigestNone, hcommandNone]
      · have hbounds := HostInteractionResponse.validate_sizes hvalid
        simpa [hdigestSome, hcommandSome] using hbounds
    obtain ⟨schemaVersion, recordId, checkpointKey, interactionId, logicalCycle, attempt,
      claimToken, leaseExpiresAtMs, request, requestDigest, state, response, responseDigest,
      commandId, resolvedRevision, consumedRevision, lastError⟩ := record
    simp only [fromValue, bind_eq_ok, valueObject_eq_ok, requireFieldsWithOptional_eq_ok,
      requiredString_eq_ok, requiredNonEmptyString_eq_ok, requiredInteger_eq_ok,
      requiredDigest_eq_ok, optionalString_eq_ok, optionalInteger_eq_ok,
      optionalValue_eq_ok hnull, pure_ok]
    -- The error text is the one member that may be absent.
    cases lastError <;>
      exact ⟨_, rfl, (),
        ⟨by simp [containsKey, present, List.lookup_cons], by simp [present]⟩,
        _, rfl, _, ⟨rfl, hid⟩, _, ⟨rfl, hkey⟩, _, ⟨rfl, hinteractionOk⟩, _,
        ⟨rfl, hcycleRange, fun _ => hpositive⟩, _, ⟨rfl, hattempt, (by rintro ⟨⟩)⟩, _, ⟨rfl, hclaim⟩, _,
        ⟨rfl, fun n hn => ⟨hlease n hn, (by rintro ⟨⟩)⟩⟩, _,
        HostInteractionRequest.fromValue_toValue hrequest, _, ⟨rfl, hdigest⟩, _, rfl, _,
        hresponse, _, ⟨rfl, hsizes.1⟩, _, ⟨rfl, hsizes.2⟩, _,
        ⟨rfl, fun n hn => ⟨hresolved n hn, (by rintro ⟨⟩)⟩⟩, _,
        ⟨rfl, fun n hn => ⟨hconsumed n hn, (by rintro ⟨⟩)⟩⟩, _, ⟨rfl, herror⟩, (), h, rfl⟩

/-- What the reader of recovery results asks beyond their validation. -/
def HostInteractionRecoveryResult.wireSafe (result : HostInteractionRecoveryResult) : Bool :=
  result.recordId.utf8ByteSize ≤ controllerCommandMaxUtf8Bytes &&
    result.error.all fun text => text.utf8ByteSize ≤ hostInteractionContentMaxUtf8Bytes

omit [Platform] in
theorem HostInteractionRecoveryResult.fromValue_toValue_iff
    {result : HostInteractionRecoveryResult} (h : result.validate = .ok ()) :
    fromValue result.toValue = .ok result ↔ result.wireSafe = true := by
  simp only [wireSafe, Bool.and_eq_true, Option.all_eq_true, decide_eq_true_eq]
  constructor
  · intro hread
    simp only [fromValue, bind_eq_ok, requiredNonEmptyString_eq_ok, optionalString_eq_ok, pure_ok,
      Except.ok.injEq] at hread
    obtain ⟨_, _, _, _, _, _, _, _, _, ⟨_, _, hrecord⟩, _, _, _, _, _, _, _, _, _, _, _, _, _,
      ⟨_, herror⟩, _, _, rfl⟩ := hread
    exact ⟨hrecord, herror⟩
  · rintro ⟨hrecord, herror⟩
    have hparts := h
    simp only [validate, unit_guard_bind, refuse_eq_ok, Bool.or_eq_false_iff,
      decide_eq_false_iff_not, Nat.not_lt] at hparts
    obtain ⟨_, ⟨_, hblank⟩, hcount, _, hrevision, hconsumed, hattempt, _⟩ := hparts
    have hcountRange : result.injectionCount ≤ maxWireInteger := hcount.trans (by decide)
    have hrevisionRange : ∀ n, result.checkpointRevision = some n →
        n ≤ maxWireInteger ∧ (false = true → n ≠ 0) := by
      intro n hn
      exact ⟨by simpa [hn] using hrevision, (by rintro ⟨⟩)⟩
    have hconsumedRange : ∀ n, result.consumedRevision = some n →
        n ≤ maxWireInteger ∧ (false = true → n ≠ 0) := by
      intro n hn
      exact ⟨by simpa [hn] using hconsumed, (by rintro ⟨⟩)⟩
    have hattemptRange : ∀ n, result.resumeAttempt = some n →
        n ≤ maxWireInteger ∧ (True → n ≠ 0) := by
      intro n hn
      simp only [hn, Option.any_some, Bool.or_eq_false_iff, beq_eq_false_iff_ne,
        decide_eq_false_iff_not, Nat.not_lt] at hattempt
      exact ⟨hattempt.2, fun _ => hattempt.1⟩
    obtain ⟨schemaVersion, kind, recordId, checkpointRevision, consumedRevision, claimMode,
      resumeAttempt, injectionCount, claimState, error⟩ := result
    simp only [fromValue, bind_eq_ok, valueObject_eq_ok, requireFieldsWithOptional_eq_ok,
      requiredString_eq_ok, requiredNonEmptyString_eq_ok, requiredInteger_eq_ok,
      optionalString_eq_ok, optionalInteger_eq_ok, pure_ok]
    -- The error text is the one member that may be absent.
    cases error <;>
      exact ⟨_, rfl, (), ⟨by simp [containsKey, present, List.lookup_cons], by simp [present]⟩,
        _, rfl, _, rfl, _, ⟨rfl, hblank, hrecord⟩, _, ⟨rfl, hrevisionRange⟩, _,
        ⟨rfl, hconsumedRange⟩, _, rfl, _, ⟨rfl, hattemptRange⟩, _, ⟨rfl, hcountRange, (by rintro ⟨⟩)⟩, _,
        rfl, _, ⟨rfl, herror⟩, (), h, rfl⟩

/-! Only valid values are read, and their digests are true. -/

theorem HostInteractionRequest.fromValue_valid (value : Json) :
    Yields (fromValue value) fun request => request.validate = .ok () := by
  unfold fromValue
  iterate 9 refine Yields.bind fun _ _ => ?_
  exact Yields.checked _ _

theorem HostInteractionRequest.validate_digest {request : HostInteractionRequest}
    (h : request.validate = .ok ()) : request.computedDigest = .ok request.requestDigest := by
  simp only [validate, validateDigest, bind_eq_ok, exists_const, refuse_eq_ok,
    bne_eq_false_iff_eq] at h
  obtain ⟨_, _, _, _, _, _, _, _, hdigest, rfl⟩ := h
  exact hdigest

theorem HostInteractionResponse.fromValue_valid (value : Json) :
    Yields (fromValue value) fun response => response.validate = .ok () := by
  unfold fromValue
  iterate 11 refine Yields.bind fun _ _ => ?_
  exact Yields.checked _ _

theorem HostInteractionResponse.validate_digest {response : HostInteractionResponse}
    (h : response.validate = .ok ()) : response.computedDigest = .ok response.responseDigest := by
  simp only [validate, bind_eq_ok, exists_const, refuse_eq_ok, bne_eq_false_iff_eq] at h
  obtain ⟨_, _, _, _, _, _, _, _, _, hdigest, rfl⟩ := h
  exact hdigest

theorem ControllerCommand.fromValue_valid (value : Json) :
    Yields (fromValue value) fun command => command.validate = .ok () := by
  unfold fromValue
  iterate 9 refine Yields.bind fun _ _ => ?_
  exact Yields.checked _ _

theorem ControllerCommand.validate_digest {command : ControllerCommand}
    (h : command.validate = .ok ()) : command.computedDigest = .ok command.commandDigest := by
  cases hkind : command.command with
  | hostInteractionResponse answer =>
      simp only [validate, hkind, bind_eq_ok, exists_const, refuse_eq_ok,
        bne_eq_false_iff_eq] at h
      obtain ⟨_, _, _, _, _, _, _, _, _, _, _, _, hdigest, rfl⟩ := h
      exact hdigest
  | _ =>
      simp only [validate, hkind, bind_eq_ok, exists_const, refuse_eq_ok,
        bne_eq_false_iff_eq] at h
      obtain ⟨_, _, _, _, _, _, _, hdigest, rfl⟩ := h
      exact hdigest

omit [Platform] in
theorem ControllerCommandReceipt.fromValue_valid (value : Json) :
    Yields (fromValue value) fun receipt => receipt.validate = .ok () := by
  unfold fromValue
  iterate 14 refine Yields.bind fun _ _ => ?_
  exact Yields.checked _ _

omit [Platform] in
theorem ControllerCommandWake.fromValue_valid (value : Json) :
    Yields (fromValue value) fun wake => wake.validate = .ok () := by
  unfold fromValue
  iterate 6 refine Yields.bind fun _ _ => ?_
  exact Yields.checked _ _

omit [Platform] in
theorem ControllerCommandResolution.fromValue_valid (value : Json) :
    Yields (fromValue value) fun resolution => resolution.validate = .ok () := by
  have hdecision : ∀ (object : JsonObject)
      (decide : ControllerCommandReceipt → ControllerCommandWake → ControllerCommandResolution),
      (∀ receipt wake, (decide receipt wake).validate = (do receipt.validate; wake.validate)) →
      Yields (do
        let decision ← readDecision object
        return decide decision.1 decision.2) fun resolution => resolution.validate = .ok () := by
    intro object decide hvalidate
    refine Yields.bind fun decision hread => Yields.pure ?_
    obtain ⟨_, _, hreceipt, hwake⟩ := readDecision_eq_ok.mp hread
    rw [hvalidate, ControllerCommandReceipt.fromValue_valid _ _ hreceipt, ok_bind]
    exact ControllerCommandWake.fromValue_valid _ _ hwake
  unfold fromValue
  refine Yields.bind fun object _ => Yields.bind fun kind _ => ?_
  split
  · exact hdecision object .applied fun _ _ => rfl
  · exact hdecision object .replayed fun _ _ => rfl
  · iterate 3 refine Yields.bind fun _ _ => ?_
    exact Yields.pure rfl
  · exact Yields.error _

theorem ControllerCommandWakeRecord.fromValue_valid (value : Json) :
    Yields (fromValue value) fun record => record.validate = .ok () := by
  unfold fromValue
  iterate 19 refine Yields.bind fun _ _ => ?_
  exact Yields.checked _ _

theorem ControllerCommandWakeRecord.validate_outboxId {record : ControllerCommandWakeRecord}
    (h : record.validate = .ok ()) :
    controllerReceiptOutboxId record.commandId record.commandDigest = .ok record.outboxId := by
  simp only [validate, bind_eq_ok, exists_const, refuse_eq_ok, Bool.or_eq_false_iff,
    bne_eq_false_iff_eq] at h
  obtain ⟨_, _, _, _, outboxId, hid, ⟨_, rfl⟩, _⟩ := h
  exact hid

theorem HostInteractionRecord.fromValue_valid (value : Json) :
    Yields (fromValue value) fun record => record.validate = .ok () := by
  unfold fromValue
  iterate 19 refine Yields.bind fun _ _ => ?_
  exact Yields.checked _ _

omit [Platform] in
theorem HostInteractionRecoveryEnvelope.fromValue_valid (value : Json) :
    Yields (fromValue value) fun envelope => envelope.validate = .ok () := by
  unfold fromValue
  iterate 16 refine Yields.bind fun _ _ => ?_
  exact Yields.checked _ _

omit [Platform] in
theorem HostInteractionRecoveryResult.fromValue_valid (value : Json) :
    Yields (fromValue value) fun result => result.validate = .ok () := by
  unfold fromValue
  iterate 12 refine Yields.bind fun _ _ => ?_
  exact Yields.checked _ _

end

/-- A wire type: its validation, its writer, its reader, and the digests that a value
embeds, each with the digest of what it stands for. -/
structure Codec (α : Type) where
  validate : α → CheckpointResult Unit
  toValue : α → Json
  fromValue : Json → CheckpointResult α
  digests : α → List (String × CheckpointResult String) := fun _ => []

/-- A valid value is read back exactly if it is `safe`, and only valid values with true
digests are read at all. -/
structure Codec.Exact {α : Type} (codec : Codec α) (safe : α → Bool) : Prop where
  roundTrip : ∀ a, codec.validate a = .ok () →
    (codec.fromValue (codec.toValue a) = .ok a ↔ safe a = true)
  valid : ∀ value a, codec.fromValue value = .ok a →
    codec.validate a = .ok () ∧ ∀ digest ∈ codec.digests a, digest.2 = .ok digest.1

section
variable [Platform]

def ControllerCommand.codec : Codec ControllerCommand where
  validate := validate
  toValue := toValue
  fromValue := fromValue
  digests command := [(command.commandDigest, command.computedDigest)]

def ControllerCommandReceipt.codec : Codec ControllerCommandReceipt where
  validate := validate
  toValue := toValue
  fromValue := fromValue

def ControllerCommandResolution.codec : Codec ControllerCommandResolution where
  validate := validate
  toValue := toValue
  fromValue := fromValue

def ControllerCommandWakeRecord.codec : Codec ControllerCommandWakeRecord where
  validate := validate
  toValue := toValue
  fromValue := fromValue
  digests record :=
    [(record.outboxId, controllerReceiptOutboxId record.commandId record.commandDigest)]

def HostInteractionRequest.codec : Codec HostInteractionRequest where
  validate := validate
  toValue := toValue
  fromValue := fromValue
  digests request := [(request.requestDigest, request.computedDigest)]

def HostInteractionResponse.codec : Codec HostInteractionResponse where
  validate := validate
  toValue := toValue
  fromValue := fromValue
  digests response := [(response.responseDigest, response.computedDigest)]

def HostInteractionRecord.codec : Codec HostInteractionRecord where
  validate := validate
  toValue := toValue
  fromValue := fromValue
  digests record :=
    [(record.recordId, .ok (recordIdFor record.checkpointKey record.request)),
      (record.requestDigest, record.request.computedDigest),
      (record.request.requestDigest, record.request.computedDigest)] ++
    record.response.toList.flatMap fun response =>
      (response.responseDigest, response.computedDigest) ::
        record.responseDigest.toList.map fun digest => (digest, response.computedDigest)

def HostInteractionRecoveryEnvelope.codec : Codec HostInteractionRecoveryEnvelope where
  validate := validate
  toValue := toValue
  fromValue := fromValue

def HostInteractionRecoveryResult.codec : Codec HostInteractionRecoveryResult where
  validate := validate
  toValue := toValue
  fromValue := fromValue

/-- The digests inside a valid host record. -/
theorem HostInteractionRecord.validate_digests {record : HostInteractionRecord}
    (h : record.validate = .ok ()) :
    ∀ digest ∈ codec.digests record, digest.2 = .ok digest.1 := by
  have hparts := h
  simp only [validate, bind_eq_ok, exists_const, refuse_eq_ok, Bool.or_eq_false_iff,
    bne_eq_false_iff_eq] at hparts
  obtain ⟨_, _, _, _, hrequest, hid, ⟨_, hdigest⟩, _⟩ := hparts
  have hcomputed := HostInteractionRequest.validate_digest hrequest
  obtain ⟨hanswer, _⟩ := validate_answer h
  simp only [codec, List.forall_mem_append, List.forall_mem_cons, List.not_mem_nil,
    IsEmpty.forall_iff, implies_true, and_true]
  refine ⟨⟨by rw [hid], by rw [hcomputed, hdigest], hcomputed⟩, ?_⟩
  rcases hanswer with ⟨hnone, _⟩ | ⟨response, hsome, hvalid, hresponseDigest, _⟩
  · simp [hnone]
  · have hresponse := HostInteractionResponse.validate_digest hvalid
    simp [hsome, hresponseDigest, hresponse]

omit [Platform] in
/-- A round trip that needs nothing beyond validity. -/
theorem Codec.Exact.of_roundTrip {α : Type} {codec : Codec α}
    (hround : ∀ a, codec.validate a = .ok () → codec.fromValue (codec.toValue a) = .ok a)
    (hvalid : ∀ value, Yields (codec.fromValue value) fun a => codec.validate a = .ok ())
    (hdigests : ∀ a, codec.validate a = .ok () →
      ∀ digest ∈ codec.digests a, digest.2 = .ok digest.1) :
    codec.Exact fun _ => true where
  roundTrip a ha := iff_of_true (hround a ha) rfl
  valid value a hread := ⟨hvalid value a hread, hdigests a (hvalid value a hread)⟩

/-- The wire codecs of the controller: six of the nine read every valid value back; host
records, recovery results and resolutions do so exactly within the reader's bounds. What
is read is valid, with true digests. -/
theorem wire_codecs_exact :
    ControllerCommand.codec.Exact (fun _ => true) ∧
      ControllerCommandReceipt.codec.Exact (fun _ => true) ∧
      ControllerCommandResolution.codec.Exact ControllerCommandResolution.wireSafe ∧
      ControllerCommandWakeRecord.codec.Exact (fun _ => true) ∧
      HostInteractionRequest.codec.Exact (fun _ => true) ∧
      HostInteractionResponse.codec.Exact (fun _ => true) ∧
      HostInteractionRecord.codec.Exact HostInteractionRecord.wireSafe ∧
      HostInteractionRecoveryEnvelope.codec.Exact (fun _ => true) ∧
      HostInteractionRecoveryResult.codec.Exact HostInteractionRecoveryResult.wireSafe := by
  refine ⟨?_, ?_, ?_, ?_, ?_, ?_, ?_, ?_, ?_⟩
  · refine .of_roundTrip (fun _ => ControllerCommand.fromValue_toValue)
      ControllerCommand.fromValue_valid fun command h => ?_
    simpa [ControllerCommand.codec] using ControllerCommand.validate_digest h
  · exact .of_roundTrip (fun _ => ControllerCommandReceipt.fromValue_toValue)
      ControllerCommandReceipt.fromValue_valid fun _ _ => by simp [ControllerCommandReceipt.codec]
  · exact ⟨fun _ => ControllerCommandResolution.fromValue_toValue_iff, fun value _ hread =>
      ⟨ControllerCommandResolution.fromValue_valid value _ hread,
        by simp [ControllerCommandResolution.codec]⟩⟩
  · refine .of_roundTrip (fun _ => ControllerCommandWakeRecord.fromValue_toValue)
      ControllerCommandWakeRecord.fromValue_valid fun record h => ?_
    simpa [ControllerCommandWakeRecord.codec] using
      ControllerCommandWakeRecord.validate_outboxId h
  · refine .of_roundTrip (fun _ => HostInteractionRequest.fromValue_toValue)
      HostInteractionRequest.fromValue_valid fun request h => ?_
    simpa [HostInteractionRequest.codec] using HostInteractionRequest.validate_digest h
  · refine .of_roundTrip (fun _ => HostInteractionResponse.fromValue_toValue)
      HostInteractionResponse.fromValue_valid fun response h => ?_
    simpa [HostInteractionResponse.codec] using HostInteractionResponse.validate_digest h
  · exact ⟨fun _ => HostInteractionRecord.fromValue_toValue_iff, fun value _ hread =>
      ⟨HostInteractionRecord.fromValue_valid value _ hread,
        HostInteractionRecord.validate_digests
          (HostInteractionRecord.fromValue_valid value _ hread)⟩⟩
  · exact .of_roundTrip (fun _ => HostInteractionRecoveryEnvelope.fromValue_toValue)
      HostInteractionRecoveryEnvelope.fromValue_valid fun _ _ => by
        simp [HostInteractionRecoveryEnvelope.codec]
  · exact ⟨fun _ => HostInteractionRecoveryResult.fromValue_toValue_iff, fun value _ hread =>
      ⟨HostInteractionRecoveryResult.fromValue_valid value _ hread,
        by simp [HostInteractionRecoveryResult.codec]⟩⟩

end

/-- A text of `n` letters. -/
def letters (n : Nat) : String := String.ofList (List.replicate n 'a')

theorem letters_utf8ByteSize (n : Nat) : (letters n).utf8ByteSize = n := by
  rw [← String.size_toByteArray, letters, String.toByteArray_ofList, List.utf8Encode]
  simp [List.flatMap_replicate, String.utf8EncodeChar]

theorem letters_isBlank {n : Nat} (h : n ≠ 0) : isBlank (letters n) = false := by
  simp [letters, isBlank, isWhitespace, List.all_replicate, h]

/-- A rejection whose record id is one byte too long for the reader. -/
def longRejection : HostInteractionRecoveryResult where
  schemaVersion := hostInteractionRecoveryResultSchema
  kind := "rejected"
  recordId := letters 513
  checkpointRevision := none
  consumedRevision := none
  claimMode := "recovery"
  resumeAttempt := none
  injectionCount := 0
  checkpointExecutionClaimState := "not_acquired"
  error := some "stale"

/-- The rejection is valid, and its reader refuses what its writer wrote. -/
theorem longRejection_unreadable :
    longRejection.validate = .ok () ∧
      HostInteractionRecoveryResult.fromValue longRejection.toValue ≠ .ok longRejection := by
  have hvalid : longRejection.validate = .ok () := by
    simp only [HostInteractionRecoveryResult.validate, longRejection,
      letters_isBlank (show 513 ≠ 0 by decide)]
    decide
  refine ⟨hvalid, ?_⟩
  intro hread
  have hsafe := (HostInteractionRecoveryResult.fromValue_toValue_iff hvalid).mp hread
  simp only [HostInteractionRecoveryResult.wireSafe, longRejection, letters_utf8ByteSize,
    Bool.and_eq_true] at hsafe
  exact absurd hsafe.1 (by decide)

end VvAgent
