import CloudioOrchestrator.PythonJson

/-! # Exception payloads

What the adapter makes of the entry that a failed task's callback published,
whatever was published there.
-/

namespace CloudioOrchestrator

namespace PythonBuild

variable (python : PythonBuild)

/-- The value of the entry, out of the response it comes wrapped in. -/
def entryValue : JsonValue → JsonValue
  | .object entries => (entries.lookup "value").getD .null
  | _ => .null

/-- The failure that the response describes; none where building it raises. -/
def failureFromResponse (failedTask : String) (body : JsonValue) : Option EngineFailure :=
  match entryValue body with
  | .string text =>
      match python.loads text with
      | .ok value => failureFromPayload failedTask value
      -- a plain text is the message itself
      | .error .decode => some { failedTask := some failedTask, detail := some text }
      -- no other error of `loads` is caught
      | .error _ => none
  | value => failureFromPayload failedTask value

/-- The payload, if what was published is an object or the text of one. -/
def payload (body : JsonValue) : Option (List (String × JsonValue)) :=
  match entryValue body with
  | .object entries => some entries
  | .string text =>
      match python.loads text with
      | .ok (.object entries) => some entries
      | _ => none
  | _ => none

/-- The classification the payload's exception asks for. -/
def namedKind (payload : Option (List (String × JsonValue))) : FailureKind :=
  match payload.bind fun entries => entries.lookup "exception" with
  | some (.string "ValidationException") => .validation
  | some (.string "InfraPrecheckException") => .infraPrecheck
  | _ => .task

/-- The response degrades as it should: to a failure that names the task, of the kind that the
exception names alone, with a text that is no payload kept as its detail. -/
def Degrades (failedTask : String) (body : JsonValue) : Prop :=
  ∃ failure, python.failureFromResponse failedTask body = some failure ∧
    failure.failedTask = some failedTask ∧ failure.kind = namedKind (python.payload body) ∧
    ∀ text, entryValue body = .string text → python.payload body = none →
      failure.detail = some text

/-- The fields of a payload that are handed on are texts, if they are there. -/
def Textual (entries : List (String × JsonValue)) : Prop :=
  ∀ key ∈ ["message", "responsible_group"], ∀ value, entries.lookup key = some value →
    value = .null ∨ ∃ text, value = .string text

section Payloads

variable {python : PythonBuild} {failedTask : String} {body : JsonValue}
  {entries : List (String × JsonValue)}

theorem asText_isSome_iff {value : JsonValue} :
    value.asText.isSome = true ↔ value = .null ∨ ∃ text, value = .string text := by
  cases value <;> simp [JsonValue.asText]

theorem textual_iff :
    Textual entries ↔
      ((entries.lookup "responsible_group").getD .null).asText.isSome = true ∧
        ((entries.lookup "message").getD .null).asText.isSome = true := by
  have hfield : ∀ key, ((entries.lookup key).getD .null).asText.isSome = true ↔
      ∀ value, entries.lookup key = some value → value = .null ∨ ∃ text, value = .string text := by
    intro key
    cases entries.lookup key with
    | none => simp [JsonValue.asText]
    | some value => simp [asText_isSome_iff]
  rw [hfield, hfield]
  simp [Textual, and_comm]

/-- A payload is read if its fields are texts, and refused if not. -/
theorem failureFromPayload_object (failedTask : String)
    (entries : List (String × JsonValue)) :
    (failureFromPayload failedTask (.object entries)).isSome = true ↔ Textual entries := by
  rw [textual_iff, failureFromPayload]
  cases ((entries.lookup "responsible_group").getD .null).asText with
  | none => simp
  | some group =>
      cases ((entries.lookup "message").getD .null).asText with
      | none => simp
      | some detail => simp

theorem failureFromPayload_spec {failure : EngineFailure}
    (hread : failureFromPayload failedTask (.object entries) = some failure) :
    failure.failedTask = some failedTask ∧ failure.kind = namedKind (some entries) := by
  simp only [failureFromPayload] at hread
  split at hread
  · obtain rfl := Option.some.inj hread
    refine ⟨rfl, ?_⟩
    unfold namedKind failureKind
    rw [Option.bind_some]
    cases hexception : entries.lookup "exception" with
    | none => rfl
    | some value =>
        cases value with
        | string name =>
            by_cases hvalidation : name = "ValidationException"
            · simp [hvalidation]
            · by_cases hprecheck : name = "InfraPrecheckException"
              · simp [hprecheck]
              · simp [hvalidation, hprecheck]
        | _ => rfl
  · cases hread

theorem failureFromPayload_group {failure : EngineFailure}
    (hread : failureFromPayload failedTask (.object entries) = some failure) (name : String) :
    failure.responsibleGroup = some name ↔
      entries.lookup "responsible_group" = some (.string name) := by
  simp only [failureFromPayload] at hread
  split at hread
  next group detail hgroup hdetail =>
    obtain rfl := Option.some.inj hread
    cases hfield : entries.lookup "responsible_group" with
    | none =>
        rw [hfield] at hgroup
        obtain rfl := Option.some.inj hgroup
        simp
    | some value =>
        rw [hfield] at hgroup
        cases value with
        | null =>
            obtain rfl := Option.some.inj hgroup
            simp
        | string text =>
            obtain rfl := Option.some.inj hgroup
            simp
        | _ => cases hgroup
  next => cases hread

/-- A response degrades as it should exactly where its payload, if it has one, hands on texts,
and a text that is no payload is no JSON at all. -/
theorem degrades_iff (python : PythonBuild) (failedTask : String) (body : JsonValue) :
    python.Degrades failedTask body ↔
      (∀ entries, python.payload body = some entries → Textual entries) ∧
        ∀ text, entryValue body = .string text → python.payload body = none →
          python.loads text = .error .decode := by
  -- where there is a payload, all hangs on its fields
  have hobject : ∀ entries, python.payload body = some entries →
      python.failureFromResponse failedTask body = failureFromPayload failedTask (.object entries) →
      (python.Degrades failedTask body ↔ Textual entries) := by
    intro entries hpayload hread
    rw [← failureFromPayload_object failedTask, Degrades, hread, hpayload]
    constructor
    · rintro ⟨failure, hfailure, -⟩
      rw [hfailure]
      rfl
    · intro hsome
      obtain ⟨failure, hfailure⟩ := Option.isSome_iff_exists.mp hsome
      obtain ⟨htask, hkind⟩ := failureFromPayload_spec hfailure
      exact ⟨failure, hfailure, htask, hkind, fun _ _ hnone => by cases hnone⟩
  cases hvalue : entryValue body with
  | object entries =>
      have hpayload : python.payload body = some entries := by simp [payload, hvalue]
      rw [hobject entries hpayload (by simp [failureFromResponse, hvalue]), hpayload]
      simp
  | string text =>
      cases hloads : python.loads text with
      | error error =>
          have hpayload : python.payload body = none := by simp [payload, hvalue, hloads]
          rw [hpayload]
          cases error with
          | decode =>
              have hread : python.failureFromResponse failedTask body =
                  some { failedTask := some failedTask, detail := some text } := by
                simp [failureFromResponse, hvalue, hloads]
              simp [Degrades, hread, hpayload, namedKind, hvalue, hloads]
          | _ => simp [Degrades, failureFromResponse, hvalue, hloads]
      | ok value =>
          cases value with
          | object entries =>
              have hpayload : python.payload body = some entries := by
                simp [payload, hvalue, hloads]
              rw [hobject entries hpayload (by simp [failureFromResponse, hvalue, hloads]),
                hpayload]
              simp
          | _ =>
              have hpayload : python.payload body = none := by simp [payload, hvalue, hloads]
              simp [Degrades, failureFromResponse, failureFromPayload, hvalue, hloads, hpayload]
  | _ =>
      have hpayload : python.payload body = none := by simp [payload, hvalue]
      simp [Degrades, failureFromResponse, failureFromPayload, hvalue, hpayload, namedKind]

/-- Where `loads` raises nothing else, the response is read by what it says of the entry. -/
theorem failureFromResponse_eq {codec : JsonCodec}
    (hloads : ∀ text, python.loads text = match codec.loads text with
      | some value => .ok value
      | none => .error .decode) :
    python.failureFromResponse failedTask body =
      failureFromXcom codec failedTask (entryValue body) := by
  unfold failureFromResponse
  cases entryValue body with
  | string text =>
      simp only [hloads, failureFromXcom]
      cases codec.loads text <;> rfl
  | _ => rfl

/-- The response is read without raising: the fields of a payload are texts, and of a text `loads`
raises nothing but that it is no JSON. -/
def Readable (python : PythonBuild) (body : JsonValue) : Prop :=
  (∀ entries, python.payload body = some entries → Textual entries) ∧
    ∀ text, entryValue body = .string text →
      python.loads text ≠ .error .tooManyDigits ∧ python.loads text ≠ .error .tooDeep

theorem failureFromResponse_isSome_iff (python : PythonBuild) (failedTask : String)
    (body : JsonValue) :
    (python.failureFromResponse failedTask body).isSome = true ↔ python.Readable body := by
  unfold failureFromResponse Readable payload
  cases entryValue body with
  | object entries => simp [failureFromPayload_object]
  | string text =>
      cases hloads : python.loads text with
      | error error => cases error <;> simp [hloads]
      | ok value =>
          cases value with
          | object entries => simp [hloads, failureFromPayload_object]
          | _ => simp [hloads, failureFromPayload]
  | _ => simp [failureFromPayload]

/-- The failure names the task, and the group that the payload names, if it names one. -/
theorem failureFromResponse_spec {failure : EngineFailure}
    (hread : python.failureFromResponse failedTask body = some failure) :
    failure.failedTask = some failedTask ∧ ∀ name, failure.responsibleGroup = some name ↔
      ∃ entries, python.payload body = some entries ∧
        entries.lookup "responsible_group" = some (.string name) := by
  have hobject : ∀ entries, failureFromPayload failedTask (.object entries) = some failure →
      python.payload body = some entries →
      failure.failedTask = some failedTask ∧ ∀ name, failure.responsibleGroup = some name ↔
        ∃ entries, python.payload body = some entries ∧
          entries.lookup "responsible_group" = some (.string name) := by
    intro entries hobject hpayload
    refine ⟨(failureFromPayload_spec hobject).1, fun name => ?_⟩
    rw [hpayload]
    simpa using failureFromPayload_group hobject name
  unfold failureFromResponse at hread
  cases hvalue : entryValue body with
  | object entries =>
      rw [hvalue] at hread
      exact hobject entries hread (by simp [payload, hvalue])
  | string text =>
      simp only [hvalue] at hread
      cases hloads : python.loads text with
      | error error =>
          have hpayload : python.payload body = none := by simp [payload, hvalue, hloads]
          rw [hloads] at hread
          cases error with
          | decode =>
              obtain rfl := Option.some.inj hread
              simp [hpayload]
          | _ => cases hread
      | ok value =>
          rw [hloads] at hread
          cases value with
          | object entries => exact hobject entries hread (by simp [payload, hvalue, hloads])
          | _ =>
              have hpayload : python.payload body = none := by simp [payload, hvalue, hloads]
              obtain rfl := Option.some.inj hread
              simp [hpayload]
  | _ =>
      have hpayload : python.payload body = none := by simp [payload, hvalue]
      rw [hvalue] at hread
      obtain rfl := Option.some.inj hread
      simp [hpayload]

/-- A payload whose message is a number. -/
def numberedPayload : JsonValue :=
  .object [("key", .string "exception_type"),
    ("value", .object [("message", .other "5" true),
      ("exception", .string "ValidationException"), ("responsible_group", .null)])]

theorem payload_not_degraded :
    ¬ ∀ (python : PythonBuild) (failedTask : String) (body : JsonValue),
      python.Degrades failedTask body := by
  intro hall
  obtain ⟨failure, hread, -⟩ := hall ⟨fun _ => true, fun text => (text, true), 1000⟩ "provision_vm"
    numberedPayload
  have hnone : PythonBuild.failureFromResponse ⟨fun _ => true, fun text => (text, true), 1000⟩
      "provision_vm" numberedPayload = none := by
    rfl
  rw [hnone] at hread
  cases hread

end Payloads

end PythonBuild

end CloudioOrchestrator
