import CloudioOrchestrator.Narrative
import CloudioOrchestrator.Interaction.Dedup

/-! # Idempotency keys

Which keys the calls of a run carry, whatever its drives do, and how many
records providers that deduplicate on the key hold for it.
-/

namespace CloudioOrchestrator

open Interaction

/-- What a provider holds under an idempotency key. -/
inductive Holding
  | ticket
  | resource
  | submission
  | engineRun (engine : WorkflowEngineType)
deriving DecidableEq, Repr

def Holding.isEngineRun : Holding → Bool
  | .engineRun _ => true
  | .ticket | .resource | .submission => false

/-- What a call makes its provider hold, and under which key. -/
def Call.keyed : Call → Option (Holding × String)
  | .openTicket _ _ _ key => some (.ticket, key)
  | .createResource _ _ _ key => some (.resource, key)
  | .submit _ key => some (.submission, key)
  | .triggerWorkflow engine _ _ key => some (.engineRun engine, key)
  | _ => none

/-- The engine's key for an attempt of a run. -/
def attemptKey (run : WorkflowRun) (attempt : Int) : String :=
  run.runId.str ++ ":" ++ StepName.runEngine.value ++ ":" ++ toString attempt

/-- The keys a run may use: one for each of its steps, and one for each attempt
at its engine that its retries leave room for. -/
inductive KeyOf (origin : WorkflowRun) : Holding → String → Prop
  | ticket : KeyOf origin .ticket (idemKey origin .createTicket)
  | resource : KeyOf origin .resource (idemKey origin .configureResource)
  | submission : KeyOf origin .submission (idemKey origin .submitLegacy)
  | engineRun (attempt : Int) (hnonneg : 0 ≤ attempt) (hle : attempt ≤ origin.maxRetries) :
      KeyOf origin (.engineRun origin.runState.workflow.engineType) (attemptKey origin attempt)

/-- The id of a run can be read off anything that starts with it. -/
theorem UUID.str_append_injective {first second : UUID} {rest rest' : String}
    (heq : first.str ++ rest = second.str ++ rest') : first = second := by
  have hchars : first.chars ++ rest.toList = second.chars ++ rest'.toList := by
    have := congrArg String.toList heq
    simpa [UUID.str] using this
  have hlength : first.chars.length = second.chars.length := by
    rw [UUID.chars_length, UUID.chars_length]
  exact UUID.chars_injective (List.append_inj_left hchars hlength)

theorem KeyOf.starts {origin : WorkflowRun} {holding : Holding} {key : String}
    (hkey : KeyOf origin holding key) : ∃ rest, key = origin.runId.str ++ rest := by
  cases hkey <;> simp only [idemKey, attemptKey, String.append_assoc] <;> exact ⟨_, rfl⟩

/-- No two runs share a key, not even for different things. -/
theorem KeyOf.run_unique {first second : WorkflowRun} {holding other : Holding} {key : String}
    (hfirst : KeyOf first holding key) (hsecond : KeyOf second other key) :
    first.runId = second.runId := by
  obtain ⟨rest, hrest⟩ := hfirst.starts
  obtain ⟨rest', hrest'⟩ := hsecond.starts
  exact UUID.str_append_injective (hrest.symm.trans hrest')

/-- Runs that carry on the same creation use the same keys. -/
theorem KeyOf.of_continues {origin run : WorkflowRun} (hsame : origin.Continues run)
    {holding : Holding} {key : String} (hkey : KeyOf run holding key) :
    KeyOf origin holding key := by
  obtain ⟨⟨hid, -, -, -, hretries⟩, hworkflow, -⟩ := hsame
  cases hkey with
  | ticket => exact (show idemKey run .createTicket = idemKey origin .createTicket by
      simp [idemKey, hid]) ▸ .ticket
  | resource => exact (show idemKey run .configureResource = idemKey origin .configureResource by
      simp [idemKey, hid]) ▸ .resource
  | submission => exact (show idemKey run .submitLegacy = idemKey origin .submitLegacy by
      simp [idemKey, hid]) ▸ .submission
  | engineRun attempt hnonneg hle =>
      rw [← hworkflow, show attemptKey run attempt = attemptKey origin attempt by
        simp [attemptKey, hid]]
      exact .engineRun attempt hnonneg (hretries ▸ hle)

/-- The attempts at the engine are within the run's retries. -/
def withinRetries : Fact :=
  .only fun run =>
    0 ≤ run.runState.attempts .runEngine ∧ run.runState.attempts .runEngine ≤ run.maxRetries

theorem withinRetries_steady : withinRetries.Steady := by
  rintro run changed history hwithin ⟨⟨-, -, -, -, hretries⟩, _, _, _, hstate⟩
  simpa [withinRetries, Fact.only, RunState.attempts, hstate, ← hretries] using hwithin

theorem withinRetries_born {run : WorkflowRun} {history : History} (hrun : Newborn run) :
    withinRetries run history := by
  simp [withinRetries, Fact.only, RunState.attempts, hrun.attempts, hrun.maxRetries_nonneg]

/-- A call carries a key of the run it is made for. -/
def CarriesKey (event : Event) (older : History) : Prop :=
  match event with
  | .called drive _ call _ _ => ∀ holding key, call.keyed = some (holding, key) →
      ∃ origin, .created origin ∈ older ∧ origin.runId = drive.subject ∧ KeyOf origin holding key
  | _ => True

/-- The calls of a step carry the keys of the run, if its attempts are within its retries. -/
theorem HandlerCall.keyOf {run : WorkflowRun} {step : StepName} {call : Call}
    (hcall : HandlerCall run run.runState step call)
    (hwithin : 0 ≤ run.runState.attempts .runEngine ∧
      run.runState.attempts .runEngine ≤ run.maxRetries)
    {holding : Holding} {key : String} (hkeyed : call.keyed = some (holding, key)) :
    KeyOf run holding key := by
  cases hcall with
  | openTicket =>
      cases hkeyed
      exact .ticket
  | createResource =>
      cases hkeyed
      exact .resource
  | trigger =>
      cases hkeyed
      exact .engineRun _ hwithin.1 hwithin.2
  | submit =>
      cases hkeyed
      exact .submission
  | _ => cases hkeyed

theorem AsideCall.keyed {state : RunState} {issuer : Issuer} {call : Call}
    (hcall : AsideCall state issuer call) : call.keyed = none := by
  cases hcall with
  | incident request => rfl
  | aftermath hcall =>
      cases hcall with
      | release hcall => cases hcall <;> rfl
      | _ => rfl

theorem retried_attempts {engines : List WorkflowEngineType} {step : StepName}
    {handler : StepHandler} {run : WorkflowRun}
    (hhandler : buildHandlers engines step = some handler) :
    (retriedRun step handler run).runState.attempts .runEngine =
      if step = .runEngine then run.runState.attempts .runEngine + 1
      else run.runState.attempts .runEngine := by
  simp only [retriedRun, Executor.retryState, resetForRetry_eq hhandler, RunState.attempts,
    Executor.countAttempt]
  by_cases hstep : step = .runEngine
  · subst hstep
    simp [runEngineReset]
  · simp [hstep, StepMap.set_of_ne (Ne.symm hstep)]

theorem stepped_attempts (step : StepName) (run : WorkflowRun) :
    (steppedRun step run).runState.attempts .runEngine =
      if step = .runEngine then 0 else run.runState.attempts .runEngine := by
  simp only [steppedRun, RunState.attempts]
  by_cases hstep : step = .runEngine
  · subst hstep
    simp
  · simp [hstep, StepMap.pop_of_ne (Ne.symm hstep)]

theorem HandlerCall.carriesKey {drive : DriveId} {step : StepName} {run : WorkflowRun} {call : Call}
    {older : History} (answer : call.Answer) (applied : Bool) (hid : run.runId = drive.subject)
    (horigin : HasOrigin run older) (hwithin : withinRetries run older)
    (hcall : HandlerCall run run.runState step call) :
    CarriesKey (.called drive (.step step) call answer applied) older := by
  intro holding key hkeyed
  obtain ⟨origin, hcreated, -, hsame⟩ := horigin
  exact ⟨origin, hcreated, hsame.1.runId.trans hid, (hcall.keyOf hwithin hkeyed).of_continues hsame⟩

theorem AsideCall.carriesKey {state : RunState} {issuer : Issuer} {call : Call} (drive : DriveId)
    (answer : call.Answer) (applied : Bool) (older : History)
    (hcall : AsideCall state issuer call) :
    CarriesKey (.called drive issuer call answer applied) older := by
  intro holding key hkeyed
  rw [hcall.keyed] at hkeyed
  cases hkeyed

theorem HandlerEnd.withinRetries {engines : List WorkflowEngineType} {step : StepName}
    {run : WorkflowRun} {trace : Trace Providers} {outcome : Except PyException Bool}
    {final : RunState} {history : History} (hwithin : withinRetries run history)
    (hend : HandlerEnd engines run run.runState step trace outcome final) :
    CloudioOrchestrator.withinRetries { run with runState := final } history := by
  simpa [CloudioOrchestrator.withinRetries, Fact.only, RunState.attempts, hend.stepAttempts]
    using hwithin

/-- A retry counts one more attempt, and is only made up to the bound. -/
theorem withinRetries_retry {engines : List WorkflowEngineType} {step : StepName}
    {handler : StepHandler} {error : PyException} {run : WorkflowRun} {history : History}
    (hhandler : buildHandlers engines step = some handler) (hwithin : withinRetries run history)
    (hretry : mayRetry error (run.runState.attempts step + 1) run.maxRetries) :
    withinRetries (retriedRun step handler run) history := by
  have hle : run.runState.attempts step + 1 ≤ run.maxRetries := by
    simp only [mayRetry, decide_eq_true_eq] at hretry
    exact hretry.2
  simp only [withinRetries, Fact.only, retried_attempts hhandler] at hwithin ⊢
  change _ ∧ _ ≤ run.maxRetries
  split
  next hstep =>
    subst hstep
    omega
  next => exact hwithin

theorem withinRetries_stepped {step : StepName} {run : WorkflowRun} {older : History}
    {event : Event} (horigin : HasOrigin run older) (hwithin : withinRetries run older) :
    withinRetries (steppedRun step run) (event :: older) := by
  obtain ⟨origin, -, hborn, hsame, -⟩ := horigin
  have hnonneg : 0 ≤ run.maxRetries := hsame.maxRetries ▸ hborn.maxRetries_nonneg
  simp only [withinRetries, Fact.only, stepped_attempts] at hwithin ⊢
  change _ ∧ _ ≤ run.maxRetries
  split
  · omega
  · exact hwithin

/-- At every step the attempts at the engine are within the run's retries:
a retry counts one more only up to that bound, and passing the step starts over. -/
def keeping (engines : List WorkflowEngineType) : Narrative engines where
  before _ := withinRetries
  tried _ _ := withinRetries
  after _ := withinRetries
  done := withinRetries
  event := CarriesKey
  before_steady _ := withinRetries_steady
  done_steady := withinRetries_steady
  born := withinRetries_born
  created _ _ := trivial
  loaded _ _ _ := trivial
  saved _ _ _ _ := trivial
  logged _ _ _ _ := trivial
  aside drive _ _ _ answer applied older hcall := hcall.carriesKey drive answer applied older
  called := HandlerCall.carriesKey
  deadline _ hwithin := hwithin
  ended _ hwithin _ hend := hend.withinRetries hwithin
  poll hwithin := hwithin
  retry := withinRetries_retry
  completed _ horigin hwithin := ⟨trivial, withinRetries_stepped horigin hwithin⟩
  next hwithin _ _ := hwithin
  finish hwithin _ _ := hwithin

/-- What providers that deduplicate on the key hold after a history, and for
which run: the calls that took effect, in order. -/
def registered : History → Registry (Holding × String) UUID
  | [] => .empty
  | .called drive _ call _ true :: older =>
      match call.keyed with
      | some key => (registered older).enter key drive.subject
      | none => registered older
  | _ :: older => registered older

/-- How many records of a kind are held for a run. -/
def heldFor (runId : UUID) (kind : Holding → Bool) (history : History) : Nat :=
  ((registered history).records.filter fun entry =>
    kind entry.1.1 && decide (entry.2 = runId)).length

/-- What is held was asked for, by a call under its key. -/
theorem mem_registered {history : History} {holding : Holding} {key : String} {runId : UUID}
    (hentry : ((holding, key), runId) ∈ (registered history).records) :
    ∃ drive issuer call answer, .called drive issuer call answer true ∈ history ∧
      drive.subject = runId ∧ call.keyed = some (holding, key) := by
  induction history with
  | nil => cases hentry
  | cons event older ih =>
      have hlater : ((holding, key), runId) ∈ (registered older).records →
          ∃ drive issuer call answer, Event.called drive issuer call answer true ∈ event :: older ∧
            drive.subject = runId ∧ call.keyed = some (holding, key) := by
        intro hold
        obtain ⟨drive, issuer, call, answer, hcalled, hcall⟩ := ih hold
        exact ⟨drive, issuer, call, answer, List.mem_cons_of_mem _ hcalled, hcall⟩
      unfold registered at hentry
      split at hentry
      next heq => cases heq
      next drive issuer call answer _ heq =>
        obtain ⟨rfl, rfl⟩ := List.cons.inj heq
        split at hentry
        next entry hkeyed =>
          rcases Registry.mem_enter hentry with hnew | hold
          · obtain ⟨rfl, rfl⟩ := Prod.mk.inj hnew
            exact ⟨drive, issuer, call, answer, List.mem_cons_self, rfl, hkeyed⟩
          · exact hlater hold
        next => exact hlater hentry
      next heq =>
        obtain ⟨rfl, rfl⟩ := List.cons.inj heq
        exact hlater hentry

/-- The keys of the engine runs of a run. -/
def engineKeys (origin : WorkflowRun) : List (Holding × String) :=
  (List.range (origin.maxRetries.toNat + 1)).map fun attempt : Nat =>
    (.engineRun origin.runState.workflow.engineType, attemptKey origin attempt)

theorem engineKeys_length (origin : WorkflowRun) :
    (engineKeys origin).length = origin.maxRetries.toNat + 1 := by
  simp [engineKeys]

theorem mem_engineKeys {origin : WorkflowRun} {holding : Holding} {key : String}
    (hkind : holding.isEngineRun = true) (hkey : KeyOf origin holding key) :
    (holding, key) ∈ engineKeys origin := by
  cases hkey with
  | engineRun attempt hnonneg hle =>
      apply List.mem_map.mpr
      have hrange : attempt.toNat < origin.maxRetries.toNat + 1 := by omega
      refine ⟨attempt.toNat, List.mem_range.mpr hrange, ?_⟩
      rw [Int.toNat_of_nonneg hnonneg]
  | _ => cases hkind

/-- The key of a call on record is one of its run's. -/
theorem Account.Inv.carriesKey {engines : List WorkflowEngineType} {world : World}
    (hinv : (keeping engines).account.Inv world) {drive : DriveId} {issuer : Issuer} {call : Call}
    {answer : call.Answer} {applied : Bool} {holding : Holding} {key : String}
    (hcalled : .called drive issuer call answer applied ∈ world.history)
    (hkeyed : call.keyed = some (holding, key)) :
    ∃ origin, .created origin ∈ world.history ∧ origin.runId = drive.subject ∧
      KeyOf origin holding key := by
  obtain ⟨newer, older, hhistory⟩ := List.append_of_mem hcalled
  have hkept := hinv.kept
  rw [hhistory] at hkept ⊢
  obtain ⟨origin, hcreated, horigin⟩ := hkept.event holding key hkeyed
  exact ⟨origin, List.mem_append_right _ (List.mem_cons_of_mem _ hcreated), horigin⟩

/-- Records of a kind are held for a run under keys the run may use. -/
theorem heldFor_le {engines : List WorkflowEngineType} {world : World}
    (hinv : (keeping engines).account.Inv world) {origin : WorkflowRun}
    (hcreated : .created origin ∈ world.history) (kind : Holding → Bool)
    (allowed : List (Holding × String))
    (hallowed : ∀ holding key, kind holding = true → KeyOf origin holding key →
      (holding, key) ∈ allowed) :
    heldFor origin.runId kind world.history ≤ allowed.length := by
  apply Registry.length_filter_le
  rintro ⟨⟨holding, key⟩, runId⟩ hentry hkind
  rw [Bool.and_eq_true, decide_eq_true_eq] at hkind
  obtain ⟨drive, issuer, call, answer, hcalled, hsubject, hkeyed⟩ := mem_registered hentry
  obtain ⟨other, hother, hid, hkey⟩ := hinv.carriesKey hcalled hkeyed
  obtain rfl : origin = other := hinv.unique origin other hcreated hother
    (hkind.2.symm.trans (hsubject.symm.trans hid.symm))
  exact hallowed holding key hkind.1 hkey

/-- The calls that make a provider hold something carry keys of their run, no
two runs ever use the same key, and providers that deduplicate on the key hold
at most one ticket, one resource record and one legacy submission for a run, and
at most one engine run more than it has retries. -/
theorem side_effects_bounded_by_keys (engines : List WorkflowEngineType) (retryBase : Time)
    (defaultTeam : String) (clock : Time) (moves : List (Move system)) :
    let history := (reached (.wired engines retryBase defaultTeam) clock moves).world.history
    (∀ drive issuer call answer applied holding key,
      .called drive issuer call answer applied ∈ history → call.keyed = some (holding, key) →
      ∃ origin, .created origin ∈ history ∧ origin.runId = drive.subject ∧
        KeyOf origin holding key) ∧
    (∀ first issuer call answer applied second issuer' call' answer' applied' holding holding' key,
      .called first issuer call answer applied ∈ history →
      .called second issuer' call' answer' applied' ∈ history →
      call.keyed = some (holding, key) → call'.keyed = some (holding', key) →
      first.subject = second.subject) ∧
    (∀ origin, .created origin ∈ history →
      heldFor origin.runId (· = .ticket) history ≤ 1 ∧
      heldFor origin.runId (· = .resource) history ≤ 1 ∧
      heldFor origin.runId (· = .submission) history ≤ 1 ∧
      (heldFor origin.runId Holding.isEngineRun history : Int) ≤ origin.maxRetries + 1) := by
  intro history
  have hinv : (keeping engines).account.Inv
      (reached (.wired engines retryBase defaultTeam) clock moves).world :=
    Narrative.reached_inv _ rfl clock moves
  refine ⟨?_, ?_, fun origin hcreated => ⟨?_, ?_, ?_, ?_⟩⟩
  · intro drive issuer call answer applied holding key hcalled hkeyed
    exact hinv.carriesKey hcalled hkeyed
  · intro first issuer call answer applied second issuer' call' answer' applied' holding holding'
      key hcalled hcalled' hkeyed hkeyed'
    obtain ⟨origin, -, hid, hkey⟩ := hinv.carriesKey hcalled hkeyed
    obtain ⟨other, -, hid', hkey'⟩ := hinv.carriesKey hcalled' hkeyed'
    rw [← hid, ← hid', hkey.run_unique hkey']
  -- one key each, but for the engine runs: those have one for each attempt
  · apply heldFor_le hinv hcreated _ [(.ticket, idemKey origin .createTicket)]
    intro holding key hkind hkey
    cases hkey <;> simp_all
  · apply heldFor_le hinv hcreated _ [(.resource, idemKey origin .configureResource)]
    intro holding key hkind hkey
    cases hkey <;> simp_all
  · apply heldFor_le hinv hcreated _ [(.submission, idemKey origin .submitLegacy)]
    intro holding key hkind hkey
    cases hkey <;> simp_all
  · have hbound : heldFor origin.runId Holding.isEngineRun history ≤ (engineKeys origin).length :=
      heldFor_le hinv hcreated _ _ fun holding key => mem_engineKeys
    rw [engineKeys_length] at hbound
    have hnonneg := (hinv.newborn origin hcreated).maxRetries_nonneg
    omega

end CloudioOrchestrator
