import CloudioOrchestrator.Visits

/-! # Without a key

Once there are keys, whoever presents none of them can do one thing to the database:
have a run that waits for something looked at earlier.
-/

namespace CloudioOrchestrator

open Interaction Registry

/-- The visitor comes with none of the configured keys. -/
def Keyless (authenticator : ApiKeyAuthenticator) (visitor : Visitor) : Prop :=
  ∀ entry ∈ authenticator.keys, visitor.apiKey ≠ some entry.2

/-- Statements that write nothing but when a run is due. -/
def Harmless : Statement → Prop
  | .workflowsInsert _ | .workflowsUpdate .. | .runsCreate _ => False
  | _ => True

/-- The due time of one run was moved to now. -/
def isWake : Move system → Bool
  | .outside (.wake _) => true
  | _ => false

section Gate

variable {authenticator : ApiKeyAuthenticator} {visitor : Visitor}

theorem identify_keyless (hkeyless : Keyless authenticator visitor) :
    authenticator.identify visitor.apiKey = none := by
  cases hkey : visitor.apiKey with
  | none => rfl
  | some presented =>
      simp only [ApiKeyAuthenticator.identify]
      split
      next => rfl
      next =>
        -- no entry of those that are compared changes what was found
        have hfold : ∀ keys : List (String × String), (∀ entry ∈ keys, presented ≠ entry.2) →
            keys.foldl (fun found entry => if presented = entry.2 then some entry.1 else found)
              none = none := by
          intro keys hkeys
          induction keys with
          | nil => rfl
          | cons entry keys ih =>
              rw [List.foldl_cons, if_neg (hkeys entry List.mem_cons_self)]
              exact ih fun other hother => hkeys other (List.mem_cons_of_mem _ hother)
        apply hfold
        intro entry hentry hsame
        apply hkeyless entry hentry
        rw [hkey, hsame]

theorem answer_keyless (henabled : authenticator.enabled = true)
    (hkeyless : Keyless authenticator visitor) (hgated : visitor.request.gated = true) :
    authenticator.answer visitor = .ret ⟨401, .detail "Missing or invalid API key."⟩ := by
  simp [ApiKeyAuthenticator.answer, ApiKeyAuthenticator.requireApiKey, hgated, henabled,
    identify_keyless hkeyless]

theorem wakeAll_harmless (runIds : List UUID) (woken : Nat) :
    (Route.wakeAll runIds woken).Only Harmless := by
  induction runIds generalizing woken with
  | nil => trivial
  | cons runId rest ih =>
      refine ⟨trivial, ?_⟩
      intro answer
      cases answer with
      | error error => trivial
      | ok known =>
          cases known with
          | true => exact ih (woken + 1)
          | false => exact ih woken

theorem wakeFound_harmless (found : Except DbError (List WorkflowRun)) :
    (Route.wakeFound found).Only Harmless := by
  cases found with
  | error error => trivial
  | ok runs => exact wakeAll_harmless _ 0

/-- The routes outside the gate look up and wake, and that is all. -/
theorem route_harmless (hopen : visitor.request.gated = false) :
    visitor.request.route.Only Harmless := by
  cases hrequest : visitor.request with
  | ticketApprovalCallback ticketId => exact ⟨trivial, wakeFound_harmless⟩
  | engineRunCallback engineRunId => exact ⟨trivial, wakeFound_harmless⟩
  | _ => simp [hrequest, Request.gated] at hopen

theorem answer_harmless (henabled : authenticator.enabled = true)
    (hkeyless : Keyless authenticator visitor) : (authenticator.answer visitor).Only Harmless := by
  cases hgated : visitor.request.gated with
  | true =>
      rw [answer_keyless henabled hkeyless hgated]
      trivial
  | false =>
      rw [answer_admitted (by simp [ApiKeyAuthenticator.rejects, hgated])]
      exact route_harmless hgated

end Gate

section Weaving

variable {executor : Executor} {authenticator : ApiKeyAuthenticator}

/-- The site as it was but for its drives, which went on as they were told to, with
some wakes woven in. -/
structure Woven (executor : Executor) (before : Site) (events : List Backstage) (site : Site) :
    Prop where
  registry : site.registry = before.registry
  journal : site.journal = before.journal
  drives : ∃ moves, site.drives = Pool.run executor.handle moves before.drives ∧
    moves.filter (fun move => !isWake move) = events.map Backstage.move

theorem Woven.moved {before site : Site} {events : List Backstage}
    (hwoven : Woven executor before events site) (move : Move system) (more : List Backstage)
    (hmore : [move].filter (fun move => !isWake move) = more.map Backstage.move) :
    Woven executor before (events ++ more)
      { site with drives := site.drives.step executor.handle move } where
  registry := hwoven.registry
  journal := hwoven.journal
  drives := by
    obtain ⟨moves, hdrives, hmoves⟩ := hwoven.drives
    refine ⟨moves ++ [move], ?_, ?_⟩
    · rw [hdrives, Pool.run_append]
      rfl
    · rw [List.filter_append, hmoves, hmore, List.map_append]

theorem Woven.backstage {before site : Site} {events : List Backstage}
    (hwoven : Woven executor before events site) (event : Backstage) :
    Woven executor before (events ++ [event]) (site.backstage executor event) := by
  apply hwoven.moved
  cases event <;> rfl

theorem Woven.serve {before site : Site} {events : List Backstage}
    (hwoven : Woven executor before events site) (clerk : VisitorId) (ruling : Ruling)
    {statement : Statement} (hharmless : Harmless statement) :
    Woven executor before events (site.serve executor clerk ruling statement).2 := by
  have hread : ∀ {α : Type} (value : α),
      Woven executor before events (site.read ruling value).2 := by
    intro α value
    unfold Site.read
    split <;> exact hwoven
  have htold : ∀ {α : Type} {outcome : Except DbError α × Site},
      Woven executor before events outcome.2 →
      Woven executor before events (Site.told clerk outcome).2 := by
    intro α outcome hlater
    apply Site.told_keeps _ hlater
    intro later hwoven
    exact ⟨hwoven.registry, hwoven.journal, hwoven.drives⟩
  cases statement with
  | workflowsInsert workflow => exact hharmless.elim
  | workflowsUpdate workflowId patch => exact hharmless.elim
  | runsCreate creation => exact hharmless.elim
  | runsWake runId =>
      have hwoken : Woven executor before (events ++ []) (site.act executor (.wake runId)) :=
        hwoven.moved (.outside (.wake runId)) [] rfl
      rw [List.append_nil] at hwoken
      apply htold
      simp only [Site.wake]
      split
      · exact hwoven
      · unfold Site.written
        split <;> exact hwoken
  | workflowsSelect identifier => exact htold (hread _)
  | workflowsList => exact htold (hread _)
  | runsGet runId => exact htold (hread _)
  | runsFindByTicketId ticketId => exact htold (hread _)
  | runsFindByVendorId vendorId => exact htold (hread _)
  | runsFindByEngineRunId engineRunId => exact htold (hread _)
  | runsListRecent limit => exact htold (hread _)

end Weaving

/-- Once there are keys, requests that come with none of them leave the registry as it
is, create no run, and come between the drives with wakes alone: those go on as if
nobody had asked, but for wakes. What the gate guards, they are refused. -/
theorem keyless_only_wakes (executor : Executor) (authenticator : ApiKeyAuthenticator)
    (clock : Time) (first later : List (Move (api executor)))
    (henabled : authenticator.enabled = true)
    (hinflight : ∀ thread ∈ (apiReached executor authenticator clock first).threads,
      Keyless authenticator thread.1 ∨ ∃ response, thread.2 = .ret response)
    (hkeyless : ∀ visitor, .start visitor ∈ later → Keyless authenticator visitor) :
    Woven executor (apiReached executor authenticator clock first).world (Pool.outsides later)
        (apiReached executor authenticator clock (first ++ later)).world ∧
      ∀ (serial : Nat) (visitor : Visitor) (body : Route),
        (apiReached executor authenticator clock (first ++ later)).threads[serial]? =
          some (visitor, body) → Keyless authenticator visitor → visitor.request.gated = true →
        body = .ret ⟨401, .detail "Missing or invalid API key."⟩ := by
  constructor
  · have hsplit : apiReached executor authenticator clock (first ++ later) =
        Pool.run authenticator.answer later (apiReached executor authenticator clock first) := by
      simp only [apiReached, Pool.run_append]
    have hwoven : Woven executor (apiReached executor authenticator clock first).world
        ([] ++ Pool.outsides later) (Pool.run authenticator.answer later
          (apiReached executor authenticator clock first)).world := by
      apply Pool.run_only
      · intro client ruling statement site events hharmless hwoven
        exact hwoven.serve client ruling hharmless
      · intro event site events hwoven
        exact hwoven.backstage event
      · intro thread hthread
        cases hinflight thread hthread with
        | inl hkeyless =>
            obtain ⟨serial, hserial⟩ := List.mem_iff_getElem?.mp hthread
            exact Pool.thread_only hserial (answer_harmless henabled hkeyless)
        | inr hreturned =>
            obtain ⟨response, hresponse⟩ := hreturned
            rw [hresponse]
            trivial
      · intro visitor hstart
        exact answer_harmless henabled (hkeyless visitor hstart)
      · exact ⟨rfl, rfl, [], rfl, rfl⟩
    rw [hsplit]
    exact hwoven
  · intro serial visitor body hthread hvisit hgated
    have hanswer := answer_keyless henabled hvisit hgated
    have honly : body.Only fun _ => False := by
      apply Pool.thread_only hthread
      rw [hanswer]
      trivial
    cases body with
    | call statement next => exact honly.1.elim
    | ret response =>
        have hrejected : authenticator.rejects visitor = true := by
          simp [ApiKeyAuthenticator.rejects, ApiKeyAuthenticator.requireApiKey, hgated, henabled,
            identify_keyless hvisit]
        rw [requireApiKey_eq (answer_rejected hrejected hthread)]

section Examples

/-- A callback, and a list of the registrations asked for with a wrong key. -/
def strangers : List (Move (api sampleExecutor)) :=
  [.start ⟨none, .ticketApprovalCallback "RITM0000001"⟩, .start ⟨some "guess", .listWorkflows⟩,
    .advance 3 uneventful, .outside (.tick 5), .advance 3 uneventful, .outside (.tick 7)]

theorem keyless_only_wakes_strangers :
    Woven sampleExecutor (apiReached sampleExecutor samplePortal 0 patching).world
        [.tick 5, .tick 7]
          (apiReached sampleExecutor samplePortal 0 (patching ++ strangers)).world ∧
      ∀ body, (apiReached sampleExecutor samplePortal 0 (patching ++ strangers)).threads[4]? =
          some (⟨some "guess", .listWorkflows⟩, body) →
        body = .ret ⟨401, .detail "Missing or invalid API key."⟩ := by
  have hkeyless : ∀ presented request, presented ≠ some "secret" →
      Keyless samplePortal ⟨presented, request⟩ := by
    intro presented request hne entry hentry
    rw [List.mem_singleton.mp hentry]
    exact hne
  have hbodies : (apiReached sampleExecutor samplePortal 0 patching).threads.map Prod.snd =
      [.ret ⟨201, .workflow ⟨sampleId, patchRequest.workflow⟩⟩,
        .ret ⟨201, .run (triggered 0 sampleId patchRequest.workflow automationSample).response⟩,
        .ret ⟨200, .workflow
          ⟨sampleId, { patchRequest.workflow with automationId := "vm_patch_2" }⟩⟩] := rfl
  obtain ⟨hwoven, hrefused⟩ := keyless_only_wakes sampleExecutor samplePortal 0 patching strangers
    rfl
    (by
      intro thread hthread
      have hbody : thread.2 ∈ _ := List.mem_map_of_mem hthread
      rw [hbodies] at hbody
      simp only [List.mem_cons, List.not_mem_nil, or_false] at hbody
      rcases hbody with heq | heq | heq
      all_goals exact .inr ⟨_, heq⟩)
    (by
      intro visitor hstart
      simp only [strangers, List.mem_cons, Move.start.injEq, reduceCtorEq, or_false,
        List.not_mem_nil] at hstart
      cases hstart with
      | inl heq =>
          rw [heq]
          exact hkeyless _ _ (by decide)
      | inr heq =>
          rw [heq]
          exact hkeyless _ _ (by decide))
  exact ⟨hwoven, fun body hthread => hrefused 4 _ body hthread (hkeyless _ _ (by decide)) rfl⟩

end Examples

end CloudioOrchestrator
