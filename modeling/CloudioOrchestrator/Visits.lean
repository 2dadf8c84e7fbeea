import CloudioOrchestrator.Gateway

/-! # What requests are answered

Every answer about the registry is the one that the table warranted at one instant
between the receipt of the request and its answer, whatever other requests and the
drives did meanwhile.
-/

namespace CloudioOrchestrator

open Interaction Registry

/-- The request asks for registrations, or for a run of one. -/
def Request.concernsRegistry : Request → Bool
  | .registerWorkflow _ | .listWorkflows | .getWorkflow _ | .updateWorkflow ..
  | .triggerWorkflowRun .. => true
  | _ => false

def WorkflowRegisterRequest.workflow (request : WorkflowRegisterRequest) : Workflow where
  identifier := request.identifier
  name := request.name
  runType := request.runType
  engineType := request.engineType
  automationId := request.automationId
  ticketTemplateId := request.ticketTemplateId

/-- The registration as an update asks for it. -/
def WorkflowUpdateRequest.over (request : WorkflowUpdateRequest) (db : Workflow) : Workflow where
  identifier := db.identifier
  name := request.name
  runType := request.runType
  engineType := request.engineType
  automationId := request.automationId
  ticketTemplateId := request.ticketTemplateId

/-- The registrations as they were at an instant since. -/
structure Instant (since journal older newer : List Filing) : Prop where
  split : journal = newer ++ older
  later : ∃ middle, older = middle ++ since

/-- What the registry warrants at one instant since a request was received. -/
inductive Warranted (since : List Filing) (clerk : VisitorId) (site : Site) :
    Request → Response → Prop
  /-- A statement of this very request failed. -/
  | failed {request : Request} (hfailed : clerk ∈ site.failures) :
      Warranted since clerk site request Route.serverError
  | registered {request : WorkflowRegisterRequest} {older newer : List Filing}
      (row : Registration) (hrow : row.workflow = request.workflow)
      (hinstant : Instant since site.journal older (newer ++ [.registered clerk row]))
      (hfree : getByIdentifier (tableOf older) request.identifier = none) :
      Warranted since clerk site (.registerWorkflow request) ⟨201, .workflow row⟩
  /-- The identifier is registered, or the random id was taken. -/
  | conflict {request : WorkflowRegisterRequest} {older newer : List Filing}
      (hinstant : Instant since site.journal older newer)
      (htaken : (getByIdentifier (tableOf older) request.identifier).isSome ∨
        ∃ workflowId, .collided clerk workflowId ∈ newer) :
      Warranted since clerk site (.registerWorkflow request)
        ⟨409, .detail ("Workflow '" ++ request.identifier ++ "' is already registered.")⟩
  | listed {older newer : List Filing} (rows : Rows)
      (hinstant : Instant since site.journal older newer) (hrows : rows.Perm (tableOf older)) :
      Warranted since clerk site .listWorkflows ⟨200, .workflows rows⟩
  | got {identifier : String} {older newer : List Filing} (row : Registration)
      (hinstant : Instant since site.journal older newer)
      (hget : getByIdentifier (tableOf older) identifier = some row) :
      Warranted since clerk site (.getWorkflow identifier) ⟨200, .workflow row⟩
  | missing {identifier : String} {older newer : List Filing}
      (hinstant : Instant since site.journal older newer)
      (hget : getByIdentifier (tableOf older) identifier = none) :
      Warranted since clerk site (.getWorkflow identifier) (Route.notFound identifier)
  /-- Where nobody else wrote the row meanwhile, it is what was asked for. -/
  | updated {identifier : String} {request : WorkflowUpdateRequest}
      {older between newer : List Filing} (db : Registration)
      (hinstant : Instant since site.journal older (newer ++
        .updated clerk db.workflowId (db.workflow.changes (request.over db.workflow)) :: between))
      (hget : getByIdentifier (tableOf older) identifier = some db)
      (hsettled : (∀ filing ∈ between, ∀ other patch,
          filing ≠ .updated other db.workflowId patch) →
        getByIdentifier (tableOf (.updated clerk db.workflowId
            (db.workflow.changes (request.over db.workflow)) :: (between ++ older))) identifier =
          some { db with workflow := request.over db.workflow }) :
      Warranted since clerk site (.updateWorkflow identifier request)
        ⟨200, .workflow { db with workflow := request.over db.workflow }⟩
  | absent {identifier : String} {request : WorkflowUpdateRequest} {older newer : List Filing}
      (hinstant : Instant since site.journal older newer)
      (hget : getByIdentifier (tableOf older) identifier = none) :
      Warranted since clerk site (.updateWorkflow identifier request) (Route.notFound identifier)
  | unknown {identifier : String} {request : TriggerRequest} {older newer : List Filing}
      (hinstant : Instant since site.journal older newer)
      (hget : getByIdentifier (tableOf older) identifier = none) :
      Warranted since clerk site (.triggerWorkflowRun identifier request)
        (Route.triggerRefused identifier request .unknownWorkflow)
  | refused {identifier : String} {request : TriggerRequest} {older newer : List Filing}
      (row : Registration) (error : TriggerError)
      (hinstant : Instant since site.journal older newer)
      (hget : getByIdentifier (tableOf older) identifier = some row)
      (hcheck : checkTrigger row.workflow.runType request = .error error) :
      Warranted since clerk site (.triggerWorkflowRun identifier request)
        (Route.triggerRefused identifier request error)
  /-- The run is created from the registration as it was read. -/
  | triggered {identifier : String} {request : TriggerRequest} {older newer : List Filing}
      (row : Registration) (now : Time) (runId : UUID)
      (hinstant : Instant since site.journal older newer)
      (hget : getByIdentifier (tableOf older) identifier = some row)
      (hcheck : checkTrigger row.workflow.runType request = .ok ())
      (hcreated : .created (CloudioOrchestrator.triggered now runId row.workflow request) ∈
        World.history site.drives.world) :
      Warranted since clerk site (.triggerWorkflowRun identifier request)
        ⟨201, .run (CloudioOrchestrator.triggered now runId row.workflow request).response⟩

section Warranted

variable {executor : Executor} {since journal older newer : List Filing} {clerk : VisitorId}
variable {site later : Site} {request : Request} {response : Response}

theorem Instant.grows (hinstant : Instant since journal older newer) (more : List Filing) :
    Instant since (more ++ journal) older (more ++ newer) where
  split := by rw [hinstant.split, List.append_assoc]
  later := hinstant.later

/-- What is filed and what happens later takes no warrant away. -/
theorem Warranted.grows (hwarranted : Warranted since clerk site request response)
    (hjournal : ∃ more, later.journal = more ++ site.journal)
    (hfailures : site.failures ⊆ later.failures)
    (hhistory : ∀ event ∈ World.history site.drives.world,
      event ∈ World.history later.drives.world) :
    Warranted since clerk later request response := by
  obtain ⟨more, hmore⟩ := hjournal
  have hinstant : ∀ {older newer}, Instant since site.journal older newer →
      Instant since later.journal older (more ++ newer) := by
    intro older newer hinstant
    rw [hmore]
    exact hinstant.grows more
  cases hwarranted with
  | failed hfailed => exact .failed (hfailures hfailed)
  | registered row hrow hat hfree =>
      have hat := hinstant hat
      rw [← List.append_assoc] at hat
      exact .registered row hrow hat hfree
  | conflict hat htaken =>
      refine .conflict (hinstant hat) ?_
      cases htaken with
      | inl hsome => exact .inl hsome
      | inr hcollided =>
          obtain ⟨workflowId, hmem⟩ := hcollided
          exact .inr ⟨workflowId, List.mem_append_right _ hmem⟩
  | listed rows hat hrows => exact .listed rows (hinstant hat) hrows
  | got row hat hget => exact .got row (hinstant hat) hget
  | missing hat hget => exact .missing (hinstant hat) hget
  | updated db hat hget hsettled =>
      have hat := hinstant hat
      rw [← List.append_assoc] at hat
      exact .updated db hat hget hsettled
  | absent hat hget => exact .absent (hinstant hat) hget
  | unknown hat hget => exact .unknown (hinstant hat) hget
  | refused row error hat hget hcheck => exact .refused row error (hinstant hat) hget hcheck
  | triggered row now runId hat hget hcheck hcreated =>
      exact .triggered row now runId (hinstant hat) hget hcheck (hhistory _ hcreated)

end Warranted

/-! ## Statements among others -/

/-- Nothing filed and nothing that happened is taken back. -/
structure Site.Onward (whose : Filing → Prop) (site later : Site) : Prop where
  journal : ∃ newer, later.journal = newer ++ site.journal ∧ ∀ filing ∈ newer, whose filing
  failures : site.failures ⊆ later.failures
  history : World.Grows (fun _ => True) site.drives.world later.drives.world

namespace Site.Onward

variable {whose other : Filing → Prop} {site later third : Site}

protected theorem refl : Onward whose site site :=
  ⟨⟨[], rfl, by simp⟩, List.Subset.refl _, .refl⟩

theorem trans (hfirst : Onward whose site later) (hsecond : Onward whose later third) :
    Onward whose site third := by
  obtain ⟨older, hold, hwhose⟩ := hfirst.journal
  obtain ⟨newer, hnew, hwhose'⟩ := hsecond.journal
  refine ⟨⟨newer ++ older, by rw [hnew, hold, List.append_assoc], ?_⟩,
    List.Subset.trans hfirst.failures hsecond.failures,
    hfirst.history.trans hsecond.history⟩
  intro filing hfiling
  cases List.mem_append.mp hfiling with
  | inl hmem => exact hwhose' filing hmem
  | inr hmem => exact hwhose filing hmem

theorem mono (honward : Onward whose site later) (himp : ∀ filing, whose filing → other filing) :
    Onward other site later := by
  obtain ⟨newer, hnew, hwhose⟩ := honward.journal
  exact ⟨⟨newer, hnew, fun filing hfiling => himp filing (hwhose filing hfiling)⟩,
    honward.failures, honward.history⟩

end Site.Onward

/-- Everybody files under their own name, and only what was free is registered. -/
def filing (executor : Executor) : Discipline (api executor) where
  inv site := site.registry = tableOf site.journal ∧ Regular site.journal
  rely clerk := Site.Onward fun filing => filing.clerk ≠ clerk
  guar clerk := Site.Onward fun filing => filing.clerk = clerk
  refl _ _ := .refl
  trans hfirst hsecond := hfirst.trans hsecond

section Serving

variable {executor : Executor} {clerk : VisitorId} {ruling : Ruling} {site : Site}

theorem Site.act_onward {whose : Filing → Prop} (event : Outside) :
    Site.Onward whose site (site.act executor event) :=
  ⟨⟨[], rfl, by simp⟩, List.Subset.refl _, World.grows_outside event fun _ => trivial⟩

/-- A statement keeps the discipline, whatever it is. -/
theorem serve_files (clerk : VisitorId) (ruling : Ruling) (statement : Statement)
    (hinv : (filing executor).inv site) :
    (filing executor).inv (site.serve executor clerk ruling statement).2 ∧
      (filing executor).guar clerk site (site.serve executor clerk ruling statement).2 := by
  have hkept : (filing executor).inv site ∧ (filing executor).guar clerk site site :=
    ⟨hinv, .refl⟩
  have htold : ∀ {α : Type} {outcome : Except DbError α × Site},
      ((filing executor).inv outcome.2 ∧ (filing executor).guar clerk site outcome.2) →
      (filing executor).inv (Site.told clerk outcome).2 ∧
        (filing executor).guar clerk site (Site.told clerk outcome).2 := by
    intro α outcome hlater
    have hnoted : ∀ later, ((filing executor).inv later ∧
        (filing executor).guar clerk site later) →
        (filing executor).inv { later with failures := clerk :: later.failures } ∧
          (filing executor).guar clerk site
            { later with failures := clerk :: later.failures } := by
      rintro later ⟨hinv, hguar⟩
      exact ⟨hinv, hguar.journal, List.subset_cons_of_subset _ hguar.failures, hguar.history⟩
    exact Site.told_keeps hnoted hlater
  -- what is done to the runs files nothing
  have hacted : ∀ event, (filing executor).inv (site.act executor event) ∧
      (filing executor).guar clerk site (site.act executor event) :=
    fun event => ⟨hinv, Site.act_onward event⟩
  have hread : ∀ {α : Type} (value : α), (filing executor).inv (site.read ruling value).2 ∧
      (filing executor).guar clerk site (site.read ruling value).2 := by
    intro α value
    unfold Site.read
    split <;> exact hkept
  have hwritten : ∀ {α : Type} {fault} {answer : α} {later : Site},
      ((filing executor).inv later ∧ (filing executor).guar clerk site later) →
      (filing executor).inv (Site.written fault answer later).2 ∧
        (filing executor).guar clerk site (Site.written fault answer later).2 := by
    intro α fault answer later hlater
    unfold Site.written
    split <;> exact hlater
  cases statement with
  | workflowsInsert workflow =>
      apply htold
      simp only [Site.insert]
      split
      next => exact hkept
      next =>
        split
        next registry hinsert =>
          apply hwritten
          simp only [Registry.insert] at hinsert
          split at hinsert
          next => cases hinsert
          next =>
            split at hinsert
            next => cases hinsert
            next hfree =>
              obtain rfl := Except.ok.inj hinsert
              obtain ⟨htable, hregular⟩ := hinv
              refine ⟨⟨?_, ?_, hregular⟩, ⟨[_], rfl, by simp [Filing.clerk]⟩,
                List.Subset.refl _, .refl⟩
              · simp only [Site.file, tableOf, htable]
              · rw [← htable]
                simpa using hfree
        next =>
          split
          next => exact hkept
          next => exact ⟨hinv, ⟨[_], rfl, by simp [Filing.clerk]⟩,
                List.Subset.refl _, .refl⟩
        next => exact hkept
  | workflowsUpdate workflowId patch =>
      apply htold
      simp only [Site.update]
      split
      next => exact hkept
      next =>
        split
        next => exact hkept
        next =>
          apply hwritten
          obtain ⟨htable, hregular⟩ := hinv
          refine ⟨⟨?_, hregular⟩, ⟨[_], rfl, by simp [Filing.clerk]⟩,
                List.Subset.refl _, .refl⟩
          simp only [Site.file, tableOf, htable]
  | runsCreate creation =>
      apply htold
      simp only [Site.create]
      split
      next => exact hkept
      next =>
        split
        next => exact hkept
        next =>
          split
          next => exact hwritten (hacted _)
          next => exact hkept
  | runsWake runId =>
      apply htold
      simp only [Site.wake]
      split
      next => exact hkept
      next => exact hwritten (hacted _)
  | workflowsSelect identifier => exact htold (hread _)
  | workflowsList => exact htold (hread _)
  | runsGet runId => exact htold (hread _)
  | runsFindByTicketId ticketId => exact htold (hread _)
  | runsFindByVendorId vendorId => exact htold (hread _)
  | runsFindByEngineRunId engineRunId => exact htold (hread _)
  | runsListRecent limit => exact htold (hread _)

theorem step_onward {whose : Filing → Prop} (event : Backstage) :
    Site.Onward whose site (site.backstage executor event) := by
  refine ⟨⟨[], rfl, by simp⟩, List.Subset.refl _, ?_⟩
  simp only [Site.backstage]
  exact run_grows executor [event.move] site.drives

end Serving

section Routes

variable {executor : Executor} {authenticator : ApiKeyAuthenticator}

theorem filing_compatible (executor : Executor) (authenticator : ApiKeyAuthenticator) :
    (filing executor).Compatible authenticator.answer fun _ _ => True where
  interference := by
    intro client other site later hne hguar
    apply hguar.mono
    intro filing hclerk heq
    exact hne (hclerk.symm.trans heq)
  outside_inv _ _ hinv := hinv
  outside_rely _ event _ _ := step_onward event
  absent_rely _ _ := trivial
  start client site hinv _ := by
    apply Discipline.Safe.of_serves (P := fun _ => True)
    · intro _ _ _ _ _
      trivial
    · intro statement current ruling hcurrent _
      obtain ⟨hkept, hguar⟩ := serve_files client ruling statement hcurrent
      exact ⟨hkept, hguar, trivial⟩
    · trivial

variable {since : List Filing} {clerk : VisitorId} {site : Site} {request : Request}

/-- What a request is to be answered. -/
abbrev answered (since : List Filing) (clerk : VisitorId) (request : Request) :
    Response → Site → Prop :=
  fun response site => Warranted since clerk site request response

theorem answered_steady :
    (filing executor).Steady clerk (answered since clerk request) := by
  intro response site later hwarranted hrely
  obtain ⟨newer, hjournal, -⟩ := hrely.journal
  exact hwarranted.grows ⟨newer, hjournal⟩ hrely.failures
    fun event hevent => hrely.history.mem hevent

/-- The journal goes on from where it was when the request was received. -/
def Since (since : List Filing) (site : Site) : Prop :=
  ∃ middle, site.journal = middle ++ since

theorem Since.onward {whose : Filing → Prop} {later : Site} (hsince : Since since site)
    (honward : Site.Onward whose site later) : Since since later := by
  obtain ⟨middle, hmiddle⟩ := hsince
  obtain ⟨newer, hnewer, -⟩ := honward.journal
  exact ⟨newer ++ middle, by rw [hnewer, hmiddle, List.append_assoc]⟩

theorem Since.filed (hsince : Since since site) (filing : Filing) :
    Instant since (filing :: site.journal) site.journal [filing] :=
  ⟨rfl, hsince⟩

theorem Since.instant (hsince : Since since site) :
    Instant since site.journal site.journal [] :=
  ⟨rfl, hsince⟩

/-- One statement, from where others have left the site. -/
theorem safe_statement {statement : Statement} {next : statement.Answer → Route}
    {post : Response → Site → Prop}
    (hserved : ∀ current, (filing executor).rely clerk site current →
      (filing executor).inv current → ∀ ruling answer later,
        Site.serve executor clerk ruling statement current = (answer, later) →
        (filing executor).Safe clerk post (next answer) later) :
    (filing executor).Safe clerk post (.call statement next) site := by
  intro current hrely hinv ruling
  obtain ⟨hkept, hguar⟩ := serve_files clerk ruling statement hinv
  exact ⟨hkept, hguar, hserved current hrely hinv ruling _ _ rfl⟩

theorem read_ok {α : Type} {ruling : Ruling} {value : α} {later : Site}
    {answer : Except DbError α} (hread : site.read ruling value = (answer, later))
    (hfine : answer ≠ .error .raised) : later = site ∧ answer = .ok value := by
  unfold Site.read at hread
  split at hread
  · cases hread
    contradiction
  · cases hread
    exact ⟨rfl, rfl⟩

/-- Looking a registration up. -/
theorem safe_select {identifier : String} {next : Except DbError (Option Registration) → Route}
    {post : Response → Site → Prop} (hsince : Since since site)
    (hfailed : ∀ current, clerk ∈ current.failures →
      (filing executor).Safe clerk post (next (.error .raised)) current)
    (hfound : ∀ current, Since since current → (filing executor).inv current →
      (filing executor).Safe clerk post
        (next (.ok (getByIdentifier (tableOf current.journal) identifier))) current) :
    (filing executor).Safe clerk post (.call (.workflowsSelect identifier) next) site := by
  apply safe_statement
  intro current hrely hinv ruling answer later hserve
  rcases Site.told_cases hserve with ⟨rfl, hmem⟩ | ⟨hread, hfine⟩
  · exact hfailed _ hmem
  · obtain ⟨rfl, rfl⟩ := read_ok hread hfine
    rw [hinv.1]
    exact hfound _ (hsince.onward hrely) hinv

/-- What an insert comes to. -/
theorem insert_cases (clerk : VisitorId) (ruling : Ruling) (workflow : Workflow) (site : Site) :
    (∃ later, site.insert clerk ruling workflow = (.error .raised, later)) ∨
    (site.insert clerk ruling workflow = (.error .integrity, site) ∧
      (getByIdentifier site.registry workflow.identifier).isSome) ∨
    site.insert clerk ruling workflow =
      (.error .integrity, site.file site.registry (.collided clerk ruling.uuid)) ∨
    ∃ registry, getByIdentifier site.registry workflow.identifier = none ∧
      site.insert clerk ruling workflow = (.ok ⟨ruling.uuid, workflow⟩,
        site.file registry (.registered clerk ⟨ruling.uuid, workflow⟩)) := by
  unfold Site.insert
  split
  next => exact .inl ⟨_, rfl⟩
  next =>
    simp only
    split
    next registry hinsert =>
      unfold Site.written
      split
      next => exact .inl ⟨_, rfl⟩
      next =>
        refine .inr (.inr (.inr ⟨registry, ?_, rfl⟩))
        cases hget : getByIdentifier site.registry workflow.identifier with
        | none => rfl
        | some row =>
            obtain ⟨hrow, hidentifier⟩ := mem_of_getByIdentifier hget
            -- the column is unique, so the insert would have failed
            have htaken : taken site.registry ⟨ruling.uuid, workflow⟩ = true := by
              simp only [taken, List.any_eq_true, Bool.or_eq_true, decide_eq_true_eq]
              exact ⟨row, hrow, .inl hidentifier⟩
            simp only [Registry.insert, htaken] at hinsert
            split at hinsert <;> cases hinsert
    next =>
      split
      next hsome => exact .inr (.inl ⟨rfl, hsome⟩)
      next => exact .inr (.inr (.inl rfl))
    next => exact .inl ⟨_, rfl⟩

theorem safe_registerWorkflow (request : WorkflowRegisterRequest) (hsince : Since since site) :
    (filing executor).Safe clerk (answered since clerk (.registerWorkflow request))
      (Route.registerWorkflow request) site := by
  apply safe_statement
  intro current hrely hinv ruling answer later hserve
  have hlater := hsince.onward hrely
  have htold : Site.told clerk (current.insert clerk ruling request.workflow) =
      (answer, later) := hserve
  rcases Site.told_cases htold with ⟨rfl, hmem⟩ | ⟨hinsert, hfine⟩
  · exact .failed hmem
  rcases insert_cases clerk ruling request.workflow current with
    ⟨_, hcase⟩ | ⟨hcase, hsome⟩ | hcase | ⟨registry, hnone, hcase⟩
  all_goals cases hcase.symm.trans hinsert
  · contradiction
  · rw [hinv.1] at hsome
    exact .conflict hlater.instant (.inl hsome)
  · exact .conflict (hlater.filed _) (.inr ⟨ruling.uuid, List.mem_singleton_self _⟩)
  · rw [hinv.1] at hnone
    have hfiled : Instant since (.registered clerk ⟨ruling.uuid, request.workflow⟩ ::
        current.journal) current.journal ([] ++ [.registered clerk ⟨ruling.uuid,
          request.workflow⟩]) := hlater.filed _
    exact .registered _ rfl hfiled hnone

theorem safe_listWorkflows (hsince : Since since site) :
    (filing executor).Safe clerk (answered since clerk .listWorkflows) Route.listWorkflows
      site := by
  apply safe_statement
  intro current hrely hinv ruling answer later hserve
  rcases Site.told_cases hserve with ⟨rfl, hmem⟩ | ⟨hread, hfine⟩
  · exact .failed hmem
  · obtain ⟨rfl, rfl⟩ := read_ok hread hfine
    apply Warranted.listed _ (hsince.onward hrely).instant
    rw [← hinv.1]
    exact ruling.registrations.perm _

theorem update_cases {workflowId : UUID} {patch : WorkflowPatch} {ruling : Ruling} {later : Site}
    {answer : Except DbError Unit}
    (hupdate : site.update clerk ruling workflowId patch = (answer, later)) :
    answer = .error .raised ∨
      answer = .ok () ∧ later.journal = .updated clerk workflowId patch :: site.journal := by
  unfold Site.update at hupdate
  split at hupdate
  next =>
    cases hupdate
    exact .inl rfl
  next =>
    split at hupdate
    next =>
      cases hupdate
      exact .inl rfl
    next =>
      unfold Site.written at hupdate
      split at hupdate
      · cases hupdate
        exact .inl rfl
      · cases hupdate
        exact .inr ⟨rfl, rfl⟩

theorem safe_getWorkflow (identifier : String) (hsince : Since since site) :
    (filing executor).Safe clerk (answered since clerk (.getWorkflow identifier))
      (Route.getWorkflow identifier) site := by
  apply safe_select hsince
  · intro current
    exact .failed
  · intro current hsince _
    cases hget : getByIdentifier (tableOf current.journal) identifier with
    | none => exact .missing hsince.instant hget
    | some row => exact .got row hsince.instant hget

theorem safe_updateWorkflow (identifier : String) (request : WorkflowUpdateRequest)
    (hsince : Since since site) :
    (filing executor).Safe clerk (answered since clerk (.updateWorkflow identifier request))
      (Route.updateWorkflow identifier request) site := by
  apply safe_select hsince
  · intro current
    exact .failed
  · intro current hsince _
    cases hget : getByIdentifier (tableOf current.journal) identifier with
    | none => exact .absent hsince.instant hget
    | some db =>
        apply safe_statement
        intro found hrely hinv ruling answer later hserve
        -- others may have filed between the read and the write
        obtain ⟨between, hbetween, -⟩ := hrely.journal
        have htold : Site.told clerk (found.update clerk ruling db.workflowId
            (db.workflow.changes (request.over db.workflow))) = (answer, later) := hserve
        rcases Site.told_cases htold with ⟨rfl, hmem⟩ | ⟨hupdate, hfine⟩
        · exact .failed hmem
        cases update_cases hupdate with
        | inl hraised => contradiction
        | inr hok =>
            obtain ⟨rfl, hjournal⟩ := hok
            have hregular : Regular (between ++ current.journal) := hbetween ▸ hinv.2
            have hfiled : Instant since later.journal current.journal ([] ++ .updated clerk
                db.workflowId (db.workflow.changes (request.over db.workflow)) :: between) := by
              refine ⟨?_, hsince⟩
              simp only [hjournal, hbetween, List.nil_append, List.cons_append]
            exact .updated db hfiled hget fun halone =>
              tableOf_settled hregular hget halone rfl

theorem create_cases {creation : Creation} {ruling : Ruling} {later : Site}
    {answer : Except DbError WorkflowRun}
    (hcreate : site.create executor ruling creation = (answer, later)) :
    answer = .error .raised ∨ ∃ run, answer = .ok run ∧
      later = site.act executor (creation.event ruling.uuid) ∧
      Store.get site.runs ruling.uuid = none ∧ Store.get later.runs ruling.uuid = some run := by
  unfold Site.create at hcreate
  split at hcreate
  next =>
    cases hcreate
    exact .inl rfl
  next =>
    split at hcreate
    next =>
      cases hcreate
      exact .inl rfl
    next hfresh =>
      simp only at hcreate
      split at hcreate
      next run hrun =>
        unfold Site.written at hcreate
        split at hcreate
        · cases hcreate
          exact .inl rfl
        · cases hcreate
          exact .inr ⟨run, rfl, rfl, by simpa using hfresh, hrun⟩
      next =>
        cases hcreate
        exact .inl rfl

/-- A run is created under an id that is free. -/
theorem World.insert_fresh {world : World} {run : WorkflowRun}
    (hfresh : Store.get world.rows run.runId = none) :
    Store.get (world.insert run).rows run.runId = some run ∧
      (world.insert run).history = .created run :: world.history := by
  have hfree : ¬ (Store.get world.rows run.runId).isSome = true := by simp [hfresh]
  simp [World.insert, hfree, Store.get_create _ hfresh]

theorem act_triggered (executor : Executor) {runId : UUID} {workflow : Workflow}
    {request : TriggerRequest} (hcheck : checkTrigger workflow.runType request = .ok ())
    (hfresh : Store.get site.runs runId = none) :
    Store.get (site.act executor (.trigger runId (some workflow) request)).runs runId =
        some (CloudioOrchestrator.triggered (World.clock site.drives.world) runId workflow
          request) ∧
      .created (CloudioOrchestrator.triggered (World.clock site.drives.world) runId workflow
          request) ∈
        World.history
            (site.act executor (.trigger runId (some workflow) request)).drives.world := by
  have houtside : (site.act executor (.trigger runId (some workflow) request)).drives.world =
      World.insert (CloudioOrchestrator.triggered (World.clock site.drives.world) runId workflow
        request) site.drives.world := by
    simp only [Site.act, Pool.step, World.outside, trigger, hcheck]
  obtain ⟨hget, hhistory⟩ := @World.insert_fresh site.drives.world
    (CloudioOrchestrator.triggered (World.clock site.drives.world) runId workflow request) hfresh
  rw [Site.runs, houtside, hhistory]
  exact ⟨hget, List.mem_cons_self⟩

theorem safe_triggerWorkflowRun (identifier : String) (request : TriggerRequest)
    (hsince : Since since site) :
    (filing executor).Safe clerk (answered since clerk (.triggerWorkflowRun identifier request))
      (Route.triggerWorkflowRun identifier request) site := by
  apply safe_select hsince
  · intro current
    exact .failed
  · intro current hsince _
    cases hget : getByIdentifier (tableOf current.journal) identifier with
    | none => exact .unknown hsince.instant hget
    | some row =>
        simp only
        cases hcheck : checkTrigger row.workflow.runType request with
        | error error => exact .refused row error hsince.instant hget hcheck
        | ok =>
            apply safe_statement
            intro found hrely hinv ruling answer later hserve
            obtain ⟨between, hbetween, -⟩ := hrely.journal
            have htold : Site.told clerk (found.create executor ruling
                (.triggered row.workflow request)) = (answer, later) := hserve
            rcases Site.told_cases htold with ⟨rfl, hmem⟩ | ⟨hcreate, hfine⟩
            · exact .failed hmem
            cases create_cases hcreate with
            | inl hraised => contradiction
            | inr hok =>
                obtain ⟨run, rfl, rfl, hfresh, hget'⟩ := hok
                obtain ⟨hborn, hcreated⟩ := act_triggered executor hcheck hfresh
                have hinstant : Instant since (found.act executor
                    (.trigger ruling.uuid (some row.workflow) request)).journal current.journal
                      between := ⟨hbetween, hsince⟩
                obtain rfl := Option.some.inj (hborn.symm.trans hget')
                exact .triggered row _ _ hinstant hget hcheck hcreated

/-- A request about the registry is answered as the registry warrants. -/
theorem safe_route (hconcerns : request.concernsRegistry = true) (hsince : Since since site) :
    (filing executor).Safe clerk (answered since clerk request) request.route site := by
  cases request with
  | registerWorkflow request => exact safe_registerWorkflow request hsince
  | listWorkflows => exact safe_listWorkflows hsince
  | getWorkflow identifier => exact safe_getWorkflow identifier hsince
  | updateWorkflow identifier request => exact safe_updateWorkflow identifier request hsince
  | triggerWorkflowRun identifier request =>
      exact safe_triggerWorkflowRun identifier request hsince
  | _ => cases hconcerns

theorem answer_admitted {visitor : Visitor} (hadmitted : authenticator.rejects visitor = false) :
    authenticator.answer visitor = visitor.request.route := by
  unfold ApiKeyAuthenticator.answer
  split
  next hgated =>
    have hnone : authenticator.requireApiKey visitor.apiKey = none := by
      simpa [ApiKeyAuthenticator.rejects, hgated] using hadmitted
    rw [hnone]
  next => rfl

theorem apiReached_sound (executor : Executor) (authenticator : ApiKeyAuthenticator) (clock : Time)
    (moves : List (Move (api executor))) :
    (filing executor).Sound (fun _ _ => True) (apiReached executor authenticator clock moves) := by
  have hempty : (filing executor).inv { drives := ⟨{ clock := clock }, []⟩ } := ⟨rfl, trivial⟩
  exact Discipline.Sound.run (filing_compatible executor authenticator)
    (.empty hempty fun _ => trivial) moves

/-- A request that was received at some point of a run is followed to its end. -/
theorem apiReached_follows {post : Response → Site → Prop} (executor : Executor)
    (authenticator : ApiKeyAuthenticator) (clock : Time) (first later : List (Move (api executor)))
    (visitor : Visitor)
    (hsteady : (filing executor).Steady
      ⟨visitor, (apiReached executor authenticator clock first).threads.length⟩ post)
    (hsafe : (filing executor).Safe
      ⟨visitor, (apiReached executor authenticator clock first).threads.length⟩ post
        (authenticator.answer visitor) (apiReached executor authenticator clock first).world) :
    (filing executor).Follows
      ⟨visitor, (apiReached executor authenticator clock first).threads.length⟩ post
        (apiReached executor authenticator clock (first ++ .start visitor :: later)) := by
  have hstarted : (filing executor).Follows
      ⟨visitor, (apiReached executor authenticator clock first).threads.length⟩ post
        ((apiReached executor authenticator clock first).step authenticator.answer
          (.start visitor)) :=
    ⟨authenticator.answer visitor, List.getElem?_concat_length, hsafe⟩
  have hsound : (filing executor).Sound (fun _ _ => True)
      ((apiReached executor authenticator clock first).step authenticator.answer
          (.start visitor)) :=
    (apiReached_sound executor authenticator clock first).step
      (filing_compatible executor authenticator) _
  have hrun := hstarted.run (filing_compatible executor authenticator) hsteady hsound later
  have hsplit : apiReached executor authenticator clock (first ++ .start visitor :: later) =
      Pool.run authenticator.answer later
        ((apiReached executor authenticator clock first).step authenticator.answer
          (.start visitor)) := by
    simp only [apiReached, Pool.run_append, Pool.run_cons]
  rw [hsplit]
  exact hrun

end Routes

/-- Whatever other requests, drives, claims and ticks come between, a request about the
registry that passes the gate is answered as the registry warrants at one instant
between its receipt and its answer. -/
theorem answers_warranted (executor : Executor) (authenticator : ApiKeyAuthenticator)
    (clock : Time) (first later : List (Move (api executor))) (visitor : Visitor)
    (response : Response)
    (hadmitted : authenticator.rejects visitor = false)
    (hconcerns : visitor.request.concernsRegistry = true)
    (hresponse :
      (apiReached executor authenticator clock (first ++ .start visitor :: later)).threads[
      (apiReached executor authenticator clock first).threads.length]? =
        some (visitor, .ret response)) :
    Warranted (apiReached executor authenticator clock first).world.journal
      ⟨visitor, (apiReached executor authenticator clock first).threads.length⟩
      (apiReached executor authenticator clock (first ++ .start visitor :: later)).world
      visitor.request response := by
  apply (apiReached_follows executor authenticator clock first later visitor answered_steady
    _).returned hresponse
  rw [answer_admitted hadmitted]
  exact safe_route hconcerns ⟨[], rfl⟩

section Examples

/-- One client holds a key. -/
def samplePortal : ApiKeyAuthenticator where
  keys := { apiKeyPortal := some "secret" : ApiKeySettings }.apiKeys

def patchRequest : WorkflowRegisterRequest where
  identifier := "vm-patch"
  runType := .automation
  engineType := .airflow
  automationId := "vm_patch"
  ticketTemplateId := ""

def registerPatch : Visitor where
  apiKey := some "secret"
  request := .registerWorkflow patchRequest

/-- An update that changes the engine's id of the workflow, or its name. -/
def revisePatch (automationId : String) (name : Option String) : Visitor where
  apiKey := some "secret"
  request := .updateWorkflow "vm-patch"
    { runType := .automation, engineType := .airflow, automationId, ticketTemplateId := "", name }

def uneventful : Ruling where
  uuid := sampleId

/-- Registered, then updated by two requests of which each reads before the other writes. -/
def overlapping : List (Move (api sampleExecutor)) :=
  [.start registerPatch, .advance 0 uneventful, .start (revisePatch "vm_patch_2" none),
    .start (revisePatch "vm_patch" (some "Patch")), .advance 1 uneventful, .advance 2 uneventful,
    .advance 1 uneventful, .advance 2 uneventful]

theorem answers_warranted_overlapping :
    Warranted (apiReached sampleExecutor samplePortal 0 (overlapping.take 2)).world.journal
      ⟨revisePatch "vm_patch_2" none, 1⟩
        (apiReached sampleExecutor samplePortal 0 overlapping).world
      (revisePatch "vm_patch_2" none).request
      ⟨200, .workflow ⟨sampleId, { patchRequest.workflow with automationId := "vm_patch_2" }⟩⟩ :=
  answers_warranted sampleExecutor samplePortal 0 (overlapping.take 2) (overlapping.drop 3)
    (revisePatch "vm_patch_2" none) _ (by decide) rfl rfl

/-- The two are answered as they asked; what is registered then is what neither asked for. -/
theorem overlapping_mixes :
    (apiReached sampleExecutor samplePortal 0 overlapping).threads[1]? =
        some (revisePatch "vm_patch_2" none, .ret ⟨200, .workflow
          ⟨sampleId, { patchRequest.workflow with automationId := "vm_patch_2" }⟩⟩) ∧
      (apiReached sampleExecutor samplePortal 0 overlapping).threads[2]? =
        some (revisePatch "vm_patch" (some "Patch"), .ret ⟨200, .workflow
          ⟨sampleId, { patchRequest.workflow with name := some "Patch" }⟩⟩) ∧
      (apiReached sampleExecutor samplePortal 0 overlapping).world.registry =
        [⟨sampleId,
            { patchRequest.workflow with automationId := "vm_patch_2", name := some "Patch" }⟩] :=
  ⟨rfl, rfl, rfl⟩

end Examples

section Registering

variable {executor : Executor} {authenticator : ApiKeyAuthenticator} {clock : Time}
variable {moves : List (Move (api executor))} {serial : Nat} {visitor : Visitor}
  {response : Response}

/-- A request that is turned away is answered with the refusal. -/
theorem answer_rejected (hrejected : authenticator.rejects visitor = true)
    (hresponse : (apiReached executor authenticator clock moves).threads[serial]? =
      some (visitor, .ret response)) :
    authenticator.requireApiKey visitor.apiKey = some response := by
  obtain ⟨first, later, rfl, rfl⟩ := Pool.exists_start hresponse
  have hfollows : (filing executor).Follows
      ⟨visitor, (apiReached executor authenticator clock first).threads.length⟩
      (fun response _ => authenticator.requireApiKey visitor.apiKey = some response)
      (apiReached executor authenticator clock (first ++ .start visitor :: later)) := by
    apply apiReached_follows
    · intro _ _ _ hrefused _
      exact hrefused
    obtain ⟨hgated, hrefused⟩ : visitor.request.gated = true ∧
        (authenticator.requireApiKey visitor.apiKey).isSome = true := by
      simpa [ApiKeyAuthenticator.rejects] using hrejected
    obtain ⟨refusal, hrefusal⟩ := Option.isSome_iff_exists.mp hrefused
    simp only [ApiKeyAuthenticator.answer, hgated, if_true, hrefusal]
    rfl
  exact hfollows.returned hresponse

/-- A refusal says nothing but that it is one. -/
theorem requireApiKey_eq (hrefused : authenticator.requireApiKey visitor.apiKey = some response) :
    response = ⟨401, .detail "Missing or invalid API key."⟩ := by
  unfold ApiKeyAuthenticator.requireApiKey at hrefused
  split at hrefused
  · cases hrefused
  · split at hrefused
    · exact (Option.some.inj hrefused).symm
    · cases hrefused

/-- What is answered 201 was registered, by the request that is answered so. -/
theorem registered_filed {request : WorkflowRegisterRequest} {row : Registration}
    (hrequest : visitor.request = .registerWorkflow request)
    (hresponse : (apiReached executor authenticator clock moves).threads[serial]? =
      some (visitor, .ret ⟨201, .workflow row⟩)) :
    row.workflow = request.workflow ∧ Filing.registered ⟨visitor, serial⟩ row ∈
      (apiReached executor authenticator clock moves).world.journal := by
  have hadmitted : authenticator.rejects visitor = false := by
    rw [Bool.eq_false_iff]
    intro hrejected
    cases requireApiKey_eq (answer_rejected hrejected hresponse)
  obtain ⟨first, later, rfl, rfl⟩ := Pool.exists_start hresponse
  have hconcerns : visitor.request.concernsRegistry = true := by
    rw [hrequest]
    rfl
  have hwarranted := answers_warranted executor authenticator clock first later visitor _ hadmitted
    hconcerns hresponse
  rw [hrequest] at hwarranted
  cases hwarranted with
  | registered row hrow hinstant hfree =>
      refine ⟨hrow, ?_⟩
      rw [hinstant.split]
      exact List.mem_append_left _ (List.mem_append_right _ (List.mem_singleton_self _))

end Registering

/-- Of all requests to register an identifier one at most is answered 201, and the
identifier stays registered under the id in that answer. -/
theorem registered_once (executor : Executor) (authenticator : ApiKeyAuthenticator) (clock : Time)
    (moves : List (Move (api executor))) (serial another : Nat) (visitor other : Visitor)
    (request wanted : WorkflowRegisterRequest) (row again : Registration)
    (hrequest : visitor.request = .registerWorkflow request)
    (hresponse : (apiReached executor authenticator clock moves).threads[serial]? =
      some (visitor, .ret ⟨201, .workflow row⟩))
    (hwanted : other.request = .registerWorkflow wanted)
    (hagain : (apiReached executor authenticator clock moves).threads[another]? =
      some (other, .ret ⟨201, .workflow again⟩))
    (hsame : request.identifier = wanted.identifier) :
    serial = another ∧ ∃ later, getByIdentifier
        (apiReached executor authenticator clock moves).world.registry request.identifier =
          some later ∧ later.workflowId = row.workflowId := by
  obtain ⟨hrow, hfiled⟩ := registered_filed hrequest hresponse
  obtain ⟨hrow', hfiled'⟩ := registered_filed hwanted hagain
  obtain ⟨htable, hregular⟩ := (apiReached_sound executor authenticator clock moves).inv
  have hidentifier : row.workflow.identifier = request.identifier := by
    rw [hrow]
    rfl
  have hidentifier' : again.workflow.identifier = wanted.identifier := by
    rw [hrow']
    rfl
  obtain ⟨hclerk, -⟩ := hregular.once hfiled hfiled'
    (hidentifier.trans (hsame.trans hidentifier'.symm))
  refine ⟨congrArg Client.serial hclerk, ?_⟩
  obtain ⟨newer, older, hsplit⟩ := List.append_of_mem hfiled
  have hmem : row ∈ tableOf (.registered ⟨visitor, serial⟩ row :: older) :=
    List.mem_append_right _ (List.mem_singleton_self _)
  obtain ⟨later, hlater, hid, hkept⟩ := tableOf_stays newer hmem
  rw [← hsplit] at hlater
  have hget := getByIdentifier_of_mem (tableOf_distinct hregular) hlater
  rw [hkept, hidentifier, ← htable] at hget
  exact ⟨later, hget, hid⟩

section Examples

/-- Registered, asked for a run, and updated afterwards. -/
def triggerPatch : Visitor where
  apiKey := some "secret"
  request := .triggerWorkflowRun "vm-patch" automationSample

def patching : List (Move (api sampleExecutor)) :=
  [.start registerPatch, .advance 0 uneventful, .start triggerPatch, .advance 1 uneventful,
    .advance 1 uneventful,
    .start (revisePatch "vm_patch_2" none), .advance 2 uneventful, .advance 2 uneventful]

theorem registered_once_patching :
    0 = 0 ∧ ∃ later,
      getByIdentifier (apiReached sampleExecutor samplePortal 0 patching).world.registry
      "vm-patch" = some later ∧ later.workflowId = sampleId :=
  registered_once sampleExecutor samplePortal 0 patching 0 0 registerPatch registerPatch
    patchRequest patchRequest ⟨sampleId, patchRequest.workflow⟩ ⟨sampleId, patchRequest.workflow⟩
    rfl rfl rfl rfl rfl

end Examples

/-! ## Runs and what they were created from -/

section Runs

variable {executor : Executor} {authenticator : ApiKeyAuthenticator} {clock : Time}
variable {ruling : Ruling} {clerk : VisitorId} {site : Site}

/-- A statement does to the runs what something from outside does to them, or nothing. -/
theorem serve_drives (executor : Executor) (clerk : VisitorId) (ruling : Ruling)
    (statement : Statement) (site : Site) :
    (site.serve executor clerk ruling statement).2.drives = site.drives ∨
      ∃ event, (site.serve executor clerk ruling statement).2.drives =
        site.drives.step executor.handle (.outside event) := by
  have hread : ∀ {α : Type} (value : α), (site.read ruling value).2.drives = site.drives := by
    intro α value
    unfold Site.read
    split <;> rfl
  have hwritten : ∀ {α : Type} (fault) (answer : α) (later : Site),
      (Site.written fault answer later).2 = later := by
    intro α fault answer later
    unfold Site.written
    split <;> rfl
  cases statement with
  | workflowsInsert workflow =>
      left
      simp only [Site.serve, Site.told_drives, Site.insert]
      split
      · rfl
      · split
        · rw [hwritten]
          rfl
        · split <;> rfl
        · rfl
  | workflowsUpdate workflowId patch =>
      left
      simp only [Site.serve, Site.told_drives, Site.update]
      split
      · rfl
      · split
        · rfl
        · rw [hwritten]
          rfl
  | runsCreate creation =>
      simp only [Site.serve, Site.told_drives, Site.create]
      split
      · exact .inl rfl
      · split
        · exact .inl rfl
        · split
          · rw [hwritten]
            exact .inr ⟨_, rfl⟩
          · exact .inl rfl
  | runsWake runId =>
      simp only [Site.serve, Site.told_drives, Site.wake]
      split
      · exact .inl rfl
      · rw [hwritten]
        exact .inr ⟨_, rfl⟩
  | workflowsSelect identifier => exact .inl (Site.told_drives.trans (hread _))
  | workflowsList => exact .inl (Site.told_drives.trans (hread _))
  | runsGet runId => exact .inl (Site.told_drives.trans (hread _))
  | runsFindByTicketId ticketId => exact .inl (Site.told_drives.trans (hread _))
  | runsFindByVendorId vendorId => exact .inl (Site.told_drives.trans (hread _))
  | runsFindByEngineRunId engineRunId => exact .inl (Site.told_drives.trans (hread _))
  | runsListRecent limit => exact .inl (Site.told_drives.trans (hread _))

/-- What the drives reach beside the requests, they reach with the requests outside. -/
theorem apiReached_drives (executor : Executor) (authenticator : ApiKeyAuthenticator)
    (clock : Time) (moves : List (Move (api executor))) :
    ∃ others, (apiReached executor authenticator clock moves).world.drives =
      reached executor clock others := by
  have hstep : ∀ (site : Site) (move : Move system),
      (∃ others, site.drives = reached executor clock others) →
      ∃ others, site.drives.step executor.handle move = reached executor clock others := by
    intro site move hsite
    obtain ⟨others, hothers⟩ := hsite
    refine ⟨others ++ [move], ?_⟩
    rw [reached_append, hothers]
    rfl
  apply Pool.run_keeps (V := api executor) authenticator.answer fun site : Site =>
    ∃ others, site.drives = reached executor clock others
  · intro client ruling statement site hsite
    cases serve_drives executor client ruling statement site with
    | inl hsame =>
        obtain ⟨others, hothers⟩ := hsite
        exact ⟨others, hsame.trans hothers⟩
    | inr hacted =>
        obtain ⟨event, hacted⟩ := hacted
        obtain ⟨others, hothers⟩ := hstep site (.outside event) hsite
        exact ⟨others, hacted.trans hothers⟩
  · intro event site _ hsite
    exact hstep site event.move hsite
  · exact ⟨[], rfl⟩

end Runs

/-- An automation is triggered with a ticket. -/
theorem ticket_of_checkTrigger {request : TriggerRequest}
    (hcheck : checkTrigger .automation request = .ok ()) : request.ticket.isSome = true := by
  cases hticket : request.ticket with
  | none => simp [checkTrigger, hticket] at hcheck
  | some ticket => rfl

/-- The run has the ticket that it was created with, if it was created with one. -/
def KeepsTicket : Fact where
  holds run history := ∃ origin, .created origin ∈ history ∧ origin.runId = run.runId ∧
    (origin.runState.ticket.isSome → run.runState.ticket = origin.runState.ticket)
  grows event hkeeps := by
    obtain ⟨origin, hcreated, hkept⟩ := hkeeps
    exact ⟨origin, List.mem_cons_of_mem _ hcreated, hkept⟩

/-- A run that has a ticket is given no other. -/
theorem HandlerEnd.keepsTicket {engines : List WorkflowEngineType} {run : WorkflowRun}
    {state final : RunState} {step : StepName} {trace : Trace Providers}
    {outcome : Except PyException Bool}
    (hend : HandlerEnd engines run state step trace outcome final)
    (hticket : state.ticket.isSome) : final.ticket = state.ticket := by
  cases hend with
  | ticketOpened ticket hnone =>
      rw [hnone] at hticket
      cases hticket
  | succeededWith output hid hresource =>
      unfold captured
      split <;> rfl
  | engineFailed failure hid => cases failure <;> rfl
  | _ => rfl

/-- Runs keep their tickets at every point of their drives. -/
def ticketKeeping (engines : List WorkflowEngineType) : Upkeep engines where
  fact := KeepsTicket
  event _ _ := True
  steady := by
    rintro run changed history ⟨origin, hcreated, hid, hkept⟩ hsame hprogress
    obtain ⟨-, -, -, -, -, -, hticket, -⟩ := hprogress
    refine ⟨origin, hcreated, hid.trans hsame.runId, ?_⟩
    rw [← hticket]
    exact hkept
  born {run older} _ := ⟨run, List.mem_cons_self, rfl, fun _ => rfl⟩
  created _ _ := trivial
  loaded _ _ _ := trivial
  saved _ _ _ := trivial
  logged _ _ _ := trivial
  aside _ _ _ _ _ _ := trivial
  called _ _ _ _ _ _ := trivial
  ended := by
    rintro drive step run trace outcome final history - ⟨origin, hcreated, hid, hkept⟩ - hend
    refine ⟨origin, hcreated, hid, fun hsome => ?_⟩
    have hticket := hkept hsome
    rw [← hticket] at hsome
    exact (hend.keepsTicket hsome).trans hticket

/-- A run that a trigger was answered with was created from its workflow as it was
registered at one instant since the request was received, and is stored so for good, with
the ticket of its request where it is an automation, whatever becomes of the
registration. -/
theorem snapshot_kept {executor : Executor} {engines : List WorkflowEngineType}
    (hwired : executor.handlers = buildHandlers engines) (authenticator : ApiKeyAuthenticator)
    (clock : Time) (first later : List (Move (api executor))) (visitor : Visitor)
    (identifier : String) (request : TriggerRequest) (run : WorkflowRunResponse)
    (hrequest : visitor.request = .triggerWorkflowRun identifier request)
    (hresponse :
      (apiReached executor authenticator clock (first ++ .start visitor :: later)).threads[
      (apiReached executor authenticator clock first).threads.length]? =
        some (visitor, .ret ⟨201, .run run⟩)) :
    ∃ older newer row now, Instant (apiReached executor authenticator clock first).world.journal
        (apiReached executor authenticator clock (first ++ .start visitor :: later)).world.journal
        older newer ∧
      getByIdentifier (tableOf older) identifier = some row ∧
      run = (triggered now run.runId row.workflow request).response ∧
      ∃ stored, Store.get (apiReached executor authenticator clock
          (first ++ .start visitor :: later)).world.runs run.runId = some stored ∧
        (triggered now run.runId row.workflow request).Continues stored ∧
        (row.workflow.runType = .automation → stored.runState.ticket = request.ticket) := by
  have hadmitted : authenticator.rejects visitor = false := by
    rw [Bool.eq_false_iff]
    intro hrejected
    cases requireApiKey_eq (answer_rejected hrejected hresponse)
  have hconcerns : visitor.request.concernsRegistry = true := by
    rw [hrequest]
    rfl
  have hwarranted := answers_warranted executor authenticator clock first later visitor _ hadmitted
    hconcerns hresponse
  rw [hrequest] at hwarranted
  generalize hanswer : (⟨201, .run run⟩ : Response) = response at hwarranted
  cases hwarranted with
  | failed hfailed => cases hanswer
  | unknown hinstant hget => cases hanswer
  | refused row error hinstant hget hcheck => cases error <;> cases hanswer
  | triggered row now runId hinstant hget hcheck hcreated =>
      cases hanswer
      refine ⟨_, _, row, now, hinstant, hget, rfl, ?_⟩
      obtain ⟨others, hothers⟩ :=
        apiReached_drives executor authenticator clock (first ++ .start visitor :: later)
      rw [hothers] at hcreated
      have hinv := (ticketKeeping engines).reached_inv hwired clock others
      obtain ⟨stored, hstored⟩ := Option.ne_none_iff_exists'.mp (hinv.present _ hcreated)
      obtain ⟨⟨origin, horigin, -, hcontinues⟩, first, hfirst, hid, hkept⟩ :=
        hinv.rows _ stored hstored
      have hstoredId := Store.runId_of_get hstored
      obtain rfl := hinv.unique origin _ horigin hcreated (hcontinues.1.runId.trans hstoredId)
      obtain rfl := hinv.unique first _ hfirst hcreated (hid.trans hstoredId)
      refine ⟨stored, ?_, hcontinues, ?_⟩
      · rw [Site.runs, hothers]
        exact hstored
      · intro hautomation
        rw [hautomation] at hcheck
        simpa [triggered, hautomation, ticket_of_checkTrigger hcheck] using hkept

/-- The run is stored as the registration was before the update. -/
theorem snapshot_kept_patching :
    ∃ older newer row now, Instant
        (apiReached sampleExecutor samplePortal 0 (patching.take 2)).world.journal
        (apiReached sampleExecutor samplePortal 0 patching).world.journal older newer ∧
      getByIdentifier (tableOf older) "vm-patch" = some row ∧
      (triggered 0 sampleId patchRequest.workflow automationSample).response =
        (triggered now sampleId row.workflow automationSample).response ∧
      ∃ stored, Store.get (apiReached sampleExecutor samplePortal 0 patching).world.runs sampleId =
          some stored ∧
        (triggered now sampleId row.workflow automationSample).Continues stored ∧
        (row.workflow.runType = .automation →
          stored.runState.ticket = automationSample.ticket) :=
  @snapshot_kept sampleExecutor [.airflow] rfl samplePortal 0 (patching.take 2) (patching.drop 3)
    triggerPatch "vm-patch" automationSample
    (triggered 0 sampleId patchRequest.workflow automationSample).response rfl rfl

end CloudioOrchestrator
