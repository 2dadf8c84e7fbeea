import CloudioOrchestrator.Escalations
import CloudioOrchestrator.Interaction.Handling

/-! # The ticket system's adapter

What the adapter asks of the provider's tables for the calls of an escalation.
An incident is assigned by a group's system id: from the configured map, from
what was looked up before, from the table of groups, or else the default team's.
-/

namespace CloudioOrchestrator

open Interaction

inductive BodyValue
  | text (value : String)
  | number (value : Int)
  | flag (value : Bool)
deriving DecidableEq, Repr

/-- The body of a request, in the order its keys were set. -/
abbrev Body := List (String × BodyValue)

inductive TableRequest
  | lookup (table field value : String)
  | patch (table sysId : String) (body : Body)
  | postIncident (body : Body)
  /-- An operation that this adapter has no part in. -/
  | elsewhere (op : Op)

/-- A lookup is answered with the system id of the first row that matches, if one does. -/
abbrev TableRequest.Answer : TableRequest → Type
  | .lookup .. => Except ProviderError (Option String)
  | .patch .. => Except ProviderError Unit
  | .postIncident _ => Except ProviderError TicketRef
  | .elsewhere op => op.Answer

abbrev TableApi : Signature where
  Op := TableRequest
  Answer := TableRequest.Answer

/-- Group names to the system ids they are known by. -/
abbrev Groups := String → Option String

abbrev Adapter := Routine TableApi ProviderError Groups

/-- The settings the adapter is built with, beside the map of groups. -/
structure ServiceNow where
  defaultGroup : String
  groupLookupField : String
  userLookupField : String

namespace ServiceNow

variable (client : ServiceNow)

def lookupSysId (table field value : String) : Adapter (Option String) := do
  let answer ← Routine.ask (S := TableApi) (.lookup table field value)
  Routine.ofExcept answer

def patch (table sysId : String) (body : Body) : Adapter Unit := do
  let answer ← Routine.ask (S := TableApi) (.patch table sysId body)
  Routine.ofExcept answer

/-- The login itself, where the table has no such user. -/
def userSysId (login : String) : Adapter String := do
  let found ← lookupSysId "sys_user" client.userLookupField login
  return found.getD login

/-- A hit of the table is remembered, a miss is not; an empty id is as good as none. -/
def groupSysId (name : String) : Adapter (Option String) := do
  let groups ← Routine.read
  match (groups name).filter (· ≠ "") with
  | some known => return some known
  | none =>
    let found ← lookupSysId "sys_user_group" client.groupLookupField name
    match found with
    | none => return none
    | some sysId =>
      Routine.update fun groups => Function.update groups name (some sysId)
      return some sysId

/-- The team's group, or the default team's where the name resolves nowhere. -/
def assignmentGroup (responsibleGroup : String) : Adapter (Option String) := do
  let found ← client.groupSysId responsibleGroup
  match found with
  | some sysId => return some sysId
  | none =>
    if responsibleGroup = client.defaultGroup then return none
    else client.groupSysId client.defaultGroup

/-- `if value: body[key] = value`. -/
def given (key : String) (value : Option String) : Body :=
  ((value.filter (· ≠ "")).map fun text => (key, .text text)).toList

def incidentBody (request : IncidentRequest) (caller : String) (group : Option String) : Body :=
  [("u_noc", .flag true), ("contact_type", .text "self-service"),
    ("short_description", .text request.summary), ("urgency", .number 3), ("impact", .number 3),
    ("caller_id", .text caller), ("business_service", .text "רשת יחידה"),
    ("service_offering", .text "שירותי פיתוח"), ("u_new_subcategory", .text "CloudIO")] ++
  (group.map fun sysId => ("assignment_group", .text sysId)).toList ++
  given "description" request.description ++ given "u_cloudio_flow_type" request.flowType ++
  given "u_cloudio_failed_task" request.failedTask ++ given "work_notes" request.comment

def openIncident (request : IncidentRequest) : Adapter TicketRef := do
  let caller ← client.userSysId request.requestedBy
  let group ← client.assignmentGroup request.responsibleGroup
  let answer ← Routine.ask (S := TableApi) (.postIncident (incidentBody request caller group))
  Routine.ofExcept answer

def closeIncident (incident : TicketRef) (outcome : TicketOutcome) : Adapter Unit :=
  let body : Body := [("state", .number 6), ("close_code", .text "Solved (Work Around)"),
    ("close_notes", .text "Incident closed automatically"), ("u_category_actual", .text "CloudIO")]
  patch "incident" incident.nativeId <| match outcome with
    | .documentation => body ++ [("u_subcategory_actual", .text "לצורך תיעוד - נסגר אוטומטית")]
    | _ => body

/-- The state a request is closed with; there is none for a matter of record. -/
def closeState : TicketOutcome → Except ProviderError Int
  | .successful => .ok 3
  | .unsuccessful => .ok 4
  | .documentation => .error (.other "KeyError" "<TicketOutcome.DOCUMENTATION: 'documentation'>")

def closeTicket (ticket : TicketRef) (note : String) (outcome : TicketOutcome) : Adapter Unit := do
  let state ← Routine.ofExcept (closeState outcome)
  patch "sc_req_item" ticket.nativeId (("state", .number state) :: given "work_notes" (some note))

def annotateTicket (ticket : TicketRef) (note : String) : Adapter Unit :=
  patch "sc_req_item" ticket.nativeId [("work_notes", .text note)]

/-- The adapter under the calls that an escalation makes of the ticket system. -/
def handler : Handler Operations TableApi Groups
  | .provider _ (.openIncident request) => client.openIncident request
  | .provider _ (.closeIncident incident outcome) => closeIncident incident outcome
  | .provider _ (.closeTicket ticket note outcome) => closeTicket ticket note outcome
  | .provider _ (.annotateTicket ticket note) => annotateTicket ticket note
  | op => fun groups => .call (.elsewhere op) fun answer => .ret (answer, groups)

/-- The requests of one escalation of the run; its default team is the adapter's own. -/
def escalated (environment : Environment TableApi) (groups : Groups) (error : PyException)
    (run : WorkflowRun) : Trace TableApi :=
  (((Escalator.escalate client.defaultGroup error run).handled client.handler groups).play
    environment []).2

/-- The environment looks groups up in the table, where it answers at all. -/
def Serves (table : String → Option String) (environment : Environment TableApi) : Prop :=
  ∀ earlier name,
    environment earlier (.lookup "sys_user_group" client.groupLookupField name) = .ok (table name) ∨
      ∃ error, environment earlier
        (.lookup "sys_user_group" client.groupLookupField name) = .error error

/-- An incident that is assigned to a group. -/
def opensFor (sysId : String) : TableRequest → Bool
  | .postIncident body => body.lookup "assignment_group" = some (.text sysId)
  | _ => false

/-- The system id of a name: the map's, or else the table's. -/
def resolved (groups table : Groups) (name : String) : Option String :=
  ((groups name).filter (· ≠ "")).or (table name)

/-- The system id an incident for the team is assigned to. -/
def assigned (groups table : Groups) (team : String) : Option String :=
  (resolved groups table team).or (resolved groups table client.defaultGroup)

section Adapter

variable {client} {environment : Environment TableApi} {groups table : Groups}
  {trace : Trace TableApi} {sysId : String}

theorem lookup_incidentBody (request : IncidentRequest) (caller : String) (group : Option String) :
    (incidentBody request caller group).lookup "assignment_group" = group.map .text := by
  have hgiven : ∀ (key : String) (value : Option String) (rest : Body), key ≠ "assignment_group" →
      (given key value ++ rest).lookup "assignment_group" = rest.lookup "assignment_group" := by
    intro key value rest hkey
    unfold given
    cases value.filter (· ≠ "") with
    | none => rfl
    | some text =>
        have hother : ("assignment_group" == key) = false := by simp [hkey.symm]
        simp [List.lookup_cons, hother]
  cases group with
  | some found => simp [incidentBody, List.lookup_cons]
  | none =>
      simp only [incidentBody, Option.map_none, Option.toList_none, List.append_nil,
        List.append_assoc]
      change (given "description" request.description ++ (given "u_cloudio_flow_type"
        request.flowType ++ (given "u_cloudio_failed_task" request.failedTask ++
        given "work_notes" request.comment))).lookup "assignment_group" = none
      have hlast := hgiven "work_notes" request.comment [] (by decide)
      rw [List.append_nil] at hlast
      rw [hgiven _ _ _ (by decide), hgiven _ _ _ (by decide), hgiven _ _ _ (by decide), hlast]
      rfl

theorem play_lookupSysId (environment : Environment TableApi) (groups : Groups)
    (trace : Trace TableApi) (name field value : String) :
    ((lookupSysId name field value) groups).play environment trace =
      ((environment trace (.lookup name field value), groups),
        ⟨.lookup name field value, environment trace (.lookup name field value)⟩ :: trace) := by
  rw [lookupSysId, Routine.play_bind_ok (Routine.play_ask _), Routine.play_ofExcept]

theorem resolved_update {name found : String} (hmissing : (groups name).filter (· ≠ "") = none)
    (hfound : table name = some found) (other : String) :
    resolved (Function.update groups name (some found)) table other =
      resolved groups table other := by
  unfold resolved
  by_cases hother : other = name
  · subst hother
    rw [Function.update_self, hmissing, hfound]
    by_cases hempty : found = ""
    · simp [Option.filter, hempty]
    · simp [Option.filter, hempty]
  · rw [Function.update_of_ne hother]

/-- A name resolves as it does by the map and the table, now and ever after. -/
theorem play_groupSysId (hserves : client.Serves table environment) (groups : Groups)
    (trace : Trace TableApi) (sysId name : String) :
    let played := (client.groupSysId name groups).play environment trace
    (∀ other, resolved played.1.2 table other = resolved groups table other) ∧
      view (opensFor sysId) played.2 = view (opensFor sysId) trace ∧
      ∀ found, played.1.1 = .ok found → found = resolved groups table name := by
  rw [groupSysId, Routine.play_bind_ok Routine.play_read]
  cases hknown : (groups name).filter (· ≠ "") with
  | some known =>
      rw [resolved, hknown]
      simp
  | none =>
      -- only a group that was found is remembered, so a miss asks the table again
      have hlooked := play_lookupSysId environment groups trace "sys_user_group"
        client.groupLookupField name
      rcases hserves trace name with hanswer | ⟨error, hanswer⟩
      · rw [hanswer] at hlooked
        dsimp only
        rw [Routine.play_bind_ok hlooked]
        cases hfound : table name with
        | none =>
            rw [resolved, hknown, hfound]
            simp [view, opensFor]
        | some found =>
            rw [Routine.play_bind_ok (Routine.play_update _), Routine.play_pure]
            refine ⟨resolved_update hknown hfound, rfl, ?_⟩
            rw [resolved, hknown, hfound]
            simp
      · rw [hanswer] at hlooked
        dsimp only
        rw [Routine.play_bind_error hlooked]
        simp [view, opensFor]

/-- So is the team of an incident, with the default team's to fall back on. -/
theorem play_assignmentGroup (hserves : client.Serves table environment) (groups : Groups)
    (trace : Trace TableApi) (sysId team : String) :
    let played := (client.assignmentGroup team groups).play environment trace
    (∀ other, resolved played.1.2 table other = resolved groups table other) ∧
      view (opensFor sysId) played.2 = view (opensFor sysId) trace ∧
      ∀ found, played.1.1 = .ok found → found = client.assigned groups table team := by
  have hteam := play_groupSysId hserves groups trace sysId team
  rw [assignmentGroup, assigned]
  cases hplayed : (client.groupSysId team groups).play environment trace with
  | mk ended later =>
      obtain ⟨outcome, groups'⟩ := ended
      rw [hplayed] at hteam
      obtain ⟨hmemory, hview, hfound⟩ := hteam
      cases outcome with
      | error error =>
          rw [Routine.play_bind_error hplayed]
          simp [hmemory, hview]
      | ok found =>
          rw [Routine.play_bind_ok hplayed, ← hfound found rfl]
          cases found with
          | some sysId => simp [hmemory, hview]
          | none =>
              -- the default group is not asked for twice
              by_cases hdefault : team = client.defaultGroup
              · have hnone := hfound none rfl
                rw [hdefault] at hnone
                simp [hdefault, hmemory, hview, ← hnone]
              · obtain ⟨hmemory', hview', hfound'⟩ :=
                  play_groupSysId hserves groups' later sysId client.defaultGroup
                simp only [hdefault, if_false, Option.none_or]
                refine ⟨fun other => (hmemory' other).trans (hmemory other), hview'.trans hview, ?_⟩
                intro found houtcome
                exact (hfound' found houtcome).trans (hmemory _)

/-- An incident is opened for the group that its team is assigned, unless a request fails first. -/
theorem play_openIncident (hserves : client.Serves table environment) (groups : Groups)
    (trace : Trace TableApi) (sysId : String) (request : IncidentRequest) :
    let played := (client.openIncident request groups).play environment trace
    (∀ other, resolved played.1.2 table other = resolved groups table other) ∧
      (view (opensFor sysId) played.2 = view (opensFor sysId) trace ∧ played.1.1.isOk = false ∨
        (view (opensFor sysId) played.2).length =
          (if client.assigned groups table request.responsibleGroup = some sysId then 1 else 0) +
            (view (opensFor sysId) trace).length) := by
  have hlooked := play_lookupSysId environment groups trace "sys_user" client.userLookupField
    request.requestedBy
  rw [openIncident]
  cases hcaller : environment trace
      (.lookup "sys_user" client.userLookupField request.requestedBy) with
  | error error =>
      rw [hcaller] at hlooked
      have huser : (client.userSysId request.requestedBy groups).play environment trace = _ :=
        Routine.play_bind_error hlooked
      rw [Routine.play_bind_error huser]
      simp [view, opensFor, Except.isOk, Except.toBool]
  | ok user =>
      rw [hcaller] at hlooked
      have huser : (client.userSysId request.requestedBy groups).play environment trace = _ :=
        Routine.play_bind_ok hlooked
      rw [Routine.play_pure] at huser
      rw [Routine.play_bind_ok huser]
      have hgroup := play_assignmentGroup hserves groups
        (⟨.lookup "sys_user" client.userLookupField request.requestedBy, .ok user⟩ :: trace) sysId
        request.responsibleGroup
      cases hplayed : (client.assignmentGroup request.responsibleGroup groups).play environment
          (⟨.lookup "sys_user" client.userLookupField request.requestedBy, .ok user⟩ :: trace) with
      | mk ended later =>
          obtain ⟨outcome, groups'⟩ := ended
          rw [hplayed] at hgroup
          obtain ⟨hmemory, hview, hfound⟩ := hgroup
          have hbefore : view (opensFor sysId) later = view (opensFor sysId) trace := hview
          cases outcome with
          | error error =>
              rw [Routine.play_bind_error hplayed]
              exact ⟨hmemory, .inl ⟨hbefore, rfl⟩⟩
          | ok found =>
              rw [Routine.play_bind_ok hplayed, Routine.play_bind_ok (Routine.play_ask _),
                Routine.play_ofExcept, ← hfound found rfl]
              refine ⟨hmemory, .inr ?_⟩
              by_cases hsys : found = some sysId
              · rw [view_cons_of_pos (by simp [opensFor, lookup_incidentBody, hsys]), if_pos hsys,
                  List.length_cons, hbefore, Nat.add_comm]
              · have hother : found.map BodyValue.text ≠ some (.text sysId) := by
                  cases found with
                  | none => simp
                  | some other => simpa using hsys
                rw [view_cons_of_neg (by simp [opensFor, lookup_incidentBody, hother]), if_neg hsys,
                  hbefore, Nat.zero_add]

theorem play_patch (name target : String) (body : Body) :
    let played := (patch name target body groups).play environment trace
    played.1.2 = groups ∧ view (opensFor sysId) played.2 = view (opensFor sysId) trace := by
  rw [patch, Routine.play_bind_ok (Routine.play_ask _), Routine.play_ofExcept]
  exact ⟨rfl, view_cons_of_neg rfl⟩

/-- Only an incident is opened for a group, and only groups are looked up for one. -/
theorem play_handler_other (client : ServiceNow) (environment : Environment TableApi)
    (groups : Groups) (trace : Trace TableApi) (sysId : String) {op : Op}
    (hop : op.incidentTeam = none) :
    let played := (client.handler op groups).play environment trace
    played.1.2 = groups ∧ view (opensFor sysId) played.2 = view (opensFor sysId) trace := by
  cases op with
  | provider issuer call =>
      cases call with
      | openIncident request => cases hop
      | closeIncident incident outcome => exact play_patch _ _ _
      | annotateTicket ticket note => exact play_patch _ _ _
      | closeTicket ticket note outcome =>
          cases outcome with
          | documentation => exact ⟨rfl, rfl⟩
          | _ => exact play_patch _ _ _
      | _ => exact ⟨rfl, view_cons_of_neg rfl⟩
  | _ => exact ⟨rfl, view_cons_of_neg rfl⟩

/-- Each team asked adds the incident of its group, unless a request fails on the way. -/
theorem play_handler (hserves : client.Serves table environment) {memory : Groups}
    (hmemory : ∀ other, resolved memory table other = resolved groups table other)
    (trace : Trace TableApi) (sysId : String) (op : Op) :
    let played := (client.handler op memory).play environment trace
    (∀ other, resolved played.1.2 table other = resolved groups table other) ∧
      ((view (opensFor sysId) played.2).length =
          (op.incidentTeam.toList.countP fun team =>
            client.assigned groups table team = some sysId) +
            (view (opensFor sysId) trace).length ∨
        view (opensFor sysId) played.2 = view (opensFor sysId) trace ∧
          ∃ request, ((client.openIncident request memory).play environment trace).1.1.isOk =
            false) := by
  cases hteam : op.incidentTeam with
  | none =>
      obtain ⟨hkept, hview⟩ := play_handler_other client environment memory trace sysId hteam
      dsimp only
      rw [hkept, hview]
      exact ⟨hmemory, .inl (Nat.zero_add _).symm⟩
  | some team =>
      obtain ⟨issuer, request, rfl, rfl⟩ := eq_openIncident_of_incidentTeam hteam
      obtain ⟨hkept, hopened⟩ := play_openIncident hserves memory trace sysId request
      have hsame : client.assigned memory table request.responsibleGroup =
          client.assigned groups table request.responsibleGroup := by
        rw [assigned, assigned, hmemory, hmemory]
      refine ⟨fun other => (hkept other).trans (hmemory other), ?_⟩
      rcases hopened with ⟨hview, hfailed⟩ | hlength
      · exact .inr ⟨hview, request, hfailed⟩
      · rw [hsame] at hlength
        rw [Option.toList_some, List.countP_singleton]
        simp only [decide_eq_true_eq]
        exact .inl hlength

/-- No more incidents are opened for a group than there are teams asked that are assigned it. -/
theorem opened_le (hserves : client.Serves table environment) (trace : Trace Operations) :
    (view (opensFor sysId) (replay client.handler environment groups trace).2).length ≤
      (incidentTeams trace).countP fun team => client.assigned groups table team = some sysId := by
  have hrelated := replay_induction client.handler environment groups (fun trace memory requests =>
      (∀ other, resolved memory table other = resolved groups table other) ∧
        (view (opensFor sysId) requests).length ≤
          (incidentTeams trace).countP fun team => client.assigned groups table team = some sysId)
    ⟨fun _ => rfl, Nat.le_refl 0⟩
  refine (hrelated ?_ trace).2
  intro exchange earlier memory requests hearlier
  have hstep := play_handler hserves hearlier.1 requests sysId exchange.op
  refine ⟨hstep.1, ?_⟩
  rw [incidentTeams_cons, List.countP_append]
  rcases hstep.2 with hlength | ⟨hview, -⟩
  · rw [hlength]
    exact Nat.add_le_add_left hearlier.2 _
  · rw [hview]
    exact Nat.le_add_left_of_le hearlier.2

/-- And no fewer, where every incident asked for is opened. -/
theorem opened_eq (hserves : client.Serves table environment)
    (hopens : ∀ request memory requests,
      ((client.openIncident request memory).play environment requests).1.1.isOk = true)
    (trace : Trace Operations) :
    (view (opensFor sysId) (replay client.handler environment groups trace).2).length =
      (incidentTeams trace).countP fun team => client.assigned groups table team = some sysId := by
  have hrelated := replay_induction client.handler environment groups (fun trace memory requests =>
      (∀ other, resolved memory table other = resolved groups table other) ∧
        (view (opensFor sysId) requests).length =
          (incidentTeams trace).countP fun team => client.assigned groups table team = some sysId)
    ⟨fun _ => rfl, rfl⟩
  refine (hrelated ?_ trace).2
  intro exchange earlier memory requests hearlier
  have hstep := play_handler hserves hearlier.1 requests sysId exchange.op
  refine ⟨hstep.1, ?_⟩
  rw [incidentTeams_cons, List.countP_append]
  rcases hstep.2 with hlength | ⟨-, request, hfailed⟩
  · rw [hlength, hearlier.2]
  · rw [hopens] at hfailed
    cases hfailed

end Adapter

/-- A ticket system that answers every request, its groups those of the table. -/
def answering (table : Groups) : Environment TableApi := fun _ request =>
  match request with
  | .lookup name _ value => .ok (if name = "sys_user_group" then table value else none)
  | .patch .. => .ok ()
  | .postIncident _ => .ok ⟨"INC1", "incident1"⟩
  | .elsewhere op => outage [] op

/-- Two incidents of one failure come to the default team: its own record, and the responsible
team's, whose name is not the default team's but resolves to the same group, or to none. -/
def SharesQueue (groups table : Groups) (error : PyException) (run : WorkflowRun) : Prop :=
  let team := Escalator.responsibleTeam client.defaultGroup run.runState.engineFailure
  OwnedElsewhere client.defaultGroup error run ∧
    (resolved groups table client.defaultGroup).isSome ∧
    (resolved groups table team = none ∨
      resolved groups table team = resolved groups table client.defaultGroup)

section Queue

variable {client} {groups table : Groups} {error : PyException} {run : WorkflowRun}

theorem serves_answering : client.Serves table (answering table) :=
  fun _ _ => .inl rfl

theorem groupSysId_answering (client : ServiceNow) (table : Groups) (name : String)
    (memory : Groups) (requests : Trace TableApi) :
    ∃ found memory' requests', (client.groupSysId name memory).play (answering table) requests =
      ((.ok found, memory'), requests') := by
  rw [groupSysId, Routine.play_bind_ok Routine.play_read]
  cases (memory name).filter (· ≠ "") with
  | some known => exact ⟨_, _, _, rfl⟩
  | none =>
      have hlooked : (lookupSysId "sys_user_group" client.groupLookupField name memory).play
          (answering table) requests = _ := play_lookupSysId _ _ _ _ _ _
      dsimp only
      rw [Routine.play_bind_ok hlooked]
      cases table name with
      | none => exact ⟨_, _, _, rfl⟩
      | some found => exact ⟨_, _, _, rfl⟩

theorem assignmentGroup_answering (client : ServiceNow) (table : Groups) (team : String)
    (memory : Groups) (requests : Trace TableApi) :
    ∃ found memory' requests',
      (client.assignmentGroup team memory).play (answering table) requests =
      ((.ok found, memory'), requests') := by
  obtain ⟨found, memory', requests', hplayed⟩ :=
    groupSysId_answering client table team memory requests
  rw [assignmentGroup, Routine.play_bind_ok hplayed]
  cases found with
  | some sysId => exact ⟨_, _, _, rfl⟩
  | none =>
      by_cases hdefault : team = client.defaultGroup
      · rw [if_pos hdefault]
        exact ⟨_, _, _, rfl⟩
      · rw [if_neg hdefault]
        exact groupSysId_answering _ _ _ _ _

theorem openIncident_answering (request : IncidentRequest) (memory : Groups)
    (requests : Trace TableApi) :
    ((client.openIncident request memory).play (answering table) requests).1.1.isOk = true := by
  have hlooked : (lookupSysId "sys_user" client.userLookupField request.requestedBy memory).play
      (answering table) requests = _ := play_lookupSysId _ _ _ _ _ _
  have huser : (client.userSysId request.requestedBy memory).play (answering table) requests = _ :=
    Routine.play_bind_ok hlooked
  rw [Routine.play_pure] at huser
  rw [openIncident, Routine.play_bind_ok huser]
  obtain ⟨found, memory', requests', hplayed⟩ :=
    assignmentGroup_answering client table request.responsibleGroup memory
      (⟨_, answering table requests (.lookup "sys_user" client.userLookupField
        request.requestedBy)⟩ :: requests)
  rw [Routine.play_bind_ok hplayed]
  rfl

theorem escalated_eq_replay (environment : Environment TableApi) :
    client.escalated environment groups error run =
      (replay client.handler environment groups
        (CloudioOrchestrator.escalated (induced client.handler environment groups)
          client.defaultGroup error run).2).2 :=
  congrArg Prod.snd (play_handled client.handler environment groups
    (Escalator.escalate client.defaultGroup error run) [])

/-- One escalation opens at most one incident for the default team's group, unless two teams of
its failure share that group's queue. -/
theorem one_incident_iff_not_sharesQueue (client : ServiceNow) (groups table : Groups)
    (error : PyException) (run : WorkflowRun) :
    (∀ environment sysId, client.Serves table environment →
        resolved groups table client.defaultGroup = some sysId →
        (view (opensFor sysId) (client.escalated environment groups error run)).length ≤ 1) ↔
      ¬ client.SharesQueue groups table error run := by
  constructor
  · rintro hone ⟨howned, hdefault, hteam⟩
    obtain ⟨sysId, hsys⟩ := Option.isSome_iff_exists.mp hdefault
    have hlength := hone (answering table) sysId serves_answering hsys
    rw [escalated_eq_replay, opened_eq serves_answering openIncident_answering,
      incidentTeams_of_ownedElsewhere howned] at hlength
    · have hboth : client.assigned groups table client.defaultGroup = some sysId := by
        simp [assigned, hsys]
      have hother : client.assigned groups table
          (Escalator.responsibleTeam client.defaultGroup run.runState.engineFailure) =
            some sysId := by
        rcases hteam with hnone | hsame
        · simp [assigned, hnone, hsys]
        · simp [assigned, hsame, hsys]
      simp [hboth, hother] at hlength
    · intro earlier request
      exact openIncident_answering _ _ _
  · intro hshares environment sysId hserves hsys
    rw [escalated_eq_replay]
    refine Nat.le_trans (opened_le hserves _) ?_
    rcases incidentTeams_escalated (induced client.handler environment groups) client.defaultGroup
      error run with hone | ⟨howned, hteams⟩
    · exact Nat.le_trans List.countP_le_length hone
    · have hother : client.assigned groups table
          (Escalator.responsibleTeam client.defaultGroup run.runState.engineFailure) ≠
            some sysId := by
        intro hassigned
        refine hshares ⟨howned, by simp [hsys], ?_⟩
        unfold assigned at hassigned
        cases hresolved : resolved groups table
            (Escalator.responsibleTeam client.defaultGroup run.runState.engineFailure) with
        | none => exact .inl rfl
        | some found => exact .inr (by simpa [hresolved, hsys] using hassigned)
      rw [hteams, List.countP_cons, List.countP_cons, List.countP_nil]
      simp [hother]
      split <;> omega

/-- A table of groups that knows the default team alone. -/
def soleGroup : Groups := fun name => if name = "cloudio" then some "g1" else none

def unlistedTeam : WorkflowRun :=
  { brokenRow with runState := { brokenRow.runState with
      engineFailure := some { failedTask := some "attach", responsibleGroup := some "storage",
                              detail := some "disk full" } } }

/-- A team that the table does not list shares the default team's queue. -/
theorem two_incidents_in_one_queue :
    ¬ ∀ (client : ServiceNow) (environment : Environment TableApi) (groups table : Groups)
      (error : PyException) (run : WorkflowRun) (sysId : String), run.status = .failed →
      client.Serves table environment → resolved groups table client.defaultGroup = some sysId →
      (view (opensFor sysId) (client.escalated environment groups error run)).length ≤ 1 := by
  intro hall
  have hone := hall ⟨"cloudio", "name", "user_name"⟩ (answering soleGroup) (fun _ => none) soleGroup
    (.stepFailure "Workflow failed" .task) unlistedTeam "g1" rfl serves_answering rfl
  revert hone
  decide +kernel

end Queue

end ServiceNow

end CloudioOrchestrator
