import CloudioOrchestrator.References

/-! # Ordering once

A ticket is found again by the tag that its order is followed by. Calls of
`open_ticket`, one after another, over an instance whose exchanges may be refused
or lost: where no tag is lost unheard, a ticket that was returned for a key is
what every later call with the key returns, and nothing more is ordered for it.
-/

namespace CloudioOrchestrator

open Interaction EncodedQuery

def HttpRequest.isOrder : HttpRequest → Bool
  | .orderNow .. => true
  | _ => false

namespace Instance

/-- The catalog orders that were sent. -/
def orders (world : Instance) : List HttpRequest :=
  world.sent.filter HttpRequest.isOrder

/-- The first request item that has the tag. -/
def tagged (world : Instance) (key : String) : Option TableRow :=
  (world.rows "sc_req_item").find? fun row => row "correlation_id" = key

/-- No row was written, and nothing was ordered. -/
structure Quiet (world after : Instance) : Prop where
  rows : after.rows = world.rows
  orders : after.orders = world.orders

theorem Quiet.trans {world between after : Instance} (hfirst : world.Quiet between)
    (hsecond : between.Quiet after) : world.Quiet after :=
  ⟨hsecond.rows.trans hfirst.rows, hsecond.orders.trans hfirst.orders⟩

theorem Quiet.tagged {world after : Instance} (hquiet : world.Quiet after) (key : String) :
    after.tagged key = world.tagged key := by
  rw [Instance.tagged, hquiet.rows, Instance.tagged]

end Instance

/-- The ticket that a request item is. -/
def TableRow.ticketRef (row : TableRow) : TicketRef :=
  ⟨row "number", row "sys_id"⟩

/-- A write that is refused was done all the same. -/
def Circumstance.Heard (choice : Circumstance) : Prop :=
  ∀ table sysId body status, choice.fault (.patch table sysId body) ≠ some (.refused status false)

theorem tagColumn_wellFormed : ∀ char ∈ "correlation_id".toList, isColumnChar char = true :=
  List.all_eq_true.mp (by decide)

def tagColumn : Column where
  name := "correlation_id"
  wellFormed := tagColumn_wellFormed

theorem requestColumn_wellFormed : ∀ char ∈ "request".toList, isColumnChar char = true :=
  List.all_eq_true.mp (by decide)

def requestColumn : Column where
  name := "request"
  wellFormed := requestColumn_wellFormed

theorem tagColumn_equals (key : String) : tagColumn.equals key = "correlation_id=" ++ key :=
  congrArg (· ++ key) (by decide)

theorem requestColumn_equals (requestId : String) :
    requestColumn.equals requestId = "request=" ++ requestId :=
  congrArg (· ++ requestId) (by decide)

section Serving

variable {dialect : Dialect TableRow} {allowed : Circumstance → Prop} {agent : Client Unit}
  {groups : Groups} {world : Instance}

/-- One method of the adapter at a time, where only some things happen to its exchanges. -/
abbrev atDesk (dialect : Dialect TableRow) (allowed : Circumstance → Prop) :
    Discipline ((instanceService dialect).restrict allowed) :=
  ((instanceService dialect).restrict allowed).alone

theorem quiet_get (dialect : Dialect TableRow) (choice : Circumstance) (world : Instance)
    (table query : String) (fields : List String) :
    world.Quiet (world.serve dialect choice (.get table query fields)).2 := by
  simp only [Instance.serve]
  cases choice.fault (.get table query fields) with
  | none => exact ⟨rfl, rfl⟩
  | some fault =>
      simp only [Instance.perform, ite_self]
      exact ⟨rfl, rfl⟩

/-- A query that is answered finds the first row it selects. -/
theorem wp_getRows {table query : String} {fields : List String}
    {post : Except ProviderError (List Fields) → Groups → Instance → Prop}
    (hfound : ∀ after, world.Quiet after →
      post (.ok ((dialect.first query (world.rows table)).toList.map fun row =>
        fields.map fun field => (field, row field))) groups after)
    (hfailed : ∀ error after, world.Quiet after → post (.error error) groups after) :
    (atDesk dialect allowed).wp agent (ServiceNow.getRows table query fields) post groups
        world := by
  simp only [ServiceNow.getRows, Discipline.wp_bind]
  rw [Discipline.alone_ask]
  rintro ⟨choice, hchoice⟩
  have hquiet := quiet_get dialect choice world table query fields
  simp only [Instance.serve] at hquiet ⊢
  generalize choice.fault (.get table query fields) = fault at hquiet ⊢
  cases fault with
  | none => exact hfound _ hquiet
  | some fault =>
      cases fault with
      | refused status applied => exact hfailed _ _ hquiet
      | raised name message applied => exact hfailed _ _ hquiet

/-- What the adapter only looks up. -/
def isLookup : TableRequest → Bool
  | .lookup .. => true
  | _ => false

/-- Looking something up writes nothing. -/
theorem wp_byTables_lookups {α : Type} {body : Adapter α} (hbody : body.Confined isLookup) :
    (atDesk dialect allowed).wp agent (ServiceNow.byTables body)
      (fun _ _ after => world.Quiet after) groups world := by
  suffices hsafe : ∀ program : Prog TableApi (Except ProviderError α × Groups),
      program.Confined isLookup → ∀ between, world.Quiet between →
      (atDesk dialect allowed).Safe agent (fun _ after => world.Quiet after)
        (program.handled ServiceNow.tables ()) between by
    change (atDesk dialect allowed).Safe agent _ (Prog.bind _ _) world
    rw [Discipline.safe_bind]
    exact hsafe (body groups) (hbody groups) world ⟨rfl, rfl⟩
  intro program
  induction program with
  | ret value => exact fun _ _ hquiet => hquiet
  | call op next ih =>
      intro hconfined between hquiet
      obtain ⟨hop, hnext⟩ := hconfined
      cases op with
      | lookup table field value =>
          rintro _ rfl - ⟨choice, hchoice⟩
          refine ⟨trivial, trivial, ih _ (hnext _) _ (hquiet.trans ?_)⟩
          exact quiet_get dialect choice between _ _ _
      | patch table sysId body => cases hop
      | postIncident body => cases hop
      | elsewhere op => cases hop

theorem userSysId_confined (client : ServiceNow) (login : String) :
    (client.userSysId login).Confined isLookup := by
  apply Routine.Confined.bind
  · exact Routine.Confined.bind (Routine.confined_ask rfl) fun _ => Routine.confined_ofExcept _
  · intro found
    exact Routine.confined_pure _

theorem groupSysId_confined (client : ServiceNow) (name : String) :
    (client.groupSysId name).Confined isLookup := by
  apply Routine.Confined.bind Routine.confined_read
  intro groups
  split
  · exact Routine.confined_pure _
  · apply Routine.Confined.bind
    · exact Routine.Confined.bind (Routine.confined_ask rfl) fun _ => Routine.confined_ofExcept _
    · intro found
      split
      · exact Routine.confined_pure _
      · exact Routine.Confined.bind (Routine.confined_update _) fun _ => Routine.confined_pure _

theorem wp_resolvedVariables (client : ServiceNow) (fields : List (String × JsonValue)) :
    (atDesk dialect allowed).wp agent (client.resolvedVariables fields)
      (fun _ _ after => world.Quiet after) groups world := by
  have hquiet : world.Quiet world := ⟨rfl, rfl⟩
  simp only [ServiceNow.resolvedVariables]
  split
  next name _ =>
    split
    · exact hquiet
    · rw [Discipline.wp_bind]
      apply Discipline.wp_mono (wp_byTables_lookups (groupSysId_confined client name))
      intro ended object after hafter
      cases ended with
      | error error => exact hafter
      | ok found => cases found <;> exact hafter
  next => exact hquiet

/-- The item that an order creates. -/
def newItem (choice : Circumstance) (templateId requestedFor : String) : TableRow :=
  .of [("sys_id", choice.sysId), ("number", choice.number), ("request", choice.requestId),
    ("cat_item", templateId), ("requested_for", requestedFor)]

/-- An order that is answered has created its item; one that is not may have. -/
theorem serve_orderNow (dialect : Dialect TableRow) (choice : Circumstance) (world : Instance)
    (templateId requestedFor : String) (fields : List (String × JsonValue)) :
    let served := world.serve dialect choice (.orderNow templateId fields requestedFor)
    world.rows "sc_req_item" <+: served.2.rows "sc_req_item" ∧
      ((∃ error, served.1 = .error error) ∨ (∃ status, served.1 = .ok (.refused status)) ∨
        served.1 = .ok (.ok [("sys_id", choice.requestId)]) ∧
          Instance.issues choice (world.rows "sc_req_item") = true ∧
          served.2.rows "sc_req_item" =
            world.rows "sc_req_item" ++ [newItem choice templateId requestedFor]) := by
  simp only [Instance.serve, Instance.perform, Instance.insert]
  by_cases hissues : Instance.issues choice (world.rows "sc_req_item") = true
  · simp only [hissues, if_true, Instance.withRows]
    cases choice.fault (.orderNow templateId fields requestedFor) with
    | none => simp [newItem]
    | some fault =>
        have hgrows : world.rows "sc_req_item" <+: (if fault.applied then
            { world with
              rows := Function.update world.rows "sc_req_item" (world.rows "sc_req_item" ++
                [newItem choice templateId requestedFor])
              sent := .orderNow templateId fields requestedFor :: world.sent }
          else { world with
            sent := .orderNow templateId fields requestedFor :: world.sent }).rows
              "sc_req_item" := by
          split <;> simp
        refine ⟨hgrows, ?_⟩
        cases fault with
        | refused status applied => exact .inr (.inl ⟨status, rfl⟩)
        | raised name message applied => exact .inl ⟨_, rfl⟩
  · simp only [hissues, Bool.false_eq_true, if_false]
    cases choice.fault (.orderNow templateId fields requestedFor) with
    | none => simp
    | some fault =>
        simp only [ite_self]
        refine ⟨List.prefix_rfl, ?_⟩
        cases fault with
        | refused status applied => exact .inr (.inl ⟨status, rfl⟩)
        | raised name message applied => exact .inl ⟨_, rfl⟩

/-- A tag whose request is answered is on the item, where no tag is lost unheard. -/
theorem serve_tag (dialect : Dialect TableRow) {choice : Circumstance} (hheard : choice.Heard)
    {world : Instance} {earlier : List TableRow} {item : TableRow} (body : Body)
    (hrows : world.rows "sc_req_item" = earlier ++ [item])
    (hfresh : ∀ row ∈ earlier, row "sys_id" ≠ item "sys_id") :
    let served := world.serve dialect choice (.patch "sc_req_item" (item "sys_id") body)
    earlier <+: served.2.rows "sc_req_item" ∧ ((∃ error, served.1 = .error error) ∨
      (∃ reply, served.1 = .ok reply) ∧
        served.2.rows "sc_req_item" = earlier ++ [item.write body]) := by
  have hwritten : ((earlier ++ [item]).map fun row =>
      if row "sys_id" = item "sys_id" then row.write body else row) =
        earlier ++ [item.write body] := by
    rw [List.map_append, List.map_congr_left (g := id)]
    · simp
    · intro row hrow
      simp [hfresh row hrow]
  simp only [Instance.serve, Instance.perform, hrows, List.any_append, List.any_cons,
    decide_true, Bool.true_or, Bool.or_true, if_true, hwritten, Instance.withRows]
  cases hfault : choice.fault (.patch "sc_req_item" (item "sys_id") body) with
  | none => simp
  | some fault =>
      cases fault with
      | refused status applied =>
          cases applied with
          | false => exact absurd hfault (hheard _ _ _ _)
          | true => simp [Instance.failing, Fault.reply, Fault.applied]
      | raised name message applied =>
          cases applied with
          | false => simp [Instance.failing, Fault.reply, Fault.applied, hrows]
          | true => simp [Instance.failing, Fault.reply, Fault.applied]

theorem wp_orderNow {templateId requestedFor : String} {fields : List (String × JsonValue)}
    {post : Except ProviderError (HttpRequest.Answer (.orderNow templateId fields requestedFor)) →
      Groups → Instance → Prop}
    (hfailed : ∀ error after, world.rows "sc_req_item" <+: after.rows "sc_req_item" →
      post (.ok (.error error)) groups after)
    (hrefused : ∀ status after, world.rows "sc_req_item" <+: after.rows "sc_req_item" →
      post (.ok (.ok (.refused status))) groups after)
    (hplaced : ∀ choice after, Instance.issues choice (world.rows "sc_req_item") = true →
      after.rows "sc_req_item" =
        world.rows "sc_req_item" ++ [newItem choice templateId requestedFor] →
      post (.ok (.ok (.ok [("sys_id", choice.requestId)]))) groups after) :
    (atDesk dialect allowed).wp agent
      (Routine.ask (S := HttpApi) (.orderNow templateId fields requestedFor)) post groups
          world := by
  rw [Discipline.alone_ask]
  rintro ⟨choice, hchoice⟩
  change post (.ok (world.serve dialect choice (.orderNow templateId fields requestedFor)).1) groups
    (world.serve dialect choice (.orderNow templateId fields requestedFor)).2
  obtain ⟨hgrows, hanswer⟩ := serve_orderNow dialect choice world templateId requestedFor fields
  rcases hanswer with ⟨error, hanswer⟩ | ⟨status, hanswer⟩ | ⟨hanswer, hissues, hrows⟩
  · rw [hanswer]
    exact hfailed error _ hgrows
  · rw [hanswer]
    exact hrefused status _ hgrows
  · rw [hanswer]
    exact hplaced choice _ hissues hrows

theorem wp_tag (hheard : ∀ choice, allowed choice → choice.Heard) {earlier : List TableRow}
    {item : TableRow} {body : Body} (hrows : world.rows "sc_req_item" = earlier ++ [item])
    (hfresh : ∀ row ∈ earlier, row "sys_id" ≠ item "sys_id")
    {post : Except ProviderError (HttpRequest.Answer (.patch "sc_req_item" (item "sys_id") body)) →
      Groups → Instance → Prop}
    (hfailed : ∀ error after, earlier <+: after.rows "sc_req_item" →
      post (.ok (.error error)) groups after)
    (htagged : ∀ reply after, after.rows "sc_req_item" = earlier ++ [item.write body] →
      post (.ok (.ok reply)) groups after) :
    (atDesk dialect allowed).wp agent
      (Routine.ask (S := HttpApi) (.patch "sc_req_item" (item "sys_id") body)) post groups
          world := by
  rw [Discipline.alone_ask]
  rintro ⟨choice, hchoice⟩
  change post
    (.ok (world.serve dialect choice (.patch "sc_req_item" (item "sys_id") body)).1) groups
    (world.serve dialect choice (.patch "sc_req_item" (item "sys_id") body)).2
  obtain ⟨hgrows, hanswer⟩ := serve_tag dialect (hheard choice hchoice) body hrows hfresh
  rcases hanswer with ⟨error, hanswer⟩ | ⟨⟨reply, hanswer⟩, hwritten⟩
  · rw [hanswer]
    exact hfailed error _ hgrows
  · rw [hanswer]
    exact htagged reply _ hwritten

/-- What one call comes to: rows are only added; where a ticket is tagged with the
key nothing is ordered and the ticket is returned; and what is returned is tagged. -/
structure Ticketed (key : String) (world : Instance) (ended : Except ProviderError TicketRef)
    (final : Instance) : Prop where
  grows : world.rows "sc_req_item" <+: final.rows "sc_req_item"
  known : '^' ∉ key.toList → ∀ row, world.tagged key = some row →
    final.orders = world.orders ∧ ∀ ticket, ended = .ok ticket → row.ticketRef = ticket
  tagged : '^' ∉ key.toList → ∀ ticket, ended = .ok ticket →
    ∃ row, final.tagged key = some row ∧ row.ticketRef = ticket

/-- A call that raised where no ticket is tagged has only added rows. -/
theorem Ticketed.raised {key : String} {error : ProviderError} {final : Instance}
    (hnone : '^' ∉ key.toList → world.tagged key = none)
    (hgrows : world.rows "sc_req_item" <+: final.rows "sc_req_item") :
    Ticketed key world (.error error) final where
  grows := hgrows
  known hplain row htagged := by
    rw [hnone hplain] at htagged
    cases htagged
  tagged _ ticket heq := by cases heq

theorem first_tag (dialect : Dialect TableRow)
    (hdialect : dialect.Compares fun row column => row column)
    {key : String} (hplain : '^' ∉ key.toList) (world : Instance) :
    dialect.first ("correlation_id=" ++ key) (world.rows "sc_req_item") = world.tagged key := by
  rw [← tagColumn_equals, hdialect.first tagColumn hplain]
  rfl

/-- The tag is looked up before anything is ordered. -/
theorem wp_findRitm (hdialect : dialect.Compares fun row column => row column) {key : String}
    {post : Except ProviderError (Option TicketRef) → Groups → Instance → Prop}
    (hfound : ∀ found after, world.Quiet after →
      ('^' ∉ key.toList → found = (world.tagged key).map TableRow.ticketRef) →
      post (.ok found) groups after)
    (hfailed : ∀ error after, world.Quiet after → post (.error error) groups after) :
    (atDesk dialect allowed).wp agent (ServiceNow.findRitm key) post groups world := by
  rw [ServiceNow.findRitm, Discipline.wp_bind]
  apply wp_getRows
  · intro after hquiet
    have hfirst : '^' ∉ key.toList → dialect.first ("correlation_id=" ++ key)
        (world.rows "sc_req_item") = world.tagged key := by
      intro hplain
      exact first_tag dialect hdialect hplain world
    cases hselected : dialect.first ("correlation_id=" ++ key) (world.rows "sc_req_item") with
    | none =>
        rw [hselected] at hfirst
        apply hfound _ after hquiet
        intro hplain
        rw [← hfirst hplain]
        rfl
    | some row =>
        rw [hselected] at hfirst
        apply hfound _ after hquiet
        intro hplain
        rw [← hfirst hplain]
        rfl
  · intro error after hquiet
    exact hfailed error after hquiet

/-- The item that an order has created is found by its request. -/
theorem first_request (hdialect : dialect.Compares fun row column => row column)
    {choice : Circumstance} {rows : List TableRow} (hissues : Instance.issues choice rows = true)
    (templateId requestedFor : String) :
    dialect.first ("request=" ++ choice.requestId)
        (rows ++ [newItem choice templateId requestedFor]) =
      some (newItem choice templateId requestedFor) := by
  simp only [Instance.issues, Bool.and_eq_true, List.all_eq_true, decide_eq_true_eq] at hissues
  rw [← requestColumn_equals, hdialect.first requestColumn hissues.2, List.find?_append]
  have hnone : rows.find? (fun row => row requestColumn.name = choice.requestId) = none := by
    rw [List.find?_eq_none]
    intro row hrow
    rw [decide_eq_true_eq]
    exact (hissues.1 row hrow).2
  rw [hnone]
  simp [newItem, TableRow.of, requestColumn, List.lookup_cons]

/-- The item that was tagged last is the one that has the tag. -/
theorem tagged_write {key : String} (hnone : world.tagged key = none) (item : TableRow)
    {final : Instance} (hrows : final.rows "sc_req_item" =
      world.rows "sc_req_item" ++ [item.write [("correlation_id", .text key)]]) :
    final.tagged key = some (item.write [("correlation_id", .text key)]) := by
  rw [Instance.tagged] at hnone ⊢
  rw [hrows, List.find?_append, hnone]
  simp [TableRow.write, BodyValue.column]

/-- A field that was asked for is in the row. -/
theorem item_projected (row : TableRow) (fields : List String) (field : String)
    (hfield : field ∈ fields) :
    Fields.item (fields.map fun field => (field, row field)) field = .ok (row field) := by
  induction fields with
  | nil => cases hfield
  | cons first rest ih =>
      by_cases heq : field = first
      · subst heq
        simp [Fields.item]
      · have hrest := ih ((List.mem_cons.mp hfield).resolve_left heq)
        simp only [Fields.item, List.map_cons, List.lookup_cons, beq_eq_false_iff_ne.mpr heq]
        exact hrest

/-- The order and what follows it: the item is found by its request and tagged. -/
theorem wp_order (hdialect : dialect.Compares fun row column => row column)
    (hheard : ∀ choice, allowed choice → choice.Heard) {key : String} {current : Instance}
    (templateId requestedFor : String) (ordered : List (String × JsonValue))
    (hnone : '^' ∉ key.toList → world.tagged key = none)
    (hbefore : world.rows "sc_req_item" = current.rows "sc_req_item") :
    (atDesk dialect allowed).wp agent
      (do
        let answer ← Routine.ask (S := HttpApi) (.orderNow templateId ordered requestedFor)
        let order ← Routine.ofExcept answer
        let result ← Routine.ofExcept order.raiseForStatus
        let requestId ← Routine.ofExcept (result.item "sys_id")
        let rows ← ServiceNow.getRows "sc_req_item" ("request=" ++ requestId) ["number", "sys_id"]
        match rows with
        | [] => Routine.raise (.other "IndexError" "list index out of range")
        | row :: _ =>
          let number ← Routine.ofExcept (row.item "number")
          let sysId ← Routine.ofExcept (row.item "sys_id")
          let tag ← Routine.ask (S := HttpApi)
            (.patch "sc_req_item" sysId [("correlation_id", .text key)])
          let _ ← Routine.ofExcept tag
          return ⟨number, sysId⟩)
      (fun ended _ final => Ticketed key world ended final) groups current := by
  rw [Discipline.wp_bind]
  apply wp_orderNow
  · intro error after hgrows
    exact .raised hnone (hbefore ▸ hgrows)
  · intro status after hgrows
    exact .raised hnone (hbefore ▸ hgrows)
  · intro choice placed hissues hrows
    rw [← hbefore] at hissues hrows
    have hfound := first_request hdialect hissues templateId requestedFor
    have hgrows : world.rows "sc_req_item" <+: placed.rows "sc_req_item" :=
      hrows ▸ List.prefix_append _ _
    have hrequest : Fields.item [("sys_id", choice.requestId)] "sys_id" =
        .ok choice.requestId := rfl
    obtain ⟨hfresh, -⟩ := Bool.and_eq_true_iff.mp hissues
    simp only [Discipline.wp_bind, Discipline.wp_ofExcept, Reply.raiseForStatus, hrequest]
    apply wp_getRows
    · intro after hquiet
      rw [hrows, hfound]
      generalize hitem : newItem choice templateId requestedFor = item at hrows
      simp only [Option.toList_some, List.map_cons, List.map_nil, Discipline.wp_bind,
        Discipline.wp_ofExcept]
      have hnumber := item_projected item ["number", "sys_id"] "number" (by simp)
      have hsysId := item_projected item ["number", "sys_id"] "sys_id" (by simp)
      simp only [List.map_cons, List.map_nil] at hnumber hsysId
      simp only [hnumber, hsysId]
      apply wp_tag hheard (hquiet.rows ▸ hrows)
      · intro row hrow
        have hnew := List.all_eq_true.mp hfresh row hrow
        rw [decide_eq_true_eq] at hnew
        rw [← hitem]
        exact hnew.1
      · intro error final hfinal
        exact .raised hnone hfinal
      · intro reply final hfinal
        refine ⟨hfinal ▸ List.prefix_append _ _, ?_, ?_⟩
        · intro hplain row htagged
          rw [hnone hplain] at htagged
          cases htagged
        · intro hplain ticket hticket
          refine ⟨_, tagged_write (hnone hplain) item hfinal, ?_⟩
          rw [← Except.ok.inj hticket]
          rfl
    · intro error after hquiet
      exact .raised hnone (hquiet.rows ▸ hgrows)

theorem wp_openTicket (client : ServiceNow)
    (hdialect : dialect.Compares fun row column => row column)
    (hheard : ∀ choice, allowed choice → choice.Heard) (templateId : String)
    (fields : List (String × JsonValue)) (requestedBy key : String) :
    (atDesk dialect allowed).wp agent (client.openTicket templateId fields requestedBy key)
      (fun ended _ final => Ticketed key world ended final) groups world := by
  rw [ServiceNow.openTicket, Discipline.wp_bind]
  apply wp_findRitm hdialect
  · intro found after hquiet hfound
    have hsame : world.rows "sc_req_item" = after.rows "sc_req_item" := by rw [hquiet.rows]
    cases found with
    | some ticket =>
        have hknown : '^' ∉ key.toList → ∃ row, world.tagged key = some row ∧
            row.ticketRef = ticket := by
          intro hplain
          exact Option.map_eq_some_iff.mp (hfound hplain).symm
        refine ⟨hsame ▸ List.prefix_rfl, ?_, ?_⟩
        · intro hplain row htagged
          obtain ⟨other, hother, heq⟩ := hknown hplain
          obtain rfl := Option.some.inj (htagged.symm.trans hother)
          refine ⟨hquiet.orders, ?_⟩
          intro returned hreturned
          exact heq.trans (Except.ok.inj hreturned)
        · intro hplain returned hreturned
          obtain ⟨row, htagged, heq⟩ := hknown hplain
          exact ⟨row, (hquiet.tagged key).trans htagged, heq.trans (Except.ok.inj hreturned)⟩
    | none =>
        have hnone : '^' ∉ key.toList → world.tagged key = none := by
          intro hplain
          exact Option.map_eq_none_iff.mp (hfound hplain).symm
        simp only
        rw [Discipline.wp_bind]
        apply Discipline.wp_mono (wp_byTables_lookups (userSysId_confined client requestedBy))
        intro ended memory looked hlooked
        cases ended with
        | error error => exact .raised hnone (hlooked.rows ▸ hsame ▸ List.prefix_rfl)
        | ok requestedFor =>
            simp only
            rw [Discipline.wp_bind]
            apply Discipline.wp_mono (wp_resolvedVariables client fields)
            intro ended memory resolved hresolved
            have hbefore : world.rows "sc_req_item" = resolved.rows "sc_req_item" := by
              rw [hresolved.rows, hlooked.rows, hsame]
            cases ended with
            | error error => exact .raised hnone (hbefore ▸ List.prefix_rfl)
            | ok ordered =>
                exact wp_order hdialect hheard templateId requestedFor ordered hnone hbefore
  · intro error after hquiet
    refine ⟨hquiet.rows ▸ List.prefix_rfl, ?_, ?_⟩
    · intro _ row _
      refine ⟨hquiet.orders, ?_⟩
      intro ticket heq
      cases heq
    · intro _ ticket heq
      cases heq

end Serving

/-! ## Calls one after another -/

/-- One call: what it asks for, what the worker that makes it remembers, and what
happens to its exchanges. -/
structure TicketCall where
  templateId : String
  fields : List (String × JsonValue)
  requestedBy : String
  key : String
  groups : Groups
  choose : Nat → Circumstance

section Calls

variable (client : ServiceNow) (dialect : Dialect TableRow)

def TicketCall.serve (call : TicketCall) (world : Instance) :
    Except ProviderError TicketRef × Instance :=
  let ended := (instanceService dialect).finish ⟨(), 0⟩ call.choose
    (client.openTicket call.templateId call.fields call.requestedBy call.key call.groups) (0, world)
  (ended.1.1, ended.2.2)

def serveAll (calls : List TicketCall) (world : Instance) : Instance :=
  calls.foldl (fun world call => (call.serve client dialect world).2) world

/-- Once a call with the key has returned a ticket, no later call with the key
orders anything, and what it returns, if it returns, is the ticket. -/
def OrderedOnce (key : String) (calls : List TicketCall) (world : Instance) : Prop :=
  ∀ before first between later after ticket,
    calls = before ++ first :: between ++ later :: after → first.key = key → later.key = key →
    (first.serve client dialect (serveAll client dialect before world)).1 = .ok ticket →
    let known := serveAll client dialect (before ++ first :: between) world
    (later.serve client dialect known).2.orders = known.orders ∧
      ∀ returned, (later.serve client dialect known).1 = .ok returned → returned = ticket

variable {client dialect}

theorem serveAll_append (before after : List TicketCall) (world : Instance) :
    serveAll client dialect (before ++ after) world =
      serveAll client dialect after (serveAll client dialect before world) :=
  List.foldl_append

theorem TicketCall.serve_ticketed (client : ServiceNow)
    (hdialect : dialect.Compares fun row column => row column) {call : TicketCall}
    (hheard : ∀ count, (call.choose count).Heard) (world : Instance) :
    Ticketed call.key world (call.serve client dialect world).1
      (call.serve client dialect world).2 := by
  have hsafe : (atDesk dialect Circumstance.Heard).wp ⟨(), 0⟩
      (client.openTicket call.templateId call.fields call.requestedBy call.key)
      (fun ended _ final => Ticketed call.key world ended final) call.groups world :=
    wp_openTicket client hdialect (fun _ hchoice => hchoice) _ _ _ _
  have hfinish :=
    Discipline.Safe.finish (V := (instanceService dialect).restrict Circumstance.Heard)
    (fun count => ⟨call.choose count, hheard count⟩) (0, world) hsafe
  rwa [Service.finish_restrict] at hfinish

/-- A row that has a tag keeps it. -/
theorem Instance.tagged_of_grows {world final : Instance} {key : String} {row : TableRow}
    (hgrows : world.rows "sc_req_item" <+: final.rows "sc_req_item")
    (htagged : world.tagged key = some row) : final.tagged key = some row := by
  obtain ⟨added, hrows⟩ := hgrows
  rw [Instance.tagged] at htagged ⊢
  rw [← hrows, List.find?_append, htagged, Option.some_or]

theorem tagged_serveAll (client : ServiceNow)
    (hdialect : dialect.Compares fun row column => row column) {key : String} {row : TableRow}
    (calls : List TicketCall) (world : Instance)
    (hheard : ∀ call ∈ calls, ∀ count, (call.choose count).Heard)
    (htagged : world.tagged key = some row) :
    (serveAll client dialect calls world).tagged key = some row := by
  induction calls generalizing world with
  | nil => exact htagged
  | cons call rest ih =>
      have hserved := TicketCall.serve_ticketed client hdialect
        (hheard call List.mem_cons_self) world
      apply ih
      · intro later hlater
        exact hheard later (List.mem_cons_of_mem call hlater)
      · exact Instance.tagged_of_grows hserved.grows htagged

/-- Where no tag is lost unheard, a ticket that was returned is ordered once. -/
theorem ordered_once (client : ServiceNow)
    (hdialect : dialect.Compares fun row column => row column) {key : String}
    (hplain : '^' ∉ key.toList) {calls : List TicketCall}
    (hheard : ∀ call ∈ calls, ∀ count, (call.choose count).Heard) (world : Instance) :
    OrderedOnce client dialect key calls world := by
  rintro before first between later after ticket rfl rfl hlater hreturned
  simp only [List.forall_mem_append, List.forall_mem_cons] at hheard
  obtain ⟨⟨-, hfirst, hbetween⟩, hheard, -⟩ := hheard
  -- the first call leaves its ticket tagged, and no call in between takes the tag away
  have hserved := TicketCall.serve_ticketed client hdialect hfirst
    (serveAll client dialect before world)
  obtain ⟨row, htagged, heq⟩ := hserved.tagged hplain ticket hreturned
  have hkept := tagged_serveAll client hdialect between _ hbetween htagged
  intro known
  have hknown : known.tagged later.key = some row := by
    rw [hlater, show known = serveAll client dialect (first :: between)
      (serveAll client dialect before world) from serveAll_append _ _ _]
    exact hkept
  obtain ⟨horders, hsame⟩ := (TicketCall.serve_ticketed client hdialect hheard
    known).known (hlater ▸ hplain) row hknown
  refine ⟨horders, ?_⟩
  intro returned hagain
  rw [← hsame returned hagain, heq]

end Calls

section Examples

def sampleServiceNow : ServiceNow := ⟨"Helpdesk", "name", "user_name"⟩

/-- A call for a key, whose tag is refused. -/
def untaggedCall (requestId sysId number : String) : TicketCall where
  templateId := "vm-request"
  fields := []
  requestedBy := "jdoe"
  key := "r1:create_ticket"
  groups := fun _ => none
  choose _ :=
    { fault := fun request => match request with
        | .patch .. => some (.refused 503 false)
        | _ => none
      requestId, sysId, number
      elsewhere := outage [] }

/-- A call for a key, with which nothing goes wrong. -/
def taggedCall (requestId sysId number : String) : TicketCall where
  templateId := "vm-request"
  fields := []
  requestedBy := "jdoe"
  key := "r1:create_ticket"
  groups := fun _ => none
  choose _ := { requestId, sysId, number, elsewhere := outage [] }

def emptyInstance : Instance where
  rows _ := []

theorem ordered_once_tagged :
    OrderedOnce sampleServiceNow (plainly fun row column => row column) "r1:create_ticket"
      [taggedCall "q1" "i1" "RITM1", taggedCall "q2" "i2" "RITM2"] emptyInstance := by
  apply ordered_once sampleServiceNow (plainly_compares _) (by decide)
  intro call hcall count table sysId body status hfault
  rw [List.mem_cons, List.mem_singleton] at hcall
  obtain rfl | rfl := hcall <;> cases hfault

/-- The refusal goes unnoticed, and the next call with the key orders again. -/
theorem ordered_twice_untagged :
    ¬ OrderedOnce sampleServiceNow (plainly fun row column => row column) "r1:create_ticket"
      [untaggedCall "q1" "i1" "RITM1", untaggedCall "q2" "i2" "RITM2"] emptyInstance := by
  intro honce
  obtain ⟨horders, -⟩ := honce [] (untaggedCall "q1" "i1" "RITM1") []
    (untaggedCall "q2" "i2" "RITM2") [] ⟨"RITM1", "i1"⟩ rfl rfl rfl (by decide +kernel)
  have hlength := congrArg List.length horders
  revert hlength
  decide +kernel

end Examples

end CloudioOrchestrator
