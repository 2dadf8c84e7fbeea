import CloudioOrchestrator.EngineRuns
import CloudioOrchestrator.Sides
import Mathlib.Data.List.Forall2

/-! # The two group inputs

What the requester says about the ticket goes into the ticket, and what an engine
says about a failure goes into the incident; neither goes into the other. Two
executions whose requests differ in the ticket's parameters only open the same
incidents, and two whose engines report differently open the same tickets.
-/

namespace CloudioOrchestrator

open Interaction

/-- How a delivery ended, and the run it held. -/
abbrev Delivered := Except PyException Unit × Option WorkflowRun

/-! ## Executions that differ in one aspect -/

/-- Answers that are the same as far as the aspect permits. A request for a
ticket is answered alike whatever parameters it has in either. -/
structure Choice.Beside (aspect : Aspect) (choice picked : Choice) : Prop where
  answer : ∀ call, aspect.permits call = true → picked.answer call = choice.answer call
  openTicket : ∀ templateId fields other requestedBy key, aspect.Same fields other →
    picked.answer (.openTicket templateId other requestedBy key) =
      choice.answer (.openTicket templateId fields requestedBy key)
  applied : picked.applied = choice.applied
  jitter : picked.jitter = choice.jitter
  readFault : picked.readFault = choice.readFault
  saveFault : picked.saveFault = choice.saveFault

inductive Outside.Beside (aspect : Aspect) : Outside → Outside → Prop
  | same (event : Outside) : Beside aspect event event
  | trigger (runId : UUID) (workflow : Option Workflow) (request : TriggerRequest) (params : Json)
      (hparams : aspect.Same request.ticketParams params) :
      Beside aspect (.trigger runId workflow request)
        (.trigger runId workflow { request with ticketParams := params })

/-! ## A save on both sides -/

namespace Store

variable {rows : Rows} {run db : WorkflowRun}

theorem save_stale (hdb : get rows run.runId = some db) (hversion : db.version ≠ run.version) :
    ∃ message, save rows run = .error (.staleRun message) := by
  cases hsave : save rows run with
  | error error =>
      obtain ⟨message, rfl⟩ := save_eq_error hsave
      exact ⟨message, rfl⟩
  | ok row =>
      obtain ⟨found, hfound, hsame, -⟩ := save_eq_ok hsave
      obtain rfl := Option.some.inj (hdb.symm.trans hfound)
      exact absurd hsame hversion

theorem save_accepts (hdb : get rows run.runId = some db) (hversion : db.version = run.version) :
    save rows run = .ok { db with
      status := run.status, currentStep := run.currentStep, scheduledAt := run.scheduledAt
      runState := run.runState, version := run.version + 1 } := by
  rw [save, hdb]
  simp [hversion]

end Store

theorem WorkflowRun.Alike.written {aspect : Aspect} {db mate run twin : WorkflowRun}
    (hdb : db.Alike aspect mate) (hrun : run.Alike aspect twin) :
    WorkflowRun.Alike aspect
      { db with
        status := run.status, currentStep := run.currentStep, scheduledAt := run.scheduledAt
        runState := run.runState, version := run.version + 1 }
      { mate with
        status := twin.status, currentStep := twin.currentStep, scheduledAt := twin.scheduledAt
        runState := twin.runState, version := twin.version + 1 } := by
  cases hdb
  obtain ⟨scheduledAt, params, hparams⟩ := hrun
  exact .intro scheduledAt params hparams

section Lockstep

variable {aspect : Aspect} {strayed : UUID → Prop} {first second : World} {drive : DriveId}
  {choice picked : Choice} {base run twin : WorkflowRun}

theorem Sides.save (hsides : Sides aspect strayed first second)
    (hlinked : Linked aspect strayed first second base) (htwins : Twins aspect base run twin)
    (hchoice : choice.Beside aspect picked) :
    Sides aspect strayed (first.save drive choice run).2 (second.save drive picked twin).2 ∧
      Follows aspect strayed first second strayed (first.save drive choice run).2
        (second.save drive picked twin).2 ∧
      Corresponds (.runsSave run) (.runsSave twin) (first.save drive choice run).1
        (second.save drive picked twin).1 := by
  obtain ⟨row, mate, hrow, hmate, hlink⟩ := hlinked
  have hsame : twin.runId = run.runId ∧ twin.version = run.version := by
    cases htwins.alike
    exact ⟨rfl, rfl⟩
  have hkept : Follows aspect strayed first second strayed first second :=
    .of_unwritten (.refl _) (.refl _)
  have hdb : Store.get first.rows run.runId = some row := htwins.runId ▸ hrow
  have hdb' : Store.get second.rows twin.runId = some mate := hsame.1 ▸ htwins.runId ▸ hmate
  simp only [World.save, hchoice.saveFault]
  rcases hlink with ⟨hlt, hlt'⟩ | ⟨hstrayed, heq, -⟩
  · -- both lost to another writer, unless the database fails before that is seen
    obtain ⟨message, hstale⟩ := Store.save_stale hdb (by rw [htwins.version]; omega)
    obtain ⟨other, hstale'⟩ := Store.save_stale hdb' (by rw [hsame.2, htwins.version]; omega)
    rw [hstale, hstale']
    cases choice.saveFault with
    | none => exact ⟨hsides, hkept, .inr ⟨message, other, rfl, rfl⟩⟩
    | some fault =>
        cases fault with
        | beforeCommit name text => exact ⟨hsides, hkept, .inl rfl⟩
        | afterCommit name text => exact ⟨hsides, hkept, .inr ⟨message, other, rfl, rfl⟩⟩
  · obtain ⟨same, hsame', hbeside⟩ := hsides.row hrow
    obtain rfl := Option.some.inj (hmate.symm.trans hsame')
    have halike := hbeside.alike hstrayed
    obtain ⟨-, htype, -, -, hversion, -⟩ := WorkflowRun.unscheduled_eq heq
    have hmateVersion : mate.version = row.version := by
      cases halike
      rfl
    have haccepts := Store.save_accepts hdb (by rw [htwins.version, hversion])
    have haccepts' :=
      Store.save_accepts hdb' (by rw [hsame.2, htwins.version, hmateVersion, hversion])
    have hid := Store.runId_of_get hrow
    rw [← hid] at hstrayed hrow hmate
    have hcommit := hsides.commit drive (halike.written htwins.alike) hstrayed hrow hmate
      (htwins.ticketing.carried (by rw [htwins.runType, htype]) rfl rfl)
      (by rw [← hversion, htwins.version]; exact Int.lt_succ _)
      (by rw [hmateVersion, ← hversion, hsame.2, htwins.version]; exact Int.lt_succ _)
    rw [haccepts, haccepts']
    cases choice.saveFault with
    | none => exact ⟨hcommit.1, hcommit.2, .inl (by rw [hsame.2])⟩
    | some fault =>
        cases fault with
        | beforeCommit name text => exact ⟨hsides, hkept, .inl rfl⟩
        | afterCommit name text => exact ⟨hcommit.1, hcommit.2, .inl rfl⟩

/-- What two drives side by side depend on. -/
def Abreast (aspect : Aspect) (strayed : UUID → Prop) (first second : World) (runId : UUID)
    (common : Option WorkflowRun) : Prop :=
  ∀ base, common = some base → base.runId = runId ∧ Linked aspect strayed first second base

theorem Abreast.follows {runId : UUID} {common : Option WorkflowRun} {after : UUID → Prop}
    {later other : World} (habreast : Abreast aspect strayed first second runId common)
    (hfollows : Follows aspect strayed first second after later other) :
    Abreast aspect after later other runId common := by
  intro base hcommon
  obtain ⟨hid, hlinked⟩ := habreast base hcommon
  exact ⟨hid, hlinked.follows hfollows⟩

/-- An operation that goes on record only. -/
theorem Sides.recorded (hsides : Sides aspect strayed first second) {event other : Event}
    (hcalls : callsOf aspect.kind (other :: second.history) =
      callsOf aspect.kind (event :: first.history)) :
    Sides aspect strayed (first.record event) (second.record other) ∧
      Follows aspect strayed first second strayed (first.record event) (second.record other) :=
  ⟨hsides.unwritten (.refl _) (.refl _) hsides.clock hcalls, .of_unwritten (.refl _) (.refl _)⟩

/-- Of the calls of one kind the same are on record after fitting ones. -/
theorem CallFits.recorded {call other : Call} (hcall : CallFits aspect call other) (drive : DriveId)
    (issuer : Issuer) {history later : History}
    (hcalls : callsOf aspect.kind later = callsOf aspect.kind history) (answer : call.Answer)
    (reply : other.Answer) (applied taken : Bool) :
    callsOf aspect.kind (.called drive issuer other reply taken :: later) =
      callsOf aspect.kind (.called drive issuer call answer applied :: history) := by
  cases hcall with
  | same _ hpermits => simp only [callsOf_called, hcalls]
  | openTicket templateId fields params requestedBy key haspect hfields =>
      cases aspect with
      | ticketParams => simpa [Aspect.kind, Call.opensIncident] using hcalls
      | engineReports =>
          -- the parameters are in no doubt here
          obtain rfl := hfields.resolve_left (by decide)
          simp only [callsOf_called, hcalls]
      | settled => exact absurd rfl haspect

theorem Choice.Beside.corresponds (hchoice : choice.Beside aspect picked) {call other : Call}
    (hcall : CallFits aspect call other) : HEq (choice.answer call) (picked.answer other) := by
  cases hcall with
  | same _ hpermits => exact heq_of_eq (hchoice.answer _ hpermits).symm
  | openTicket templateId fields params requestedBy key haspect hfields =>
      exact heq_of_eq (hchoice.openTicket templateId fields params requestedBy key hfields).symm

/-- Fitting operations are served alike. -/
theorem Sides.serve (hsides : Sides aspect strayed first second) (drive : DriveId)
    (hlinked : Linked aspect strayed first second base) (hchoice : choice.Beside aspect picked)
    {op other : Op} (hfits : Fits aspect base op other) :
    Sides aspect strayed (World.serve drive choice op first).2
        (World.serve drive picked other second).2 ∧
      Follows aspect strayed first second strayed (World.serve drive choice op first).2
        (World.serve drive picked other second).2 ∧
      Corresponds op other (World.serve drive choice op first).1
        (World.serve drive picked other second).1 := by
  have hkept : Follows aspect strayed first second strayed first second :=
    .of_unwritten (.refl _) (.refl _)
  cases hfits with
  | utcnow => exact ⟨hsides, hkept, heq_of_eq hsides.clock.symm⟩
  | uniform =>
      refine ⟨hsides, hkept, heq_of_eq ?_⟩
      simp only [World.serve, hchoice.jitter]
  | log record =>
      have hcalls : callsOf aspect.kind (.logged drive record :: second.history) =
          callsOf aspect.kind (.logged drive record :: first.history) := hsides.calls
      obtain ⟨hrecorded, hfollows⟩ := hsides.recorded hcalls
      exact ⟨hrecorded, hfollows, .rfl⟩
  | @call issuer request other hcall =>
      have hrecorded := hsides.recorded (hcall.recorded drive issuer hsides.calls
        (choice.answer request) (picked.answer other)
        ((choice.answer request).isOk || choice.applied)
        ((picked.answer other).isOk || picked.applied))
      exact ⟨hrecorded.1, hrecorded.2, hchoice.corresponds hcall⟩
  | save htwins => exact hsides.save hlinked htwins hchoice

/-- What two drives have in common is what it was, or nothing any more. -/
theorem eq_some_of_after {common : Option WorkflowRun} {op : Op} {answer : op.Answer}
    (hafter : (pairing aspect).after common op answer = some base) : common = some base := by
  cases op with
  | runsSave run =>
      cases answer with
      | ok version => cases hafter
      | error error => exact hafter
  | runsGet | utcnow | uniform | provider | log => exact hafter

/-- One operation of two drives side by side. -/
theorem Sides.advance (hsides : Sides aspect strayed first second)
    {common : Option WorkflowRun}
    (habreast : Abreast aspect strayed first second drive.subject common)
    {body mate : Prog Operations Delivered}
    (hpaired : body.Paired (pairing aspect) (fun _ _ _ => True) mate common)
    (hchoice : choice.Beside aspect picked) :
    Sides aspect strayed (body.advance system drive choice first).2
        (mate.advance system drive picked second).2 ∧
      Follows aspect strayed first second strayed (body.advance system drive choice first).2
        (mate.advance system drive picked second).2 ∧
      ∃ after, Abreast aspect strayed (body.advance system drive choice first).2
          (mate.advance system drive picked second).2 drive.subject after ∧
        (body.advance system drive choice first).1.Paired (pairing aspect) (fun _ _ _ => True)
          (mate.advance system drive picked second).1 after := by
  cases body with
  | ret value =>
      cases mate with
      | ret other => exact ⟨hsides, .of_unwritten (.refl _) (.refl _), common, habreast, trivial⟩
      | call op next => exact hpaired.elim
  | call op next =>
      cases mate with
      | ret other => exact hpaired.elim
      | call other rest =>
          obtain ⟨⟨base, hcommon, -, hfits⟩, hnext⟩ := hpaired
          obtain ⟨hserved, hfollows, hanswers⟩ :=
            hsides.serve drive (habreast base hcommon).2 hchoice hfits
          refine ⟨hserved, hfollows, _, ?_, hnext _ _ hanswers⟩
          have hafter := habreast.follows hfollows
          intro found hfound
          apply hafter found
          exact eq_some_of_after hfound

end Lockstep

/-! ## A drive of a run that has strayed -/

section Astray

variable {world : World} {runId : UUID} {drive : DriveId}

theorem Corresponds.refl (op : Op) (answer : op.Answer) : Corresponds op op answer answer := by
  cases op with
  | runsSave run => exact .inl rfl
  | runsGet | utcnow | uniform | provider | log => exact .rfl

/-- A row that has its ticket in time, and has it by now. -/
def HasTicket (rows : Store.Rows) (runId : UUID) : Prop :=
  ∃ row, Store.get rows runId = some row ∧ Ticketing row ∧ row.runState.ticket.isSome

/-- A drive that depends on what it loaded of a run with its ticket, and opens none. -/
def Astray (runId : UUID) (rows : Store.Rows) (body : Prog Operations Delivered) : Prop :=
  ∃ common, (∀ base, common = some base → base.runId = runId ∧ Loose rows base) ∧
    body.Paired (pairing .settled) (fun _ _ _ => True) body common

theorem Astray.advances {rows later : Store.Rows} {body : Prog Operations Delivered}
    (hbody : Astray runId rows body) (hrows : Advances rows later) : Astray runId later body := by
  obtain ⟨common, hloose, hpaired⟩ := hbody
  refine ⟨common, ?_, hpaired⟩
  intro base hcommon
  obtain ⟨hid, hbase⟩ := hloose base hcommon
  exact ⟨hid, hbase.advances hrows⟩

theorem Apart.refl (hrow : HasTicket world.rows runId) : Apart runId world world :=
  ⟨rfl, rfl, fun _ _ => rfl, hrow, (Unwritten.refl _).advances⟩

theorem Apart.recorded (hrow : HasTicket world.rows runId) {event : Event}
    (hcalls : callsOf Call.opensTicket (event :: world.history) =
      callsOf Call.opensTicket world.history) : Apart runId world (world.record event) :=
  ⟨rfl, hcalls, fun _ _ => rfl, hrow, (Unwritten.refl _).advances⟩

theorem Apart.commit {db row : WorkflowRun} (drive : DriveId) (hid : row.runId = runId)
    (hdb : Store.get world.rows runId = some db) (hrow : Ticketing row)
    (hticket : row.runState.ticket.isSome) (hlt : db.version < row.version) :
    Apart runId world (world.commit drive row) := by
  subst hid
  have hget := fun runId => Store.get_put runId
    (show Store.get world.rows row.runId ≠ none by simp [hdb])
  refine ⟨rfl, rfl, ?_, ⟨row, ?_, hrow, hticket⟩, .put hdb hlt⟩
  · intro other hother
    rw [World.commit, hget, if_neg (Ne.symm hother)]
  · rw [World.commit, hget, if_pos rfl]

theorem Apart.save {base run : WorkflowRun} (hid : base.runId = runId)
    (hloose : Loose world.rows base) (hbasis : Basis .settled base)
    (htwins : Twins .settled base run run) (hrow : HasTicket world.rows runId) (choice : Choice) :
    Apart runId world (world.save drive choice run).2 := by
  subst hid
  obtain ⟨db, hdb, hlink⟩ := hloose
  have hdb' : Store.get world.rows run.runId = some db := htwins.runId ▸ hdb
  have hcommit : ∀ row, Store.save world.rows run = .ok row →
      Apart base.runId world (world.commit drive row) := by
    intro row hsave
    obtain ⟨found, hfound, hversion, rfl⟩ := Store.save_eq_ok hsave
    obtain rfl := Option.some.inj (hdb'.symm.trans hfound)
    have heq : base.unscheduled = db.unscheduled := by
      apply hlink.resolve_left
      rw [hversion, htwins.version]
      exact Int.lt_irrefl _
    obtain ⟨-, htype, -⟩ := WorkflowRun.unscheduled_eq heq
    have hdbId := Store.runId_of_get hdb
    refine Apart.commit drive ?_ hdb ?_ ?_ ?_
    · exact hdbId
    · exact htwins.ticketing.carried (by rw [htwins.runType, htype]) rfl rfl
    · exact htwins.ticket (hbasis.settled rfl)
    · rw [hversion]
      exact Int.lt_succ _
  rcases world.save_cases drive choice run with ⟨_, hserved⟩ | ⟨row, _, hsave, -, hserved⟩
  · rw [hserved]
    exact .refl hrow
  · rw [hserved]
    exact hcommit row hsave

/-- A run that has its ticket opens none. -/
theorem CallFits.unrecorded {call : Call} (hcall : CallFits .settled call call) (drive : DriveId)
    (issuer : Issuer) (answer : call.Answer) (applied : Bool) (history : History) :
    callsOf Call.opensTicket (.called drive issuer call answer applied :: history) =
      callsOf Call.opensTicket history := by
  cases hcall with
  | same _ hpermits =>
      have hother : call.opensTicket = false := by simpa [Aspect.permits] using hpermits
      rw [callsOf_called, hother]
      rfl
  | openTicket _ _ _ _ _ haspect => exact absurd rfl haspect

/-- One operation of a drive of a run that has strayed. -/
theorem Astray.advance {body : Prog Operations Delivered}
    (hbody : Astray drive.subject world.rows body) (hrow : HasTicket world.rows drive.subject)
    (choice : Choice) :
    Apart drive.subject world (body.advance system drive choice world).2 ∧
      Astray drive.subject (body.advance system drive choice world).2.rows
        (body.advance system drive choice world).1 := by
  cases body with
  | ret value => exact ⟨.refl hrow, hbody⟩
  | call op next =>
      obtain ⟨common, hloose, ⟨base, hcommon, hbasis, hfits⟩, hnext⟩ := hbody
      obtain ⟨hid, hbase⟩ := hloose base hcommon
      have hapart : Apart drive.subject world (World.serve drive choice op world).2 := by
        cases hfits with
        | utcnow => exact .refl hrow
        | uniform => exact .refl hrow
        | log record => exact .recorded hrow rfl
        | call issuer hcall => exact .recorded hrow (hcall.unrecorded _ _ _ _ _)
        | save htwins => exact .save hid hbase hbasis htwins hrow choice
      refine ⟨hapart, _, ?_, hnext _ _ (.refl _ _)⟩
      intro found hfound
      obtain ⟨hid, hbase⟩ := hloose found (eq_some_of_after hfound)
      exact ⟨hid, hbase.advances hapart.advances⟩

end Astray

/-! ## Loading a run on both sides -/

section Loading

variable {executor : Executor} {aspect : Aspect} {strayed : UUID → Prop} {first second : World}
  {drive : DriveId} {choice picked : Choice} {row twin base : WorkflowRun}

/-- What a delivery does with the row it found. -/
def Executor.taken (executor : Executor) (row : WorkflowRun) : Prog Operations Delivered :=
  if row.status.terminal then .ret (.ok (), some row)
  else (executor.driveOrCrash row).bind fun (outcome, run) => .ret (outcome, some run)

theorem taken_paired (hwired : Wired executor aspect) {common : Option WorkflowRun}
    (hloaded : Loaded aspect common row twin) :
    (executor.taken row).Paired (pairing aspect) (fun _ _ _ => True) (executor.taken twin)
        common := by
  have hstatus : twin.status = row.status := by
    cases hloaded.tied.alike
    rfl
  rw [Executor.taken, Executor.taken, hstatus]
  split
  · trivial
  · exact Prog.Paired.bind (Prog.Paired.mono (driveOrCrash_both executor hwired hloaded)
      fun _ _ _ _ => trivial)

theorem loaded_of_rows (halike : row.Alike aspect twin) (hrow : Ticketing row)
    (hbasis : Basis aspect row) : Loaded aspect (some row) row twin :=
  ⟨⟨row, rfl, hbasis, halike, rfl, rfl, rfl, id, hrow⟩, hbasis.unreported⟩

/-- A drive that has just loaded a run with its ticket. -/
theorem astray_taken (hwired : Wired executor .settled) {rows : Store.Rows} {runId : UUID}
    (hrow : Store.get rows runId = some row) (hticketing : Ticketing row)
    (hticket : row.runState.ticket.isSome) : Astray runId rows (executor.taken row) := by
  have hid := Store.runId_of_get hrow
  refine ⟨some row, ?_, taken_paired hwired ?_⟩
  · intro base hbase
    obtain rfl := Option.some.inj hbase
    exact ⟨hid, row, hid ▸ hrow, .inr rfl⟩
  · exact loaded_of_rows (.refl _ row) hticketing ⟨nofun, fun _ => hticket⟩

/-- Two drives of one run: not begun, in step with each other, or each on its own
with a run that has strayed. -/
inductive InTandem (executor : Executor) (aspect : Aspect) (strayed : UUID → Prop)
    (first second : World) (runId : UUID) :
    Prog Operations Delivered → Prog Operations Delivered → Prop
  | waiting : InTandem executor aspect strayed first second runId (executor.handle runId)
      (executor.handle runId)
  | abreast {body mate : Prog Operations Delivered} (common : Option WorkflowRun)
      (habreast : Abreast aspect strayed first second runId common)
      (hpaired : body.Paired (pairing aspect) (fun _ _ _ => True) mate common) :
      InTandem executor aspect strayed first second runId body mate
  | astray {body mate : Prog Operations Delivered} (hstrayed : strayed runId)
      (hbody : Astray runId first.rows body) (hmate : Astray runId second.rows mate) :
      InTandem executor aspect strayed first second runId body mate

theorem InTandem.ret (runId : UUID) (value other : Delivered) :
    InTandem executor aspect strayed first second runId (.ret value) (.ret other) :=
  .abreast none (fun _ hcommon => by cases hcommon) trivial

theorem InTandem.follows {runId : UUID} {body mate : Prog Operations Delivered}
    {after : UUID → Prop}
    {later other : World} (hbody : InTandem executor aspect strayed first second runId body mate)
    (hfollows : Follows aspect strayed first second after later other) :
    InTandem executor aspect after later other runId body mate := by
  cases hbody with
  | waiting => exact .waiting
  | abreast common habreast hpaired => exact .abreast common (habreast.follows hfollows) hpaired
  | astray hstrayed hbody hmate =>
      exact .astray (hfollows.strays runId hstrayed) (hbody.advances hfollows.advances)
        (hmate.advances hfollows.otherAdvances)

/-- The drives of a run that both executions have just loaded. -/
theorem Sides.taken (hwired : ∀ aspect, Wired executor aspect) (haspect : aspect ≠ .settled)
    (hsides : Sides aspect strayed first second) {runId : UUID}
    (hrow : Store.get first.rows runId = some row) (htwin : Store.get second.rows runId = some twin)
    (hbeside : RowBeside aspect (strayed runId) row twin) :
    ∃ after, Sides aspect after first second ∧
      Follows aspect strayed first second after first second ∧
      InTandem executor aspect after first second runId (executor.taken row)
          (executor.taken twin) := by
  have hkept : Follows aspect strayed first second strayed first second :=
    .of_unwritten (.refl _) (.refl _)
  by_cases hstrayed : strayed runId
  · obtain ⟨hticket, hticket'⟩ := hbeside.ticketed hstrayed
    refine ⟨strayed, hsides, hkept, .astray hstrayed ?_ ?_⟩
    · exact astray_taken (hwired .settled) hrow hbeside.ticketing hticket
    · exact astray_taken (hwired .settled) htwin hbeside.twinTicketing hticket'
  have halike := hbeside.alike hstrayed
  by_cases hcalm : aspect = .engineReports → row.runState.engineRunId = none
  · have hid := Store.runId_of_get hrow
    have hbasis : Basis aspect row := ⟨hcalm, fun heq => absurd heq haspect⟩
    refine ⟨strayed, hsides, hkept, .abreast (some row) ?_
      (taken_paired (hwired aspect) (loaded_of_rows halike hbeside.ticketing hbasis))⟩
    intro base hbase
    obtain rfl := Option.some.inj hbase
    exact ⟨hid, row, twin, hid ▸ hrow, hid ▸ htwin, .inr ⟨hid ▸ hstrayed, rfl, hcalm⟩⟩
  · -- from here on the engine has a say
    obtain ⟨rfl, hengine⟩ := Classical.not_imp.mp hcalm
    have hengine : row.runState.engineRunId.isSome := Option.isSome_iff_ne_none.mpr hengine
    have hengine' : twin.runState.engineRunId.isSome := by
      cases halike
      exact hengine
    obtain ⟨hafter, hfollows⟩ := hsides.stray hrow hengine
    refine ⟨_, hafter, hfollows, .astray (.inr rfl) ?_ ?_⟩
    · exact astray_taken (hwired .settled) hrow hbeside.ticketing (hbeside.ticketing.engine hengine)
    · exact astray_taken (hwired .settled) htwin hbeside.twinTicketing
        (hbeside.twinTicketing.engine hengine')

/-- The first operation of two drives of one run. -/
theorem Sides.load (hwired : ∀ aspect, Wired executor aspect) (haspect : aspect ≠ .settled)
    (hsides : Sides aspect strayed first second) (drive : DriveId)
    (hchoice : choice.Beside aspect picked) :
    ∃ after, Sides aspect after
        ((executor.handle drive.subject).advance system drive choice first).2
        ((executor.handle drive.subject).advance system drive picked second).2 ∧
      Follows aspect strayed first second after
        ((executor.handle drive.subject).advance system drive choice first).2
        ((executor.handle drive.subject).advance system drive picked second).2 ∧
      InTandem executor aspect after
        ((executor.handle drive.subject).advance system drive choice first).2
        ((executor.handle drive.subject).advance system drive picked second).2 drive.subject
        ((executor.handle drive.subject).advance system drive choice first).1
        ((executor.handle drive.subject).advance system drive picked second).1 := by
  have hkept : Follows aspect strayed first second strayed first second :=
    .of_unwritten (.refl _) (.refl _)
  simp only [Executor.handle, Prog.advance, World.serve, World.load, hchoice.readFault]
  cases choice.readFault with
  | some fault => exact ⟨strayed, hsides, hkept, .ret _ _ _⟩
  | none =>
      cases hrow : Store.get first.rows drive.subject with
      | none =>
          rw [hsides.absent hrow]
          exact ⟨strayed, hsides, hkept, .ret _ _ _⟩
      | some row =>
          obtain ⟨twin, htwin, hbeside⟩ := hsides.row hrow
          rw [htwin]
          have hcalls : callsOf aspect.kind (.loaded drive twin :: second.history) =
              callsOf aspect.kind (.loaded drive row :: first.history) := hsides.calls
          obtain ⟨hrecorded, -⟩ := hsides.recorded hcalls
          obtain ⟨after, hafter, hlater, htaken⟩ :=
            hrecorded.taken hwired haspect hrow htwin hbeside
          exact ⟨after, hafter,
            ⟨hlater.advances, hlater.otherAdvances, hlater.strays, hlater.together⟩, htaken⟩

theorem Sides.hasTicket (hsides : Sides aspect strayed first second) {runId : UUID}
    (hstrayed : strayed runId) : HasTicket first.rows runId ∧ HasTicket second.rows runId := by
  obtain ⟨row, hrow⟩ := Option.isSome_iff_exists.mp (hsides.present runId hstrayed)
  obtain ⟨twin, htwin, hbeside⟩ := hsides.row hrow
  obtain ⟨hticket, hticket'⟩ := hbeside.ticketed hstrayed
  exact ⟨⟨row, hrow, hbeside.ticketing, hticket⟩, ⟨twin, htwin, hbeside.twinTicketing, hticket'⟩⟩

/-- One operation of two drives of one run. -/
theorem InTandem.advance (hwired : ∀ aspect, Wired executor aspect) (haspect : aspect ≠ .settled)
    (hsides : Sides aspect strayed first second) {body mate : Prog Operations Delivered}
    (hbody : InTandem executor aspect strayed first second drive.subject body mate)
    (hchoice : choice.Beside aspect picked) :
    ∃ after, Sides aspect after (body.advance system drive choice first).2
        (mate.advance system drive picked second).2 ∧
      Follows aspect strayed first second after (body.advance system drive choice first).2
        (mate.advance system drive picked second).2 ∧
      InTandem executor aspect after (body.advance system drive choice first).2
        (mate.advance system drive picked second).2 drive.subject
        (body.advance system drive choice first).1 (mate.advance system drive picked second).1 := by
  cases hbody with
  | waiting => exact hsides.load hwired haspect drive hchoice
  | abreast common habreast hpaired =>
      obtain ⟨hafter, hfollows, common, hlater, hnext⟩ :=
        hsides.advance habreast hpaired hchoice
      exact ⟨strayed, hafter, hfollows, .abreast common hlater hnext⟩
  | astray hstrayed hbody hmate =>
      obtain ⟨hrow, htwin⟩ := hsides.hasTicket hstrayed
      obtain ⟨hapart, hnext⟩ := hbody.advance hrow choice
      obtain ⟨hapart', hnext'⟩ := hmate.advance htwin picked
      obtain ⟨hafter, hfollows⟩ := hsides.apart hstrayed hapart hapart'
      exact ⟨strayed, hafter, hfollows, .astray hstrayed hnext hnext'⟩

end Loading

/-! ## What the outside does to both -/

section Around

variable {aspect : Aspect} {strayed : UUID → Prop} {first second : World}

/-- The checks of a trigger do not look at the ticket's parameters. -/
theorem trigger_params (now : Time) (runId : UUID) (workflow : Option Workflow)
    (request : TriggerRequest) (params : Json) :
    trigger now runId workflow { request with ticketParams := params } =
      (trigger now runId workflow request).map fun run =>
        { run with runState := { run.runState with ticketParams := params } } := by
  cases workflow with
  | none => rfl
  | some workflow =>
      have hcheck : checkTrigger workflow.runType { request with ticketParams := params } =
          checkTrigger workflow.runType request := rfl
      simp only [trigger, hcheck]
      cases checkTrigger workflow.runType request with
      | error error => rfl
      | ok checked => rfl

theorem triggered_params {now : Time} {runId : UUID} {workflow : Option Workflow}
    {request : TriggerRequest} {run : WorkflowRun}
    (htrigger : trigger now runId workflow request = .ok run) :
    run.runState.ticketParams = request.ticketParams := by
  cases workflow with
  | none => cases htrigger
  | some workflow =>
      simp only [trigger] at htrigger
      split at htrigger
      · cases htrigger
      · obtain rfl := Except.ok.inj htrigger
        rfl

theorem Sides.reschedule (hsides : Sides aspect strayed first second)
    (select picks : WorkflowRun → Bool) (time later : Time) :
    Sides aspect strayed { first with rows := Store.reschedule select time first.rows }
        { second with rows := Store.reschedule picks later second.rows } ∧
      Follows aspect strayed first second strayed
        { first with rows := Store.reschedule select time first.rows }
        { second with rows := Store.reschedule picks later second.rows } := by
  have hrows : Unwritten first.rows (Store.reschedule select time first.rows) :=
    fun runId => unscheduled_reschedule select time first.rows runId
  have hothers : Unwritten second.rows (Store.reschedule picks later second.rows) :=
    fun runId => unscheduled_reschedule picks later second.rows runId
  exact ⟨hsides.unwritten hrows hothers hsides.clock hsides.calls, .of_unwritten hrows hothers⟩

theorem Sides.outside (hsides : Sides aspect strayed first second) {event other : Outside}
    (hevent : event.Beside aspect other) :
    Sides aspect strayed (first.outside event) (second.outside other) ∧
      Follows aspect strayed first second strayed (first.outside event) (second.outside other) := by
  have hkept : Follows aspect strayed first second strayed first second :=
    .of_unwritten (.refl _) (.refl _)
  have htriggered : ∀ runId workflow request params,
      aspect.Same request.ticketParams params →
      Sides aspect strayed (first.outside (.trigger runId workflow request))
          (second.outside (.trigger runId workflow { request with ticketParams := params })) ∧
        Follows aspect strayed first second strayed
          (first.outside (.trigger runId workflow request))
          (second.outside (.trigger runId workflow { request with ticketParams := params })) := by
    intro runId workflow request params hparams
    simp only [World.outside, hsides.clock, trigger_params]
    cases htrigger : trigger first.clock runId workflow request with
    | error error => exact ⟨hsides, hkept⟩
    | ok run =>
        have halike : run.Alike aspect
            { run with runState := { run.runState with ticketParams := params } } := by
          apply WorkflowRun.Alike.intro run.scheduledAt params
          rwa [triggered_params htrigger]
        exact hsides.insert halike (Newborn.ticketing (trigger_newborn htrigger).2)
  cases hevent with
  | trigger runId workflow request params hparams => exact htriggered _ _ _ _ hparams
  | same =>
      cases event with
      | trigger runId workflow request =>
          exact htriggered runId workflow request request.ticketParams (.inr rfl)
      | triggerLegacy runId request =>
          simp only [World.outside, hsides.clock]
          exact hsides.insert (.refl _ _) (Newborn.ticketing (triggerLegacy_newborn _ _ _).2)
      | claimDue limit lease locked => exact hsides.reschedule _ _ _ _
      | wake runId => exact hsides.reschedule _ _ _ _
      | tick now =>
          exact ⟨hsides.unwritten (.refl _) (.refl _) rfl hsides.calls,
            .of_unwritten (.refl _) (.refl _)⟩

end Around

/-! ## The executions as a whole -/

section Whole

variable {executor : Executor} {aspect : Aspect}

/-- Two executions that differ in one aspect only, side by side. -/
def besides (executor : Executor) (aspect : Aspect) (hwired : ∀ aspect, Wired executor aspect)
    (haspect : aspect ≠ .settled) : Coupling system executor.handle where
  Mark := UUID → Prop
  worlds := Sides aspect
  beside strayed first second drive := InTandem executor aspect strayed first second drive.subject
  follows := Follows aspect
  choices := Choice.Beside aspect
  events := Outside.Beside aspect
  start _ _ _ _ := .waiting
  stable := InTandem.follows
  advance hsides hbody hchoice := hbody.advance hwired haspect hsides hchoice
  outside hsides hevent := ⟨_, hsides.outside hevent⟩

theorem sides_initial (aspect : Aspect) (clock : Time) :
    Sides aspect (fun _ => False) { clock := clock } { clock := clock } where
  clock := rfl
  rows _ := .none
  present _ hstrayed := hstrayed.elim
  reports _ hstrayed := hstrayed.elim
  calls := rfl

end Whole

/-- Move by move, executions that differ in one aspect only. -/
abbrev Aspect.Besides (aspect : Aspect) : List (Move system) → List (Move system) → Prop :=
  List.Forall₂ (Move.Beside (Choice.Beside aspect) (Outside.Beside aspect))

/-- Calls that do not depend on the aspect are the same in both. -/
theorem calls_eq_of_besides {executor : Executor} {aspect : Aspect}
    (hwired : ∀ aspect, Wired executor aspect) (haspect : aspect ≠ .settled) (clock : Time)
    {moves others : List (Move system)} (hmoves : aspect.Besides moves others) :
    callsOf aspect.kind (reached executor clock others).world.history =
      callsOf aspect.kind (reached executor clock moves).world.history := by
  have hinitial : (besides executor aspect hwired haspect).Coupled (fun _ => False)
      ⟨{ clock := clock }, []⟩ ⟨{ clock := clock }, []⟩ := .empty (sides_initial aspect clock)
  obtain ⟨after, hpools⟩ := hinitial.run hmoves
  exact hpools.worlds.calls

theorem wired_wired (engines : List WorkflowEngineType) (retryBase : Time) (defaultTeam : String)
    (aspect : Aspect) : Wired (.wired engines retryBase defaultTeam) aspect :=
  fun _ _ hhandler => buildHandlers_executes aspect engines hhandler

/-- The two group inputs never feed each other: executions whose requests differ in
the parameters of the ticket open the same incidents, and executions whose engines
report differently open the same tickets. -/
theorem groups_never_feed_each_other (engines : List WorkflowEngineType) (retryBase : Time)
    (defaultTeam : String) (clock : Time) (moves others : List (Move system)) :
    (Aspect.ticketParams.Besides moves others →
      callsOf Call.opensIncident
          (reached (.wired engines retryBase defaultTeam) clock others).world.history =
        callsOf Call.opensIncident
          (reached (.wired engines retryBase defaultTeam) clock moves).world.history) ∧
    (Aspect.engineReports.Besides moves others →
      callsOf Call.opensTicket
          (reached (.wired engines retryBase defaultTeam) clock others).world.history =
        callsOf Call.opensTicket
          (reached (.wired engines retryBase defaultTeam) clock moves).world.history) := by
  have hwired := wired_wired engines retryBase defaultTeam
  constructor
  · intro hmoves
    exact calls_eq_of_besides hwired (by decide) clock hmoves
  · intro hmoves
    exact calls_eq_of_besides hwired (by decide) clock hmoves

section Examples

/-- A request whose ticket is for a group, and two drives of its run. -/
def addressed (params : Json) (answer : (call : Call) → call.Answer) : List (Move system) :=
  .outside
    (.trigger sampleId (some resourceWorkflow) { deletionSample with ticketParams := params }) ::
  .start sampleId :: List.replicate 40 (.advance 0 { answer := answer }) ++
  .start sampleId :: List.replicate 40 (.advance 1 { answer := answer })

theorem addressed_besides {aspect : Aspect} {params other : Json}
    {answer reply : (call : Call) → call.Answer} (hparams : aspect.Same params other)
    (hanswer : Choice.Beside aspect { answer := answer } { answer := reply }) :
    aspect.Besides (addressed params answer) (addressed other reply) := by
  have hdrive : ∀ serial operations, aspect.Besides
      (List.replicate operations (.advance serial { answer := answer }))
      (List.replicate operations (.advance serial { answer := reply })) := by
    intro serial operations
    induction operations with
    | zero => exact .nil
    | succ operations ih => exact .cons (.advance serial hanswer) ih
  apply List.Forall₂.cons
  · exact .outside
      (.trigger sampleId _ { deletionSample with ticketParams := params } other hparams)
  · exact .cons (.start sampleId)
      (List.rel_append (hdrive 0 40) (.cons (.start sampleId) (hdrive 1 40)))

/-- The engine's run fails: an incident is opened, whomever the ticket is for, and
the ticket is opened whatever becomes of the engine's run. -/
theorem groups_never_feed_each_other_addressed :
    callsOf Call.opensIncident
        (reached sampleExecutor 0 (addressed "\"Approvers\"" engineFailing.answer)).world.history =
      callsOf Call.opensIncident
        (reached sampleExecutor 0 (addressed "\"Nobody\"" engineFailing.answer)).world.history ∧
    (callsOf Call.opensIncident
      (reached sampleExecutor 0
        (addressed "\"Nobody\"" engineFailing.answer)).world.history).length = 1 ∧
    callsOf Call.opensTicket
        (reached sampleExecutor 0 (addressed "\"Nobody\"" willing)).world.history =
      callsOf Call.opensTicket
        (reached sampleExecutor 0 (addressed "\"Nobody\"" engineFailing.answer)).world.history ∧
    (callsOf Call.opensTicket
      (reached sampleExecutor 0
          (addressed "\"Nobody\"" engineFailing.answer)).world.history).length = 1 := by
  refine ⟨?_, by decide +kernel, ?_, by decide +kernel⟩
  · apply (groups_never_feed_each_other [.airflow] (seconds 10) "cloud" 0 _ _).1
    apply addressed_besides (.inl rfl)
    exact ⟨fun _ _ => rfl, fun _ _ _ _ _ _ => rfl, rfl, rfl, rfl, rfl⟩
  · apply (groups_never_feed_each_other [.airflow] (seconds 10) "cloud" 0 _ _).2
    apply addressed_besides (.inr rfl)
    refine ⟨?_, fun _ _ _ _ _ _ => rfl, rfl, rfl, rfl, rfl⟩
    intro call hpermits
    cases call with
    | queryRunStatus engine automationId runId => cases hpermits
    | _ => rfl

end Examples

end CloudioOrchestrator
