import CloudioOrchestrator.Payloads

/-! # Runs that were rolled back

A DAG whose rollback branch succeeds reads as a success. Its controller says
otherwise, by an entry on one of the run's task instances; the adapter looks for
it over the REST interface, which answers with a page of the instances, and with
entries of a task that is not mapped.
-/

namespace CloudioOrchestrator

/-- A task instance as the engine has it; one that is not mapped has the index -1. -/
structure PlacedInstance extends TaskInstance where
  mapIndex : Int := -1

/-- A run as the engine has it. -/
structure EngineRun where
  state : String
  instances : List PlacedInstance

namespace EngineRun

variable (codec : JsonCodec) (page : Nat) (run : EngineRun)

/-- The entries of a task, asked for without an index. -/
def entriesOf (taskId : String) : List (String × JsonValue) :=
  ((run.instances.find? fun placed => placed.taskId = taskId ∧ placed.mapIndex = -1).map
    fun placed => placed.xcomEntries).getD []

/-- The run as requests over the interface find it, a page of its instances listed. -/
def seen : DagRun where
  state := run.state
  taskInstances := (run.instances.take page).map fun placed =>
    { placed.toTaskInstance with xcomEntries := run.entriesOf placed.taskId }

/-- A published value; null is as good as none. -/
def valueOf (entries : List (String × JsonValue)) (key : String) : Option JsonValue :=
  match entries.lookup key with
  | none | some .null => none
  | some value => some value

/-- An instance of the run published that work failed. -/
def Undone : Prop :=
  ∃ placed ∈ run.instances, ∃ value, valueOf placed.xcomEntries flowFailedOutput = some value ∧
    truthyText (value.str codec) = true

/-- Of the instances listed, the first whose task answers with a value reads that work failed. -/
def FirstAnswerUndone : Prop :=
  ∃ before placed after value, run.instances.take page = before ++ placed :: after ∧
    (∀ earlier ∈ before, valueOf (run.entriesOf earlier.taskId) flowFailedOutput = none) ∧
    valueOf (run.entriesOf placed.taskId) flowFailedOutput = some value ∧
    truthyText (value.str codec) = true

section Verdict

variable {codec : JsonCodec} {page : Nat} {run : EngineRun}

theorem getOutput_seen (key : String) :
    (run.seen page).getOutput codec key = (run.instances.take page).findSome? fun placed =>
      (valueOf (run.entriesOf placed.taskId) key).map (JsonValue.str codec) := by
  rw [DagRun.getOutput, seen, List.findSome?_map]
  congr 1
  funext placed
  unfold valueOf
  dsimp only [Function.comp]
  cases (run.entriesOf placed.taskId).lookup key with
  | none => rfl
  | some value => cases value <;> rfl

/-- What a task answers with is what one of the run's instances published. -/
theorem mem_of_valueOf_entriesOf {taskId key : String} {value : JsonValue}
    (hvalue : valueOf (run.entriesOf taskId) key = some value) :
    ∃ placed ∈ run.instances, valueOf placed.xcomEntries key = some value := by
  unfold entriesOf at hvalue
  cases hfound : run.instances.find? fun placed =>
    placed.taskId = taskId ∧ placed.mapIndex = -1 with
  | none =>
      rw [hfound] at hvalue
      cases hvalue
  | some placed =>
      rw [hfound] at hvalue
      exact ⟨placed, List.mem_of_find?_eq_some hfound, hvalue⟩

theorem flowFailed_seen_iff :
    (run.seen page).flowFailed codec = true ↔ run.FirstAnswerUndone codec page := by
  rw [DagRun.flowFailed, getOutput_seen]
  constructor
  · intro hfailed
    cases hfirst : (run.instances.take page).findSome? fun placed =>
        (valueOf (run.entriesOf placed.taskId) flowFailedOutput).map (JsonValue.str codec) with
    | none => simp [hfirst] at hfailed
    | some text =>
        obtain ⟨before, placed, after, hlisted, hanswer, hbefore⟩ :=
          List.findSome?_eq_some_iff.mp hfirst
        obtain ⟨value, hvalue, rfl⟩ := Option.map_eq_some_iff.mp hanswer
        refine ⟨before, placed, after, value, hlisted, ?_, hvalue, by simpa [hfirst] using hfailed⟩
        intro earlier hearlier
        exact Option.map_eq_none_iff.mp (hbefore earlier hearlier)
  · rintro ⟨before, placed, after, value, hlisted, hbefore, hvalue, htruthy⟩
    have hfirst : (run.instances.take page).findSome? (fun placed =>
        (valueOf (run.entriesOf placed.taskId) flowFailedOutput).map (JsonValue.str codec)) =
          some (value.str codec) := by
      apply List.findSome?_eq_some_iff.mpr
      refine ⟨before, placed, after, hlisted, by rw [hvalue]; rfl, ?_⟩
      intro earlier hearlier
      rw [hbefore earlier hearlier]
      rfl
    simp [hfirst, htruthy]

/-- Nothing is made up: where the adapter reads that work failed, an instance published it. -/
theorem undone_of_firstAnswer (hfirst : run.FirstAnswerUndone codec page) : run.Undone codec := by
  obtain ⟨before, placed, after, value, hlisted, hbefore, hvalue, htruthy⟩ := hfirst
  obtain ⟨published, hmember, hpublished⟩ := mem_of_valueOf_entriesOf hvalue
  exact ⟨published, hmember, value, hpublished, htruthy⟩

/-- A run in state success is judged by what its instances published exactly where, if one of them
published that work failed, the first answer of those listed says so. -/
theorem verdict_iff_first_answer (codec : JsonCodec) (page : Nat) (run : EngineRun)
    (hstate : run.state = "success") :
    ((run.seen page).queryRunStatus codec = .success ↔ ¬ run.Undone codec) ∧
        (run.Undone codec → (run.seen page).queryRunStatus codec = .failed) ↔
      (run.Undone codec → run.FirstAnswerUndone codec page) := by
  have hstatus : (run.seen page).queryRunStatus codec =
      if (run.seen page).flowFailed codec then .failed else .success := by
    simp [DagRun.queryRunStatus, seen, hstate]
  rw [hstatus, ← flowFailed_seen_iff]
  constructor
  · intro hjudged hundone
    by_cases hfailed : (run.seen page).flowFailed codec = true
    · exact hfailed
    · exact absurd hundone (hjudged.1.mp (by simp [hfailed]))
  · intro hfirst
    by_cases hfailed : (run.seen page).flowFailed codec = true
    · have hundone := undone_of_firstAnswer (flowFailed_seen_iff.mp hfailed)
      simp [hfailed, hundone]
    · have hnone : ¬ run.Undone codec := fun hundone => hfailed (hfirst hundone)
      simp [hfailed, hnone]

end Verdict

/-- The text form is of no account where no object is published. -/
def plainCodec : JsonCodec where
  dumps _ := ""
  loads _ := none
  strDict _ := "{}"

/-- A run of two tasks that each published a verdict. -/
def twoVerdicts (first second : String) : EngineRun where
  state := "success"
  instances :=
    [{ taskId := "precheck", state := "success", xcomEntries := [("flow_failed", .string first)] },
      { taskId := "rollback", state := "success",
        xcomEntries := [("flow_failed", .string second)] }]

theorem verdict_iff_first_answer_true :
    ((twoVerdicts "true" "false").seen 50).queryRunStatus plainCodec = .success ↔
      ¬ (twoVerdicts "true" "false").Undone plainCodec := by
  refine ((verdict_iff_first_answer plainCodec 50 (twoVerdicts "true" "false") rfl).mpr ?_).1
  intro _
  exact ⟨[], _, _, .string "true", rfl, by simp, rfl, by decide +kernel⟩

/-- The verdict of the second is never asked for. -/
theorem undone_run_succeeds :
    ¬ ∀ (codec : JsonCodec) (page : Nat) (run : EngineRun), run.state = "success" →
      run.instances.length ≤ page →
      ((run.seen page).queryRunStatus codec = .success ↔ ¬ run.Undone codec) ∧
        (run.Undone codec → (run.seen page).queryRunStatus codec = .failed) := by
  intro hall
  obtain ⟨-, hjudged⟩ := hall plainCodec 50 (twoVerdicts "false" "true") rfl (by decide)
  have hundone : (twoVerdicts "false" "true").Undone plainCodec :=
    ⟨_, List.mem_cons_of_mem _ List.mem_cons_self, .string "true", rfl, by decide +kernel⟩
  revert hjudged
  rw [show ((twoVerdicts "false" "true").seen 50).queryRunStatus plainCodec = .success by
    decide +kernel]
  intro hjudged
  cases hjudged hundone

end EngineRun

/-! ## The controller's map -/

/-- The response to a request for an entry. -/
def entryResponse (key : String) (value : JsonValue) : JsonValue :=
  .object [("key", .string key), ("value", value)]

@[simp] theorem entryValue_entryResponse (key : String) (value : JsonValue) :
    PythonBuild.entryValue (entryResponse key value) = value := by
  simp [PythonBuild.entryValue, entryResponse, List.lookup_cons]

/-- The first value that a task of the run published under the key. -/
def DagRun.collected (dag : DagRun) (key : String) : Option JsonValue :=
  dag.taskInstances.findSome? fun task => EngineRun.valueOf task.xcomEntries key

namespace PythonBuild

variable (python : PythonBuild) (dag : DagRun)

def getOutput (key : String) : Option String :=
  (dag.collected key).map python.str

/-- The task to report, and the group that the rollback controller says owns it;
none where the map's text raises something that is not caught. -/
def firstFailedTask : Option (Option String × Option String) :=
  match python.getOutput dag failedTasksOutput with
  | none => some (dag.failedInstance, none)
  | some raw =>
      match python.loads raw with
      | .ok (.object ((taskId, group) :: _)) =>
          some (some taskId, if group.truthy then some (python.str group) else none)
      | .ok _ | .error .decode => some (dag.failedInstance, none)
      | .error _ => none

/-- What a failed run says of its failure; none where that raises. -/
def getFailure : Option EngineFailure :=
  match python.firstFailedTask dag with
  | none => none
  | some (none, _) => some {}
  | some (some failedTask, group) =>
      match dag.exceptionEntry failedTask with
      | none => some { failedTask := some failedTask, responsibleGroup := group }
      | some entry =>
          (python.failureFromResponse failedTask (entryResponse exceptionXcomKey entry)).map
            fun failure =>
              { failure with responsibleGroup := orElse failure.responsibleGroup group }

/-- The value is the map, as the text of a JSON object or as the object itself. -/
def Arrives (entries : List (String × Option String)) (value : JsonValue) : Prop :=
  (∃ text, value = .string text ∧ python.loads text = .ok (.object (entries.map textEntry))) ∨
    value = .object (entries.map textEntry)

/-- The task's own exception names a group. -/
def NamesGroup (task : String) : Prop :=
  ∃ entry entries name, dag.exceptionEntry task = some entry ∧
    python.payload (entryResponse exceptionXcomKey entry) = some entries ∧
    entries.lookup "responsible_group" = some (.string name) ∧ name ≠ ""

/-- The failure names the task, and its group where its exception names none. -/
def Honours (task : String) (group : Option String) : Prop :=
  ∃ failure, python.getFailure dag = some failure ∧ failure.failedTask = some task ∧
    (¬ python.NamesGroup dag task → failure.responsibleGroup = group.filter (· ≠ ""))

section Map

variable {python : PythonBuild} {dag : DagRun} {task : String} {group : Option String}

/-- Where the text raises nothing uncaught, the failure is the one that is read with a codec. -/
theorem getFailure_eq {codec : JsonCodec}
    (hloads : ∀ text, python.loads text = match codec.loads text with
      | some value => .ok value
      | none => .error .decode)
    (hstr : ∀ value, python.str value = value.str codec) :
    python.getFailure dag = dag.getFailure codec := by
  have houtput : ∀ key, python.getOutput dag key = dag.getOutput codec key := by
    intro key
    rw [getOutput, DagRun.collected, DagRun.getOutput, List.map_findSome?]
    congr 1
    funext task
    unfold EngineRun.valueOf
    dsimp only [Function.comp]
    cases task.xcomEntries.lookup key with
    | none => rfl
    | some value => cases value <;> simp [hstr]
  have hfirst : python.firstFailedTask dag = some (dag.firstFailedTask codec) := by
    rw [firstFailedTask, DagRun.firstFailedTask, houtput]
    cases dag.getOutput codec failedTasksOutput with
    | none => rfl
    | some raw =>
        simp only [hloads, Option.bind_some]
        cases codec.loads raw with
        | none => rfl
        | some value =>
            cases value with
            | object entries => cases entries <;> simp [hstr]
            | _ => rfl
  unfold getFailure DagRun.getFailure
  rw [hfirst]
  cases dag.firstFailedTask codec with
  | mk reported owner =>
      cases reported with
      | none => rfl
      | some failedTask =>
          dsimp only
          cases dag.exceptionEntry failedTask with
          | none => rfl
          | some entry =>
              simp only [failureFromResponse_eq hloads, entryValue_entryResponse]

/-- What is made of the task to report, once it is found. -/
theorem honours_of_reported {owner : Option String}
    (hfirst : python.firstFailedTask dag = some (some task, owner)) :
    python.Honours dag task group ↔
      (∀ entry, dag.exceptionEntry task = some entry →
        python.Readable (entryResponse exceptionXcomKey entry)) ∧
      (python.NamesGroup dag task ∨ owner = group.filter (· ≠ "")) := by
  unfold Honours getFailure
  rw [hfirst]
  dsimp only
  cases hentry : dag.exceptionEntry task with
  | none =>
      have hnames : ¬ python.NamesGroup dag task := by
        rintro ⟨entry, entries, name, hsome, -⟩
        rw [hentry] at hsome
        cases hsome
      simp [hnames]
  | some entry =>
      have hreadable := failureFromResponse_isSome_iff python task
        (entryResponse exceptionXcomKey entry)
      cases hread : python.failureFromResponse task (entryResponse exceptionXcomKey entry) with
      | none =>
          rw [hread] at hreadable
          simp only [Option.isSome_none, Bool.false_eq_true, false_iff] at hreadable
          simp [hreadable, hread]
      | some failure =>
          rw [hread] at hreadable
          obtain ⟨htask, hgroup⟩ := failureFromResponse_spec hread
          have hnames : python.NamesGroup dag task ↔
              (failure.responsibleGroup.filter (· ≠ "")).isSome = true := by
            constructor
            · rintro ⟨other, entries, name, hother, hpayload, hname, hne⟩
              rw [hentry] at hother
              obtain rfl := Option.some.inj hother
              rw [(hgroup name).mpr ⟨entries, hpayload, hname⟩]
              simp [Option.filter, hne]
            · intro hsome
              obtain ⟨name, hfiltered⟩ := Option.isSome_iff_exists.mp hsome
              obtain ⟨hname, hne⟩ := Option.filter_eq_some_iff.mp hfiltered
              obtain ⟨entries, hpayload, hfield⟩ := (hgroup name).mp hname
              exact ⟨entry, entries, name, hentry, hpayload, hfield, by simpa using hne⟩
          have hread' : python.Readable (entryResponse exceptionXcomKey entry) :=
            hreadable.mp rfl
          -- the owner the map names is asked only where the payload names no group
          have howner : ¬ python.NamesGroup dag task →
              orElse failure.responsibleGroup owner = owner := by
            intro hnone
            rw [orElse, if_neg fun hsome => hnone (hnames.mpr hsome)]
          dsimp only
          rw [hread, Option.map_some]
          constructor
          · rintro ⟨found, hfound, -, hrouted⟩
            obtain rfl := Option.some.inj hfound
            refine ⟨fun other hother => ?_, ?_⟩
            · obtain rfl := Option.some.inj hother
              exact hread'
            · by_cases hnamed : python.NamesGroup dag task
              · exact .inl hnamed
              · exact .inr ((howner hnamed).symm.trans (hrouted hnamed))
          · rintro ⟨-, hrouted⟩
            refine ⟨_, rfl, htask, fun hnone => ?_⟩
            exact (howner hnone).trans (hrouted.resolve_left hnone)

/-- A map that reads as itself names its first task, and the group it has for it. -/
theorem firstFailedTask_of_loads {rest : List (String × Option String)} {value : JsonValue}
    (hcollected : dag.collected failedTasksOutput = some value)
    (hloads : python.loads (python.str value) =
      .ok (.object (((task, group) :: rest).map textEntry))) :
    python.firstFailedTask dag = some (some task, group.filter (· ≠ "")) := by
  rw [firstFailedTask, getOutput, hcollected, Option.map_some]
  simp only [hloads, List.map_cons, textEntry]
  cases group with
  | none => rfl
  | some name =>
      by_cases hname : name = ""
      · simp [hname, JsonValue.ofText, JsonValue.truthy, Option.filter]
      · simp [hname, JsonValue.ofText, JsonValue.truthy, str, Option.filter]

/-- One that is no JSON names nothing, and the failed task instances are all there is. -/
theorem firstFailedTask_of_decode {value : JsonValue}
    (hcollected : dag.collected failedTasksOutput = some value)
    (hloads : python.loads (python.str value) = .error .decode) :
    python.firstFailedTask dag = some (dag.failedInstance, none) := by
  rw [firstFailedTask, getOutput, hcollected, Option.map_some]
  simp only [hloads]

/-- The controller's map is honoured exactly where the task's own exception is readable, and the
map arrives as text, or prints as JSON would have it, or the first failed instance happens to be
the map's first task and its group is named otherwise, or not at all. -/
theorem map_honoured_iff (python : PythonBuild) (dag : DagRun) (task : String)
    (group : Option String) (rest : List (String × Option String)) (value : JsonValue)
    (hkeys : (((task, group) :: rest).map Prod.fst).Nodup)
    (harrives : python.Arrives ((task, group) :: rest) value)
    (hcollected : dag.collected failedTasksOutput = some value) :
    python.Honours dag task group ↔
      (∀ entry, dag.exceptionEntry task = some entry →
        python.Readable (entryResponse exceptionXcomKey entry)) ∧
      ((∃ text, value = .string text) ∨
        (∀ entry ∈ (task, group) :: rest, EntryRereads python entry) ∨
        dag.failedInstance = some task ∧
          (python.NamesGroup dag task ∨ group.filter (· ≠ "") = none)) := by
  rcases harrives with ⟨text, rfl, htext⟩ | rfl
  · rw [honours_of_reported (firstFailedTask_of_loads hcollected htext)]
    simp
  · obtain ⟨hreads, hfails⟩ := loads_repr python (by simp) hkeys
    by_cases hall : ∀ entry ∈ (task, group) :: rest, EntryRereads python entry
    · rw [honours_of_reported (firstFailedTask_of_loads hcollected (hreads hall))]
      simp only [or_true, and_true]
      exact ⟨fun h => ⟨h, .inr (.inl hall)⟩, fun h => h.1⟩
    · have hfirst := firstFailedTask_of_decode hcollected (hfails hall)
      -- the map's text is not JSON, and the first failed instance is reported instead
      have hobject : ¬ ∃ text, JsonValue.object (((task, group) :: rest).map textEntry) =
          .string text := by
        simp
      simp only [hall, hobject, false_or]
      by_cases hinstance : dag.failedInstance = some task
      · rw [hinstance] at hfirst
        rw [honours_of_reported hfirst]
        simp [hinstance, eq_comm]
      · -- what is reported is another task, or none at all
        simp only [hinstance, false_and, and_false, iff_false]
        rintro ⟨failure, hfailure, htask, -⟩
        unfold getFailure at hfailure
        rw [hfirst] at hfailure
        cases hreported : dag.failedInstance with
        | none =>
            rw [hreported] at hfailure
            obtain rfl := Option.some.inj hfailure
            cases htask
        | some other =>
            have hother : failure.failedTask = some other := by
              simp only [hreported] at hfailure
              cases hentry : dag.exceptionEntry other with
              | none =>
                  rw [hentry] at hfailure
                  obtain rfl := Option.some.inj hfailure
                  rfl
              | some entry =>
                  rw [hentry] at hfailure
                  obtain ⟨found, hfound, rfl⟩ := Option.map_eq_some_iff.mp hfailure
                  exact (failureFromResponse_spec hfound).1
            rw [hother] at htask
            exact hinstance (hreported.trans htask)

end Map

/-- A build for which everything outside of ASCII prints as it is. -/
def plainBuild : PythonBuild where
  printable _ := true
  float text := (text, true)
  recursionLimit := 1000

/-- A run that was rolled back, its controller's map published as given. -/
def rolledBack (value : JsonValue) : DagRun where
  state := "success"
  taskInstances :=
    [{ taskId := "rollback", state := "success", xcomEntries := [("failed_tasks", value)] }]

/-- A map whose texts all hold an apostrophe prints as JSON has it. -/
theorem map_honoured_iff_quoted :
    plainBuild.Honours (rolledBack (.object [("it's", .string "ops' team")])) "it's"
      (some "ops' team") := by
  refine (map_honoured_iff plainBuild (rolledBack (.object [("it's", .string "ops' team")])) "it's"
    (some "ops' team") [] _ (by simp) (.inr rfl) rfl).mpr
      ⟨(by intro entry hentry; cases hentry), ?_⟩
  have hrereads : ∀ text ∈ ["it's", "ops' team"], plainBuild.Rereads text := by
    have hquoted : ∀ text ∈ ["it's", "ops' team"], '\'' ∈ text.toList ∧ '"' ∉ text.toList ∧
        text.toList.all plainBuild.isPrintable = true := by
      decide
    intro text htext
    obtain ⟨hsingle, hdouble, hprintable⟩ := hquoted text htext
    exact ⟨hsingle, hdouble, fun char hchar =>
      .inr (.inl (List.all_eq_true.mp hprintable char hchar))⟩
  refine .inr (.inl ?_)
  intro entry hentry
  obtain rfl := List.mem_singleton.mp hentry
  exact ⟨hrereads _ List.mem_cons_self, _, rfl, hrereads _ (by simp)⟩

/-- Any other object is lost, with the group it holds. -/
theorem map_lost :
    ¬ ∀ (python : PythonBuild) (dag : DagRun) (task : String) (group : Option String)
      (rest : List (String × Option String)) (value : JsonValue),
      (((task, group) :: rest).map Prod.fst).Nodup → python.Arrives ((task, group) :: rest) value →
      dag.collected failedTasksOutput = some value → python.Honours dag task group := by
  intro hall
  obtain ⟨failure, hfailure, htask, -⟩ := hall plainBuild
    (rolledBack (.object [("provision_vm", .string "netops")])) "provision_vm" (some "netops") []
    (.object [("provision_vm", .string "netops")]) (by simp) (.inr rfl) rfl
  have hlost : plainBuild.getFailure (rolledBack (.object [("provision_vm", .string "netops")])) =
      some {} := by
    decide +kernel
  rw [hlost] at hfailure
  obtain rfl := Option.some.inj hfailure
  cases htask

end PythonBuild

end CloudioOrchestrator
