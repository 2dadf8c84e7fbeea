import CloudioOrchestrator.Desk

/-! # Looking up references

A login or a group name is put into the text of a query as it is. What comes
back has that very name as long as the name has nothing in it that joins
conditions; else it is a row that meets the conditions which the name spells.
-/

namespace CloudioOrchestrator

open Interaction EncodedQuery

/-- What one lookup of the adapter comes to. -/
def ServiceNow.lookedUp (dialect : Dialect TableRow) (choose : Nat → Circumstance)
    (world : Instance) (table field value : String) : Except ProviderError (Option String) :=
  ((instanceService dialect).finish ⟨(), 0⟩ choose
    (byTables (lookupSysId table field value) fun _ => none) (0, world)).1.1

/-- Whatever a name resolves to has that very name. -/
def ResolvesLiterally (dialect : Dialect TableRow) (column : Column) (name : String) : Prop :=
  ∀ table choose world sysId,
    ServiceNow.lookedUp dialect choose world table column.name name = .ok (some sysId) →
      ∃ row ∈ world.rows table, row "sys_id" = sysId ∧ row column.name = name

section Lookup

variable {dialect : Dialect TableRow} {choose : Nat → Circumstance} {world : Instance}
  {table field value sysId : String}

/-- A lookup is one exchange, and fails as it does. -/
theorem byTables_lookupSysId (table field value : String) (groups : Groups) :
    ServiceNow.byTables (ServiceNow.lookupSysId table field value) groups =
      .call (.get table (field ++ "=" ++ value) ["sys_id"]) fun answer =>
        .ret ((answer.bind Reply.raiseForStatus).bind ServiceNow.firstSysId, groups) := by
  change Prog.call (S := HttpApi) (.get table (field ++ "=" ++ value) ["sys_id"]) _ = _
  congr 1
  funext answer
  dsimp only [Prog.bind]
  cases (answer.bind Reply.raiseForStatus).bind ServiceNow.firstSysId with
  | error error => rfl
  | ok found => rfl

theorem lookedUp_eq (dialect : Dialect TableRow) (choose : Nat → Circumstance) (world : Instance)
    (table field value : String) : ServiceNow.lookedUp dialect choose world table field value =
      (((Instance.serve dialect (choose 0) (.get table (field ++ "=" ++ value) ["sys_id"])
        world).1).bind Reply.raiseForStatus).bind ServiceNow.firstSysId := by
  rw [ServiceNow.lookedUp, byTables_lookupSysId]
  rfl

theorem lookedUp_of_served
    (hserved : (choose 0).fault (.get table (field ++ "=" ++ value) ["sys_id"]) = none) :
    ServiceNow.lookedUp dialect choose world table field value =
      .ok ((dialect.first (field ++ "=" ++ value) (world.rows table)).map fun row =>
        row "sys_id") := by
  rw [lookedUp_eq]
  simp only [Instance.serve, hserved, Instance.perform]
  cases dialect.first (field ++ "=" ++ value) (world.rows table) with
  | none => rfl
  | some row => rfl

/-- A lookup that finds something was served. -/
theorem served_of_lookedUp
    (hfound : ServiceNow.lookedUp dialect choose world table field value = .ok (some sysId)) :
    (choose 0).fault (.get table (field ++ "=" ++ value) ["sys_id"]) = none := by
  rw [lookedUp_eq] at hfound
  cases hfault : (choose 0).fault (.get table (field ++ "=" ++ value) ["sys_id"]) with
  | none => rfl
  | some fault =>
      simp only [Instance.serve, hfault] at hfound
      cases fault with
      | refused status applied => cases hfound
      | raised name message applied => cases hfound

/-- What is found is a row that the query selects. -/
theorem selected_of_lookedUp
    (hfound : ServiceNow.lookedUp dialect choose world table field value = .ok (some sysId)) :
    ∃ row ∈ world.rows table, row "sys_id" = sysId ∧
      dialect.selects (field ++ "=" ++ value) row = true := by
  rw [lookedUp_of_served (served_of_lookedUp hfound)] at hfound
  obtain ⟨row, hfirst, hsys⟩ := Option.map_eq_some_iff.mp (Except.ok.inj hfound)
  exact ⟨row, List.mem_of_find?_eq_some hfirst, hsys, List.find?_some hfirst⟩

end Lookup

/-- An instance whose one row every table has. -/
def Instance.only (row : TableRow) : Instance where
  rows _ := [row]

/-- Nothing comes between. -/
def untroubled : Nat → Circumstance := fun _ => { elsewhere := outage [] }

/-- A name resolves literally exactly if nothing in it joins conditions, or the
conditions that it spells select no row of another name. -/
theorem resolves_literally_iff {dialect : Dialect TableRow}
    (hdialect : dialect.Compares fun row column => row column) (column : Column) (name : String) :
    ResolvesLiterally dialect column name ↔ '^' ∉ name.toList ∨
      ∀ row, dialect.selects (column.equals name) row = true → row column.name = name := by
  constructor
  · intro hliteral
    right
    intro row hselected
    have hfirst : dialect.first (column.equals name) [row] = some row :=
      List.find?_cons_of_pos hselected
    have hfound : ServiceNow.lookedUp dialect untroubled (.only row) "" column.name name =
        .ok ((dialect.first (column.equals name) [row]).map fun row => row "sys_id") :=
      lookedUp_of_served rfl
    rw [hfirst] at hfound
    obtain ⟨other, hother, -, hname⟩ := hliteral "" untroubled (.only row) (row "sys_id") hfound
    rw [Instance.only, List.mem_singleton] at hother
    rwa [hother] at hname
  · intro hcondition table choose world sysId hfound
    obtain ⟨row, hrow, hsys, hselected⟩ := selected_of_lookedUp hfound
    refine ⟨row, hrow, hsys, ?_⟩
    rcases hcondition with hplain | hselects
    · exact (hdialect.selects column hplain row).mp hselected
    · exact hselects row hselected

section Examples

theorem userName_wellFormed : ∀ char ∈ "user_name".toList, isColumnChar char = true :=
  List.all_eq_true.mp (by decide)

def userName : Column where
  name := "user_name"
  wellFormed := userName_wellFormed

theorem resolves_literally_jdoe :
    ResolvesLiterally (plainly fun row column => row column) userName "jdoe" :=
  (resolves_literally_iff (plainly_compares _) userName "jdoe").mpr (.inl (by decide))

/-- A login that is nobody's, and an alternative. -/
def ghostOrRoot : String := "ghost^ORuser_name=root"

/-- The login resolves to another user. -/
theorem resolves_to_another :
    ¬ ResolvesLiterally (plainly fun row column => row column) userName ghostOrRoot := by
  intro hliteral
  obtain ⟨row, hrow, -, hname⟩ := hliteral "sys_user" untroubled
    (.only (.of [("sys_id", "u1"), ("user_name", "root")])) "u1" (by decide +kernel)
  rw [Instance.only, List.mem_singleton] at hrow
  subst hrow
  revert hname
  decide

end Examples

end CloudioOrchestrator
