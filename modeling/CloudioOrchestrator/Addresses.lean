import CloudioOrchestrator.Ports
import CloudioOrchestrator.Interaction.Playing
import CloudioOrchestrator.Queries.Targets

/-! # Addresses of records

The resource manager's adapter puts the three parts of a record's identity into
a URL as they are. Records of different identities have different addresses as
long as nothing in the parts means something in a URL.
-/

namespace CloudioOrchestrator

open Interaction Url

/-! ## The adapter -/

/-- What `update_resource` and `delete_resource` send; the answer is a status. -/
inductive ManagerRequest
  | patch (url : String) (fields : ResourceFields)
  | delete (url : String)

def ManagerRequest.url : ManagerRequest → String
  | .patch url _ | .delete url => url

abbrev ManagerApi : Signature where
  Op := ManagerRequest
  Answer _ := Except ProviderError Nat

/-- What names a record. -/
structure RecordIdentity where
  projectId : String
  resourceType : String
  vendorId : String
deriving DecidableEq

namespace ProjectManager

def notFound : Nat := 404

/-- `raise_for_status`, of a reply that is not looked at otherwise. -/
def raiseForStatus (status : Nat) : Except ProviderError Unit :=
  if 200 ≤ status ∧ status < 300 then .ok ()
  else .error (.other "HTTPStatusError" (toString status))

def resourceUrl (projectId resourceType vendorId : String) : String :=
  "/projects/" ++ projectId ++ "/project_resources/" ++ resourceType ++ "/" ++ vendorId

def updateResource (projectId resourceType vendorId : String) (fields : ResourceFields) :
    Routine ManagerApi ProviderError Unit Unit := do
  let answer ← Routine.ask (S := ManagerApi)
    (.patch (resourceUrl projectId resourceType vendorId) fields)
  let status ← Routine.ofExcept answer
  if status = notFound then
    Routine.raise (.resourceNotFound
      ("No " ++ resourceType ++ " resource '" ++ vendorId ++ "' in project '" ++ projectId ++ "'."))
  else Routine.ofExcept (raiseForStatus status)

/-- A record that is already gone is as good as deleted. -/
def deleteResource (projectId resourceType vendorId : String) :
    Routine ManagerApi ProviderError Unit Unit := do
  let answer ← Routine.ask (S := ManagerApi) (.delete (resourceUrl projectId resourceType vendorId))
  let status ← Routine.ofExcept answer
  if status = notFound then return ()
  else Routine.ofExcept (raiseForStatus status)

/-- The requests that a method sends, however they are answered. -/
def sent (method : Routine ManagerApi ProviderError Unit Unit)
    (environment : Environment ManagerApi) : List ManagerRequest :=
  ((method ()).play environment []).2.map Exchange.op

theorem sent_updateResource (projectId resourceType vendorId : String) (fields : ResourceFields)
    (environment : Environment ManagerApi) :
    sent (updateResource projectId resourceType vendorId fields) environment =
      [.patch (resourceUrl projectId resourceType vendorId) fields] := by
  rw [sent, updateResource, Routine.play_bind_ok (Routine.play_ask _)]
  cases environment [] (.patch (resourceUrl projectId resourceType vendorId) fields) with
  | error error => rfl
  | ok status =>
      rw [Routine.play_bind_ok (Routine.play_ofExcept _)]
      split
      · rfl
      · rw [Routine.play_ofExcept]
        rfl

theorem sent_deleteResource (projectId resourceType vendorId : String)
    (environment : Environment ManagerApi) :
    sent (deleteResource projectId resourceType vendorId) environment =
      [.delete (resourceUrl projectId resourceType vendorId)] := by
  rw [sent, deleteResource, Routine.play_bind_ok (Routine.play_ask _)]
  cases environment [] (.delete (resourceUrl projectId resourceType vendorId)) with
  | error error => rfl
  | ok status =>
      rw [Routine.play_bind_ok (Routine.play_ofExcept _)]
      split
      · rfl
      · rw [Routine.play_ofExcept]
        rfl

end ProjectManager

namespace RecordIdentity

/-- The request is one that a method sends for the record. -/
inductive Requests (identity : RecordIdentity) : ManagerRequest → Prop
  | update (fields environment) {request}
      (hsent : request ∈ ProjectManager.sent (ProjectManager.updateResource identity.projectId
        identity.resourceType identity.vendorId fields) environment) : identity.Requests request
  | delete (environment) {request}
      (hsent : request ∈ ProjectManager.sent (ProjectManager.deleteResource identity.projectId
        identity.resourceType identity.vendorId) environment) : identity.Requests request

def url (identity : RecordIdentity) : String :=
  ProjectManager.resourceUrl identity.projectId identity.resourceType identity.vendorId

theorem Requests.url_eq {identity : RecordIdentity} {request : ManagerRequest}
    (hrequest : identity.Requests request) : request.url = identity.url := by
  cases hrequest with
  | update fields environment hsent =>
      rw [ProjectManager.sent_updateResource, List.mem_singleton] at hsent
      rw [hsent]
      rfl
  | delete environment hsent =>
      rw [ProjectManager.sent_deleteResource, List.mem_singleton] at hsent
      rw [hsent]
      rfl

theorem requests_delete (identity : RecordIdentity) : identity.Requests (.delete identity.url) := by
  apply Requests.delete fun _ _ => .ok ProjectManager.notFound
  rw [ProjectManager.sent_deleteResource]
  exact List.mem_singleton.mpr rfl

/-- The segments of a record's path. -/
def parts (identity : RecordIdentity) : List String :=
  ["projects", identity.projectId, "project_resources", identity.resourceType, identity.vendorId]

theorem url_toList (identity : RecordIdentity) : identity.url.toList = absolute identity.parts := by
  simp [url, ProjectManager.resourceUrl, absolute, parts, List.intercalate]

end RecordIdentity

/-! ## Names -/

/-- How records are named: the characters that names are made of, and whether a
name may be `.` or `..`. -/
structure Naming where
  allowed : Char → Prop
  dots : Prop
  word : ∀ char, char.isAlphanum = true ∨ char = '_' → allowed char

namespace Naming

variable (naming : Naming)

def Names (name : String) : Prop :=
  (∀ char ∈ name.toList, naming.allowed char) ∧ (naming.dots ∨ name ≠ "." ∧ name ≠ "..")

structure Identifies (identity : RecordIdentity) : Prop where
  project : naming.Names identity.projectId
  type : naming.Names identity.resourceType
  vendor : naming.Names identity.vendorId

/-- A request for one record is no request for another. -/
def Addresses (transport : Transport) : Prop :=
  ∀ first second request other address, naming.Identifies first → naming.Identifies second →
    first.Requests request → second.Requests other →
    transport.address request.url = some address → transport.address other.url = some address →
    first = second

/-- No name has a meaning in a URL. -/
structure Plain : Prop where
  slash : ¬ naming.allowed '/'
  question : ¬ naming.allowed '?'
  hash : ¬ naming.allowed '#'
  percent : ¬ naming.allowed '%'
  dots : ¬ (naming.dots ∧ naming.allowed '.')

variable {naming} {transport : Transport}

theorem Plain.unseparated (hplain : naming.Plain) {name : String} (hname : naming.Names name) :
    Unseparated name.toList :=
  ⟨fun hmem => hplain.slash (hname.1 _ hmem), fun hmem => hplain.question (hname.1 _ hmem),
    fun hmem => hplain.hash (hname.1 _ hmem)⟩

theorem Plain.literal (hplain : naming.Plain) {name : String} (hname : naming.Names name) :
    Literal name := by
  refine ⟨fun hmem => hplain.percent (hname.1 _ hmem), ?_⟩
  rcases hname.2 with hdots | hneither
  · have hdot : '.' ∉ name.toList := fun hmem => hplain.dots ⟨hdots, hname.1 _ hmem⟩
    constructor
    · rintro rfl
      exact hdot (by decide)
    · rintro rfl
      exact hdot (by decide)
  · exact hneither

/-- A request for a plainly named record arrives with the record's own path. -/
theorem Plain.address (hplain : naming.Plain) (htransport : transport.Standard)
    {identity : RecordIdentity} (hidentity : naming.Identifies identity) {address : List String}
    (haddress : transport.address identity.url = some address) : address = identity.parts := by
  have hparts : ∀ part ∈ identity.parts, Unseparated part.toList ∧ Literal part := by
    have hnames : ∀ name, naming.Names name → Unseparated name.toList ∧ Literal name :=
      fun name hname => ⟨hplain.unseparated hname, hplain.literal hname⟩
    simp only [RecordIdentity.parts, List.forall_mem_cons]
    exact ⟨by decide, hnames _ hidentity.project, by decide, hnames _ hidentity.type,
      hnames _ hidentity.vendor, fun _ hmem => nomatch hmem⟩
  rw [Transport.address] at haddress
  split at haddress
  · rw [segments_absolute identity.url_toList (List.cons_ne_nil _ _) fun part hpart =>
      (hparts part hpart).1, htransport.literal _ fun part hpart => (hparts part hpart).2]
        at haddress
    exact (Option.some.inj haddress).symm
  · cases haddress

/-- Two identities whose paths arrive as one are one. -/
theorem Addresses.eq_of_arrives (haddresses : naming.Addresses transport)
    (first second : RecordIdentity) (hfirst : naming.Identifies first)
    (hsecond : naming.Identifies second) (haccepts : transport.accepts first.url = true)
    (hother : transport.accepts second.url = true)
    (harrives : transport.arrives (segments first.url) = transport.arrives (segments second.url)) :
    first = second := by
  apply haddresses first second _ _ (transport.arrives (segments first.url)) hfirst hsecond
    first.requests_delete second.requests_delete
  · simp only [ManagerRequest.url, Transport.address, haccepts, if_true]
  · simp only [ManagerRequest.url, Transport.address, hother, if_true, harrives]

/-- A property of a text's characters, checked one by one. -/
theorem forall_char {P : Char → Prop} [DecidablePred P] {text : String}
    (hall : (text.toList.all fun char => decide (P char)) = true) :
    ∀ char ∈ text.toList, P char := by
  simpa using hall

/-- A name of word characters and one more that is allowed. -/
theorem names_of_mark {mark : Char} (hmark : naming.allowed mark) {name : String}
    (hchars : ∀ char ∈ name.toList, char.isAlphanum = true ∨ char = '_' ∨ char = mark)
    (hdots : name ≠ "." ∧ name ≠ "..") : naming.Names name := by
  refine ⟨?_, .inr hdots⟩
  intro char hchar
  rcases hchars char hchar with hword | hword | heq
  · exact naming.word char (.inl hword)
  · exact naming.word char (.inr hword)
  · exact heq ▸ hmark

/-- Where records are addressed apart, no character is allowed that two identities
whose paths arrive as one differ by. -/
theorem Addresses.not_allowed (haddresses : naming.Addresses transport)
    (htransport : transport.Standard) {mark : Char} (first second : RecordIdentity)
    (hnames : ∀ name ∈ [first.projectId, first.resourceType, first.vendorId,
        second.projectId, second.resourceType, second.vendorId],
      (name.toList.all fun char =>
          decide (char.isAlphanum = true ∨ char = '_' ∨ char = mark)) = true ∧
        name ≠ "." ∧ name ≠ "..")
    (hurls : ∀ url ∈ [first.url, second.url], url.length ≤ 1000 ∧
      (url.toList.all fun char => decide ('!' ≤ char ∧ char ≤ '~')) = true)
    (harrives : transport.arrives (segments first.url) = transport.arrives (segments second.url))
    (hne : first ≠ second) : ¬ naming.allowed mark := by
  intro hmark
  simp only [List.forall_mem_cons] at hnames hurls
  obtain ⟨h1, h2, h3, h4, h5, h6, -⟩ := hnames
  obtain ⟨hfirst, hsecond, -⟩ := hurls
  apply hne
  apply haddresses.eq_of_arrives
  · exact ⟨names_of_mark hmark (forall_char h1.1) h1.2,
      names_of_mark hmark (forall_char h2.1) h2.2, names_of_mark hmark (forall_char h3.1) h3.2⟩
  · exact ⟨names_of_mark hmark (forall_char h4.1) h4.2,
      names_of_mark hmark (forall_char h5.1) h5.2, names_of_mark hmark (forall_char h6.1) h6.2⟩
  · exact htransport.accepts _ hfirst.1 (forall_char hfirst.2)
  · exact htransport.accepts _ hsecond.1 (forall_char hsecond.2)
  · exact harrives

/-- Dots in a path lead from one record to another. -/
theorem arrives_dotted (htransport : transport.Standard) :
    transport.arrives ["projects", "project_resources", "project_resources", "..", "A"] =
      transport.arrives ["projects", ".", "project_resources", ".", "A"] := by
  calc transport.arrives ["projects", "project_resources", "project_resources", "..", "A"]
      = transport.arrives ["projects", "project_resources", "A"] :=
        htransport.up ["projects", "project_resources"] "project_resources" "A" [] (by decide)
    _ = transport.arrives ["projects", "project_resources", ".", "A"] :=
        (htransport.here ["projects", "project_resources"] "A" []).symm
    _ = transport.arrives ["projects", ".", "project_resources", ".", "A"] :=
        (htransport.here ["projects"] "project_resources" [".", "A"]).symm

theorem Addresses.dotted (haddresses : naming.Addresses transport)
    (htransport : transport.Standard) (hdots : naming.dots) (hdot : naming.allowed '.') :
    False := by
  have hnames : ∀ name : String, (name.toList.all fun char =>
      decide ((char.isAlphanum = true ∨ char = '_') ∨ char = '.')) = true → naming.Names name := by
    intro name hchars
    refine ⟨?_, .inl hdots⟩
    intro char hchar
    rcases forall_char hchars char hchar with hword | heq
    · exact naming.word char hword
    · exact heq ▸ hdot
  have hsame := haddresses.eq_of_arrives ⟨"project_resources", "..", "A"⟩ ⟨".", ".", "A"⟩
    ⟨hnames _ (by decide), hnames _ (by decide), hnames _ (by decide)⟩
    ⟨hnames _ (by decide), hnames _ (by decide), hnames _ (by decide)⟩
    (htransport.accepts _ (by decide) (forall_char (by decide)))
    (htransport.accepts _ (by decide) (forall_char (by decide)))
    (arrives_dotted htransport)
  revert hsame
  decide

/-- Records are addressed apart exactly where no name has a meaning in a URL. -/
theorem addresses_iff (htransport : transport.Standard) (naming : Naming) :
    naming.Addresses transport ↔ naming.Plain := by
  constructor
  · intro haddresses
    constructor
    case slash =>
      exact haddresses.not_allowed htransport ⟨"A", "A/A", "A"⟩ ⟨"A", "A", "A/A"⟩ (by decide)
        (by decide) (congrArg transport.arrives (by decide)) (by decide)
    case question =>
      exact haddresses.not_allowed htransport ⟨"A", "A", "A?"⟩ ⟨"A", "A", "A"⟩ (by decide)
        (by decide) (congrArg transport.arrives (by decide)) (by decide)
    case hash =>
      exact haddresses.not_allowed htransport ⟨"A", "A", "A#"⟩ ⟨"A", "A", "A"⟩ (by decide)
        (by decide) (congrArg transport.arrives (by decide)) (by decide)
    case percent =>
      exact haddresses.not_allowed htransport ⟨"A", "A", "%41"⟩ ⟨"A", "A", "A"⟩ (by decide)
        (by decide) (htransport.escape ["projects", "A", "project_resources", "A"] [])
        (by decide)
    case dots =>
      rintro ⟨hdots, hdot⟩
      exact haddresses.dotted htransport hdots hdot
  · intro hplain first second request other address hfirst hsecond hrequest hother haddress hagain
    rw [hrequest.url_eq] at haddress
    rw [hother.url_eq] at hagain
    have hparts := (hplain.address htransport hfirst haddress).symm.trans
      (hplain.address htransport hsecond hagain)
    simp only [RecordIdentity.parts, List.cons.injEq, true_and, and_true] at hparts
    obtain ⟨hproject, htype, hvendor⟩ := hparts
    cases first
    cases second
    congr

end Naming

section Examples

/-- Names of word characters and hyphens. -/
def hyphenated : Naming where
  allowed char := char.isAlphanum = true ∨ char = '_' ∨ char = '-'
  dots := False
  word _ hchar := hchar.imp_right .inl

theorem addresses_hyphenated : hyphenated.Addresses plainTransport := by
  apply (Naming.addresses_iff plainTransport_standard hyphenated).mpr
  constructor <;> simp [hyphenated]

/-- Any text is a name. -/
def unrestricted : Naming where
  allowed _ := True
  dots := True
  word _ _ := trivial

/-- What separates two parts of a path may stand in either of the names next to it. -/
theorem not_addresses_unrestricted : ¬ unrestricted.Addresses plainTransport := by
  intro haddresses
  have hnames : ∀ name, unrestricted.Names name := fun _ => ⟨fun _ _ => trivial, .inl trivial⟩
  have hsame := haddresses ⟨"p", "vm/blue", "7"⟩ ⟨"p", "vm", "blue/7"⟩ _ _
    ["projects", "p", "project_resources", "vm", "blue", "7"]
    ⟨hnames _, hnames _, hnames _⟩ ⟨hnames _, hnames _, hnames _⟩
    (RecordIdentity.requests_delete _) (RecordIdentity.requests_delete _)
    (by decide +kernel) (by decide +kernel)
  revert hsame
  decide

end Examples

end CloudioOrchestrator
