import Mathlib.Data.List.Basic
import Mathlib.Data.List.Forall2
import Mathlib.Data.List.Nodup

/-! # Documents and what is read from them

Values are written as documents and read back field by field. A store may reorder
the entries of a document and spell in its own way the parts that nothing looks
into; a reader of a later time may declare fields that the writer did not know.
-/

namespace Documents

/-- A document; the keys of an object are distinct. -/
inductive Document
  | null
  | bool (value : Bool)
  | number (value : Int)
  | text (value : String)
  /-- A part that is passed through, as its serialised text. -/
  | payload (value : String)
  | list (items : List Document)
  | object (entries : List (String × Document))

abbrev Entries := List (String × Document)

abbrev Reader (α : Type) := Document → Option α

variable {α κ : Type}

/-! ## Readers -/

namespace Reader

def text : Reader String
  | .text value => some value
  | _ => none

def payload : Reader String
  | .payload value => some value
  | _ => none

def nullable (read : Reader α) : Reader (Option α)
  | .null => some none
  | doc => (read doc).map some

def list (read : Reader α) : Reader (List α)
  | .list items => items.mapM read
  | _ => none

/-- A member of an enumeration, by its value. -/
def member (members : List κ) (value : κ → String) : Reader κ
  | .text found => members.find? fun member => value member = found
  | _ => none

/-- A mapping keyed by the members of an enumeration. -/
def mapping (members : List κ) (value : κ → String) (read : Reader α) : Reader (κ → Option α)
  | .object entries =>
      if (entries.all fun entry => members.any fun member => value member = entry.1) &&
          entries.all fun entry => (read entry.2).isSome then
        some fun member => (entries.lookup (value member)).bind read
      else none
  | _ => none

def record (read : Entries → Option α) : Reader α
  | .object entries => read entries
  | _ => none

end Reader

def requiredField (read : Reader α) (name : String) (entries : Entries) : Option α :=
  (entries.lookup name).bind read

def optionalField (read : Reader α) (fallback : α) (name : String) (entries : Entries) : Option α :=
  match entries.lookup name with
  | some doc => read doc
  | none => some fallback

/-- The value at a path of keys. -/
def atPath : List String → Document → Option Document
  | [], doc => some doc
  | key :: path, .object entries => (entries.lookup key).bind (atPath path)
  | _ :: _, _ => none

/-! ## Writers -/

def writeNullable (write : α → Document) : Option α → Document
  | none => .null
  | some value => write value

def writeMapping (members : List κ) (value : κ → String) (write : α → Document)
    (entries : κ → Option α) : Document :=
  .object (members.filterMap fun member => (entries member).map fun found =>
    (value member, write found))

/-! ## What a store keeps of a document -/

/-- The document as the store gives it back. -/
inductive Retained (spell : String → String) : Document → Document → Prop
  | null : Retained spell .null .null
  | bool (value : Bool) : Retained spell (.bool value) (.bool value)
  | number (value : Int) : Retained spell (.number value) (.number value)
  | text (value : String) : Retained spell (.text value) (.text value)
  | payload (value : String) : Retained spell (.payload value) (.payload (spell value))
  | list {items others : List Document} (hitems : List.Forall₂ (Retained spell) items others) :
      Retained spell (.list items) (.list others)
  | object {entries others : Entries} (hdistinct : (others.map Prod.fst).Nodup)
      (hkeys : ∀ name, (entries.lookup name).isSome = (others.lookup name).isSome)
      (hvalues : ∀ name doc other, entries.lookup name = some doc →
        others.lookup name = some other → Retained spell doc other) :
      Retained spell (.object entries) (.object others)

/-- Whatever became of the document of a value, the reader makes the value of it,
with its payloads as they are spelled now. -/
def Reads (spell : String → String) (write : α → Document) (read : Reader α) (respell : α → α) :
    Prop :=
  ∀ value doc, Retained spell (write value) doc → read doc = some (respell value)

/-- What was written is still there; where a field is not, reading falls back to what
the store would have kept. -/
def Covers (spell : String → String) (written fallbacks kept : Entries) : Prop :=
  ∀ name doc, written.lookup name = some doc →
    ∃ held, Retained spell doc held ∧ (kept.lookup name).or (fallbacks.lookup name) = some held

section Reading

variable {spell : String → String} {write : α → Document} {read : Reader α} {respell : α → α}

theorem mem_of_lookup {entries : Entries} {name : String} {doc : Document}
    (hlookup : entries.lookup name = some doc) : (name, doc) ∈ entries := by
  obtain ⟨first, later, rfl, -⟩ := List.lookup_eq_some_iff.mp hlookup
  exact List.mem_append_right _ List.mem_cons_self

theorem lookup_of_mem {entries : Entries} (hdistinct : (entries.map Prod.fst).Nodup)
    {entry : String × Document} (hentry : entry ∈ entries) :
    entries.lookup entry.1 = some entry.2 := by
  induction entries with
  | nil => cases hentry
  | cons head entries ih =>
      rw [List.map_cons, List.nodup_cons] at hdistinct
      rw [List.lookup_cons]
      cases List.mem_cons.mp hentry with
      | inl hhead => simp [hhead]
      | inr hrest =>
          have hne : (entry.1 == head.1) = false := by
            rw [beq_eq_false_iff_ne]
            intro heq
            exact hdistinct.1 (heq ▸ List.mem_map_of_mem hrest)
          simpa [hne] using ih hdistinct.2 hrest

theorem reads_text : Reads spell .text Reader.text id := by
  intro value doc hkept
  cases hkept
  rfl

theorem reads_payload : Reads spell .payload Reader.payload spell := by
  intro value doc hkept
  cases hkept
  rfl

theorem Reads.nullable (hreads : Reads spell write read respell)
    (hwrite : ∀ value, write value ≠ .null) :
    Reads spell (writeNullable write) read.nullable (Option.map respell) := by
  intro value doc hkept
  cases value with
  | none =>
      cases hkept
      rfl
  | some value =>
      have hnull : doc ≠ .null := by
        intro heq
        rw [heq, writeNullable] at hkept
        generalize hwritten : write value = written at hkept
        cases hkept
        exact hwrite value hwritten
      have hread := hreads value doc hkept
      cases doc with
      | null => exact absurd rfl hnull
      | _ => simp only [Reader.nullable, hread, Option.map_some]

theorem Reads.list (hreads : Reads spell write read respell) :
    Reads spell (fun items => .list (items.map write)) read.list (List.map respell) := by
  have hitems : ∀ {values : List α} {others : List Document},
      List.Forall₂ (Retained spell) (values.map write) others →
        others.mapM read = some (values.map respell) := by
    intro values
    induction values with
    | nil =>
        intro others hothers
        cases hothers
        rfl
    | cons value values ih =>
        intro others hothers
        cases hothers with
        | cons hhead hrest =>
            rw [List.mapM_cons, hreads value _ hhead, ih hrest]
            rfl
  intro values doc hkept
  cases hkept with
  | list hothers => exact hitems hothers

section Keyed

variable {members : List κ} {value : κ → String}

theorem reads_member (hmembers : ∀ member,
      members.find? (fun other => value other = value member) = some member) :
    Reads spell (fun member => .text (value member)) (Reader.member members value) id := by
  intro member doc hkept
  cases hkept
  exact hmembers member

theorem lookup_writeMapping (hmembers : ∀ member, member ∈ members) (hdistinct : members.Nodup)
    (hvalue : Function.Injective value) (entries : κ → Option α) (member : κ) :
    (members.filterMap fun other => (entries other).map fun found =>
      (value other, write found)).lookup (value member) = (entries member).map write := by
  cases hentry : entries member with
  | none =>
      rw [Option.map_none, List.lookup_eq_none_iff]
      intro entry hmem
      obtain ⟨other, -, hfound⟩ := List.mem_filterMap.mp hmem
      obtain ⟨found, hother, rfl⟩ := Option.map_eq_some_iff.mp hfound
      rw [bne_iff_ne]
      intro heq
      rw [hvalue heq, hother] at hentry
      cases hentry
  | some found =>
      have hkeys : ((members.filterMap fun other => (entries other).map fun found =>
          (value other, write found)).map Prod.fst).Nodup := by
        rw [List.map_filterMap]
        apply List.Nodup.filterMap _ hdistinct
        have hkey : ∀ {other key}, ((entries other).map fun found =>
            (value other, write found)).map Prod.fst = some key → value other = key := by
          intro other key hother
          cases hfound : entries other with
          | none => simp [hfound] at hother
          | some found => simpa [hfound] using hother
        intro first second key hfirst hsecond
        exact hvalue ((hkey hfirst).trans (hkey hsecond).symm)
      have hmem : (value member, write found) ∈ members.filterMap fun other =>
          (entries other).map fun found => (value other, write found) :=
        List.mem_filterMap.mpr ⟨member, hmembers member, by rw [hentry]; rfl⟩
      exact lookup_of_mem hkeys hmem

theorem Reads.mapping (hreads : Reads spell write read respell)
    (hmembers : ∀ member, member ∈ members) (hdistinct : members.Nodup)
    (hvalue : Function.Injective value) :
    Reads spell (writeMapping members value write) (Reader.mapping members value read)
      fun entries member => (entries member).map respell := by
  intro entries doc hkept
  cases hkept with
  | object hnodup hkeys hvalues =>
      rename_i others
      have hlookup := @lookup_writeMapping _ _ write _ _ hmembers hdistinct hvalue entries
      -- an entry that is kept is one that was written, under the same key
      have hentries : ∀ entry ∈ others, ∃ member found, value member = entry.1 ∧
          entries member = some found ∧ read entry.2 = some (respell found) := by
        intro entry hentry
        have hkept := lookup_of_mem hnodup hentry
        have hsome := hkeys entry.1
        rw [hkept, Option.isSome_some, Option.isSome_iff_exists] at hsome
        obtain ⟨written, hwritten⟩ := hsome
        obtain ⟨member, -, hfound⟩ := List.mem_filterMap.mp (mem_of_lookup hwritten)
        obtain ⟨found, hmember, hpair⟩ := Option.map_eq_some_iff.mp hfound
        injection hpair with hname hdoc
        refine ⟨member, found, hname, hmember, hreads found _ ?_⟩
        exact hdoc ▸ hvalues _ _ _ hwritten hkept
      have hall : ((others.all fun entry => members.any fun member => value member = entry.1) &&
          others.all fun entry => (read entry.2).isSome) = true := by
        rw [Bool.and_eq_true, List.all_eq_true, List.all_eq_true]
        constructor
        · intro entry hentry
          obtain ⟨member, _, hname, -⟩ := hentries entry hentry
          exact List.any_eq_true.mpr ⟨member, hmembers member, by simpa using hname⟩
        · intro entry hentry
          obtain ⟨_, _, -, -, hread⟩ := hentries entry hentry
          rw [hread, Option.isSome_some]
      simp only [Reader.mapping, hall, if_true, Option.some.injEq]
      funext member
      have hsame := hkeys (value member)
      rw [hlookup] at hsame
      cases hmember : entries member with
      | none =>
          rw [hmember, Option.map_none, Option.isSome_none, eq_comm, Option.isSome_eq_false_iff,
            Option.isNone_iff_eq_none] at hsame
          rw [hsame]
          rfl
      | some found =>
          rw [hmember, Option.map_some, Option.isSome_some, eq_comm,
            Option.isSome_iff_exists] at hsame
          obtain ⟨held, hheld⟩ := hsame
          have hwritten := (hlookup member).trans (congrArg _ hmember)
          rw [hheld, Option.bind_some, Option.map_some]
          exact hreads found held (hvalues _ _ _ hwritten hheld)

end Keyed

section Records

variable {written fallbacks kept : Entries} {name : String}

theorem Retained.covers {kept : Entries} (hkept : Retained spell (.object written) (.object kept)) :
    Covers spell written [] kept := by
  cases hkept with
  | object _ hkeys hvalues =>
      intro name doc hwritten
      have hsame := hkeys name
      rw [hwritten, Option.isSome_some, eq_comm, Option.isSome_iff_exists] at hsame
      obtain ⟨held, hheld⟩ := hsame
      exact ⟨held, hvalues name doc held hwritten hheld, by rw [hheld]; rfl⟩

theorem Reads.record {fields : α → Entries} {read : Entries → Option α}
    (hreads : ∀ value kept, Covers spell (fields value) [] kept →
      read kept = some (respell value)) :
    Reads spell (fun value => .object (fields value)) (Reader.record read) respell := by
  intro value doc hkept
  cases hkept with
  | object hdistinct hkeys hvalues =>
      exact hreads value _ (Retained.covers (.object hdistinct hkeys hvalues))

/-- A store may keep an object as it is. -/
theorem Retained.object_self {entries : Entries} (hdistinct : (entries.map Prod.fst).Nodup)
    (hentries : ∀ entry ∈ entries, Retained id entry.2 entry.2) :
    Retained id (.object entries) (.object entries) := by
  apply Retained.object hdistinct
  · exact fun _ => rfl
  · intro name doc other hdoc hother
    rw [hdoc, Option.some.injEq] at hother
    subst hother
    exact hentries _ (mem_of_lookup hdoc)

/-- What is there needs no fallback. -/
theorem Covers.mono (hcovers : Covers spell written [] kept) (fallbacks : Entries) :
    Covers spell written fallbacks kept := by
  intro name doc hwritten
  obtain ⟨held, hheld, hlookup⟩ := hcovers name doc hwritten
  rw [List.lookup_nil, Option.or_none] at hlookup
  exact ⟨held, hheld, by rw [hlookup, Option.some_or]⟩

/-- A field without a default. -/
theorem Covers.required (hcovers : Covers spell written fallbacks kept)
    (hreads : Reads spell write read respell) {value : α}
    (hwritten : written.lookup name = some (write value)) (hnone : fallbacks.lookup name = none) :
    requiredField read name kept = some (respell value) := by
  obtain ⟨held, hheld, hlookup⟩ := hcovers name _ hwritten
  rw [hnone, Option.or_none] at hlookup
  rw [requiredField, hlookup, Option.bind_some]
  exact hreads value held hheld

/-- A field that may be missing. -/
theorem Covers.optional (hcovers : Covers spell written fallbacks kept)
    (hreads : Reads spell write read respell) {value fallback : α}
    (hwritten : written.lookup name = some (write value))
    (hfallback : ∀ doc, fallbacks.lookup name = some doc → read doc = some fallback) :
    optionalField read fallback name kept = some (respell value) := by
  obtain ⟨held, hheld, hlookup⟩ := hcovers name _ hwritten
  have hread := hreads value held hheld
  unfold optionalField
  cases hkept : kept.lookup name with
  | some doc =>
      rw [hkept, Option.some_or, Option.some.injEq] at hlookup
      rw [hlookup]
      exact hread
  | none =>
      rw [hkept, Option.none_or] at hlookup
      rw [← hread, hfallback held hlookup]

theorem Covers.defaulted (hcovers : Covers spell written fallbacks kept)
    (hreads : Reads spell write read respell) {value fallback : α} {doc : Document}
    (hwritten : written.lookup name = some (write value))
    (hlookup : fallbacks.lookup name = some doc) (hread : read doc = some fallback) :
    optionalField read fallback name kept = some (respell value) := by
  apply hcovers.optional hreads hwritten
  intro other hother
  rw [hlookup, Option.some.injEq] at hother
  rw [← hother, hread]

/-- What an object is kept as, and a field of it. -/
theorem Retained.field {doc kept : Document} (hkept : Retained spell (.object written) kept)
    (hwritten : written.lookup name = some doc) :
    ∃ entries held, kept = .object entries ∧ Retained spell doc held ∧
      entries.lookup name = some held := by
  cases hkept with
  | object hdistinct hkeys hvalues =>
      obtain ⟨held, hheld, hlookup⟩ :=
        Retained.covers (.object hdistinct hkeys hvalues) name doc hwritten
      rw [List.lookup_nil, Option.or_none] at hlookup
      exact ⟨_, held, rfl, hheld, hlookup⟩

end Records

end Reading

end Documents
