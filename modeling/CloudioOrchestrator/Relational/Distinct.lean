import Mathlib.Data.List.Pairwise

/-! # Distinct rows

Rows with a key, of which several may share one. Keeping the first row of each
key, in whatever order the rows are, answers a search for a key as the rows
themselves do; and of rows sorted latest first within their key, that is the
latest row of the key.
-/

namespace Relational

variable {Row Key Stamp : Type} [DecidableEq Key]

/-- The rows but for those whose key a row before them has, or `seen` does. -/
def distinctFrom (key : Row → Key) (seen : List Key) : List Row → List Row
  | [] => []
  | row :: rest =>
      if key row ∈ seen then distinctFrom key seen rest
      else row :: distinctFrom key (key row :: seen) rest

/-- The first row of each key. -/
def distinctOn (key : Row → Key) (rows : List Row) : List Row :=
  distinctFrom key [] rows

section Distinct

variable {key : Row → Key}

theorem find?_distinctFrom {wanted : Key} {seen : List Key} (rows : List Row)
    (hwanted : wanted ∉ seen) :
    (distinctFrom key seen rows).find? (fun row => key row = wanted) =
      rows.find? fun row => key row = wanted := by
  induction rows generalizing seen with
  | nil => rfl
  | cons row rest ih =>
      unfold distinctFrom
      by_cases hseen : key row ∈ seen
      · -- A row passed over has a key that was seen, so it is not the one wanted.
        have hne : key row ≠ wanted := by
          intro heq
          exact hwanted (heq ▸ hseen)
        simp [hseen, hne, ih hwanted]
      · by_cases heq : key row = wanted
        · rw [if_neg hseen]
          simp [heq]
        · have hfresh : wanted ∉ key row :: seen := by
            simp [hwanted, Ne.symm heq]
          simp [hseen, heq, ih hfresh]

/-- Searching the first rows for a key finds what searching all rows finds. -/
theorem find?_distinctOn (rows : List Row) (wanted : Key) :
    (distinctOn key rows).find? (fun row => key row = wanted) =
      rows.find? fun row => key row = wanted := by
  apply find?_distinctFrom
  simp

theorem distinctFrom_fresh {seen : List Key} {rows : List Row} :
    ∀ row ∈ distinctFrom key seen rows, key row ∉ seen := by
  induction rows generalizing seen with
  | nil => simp [distinctFrom]
  | cons row rest ih =>
      intro other hother
      unfold distinctFrom at hother
      split at hother
      next => exact ih other hother
      next hseen =>
        cases List.mem_cons.mp hother with
        | inl heq => rwa [heq]
        | inr hrest =>
            have hfresh := ih other hrest
            simp only [List.mem_cons, not_or] at hfresh
            exact hfresh.2

/-- No two of the first rows have one key. -/
theorem pairwise_distinctFrom (seen : List Key) (rows : List Row) :
    (distinctFrom key seen rows).Pairwise fun first second => key first ≠ key second := by
  induction rows generalizing seen with
  | nil => simp [distinctFrom]
  | cons row rest ih =>
      unfold distinctFrom
      split
      · exact ih seen
      · rw [List.pairwise_cons]
        constructor
        · intro other hother heq
          have hfresh := distinctFrom_fresh other hother
          exact hfresh (by simp [heq])
        · exact ih _

theorem mem_of_mem_distinctFrom {seen : List Key} {rows : List Row} {row : Row}
    (hrow : row ∈ distinctFrom key seen rows) : row ∈ rows := by
  induction rows generalizing seen with
  | nil => simp [distinctFrom] at hrow
  | cons first rest ih =>
      unfold distinctFrom at hrow
      split at hrow
      next => exact List.mem_cons_of_mem _ (ih hrow)
      next =>
        cases List.mem_cons.mp hrow with
        | inl heq => simp [heq]
        | inr hrest => exact List.mem_cons_of_mem _ (ih hrest)

end Distinct

/-- Where at most one row has a key, the search for it may go either way. -/
theorem find?_reverse {p : Row → Bool} {rows : List Row}
    (hrows : rows.Pairwise fun first second => ¬ (p first = true ∧ p second = true)) :
    rows.reverse.find? p = rows.find? p := by
  induction rows with
  | nil => rfl
  | cons row rest ih =>
      rw [List.pairwise_cons] at hrows
      rw [List.reverse_cons, List.find?_append, ih hrows.2]
      by_cases hp : p row = true
      · have hrest : rest.find? p = none := by
          rw [List.find?_eq_none]
          intro other hother hpother
          exact hrows.1 other hother ⟨hp, hpother⟩
        simp [hrest, hp]
      · simp [hp]

section Latest

variable [LE Stamp]

/-- A search for a key has found a latest row of those with the key, or that
there is none. -/
def FindsLatest (key : Row → Key) (stamp : Row → Stamp) (rows : List Row) (wanted : Key) :
    Option Row → Prop
  | some row => row ∈ rows ∧ key row = wanted ∧
      ∀ other ∈ rows, key other = wanted → stamp other ≤ stamp row
  | none => ∀ row ∈ rows, key row ≠ wanted

variable {key : Row → Key} {stamp : Row → Stamp} {rows : List Row} {wanted : Key}

/-- Of rows sorted latest first within their key, the first with the key is a
latest one. -/
theorem findsLatest_of_sorted {sorted : List Row} (hrefl : ∀ time : Stamp, time ≤ time)
    (hperm : sorted.Perm rows)
    (hsorted : sorted.Pairwise fun first second =>
      key first = key second → stamp second ≤ stamp first) :
    FindsLatest key stamp rows wanted (sorted.find? fun row => key row = wanted) := by
  cases hfind : sorted.find? fun row => key row = wanted with
  | none =>
      intro row hrow
      have hnone := List.find?_eq_none.mp hfind row (hperm.mem_iff.mpr hrow)
      simpa using hnone
  | some row =>
      rw [List.find?_eq_some_iff_append] at hfind
      obtain ⟨hkey, before, after, heq, hbefore⟩ := hfind
      simp only [decide_eq_true_eq] at hkey
      subst heq
      refine ⟨hperm.mem_iff.mp (by simp), hkey, fun other hother hwanted => ?_⟩
      have hmem := hperm.mem_iff.mpr hother
      rw [List.mem_append, List.mem_cons] at hmem
      obtain hmem | rfl | hmem := hmem
      · -- No row before the first with the key has it.
        have hne := hbefore other hmem
        simp [hwanted] at hne
      · exact hrefl _
      · rw [List.pairwise_append, List.pairwise_cons] at hsorted
        exact hsorted.2.1.1 other hmem (hkey.trans hwanted.symm)

omit [DecidableEq Key] in
/-- A selection that leaves out no row with the key does not matter. -/
theorem FindsLatest.of_filter (select : Row → Bool) {answer : Option Row}
    (hselect : ∀ row ∈ rows, key row = wanted → select row = true)
    (hfinds : FindsLatest key stamp (rows.filter select) wanted answer) :
    FindsLatest key stamp rows wanted answer := by
  cases answer with
  | none =>
      intro row hrow hkey
      exact hfinds row (List.mem_filter.mpr ⟨hrow, hselect row hrow hkey⟩) hkey
  | some row =>
      obtain ⟨hmem, hkey, hlatest⟩ := hfinds
      refine ⟨(List.mem_filter.mp hmem).1, hkey, fun other hother hwanted => ?_⟩
      exact hlatest other (List.mem_filter.mpr ⟨hother, hselect other hother hwanted⟩) hwanted

omit [DecidableEq Key] in
/-- Where no two rows of a key share their time, there is one answer. -/
theorem FindsLatest.unique {first second : Option Row}
    (hfirst : FindsLatest key stamp rows wanted first)
    (hsecond : FindsLatest key stamp rows wanted second)
    (hantisymm : ∀ {early late : Stamp}, early ≤ late → late ≤ early → early = late)
    (hrows : ∀ row ∈ rows, ∀ other ∈ rows, key row = wanted → key other = wanted →
      stamp row = stamp other → row = other) :
    first = second := by
  cases first with
  | none =>
      cases second with
      | none => rfl
      | some row => exact absurd hsecond.2.1 (hfirst row hsecond.1)
  | some row =>
      cases second with
      | none => exact absurd hfirst.2.1 (hsecond row hfirst.1)
      | some other =>
          congr 1
          apply hrows row hfirst.1 other hsecond.1 hfirst.2.1 hsecond.2.1
          apply hantisymm
          · exact hsecond.2.2 row hfirst.1 hfirst.2.1
          · exact hfirst.2.2 other hsecond.1 hsecond.2.1

end Latest

section Firsts

variable {Item : Type} [DecidableEq Item]

/-- An item is added where it is not there yet. -/
def addNew (seen : List Item) (item : Item) : List Item :=
  if item ∈ seen then seen else seen ++ [item]

/-- Adding the items one by one keeps the first of each, in order. -/
theorem foldl_addNew (items : List Item) : items.foldl addNew [] = items.eraseDups := by
  have hgeneral : ∀ before : List Item,
      items.foldl addNew before.eraseDups = (before ++ items).eraseDups := by
    induction items with
    | nil => simp
    | cons item rest ih =>
        intro before
        have hadd : addNew before.eraseDups item = (before ++ [item]).eraseDups := by
          rw [List.eraseDups_append, addNew]
          by_cases hmem : item ∈ before <;> simp [hmem, List.removeAll, List.eraseDups_cons]
        rw [List.foldl_cons, hadd, ih, List.append_assoc, List.singleton_append]
  simpa using hgeneral []

theorem nodup_eraseDups (items : List Item) : items.eraseDups.Nodup := by
  rw [← foldl_addNew]
  have hgeneral : ∀ seen : List Item, seen.Nodup → (items.foldl addNew seen).Nodup := by
    induction items with
    | nil => exact fun seen hseen => hseen
    | cons item rest ih =>
        intro seen hseen
        apply ih
        unfold addNew
        by_cases hmem : item ∈ seen
        · simpa [hmem] using hseen
        · simp only [hmem, if_false]
          rw [List.nodup_append]
          refine ⟨hseen, by simp, ?_⟩
          intro first hfirst second hsecond heq
          simp only [List.mem_singleton] at hsecond
          exact hmem (hsecond ▸ heq ▸ hfirst)
  exact hgeneral [] (by simp)

end Firsts

end Relational
