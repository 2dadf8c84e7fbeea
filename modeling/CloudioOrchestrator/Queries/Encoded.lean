import Mathlib.Data.List.Basic

/-! # Encoded queries

A query as one text: conditions joined by `^`, all of which have to hold, where
what is joined by `^OR` is an alternative to the condition before it. What a
single condition says of a row is up to a dialect.
-/

namespace EncodedQuery

/-- Gather the alternatives of each condition, given those of the first one so far. -/
def alternatives (group : List (List Char)) : List (List Char) → List (List (List Char))
  | [] => [group]
  | ('O' :: 'R' :: condition) :: rest => alternatives (group ++ [condition]) rest
  | condition :: rest => group :: alternatives [condition] rest

/-- The conditions of a query, each with its alternatives. -/
def conditions (query : String) : List (List String) :=
  match query.toList.splitOn '^' with
  | [] => []
  | first :: rest => (alternatives [first] rest).map fun group => group.map String.ofList

variable {Row : Type}

/-- Whether a single condition holds of a row. -/
abbrev Dialect (Row : Type) := String → Row → Bool

def Dialect.selects (dialect : Dialect Row) (query : String) (row : Row) : Bool :=
  (conditions query).all fun group => group.any fun condition => dialect condition row

/-- The first row selected. -/
def Dialect.first (dialect : Dialect Row) (query : String) (rows : List Row) : Option Row :=
  rows.find? (dialect.selects query)

theorem conditions_of_plain {query : String} (hplain : '^' ∉ query.toList) :
    conditions query = [[query]] := by
  rw [conditions, List.splitOn_eq_singleton hplain]
  simp [alternatives]

/-- A text without the joining character is one condition. -/
theorem selects_of_plain (dialect : Dialect Row) {query : String} (hplain : '^' ∉ query.toList)
    (row : Row) : dialect.selects query row = dialect query row := by
  simp [Dialect.selects, conditions_of_plain hplain]

/-! ## Comparing a column with a text -/

/-- The characters that names of columns are made of, and no operator starts with. -/
def isColumnChar (char : Char) : Bool :=
  char.isLower || char.isDigit || char == '_' || char == '.'

structure Column where
  name : String
  wellFormed : ∀ char ∈ name.toList, isColumnChar char = true

/-- The column compared with the text, as one condition. -/
def Column.equals (column : Column) (text : String) : String :=
  column.name ++ "=" ++ text

theorem Column.toList_equals (column : Column) (text : String) :
    (column.equals text).toList = column.name.toList ++ '=' :: text.toList := by
  simp [Column.equals]

/-- Comparing a column with a text that has no joining character makes one condition. -/
theorem Column.plain_equals (column : Column) {text : String} (htext : '^' ∉ text.toList) :
    '^' ∉ (column.equals text).toList := by
  rw [column.toList_equals, List.mem_append, List.mem_cons]
  rintro (hname | heq | hmem)
  · exact absurd (column.wellFormed '^' hname) (by decide)
  · cases heq
  · exact htext hmem

/-- The dialect knows equality: the column is the text, exactly. -/
def Dialect.Compares (dialect : Dialect Row) (value : Row → String → String) : Prop :=
  ∀ (column : Column) (text : String) (row : Row), '^' ∉ text.toList →
    (dialect (column.equals text) row = true ↔ value row column.name = text)

section Compares

variable {dialect : Dialect Row} {value : Row → String → String}

theorem Dialect.Compares.selects (hdialect : dialect.Compares value) (column : Column)
    {text : String} (htext : '^' ∉ text.toList) (row : Row) :
    dialect.selects (column.equals text) row = true ↔ value row column.name = text := by
  rw [selects_of_plain dialect (column.plain_equals htext)]
  exact hdialect column text row htext

theorem Dialect.Compares.first (hdialect : dialect.Compares value) (column : Column)
    {text : String} (htext : '^' ∉ text.toList) (rows : List Row) :
    dialect.first (column.equals text) rows =
      rows.find? fun row => value row column.name = text := by
  rw [Dialect.first]
  congr 1
  funext row
  rw [Bool.eq_iff_iff, hdialect.selects column htext row]
  simp

end Compares

/-- A dialect with equality and inequality, in which anything else holds of every row. -/
def plainly (value : Row → String → String) : Dialect Row := fun condition row =>
  let name := String.ofList (condition.toList.takeWhile isColumnChar)
  match condition.toList.dropWhile isColumnChar with
  | '=' :: text => value row name = String.ofList text
  | '!' :: '=' :: text => value row name ≠ String.ofList text
  | _ => true

theorem not_isColumnChar_eq : ¬ isColumnChar '=' = true := by
  decide

theorem plainly_compares (value : Row → String → String) : (plainly value).Compares value := by
  intro column text row _
  have hname : (column.equals text).toList.takeWhile isColumnChar = column.name.toList := by
    rw [column.toList_equals, List.takeWhile_append_of_pos column.wellFormed]
    simp [not_isColumnChar_eq]
  have hrest : (column.equals text).toList.dropWhile isColumnChar = '=' :: text.toList := by
    rw [column.toList_equals, List.dropWhile_append_of_pos column.wellFormed]
    simp [not_isColumnChar_eq]
  simp [plainly, hname, hrest]

end EncodedQuery
