import Mathlib.Data.List.TakeWhile

/-! # Where a request goes

The text of a relative URL in its parts, and the path that the request arrives
with: what the client and the server make of a path on the way is up to a
transport, which keeps literal segments as they are.
-/

namespace Url

structure Reference where
  path : List Char
  query : Option (List Char)
  fragment : Option (List Char)

/-- The text up to its fragment, and that up to its query. -/
def parse (text : List Char) : Reference :=
  let target := text.takeWhile (· ≠ '#')
  { path := target.takeWhile (· ≠ '?')
    query := (target.dropWhile (· ≠ '?')).tail?
    fragment := (text.dropWhile (· ≠ '#')).tail? }

/-- The segments of the path. -/
def segments (text : String) : List String :=
  match (parse text.toList).path with
  | '/' :: path => (path.splitOn '/').map String.ofList
  | path => (path.splitOn '/').map String.ofList

/-- The absolute path with these segments. -/
def absolute (parts : List String) : List Char :=
  '/' :: ['/'].intercalate (parts.map String.toList)

/-- A text that no separator of a URL occurs in. -/
def Unseparated (text : List Char) : Prop :=
  '/' ∉ text ∧ '?' ∉ text ∧ '#' ∉ text

instance (text : List Char) : Decidable (Unseparated text) :=
  inferInstanceAs (Decidable (_ ∧ _))

theorem takeWhile_ne {char : Char} {text : List Char} (hchar : char ∉ text) :
    text.takeWhile (· ≠ char) = text := by
  rw [List.takeWhile_eq_self_iff]
  intro other hother
  rw [decide_eq_true_eq]
  intro heq
  exact hchar (heq ▸ hother)

theorem parse_path {text : List Char} (hquery : '?' ∉ text) (hfragment : '#' ∉ text) :
    (parse text).path = text := by
  simp only [parse]
  rw [takeWhile_ne hfragment, takeWhile_ne hquery]

theorem not_mem_absolute {char : Char} (hchar : char ≠ '/') {parts : List String}
    (hparts : ∀ part ∈ parts, char ∉ part.toList) : char ∉ absolute parts := by
  rw [absolute, List.mem_cons, not_or]
  refine ⟨hchar, ?_⟩
  induction parts with
  | nil => simp
  | cons part rest ih =>
      obtain ⟨hpart, hrest⟩ := List.forall_mem_cons.mp hparts
      cases rest with
      | nil => simpa using hpart
      | cons next rest =>
          have hjoined := ih hrest
          simp only [List.map_cons, List.intercalate_cons_cons, List.mem_append] at hjoined ⊢
          simp only [List.mem_singleton, not_or]
          exact ⟨⟨hpart, hchar⟩, hjoined⟩

/-- Segments without separators are read back as they were joined. -/
theorem segments_absolute {text : String} {parts : List String}
    (htext : text.toList = absolute parts)
    (hsome : parts ≠ []) (hparts : ∀ part ∈ parts, Unseparated part.toList) :
    segments text = parts := by
  have hquery : '?' ∉ absolute parts :=
    not_mem_absolute (by decide) fun part hpart => (hparts part hpart).2.1
  have hfragment : '#' ∉ absolute parts :=
    not_mem_absolute (by decide) fun part hpart => (hparts part hpart).2.2
  rw [segments, htext, parse_path hquery hfragment]
  simp only [absolute]
  rw [List.splitOn_intercalate]
  · simp
  · intro letters hletters
    obtain ⟨part, hpart, rfl⟩ := List.mem_map.mp hletters
    exact (hparts part hpart).1
  · simpa using hsome

/-! ## Transport -/

structure Transport where
  /-- Whether the client takes the text for a URL at all. -/
  accepts : String → Bool
  arrives : List String → List String

/-- The path that a request for the URL arrives with, if it is sent. -/
def Transport.address (transport : Transport) (text : String) : Option (List String) :=
  if transport.accepts text then some (transport.arrives (segments text)) else none

/-- A segment that is neither escaped nor relative. -/
def Literal (segment : String) : Prop :=
  '%' ∉ segment.toList ∧ segment ≠ "." ∧ segment ≠ ".."

instance (segment : String) : Decidable (Literal segment) :=
  inferInstanceAs (Decidable (_ ∧ _))

/-- What any transport does: short texts of visible characters are URLs; segments
arrive as they are, except that an escape stands for its character and dots are
followed. -/
structure Transport.Standard (transport : Transport) : Prop where
  accepts : ∀ text, text.length ≤ 1000 → (∀ char ∈ text.toList, '!' ≤ char ∧ char ≤ '~') →
    transport.accepts text = true
  literal : ∀ parts, (∀ part ∈ parts, Literal part) → transport.arrives parts = parts
  escape : ∀ before after,
    transport.arrives (before ++ "%41" :: after) = transport.arrives (before ++ "A" :: after)
  here : ∀ before next after, transport.arrives (before ++ "." :: next :: after) =
    transport.arrives (before ++ next :: after)
  up : ∀ before part next after, Literal part →
    transport.arrives (before ++ part :: ".." :: next :: after) =
      transport.arrives (before ++ next :: after)

/-- Follow the dots of a path, given the segments so far, the last one first. -/
def removeDots : List String → List String → List String
  | kept, [] => kept.reverse
  | kept, part :: rest =>
      if part = "." then removeDots kept rest
      else if part = ".." then removeDots kept.tail rest
      else removeDots (part :: kept) rest

def hexValue (char : Char) : Option Nat :=
  if char.isDigit then some (char.toNat - '0'.toNat)
  else if 'A' ≤ char ∧ char ≤ 'F' then some (char.toNat - 'A'.toNat + 10)
  else if 'a' ≤ char ∧ char ≤ 'f' then some (char.toNat - 'a'.toNat + 10)
  else none

/-- The escapes read as their characters. -/
def unescape : List Char → List Char
  | '%' :: high :: low :: rest =>
      match hexValue high, hexValue low with
      | some high, some low => Char.ofNat (16 * high + low) :: unescape rest
      | _, _ => '%' :: unescape (high :: low :: rest)
  | char :: rest => char :: unescape rest
  | [] => []

/-- Dots are removed before a request is sent, and escapes are read when it arrives. -/
def plainTransport : Transport where
  accepts text := decide (text.length ≤ 65536) && text.toList.all fun char => ' ' ≤ char
  arrives parts := (removeDots [] parts).map fun part => String.ofList (unescape part.toList)

theorem unescape_of_literal {text : List Char} (htext : '%' ∉ text) : unescape text = text := by
  fun_induction unescape text with
  | case1 | case2 => simp at htext
  | case3 char rest _ ih =>
      rw [ih]
      intro hrest
      exact htext (List.mem_cons_of_mem char hrest)
  | case4 => rfl

theorem removeDots_of_literal (kept : List String) {parts : List String}
    (hparts : ∀ part ∈ parts, Literal part) : removeDots kept parts = kept.reverse ++ parts := by
  induction parts generalizing kept with
  | nil => simp [removeDots]
  | cons part rest ih =>
      obtain ⟨⟨-, hhere, hup⟩, hrest⟩ := List.forall_mem_cons.mp hparts
      rw [removeDots, if_neg hhere, if_neg hup, ih _ hrest]
      simp

/-- Segments that read the same may be exchanged before dots are followed. -/
theorem map_removeDots_congr {α : Type} (read : String → α) (parts : List String)
    {kept other : List String} (hkept : kept.map read = other.map read) :
    (removeDots kept parts).map read = (removeDots other parts).map read := by
  induction parts generalizing kept other with
  | nil => simp [removeDots, hkept]
  | cons part rest ih =>
      rw [removeDots, removeDots]
      split
      · exact ih hkept
      · split
        · apply ih
          rw [List.map_tail, List.map_tail, hkept]
        · apply ih
          rw [List.map_cons, List.map_cons, hkept]

theorem removeDots_append (kept before : List String) :
    ∃ other, ∀ after, removeDots kept (before ++ after) = removeDots other after := by
  induction before generalizing kept with
  | nil => exact ⟨kept, fun _ => rfl⟩
  | cons part rest ih =>
      by_cases hhere : part = "."
      · obtain ⟨other, hother⟩ := ih kept
        refine ⟨other, fun after => ?_⟩
        rw [List.cons_append, removeDots, if_pos hhere, hother]
      · by_cases hup : part = ".."
        · obtain ⟨other, hother⟩ := ih kept.tail
          refine ⟨other, fun after => ?_⟩
          rw [List.cons_append, removeDots, if_neg hhere, if_pos hup, hother]
        · obtain ⟨other, hother⟩ := ih (part :: kept)
          refine ⟨other, fun after => ?_⟩
          rw [List.cons_append, removeDots, if_neg hhere, if_neg hup, hother]

theorem plainTransport_standard : plainTransport.Standard where
  accepts text hlength hchars := by
    simp only [plainTransport, Bool.and_eq_true, decide_eq_true_eq, List.all_eq_true]
    refine ⟨by omega, ?_⟩
    intro char hchar
    exact Char.le_trans (by decide) (hchars char hchar).1
  literal parts hparts := by
    simp only [plainTransport]
    rw [removeDots_of_literal [] hparts]
    calc parts.map (fun part => String.ofList (unescape part.toList))
        = parts.map id := by
          apply List.map_congr_left
          intro part hpart
          rw [unescape_of_literal (hparts part hpart).1, String.ofList_toList, id]
      _ = parts := List.map_id parts
  escape before after := by
    obtain ⟨kept, hkept⟩ := removeDots_append [] before
    simp only [plainTransport, hkept]
    have hread : String.ofList (unescape "%41".toList) = String.ofList (unescape "A".toList) := by
      decide
    exact map_removeDots_congr (fun part => String.ofList (unescape part.toList)) after
      (congrArg (· :: kept.map _) hread)
  here before next after := by
    obtain ⟨kept, hkept⟩ := removeDots_append [] before
    simp only [plainTransport, hkept]
    rfl
  up before part next after hpart := by
    obtain ⟨kept, hkept⟩ := removeDots_append [] before
    simp only [plainTransport, hkept]
    rw [removeDots, if_neg hpart.2.1, if_neg hpart.2.2]
    rfl

end Url
