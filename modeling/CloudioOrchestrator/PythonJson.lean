import CloudioOrchestrator.Airflow

/-! # JSON text as Python reads it

`json.loads`, with the errors that its callers do and do not catch, and `repr`,
which is what `str` makes of a dictionary. Characters become tokens one at a
time; tokens are parsed against the containers still open.
-/

namespace CloudioOrchestrator

/-- What the text forms depend on beside the language: the Unicode database,
floating point, and how deep the interpreter recurses. -/
structure PythonBuild where
  /-- `char.isprintable()`, of what is not ASCII. -/
  printable : Char → Bool
  /-- How a float literal prints once it is read, and whether it is other than zero. -/
  float : String → String × Bool
  recursionLimit : Nat

/-- What `json.loads` raises. The first alone is a `JSONDecodeError`. -/
inductive LoadsError
  | decode
  | tooManyDigits
  | tooDeep
deriving DecidableEq, Repr

inductive JsonToken
  | openBrace
  | closeBrace
  | openBracket
  | closeBracket
  | comma
  | colon
  | string (text : String)
  | scalar (value : JsonValue)
  /-- An integer of more digits than are converted. -/
  | huge
  /-- Nothing that JSON knows. -/
  | bad

/-! ## Printing -/

def hexDigits : Nat → Nat → List Char
  | 0, _ => []
  | width + 1, value => hexDigits width (value / 16) ++ [Nat.digitChar (value % 16)]

namespace PythonBuild

variable (python : PythonBuild)

def isPrintable (char : Char) : Bool :=
  if char.toNat < 0x80 then 0x20 ≤ char.toNat && char.toNat ≠ 0x7f else python.printable char

/-- A character of a literal between the given quotes. -/
def escaped (quote char : Char) : List Char :=
  if char = quote ∨ char = '\\' then ['\\', char]
  else if char = '\t' then ['\\', 't']
  else if char = '\n' then ['\\', 'n']
  else if char = '\r' then ['\\', 'r']
  else if python.isPrintable char then [char]
  else if char.toNat ≤ 0xff then '\\' :: 'x' :: hexDigits 2 char.toNat
  else if char.toNat ≤ 0xffff then '\\' :: 'u' :: hexDigits 4 char.toNat
  else '\\' :: 'U' :: hexDigits 8 char.toNat

/-- Single quotes, unless that spares escaping one. -/
def quoteOf (text : String) : Char :=
  if '\'' ∈ text.toList ∧ '"' ∉ text.toList then '"' else '\''

/-- `repr` of a text. -/
def reprText (text : String) : List Char :=
  quoteOf text :: text.toList.flatMap (python.escaped (quoteOf text)) ++ [quoteOf text]

mutual

/-- `repr` of a value. -/
def repr : JsonValue → List Char
  | .null => "None".toList
  | .string text => python.reprText text
  | .object entries => '{' :: reprEntries entries ++ ['}']
  | .other text _ => text.toList

def reprEntries : List (String × JsonValue) → List Char
  | [] => []
  | (key, value) :: [] => python.reprText key ++ ':' :: ' ' :: repr value
  | (key, value) :: next :: rest =>
      python.reprText key ++ ':' :: ' ' :: repr value ++ ',' :: ' ' :: reprEntries (next :: rest)

end

/-- `str(value)`. -/
def str : JsonValue → String
  | .string text => text
  | value => String.ofList (python.repr value)

/-! ## Tokens -/

/-- Code points, of which two escaped surrogates may make up one. A surrogate on
its own is no character, and is replaced. -/
def decodeUnits : List Nat → List Char
  | high :: low :: rest =>
      if (0xd800 ≤ high ∧ high < 0xdc00) ∧ (0xdc00 ≤ low ∧ low < 0xe000) then
        Char.ofNat (0x10000 + (high - 0xd800) * 0x400 + (low - 0xdc00)) :: decodeUnits rest
      else (if high.isValidChar then Char.ofNat high else '\uFFFD') :: decodeUnits (low :: rest)
  | [unit] => [if unit.isValidChar then Char.ofNat unit else '\uFFFD']
  | [] => []

/-- The code point that follows a backslash in a text, but for `u`. -/
def escapeUnit : Char → Option Nat
  | '"' => some 0x22
  | '\\' => some 0x5c
  | '/' => some 0x2f
  | 'b' => some 0x08
  | 'f' => some 0x0c
  | 'n' => some 0x0a
  | 'r' => some 0x0d
  | 't' => some 0x09
  | _ => none

def hexValue (char : Char) : Option Nat :=
  if '0' ≤ char ∧ char ≤ '9' then some (char.toNat - 0x30)
  else if 'a' ≤ char ∧ char ≤ 'f' then some (char.toNat - 0x61 + 10)
  else if 'A' ≤ char ∧ char ≤ 'F' then some (char.toNat - 0x41 + 10)
  else none

def isDigit (char : Char) : Bool :=
  '0' ≤ char && char ≤ '9'

/-- The fraction at the head of the text, and the rest. -/
def fraction : List Char → List Char × List Char
  | '.' :: digit :: rest =>
      if isDigit digit then
        ('.' :: (digit :: rest).takeWhile isDigit, (digit :: rest).dropWhile isDigit)
      else ([], '.' :: digit :: rest)
  | rest => ([], rest)

/-- The exponent at the head of the text, and the rest. -/
def exponent (chars : List Char) : List Char × List Char :=
  match chars with
  | mark :: rest =>
      let (sign, digits) := match rest with
        | '+' :: digits => (['+'], digits)
        | '-' :: digits => (['-'], digits)
        | digits => ([], digits)
      if (mark = 'e' ∨ mark = 'E') ∧ digits.takeWhile isDigit ≠ [] then
        (mark :: sign ++ digits.takeWhile isDigit, digits.dropWhile isDigit)
      else ([], chars)
  | [] => ([], [])

/-- `int(text)`, of a text that is one. -/
def integer (sign digits : List Char) : JsonToken :=
  if 4300 < digits.length then .huge
  else if digits = ['0'] then .scalar (.other "0" false)
  else .scalar (.other (String.ofList (sign ++ digits)) true)

/-- The number at the head of the text, as much of it as there is. -/
def number (chars : List Char) : Option (JsonToken × List Char) :=
  let (sign, unsigned) := match chars with
    | '-' :: unsigned => (['-'], unsigned)
    | unsigned => ([], unsigned)
  let (digits, rest) := match unsigned with
    | '0' :: rest => (['0'], rest)
    | unsigned => (unsigned.takeWhile isDigit, unsigned.dropWhile isDigit)
  if digits = [] then none
  else
    let (decimals, rest') := fraction rest
    let (power, rest'') := exponent rest'
    if decimals ++ power = [] then some (integer sign digits, rest)
    else
      let (text, truth) := python.float (String.ofList (sign ++ digits ++ decimals ++ power))
      some (.scalar (.other text truth), rest'')

def literals : List (String × JsonValue) :=
  [("null", .null), ("true", .other "True" true), ("false", .other "False" false),
    ("NaN", .other "nan" true), ("Infinity", .other "inf" true), ("-Infinity", .other "-inf" true)]

/-- A run of characters that are neither quoted nor punctuation: a value at its
head, or none; whatever follows that has no place there. -/
def wordTokens (word : List Char) : List JsonToken :=
  let found := match literals.find? fun (name, _) => name.toList.isPrefixOf word with
    | some (name, value) => some (JsonToken.scalar value, word.drop name.length)
    | none => python.number word
  match found with
  | some (token, []) => [token]
  | some (token, _ :: _) => [token, .bad]
  | none => [.bad]

/-- Where the lexer stands within a token; what it has collected of it is reversed. -/
inductive LexState
  | between
  | text (units : List Nat)
  | escape (units : List Nat)
  | hex (units : List Nat) (value digits : Nat)
  | word (chars : List Char)

def isBlank (char : Char) : Bool :=
  char = ' ' || char = '\t' || char = '\n' || char = '\r'

def punctuation : Char → Option JsonToken
  | '{' => some .openBrace
  | '}' => some .closeBrace
  | '[' => some .openBracket
  | ']' => some .closeBracket
  | ',' => some .comma
  | ':' => some .colon
  | _ => none

/-- A character outside of every token. -/
def begin (char : Char) : List JsonToken × LexState :=
  match punctuation char with
  | some token => ([token], .between)
  | none =>
      if char = '"' then ([], .text [])
      else if isBlank char then ([], .between)
      else ([], .word [char])

def lexStep : LexState → Char → List JsonToken × LexState
  | .between, char => begin char
  | .text units, char =>
      if char = '"' then ([.string (String.ofList (decodeUnits units.reverse))], .between)
      else if char = '\\' then ([], .escape units)
      else if char.toNat ≤ 0x1f then ([.bad], .between)
      else ([], .text (char.toNat :: units))
  | .escape units, char =>
      if char = 'u' then ([], .hex units 0 0)
      else match escapeUnit char with
        | some unit => ([], .text (unit :: units))
        | none => ([.bad], .between)
  | .hex units value digits, char =>
      match hexValue char with
      | none => ([.bad], .between)
      | some digit =>
          if digits = 3 then ([], .text ((value * 16 + digit) :: units))
          else ([], .hex units (value * 16 + digit) (digits + 1))
  | .word chars, char =>
      if punctuation char = none ∧
        char ≠ '"' ∧ isBlank char = false then ([], .word (char :: chars))
      else (python.wordTokens chars.reverse ++ (begin char).1, (begin char).2)

def lex : LexState → List Char → List JsonToken
  | .between, [] => []
  | .word chars, [] => python.wordTokens chars.reverse
  | .text _, [] | .escape _, [] | .hex .., [] => [.bad]
  | state, char :: rest => (python.lexStep state char).1 ++ lex (python.lexStep state char).2 rest

/-! ## Values -/

/-- A container that is still open: an array with its elements so far, the last
first, or an object with its entries so far and the key of the next. -/
inductive JsonFrame
  | array (elements : List JsonValue)
  | object (entries : List (String × JsonValue)) (key : String)

/-- What the parser is to find next. -/
inductive JsonGoal
  | value
  /-- The first element of an array, or its end. -/
  | element
  /-- A key; where the object has no entry yet, or its end. -/
  | key (entries : List (String × JsonValue)) (fresh : Bool)
  | colon (entries : List (String × JsonValue)) (key : String)
  /-- What follows a value. -/
  | rest (value : JsonValue)

/-- `entries[key] = value`. -/
def setEntry (entries : List (String × JsonValue)) (key : String) (value : JsonValue) :
    List (String × JsonValue) :=
  if entries.any fun entry => entry.1 = key then
    entries.map fun entry => if entry.1 = key then (key, value) else entry
  else entries ++ [(key, value)]

/-- A list, whose elements are given last first. -/
def listValue (elements : List JsonValue) : JsonValue :=
  .other (String.ofList ('[' :: List.intercalate [',', ' '] (elements.reverse.map python.repr) ++
    [']'])) (!elements.isEmpty)

def parse : JsonGoal → List JsonFrame → List JsonToken → Except LoadsError JsonValue
  | .rest value, [], [] => .ok value
  | .rest value, .array elements :: frames, .comma :: tokens =>
      parse .value (.array (value :: elements) :: frames) tokens
  | .rest value, .array elements :: frames, .closeBracket :: tokens =>
      parse (.rest (python.listValue (value :: elements))) frames tokens
  | .rest value, .object entries key :: frames, .comma :: tokens =>
      parse (.key (setEntry entries key value) false) frames tokens
  | .rest value, .object entries key :: frames, .closeBrace :: tokens =>
      parse (.rest (.object (setEntry entries key value))) frames tokens
  | .element, .array [] :: frames, .closeBracket :: tokens =>
      parse (.rest (python.listValue [])) frames tokens
  | .key entries _, frames, .string text :: tokens => parse (.colon entries text) frames tokens
  | .key entries true, frames, .closeBrace :: tokens =>
      parse (.rest (.object entries)) frames tokens
  | .colon entries key, frames, .colon :: tokens =>
      parse .value (.object entries key :: frames) tokens
  | .value, frames, .string text :: tokens | .element, frames, .string text :: tokens =>
      parse (.rest (.string text)) frames tokens
  | .value, frames, .scalar value :: tokens | .element, frames, .scalar value :: tokens =>
      parse (.rest value) frames tokens
  | .value, _, .huge :: _ | .element, _, .huge :: _ => .error .tooManyDigits
  | .value, frames, .openBrace :: tokens | .element, frames, .openBrace :: tokens =>
      if frames.length ≤ python.recursionLimit then parse (.key [] true) frames tokens
      else .error .tooDeep
  | .value, frames, .openBracket :: tokens | .element, frames, .openBracket :: tokens =>
      if frames.length ≤ python.recursionLimit then parse .element (.array [] :: frames) tokens
      else .error .tooDeep
  | _, _, _ => .error .decode

/-- `json.loads(text)`. -/
def loads (text : String) : Except LoadsError JsonValue :=
  python.parse .value [] (python.lex .between text.toList)

/-! ## What is printed, read again -/

/-- A character that reads the same after it was printed between double quotes. -/
def Survives (char : Char) : Prop :=
  char ∈ ['\\', '\t', '\n', '\r'] ∨ python.isPrintable char = true ∨
    0xff < char.toNat ∧ char.toNat ≤ 0xffff

/-- A text that prints between double quotes, and reads the same. -/
def Rereads (text : String) : Prop :=
  '\'' ∈ text.toList ∧ '"' ∉ text.toList ∧ ∀ char ∈ text.toList, python.Survives char

section Reading

variable {python : PythonBuild} {char : Char} {rest : List Char} {units : List Nat}

theorem hexValue_digitChar : ∀ digit < 16, hexValue (Nat.digitChar digit) = some digit := by
  decide

theorem lex_of_step {state : LexState} (tokens : List JsonToken) (next : LexState)
    (hstep : python.lexStep state char = (tokens, next)) :
    python.lex state (char :: rest) = tokens ++ python.lex next rest := by
  have hcons : python.lex state (char :: rest) =
      (python.lexStep state char).1 ++ python.lex (python.lexStep state char).2 rest := by
    cases state <;> rfl
  rw [hcons, hstep]

/-- A character within a token emits nothing. -/
theorem lex_within {state : LexState} (next : LexState)
    (hstep : python.lexStep state char = ([], next)) :
    python.lex state (char :: rest) = python.lex next rest :=
  lex_of_step [] next hstep

theorem lexStep_hex {value digits digit : Nat} (hdigits : digits ≠ 3) :
    python.lexStep (.hex units value digits) (Nat.digitChar (digit % 16)) =
      ([], .hex units (value * 16 + digit % 16) (digits + 1)) := by
  simp [lexStep, hexValue_digitChar _ (Nat.mod_lt digit (by decide : 0 < 16)), hdigits]

/-- Four digits make up the unit they were printed from. -/
theorem lex_hexDigits {value : Nat} (hvalue : value ≤ 0xffff) :
    python.lex (.hex units 0 0) (hexDigits 4 value ++ rest) =
      python.lex (.text (value :: units)) rest := by
  have hlast : python.lexStep (.hex units (((0 * 16 + value / 16 / 16 / 16 % 16) * 16 +
      value / 16 / 16 % 16) * 16 + value / 16 % 16) 3) (Nat.digitChar (value % 16)) =
        ([], .text (value :: units)) := by
    have hdigit := hexValue_digitChar _ (Nat.mod_lt value (by decide : 0 < 16))
    simp only [lexStep, hdigit, if_true]
    congr 4
    omega
  change python.lex (.hex units 0 0) (Nat.digitChar (value / 16 / 16 / 16 % 16) ::
    Nat.digitChar (value / 16 / 16 % 16) :: Nat.digitChar (value / 16 % 16) ::
    Nat.digitChar (value % 16) :: rest) = _
  rw [lex_within _ (lexStep_hex (by decide)), lex_within _ (lexStep_hex (by decide)),
    lex_within _ (lexStep_hex (by decide)), lex_within _ hlast]

/-- A backslash and what may follow it read as the character they were printed for. -/
theorem lex_escape {mark : Char} (hmark : mark ≠ 'u') {unit : Nat}
    (hunit : escapeUnit mark = some unit) :
    python.lex (.text units) ('\\' :: mark :: rest) = python.lex (.text (unit :: units)) rest := by
  have hstep : python.lexStep (.escape units) mark = ([], .text (unit :: units)) := by
    simp [lexStep, hmark, hunit]
  rw [lex_within (.escape units) rfl, lex_within _ hstep]

theorem lex_bad_escape {mark : Char} (hmark : mark ≠ 'u') (hunit : escapeUnit mark = none) :
    python.lex (.text units) ('\\' :: mark :: rest) = .bad :: python.lex .between rest := by
  have hstep : python.lexStep (.escape units) mark = ([.bad], .between) := by
    simp [lexStep, hmark, hunit]
  rw [lex_within (.escape units) rfl, lex_of_step _ _ hstep]
  rfl

theorem not_control_of_isPrintable (hprintable : python.isPrintable char = true) :
    ¬ char.toNat ≤ 0x1f := by
  unfold isPrintable at hprintable
  split at hprintable
  · simp at hprintable
    omega
  · omega

theorem lex_survives (hquote : char ≠ '"') (hsurvives : python.Survives char) :
    python.lex (.text units) (python.escaped '"' char ++ rest) =
      python.lex (.text (char.toNat :: units)) rest := by
  unfold escaped
  by_cases hslash : char = '\\'
  · subst hslash
    exact lex_escape (by decide) rfl
  by_cases htab : char = '\t'
  · subst htab
    exact lex_escape (by decide) rfl
  by_cases hnewline : char = '\n'
  · subst hnewline
    exact lex_escape (by decide) rfl
  by_cases hreturn : char = '\r'
  · subst hreturn
    exact lex_escape (by decide) rfl
  simp only [hquote, hslash, htab, hnewline, hreturn, or_self, if_false]
  by_cases hprintable : python.isPrintable char = true
  · rw [if_pos hprintable]
    apply lex_within
    simp [lexStep, hquote, hslash, not_control_of_isPrintable hprintable]
  · have hrange : 0xff < char.toNat ∧ char.toNat ≤ 0xffff := by
      simpa [Survives, hslash, htab, hnewline, hreturn, hprintable] using hsurvives
    rw [if_neg hprintable, if_neg (by omega), if_pos hrange.2]
    exact (lex_within (.escape units) rfl).trans
      ((lex_within (.hex units 0 0) rfl).trans (lex_hexDigits hrange.2))

theorem lex_not_survives (hquote : char ≠ '"') (hsurvives : ¬ python.Survives char) :
    ∃ tokens, python.lex (.text units) (python.escaped '"' char ++ rest) = .bad :: tokens := by
  simp only [Survives, List.mem_cons, List.not_mem_nil, or_false, not_or, not_and, Nat.not_le]
    at hsurvives
  obtain ⟨⟨hslash, htab, hnewline, hreturn⟩, hprintable, hrange⟩ := hsurvives
  unfold escaped
  simp only [hquote, hslash, htab, hnewline, hreturn, or_self, if_false, hprintable]
  by_cases hbyte : char.toNat ≤ 0xff
  · rw [if_pos hbyte]
    exact ⟨_, lex_bad_escape (by decide) rfl⟩
  · have hbeyond : ¬ char.toNat ≤ 0xffff := Nat.not_le.mpr (hrange (Nat.not_le.mp hbyte))
    rw [if_neg hbyte, if_neg hbeyond]
    exact ⟨_, lex_bad_escape (by decide) rfl⟩

/-- Characters on their own never make up a pair of surrogates. -/
theorem decodeUnits_toNat (chars : List Char) : decodeUnits (chars.map Char.toNat) = chars := by
  have hvalid : ∀ char : Char, char.toNat.isValidChar := fun char => char.valid
  induction chars with
  | nil => rfl
  | cons first later ih =>
      cases later with
      | nil => simp [decodeUnits, hvalid, Char.ofNat_toNat]
      | cons second rest =>
          have hpair : ¬ ((0xd800 ≤ first.toNat ∧ first.toNat < 0xdc00) ∧
              (0xdc00 ≤ second.toNat ∧ second.toNat < 0xe000)) := by
            intro hpair
            have hfirst := hvalid first
            simp only [Nat.isValidChar] at hfirst
            omega
          rw [List.map_cons, List.map_cons, decodeUnits, if_neg hpair, if_pos (hvalid first),
            Char.ofNat_toNat]
          exact congrArg _ ih

/-- The characters of a text between double quotes, up to the closing one. -/
theorem lex_flatMap {chars : List Char} (hquote : '"' ∉ chars)
    (hsurvive : ∀ char ∈ chars, python.Survives char) :
    python.lex (.text units) (chars.flatMap (python.escaped '"') ++ '"' :: rest) =
      .string (String.ofList (decodeUnits (units.reverse ++ chars.map Char.toNat))) ::
        python.lex .between rest := by
  induction chars generalizing units with
  | nil =>
      rw [List.flatMap_nil, List.nil_append, lex_of_step [_] _ rfl]
      simp
  | cons first later ih =>
      rw [List.flatMap_cons, List.append_assoc, lex_survives
        (fun heq => hquote (heq ▸ List.mem_cons_self)) (hsurvive _ List.mem_cons_self),
        ih (fun hmem => hquote (List.mem_cons_of_mem _ hmem))
          (fun char hmem => hsurvive char (List.mem_cons_of_mem _ hmem))]
      simp

theorem lex_flatMap_bad {chars : List Char} (hquote : '"' ∉ chars)
    (hsurvive : ¬ ∀ char ∈ chars, python.Survives char) :
    ∃ tokens, python.lex (.text units) (chars.flatMap (python.escaped '"') ++ rest) =
      .bad :: tokens := by
  induction chars generalizing units with
  | nil => exact absurd (by simp) hsurvive
  | cons first later ih =>
      have hfirst : first ≠ '"' := fun heq => hquote (heq ▸ List.mem_cons_self)
      rw [List.flatMap_cons, List.append_assoc]
      by_cases hkept : python.Survives first
      · rw [lex_survives hfirst hkept]
        apply ih fun hmem => hquote (List.mem_cons_of_mem _ hmem)
        intro hlater
        exact hsurvive (List.forall_mem_cons.mpr ⟨hkept, hlater⟩)
      · exact lex_not_survives hfirst hkept

/-- A word that begins as no value does stays bad, however far it goes. -/
theorem lex_word_bad {word : List Char}
    (hword : ∀ tail, ∃ tokens, python.wordTokens (word.reverse ++ tail) = .bad :: tokens) :
    ∃ tokens, python.lex (.word word) rest = .bad :: tokens := by
  induction rest generalizing word with
  | nil =>
      obtain ⟨tokens, htokens⟩ := hword []
      rw [List.append_nil] at htokens
      exact ⟨tokens, htokens⟩
  | cons char rest ih =>
      by_cases hwithin : punctuation char = none ∧ char ≠ '"' ∧ isBlank char = false
      · rw [lex_within (.word (char :: word)) (by simp [lexStep, hwithin])]
        apply ih
        intro tail
        simpa using hword (char :: tail)
      · obtain ⟨tokens, htokens⟩ := hword []
        rw [List.append_nil] at htokens
        rw [lex_of_step (python.wordTokens word.reverse ++ (begin char).1) (begin char).2
          (by simp only [lexStep, if_neg hwithin]), htokens]
        exact ⟨_, rfl⟩

theorem quoteOf_eq_double_iff (text : String) :
    quoteOf text = '"' ↔ '\'' ∈ text.toList ∧ '"' ∉ text.toList := by
  unfold quoteOf
  split
  next hquote => simp [hquote]
  next hquote => simp [hquote]

/-- A printed text that rereads is the token of that text. -/
theorem lex_reprText {text : String} (hrereads : python.Rereads text) :
    python.lex .between (python.reprText text ++ rest) =
      .string text :: python.lex .between rest := by
  obtain ⟨hsingle, hdouble, hsurvive⟩ := hrereads
  have hquote := (quoteOf_eq_double_iff text).mpr ⟨hsingle, hdouble⟩
  rw [reprText, hquote]
  simp only [List.cons_append, List.append_assoc, List.nil_append]
  rw [lex_within (.text []) rfl, lex_flatMap hdouble hsurvive, List.reverse_nil,
    List.nil_append, decodeUnits_toNat, String.ofList_toList]

/-- Any other is no JSON. -/
theorem lex_reprText_bad {text : String} (hrereads : ¬ python.Rereads text) (rest : List Char) :
    ∃ tokens, python.lex .between (python.reprText text ++ rest) = .bad :: tokens := by
  by_cases hquote : quoteOf text = '"'
  · obtain ⟨hsingle, hdouble⟩ := (quoteOf_eq_double_iff text).mp hquote
    rw [reprText, hquote]
    simp only [List.cons_append, List.append_assoc]
    rw [lex_within (.text []) rfl]
    exact lex_flatMap_bad hdouble fun hsurvive => hrereads ⟨hsingle, hdouble, hsurvive⟩
  · have hsingle : quoteOf text = '\'' := by
      unfold quoteOf at *
      split at hquote <;> simp_all
    rw [reprText, hsingle]
    simp only [List.cons_append]
    rw [lex_within (.word ['\'']) rfl]
    apply lex_word_bad
    intro tail
    exact ⟨[], rfl⟩

theorem lex_none_bad (python : PythonBuild) (rest : List Char) : ∃ tokens,
    python.lex .between ("None".toList ++ rest) = .bad :: tokens := by
  change ∃ tokens, python.lex .between ('N' :: 'o' :: 'n' :: 'e' :: rest) = .bad :: tokens
  rw [lex_within (.word ['N']) rfl, lex_within (.word ['o', 'N']) rfl]
  apply lex_word_bad
  intro tail
  exact ⟨[], rfl⟩

/-- An entry of texts, or of a key alone. -/
def textEntry (entry : String × Option String) : String × JsonValue :=
  (entry.1, .ofText entry.2)

/-- Key and value print as JSON has them. -/
def EntryRereads (python : PythonBuild) (entry : String × Option String) : Prop :=
  python.Rereads entry.1 ∧ ∃ text, entry.2 = some text ∧ python.Rereads text

def setEntries (entries : List (String × JsonValue)) (later : List (String × Option String)) :
    List (String × JsonValue) :=
  later.foldl (fun entries entry => setEntry entries entry.1 (.ofText entry.2)) entries

theorem parse_bad {goal : JsonGoal} {frames : List JsonFrame} {tokens : List JsonToken} :
    python.parse goal frames (.bad :: tokens) = .error .decode := by
  cases goal with
  | rest value =>
      cases frames with
      | nil => rfl
      | cons frame frames => cases frame <;> rfl
  | element =>
      cases frames with
      | nil => rfl
      | cons frame frames =>
          cases frame with
          | array elements => cases elements <;> rfl
          | object entries key => rfl
  | key entries fresh => cases fresh <;> rfl
  | _ => rfl

/-- One printed entry is read, if key and value reread; if not, the text is no JSON. -/
theorem parse_entry (python : PythonBuild) (entries : List (String × JsonValue)) (fresh : Bool)
    (entry : String × Option String) (rest : List Char) :
    (EntryRereads python entry → python.parse (.key entries fresh) []
        (python.lex .between (python.reprText entry.1 ++ ':' :: ' ' ::
          (python.repr (.ofText entry.2) ++ rest))) =
      python.parse (.rest (.ofText entry.2)) [.object entries entry.1]
        (python.lex .between rest)) ∧
    (¬ EntryRereads python entry → python.parse (.key entries fresh) []
        (python.lex .between (python.reprText entry.1 ++ ':' :: ' ' ::
          (python.repr (.ofText entry.2) ++ rest))) = .error .decode) := by
  obtain ⟨key, value⟩ := entry
  have hcolon : ∀ later, python.lex .between (':' :: ' ' :: later) =
      .colon :: python.lex .between later := by
    intro later
    rw [lex_of_step [.colon] .between rfl,
      lex_within .between rfl]
    rfl
  by_cases hkey : python.Rereads key
  · rw [lex_reprText hkey, hcolon]
    have hread : ∀ tokens, python.parse (.key entries fresh) [] (.string key :: .colon :: tokens) =
        python.parse .value [.object entries key] tokens := by
      intro tokens
      cases fresh <;> rfl
    rw [hread]
    cases value with
    | none =>
        -- `None` is no JSON value
        obtain ⟨tokens, htokens⟩ := lex_none_bad python rest
        have hbad : python.lex .between (python.repr (.ofText none) ++ rest) = .bad :: tokens := by
          simpa only [JsonValue.ofText, repr] using htokens
        rw [hbad, parse_bad]
        refine ⟨fun hentry => ?_, fun _ => rfl⟩
        obtain ⟨-, text, htext, -⟩ := hentry
        cases htext
    | some text =>
        have hrepr : python.repr (.ofText (some text)) = python.reprText text := by
          simp only [JsonValue.ofText, repr]
        rw [hrepr]
        by_cases htext : python.Rereads text
        · rw [lex_reprText htext]
          exact ⟨fun _ => rfl, fun hentry => absurd ⟨hkey, text, rfl, htext⟩ hentry⟩
        · obtain ⟨tokens, htokens⟩ := lex_reprText_bad htext rest
          rw [htokens, parse_bad]
          refine ⟨fun hentry => ?_, fun _ => rfl⟩
          obtain ⟨-, other, hother, hrereads⟩ := hentry
          cases hother
          exact absurd hrereads htext
  -- the key as it is printed is no JSON string
  · obtain ⟨tokens, htokens⟩ := lex_reprText_bad hkey
      (':' :: ' ' :: (python.repr (.ofText value) ++ rest))
    rw [htokens, parse_bad]
    exact ⟨fun hentry => absurd hentry.1 hkey, fun _ => rfl⟩

/-- A printed map is read as itself where all of it rereads, and is no JSON otherwise. -/
theorem parse_reprEntries (python : PythonBuild) (entries : List (String × JsonValue))
    (fresh : Bool) (later : List (String × Option String)) (hsome : later ≠ []) :
    (( ∀ entry ∈ later, EntryRereads python entry) → python.parse (.key entries fresh) []
        (python.lex .between (python.reprEntries (later.map textEntry) ++ ['}'])) =
      .ok (.object (setEntries entries later))) ∧
    ((¬ ∀ entry ∈ later, EntryRereads python entry) → python.parse (.key entries fresh) []
        (python.lex .between (python.reprEntries (later.map textEntry) ++ ['}'])) =
      .error .decode) := by
  -- on the entries still to be read, with those before them set already
  induction later generalizing entries fresh with
  | nil => exact absurd rfl hsome
  | cons first rest ih =>
      cases rest with
      | nil =>
          have hprinted : python.reprEntries ([first].map textEntry) ++ ['}'] =
              python.reprText first.1 ++ ':' :: ' '
                  :: (python.repr (.ofText first.2) ++ ['}']) := by
            simp [reprEntries, textEntry]
          obtain ⟨hreads, hfails⟩ := parse_entry python entries fresh first ['}']
          rw [hprinted]
          simp only [List.mem_singleton, forall_eq]
          exact ⟨fun hentry => (hreads hentry).trans rfl, hfails⟩
      | cons second rest =>
          have hprinted : python.reprEntries ((first :: second :: rest).map textEntry) ++ ['}'] =
              python.reprText first.1 ++ ':' :: ' ' :: (python.repr (.ofText first.2) ++
                ',' :: ' ' :: (python.reprEntries ((second :: rest).map textEntry) ++ ['}'])) := by
            simp [reprEntries, textEntry]
          obtain ⟨hreads, hfails⟩ := parse_entry python entries fresh first
            (',' :: ' ' :: (python.reprEntries ((second :: rest).map textEntry) ++ ['}']))
          obtain ⟨hreads', hfails'⟩ :=
            ih (setEntry entries first.1 (.ofText first.2)) false (by simp)
          have hcomma : ∀ later, python.lex .between (',' :: ' ' :: later) =
              .comma :: python.lex .between later := by
            intro later
            rw [lex_of_step [.comma] .between rfl,
              lex_within .between rfl]
            rfl
          rw [hprinted]
          by_cases hfirst : EntryRereads python first
          · rw [hreads hfirst, hcomma]
            constructor
            · intro hall
              exact hreads' fun entry hentry => hall entry (List.mem_cons_of_mem _ hentry)
            · intro hall
              apply hfails'
              intro hlater
              exact hall (List.forall_mem_cons.mpr ⟨hfirst, hlater⟩)
          · rw [hfails hfirst]
            exact ⟨fun hall => absurd (hall first List.mem_cons_self) hfirst, fun _ => rfl⟩

/-- New keys are added at the end. -/
theorem setEntries_of_nodup {entries : List (String × JsonValue)}
    {later : List (String × Option String)} (hnodup : (later.map Prod.fst).Nodup)
    (hnew : ∀ entry ∈ entries, entry.1 ∉ later.map Prod.fst) :
    setEntries entries later = entries ++ later.map textEntry := by
  induction later generalizing entries with
  | nil => simp [setEntries]
  | cons first rest ih =>
      rw [List.map_cons, List.nodup_cons] at hnodup
      have hfresh : setEntry entries first.1 (.ofText first.2) =
          entries ++ [(first.1, .ofText first.2)] := by
        unfold setEntry
        rw [if_neg]
        simp only [List.any_eq_true, decide_eq_true_eq, not_exists, not_and]
        intro entry hentry heq
        exact hnew entry hentry (by simp [heq])
      have hrest : ∀ entry ∈ entries ++ [(first.1, JsonValue.ofText first.2)],
          entry.1 ∉ rest.map Prod.fst := by
        intro entry hentry hmem
        rcases List.mem_append.mp hentry with hold | hlast
        · exact hnew entry hold (by simp [hmem])
        · rw [List.mem_singleton] at hlast
          rw [hlast] at hmem
          exact hnodup.1 hmem
      change setEntries (setEntry entries first.1 (.ofText first.2)) rest = _
      rw [hfresh, ih hnodup.2 hrest]
      simp [textEntry]

/-- The text of a printed map is JSON exactly where all of it rereads, and then reads as the map. -/
theorem loads_repr (python : PythonBuild) {entries : List (String × Option String)}
    (hsome : entries ≠ []) (hnodup : (entries.map Prod.fst).Nodup) :
    ((∀ entry ∈ entries, EntryRereads python entry) →
      python.loads (python.str (.object (entries.map textEntry))) =
        .ok (.object (entries.map textEntry))) ∧
    ((¬ ∀ entry ∈ entries, EntryRereads python entry) →
      python.loads (python.str (.object (entries.map textEntry))) = .error .decode) := by
  have hopened : python.loads (python.str (.object (entries.map textEntry))) =
      python.parse (.key [] true) []
        (python.lex .between (python.reprEntries (entries.map textEntry) ++ ['}'])) := by
    simp only [loads, str, repr, String.toList_ofList, List.cons_append]
    rw [lex_of_step [.openBrace] .between rfl]
    rfl
  obtain ⟨hreads, hfails⟩ := parse_reprEntries python [] true entries hsome
  rw [hopened]
  refine ⟨fun hall => ?_, hfails⟩
  rw [hreads hall, setEntries_of_nodup hnodup (by simp), List.nil_append]

end Reading

end PythonBuild

end CloudioOrchestrator
