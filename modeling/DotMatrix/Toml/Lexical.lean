import DotMatrix.Toml.Basic

/-!
The lexical grammar of TOML: blanks, comments, strings, keys, and the scalars that are written
without quotes. Each reader takes the characters ahead and gives what it read with the characters
that are left, or nothing where the grammar does not allow what is there.
-/

namespace DotMatrix.Toml

abbrev Input := List Char

abbrev Reader (α : Type) := Input → Option (α × Input)

def isBlank (c : Char) : Bool := c == ' ' || c == '\t'

/-- Control characters other than the tab may stand nowhere but at line ends. -/
def isForbidden (c : Char) : Bool := (c.toNat < 0x20 && c != '\t') || c.toNat == 0x7F

def skipBlanks (input : Input) : Input := input.dropWhile isBlank

/-- A line end: a line feed, perhaps after a carriage return. -/
def lineEnd? : Input → Option Input
  | '\n' :: rest => some rest
  | '\r' :: '\n' :: rest => some rest
  | _ => none

/-- Is the input used up, or does a line end come next? -/
def atLineEnd (input : Input) : Bool := input.isEmpty || (lineEnd? input).isSome

/-- The input after a comment, if one comes next. -/
def skipComment : Input → Option Input
  | '#' :: rest =>
    let after := rest.dropWhile fun c => !isForbidden c
    if atLineEnd after then some after else none
  | input => some input

/-- The input after the rest of a line on which nothing more may stand. -/
def finishLine (input : Input) : Option Input := do
  let rest ← skipComment (skipBlanks input)
  if rest.isEmpty then some [] else lineEnd? rest

/-- The input after any blanks, comments and line ends, of which there are at most `fuel`. -/
def skipTrivia : Nat → Input → Option Input
  | 0, input => some input
  | fuel + 1, input => do
    let rest ← skipComment (skipBlanks input)
    match lineEnd? rest with
    | some rest => skipTrivia fuel rest
    | none => some rest

/-- The input after all blanks, comments and line ends. -/
def skipLines (input : Input) : Option Input := skipTrivia (input.length + 1) input

/-! ### Strings -/

def digitValue? (base : Nat) (c : Char) : Option Nat :=
  let n :=
    if '0' ≤ c ∧ c ≤ '9' then c.toNat - '0'.toNat
    else if 'a' ≤ c ∧ c ≤ 'f' then c.toNat - 'a'.toNat + 10
    else if 'A' ≤ c ∧ c ≤ 'F' then c.toNat - 'A'.toNat + 10
    else 16
  if n < base then some n else none

/-- A character by its number in exactly `count` hexadecimal digits. -/
def scalarValue (count : Nat) : Reader Char := fun input => do
  let digits ← (input.take count).mapM (digitValue? 16)
  if digits.length ≠ count then none
  let n := digits.foldl (fun n d => n * 16 + d) 0
  if n.isValidChar then some (Char.ofNat n, input.drop count) else none

/-- What follows a backslash in a basic string. -/
def escaped : Reader Char
  | 'b' :: rest => some ('\x08', rest)
  | 't' :: rest => some ('\t', rest)
  | 'n' :: rest => some ('\n', rest)
  | 'f' :: rest => some ('\x0c', rest)
  | 'r' :: rest => some ('\r', rest)
  | 'e' :: rest => some ('\x1b', rest)
  | '"' :: rest => some ('"', rest)
  | '\\' :: rest => some ('\\', rest)
  | 'x' :: rest => scalarValue 2 rest
  | 'u' :: rest => scalarValue 4 rest
  | 'U' :: rest => scalarValue 8 rest
  | _ => none

/-- The rest of a basic string on one line; `read` holds the characters read, in reverse. -/
def basicString : Nat → List Char → Reader String
  | 0, _, _ => none
  | _, _, [] => none
  | fuel + 1, read, c :: rest =>
    if c = '"' then some (String.ofList read.reverse, rest)
    else if c = '\\' then do
      let (c, rest) ← escaped rest
      basicString fuel (c :: read) rest
    else if isForbidden c then none
    else basicString fuel (c :: read) rest

def literalString : Reader String := fun input =>
  let (body, rest) := input.span fun c => c != '\'' && !isForbidden c
  match rest with
  | '\'' :: rest => some (String.ofList body, rest)
  | _ => none

/-- A run of quotes in a string over several lines: with three of them it ends the string, and up to
two more before them belong to it. The answer holds the quotes that belong to the string and whether
it ends. -/
def quoteRun (quote : Char) (input : Input) : Option (Nat × Bool × Input) :=
  let (run, rest) := input.span (· == quote)
  if run.length < 3 then some (run.length, false, rest)
  else if run.length ≤ 5 then some (run.length - 3, true, rest)
  else none

/-- The input after a backslash at the end of a line: the blanks and line ends up to the next
character are no part of the string. -/
def skipFolded (input : Input) : Option Input :=
  (lineEnd? (skipBlanks input)).map (·.dropWhile fun c => isBlank c || c == '\n' || c == '\r')

/-- The rest of a string over several lines; in a literal one a backslash is an ordinary
character. -/
def longString (quote : Char) : Nat → List Char → Reader String
  | 0, _, _ => none
  | _, _, [] => none
  | fuel + 1, read, c :: rest =>
    if c = quote then do
      let (kept, ends, rest) ← quoteRun quote (c :: rest)
      let read := List.replicate kept quote ++ read
      if ends then some (String.ofList read.reverse, rest) else longString quote fuel read rest
    else if c = '\\' ∧ quote = '"' then
      match skipFolded rest with
      | some rest => longString quote fuel read rest
      | none => do
        let (c, rest) ← escaped rest
        longString quote fuel (c :: read) rest
    else if c = '\n' then longString quote fuel (c :: read) rest
    else if c = '\r' then
      match rest with
      | '\n' :: rest => longString quote fuel ('\n' :: c :: read) rest
      | _ => none
    else if isForbidden c then none
    else longString quote fuel (c :: read) rest

/-- A long string after its opening quotes. A line end right after them is no part of it. -/
def longStringFrom (quote : Char) : Reader String := fun input =>
  longString quote (input.length + 1) [] ((lineEnd? input).getD input)

/-- A string in any of its four forms, if one comes next. -/
def quotedString : Reader String
  | '"' :: '"' :: '"' :: rest => longStringFrom '"' rest
  | '\'' :: '\'' :: '\'' :: rest => longStringFrom '\'' rest
  | '"' :: rest => basicString (rest.length + 1) [] rest
  | '\'' :: rest => literalString rest
  | _ => none

/-! ### Keys -/

def isBareKey (c : Char) : Bool := c.isAlphanum || c == '_' || c == '-'

/-- A part of a key: bare, or a string on one line. -/
def keyPart : Reader String
  | '"' :: '"' :: '"' :: _ => none
  | '\'' :: '\'' :: '\'' :: _ => none
  | '"' :: rest => basicString (rest.length + 1) [] rest
  | '\'' :: rest => literalString rest
  | input =>
    let (part, rest) := input.span isBareKey
    if part.isEmpty then none else some (String.ofList part, rest)

/-- The rest of a key of at most `fuel` parts: the parts before the last, and the last. -/
def keyParts : Nat → List String → Reader (List String × String)
  | 0, _, _ => none
  | fuel + 1, before, input => do
    let (part, rest) ← keyPart (skipBlanks input)
    match skipBlanks rest with
    | '.' :: rest => keyParts fuel (part :: before) rest
    | rest => some ((before.reverse, part), rest)

def key : Reader (List String × String) := fun input =>
  keyParts (input.length + 1) [] input

/-! ### Scalars without quotes -/

/-- Digits of a base with single underscores between them: their value, and how many there are. -/
def digits? (base : Nat) (chars : List Char) : Option (Nat × Nat) := do
  let groups := (chars.splitOn '_')
  if groups.any (·.isEmpty) then none
  let digits ← groups.flatten.mapM (digitValue? base)
  some (digits.foldl (fun n d => n * base + d) 0, digits.length)

/-- A text without its sign, with whether that is negative. -/
def splitSign : List Char → Bool × List Char
  | '-' :: rest => (true, rest)
  | '+' :: rest => (false, rest)
  | chars => (false, chars)

/-- Decimal digits without a superfluous zero at the front. -/
def decimal? (chars : List Char) : Option Nat := do
  let (n, count) ← digits? 10 chars
  if 1 < count ∧ chars.head? = some '0' then none else some n

def leastInteger : Int := -0x80000000000000000000000000000000

def greatestInteger : Int := 0xFFFFFFFFFFFFFFFFFFFFFFFFFFFFFFFF

/-- An integer, of no more than 128 bits. Only a decimal one may have a sign. -/
def integer? (chars : List Char) : Option Int := do
  let n ← match chars with
    | '0' :: 'x' :: digits => (digits? 16 digits).map (Int.ofNat ·.1)
    | '0' :: 'o' :: digits => (digits? 8 digits).map (Int.ofNat ·.1)
    | '0' :: 'b' :: digits => (digits? 2 digits).map (Int.ofNat ·.1)
    | _ =>
      let (negative, digits) := splitSign chars
      (decimal? digits).map fun n => if negative then -(n : Int) else n
  if leastInteger ≤ n ∧ n ≤ greatestInteger then some n else none

/-- Is this a float: decimal digits with a fraction, an exponent or both, or one of the names? -/
def isFloat (chars : List Char) : Bool :=
  let (_, body) := splitSign chars
  if body = ['i', 'n', 'f'] ∨ body = ['n', 'a', 'n'] then true
  else
    let (mantissa, exponent) := body.span fun c => c != 'e' && c != 'E'
    let (whole, fraction) := mantissa.span (· != '.')
    let exponentOk :=
      match exponent with
      | [] => true
      | _ :: digits => (digits? 10 (splitSign digits).2).isSome
    let fractionOk :=
      match fraction with
      | [] => true
      | _ :: digits => (digits? 10 digits).isSome
    (decimal? whole).isSome && fractionOk && exponentOk &&
      !(exponent.isEmpty && fraction.isEmpty)

/-- A number in exactly `count` decimal digits. -/
def fixedDigits (count : Nat) : Reader Nat := fun input => do
  let digits ← (input.take count).mapM (digitValue? 10)
  if digits.length ≠ count then none
  else some (digits.foldl (fun n d => n * 10 + d) 0, input.drop count)

def expect (c : Char) : Input → Option Input
  | d :: rest => if c = d then some rest else none
  | [] => none

def isLeapYear (year : Nat) : Bool :=
  year % 4 == 0 && (year % 100 != 0 || year % 400 == 0)

def daysInMonth (year month : Nat) : Nat :=
  match month with
  | 2 => if isLeapYear year then 29 else 28
  | 4 | 6 | 9 | 11 => 30
  | _ => 31

def skipDate (input : Input) : Option Input := do
  let (year, rest) ← fixedDigits 4 input
  let (month, rest) ← fixedDigits 2 (← expect '-' rest)
  let (day, rest) ← fixedDigits 2 (← expect '-' rest)
  if 1 ≤ month ∧ month ≤ 12 ∧ 1 ≤ day ∧ day ≤ daysInMonth year month then some rest else none

/-- The input after a time of day, whose seconds may be left out and may have a fraction. -/
def skipTime (input : Input) : Option Input := do
  let (hour, rest) ← fixedDigits 2 input
  let (minute, rest) ← fixedDigits 2 (← expect ':' rest)
  if 23 < hour ∨ 59 < minute then none
  match rest with
  | ':' :: rest =>
    let (second, rest) ← fixedDigits 2 rest
    if 60 < second then none
    match rest with
    | '.' :: fraction =>
      let after := fraction.dropWhile Char.isDigit
      if after.length = fraction.length then none else some after
    | rest => some rest
  | rest => some rest

/-- The input after the distance of a local time from universal time. -/
def skipOffset : Input → Option Input
  | 'Z' :: rest | 'z' :: rest => some rest
  | sign :: rest => do
    if sign ≠ '+' ∧ sign ≠ '-' then none
    let (hour, rest) ← fixedDigits 2 rest
    let (minute, rest) ← fixedDigits 2 (← expect ':' rest)
    if 23 < hour ∨ 59 < minute then none else some rest
  | [] => none

/-- Is this a date, a time of day, or a date with a time of day and perhaps an offset? -/
def isMoment (chars : List Char) : Bool :=
  if skipTime chars = some [] then true
  else
    match skipDate chars with
    | some [] => true
    | some (separator :: rest) =>
      if separator = 'T' ∨ separator = 't' ∨ separator = ' ' then
        match skipTime rest with
        | some [] => true
        | some rest => skipOffset rest == some []
        | none => false
      else false
    | none => false

def isScalarChar (c : Char) : Bool :=
  c.isAlphanum || c == '_' || c == '-' || c == '+' || c == '.' || c == ':'

/-- The characters of a scalar. A date and a time of day may have a blank between them. -/
def scalarText (input : Input) : List Char × Input :=
  let (text, rest) := input.span isScalarChar
  match rest with
  | ' ' :: after =>
    if skipDate text = some [] ∧ (after.head?.map Char.isDigit).getD false then
      let (time, rest) := after.span isScalarChar
      (text ++ ' ' :: time, rest)
    else (text, rest)
  | _ => (text, rest)

def scalar : Reader Value := fun input =>
  let (text, rest) := scalarText input
  if text = "true".toList then some (.boolean true, rest)
  else if text = "false".toList then some (.boolean false, rest)
  else
    match integer? text with
    | some n => some (.integer n, rest)
    | none =>
      if isFloat text then some (.float (String.ofList text), rest)
      else if isMoment text then some (.moment (String.ofList text), rest)
      else none

end DotMatrix.Toml
