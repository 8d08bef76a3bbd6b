import Reckon.Numeral.Real
import Reckon.Numeral.Whole
import Reckon.Toml.Scanner

/-!
# Numbers, dates and times of a configuration document

Each kind is recognised by the longest beginning of the text that has its form.  The forms
are tried in the order day or moment, time, number, and the first that fits decides, so a
day that no calendar has is a fault and not a difference of numbers.
-/

namespace Reckon

namespace Toml

/-- A form: what it recognises at the beginning of a text, and what is left. -/
abbrev Form (α : Type) := List Char → Option (α × List Char)

namespace Form

/-- Two digits that write a number below a bound. -/
def twoDigits (low below : Nat) : Form Nat
  | a :: b :: rest =>
    if a.isDigit && b.isDigit then
      let n := Numeral.value [a, b]
      if low ≤ n && n < below then some (n, rest) else none
    else none
  | _ => none

/-- Four digits. -/
def fourDigits : Form Nat
  | a :: b :: c :: d :: rest =>
    if [a, b, c, d].all Char.isDigit then some (Numeral.value [a, b, c, d], rest) else none
  | _ => none

/-- One given character. -/
def char (wanted : Char) : Form Unit
  | c :: rest => if c = wanted then some ((), rest) else none
  | [] => none

/-- The fraction of a second in microseconds, if there is one; digits behind the sixth are
ignored. -/
def fraction (text : List Char) : Nat × List Char :=
  match text with
  | '.' :: rest =>
    let digits := rest.takeWhile Char.isDigit
    if digits = [] then (0, text)
    else
      let kept := digits.take 6
      (Numeral.value kept * tenTo (6 - kept.length), rest.dropWhile Char.isDigit)
  | _ => (0, text)

/-- A time of day. -/
def time : Form Time := fun text => do
  let (hour, text) ← twoDigits 0 24 text
  let (_, text) ← char ':' text
  let (minute, text) ← twoDigits 0 60 text
  let (_, text) ← char ':' text
  let (second, text) ← twoDigits 0 60 text
  let (microsecond, text) := fraction text
  some (⟨hour, minute, second, microsecond⟩, text)

/-- A day, by its numbers; whether a calendar has it is not asked here. -/
def date : Form Date := fun text => do
  let (year, text) ← fourDigits text
  let (_, text) ← char '-' text
  let (month, text) ← twoDigits 1 13 text
  let (_, text) ← char '-' text
  let (day, text) ← twoDigits 1 32 text
  some (⟨year, month, day⟩, text)

/-- The distance from universal time in minutes, if it is given. -/
def offset (text : List Char) : Option Int × List Char :=
  match text with
  | [] => (none, text)
  | sign :: rest =>
    if sign = 'Z' || sign = 'z' then (some 0, rest)
    else if sign = '+' || sign = '-' then
      let found := do
        let (hour, rest) ← twoDigits 0 24 rest
        let (_, rest) ← char ':' rest
        let (minute, rest) ← twoDigits 0 60 rest
        some (60 * hour + minute, rest)
      match found with
      | some (minutes, rest) => (some (if sign = '-' then -(minutes : Int) else minutes), rest)
      | none => (none, text)
    else (none, text)

/-- The time of a moment, with its distance from universal time, behind the letter or blank
that separates it from the day. -/
def timeOfMoment : Form (Time × Option Int)
  | separator :: text => do
    if separator = 'T' || separator = 't' || separator = ' ' then
      let (clock, text) ← time text
      let (zone, text) := offset text
      some ((clock, zone), text)
    else none
  | [] => none

end Form

namespace Date

/-- Whether a year has a leap day. -/
def isLeap (year : Nat) : Bool := year % 4 = 0 && (year % 100 ≠ 0 || year % 400 = 0)

/-- The number of days of a month. -/
def daysOf (year month : Nat) : Nat :=
  if month = 2 then if isLeap year then 29 else 28
  else if month = 4 || month = 6 || month = 9 || month = 11 then 30
  else 31

/-- Whether a calendar that begins with the year one has the day. -/
def isValid (date : Date) : Bool :=
  1 ≤ date.year && date.day ≤ daysOf date.year date.month

end Date

namespace Form

/-- A day or a moment; without a value, the form fits but no calendar has the day. -/
def dateOrMoment : Form (Option Value) := fun text => do
  let (day, text) ← date text
  match timeOfMoment text with
  | some ((clock, zone), rest) =>
    some (if day.isValid then some (.moment day clock zone) else none, rest)
  | none => some (if day.isValid then some (.date day) else none, text)

/-! ## Numbers -/

/-- The digits of a class behind the first one, each with at most one underscore before it. -/
def moreDigits (inClass : Char → Bool) : List Char → List Char × List Char
  | '_' :: c :: rest =>
    if inClass c then
      let (digits, left) := moreDigits inClass rest
      ('_' :: c :: digits, left)
    else ([], '_' :: c :: rest)
  | c :: rest =>
    if inClass c then
      let (digits, left) := moreDigits inClass rest
      (c :: digits, left)
    else ([], c :: rest)
  | [] => ([], [])

/-- Digits of a class, with single underscores between them. -/
def digits (inClass : Char → Bool) : Form (List Char)
  | c :: rest =>
    if inClass c then
      let (more, left) := moreDigits inClass rest
      some (c :: more, left)
    else none
  | [] => none

/-- The digits of a number in another base, behind the letter for the base. -/
def based (base : Nat) (inClass : Char → Bool) : Form Value := fun text => do
  let (found, rest) ← digits inClass text
  let n := (found.filter (· != '_')).foldl (fun n c => base * n + Scanner.hexDigit c) 0
  some (.integer n, rest)

/-- A number in another base. -/
def otherBase : Form Value
  | '0' :: 'x' :: rest => based 16 Scanner.isHex rest
  | '0' :: 'b' :: rest => based 2 (fun c => c = '0' || c = '1') rest
  | '0' :: 'o' :: rest => based 8 (fun c => '0' ≤ c && c ≤ '7') rest
  | _ => none

/-- The whole part of a decimal number: a sign, if any, and a zero or digits that do not
begin with one. -/
def wholePart : Form (List Char) := fun text =>
  let (sign, rest) : List Char × List Char := match text with
    | '+' :: rest => (['+'], rest)
    | '-' :: rest => (['-'], rest)
    | _ => ([], text)
  match rest with
  | '0' :: rest => some (sign ++ ['0'], rest)
  | _ => (digits Char.isDigit rest).map fun (found, rest) => (sign ++ found, rest)

/-- The fraction of a decimal number, if there is one. -/
def fractionPart (text : List Char) : List Char × List Char :=
  match text with
  | '.' :: rest =>
    match digits Char.isDigit rest with
    | some (found, rest) => ('.' :: found, rest)
    | none => ([], text)
  | _ => ([], text)

/-- The exponent of a decimal number, if there is one. -/
def exponentPart (text : List Char) : List Char × List Char :=
  match text with
  | [] => ([], text)
  | letter :: rest =>
    if letter = 'e' || letter = 'E' then
      let (sign, rest) : List Char × List Char := match rest with
        | '+' :: rest => (['+'], rest)
        | '-' :: rest => (['-'], rest)
        | _ => ([], rest)
      match digits Char.isDigit rest with
      | some (found, rest) => (letter :: sign ++ found, rest)
      | none => ([], text)
    else ([], text)

/-- A decimal number: a fault of too many digits, or a value. -/
def decimal : Form (Except Fault Value) := fun text => do
  let (whole, rest) ← wholePart text
  let (fraction, rest) := fractionPart rest
  let (exponent, rest) := exponentPart rest
  let found := String.ofList (whole ++ fraction ++ exponent)
  if fraction = [] && exponent = [] then
    let count := (whole.filter Char.isDigit).length
    some (match Numeral.whole? found with
      | some n => .ok (.integer n)
      | none => .error (.tooManyDigits (some count)), rest)
  else some (.ok (.real ((Numeral.real? found).getD .nan)), rest)

/-- A word for infinity or for what is not a number, with a sign or without. -/
def word (text : List Char) : Option (Value × List Char) :=
  let (negative, rest) := Numeral.splitSign text
  match rest with
  | 'i' :: 'n' :: 'f' :: rest => some (.real (.infinity negative), rest)
  | 'n' :: 'a' :: 'n' :: rest => some (.real .nan, rest)
  | _ => none

end Form

namespace Scanner

/-- Reads a day, a moment, a time or a number. -/
def scalar : Scanner Value := do
  let start ← get
  let source ← read
  let text := (source.extract start source.size).toList
  let finish (value : Value) (rest : List Char) : Scanner Value := do
    set (start + (text.length - rest.length))
    return value
  match Form.dateOrMoment text with
  | some (some value, rest) => finish value rest
  | some (none, _) => fail .dateOrTime
  | none =>
    match Form.time text with
    | some (clock, rest) => finish (.time clock) rest
    | none =>
      match Form.otherBase text with
      | some (value, rest) => finish value rest
      | none =>
        match Form.decimal text with
        | some (.ok value, rest) => finish value rest
        | some (.error fault, _) => throw fault
        | none =>
          match Form.word text with
          | some (value, rest) => finish value rest
          | none => fail .value

end Scanner

end Toml

end Reckon
