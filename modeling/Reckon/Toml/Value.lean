import Reckon.Decimal.Shortest
import Reckon.Numeral.Whole
import Reckon.Text.Quoted

/-!
# Configuration values

What a configuration document can hold: texts, numbers, truths, dates and times, arrays
and tables.  A table keeps its entries in the order in which they were made.

`Value.display` is how a value is shown in a message when another kind of value was
expected.  It is shown only if it has no number of too many digits in it, which only
numerals that are not decimal can bring about.
-/

namespace Reckon

namespace Toml

/-- A day. -/
structure Date where
  year : Nat
  month : Nat
  day : Nat
  deriving DecidableEq, Repr

/-- A time of day. -/
structure Time where
  hour : Nat
  minute : Nat
  second : Nat
  microsecond : Nat
  deriving DecidableEq, Repr

/-- A value of a configuration document.  A moment is a day and a time with, where it is
given, the distance of the local clock from universal time in minutes. -/
inductive Value where
  | text (text : String)
  | integer (value : Int)
  | real (value : Binary64)
  | truth (value : Bool)
  | date (date : Date)
  | time (time : Time)
  | moment (date : Date) (time : Time) (offset : Option Int)
  | array (items : List Value)
  | table (entries : List (String × Value))

/-- The entries of a table in the order in which they were made. -/
abbrev Table := List (String × Value)

/-- The value at a key. -/
def Table.get? (table : Table) (key : String) : Option Value :=
  (table.find? (·.1 == key)).map Prod.snd

/-- Whether a table has a value at a key. -/
def Table.has (table : Table) (key : String) : Bool := table.any (·.1 == key)

/-- The table with a value at a key: in the place of the value that was there, or else at
the end. -/
def Table.put (table : Table) (key : String) (value : Value) : Table :=
  if table.has key then table.map fun entry => if entry.1 == key then (key, value) else entry
  else table ++ [(key, value)]

/-! ## Showing values -/

/-- Parts of a text with commas between them. -/
def commas (parts : List String) : String := ", ".intercalate parts

/-- The parts of a time that are shown: the seconds only if they or the microseconds are not
zero, the microseconds only if they are not zero. -/
def Time.parts (time : Time) : List Nat :=
  [time.hour, time.minute]
    ++ if time.microsecond ≠ 0 then [time.second, time.microsecond]
      else if time.second ≠ 0 then [time.second] else []

/-- A distance from universal time. -/
def displayOffset (minutes : Int) : String :=
  if minutes = 0 then "datetime.timezone.utc"
  else
    let seconds := (minutes % 1440) * 60
    let parts := if minutes < 0 then ["days=-1", s!"seconds={seconds}"] else [s!"seconds={seconds}"]
    s!"datetime.timezone(datetime.timedelta({commas parts}))"

mutual

/-- A value as it is shown in a message. -/
def Value.display : Value → String
  | .text text => quoted text
  | .integer value => toString value
  | .real value => value.toShortest
  | .truth value => if value then "True" else "False"
  | .date date => s!"datetime.date({date.year}, {date.month}, {date.day})"
  | .time time => s!"datetime.time({commas (time.parts.map toString)})"
  | .moment date time offset =>
    let zone := match offset with
      | some minutes => ["tzinfo=" ++ displayOffset minutes]
      | none => []
    let numbers := [date.year, date.month, date.day] ++ time.parts
    s!"datetime.datetime({commas (numbers.map toString ++ zone)})"
  | .array items => s!"[{commas (displayItems items)}]"
  | .table entries => "\x7b" ++ commas (displayEntries entries) ++ "\x7d"

/-- The items of an array as they are shown. -/
def displayItems : List Value → List String
  | [] => []
  | item :: rest => item.display :: displayItems rest

/-- The entries of a table as they are shown. -/
def displayEntries : List (String × Value) → List String
  | [] => []
  | (key, value) :: rest => s!"{quoted key}: {value.display}" :: displayEntries rest

end

mutual

/-- Whether no integer of a value has too many digits to be shown. -/
def Value.isWritable : Value → Bool
  | .integer value => Numeral.isWritable value
  | .array items => itemsWritable items
  | .table entries => entriesWritable entries
  | _ => true

/-- Whether the items of an array can be shown. -/
def itemsWritable : List Value → Bool
  | [] => true
  | item :: rest => item.isWritable && itemsWritable rest

/-- Whether the entries of a table can be shown. -/
def entriesWritable : List (String × Value) → Bool
  | [] => true
  | (_, value) :: rest => value.isWritable && entriesWritable rest

end

/-- A path of keys as it is shown in a message. -/
def displayKey (key : List String) : String :=
  match key with
  | [only] => s!"({quoted only},)"
  | parts => s!"({commas (parts.map quoted)})"

end Toml

end Reckon
