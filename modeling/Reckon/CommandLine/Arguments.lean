import Reckon.Numeral.Whole
import Reckon.Text.Quoted

/-!
# Arguments

The arguments of the program are options and expressions.

## Which arguments are options

An argument that begins with a dash is an option, unless it is a single dash, looks like a
negative number, or holds a space; behind a double dash nothing is.  A long option can be
shortened as long as it stays the only one that begins so, and its value can be joined to
it by an equals sign.  Short options can be joined to each other and to a value.  All
arguments are looked at in this way before any is acted on, so a shortened option with two
meanings is the first thing reported.

## Expressions stay together

The expressions are the first unbroken run of arguments that are no options.  Whatever
stands behind a later option is left over, and so are options that do not exist; what is
left over is reported at the end, all at once.

A double dash among the arguments of a run is not one of them.  A value that consists of a
double dash counts as no value.
-/

namespace Reckon

namespace CommandLine

/-- What an option is about. -/
inductive Setting where
  | help
  | file
  | precision
  | config
  | debug
  | verbose
  deriving DecidableEq, Repr

namespace Setting

/-- Whether an option has a value. -/
def takesValue : Setting → Bool
  | file => true
  | precision => true
  | config => true
  | _ => false

/-- How an option is named in messages. -/
def title : Setting → String
  | help => "-h/--help"
  | file => "-f/--file"
  | precision => "-p/--precision"
  | config => "--config"
  | debug => "--debug"
  | verbose => "-v/--verbose"

/-- The names of all options. -/
def names : List (String × Setting) := [
  ("-h", help), ("--help", help), ("-f", file), ("--file", file), ("-p", precision),
  ("--precision", precision), ("--config", config), ("--debug", debug), ("-v", verbose),
  ("--verbose", verbose)]

/-- The option with a name. -/
def named? (name : String) : Option Setting := (names.find? (·.1 == name)).map Prod.snd

end Setting

/-- What is wrong with the arguments. -/
inductive Misuse where
  | ambiguous (argument : String) (meanings : List String)
  | noValue (setting : Setting)
  | unwantedValue (setting : Setting) (value : String)
  | noNumber (setting : Setting) (value : String)
  | unrecognized (arguments : List String)
  deriving DecidableEq, Repr

/-- The text of a misuse. -/
def Misuse.message : Misuse → String
  | ambiguous argument meanings =>
    s!"ambiguous option: {argument} could match " ++ ", ".intercalate meanings
  | noValue setting => s!"argument {setting.title}: expected one argument"
  | unwantedValue setting value =>
    s!"argument {setting.title}: ignored explicit argument {quoted value}"
  | noNumber setting value => s!"argument {setting.title}: invalid int value: {quoted value}"
  | unrecognized arguments => "unrecognized arguments: " ++ " ".intercalate arguments

/-- What an argument is: an expression or a value, the double dash, an option with the value
joined to it, or an option that does not exist. -/
inductive Role where
  | plain
  | separator
  | option (setting : Setting) (short : Bool) (joined : Option String)
  | unknown
  deriving DecidableEq, Repr

/-- A text up to the first equals sign, and what stands behind it if there is one. -/
def splitEquals (text : List Char) : List Char × Option (List Char) :=
  match text.dropWhile (· != '=') with
  | [] => (text, none)
  | _ :: value => (text.takeWhile (· != '='), some value)

/-- Whether a text is a dash and a number with or without a fraction.  The digits may be
those of any script, and one line feed may follow. -/
def looksNegative (text : List Char) : Bool :=
  let isDigit (c : Char) := (decimalDigit? c).isSome
  match text with
  | '-' :: rest =>
    let body := if rest.getLast? = some '\n' then rest.dropLast else rest
    let fraction := body.dropWhile isDigit
    match fraction with
    | [] => body ≠ []
    | '.' :: digits => digits ≠ [] && digits.all isDigit
    | _ => false
  | _ => false

/-- The options that an argument with a dash can mean, by their names: those that a long
argument begins, or the short one that a short argument begins with. -/
def candidates (text : List Char) : List (String × Role) :=
  match text with
  | '-' :: '-' :: _ =>
    let (name, value) := splitEquals text
    (Setting.names.filter fun option => name.isPrefixOf option.1.toList).map
      fun (known, setting) => (known, .option setting false (value.map String.ofList))
  | _ =>
    (Setting.names.filter fun option => option.1.toList = text.take 2).map
      fun (known, setting) => (known, .option setting true (some (String.ofList (text.drop 2))))

/-- What an argument before the double dash is. -/
def role (argument : String) : Except Misuse Role :=
  let text := argument.toList
  let (beforeEquals, value) := splitEquals text
  match text with
  | '-' :: _ :: _ =>
    if argument = "--" then .ok .separator
    else match Setting.named? argument with
      | some setting => .ok (.option setting (text.length = 2) none)
      | none =>
        match value, Setting.named? (String.ofList beforeEquals) with
        | some value, some setting =>
          .ok (.option setting (beforeEquals.length = 2) (some (String.ofList value)))
        | _, _ =>
          match candidates text with
          | [(_, only)] => .ok only
          | [] => .ok (if looksNegative text || text.contains ' ' then .plain else .unknown)
          | several => .error (.ambiguous argument (several.map Prod.fst))
  | _ => .ok .plain

/-- What each argument is. -/
def roles : List String → Except Misuse (List (String × Role))
  | [] => .ok []
  | argument :: rest => do
    match ← role argument with
    | .separator => .ok ((argument, .separator) :: rest.map fun later => (later, .plain))
    | known => .ok ((argument, known) :: (← roles rest))

/-- What has been asked for. -/
structure Arguments where
  expressions : List String
  file : String
  config : String
  /-- The number of significant digits; the outer level says whether the option was used, the
  inner one whether it had a value. -/
  precision : Option (Option Int)
  debug : Bool
  verbose : Bool
  deriving DecidableEq, Repr

namespace Arguments

/-- When nothing has been asked for. -/
def none : Arguments := ⟨[], "", "", .none, false, false⟩

end Arguments

/-- Why there is nothing to do: help was asked for, or the arguments are wrong. -/
inductive Stop where
  | help
  | misuse (misuse : Misuse)
  deriving DecidableEq, Repr

/-- The options that stand together behind one dash, with their values: those that are
complete, and the last one if it has to look for a value elsewhere or has none. -/
def joinedOptions (setting : Setting) (short : Bool) :
    List Char → Except Misuse (List (Setting × String) × Option Setting)
  | [] =>
    if setting.takesValue then .ok ([(setting, "")], none)
    else .error (.unwantedValue setting "")
  | c :: rest =>
    if setting.takesValue then .ok ([(setting, String.ofList (c :: rest))], none)
    else
      match short, Setting.named? (String.ofList ['-', c]), rest with
      | true, some other, [] => .ok ([(setting, "")], some other)
      | true, some other, c :: rest => do
        let (complete, last) ← joinedOptions other true (c :: rest)
        .ok ((setting, "") :: complete, last)
      | _, _, _ => .error (.unwantedValue setting (String.ofList (c :: rest)))

/-- The arguments with an option acted on. -/
def act (arguments : Arguments) (setting : Setting) (value : String) : Except Stop Arguments :=
  let given := if value = "--" then "" else value
  match setting with
  | .help => .error .help
  | .file => .ok { arguments with file := given }
  | .config => .ok { arguments with config := given }
  | .debug => .ok { arguments with debug := true }
  | .verbose => .ok { arguments with verbose := true }
  | .precision =>
    if value = "--" then .ok { arguments with precision := some none }
    else match Numeral.whole? value with
      | some digits => .ok { arguments with precision := some (some digits) }
      | none => .error (.misuse (.noNumber .precision value))

/-- The arguments with options acted on in turn. -/
def actAll (arguments : Arguments) : List (Setting × String) → Except Stop Arguments
  | [] => .ok arguments
  | (setting, value) :: rest => do actAll (← act arguments setting value) rest

/-- What has been understood so far: the arguments, whether the expressions have been found,
and what is left over. -/
structure Progress where
  arguments : Arguments
  found : Bool
  leftOver : List String

/-- Whether an argument is no option. -/
def Role.isPlain : Role → Bool
  | .plain => true
  | .separator => true
  | _ => false

/-- Acts on the options of one argument.  The value of the last one is the next argument, if
that is no option; the flag in the result says whether it was used. -/
def takeOption (progress : Progress) (setting : Setting) (short : Bool)
    (joined : Option String) (next : Option (String × Role)) :
    Except Stop (Progress × Bool) := do
  let (complete, last) ← match joined with
    | some value => (joinedOptions setting short value.toList).mapError .misuse
    | none => .ok ([], some setting)
  let (complete, used) ← match last with
    | none => .ok (complete, false)
    | some last =>
      if !last.takesValue then .ok (complete ++ [(last, "")], false)
      else match next with
        | some (value, .plain) => .ok (complete ++ [(last, value)], true)
        | _ => .error (.misuse (.noValue last))
  let arguments ← actAll progress.arguments complete
  .ok ({ progress with arguments }, used)

/-- The progress with a run of arguments that are no options. -/
def takePlain (progress : Progress) (run : List String) : Progress :=
  if progress.found then { progress with leftOver := progress.leftOver ++ run }
  else
    { progress with
      arguments := { progress.arguments with expressions := run.erase "--" }
      found := true }

/-- Goes through arguments whose roles are known. -/
def understand (progress : Progress) : List (String × Role) → Except Stop Progress
  | [] => .ok progress
  | (argument, .unknown) :: rest =>
    understand { progress with leftOver := progress.leftOver ++ [argument] } rest
  | (_, .option setting short joined) :: rest => do
    let (progress, used) ← takeOption progress setting short joined rest.head?
    understand progress (if used then rest.tail else rest)
  | (argument, _) :: rest =>
    let run := rest.takeWhile fun later => later.2.isPlain
    understand (takePlain progress (argument :: run.map Prod.fst))
      (rest.dropWhile fun later => later.2.isPlain)
termination_by arguments => arguments.length
decreasing_by
  · exact Nat.lt_succ_self _
  · split
    · exact Nat.lt_succ_of_le (by simp)
    · exact Nat.lt_succ_self _
  · exact Nat.lt_succ_of_le (List.dropWhile_sublist _).length_le

/-- What arguments ask for. -/
def Arguments.ofList (arguments : List String) : Except Stop Arguments := do
  let known ← (roles arguments).mapError .misuse
  let progress ← understand ⟨.none, false, []⟩ known
  if progress.leftOver ≠ [] then .error (.misuse (.unrecognized progress.leftOver))
  else .ok progress.arguments

end CommandLine

end Reckon
