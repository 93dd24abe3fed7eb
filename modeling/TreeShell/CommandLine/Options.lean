import TreeShell.Config
import TreeShell.Text.Affix
import TreeShell.Text.Split
import TreeShell.Json.Display

/-!
# Options of the command line

Options are flags, or take a value: the next argument, or what follows an equals sign, or, after a
short spelling, the rest of the argument. A long spelling may be cut short as long as it stays
unambiguous. Two dashes end the options. There are no operands, so whatever is left over is refused;
but an argument with a blank in it, or a negative number, can be a value although it begins with a
dash.

All arguments are looked at before any is taken, so that an ambiguous one is refused first.
-/

set_option autoImplicit false

namespace TreeShell

/-- The options. -/
inductive CliOption where
  | help
  | database
  | memory
  | debug
  | command
  | script
deriving DecidableEq, Repr

namespace CliOption

/-- The spellings of an option. -/
def spellings : CliOption → List String
  | help => ["-h", "--help"]
  | database => ["--db"]
  | memory => ["--memory"]
  | debug => ["--debug"]
  | command => ["-c", "--command"]
  | script => ["--script"]

/-- Whether an option takes a value. -/
def takesValue : CliOption → Bool
  | help | memory | debug => false
  | database | command | script => true

/-- All options. -/
def all : List CliOption := [help, database, memory, debug, command, script]

/-- All spellings with their options. -/
def spelled : List (String × CliOption) :=
  all.flatMap fun option => option.spellings.map (·, option)

/-- The list leaves none out. -/
theorem mem_all (option : CliOption) : option ∈ all := by
  cases option <;> decide

end CliOption

/-- Why a command line is refused. -/
inductive UsageError where
  | expectedValue (option : CliOption)
  | ignoredValue (option : CliOption) (value : String)
  | ambiguous (written : String) (spellings : List String)
  | unrecognized (args : List String)
deriving DecidableEq, Repr

/-- Why a command line is refused, in words. -/
def UsageError.message : UsageError → String
  | expectedValue option =>
    "argument " ++ Text.join "/" option.spellings ++ ": expected one argument"
  | ignoredValue option value =>
    "argument " ++ Text.join "/" option.spellings ++ ": ignored explicit argument " ++
      Json.shownText value
  | ambiguous written spellings =>
    "ambiguous option: " ++ written ++ " could match " ++ Text.join ", " spellings
  | unrecognized args => "unrecognized arguments: " ++ Text.join " " args

/-- What an argument is taken for. -/
inductive ArgumentKind where
  /-- A value, or left over. -/
  | plain
  /-- The two dashes. -/
  | ending
  /-- An option as it was spelled, with the value that was joined to it. -/
  | option (option : CliOption) (short : Bool) (value : Option String)
  /-- An option that there is not. -/
  | unknown
deriving DecidableEq, Repr

/-- An argument and what it is taken for. -/
structure Argument where
  written : String
  kind : ArgumentKind
deriving DecidableEq, Repr

namespace Argument

/-- A text cut at its first equals sign. -/
def cutAtEquals (written : String) : String × Option String :=
  match written.toList.dropWhile (· ≠ '=') with
  | _ :: value => (.ofList (written.toList.takeWhile (· ≠ '=')), some (.ofList value))
  | [] => (written, none)

/-- Whether a spelling is a short one: a dash and a letter. -/
def isShort (spelling : String) : Bool :=
  !Text.startsWith spelling "--"

/-- The options that an argument may mean which is no whole spelling. -/
def candidates (written : String) : List (String × CliOption × Option String) :=
  if isShort written then
    (CliOption.spelled.filter (·.1 == Text.firstPart 2 written)).map fun (spelling, option) =>
      (spelling, option, some (Text.dropFirst 2 written))
  else
    let (start, value) := cutAtEquals written
    (CliOption.spelled.filter (Text.startsWith ·.1 start)).map fun (spelling, option) =>
      (spelling, option, value)

/-- Whether a text is a negative number: a dash, digits, and perhaps a point with digits after
it. -/
def isNegativeNumber (written : String) : Bool :=
  let isDigit (c : Char) := (Text.decimalValue? c).isSome
  match Text.dropEndWhile (· = '\n') written.toList with
  | '-' :: s =>
    match s.dropWhile isDigit with
    | [] => !s.isEmpty
    | '.' :: fraction => !fraction.isEmpty && fraction.all isDigit
    | _ => false
  | _ => false

/-- What an argument is taken for that begins with a dash and has more after it. -/
def classifyDashed (written : String) : Except UsageError ArgumentKind :=
  match CliOption.spelled.lookup written with
  | some option => .ok (.option option (isShort written) none)
  | none =>
    let (spelling, value) := cutAtEquals written
    match value, CliOption.spelled.lookup spelling with
    | some value, some option => .ok (.option option (isShort spelling) (some value))
    | _, _ =>
      match candidates written with
      | [(spelling, option, value)] => .ok (.option option (isShort spelling) value)
      | [] =>
        if isNegativeNumber written || written.toList.contains ' ' then .ok .plain
        else .ok .unknown
      | several => .error (.ambiguous written (several.map Prod.fst))

/-- What an argument is taken for that comes before the two dashes. -/
def classify (written : String) : Except UsageError ArgumentKind :=
  if written = "--" then .ok .ending
  else if Text.startsWith written "-" && written != "-" then classifyDashed written
  else .ok .plain

/-- The arguments with what they are taken for. -/
def classifyAll : List String → Except UsageError (List Argument)
  | [] => .ok []
  | written :: rest => do
    let kind ← classify written
    if kind = .ending then return ⟨written, kind⟩ :: rest.map (⟨·, .plain⟩)
    else return ⟨written, kind⟩ :: (← classifyAll rest)

end Argument

/-- What a command line asks for. -/
structure Options where
  help : Bool := false
  store : StoreOptions := {}
  command? : Option String := none
  script? : Option String := none
deriving DecidableEq, Repr

namespace Options

/-- The options with a flag. -/
def withFlag (options : Options) : CliOption → Options
  | .help => { options with help := true }
  | .memory => { options with store := { options.store with memory := true } }
  | .debug => { options with store := { options.store with debug := true } }
  | _ => options

/-- The options with a value for one of them. Two dashes are no value but end the options, so that
nothing is left of them. -/
def withValue (options : Options) (option : CliOption) (value : String) : Options :=
  let value := if value = "--" then "" else value
  match option with
  | .database => { options with store := { options.store with database? := some value } }
  | .command => { options with command? := some value }
  | .script => { options with script? := some value }
  | _ => options

/-- The options that are spelled in one argument, which may be several short ones, and the arguments
after it that are left. -/
def takeOption (options : Options) (option : CliOption) (short : Bool) (value? : Option String) :
    Nat → List Argument → Except UsageError (Options × List Argument)
  | 0, rest => .ok (options, rest)
  | letters + 1, rest =>
    match option.takesValue, value?, rest with
    | true, some value, _ => .ok (options.withValue option value, rest)
    | true, none, ⟨value, .plain⟩ :: rest => .ok (options.withValue option value, rest)
    | true, none, _ => .error (.expectedValue option)
    | false, none, _ => .ok (options.withFlag option, rest)
    | false, some value, _ =>
      match short, value.toList with
      | true, c :: more =>
        match CliOption.spelled.lookup (.ofList ['-', c]) with
        | some next =>
          (options.withFlag option).takeOption next true
            (if more.isEmpty then none else some (.ofList more)) letters rest
        | none => .error (.ignoredValue option value)
      | _, _ => .error (.ignoredValue option value)

/-- The options that are left to read, and what is left over. Once help is asked for, nothing more
is read. Every round takes an argument. -/
def take (options : Options) (left : List String) :
    Nat → List Argument → Except UsageError (Options × List String)
  | 0, _ | _, [] => .ok (options, left)
  | rounds + 1, ⟨written, kind⟩ :: rest =>
    match kind with
    | .option option short value? => do
      let (options, rest) ← options.takeOption option short value? (written.length + 1) rest
      if options.help then return (options, []) else take options left rounds rest
    | _ => take options (left ++ [written]) rounds rest

/-- What the arguments of a command line ask for. -/
def read (args : List String) : Except UsageError Options := do
  let arguments ← Argument.classifyAll args
  let (options, left) ← take {} [] arguments.length arguments
  if left.isEmpty then return options else throw (.unrecognized left)

end Options

end TreeShell
