import Taskbook.Settings

/-! What the program is asked to do, read from the arguments of its command line.

Arguments are read from left to right. The value of an option is judged when the next option is met
or when the arguments end, so that an argument that makes no sense at all is reported first. -/

set_option autoImplicit false

namespace Taskbook

inductive Shell where
  | bash
  | elvish
  | fish
  | powershell
  | zsh
  deriving DecidableEq, Repr

namespace Shell

def name : Shell → String
  | bash => "bash"
  | elvish => "elvish"
  | fish => "fish"
  | powershell => "powershell"
  | zsh => "zsh"

def ofName? (name : String) : Option Shell :=
  [bash, elvish, fish, powershell, zsh].find? fun shell => shell.name = name

end Shell

inductive Subcommand where
  | generateConfig (folder : Option String)
  | generateCompletions (shell : Shell)
  deriving DecidableEq, Repr

inductive UsageError where
  | unknownArgument
  | unknownSubcommand
  /-- The value of an option or an operand is missing, empty or not among those accepted. -/
  | invalidValue
  /-- An option is given twice. -/
  | conflict
  /-- A subcommand lacks its operand. -/
  | missingOperand
  /-- An option that takes no value has one. -/
  | unneededValue
  deriving DecidableEq, Repr

def UsageError.message : UsageError → String
  | unknownArgument => "unexpected argument"
  | unknownSubcommand => "unrecognized subcommand"
  | invalidValue => "missing or invalid value"
  | conflict => "an option cannot be used multiple times"
  | missingOperand => "a required argument was not provided"
  | unneededValue => "unexpected value for an option"

inductive Refrain where
  | help
  | version
  | misuse (error : UsageError)
  deriving DecidableEq, Repr

/-- What is asked for; without a subcommand it is a session. -/
structure Invocation where
  choices : Choices
  subcommand : Option Subcommand
  deriving DecidableEq, Repr

namespace Invocation

inductive Choice where
  | dataFile
  | configPath
  deriving DecidableEq, Repr

inductive Flag where
  | choice (which : Choice) (attached : Option String)
  | help
  | version
  /-- A flag without a value that has one attached. -/
  | overfull
  | unknown
  deriving DecidableEq, Repr

def splitLong (s : List Char) : String × Option String :=
  match s.dropWhile fun c => c ≠ '=' with
  | [] => (String.ofList s, none)
  | _ :: value => (String.ofList (s.takeWhile fun c => c ≠ '='), some (String.ofList value))

def attached? : List Char → Option String
  | [] => none
  | '=' :: value | value => some (String.ofList value)

/-- The flag that an argument is, unless it is a plain word. A subcommand has no flags but those for
help. -/
def flag? (arg : String) (isTop : Bool) : Option Flag :=
  match arg.toList with
  | '-' :: '-' :: rest =>
    let (name, value) := splitLong rest
    let isHelp := name = "help"
    let isVersion := isTop && name = "version"
    if isHelp || isVersion then
      some (if value.isSome then .overfull else if isHelp then .help else .version)
    else if isTop && name = "data-file" then some (.choice .dataFile value)
    else if isTop && name = "config-path" then some (.choice .configPath value)
    else some .unknown
  | '-' :: letter :: rest =>
    if letter = 'h' then some .help
    else if isTop && letter = 'V' then some .version
    else if isTop && letter = 'd' then some (.choice .dataFile (attached? rest))
    else if isTop && letter = 'c' then some (.choice .configPath (attached? rest))
    else some .unknown
  | _ => none

inductive Name where
  | help
  | generateConfig
  | generateCompletions
  deriving DecidableEq, Repr

def Name.ofText? : String → Option Name
  | "help" => some .help
  | "generate-config" => some .generateConfig
  | "generate-completions" => some .generateCompletions
  | _ => none

/-- What has been read: the options so far, and one whose value is still to be judged or to come. -/
structure Progress where
  choices : Choices
  pending : Option (Choice × Option String)
  deriving DecidableEq, Repr

namespace Progress

/-- Whether the next argument is a value unless it begins with a dash. -/
def awaitsValue (p : Progress) : Bool :=
  match p.pending with
  | some (_, none) => true
  | _ => false

def choose (choices : Choices) (which : Choice) (value : String) : Except Refrain Choices :=
  let isSet := match which with
    | .dataFile => choices.dataFile.isSome
    | .configPath => choices.configPath.isSome
  if isSet then .error (.misuse .conflict)
  else if value = "" then .error (.misuse .invalidValue)
  else
    match which with
    | .dataFile => .ok { choices with dataFile := some value }
    | .configPath => .ok { choices with configPath := some value }

def settle (p : Progress) : Except Refrain Choices :=
  match p.pending with
  | none => .ok p.choices
  | some (_, none) => .error (.misuse .invalidValue)
  | some (which, some value) => choose p.choices which value

def meet (p : Progress) : Flag → Except Refrain Progress
  | .unknown => .error (.misuse .unknownArgument)
  | .overfull => .error (.misuse .unneededValue)
  | .help => p.settle.bind fun _ => .error .help
  | .version => p.settle.bind fun _ => .error .version
  | .choice which none => p.settle.map fun choices => ⟨choices, some (which, none)⟩
  | .choice which (some value) => do
    let choices ← p.settle
    return ⟨← choose choices which value, none⟩

end Progress

def helpAbout : List String → Refrain
  | [] => .help
  | name :: rest =>
    if (Name.ofText? name).isSome && rest.isEmpty then .help else .misuse .unknownSubcommand

/-- The operand of a subcommand, which takes one at most. Behind two dashes everything is an
operand. -/
def operand? (accepts : String → Bool) (found : Option String) (isTrailing : Bool) :
    List String → Except Refrain (Option String)
  | [] => if found.all accepts then .ok found else .error (.misuse .invalidValue)
  | arg :: rest =>
    if !isTrailing && arg = "--" then operand? accepts found true rest
    else
      match if isTrailing then none else flag? arg false with
      | some .help => .error (if found.all accepts then .help else .misuse .invalidValue)
      | some .overfull => .error (.misuse .unneededValue)
      | some _ => .error (.misuse .unknownArgument)
      | none =>
        if found.isSome then .error (.misuse .unknownArgument)
        else operand? accepts (some arg) isTrailing rest

def readSubcommand (name : Name) (rest : List String) : Except Refrain Subcommand :=
  match name with
  | .help => .error (helpAbout rest)
  | .generateConfig => (operand? (· ≠ "") none false rest).map .generateConfig
  | .generateCompletions =>
    match operand? (fun name => (Shell.ofName? name).isSome) none false rest with
    | .error e => .error e
    | .ok name =>
      match name.bind Shell.ofName? with
      | none => .error (.misuse .missingOperand)
      | some shell => .ok (.generateCompletions shell)

/-- Behind two dashes stand operands only, and the program itself takes none. -/
def afterDashes (p : Progress) : List String → Except Refrain Invocation
  | [] => p.settle.map fun choices => ⟨choices, none⟩
  | arg :: _ =>
    .error (.misuse (if (Name.ofText? arg).isSome then .unknownArgument else .unknownSubcommand))

def read (p : Progress) : List String → Except Refrain Invocation
  | [] => p.settle.map fun choices => ⟨choices, none⟩
  | arg :: rest =>
    match if p.awaitsValue then none else Name.ofText? arg with
    | some name => do
      let subcommand ← readSubcommand name rest
      return ⟨← p.settle, some subcommand⟩
    | none =>
      if arg = "--" then afterDashes p rest
      else
        match flag? arg true, p.pending with
        | some flag, _ => (p.meet flag).bind fun p => read p rest
        | none, some (which, none) => read { p with pending := some (which, some arg) } rest
        | none, _ => .error (.misuse .unknownSubcommand)

def ofArguments (args : List String) : Except Refrain Invocation := read ⟨⟨none, none⟩, none⟩ args

end Invocation

end Taskbook
