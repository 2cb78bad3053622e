import QuizBank.Command

/-!
# Arguments of the command line

The arguments name a command and its options. An option that takes a value has it behind `=` or as
the next argument, and then the value does not start with a dash unless it is nothing else. Options
stand once, except those that collect values. The options of all commands may stand in front of the
command too; behind it they count more.
-/

namespace QuizBank

/-- What an option takes. -/
inductive OptionKind
  | flag
  | help
  | text
  | count
  | list
  deriving DecidableEq

/-- An option. -/
structure OptionSpec where
  long : String
  short : Option Char := none
  kind : OptionKind

/-- Options and their values, in the order in which they were given. A flag has an empty value. -/
abbrev GivenOptions := List (String × String)

/-- Why the arguments make no command: they ask for help, or they are wrong. -/
inductive Refusal
  | help
  | usage
  deriving DecidableEq

namespace Arguments

/-- The options of every command. -/
def commonOptions : List OptionSpec :=
  [⟨"config", none, .text⟩, ⟨"verbose", some 'v', .flag⟩, ⟨"log-json", none, .flag⟩,
    ⟨"help", some 'h', .help⟩]

/-- The names of the commands. -/
def commandNames : List String := ["generate", "validate", "snapshot"]

/-- The options of a command. -/
def commandOptions (command : String) : List OptionSpec :=
  (match command with
    | "generate" => [⟨"bank", none, .text⟩, ⟨"id", none, .text⟩, ⟨"seed", none, .text⟩]
    | "validate" =>
      [⟨"data-dir", none, .text⟩, ⟨"files", none, .list⟩, ⟨"concurrency", none, .count⟩]
    | "snapshot" =>
      [⟨"data-dir", none, .text⟩, ⟨"per-file", none, .count⟩, ⟨"seed-prefix", none, .text⟩,
        ⟨"output", none, .text⟩]
    | _ => []) ++ commonOptions

/-- A count: digits, with a plus sign in front or without, and no more than 64 bits hold. -/
def count? (s : String) : Option Nat :=
  let digits := match s.toList with
    | '+' :: rest => rest
    | chars => chars
  if digits.isEmpty || !digits.all Char.isDigit then none
  else
    let n := Nat.ofDigitChars 10 digits 0
    if n < Nat.pow 2 64 then some n else none

/-- The pieces of a text between its commas. -/
def splitCommas (s : List Char) : List (List Char) :=
  match s with
  | [] => [[]]
  | c :: rest =>
    if c = ',' then [] :: splitCommas rest
    else
      match splitCommas rest with
      | [] => [[c]]
      | piece :: more => (c :: piece) :: more

/-- The values that a given value stands for, if the option accepts it. -/
def valuesOf (kind : OptionKind) (value : String) : Option (List String) :=
  match kind with
  | .count => (count? value).map fun _ => [value]
  | .list => some ((splitCommas value.toList).map String.ofList)
  | _ => some [value]

/-- Adds an option. -/
def add (given : GivenOptions) (spec : OptionSpec) (value : String) :
    Except Refusal GivenOptions :=
  if spec.kind = .help then .error .help
  else if spec.kind ≠ .list ∧ (given.lookup spec.long).isSome then .error .usage
  else
    match valuesOf spec.kind value with
    | some values => .ok (given ++ values.map (spec.long, ·))
    | none => .error .usage

/-- Adds the flags of an argument with one dash. -/
def addShort (specs : List OptionSpec) (given : GivenOptions) : List Char →
    Except Refusal GivenOptions
  | [] => .ok given
  | c :: rest =>
    match specs.find? fun s => s.short = some c with
    | some spec =>
      match add given spec "" with
      | .ok given => addShort specs given rest
      | .error refusal => .error refusal
    | none => .error .usage

/-- The name in an argument with two dashes, and the value behind `=` if there is one. -/
def splitLong (s : List Char) : String × Option String :=
  match s.dropWhile (· != '=') with
  | _ :: value => (String.ofList (s.takeWhile (· != '=')), some (String.ofList value))
  | [] => (String.ofList s, none)

/-- May the argument be the value of the option in front of it? -/
def isValue (argument : String) : Bool :=
  match argument.toList with
  | ['-'] => true
  | '-' :: _ => false
  | _ => true

/-- Takes the options off the front of the arguments, up to the name of a command. What is left
comes second. -/
def scan (specs : List OptionSpec) (commands : List String) (given : GivenOptions) :
    List String → Except Refusal (GivenOptions × List String)
  | [] => .ok (given, [])
  | argument :: rest =>
    if commands.contains argument then .ok (given, argument :: rest)
    else
      match argument.toList with
      | ['-', '-'] => if rest.isEmpty then .ok (given, []) else .error .usage
      | '-' :: '-' :: chars =>
        let (name, attached) := splitLong chars
        match specs.find? fun s => s.long = name with
        | none => .error .usage
        | some spec =>
          if spec.kind = .flag ∨ spec.kind = .help then
            match attached with
            | some _ => .error .usage
            | none =>
              match add given spec "" with
              | .ok given => scan specs commands given rest
              | .error refusal => .error refusal
          else
            match attached, rest with
            | some value, rest =>
              match add given spec value with
              | .ok given => scan specs commands given rest
              | .error refusal => .error refusal
            | none, value :: rest =>
              if isValue value then
                match add given spec value with
                | .ok given => scan specs commands given rest
                | .error refusal => .error refusal
              else .error .usage
            | none, [] => .error .usage
      | '-' :: c :: chars =>
        match addShort specs given (c :: chars) with
        | .ok given => scan specs commands given rest
        | .error refusal => .error refusal
      | _ => .error .usage

/-- The command of a name with its options. -/
def command (name : String) (given : GivenOptions) : Except Refusal Command :=
  let count (option : String) : Option Nat := (given.lookup option).bind count?
  match name with
  | "generate" =>
    match given.lookup "bank", given.lookup "id" with
    | some bank, some id => .ok (.generate bank id ((given.lookup "seed").getD "demo"))
    | _, _ => .error .usage
  | "validate" =>
    .ok (.validate (given.lookup "data-dir")
      ((given.filter fun o => o.1 == "files").map Prod.snd) (count "concurrency"))
  | "snapshot" =>
    .ok (.snapshot (given.lookup "data-dir") (count "per-file") (given.lookup "seed-prefix")
      (given.lookup "output"))
  | _ => .error .usage

/-- The answer to a request for help on commands. -/
def helpOn : List String → Refusal
  | [] => .help
  | [name] => if commandNames.contains name ∨ name = "help" then .help else .usage
  | _ => .usage

/-- Reads arguments. -/
def read (arguments : List String) : Except Refusal Invocation :=
  match scan commonOptions ("help" :: commandNames) [] arguments with
  | .error refusal => .error refusal
  | .ok (_, []) => .error .usage
  | .ok (common, name :: rest) =>
    if name = "help" then .error (helpOn rest)
    else
      match scan (commandOptions name) [] [] rest with
      | .error refusal => .error refusal
      | .ok (own, _) =>
        match command name own with
        | .error refusal => .error refusal
        | .ok command => .ok ⟨(own.lookup "config").or (common.lookup "config"), command⟩

end Arguments
end QuizBank
