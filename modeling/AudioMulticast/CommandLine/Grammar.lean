/-!
# Command lines

A command line is read from left to right.  An option has a long name behind two dashes and perhaps a
letter behind one.  Letters may be combined, and the last of them may be an option with a value.  A
value stands behind the option, as the next argument or attached to it; in the latter case an equals
sign may stand between them.  A value that is an argument of its own is examined only when the next
option is complete.
-/

namespace AudioMulticast
namespace CommandLine

/-- Why a command line is not obeyed. -/
inductive UsageError where
  /-- The user asks for help. -/
  | helpRequested
  /-- There is no such option, or an argument is not part of an option. -/
  | unknownArgument
  /-- An option lacks its value. -/
  | missingValue
  /-- A value does not have the form that its option needs. -/
  | invalidValue
  /-- An option is given twice. -/
  | repeatedOption
  /-- A value is attached to an option that takes none. -/
  | unexpectedValue
  /-- An option is not given that has to be. -/
  | missingOption
  deriving DecidableEq, Repr

/-- What is reported about a command line that is not obeyed. -/
def UsageError.message : UsageError → String
  | .helpRequested => "help requested"
  | .unknownArgument => "unexpected argument"
  | .missingValue => "a value is required for an option"
  | .invalidValue => "invalid value for an option"
  | .repeatedOption => "an option cannot be used several times"
  | .unexpectedValue => "unexpected value for an option"
  | .missingOption => "a required option was not given"

/-- What an option does to the settings `σ`. -/
inductive Effect (σ : Type) where
  /-- Ends the reading with a request for help. -/
  | help
  /-- Changes the settings. -/
  | flag (change : σ → σ)
  /-- Changes the settings according to a value, unless the value has the wrong form. -/
  | value (change : List Char → σ → Option σ)

/-- An option of a command line. -/
structure Choice (σ : Type) where
  /-- Letter behind a single dash. -/
  letter : Option Char := none
  /-- Name behind two dashes. -/
  name : String
  /-- What the option is good for, if that needs to be said. -/
  summary : String := ""
  /-- What the option does. -/
  effect : Effect σ
  /-- The value that holds without the option, according to the settings that hold without any. -/
  standard : σ → Option String := fun _ => none
  /-- Whether the option has to be given. -/
  isRequired : Bool := false

/-- The settings that a command line has brought about so far. -/
structure Progress (σ : Type) where
  /-- Settings so far. -/
  settings : σ
  /-- Names of the options that have been completed. -/
  given : List String := []
  /-- The option that is not complete, with its value if that has been seen. -/
  pending : Option (Choice σ × Option (List Char)) := none
  /-- Whether the end of the options has been announced. -/
  isClosed : Bool := false

namespace Progress

variable {σ : Type}

/-- Complete an option with a change of the settings, unless it has been given before. -/
def complete (progress : Progress σ) (choice : Choice σ) (change : σ → Option σ) :
    Except UsageError (Progress σ) :=
  if choice.name ∈ progress.given then
    .error .repeatedOption
  else
    match change progress.settings with
    | some settings => .ok { progress with settings, given := choice.name :: progress.given }
    | none => .error .invalidValue

/-- Complete an option with a value.  Options that take no value are not concerned. -/
def assign (progress : Progress σ) (choice : Choice σ) (text : List Char) :
    Except UsageError (Progress σ) :=
  match choice.effect with
  | .value change => progress.complete choice (change text)
  | .flag _ => .error .unexpectedValue
  | .help => .error .unexpectedValue

/-- Complete the option that is not complete, if there is one. -/
def settle (progress : Progress σ) : Except UsageError (Progress σ) :=
  match progress.pending with
  | none => .ok progress
  | some (_, none) => .error .missingValue
  | some (choice, some text) => { progress with pending := none }.assign choice text

/-- An option without an attached value. -/
def choose (progress : Progress σ) (choice : Choice σ) : Except UsageError (Progress σ) := do
  let settled ← progress.settle
  match choice.effect with
  | .help => .error .helpRequested
  | .flag change => settled.complete choice (some ∘ change)
  | .value _ => return { settled with pending := some (choice, none) }

/-- An option with an attached value. -/
def chooseWith (progress : Progress σ) (choice : Choice σ) (text : List Char) :
    Except UsageError (Progress σ) := do
  match choice.effect with
  | .value _ =>
      let settled ← progress.settle
      settled.assign choice text
  | .flag _ => .error .unexpectedValue
  | .help => .error .unexpectedValue

/-- Options that are given by their letters. -/
def readLetters (choices : List (Choice σ)) (progress : Progress σ) :
    List Char → Except UsageError (Progress σ)
  | [] => .ok progress
  | letter :: rest =>
      match choices.find? fun choice => choice.letter == some letter with
      | none => .error .unknownArgument
      | some choice =>
          match choice.effect, rest with
          | .value _, '=' :: text => progress.chooseWith choice text
          | .value _, first :: text => progress.chooseWith choice (first :: text)
          | _, _ => do
            let chosen ← progress.choose choice
            readLetters choices chosen rest

/-- An option that is given by its name, perhaps with an attached value. -/
def readName (choices : List (Choice σ)) (progress : Progress σ) (text : List Char) :
    Except UsageError (Progress σ) :=
  let name := text.takeWhile (· != '=')
  match choices.find? fun choice => choice.name.toList == name, text.drop name.length with
  | none, _ => .error .unknownArgument
  | some choice, [] => progress.choose choice
  | some choice, _ :: value => progress.chooseWith choice value

/-- An argument that does not start with a dash. -/
def readPlain (progress : Progress σ) (text : List Char) : Except UsageError (Progress σ) :=
  match progress.pending with
  | some (choice, none) => .ok { progress with pending := some (choice, some text) }
  | _ => .error .unknownArgument

/-- Read an argument. -/
def read (choices : List (Choice σ)) (progress : Progress σ) (argument : List Char) :
    Except UsageError (Progress σ) :=
  if progress.isClosed then
    .error .unknownArgument
  else
    match argument with
    | ['-', '-'] => .ok { progress with isClosed := true }
    | '-' :: '-' :: text => progress.readName choices text
    | ['-'] => progress.readPlain argument
    | '-' :: letters => progress.readLetters choices letters
    | _ => progress.readPlain argument

end Progress

/-- Read a command line, starting from the settings that hold without options. -/
def readArguments {σ : Type} (choices : List (Choice σ)) (settings : σ)
    (arguments : List String) : Except UsageError σ := do
  let start : Progress σ := { settings }
  let read ← (arguments.map String.toList).foldlM (Progress.read choices) start
  let settled ← read.settle
  if choices.all fun choice => !choice.isRequired || settled.given.contains choice.name then
    return settled.settings
  else
    .error .missingOption

end CommandLine
end AudioMulticast
