import AudioMulticast.CommandLine.Grammar
import AudioMulticast.Text.Blank
import AudioMulticast.Text.Quoted

/-!
# Help on a command line

The help names the purpose of a program, how it is called, and all options: how each is written, what
it is good for and which value holds without it.  The descriptions stand in a column beside the
options, two blanks behind the longest of them.
-/

namespace AudioMulticast
namespace CommandLine

variable {σ : Type}

namespace Choice

/-- Whether an option is followed by a value. -/
def takesValue (choice : Choice σ) : Bool :=
  match choice.effect with
  | .value _ => true
  | .flag _ => false
  | .help => false

/-- What stands for the value of an option: its name in capitals, with underscores for dashes. -/
def placeholder (choice : Choice σ) : List Char :=
  choice.name.toList.map fun c => if c = '-' then '_' else c.toUpper

/-- An option by its name, with its value if it has one. -/
def longForm (choice : Choice σ) : List Char :=
  "--".toList ++ choice.name.toList ++
    if choice.takesValue then " <".toList ++ choice.placeholder ++ ['>'] else []

/-- How an option is written. -/
def synopsis (choice : Choice σ) : List Char :=
  (match choice.letter with
    | some letter => ['-', letter, ',', ' ']
    | none => "    ".toList) ++ choice.longForm

/-- A value as it is shown in the help: quoted if it has blanks. -/
def showStandard (value : String) : List Char :=
  "[default: ".toList ++
    (if value.toList.any Text.isBlank then Text.Quoted.encode value.toList else value.toList) ++ [']']

/-- The description of an option. -/
def description (choice : Choice σ) (settings : σ) : List Char :=
  let summary := if choice.summary = "" then [] else [choice.summary.toList]
  Text.unwords (summary ++ ((choice.standard settings).map showStandard).toList)

end Choice

/-- A text with blanks behind it, up to a width. -/
def padTo (width : Nat) (text : List Char) : List Char :=
  text ++ List.replicate (width - text.length) ' '

/-- Greatest length of the options as they are written. -/
def longestSynopsis (choices : List (Choice σ)) : Nat :=
  (choices.map fun choice => choice.synopsis.length).foldl max 0

/-- The line of an option. -/
def optionLine (choices : List (Choice σ)) (settings : σ) (choice : Choice σ) : List Char :=
  "  ".toList ++ padTo (longestSynopsis choices + 2) choice.synopsis ++
    choice.description settings ++ ['\n']

/-- How a program is called: options may be given, and some have to be. -/
def callForm (name : String) (choices : List (Choice σ)) : List Char :=
  let required := choices.filter fun choice => choice.isRequired
  Text.unwords (name.toList :: "[OPTIONS]".toList :: required.map Choice.longForm)

/-- The help on a program. -/
def renderHelp (name purpose : String) (choices : List (Choice σ)) (settings : σ) : List Char :=
  purpose.toList ++ "\n\nUsage: ".toList ++ callForm name choices ++ "\n\nOptions:\n".toList ++
    choices.flatMap (optionLine choices settings)

end CommandLine
end AudioMulticast
