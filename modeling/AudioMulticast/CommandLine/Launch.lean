import AudioMulticast.Broadcast.Config
import AudioMulticast.Broadcast.History
import AudioMulticast.CommandLine.Help
import AudioMulticast.Listening.Config

/-!
# Launching the programs

The sender and the receiver take their settings from the command line.  A program starts to work only
if its command line can be read, its settings are accepted, and there is the memory that it needs;
otherwise its exit code tells what is wrong.
-/

namespace AudioMulticast
namespace CommandLine

open Text

/-- The settings of a program, with how much it is to report about its work. -/
structure Arguments (σ : Type) where
  /-- Settings of the program. -/
  config : σ
  /-- Whether more than usual is reported. -/
  isVerbose : Bool := false
  /-- Whether everything is reported. -/
  isVeryVerbose : Bool := false
  deriving DecidableEq, Repr

variable {σ : Type}

/-- An option whose value is read in some form and then stored in the settings. -/
def valued {ν : Type} (letter : Char) (name summary : String) (read : List Char → Option ν)
    (store : ν → σ → σ) (standard : σ → Option String) : Choice (Arguments σ) :=
  { letter := some letter
    name
    summary
    effect := .value fun text arguments =>
      (read text).map fun value => { arguments with config := store value arguments.config }
    standard := fun arguments => standard arguments.config }

/-- A port; zero may have a minus sign. -/
def portValue (text : List Char) : Option Port :=
  (Decimal.ofSignedText? 65536 text).map UInt16.ofNat

/-- An option for a port. -/
def portChoice (letter : Char) (name : String) (store : Port → σ → σ) (load : σ → Port) :
    Choice (Arguments σ) :=
  valued letter name "" portValue store fun config => some (toString (load config).toNat)

/-- A number of bytes or milliseconds. -/
def numberValue (text : List Char) : Option Nat :=
  Decimal.ofText? Word.count text

/-- An option for a number of bytes or milliseconds. -/
def numberChoice (letter : Char) (name summary : String) (store : Nat → σ → σ) (load : σ → Nat) :
    Choice (Arguments σ) :=
  valued letter name summary numberValue store fun config => some (toString (load config))

/-- An option for a name. -/
def nameChoice (letter : Char) (name summary : String) (store : String → σ → σ)
    (load : σ → Option String) : Choice (Arguments σ) :=
  valued letter name summary (fun text => some (String.ofList text)) store load

/-- The options that all programs have. -/
def generalChoices : List (Choice (Arguments σ)) :=
  [{ letter := some 'v', name := "verbose", effect := .flag ({ · with isVerbose := true }) },
   { name := "very-verbose", effect := .flag ({ · with isVeryVerbose := true }) },
   { letter := some 'h', name := "help", summary := "Print help", effect := .help }]

/-- The options of the sender. -/
def senderChoices : List (Choice (Arguments Broadcast.Config)) :=
  { valued 'a' "mcast-addr" "multicast address to send audio to" Address.ofText?
      (fun value config => { config with group := value }) (fun _ => none) with
    isRequired := true } ::
  portChoice 'P' "data-port" (fun value config => { config with dataPort := value }) (·.dataPort) ::
  portChoice 'C' "ctrl-port" (fun value config => { config with controlPort := value })
    (·.controlPort) ::
  numberChoice 'p' "packet-size" "audio bytes per packet"
    (fun value config => { config with packetSize := value }) (·.packetSize) ::
  numberChoice 'f' "cache-size" "bytes of audio kept for retransmission"
    (fun value config => { config with cacheSize := value }) (·.cacheSize) ::
  numberChoice 'R' "rexmit-interval" "retransmission interval in milliseconds"
    (fun value config => { config with resendInterval := value }) (·.resendInterval) ::
  nameChoice 'n' "name" "" (fun value config => { config with name := value }) (some ·.name) ::
  generalChoices

/-- The options of the receiver. -/
def receiverChoices : List (Choice (Arguments Listening.Config)) :=
  valued 'd' "discover-addr" "address that station lookups are sent to" Address.ofText?
    (fun value config => { config with discovery := value })
    (fun config => some (toString config.discovery)) ::
  portChoice 'C' "ctrl-port" (fun value config => { config with controlPort := value })
    (·.controlPort) ::
  portChoice 'U' "ui-port" (fun value config => { config with menuPort := value }) (·.menuPort) ::
  numberChoice 'b' "buffer-size" "bytes of audio buffered before playback starts"
    (fun value config => { config with bufferSize := value }) (·.bufferSize) ::
  numberChoice 'R' "rexmit-interval" "retransmission interval in milliseconds"
    (fun value config => { config with requestInterval := value }) (·.requestInterval) ::
  nameChoice 'n' "name" "station to play as soon as it is found"
    (fun value config => { config with preferred := some value }) (·.preferred) ::
  generalChoices

/-- A program that takes its settings from a command line. -/
structure Program (σ : Type) where
  /-- Name under which the program is called. -/
  name : String
  /-- What the program does. -/
  purpose : String
  /-- The options of the program. -/
  choices : List (Choice (Arguments σ))
  /-- The settings that hold without options. -/
  standard : σ
  /-- Checks the settings, and answers what is wrong with them. -/
  check : σ → Except Overflow (Except String Unit)
  /-- Number of bytes in the block of memory that the program needs. -/
  memory : σ → Nat

/-- The sender.  Its group has to be given. -/
def sender : Program Broadcast.Config where
  name := "wavecast-sender"
  purpose := "Broadcasts audio from stdin to a multicast group"
  choices := senderChoices
  standard := { group := .unspecified }
  check config := return (← config.validate).mapError Broadcast.ConfigError.message
  memory config := (Broadcast.History.new config.cacheCapacity config.packetSize).memory

/-- The receiver. -/
def receiver : Program Listening.Config where
  name := "wavecast-receiver"
  purpose := "Plays a station's audio to stdout, with a station menu on a telnet port"
  choices := receiverChoices
  standard := {}
  check config := .ok (config.validate.mapError Listening.ConfigError.message)
  memory _ := 0

/-- What becomes of a program that is launched. -/
inductive Launch (σ : Type) where
  /-- It shows a help and does nothing else. -/
  | explained (help : List Char)
  /-- Its command line cannot be obeyed. -/
  | refused (error : UsageError)
  /-- Its settings are not accepted, for the given reason. -/
  | rejected (reason : String)
  /-- A calculation fails while its settings are checked or its memory is laid out. -/
  | crashed (calculation : Overflow)
  /-- There is not enough memory for a block of so many bytes. -/
  | aborted (bytes : Nat)
  /-- It works with the given settings until it is interrupted or its input ends. -/
  | works (arguments : Arguments σ)

namespace Program

/-- Read the command line of a program. -/
def read (program : Program σ) (arguments : List String) : Except UsageError (Arguments σ) :=
  readArguments program.choices { config := program.standard } arguments

/-- The help on a program. -/
def help (program : Program σ) : List Char :=
  renderHelp program.name program.purpose program.choices { config := program.standard }

/-- Lay the memory of a program out, of which there are `available` bytes, and let it work. -/
def begin (program : Program σ) (available : Nat) (arguments : Arguments σ) : Launch σ :=
  let bytes := program.memory arguments.config
  match Memory.request bytes with
  | .error calculation => .crashed calculation
  | .ok () => if available < bytes then .aborted bytes else .works arguments

/-- Launch a program where there are `available` bytes of memory. -/
def launch (program : Program σ) (available : Nat) (arguments : List String) : Launch σ :=
  match program.read arguments with
  | .error .helpRequested => .explained program.help
  | .error error => .refused error
  | .ok arguments =>
      match program.check arguments.config with
      | .error calculation => .crashed calculation
      | .ok (.error reason) => .rejected reason
      | .ok (.ok ()) => program.begin available arguments

end Program

namespace Launch

/-- The exit code of a program.  A program that is aborted has none. -/
def exitCode : Launch σ → Option UInt32
  | .explained _ => some 0
  | .refused _ => some 2
  | .rejected _ => some 1
  | .crashed _ => some 101
  | .aborted _ => none
  | .works _ => some 0

/-- The line in which a program reports why its settings are not accepted. -/
def errorLine : Launch σ → Option String
  | .rejected reason => some ("Error: " ++ reason)
  | _ => none

/-- What a program writes before it begins to work. -/
def output : Launch σ → List Char
  | .explained help => help
  | _ => []

end Launch
end CommandLine
end AudioMulticast
