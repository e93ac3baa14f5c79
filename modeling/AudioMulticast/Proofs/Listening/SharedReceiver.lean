import AudioMulticast.Listening.Receiver
import AudioMulticast.Proofs.Menu.SharedDial
import AudioMulticast.Proofs.Playback.SharedReception

/-!
# A receiver whose tasks alternate

The tasks of a receiver work on the choice of a station, which is a dial, and on the stream that is
received.  Each of these is shared on its own: the steps that concern the choice are the steps of a
shared dial, and all steps of a receiver are steps of a shared reception.  What connects the two is
the station that is played and the flag, which the choice changes at once, whereas the packets are
only forgotten when the monitor takes notice of the flag.
-/

namespace AudioMulticast
namespace Listening

open Menu Playback

/-- A packet that turned out to be missing, and the packet that has revealed it. -/
structure Revelation where
  id : PacketId
  /-- The packet that has revealed it, with the station that was active when it was accepted. -/
  admission : Admission
  deriving DecidableEq

/-- A receiver, and what its tasks are about to do. -/
structure SharedReceiver where
  receiver : Receiver
  now : Nat
  /-- What the roster has answered so far, by numbers. -/
  answers : List (Option Station)
  /-- Numbers of the answers that tasks are about to tune to. -/
  pending : List Nat
  /-- Number of the answer that was tuned to last. -/
  tuned : Nat
  /-- Who holds the lock on the stream. -/
  holder : Holder
  /-- The station that the monitor was told when it lowered the flag last. -/
  collected : Option Station
  /-- What has been stored since the packets were forgotten last. -/
  written : List Admission
  /-- The packets that turned out to be missing so far. -/
  revealed : List Revelation

namespace SharedReceiver

/-- A receiver that has not started to work. -/
def new (config : Config) : SharedReceiver :=
  { receiver := .new config
    now := 0
    answers := [none]
    pending := []
    tuned := 0
    holder := .nobody
    collected := none
    written := []
    revealed := [] }

/-- The part that is concerned with the choice of a station. -/
def choice (shared : SharedReceiver) : SharedDial :=
  { dial := shared.receiver.dial
    now := shared.now
    answers := shared.answers
    pending := shared.pending
    tuned := shared.tuned }

/-- Replace the part that is concerned with the choice of a station. -/
def withChoice (shared : SharedReceiver) (choice : SharedDial) : SharedReceiver :=
  { shared with
    receiver := shared.receiver.withDial choice.dial
    now := choice.now
    answers := choice.answers
    pending := choice.pending
    tuned := choice.tuned }

/-- The part that is concerned with the stream. -/
def stream (shared : SharedReceiver) : SharedReception :=
  { reception := shared.receiver.reception, holder := shared.holder, written := shared.written }

/-- Replace the stream that is received. -/
def withReception (shared : SharedReceiver) (reception : Reception) : SharedReceiver :=
  { shared with receiver := { shared.receiver with reception } }

/-- The intake has accepted a packet, and keeps the lock until it has stored it. -/
def accept (shared : SharedReceiver) (packet : DataPacket) : SharedReceiver :=
  { shared.withReception (shared.receiver.reception.screen packet.session).1 with
    holder := .intake { packet, station := shared.receiver.station.map Station.identity } }

/-- The intake has stored a packet, which has revealed others as missing. -/
def keep (shared : SharedReceiver) (admission : Admission) (received : Reception)
    (missed : List PacketId) : SharedReceiver :=
  { shared.withReception received with
    holder := .nobody
    written := admission :: shared.written
    revealed := (missed.map fun id => { id, admission }) ++ shared.revealed }

/-- The monitor has lowered the flag, and keeps the lock if it was raised. -/
def collect (shared : SharedReceiver) : SharedReceiver :=
  let (tuning, station, isDue) := shared.receiver.reception.tuning.collect
  { shared.withReception { shared.receiver.reception with tuning } with
    holder := if isDue then .monitor else .nobody
    collected := station }

/-- The monitor has started over with the station that it was told, and releases the lock. -/
def restart (shared : SharedReceiver) (host : Host) : SharedReceiver :=
  { shared with
    receiver := shared.receiver.restart host shared.collected
    holder := .nobody
    written := [] }

/-- What a task can do next, or the clock. -/
inductive Step : SharedReceiver → SharedReceiver → Prop where
  /-- A reply, a lookup, a listener or the menu takes a step, or time passes. -/
  | choose {shared : SharedReceiver} {choice : SharedDial}
      (step : SharedDial.Step shared.choice choice) : Step shared (shared.withChoice choice)
  /-- The intake screens a packet and ignores it. -/
  | ignore {shared : SharedReceiver} {packet : DataPacket} (free : shared.holder = .nobody)
      (subscribed : shared.receiver.subscription.isSome = true)
      (ignored : (shared.receiver.reception.screen packet.session).2 = true) :
      Step shared (shared.withReception (shared.receiver.reception.screen packet.session).1)
  /-- The intake screens a packet and accepts it. -/
  | accept {shared : SharedReceiver} {packet : DataPacket} (free : shared.holder = .nobody)
      (subscribed : shared.receiver.subscription.isSome = true)
      (accepted : (shared.receiver.reception.screen packet.session).2 = false) :
      Step shared (shared.accept packet)
  /-- The intake stores the packet that it has accepted. -/
  | store {shared : SharedReceiver} {admission : Admission} {received : Reception}
      {missed : List PacketId} (held : shared.holder = .intake admission)
      (stored :
        shared.receiver.reception.store shared.now admission.packet = .ok (received, missed)) :
      Step shared (shared.keep admission received missed)
  /-- Playback takes the next piece of audio, or demands that playback starts over. -/
  | play {shared : SharedReceiver} {played : Reception} {piece : Option Bytes}
      (found : shared.receiver.reception.play = .ok (played, piece)) :
      Step shared (shared.withReception played)
  /-- Missing packets are requested. -/
  | request (shared : SharedReceiver) (channel : Channel) (forgotten : List PacketId) :
      Step shared
        { shared with
          receiver := (shared.receiver.requestMissing shared.now channel forgotten).1 }
  /-- The monitor takes notice of the flag. -/
  | collect {shared : SharedReceiver} (free : shared.holder = .nobody) :
      Step shared shared.collect
  /-- The monitor starts over. -/
  | restart {shared : SharedReceiver} (host : Host) (held : shared.holder = .monitor) :
      Step shared (shared.restart host)

variable {shared after : SharedReceiver}

/-! ## The steps of the stream -/

/-- A step of the choice keeps what the receiver is tuned to, or tunes to a station. -/
theorem tuning_of_choice_step {choice next : SharedDial} (step : SharedDial.Step choice next) :
    next.dial.tuning = choice.dial.tuning ∨
      ∃ station, next.dial.tuning = (choice.dial.tuning.choose station).1 := by
  cases step with
  | reply replied => exact .inl rfl
  | press direction => exact .inl rfl
  | look => exact .inl rfl
  | @tune number station due answered => exact .inr ⟨station, rfl⟩
  | draw => exact .inl rfl
  | wait duration => exact .inl rfl

theorem restart_reception_cases (receiver : Receiver) (host : Host) (station : Option Station) :
    (receiver.restart host station).reception = receiver.reception.reset ∨
      (receiver.restart host station).reception = receiver.reception.reset.demandRestart := by
  cases station with
  | none => exact .inl rfl
  | some station =>
      rw [Receiver.restart, Receiver.subscribe]
      split_ifs
      · exact .inl rfl
      · exact .inr rfl

/-- Each step of a receiver is made of steps of the stream that it receives. -/
theorem reflTransGen_stream (step : Step shared after) :
    Relation.ReflTransGen SharedReception.Step shared.stream after.stream := by
  cases step with
  | @choose choice step =>
      rcases tuning_of_choice_step step with same | ⟨station, chosen⟩
      · have stream_eq : (shared.withChoice choice).stream = shared.stream := by
          simp only [stream, withChoice, Receiver.withDial, same]
          rfl
        rw [stream_eq]
      · simp only [stream, withChoice, Receiver.withDial, chosen]
        exact .single (.choose shared.stream station)
  | @ignore packet free subscribed ignored =>
      exact .single (@SharedReception.Step.ignore shared.stream packet free ignored)
  | @accept packet free subscribed accepted =>
      exact .single (@SharedReception.Step.accept shared.stream packet free accepted)
  | @store admission received missed held stored =>
      exact .single (@SharedReception.Step.store shared.stream admission _ _ _ held stored)
  | @play played piece found =>
      exact .single (@SharedReception.Step.play shared.stream _ _ found)
  | request channel forgotten =>
      exact .single (.round shared.stream shared.now forgotten)
  | collect free =>
      exact .single (@SharedReception.Step.collect shared.stream free)
  | restart host held =>
      have reset := @SharedReception.Step.reset shared.stream held
      have restarted := restart_reception_cases shared.receiver host shared.collected
      -- A subscription that fails raises the flag again, which any task may do.
      rcases restarted with emptied | demanded
      · simp only [stream, restart, emptied]
        exact .single reset
      · simp only [stream, restart, demanded]
        exact (Relation.ReflTransGen.single reset).tail (.demand _)

/-- In whatever order the tasks take their steps, what is known of a shared reception holds of the
stream. -/
theorem exists_remembers_and_unmixed_of_reached {config : Config}
    (size_lt : config.bufferSize < Word.count)
    (reached : Relation.ReflTransGen Step (new config) shared) :
    (∃ journal, shared.stream.Remembers journal) ∧ ∃ source, shared.stream.Unmixed source :=
  @SharedReception.exists_remembers_and_unmixed shared.stream ⟨config.bufferSize, size_lt⟩
    config.requestInterval (reached.lift' stream fun _ _ step => reflTransGen_stream step)

/-! ## Tasks without an interruption -/

theorem reflTransGen_withChoice {choice : SharedDial}
    (steps : Relation.ReflTransGen SharedDial.Step shared.choice choice) :
    Relation.ReflTransGen Step shared (shared.withChoice choice) := by
  induction steps with
  | refl => exact .refl
  | tail _ step ih => exact ih.tail (.choose step)

/-- The receiver when a reply is handled without an interruption. -/
def hear (shared : SharedReceiver) (station : Station) : SharedReceiver :=
  shared.withChoice (shared.choice.hear station)

theorem reflTransGen_hear {station : Station} (replied : station.lastReply ≤ shared.now) :
    Relation.ReflTransGen Step shared (shared.hear station) :=
  reflTransGen_withChoice (SharedDial.reflTransGen_hear replied)

theorem handleControl_eq_hear {datagram : Bytes} {reply : Reply}
    (read : ControlMessage.decode datagram = .ok (.reply reply)) (source : Endpoint) :
    shared.receiver.handleControl shared.now datagram source =
      (shared.hear (.ofReply reply source shared.now)).receiver := by
  rw [Receiver.handleControl, read]
  rfl

/-- The receiver when it starts over without an interruption. -/
def startOver (shared : SharedReceiver) (host : Host) : SharedReceiver :=
  shared.collect.restart host

theorem reflTransGen_startOver (host : Host) (free : shared.holder = .nobody)
    (raised : shared.receiver.isRestartDue = true) :
    Relation.ReflTransGen Step shared (shared.startOver host) :=
  (Relation.ReflTransGen.single (Step.collect free)).tail (.restart host (if_pos raised))

theorem restartIfDue_eq_startOver (host : Host) (raised : shared.receiver.isRestartDue = true) :
    shared.receiver.restartIfDue host = (shared.startOver host).receiver :=
  if_pos raised

/-- The receiver when a packet is accepted and stored without an interruption.  Nothing comes of a
packet for which a calculation overflows. -/
def takeIn (shared : SharedReceiver) (packet : DataPacket) : SharedReceiver :=
  match shared.receiver.reception.receive shared.now packet with
  | .ok (received, missed) =>
      shared.keep { packet, station := shared.receiver.station.map Station.identity }
        received missed
  | .error _ => shared

theorem reflTransGen_takeIn {packet : DataPacket} (free : shared.holder = .nobody)
    (subscribed : shared.receiver.subscription.isSome = true)
    (accepted : (shared.receiver.reception.screen packet.session).2 = false) :
    Relation.ReflTransGen Step shared (shared.takeIn packet) := by
  rw [takeIn]
  split
  · next received missed received_eq =>
    have stored : (shared.receiver.reception.screen packet.session).1.store shared.now packet =
        .ok (received, missed) := by
      rw [Reception.receive] at received_eq
      split at received_eq
      · next screened screen_eq =>
        rw [screen_eq] at accepted
        cases accepted
      · next screened screen_eq =>
        rw [screen_eq]
        exact received_eq
    exact (Relation.ReflTransGen.single (Step.accept free subscribed accepted)).tail
      (@Step.store (shared.accept packet) _ _ _ rfl stored)
  · exact .refl

end SharedReceiver
end Listening
end AudioMulticast
