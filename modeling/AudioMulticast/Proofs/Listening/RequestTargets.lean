import AudioMulticast.Proofs.Listening.SharedReceiver
import AudioMulticast.Proofs.Playback.GapTimes
import AudioMulticast.Proofs.Playback.ReceptionSteps
import AudioMulticast.Proofs.Wire.ControlMessageText
import AudioMulticast.Proofs.Wire.Sending

/-!
# Where missing packets are requested

A request for missing packets goes to the station that is played.  The packets turned out to be
missing while packets of a single stream were accepted, but the station may have been changed since
then: the choice of another station takes effect at once, and the schedule is only cleared when
playback starts over.  The requests of a round without an interruption go astray in between, and at
no other time.
-/

namespace AudioMulticast
namespace Listening
namespace SharedReceiver

open Menu Playback
open SharedDial (announced)

variable {shared after : SharedReceiver} {config : Config}

/-- Whether a packet turned out to be missing while the station with a control endpoint was
active. -/
def Concerns (shared : SharedReceiver) (id : PacketId) (target : Endpoint) : Prop :=
  ∃ revelation ∈ shared.revealed, revelation.id = id ∧
    ∃ name stream, revelation.admission.station = some (name, target, stream)

/-- Whether all packets that a datagram requests concern the station that it is sent to. -/
def IsWellAddressed (shared : SharedReceiver) (request : Endpoint × Bytes) : Prop :=
  ∀ ids, request.2 = (ControlMessage.request ids).encode →
    ∀ id ∈ ids, shared.Concerns id request.1

/-- What is sent for a round of requests, if the receiver has become another one since the round. -/
def sentForRound (shared : SharedReceiver) (later : Receiver) (channel : Channel)
    (forgotten : List PacketId) : List (Endpoint × Bytes) :=
  let round := (shared.receiver.reception.nextRound shared.now forgotten).2
  (later.request channel round.request).sent.toList.drop channel.sent.size

/-- What is sent in a round of requests without an interruption. -/
def sentInRound (shared : SharedReceiver) (channel : Channel) (forgotten : List PacketId) :
    List (Endpoint × Bytes) :=
  (shared.receiver.requestMissing shared.now channel forgotten).2.1.sent.toList.drop
    channel.sent.size

theorem sentInRound_eq_sentForRound (shared : SharedReceiver) (channel : Channel)
    (forgotten : List PacketId) :
    shared.sentInRound channel forgotten =
      shared.sentForRound shared.receiver channel forgotten :=
  rfl

/-! ## What is in the schedule -/

/-- Whatever is in the schedule turned out to be missing when a packet was stored, and the packets
have not been forgotten since. -/
def IsAccountable (shared : SharedReceiver) : Prop :=
  ∀ id, (shared.receiver.reception.gaps.dueTime? id).isSome = true →
    ∃ revelation ∈ shared.revealed, revelation.id = id ∧ revelation.admission ∈ shared.written

theorem isAccountable_new (config : Config) : (new config).IsAccountable := by
  intro id scheduled
  have absent : (new config).receiver.reception.gaps.dueTime? id = none :=
    Std.TreeMap.getElem?_emptyc
  rw [absent] at scheduled
  cases scheduled

theorem IsAccountable.keep (accountable : shared.IsAccountable) {admission : Admission}
    {received : Reception} {missed : List PacketId}
    (gaps_eq : received.gaps = shared.receiver.reception.gaps.add missed shared.now) :
    (shared.keep admission received missed).IsAccountable := by
  intro id scheduled
  have scheduled : (received.gaps.dueTime? id).isSome = true := scheduled
  rw [gaps_eq, GapSchedule.isSome_dueTime?_add] at scheduled
  rcases scheduled with before | revealed
  · obtain ⟨revelation, member, id_eq, stored⟩ := accountable id before
    exact ⟨revelation, List.mem_append_right _ member, id_eq, List.mem_cons_of_mem _ stored⟩
  · exact ⟨{ id, admission }, List.mem_append_left _ (List.mem_map_of_mem revealed), rfl,
      List.mem_cons_self⟩

theorem IsAccountable.step {journal : Journal} (accountable : shared.IsAccountable)
    (remembers : shared.stream.Remembers journal) (step : Step shared after) :
    after.IsAccountable := by
  have follows := remembers.follows
  cases step with
  | choose step => exact accountable
  | ignore free subscribed ignored => exact accountable
  | accept free subscribed accepted => exact accountable
  | @store admission received missed held stored =>
      refine accountable.keep ?_
      rcases follows.store_cases stored with ⟨rfl, rfl⟩ | ⟨_, -, -, rfl⟩
      · rfl
      · rfl
  | play found =>
      obtain ⟨-, gaps_eq, -⟩ := follows.play_cases found
      intro id scheduled
      exact accountable id (gaps_eq ▸ scheduled)
  | request channel forgotten =>
      let after := (shared.receiver.reception.gaps.next forgotten shared.now).1
      intro id scheduled
      have scheduled : (after.dueTime? id).isSome = true := scheduled
      exact accountable id (GapSchedule.isSome_dueTime?_next.mp scheduled).1
  | collect free => exact accountable
  | restart host held =>
      intro id scheduled
      have gaps_eq : (shared.restart host).receiver.reception.gaps =
          shared.receiver.reception.gaps.clear := by
        rcases restart_reception_cases shared.receiver host shared.collected with same | same
        · exact congrArg Reception.gaps same
        · exact congrArg Reception.gaps same
      rw [gaps_eq, GapSchedule.dueTime?_clear] at scheduled
      cases scheduled

/-! ## What is sent in a round -/

/-- Requests go to the station that is played when they are sent, and ask for packets that were in
the schedule when the round took place. -/
theorem exists_of_mem_sentForRound {later : Receiver} {channel : Channel}
    {forgotten : List PacketId} {request : Endpoint × Bytes}
    (sent : request ∈ shared.sentForRound later channel forgotten) :
    ∃ station group, later.station = some station ∧
      request = (station.control, (ControlMessage.request group).encode) ∧
      ∀ id ∈ group, (shared.receiver.reception.gaps.dueTime? id).isSome = true := by
  let due := (shared.receiver.reception.gaps.next forgotten shared.now).2
  let missing := due.filter shared.receiver.reception.window.isMissing
  have missing_eq :
      (shared.receiver.reception.nextRound shared.now forgotten).2.request = missing := by
    rw [Reception.nextRound_eq]
  rw [sentForRound, missing_eq, Receiver.request] at sent
  cases playing : later.station with
  | none =>
      rw [playing, ← Array.length_toList, List.drop_length] at sent
      cases sent
  | some station =>
      obtain ⟨added, sent_eq, announced⟩ := channel.exists_sent_foldl_announce station.control
        (ControlMessage.requests missing later.config.maxRequestIds)
      rw [playing] at sent
      dsimp only at sent
      rw [sent_eq, List.drop_left' Array.length_toList] at sent
      obtain ⟨message, message_mem, rfl⟩ := announced request sent
      obtain ⟨group, group_mem, rfl⟩ := List.mem_map.mp message_mem
      refine ⟨station, group, rfl, rfl, fun id inside => ?_⟩
      have due_mem := List.mem_of_mem_filter (mem_of_mem_inGroups group_mem inside)
      obtain ⟨-, time, found, -⟩ := GapSchedule.mem_next.mp due_mem
      rw [found, Option.isSome_some]

/-! ## Runs -/

theorem isAccountable_of_reached (size_lt : config.bufferSize < Word.count)
    (reached : Relation.ReflTransGen Step (new config) shared) : shared.IsAccountable := by
  induction reached with
  | refl => exact isAccountable_new config
  | tail before step ih =>
      obtain ⟨⟨journal, remembers⟩, -⟩ := exists_remembers_and_unmixed_of_reached size_lt before
      exact ih.step remembers step

/-- A round requests packets that turned out to be missing in one stream, a session of a station,
from the station that is played when the requests are sent.  Whenever the flag is lowered, and the
monitor that has lowered it is not about to forget the packets, this is the stream that is played,
so all requests of a round without an interruption concern the station that they are sent to. -/
structure RequestsFrom (shared : SharedReceiver) (source : Source) : Prop where
  exists_revelation : ∀ later channel forgotten,
    ∀ request ∈ shared.sentForRound later channel forgotten,
      ∃ station group, later.station = some station ∧
        request = (station.control, (ControlMessage.request group).encode) ∧
        ∀ id ∈ group, ∃ revelation ∈ shared.revealed, revelation.id = id ∧
          revelation.admission.source = source
  source_eq : shared.receiver.isRestartDue = false → shared.holder ≠ .monitor →
    source = shared.receiver.reception.tuning.source
  isWellAddressed : shared.receiver.isRestartDue = false → shared.holder ≠ .monitor →
    ∀ channel forgotten, ∀ request ∈ shared.sentInRound channel forgotten,
      shared.IsWellAddressed request

/-- In whatever order the tasks take their steps, the packets that are requested belong to one
stream, and once the flag is lowered and the packets before are forgotten they are requested from
the station that sends this stream. -/
theorem exists_requestsFrom (size_lt : config.bufferSize < Word.count)
    (reached : Relation.ReflTransGen Step (new config) shared) :
    ∃ source, shared.RequestsFrom source := by
  have accountable := isAccountable_of_reached size_lt reached
  obtain ⟨-, source, unmixed⟩ := exists_remembers_and_unmixed_of_reached size_lt reached
  have revealed_of_scheduled : ∀ id,
      (shared.receiver.reception.gaps.dueTime? id).isSome = true →
        ∃ revelation ∈ shared.revealed, revelation.id = id ∧
          revelation.admission.source = source := by
    intro id scheduled
    obtain ⟨revelation, member, id_eq, stored⟩ := accountable id scheduled
    exact ⟨revelation, member, id_eq, unmixed.written_source _ stored⟩
  refine ⟨source, fun later channel forgotten request sent => ?_, unmixed.source_eq,
    fun lowered free channel forgotten request sent ids encode_eq id member => ?_⟩
  · obtain ⟨station, group, playing, request_eq, scheduled⟩ := exists_of_mem_sentForRound sent
    exact ⟨station, group, playing, request_eq, fun id member =>
      revealed_of_scheduled id (scheduled id member)⟩
  · rw [sentInRound_eq_sentForRound] at sent
    obtain ⟨station, group, playing, rfl, scheduled⟩ := exists_of_mem_sentForRound sent
    have ids_eq : group = ids := by
      have read := congrArg ControlMessage.decode encode_eq
      rw [ControlMessage.decode_encode_request, ControlMessage.decode_encode_request] at read
      cases read
      rfl
    subst ids_eq
    obtain ⟨revelation, revealed, id_eq, revelation_source⟩ :=
      revealed_of_scheduled id (scheduled id member)
    -- Only here the flag matters: another station may be played than the packets came from.
    refine ⟨revelation, revealed, id_eq, station.name, station.stream, ?_⟩
    have station_eq := congrArg Source.station
      (revelation_source.trans (unmixed.source_eq lowered free))
    exact station_eq.trans (congrArg (Option.map Station.identity) playing)

/-! ## A switch between two rounds -/

/-- A receiver that prefers a station. -/
def preferring : Config :=
  { bufferSize := 20, preferred := some "Beta" }

/-- A host on which all ports are free. -/
def openHost : Host :=
  { isFree := fun _ => true }

/-- A packet of the first station has turned out to be missing, and is due. -/
def gapped : SharedReceiver :=
  let subscribed := ((new preferring).hear (announced "Alpha" 1 0)).startOver openHost
  let received := (subscribed.takeIn { session := 0, id := 0, payload := [0, 1] }).takeIn
    { session := 0, id := 4, payload := [4, 5] }
  received.withChoice (received.choice.wait 250)

theorem reflTransGen_gapped : Relation.ReflTransGen Step (new preferring) gapped := by
  have heard := @reflTransGen_hear (new preferring) (announced "Alpha" 1 0) le_rfl
  have subscribed := heard.trans (reflTransGen_startOver openHost rfl (by decide +kernel))
  have first := subscribed.trans
    (@reflTransGen_takeIn _ { session := 0, id := 0, payload := [0, 1] } (by decide +kernel)
      (by decide +kernel) (by decide +kernel))
  have second := first.trans
    (@reflTransGen_takeIn _ { session := 0, id := 4, payload := [4, 5] } (by decide +kernel)
      (by decide +kernel) (by decide +kernel))
  exact second.tail (.choose (.wait _ 250))

theorem exists_requestsFrom_gapped :
    preferring.bufferSize < Word.count ∧ Relation.ReflTransGen Step (new preferring) gapped ∧
      gapped.receiver.isRestartDue = false ∧
      gapped.sentInRound {} [] =
        [((announced "Alpha" 1 0).control, (ControlMessage.request [2]).encode)] ∧
      ∃ source, gapped.RequestsFrom source := by
  have size_lt : preferring.bufferSize < Word.count := by decide
  exact ⟨size_lt, reflTransGen_gapped, by decide +kernel, by decide +kernel,
    exists_requestsFrom size_lt reflTransGen_gapped⟩

/-- The preferred station shows up before the next round. -/
def switched : SharedReceiver :=
  gapped.hear (announced "Beta" 2 250)

/-- The packet is requested from a station that never sent it. -/
theorem not_forall_isWellAddressed :
    ¬∀ (config : Config) (shared : SharedReceiver), config.bufferSize < Word.count →
      Relation.ReflTransGen Step (new config) shared →
        ∀ channel forgotten, ∀ request ∈ shared.sentInRound channel forgotten,
          shared.IsWellAddressed request := by
  intro wellAddressed
  have reached := reflTransGen_gapped.trans
    (@reflTransGen_hear gapped (announced "Beta" 2 250) (by decide +kernel))
  have sent : switched.sentInRound {} [] =
      [((announced "Beta" 2 250).control, (ControlMessage.request [2]).encode)] := by
    decide +kernel
  have revealed :
      (switched.revealed.map fun revelation =>
        revelation.admission.station.map fun identity => identity.2.1) =
        [some (announced "Alpha" 1 0).control] := by
    decide +kernel
  have request_mem := List.mem_singleton_self
    ((announced "Beta" 2 250).control, (ControlMessage.request [2]).encode)
  rw [← sent] at request_mem
  obtain ⟨revelation, member, -, name, stream, station_eq⟩ :=
    wellAddressed preferring switched (by decide) reached {} [] _ request_mem [2] rfl 2
      (List.mem_singleton_self 2)
  have found := List.mem_map_of_mem
    (f := fun revelation => revelation.admission.station.map fun identity => identity.2.1) member
  rw [revealed, station_eq, List.mem_singleton] at found
  have different : (announced "Beta" 2 250).control ≠ (announced "Alpha" 1 0).control := by
    decide
  exact different (Option.some.inj found)

end SharedReceiver
end Listening
end AudioMulticast
