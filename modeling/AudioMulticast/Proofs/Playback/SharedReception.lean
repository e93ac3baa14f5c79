import AudioMulticast.Proofs.Playback.ReceptionJournal
import Mathlib.Logic.Relation

/-!
# A reception that several tasks share

The intake, playback, the requests for missing packets, the choice of a station and the monitor that
starts playback over all work on one reception, and their steps alternate in any order.  A lock is
held by the intake from the screening of a packet until it is stored, and by the monitor from
lowering the flag until the packets are forgotten.  Nothing else needs the lock, the choice of a
station included.

The packets inside the window always are of a single session of a single station.
-/

namespace AudioMulticast

/-- A stream that can be received: a session of a station, if there is a station. -/
structure Source where
  /-- Session of the sender. -/
  session : SessionId
  /-- What makes the station the same station. -/
  station : Option (String × Endpoint × Endpoint)
  deriving DecidableEq

namespace Tuning

/-- The stream that is played. -/
def source (tuning : Tuning) : Source :=
  { session := tuning.session, station := tuning.station.map Station.identity }

theorem Persists.source_eq {before after : Tuning} (persists : before.Persists after)
    (lowered : after.restart = false) : before.restart = false ∧ after.source = before.source := by
  obtain ⟨lowered, session_eq, station_eq⟩ := persists lowered
  exact ⟨lowered, by rw [source, source, session_eq, station_eq]⟩

end Tuning

namespace Playback

/-- Whether the slot of a packet inside a window holds a payload. -/
def Window.Holds (window : Window) (id : Nat) (payload : Bytes) : Prop :=
  ∃ session position, window.session = some session ∧
    session.slots[position]? = some (some payload) ∧
    id = session.front + session.payloadLength * position

/-- What the window holds is what the journal remembers. -/
theorem Journal.exists_of_holds {journal : Journal} {id : Nat} {payload : Bytes}
    (holds : journal.window.Holds id payload) :
    ∃ session, journal.session = some session ∧ session.payloads id = some payload := by
  obtain ⟨_, position, found, slot_eq, rfl⟩ := holds
  obtain ⟨session, session_eq, rfl⟩ := Option.map_eq_some_iff.mp found
  refine ⟨session, session_eq, ?_⟩
  simp only [SessionJournal.window, List.getElem?_map, Option.map_eq_some_iff] at slot_eq
  obtain ⟨id, id_eq, payload_eq⟩ := slot_eq
  obtain ⟨_, rfl⟩ := List.getElem?_eq_some_iff.mp id_eq
  rw [← payload_eq, SessionJournal.window_front, SessionJournal.window_payloadLength]
  simp only [stride, List.getElem_range']

/-- A packet that has passed the screening, with the station that was active then. -/
structure Admission where
  /-- The packet. -/
  packet : DataPacket
  /-- What makes the station the same station. -/
  station : Option (String × Endpoint × Endpoint)
  deriving DecidableEq

/-- The stream to which an admitted packet belongs. -/
def Admission.source (admission : Admission) : Source :=
  { session := admission.packet.session, station := admission.station }

/-- Who holds the lock. -/
inductive Holder where
  | nobody
  /-- The intake, which has screened a packet and is going to store it. -/
  | intake (admission : Admission)
  /-- The monitor, which has lowered the flag and is going to forget the packets. -/
  | monitor
  deriving DecidableEq

/-- A reception, the lock on it, and what has been stored since the packets were forgotten last. -/
structure SharedReception where
  reception : Reception
  holder : Holder
  written : List Admission

namespace SharedReception

/-- A new reception, of which nobody holds the lock. -/
def new (size interval : Nat) : SharedReception :=
  { reception := .new size interval, holder := .nobody, written := [] }

/-- What a task can do next. -/
inductive Step : SharedReception → SharedReception → Prop where
  /-- The intake screens a packet and ignores it. -/
  | ignore {shared : SharedReception} {packet : DataPacket} (free : shared.holder = .nobody)
      (ignored : (shared.reception.screen packet.session).2 = true) :
      Step shared { shared with reception := (shared.reception.screen packet.session).1 }
  /-- The intake screens a packet, and keeps the lock until it has stored it. -/
  | accept {shared : SharedReception} {packet : DataPacket} (free : shared.holder = .nobody)
      (accepted : (shared.reception.screen packet.session).2 = false) :
      Step shared
        { shared with
          reception := (shared.reception.screen packet.session).1
          holder := .intake
            { packet, station := shared.reception.tuning.station.map Station.identity } }
  /-- The intake stores the packet and releases the lock. -/
  | store {shared : SharedReception} {admission : Admission} {now : Nat} {received : Reception}
      {missed : List PacketId} (held : shared.holder = .intake admission)
      (stored : shared.reception.store now admission.packet = .ok (received, missed)) :
      Step shared
        { reception := received, holder := .nobody, written := admission :: shared.written }
  /-- A station is chosen. -/
  | choose (shared : SharedReception) (station : Option Station) :
      Step shared
        { shared with
          reception :=
            { shared.reception with tuning := (shared.reception.tuning.choose station).1 } }
  /-- Playback takes the next piece of audio, or demands that playback starts over. -/
  | play {shared : SharedReception} {played : Reception} {piece : Option Bytes}
      (found : shared.reception.play = .ok (played, piece)) :
      Step shared { shared with reception := played }
  /-- The packets to be requested are determined. -/
  | round (shared : SharedReception) (now : Nat) (forgotten : List PacketId) :
      Step shared { shared with reception := (shared.reception.nextRound now forgotten).1 }
  /-- Any task demands that playback starts over. -/
  | demand (shared : SharedReception) :
      Step shared { shared with reception := shared.reception.demandRestart }
  /-- The monitor lowers the flag, and keeps the lock if it was raised. -/
  | collect {shared : SharedReception} (free : shared.holder = .nobody) :
      Step shared
        { shared with
          reception := { shared.reception with tuning := shared.reception.tuning.collect.1 }
          holder := if shared.reception.tuning.collect.2.2 then .monitor else .nobody }
  /-- The monitor forgets the packets and releases the lock. -/
  | reset {shared : SharedReception} (held : shared.holder = .monitor) :
      Step shared { reception := shared.reception.reset, holder := .nobody, written := [] }

/-- A packet that is received without an interruption takes the steps of the intake. -/
theorem reflTransGen_receive {reception received : Reception} {now : Nat} {packet : DataPacket}
    {missed : List PacketId} (written : List Admission)
    (done : reception.receive now packet = .ok (received, missed)) :
    ∃ after, Relation.ReflTransGen Step { reception, holder := .nobody, written }
      { reception := received, holder := .nobody, written := after } := by
  rw [Reception.receive] at done
  split at done
  · next screened screen_eq =>
    cases done
    refine ⟨written, .single ?_⟩
    have step := @Step.ignore { reception, holder := .nobody, written } packet rfl
      (congrArg Prod.snd screen_eq)
    rwa [screen_eq] at step
  · next screened screen_eq =>
    have accepted := @Step.accept { reception, holder := .nobody, written } packet rfl
      (congrArg Prod.snd screen_eq)
    rw [screen_eq] at accepted
    exact ⟨_, (Relation.ReflTransGen.single accepted).tail (Step.store rfl done)⟩

/-- Starting over without an interruption takes the steps of the monitor. -/
theorem reflTransGen_reset {reception : Reception} (written : List Admission)
    (raised : reception.tuning.restart = true) :
    Relation.ReflTransGen Step { reception, holder := .nobody, written }
      { reception := { reception with tuning := reception.tuning.collect.1 }.reset
        holder := .nobody
        written := [] } := by
  have collected := @Step.collect { reception, holder := .nobody, written } rfl
  simp only [Tuning.collect, raised, if_true] at collected
  exact (Relation.ReflTransGen.single collected).tail (Step.reset rfl)

/-- Whatever the journal of the window remembers has been stored. -/
structure Remembers (shared : SharedReception) (journal : Journal) : Prop where
  follows : shared.reception.Follows journal
  exists_written : ∀ session id payload, journal.session = some session →
    session.payloads id = some payload →
      ∃ admission ∈ shared.written,
        admission.packet.id.val = id ∧ admission.packet.payload = payload

/-- All packets that were stored, and the one that is going to be stored, are of one stream.  It is
the stream that is played, unless the flag is raised or the monitor is about to forget the packets.
-/
structure Unmixed (shared : SharedReception) (source : Source) : Prop where
  written_source : ∀ admission ∈ shared.written, admission.source = source
  pending_source : ∀ admission, shared.holder = .intake admission → admission.source = source
  source_eq : shared.reception.tuning.restart = false → shared.holder ≠ .monitor →
    source = shared.reception.tuning.source

variable {shared : SharedReception} {after : SharedReception} {journal : Journal} {source : Source}

theorem exists_remembers_of_step {journal : Journal} (remembers : shared.Remembers journal)
    (step : Step shared after) : ∃ journal, after.Remembers journal := by
  obtain ⟨follows, exists_written⟩ := remembers
  cases step with
  | ignore free ignored =>
      exact ⟨journal, ⟨follows.valid, follows.window_eq⟩, exists_written⟩
  | accept free accepted =>
      exact ⟨journal, ⟨follows.valid, follows.window_eq⟩, exists_written⟩
  | store held stored =>
      rcases follows.store_cases stored with ⟨rfl, -⟩ | ⟨written, write_eq, written_follows, -⟩
      · refine ⟨journal, follows, fun session id payload found remembered => ?_⟩
        obtain ⟨admission, member, stored⟩ := exists_written session id payload found remembered
        exact ⟨admission, List.mem_cons_of_mem _ member, stored⟩
      · refine ⟨written, written_follows, fun session id payload found remembered => ?_⟩
        obtain ⟨-, rfl, -⟩ := Journal.write_eq_ok write_eq
        cases found
        rcases Journal.payloads_of_accept remembered with ⟨rfl, rfl⟩ | ⟨session, found, before⟩
        · exact ⟨_, List.mem_cons_self, rfl, rfl⟩
        · obtain ⟨admission, member, stored⟩ := exists_written session id payload found before
          exact ⟨admission, List.mem_cons_of_mem _ member, stored⟩
  | choose station =>
      exact ⟨journal, ⟨follows.valid, follows.window_eq⟩, exists_written⟩
  | play found =>
      obtain ⟨played_follows, -⟩ := follows.play_cases found
      refine ⟨journal.read.1, played_follows, fun session id payload session_eq remembered => ?_⟩
      cases journal_eq : journal.session with
      | none =>
          simp only [Journal.read, journal_eq] at session_eq
          cases session_eq
      | some before =>
          simp only [Journal.read, journal_eq] at session_eq
          cases session_eq
          rw [SessionJournal.read_payloads] at remembered
          exact exists_written before id payload journal_eq remembered
  | round now forgotten =>
      exact ⟨journal, ⟨follows.valid, follows.window_eq⟩, exists_written⟩
  | demand =>
      exact ⟨journal, ⟨follows.valid, follows.window_eq⟩, exists_written⟩
  | collect free =>
      exact ⟨journal, ⟨follows.valid, follows.window_eq⟩, exists_written⟩
  | reset held =>
      exact ⟨_, follows.reset, by rintro _ _ _ ⟨⟩⟩

theorem exists_unmixed_of_step (unmixed : shared.Unmixed source) (step : Step shared after) :
    ∃ source, after.Unmixed source := by
  obtain ⟨written_source, pending_source, source_eq⟩ := unmixed
  have kept {tuning : Tuning} (persists : shared.reception.tuning.Persists tuning) :
      tuning.restart = false → shared.holder ≠ .monitor → source = tuning.source := by
    intro lowered free
    obtain ⟨lowered, same⟩ := persists.source_eq lowered
    exact (source_eq lowered free).trans same.symm
  cases step with
  | @ignore packet free ignored =>
      exact ⟨source, written_source, pending_source,
        kept (shared.reception.tuning.persists_screen packet.session)⟩
  | @accept packet free accepted =>
      have screen_eq := Tuning.screen_eq_of_accepted accepted
      obtain ⟨-, lowered, session_eq⟩ := Tuning.screen_eq_accepted_iff.mp screen_eq
      have current := source_eq lowered (by rw [free]; rintro ⟨⟩)
      refine ⟨source, written_source, ?_, ?_⟩
      · rintro _ ⟨⟩
        rw [current, Admission.source, session_eq, Tuning.source]
      · simp only [Reception.screen, screen_eq]
        exact fun _ _ => current
  | @store admission now received missed held stored =>
      -- The stream may have changed since the screening, but only with the flag raised.
      have pending := pending_source admission held
      refine ⟨source, ?_, by rintro _ ⟨⟩, ?_⟩
      · exact List.forall_mem_cons.mpr ⟨pending, written_source⟩
      · rw [Reception.tuning_of_store stored]
        exact fun lowered _ => source_eq lowered (by rw [held]; rintro ⟨⟩)
  | choose station =>
      exact ⟨source, written_source, pending_source,
        kept (shared.reception.tuning.persists_choose station)⟩
  | play found =>
      obtain ⟨_, _, -, -, -, persists, -⟩ := Reception.exists_read_of_play found
      exact ⟨source, written_source, pending_source, kept persists⟩
  | round now forgotten =>
      exact ⟨source, written_source, pending_source, source_eq⟩
  | demand =>
      exact ⟨source, written_source, pending_source, by rintro ⟨⟩⟩
  | collect free =>
      cases raised : shared.reception.tuning.restart with
      | false =>
          refine ⟨source, written_source, ?_, fun _ _ => ?_⟩
          · simp only [Tuning.collect, raised]
            rintro _ ⟨⟩
          · exact source_eq raised (by rw [free]; rintro ⟨⟩)
      | true =>
          refine ⟨source, written_source, ?_, ?_⟩
          · simp only [Tuning.collect, raised]
            rintro _ ⟨⟩
          · simp only [Tuning.collect, raised]
            exact fun _ other => absurd rfl other
  | reset held =>
      exact ⟨_, by rintro _ ⟨⟩, by rintro _ ⟨⟩, fun _ _ => rfl⟩

theorem exists_remembers_and_unmixed {size : Word} {interval : Nat}
    (reached : Relation.ReflTransGen Step (new size.val interval) shared) :
    (∃ journal, shared.Remembers journal) ∧ ∃ source, shared.Unmixed source := by
  induction reached with
  | refl =>
      refine ⟨⟨_, Reception.follows_new size interval, by rintro _ _ _ ⟨⟩⟩, ?_⟩
      exact ⟨_, by rintro _ ⟨⟩, by rintro _ ⟨⟩, fun _ _ => rfl⟩
  | tail _ step ih =>
      obtain ⟨⟨journal, remembers⟩, source, unmixed⟩ := ih
      exact ⟨exists_remembers_of_step remembers step, exists_unmixed_of_step unmixed step⟩

/-- In whatever order the tasks take their steps, all packets inside the window were stored as
packets of one session, which passed the screening while one station was active.  Whenever the flag
is lowered, and the monitor that has lowered it is not about to forget the packets, these are the
session and the station that are played. -/
theorem window_unmixed {size : Word} {interval : Nat}
    (reached : Relation.ReflTransGen Step (new size.val interval) shared) :
    ∃ session station,
      (∀ id payload, shared.reception.window.Holds id payload →
        ∃ admission ∈ shared.written,
          admission.packet.id.val = id ∧ admission.packet.payload = payload ∧
            admission.packet.session = session ∧ admission.station = station) ∧
      (shared.reception.tuning.restart = false → shared.holder ≠ .monitor →
        session = shared.reception.tuning.session ∧
          station = shared.reception.tuning.station.map Station.identity) := by
  obtain ⟨⟨journal, remembers⟩, source, unmixed⟩ := exists_remembers_and_unmixed reached
  refine ⟨source.session, source.station, fun id payload holds => ?_, fun lowered free => ?_⟩
  · rw [remembers.follows.window_eq] at holds
    obtain ⟨session, found, remembered⟩ := Journal.exists_of_holds holds
    obtain ⟨admission, member, id_eq, payload_eq⟩ :=
      remembers.exists_written session id payload found remembered
    have source_eq := unmixed.written_source admission member
    exact ⟨admission, member, id_eq, payload_eq, congrArg Source.session source_eq,
      congrArg Source.station source_eq⟩
  · rw [unmixed.source_eq lowered free]
    exact ⟨rfl, rfl⟩

/-- A restarted sender is adopted, and another station is chosen between the screening of a packet
and its storage. -/
theorem window_unmixed_of_switch_in_flight :
    ∃ shared, Relation.ReflTransGen Step (new 8 100) shared ∧
      shared.reception.window.Holds 4 [1, 2] ∧
      ∃ session station,
        (∀ id payload, shared.reception.window.Holds id payload →
          ∃ admission ∈ shared.written,
            admission.packet.id.val = id ∧ admission.packet.payload = payload ∧
              admission.packet.session = session ∧ admission.station = station) ∧
        (shared.reception.tuning.restart = false → shared.holder ≠ .monitor →
          session = shared.reception.tuning.session ∧
            station = shared.reception.tuning.station.map Station.identity) := by
  let station : Station :=
    { name := "A"
      control := { address := ⟨127, 0, 0, 1⟩, port := 2 }
      stream := { address := ⟨239, 0, 0, 1⟩, port := 4 }
      lastReply := 0 }
  let packet : DataPacket := { session := 7, id := 4, payload := [1, 2] }
  let tuned (tuning : Tuning) : Reception := { Reception.new 8 100 with tuning }
  let raised : SharedReception :=
    { reception := tuned { session := 7, restart := true }, holder := .nobody, written := [] }
  let collected : SharedReception :=
    { reception := tuned { session := 7 }, holder := .monitor, written := [] }
  let emptied : SharedReception :=
    { reception := tuned { session := 7 }, holder := .nobody, written := [] }
  let admitted : SharedReception :=
    { reception := tuned { session := 7 }
      holder := .intake { packet, station := none }
      written := [] }
  let switched : SharedReception :=
    { reception := tuned { station := some station, restart := true }
      holder := .intake { packet, station := none }
      written := [] }
  have reached : Relation.ReflTransGen Step (new 8 100) switched := by
    refine .head (@Step.ignore _ packet rfl rfl : Step _ raised) ?_
    refine .head (Step.collect rfl : Step _ collected) ?_
    refine .head (Step.reset rfl : Step _ emptied) ?_
    refine .head (@Step.accept _ packet rfl rfl : Step _ admitted) ?_
    exact .single (Step.choose admitted (some station))
  have write_eq :
      Window.write { size := 8 } 4 [1, 2] =
        .ok (.ok
          ({ size := 8
             session := some
              { payloadLength := 2, capacity := 4, threshold := 10, front := 4, back := 4,
                slots := [some [1, 2]], started := false } }, [])) := by
    decide
  have stored := reached.tail (@Step.store switched _ 0 _ _ rfl (by
    rw [Reception.store]
    exact congrArg (· >>= _) write_eq))
  exact ⟨_, stored, ⟨_, 0, rfl, rfl, rfl⟩, @window_unmixed _ 8 100 stored⟩

end SharedReception
end Playback
end AudioMulticast
