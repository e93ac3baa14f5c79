import AudioMulticast.Proofs.Listening.SharedReceiver

/-!
# Which stream a receiver is subscribed to

The monitor starts over in several steps, while the other tasks go on: it lowers the flag and is
told the station, empties the reception, and subscribes to the stream of that station.  Another
station may be chosen after the monitor was told one, and a subscription may be refused.  Either
raises the flag again, so that whenever the flag is lowered and the monitor is done, the
subscription is to the stream of the station that is played.
-/

namespace AudioMulticast
namespace Listening

open Menu Playback

/-- How far the monitor has come since it was told the station. -/
inductive Stage where
  /-- It has lowered the flag, and nothing else. -/
  | begun
  /-- It has forgotten the packets and given up the subscription. -/
  | emptied
  /-- Its new subscription was refused. -/
  | refused
  deriving DecidableEq

/-- A receiver whose monitor starts over step by step. -/
structure MonitoredReceiver where
  shared : SharedReceiver
  stage : Stage := .begun
  /-- Whether the last subscription was refused. -/
  isRefused : Bool := false

namespace MonitoredReceiver

/-- A receiver that has not started to work. -/
def new (config : Config) : MonitoredReceiver :=
  { shared := .new config }

/-- The receiver itself. -/
def receiver (monitored : MonitoredReceiver) : Receiver :=
  monitored.shared.receiver

/-- Who holds the lock on the stream. -/
def holder (monitored : MonitoredReceiver) : Holder :=
  monitored.shared.holder

/-- Replace the receiver. -/
def withReceiver (monitored : MonitoredReceiver) (receiver : Receiver) : MonitoredReceiver :=
  { monitored with shared := { monitored.shared with receiver } }

/-- A station has been registered. -/
def register (monitored : MonitoredReceiver) (station : Option Station) : MonitoredReceiver :=
  { monitored with
    shared := monitored.shared.withReception
      { monitored.receiver.reception with
        tuning := (monitored.receiver.reception.tuning.choose station).1 } }

/-- The monitor has lowered the flag, and keeps the lock if it was raised. -/
def collect (monitored : MonitoredReceiver) : MonitoredReceiver :=
  { monitored with shared := monitored.shared.collect }

/-- The monitor has released the lock. -/
def release (monitored : MonitoredReceiver) : MonitoredReceiver :=
  { monitored with shared := { monitored.shared with holder := .nobody }, stage := .begun }

/-- The monitor has forgotten the packets and given up the subscription. -/
def empty (monitored : MonitoredReceiver) : MonitoredReceiver :=
  { shared := { monitored.shared with
      receiver := { monitored.receiver with
        reception := monitored.receiver.reception.reset, subscription := none }
      written := [] }
    stage := .emptied
    isRefused := false }

/-- The monitor has subscribed to the stream of the station that it was told, if it was told one, or
the subscription was refused. -/
def subscribe (monitored : MonitoredReceiver) (host : Host) : MonitoredReceiver :=
  match monitored.shared.collected with
  | none => monitored.release
  | some station =>
      if host.isFree station.stream.port then
        (monitored.withReceiver (monitored.receiver.subscribe host station)).release
      else
        { monitored with stage := .refused, isRefused := true }

/-- The monitor has demanded to start over once more. -/
def demand (monitored : MonitoredReceiver) : MonitoredReceiver :=
  (monitored.withReceiver monitored.receiver.demandRestart).release

/-- What can happen next. -/
inductive Step : MonitoredReceiver → MonitoredReceiver → Prop where
  /-- A task takes a step, the monitor included as long as it does not start over all at once. -/
  | task {monitored : MonitoredReceiver} {next : SharedReceiver}
      (step : SharedReceiver.Step monitored.shared next)
      (kept : monitored.holder = .monitor → next.holder = .monitor) :
      Step monitored { monitored with shared := next }
  /-- Any station is registered, or none, at any time. -/
  | register (monitored : MonitoredReceiver) (station : Option Station) :
      Step monitored (monitored.register station)
  /-- The monitor empties the reception. -/
  | empty {monitored : MonitoredReceiver} (held : monitored.holder = .monitor)
      (stage_eq : monitored.stage = .begun) : Step monitored monitored.empty
  /-- The monitor subscribes, with any outcome. -/
  | subscribe {monitored : MonitoredReceiver} (host : Host) (held : monitored.holder = .monitor)
      (stage_eq : monitored.stage = .emptied) : Step monitored (monitored.subscribe host)
  /-- The monitor demands to start over once more. -/
  | demand {monitored : MonitoredReceiver} (held : monitored.holder = .monitor)
      (stage_eq : monitored.stage = .refused) : Step monitored monitored.demand

/-- The subscription of a receiver follows the station that is played. -/
structure FollowsStation (monitored : MonitoredReceiver) : Prop where
  /-- Whenever the flag is lowered and the monitor is done, the subscription is to the stream of the
  station that is played, or there is neither. -/
  subscription_eq : monitored.receiver.isRestartDue = false → monitored.holder ≠ .monitor →
    monitored.receiver.subscription = monitored.receiver.station.map Station.stream
  /-- A subscription that was refused leaves the flag raised. -/
  raised : monitored.isRefused = true → monitored.holder ≠ .monitor →
    monitored.receiver.isRestartDue = true
  /-- Unless the subscription is refused, the monitor gets the receiver there from any state. -/
  settles : ∀ host : Host, monitored.holder = .nobody →
    (∀ station ∈ monitored.receiver.station, host.isFree station.stream.port = true) →
      ∃ after, Relation.ReflTransGen Step monitored after ∧
        after.receiver.isRestartDue = false ∧ after.holder = .nobody ∧
        after.receiver.subscription = monitored.receiver.station.map Station.stream

end MonitoredReceiver

/-! ## What the other tasks leave alone -/

/-- A station of the same identity has the same stream. -/
theorem stream_eq_of_identity_eq {first second : Option Station}
    (identity_eq : first.map Station.identity = second.map Station.identity) :
    first.map Station.stream = second.map Station.stream := by
  have stream_eq (station : Option Station) : station.map Station.stream =
      (station.map Station.identity).map fun identity => identity.2.2 := by
    rw [Option.map_map]
    rfl
  rw [stream_eq, stream_eq, identity_eq]

/-- Between two states neither the subscription nor the work of the monitor has changed, and the
flag has not been lowered. -/
structure SharedReceiver.Spares (before after : SharedReceiver) : Prop where
  persists : before.receiver.reception.tuning.Persists after.receiver.reception.tuning
  subscription_eq : after.receiver.subscription = before.receiver.subscription
  collected_eq : after.collected = before.collected
  holder_iff : after.holder = .monitor ↔ before.holder = .monitor

/-- Unless the monitor takes or releases the lock, it is spared. -/
theorem SharedReceiver.step_cases {shared after : SharedReceiver} (step : Step shared after) :
    (shared.holder = .nobody ∧ after = shared.collect) ∨
      (shared.holder = .monitor ∧ after.holder ≠ .monitor) ∨ shared.Spares after := by
  cases step with
  | @choose choice step =>
      refine .inr (.inr ⟨?_, rfl, rfl, .rfl⟩)
      rcases tuning_of_choice_step step with same | ⟨station, chosen⟩
      · simp only [withChoice, Receiver.withDial, same]
        exact .refl _
      · simp only [withChoice, Receiver.withDial, chosen]
        exact Tuning.persists_choose _ station
  | @ignore packet free subscribed ignored =>
      exact .inr (.inr ⟨Tuning.persists_screen _ packet.session, rfl, rfl, .rfl⟩)
  | @accept packet free subscribed accepted =>
      refine .inr (.inr ⟨Tuning.persists_screen _ packet.session, rfl, rfl, ?_⟩)
      rw [free]
      exact iff_of_false (by rintro ⟨⟩) (by rintro ⟨⟩)
  | @store admission received missed held stored =>
      refine .inr (.inr ⟨?_, rfl, rfl, ?_⟩)
      · simp only [keep, withReception, Reception.tuning_of_store stored]
        exact .refl _
      · rw [held]
        exact iff_of_false (by rintro ⟨⟩) (by rintro ⟨⟩)
  | @play played piece found =>
      obtain ⟨_, _, -, -, -, persists, -⟩ := Reception.exists_read_of_play found
      exact .inr (.inr ⟨persists, rfl, rfl, .rfl⟩)
  | request channel forgotten => exact .inr (.inr ⟨.refl _, rfl, rfl, .rfl⟩)
  | collect free => exact .inl ⟨free, rfl⟩
  | restart host held => exact .inr (.inl ⟨held, by rintro ⟨⟩⟩)

namespace MonitoredReceiver

variable {monitored after : MonitoredReceiver}

/-! ## What holds while the monitor works -/

/-- What holds of a receiver in every state.  While the monitor holds the lock and the flag is
lowered, the station that it was told is still the one that is played. -/
structure Tracks (monitored : MonitoredReceiver) : Prop where
  stage_eq : monitored.holder ≠ .monitor → monitored.stage = .begun
  subscription_eq : monitored.receiver.isRestartDue = false → monitored.holder ≠ .monitor →
    monitored.receiver.subscription = monitored.receiver.station.map Station.stream
  collected_eq : monitored.receiver.isRestartDue = false → monitored.holder = .monitor →
    monitored.receiver.station.map Station.identity =
      monitored.shared.collected.map Station.identity
  emptied : monitored.stage = .emptied →
    monitored.receiver.subscription = none ∧ monitored.isRefused = false
  raised : monitored.isRefused = true → monitored.holder ≠ .monitor →
    monitored.receiver.isRestartDue = true

theorem tracks_new (config : Config) : (new config).Tracks where
  stage_eq _ := rfl
  subscription_eq _ _ := rfl
  collected_eq _ _ := rfl
  emptied := by rintro ⟨⟩
  raised := by rintro ⟨⟩

/-- Whatever spares the monitor keeps it on the track. -/
theorem Tracks.of_spares (tracks : monitored.Tracks) {next : SharedReceiver}
    (spares : monitored.shared.Spares next) : { monitored with shared := next }.Tracks where
  stage_eq free := tracks.stage_eq fun held => free (spares.holder_iff.mpr held)
  subscription_eq lowered free := by
    obtain ⟨lowered, -, identity_eq⟩ := spares.persists lowered
    have followed := tracks.subscription_eq lowered fun held => free (spares.holder_iff.mpr held)
    exact (spares.subscription_eq.trans followed).trans (stream_eq_of_identity_eq identity_eq.symm)
  collected_eq lowered held := by
    obtain ⟨lowered, -, identity_eq⟩ := spares.persists lowered
    have told := tracks.collected_eq lowered (spares.holder_iff.mp held)
    exact identity_eq.trans (told.trans (congrArg _ spares.collected_eq.symm))
  emptied stage_eq :=
    ⟨spares.subscription_eq.trans (tracks.emptied stage_eq).1, (tracks.emptied stage_eq).2⟩
  raised refused free := by
    have raised := tracks.raised refused fun held => free (spares.holder_iff.mpr held)
    by_contra lowered
    obtain ⟨lowered, -⟩ := spares.persists (Bool.eq_false_of_not_eq_true lowered)
    exact Bool.false_ne_true (lowered.symm.trans raised)

theorem Tracks.collect (tracks : monitored.Tracks) (free : monitored.holder = .nobody) :
    monitored.collect.Tracks := by
  have unheld : monitored.holder ≠ .monitor := by
    rw [free]
    rintro ⟨⟩
  have begun := tracks.stage_eq unheld
  have not_emptied (stage_eq : monitored.stage = .emptied) : False := by
    rw [begun] at stage_eq
    cases stage_eq
  cases raised : monitored.shared.receiver.reception.tuning.restart with
  | true =>
      have held : monitored.shared.collect.holder = .monitor := if_pos raised
      exact ⟨fun _ => begun, fun _ free => absurd held free, fun _ _ => rfl,
        fun stage_eq => (not_emptied stage_eq).elim, fun _ free => absurd held free⟩
  | false =>
      have unheld' : monitored.shared.collect.holder ≠ .monitor := by
        have holder_eq : monitored.shared.collect.holder = .nobody :=
          if_neg (Bool.eq_false_iff.mp raised)
        rw [holder_eq]
        rintro ⟨⟩
      have not_refused (refused : monitored.isRefused = true) : False :=
        Bool.false_ne_true (raised.symm.trans (tracks.raised refused unheld))
      exact ⟨fun _ => begun, fun _ _ => tracks.subscription_eq raised unheld,
        fun _ held => absurd held unheld', fun stage_eq => (not_emptied stage_eq).elim,
        fun refused _ => (not_refused refused).elim⟩

theorem Tracks.register (tracks : monitored.Tracks) (station : Option Station) :
    (monitored.register station).Tracks :=
  tracks.of_spares ⟨Tuning.persists_choose _ station, rfl, rfl, .rfl⟩

theorem Tracks.empty (tracks : monitored.Tracks) (held : monitored.holder = .monitor) :
    monitored.empty.Tracks where
  stage_eq free := absurd held free
  subscription_eq _ free := absurd held free
  collected_eq lowered held := tracks.collected_eq lowered held
  emptied _ := ⟨rfl, rfl⟩
  raised := by rintro ⟨⟩

theorem Tracks.subscribe (tracks : monitored.Tracks) (host : Host)
    (held : monitored.holder = .monitor) (stage_eq : monitored.stage = .emptied) :
    (monitored.subscribe host).Tracks := by
  obtain ⟨subscription_eq, attempted⟩ := tracks.emptied stage_eq
  have refused_ne : monitored.isRefused ≠ true := Bool.eq_false_iff.mp attempted
  rw [MonitoredReceiver.subscribe]
  cases collected : monitored.shared.collected with
  | none =>
      have released : monitored.release.holder ≠ .monitor := by rintro ⟨⟩
      refine ⟨fun _ => rfl, fun lowered _ => ?_, fun _ held => absurd held released,
        (by rintro ⟨⟩), fun refused => absurd refused refused_ne⟩
      have told := tracks.collected_eq lowered held
      rw [collected] at told
      exact subscription_eq.trans (stream_eq_of_identity_eq told).symm
  | some station =>
      simp only
      split_ifs with isFree
      · have released (receiver : Receiver) :
            (monitored.withReceiver receiver).release.holder ≠ .monitor := by rintro ⟨⟩
        rw [Receiver.subscribe, if_pos isFree]
        refine ⟨fun _ => rfl, fun lowered _ => ?_, fun _ held => absurd held (released _),
          (by rintro ⟨⟩), fun refused => absurd refused refused_ne⟩
        have told := tracks.collected_eq lowered held
        rw [collected] at told
        exact (stream_eq_of_identity_eq told).symm
      · exact ⟨fun free => absurd held free, fun _ free => absurd held free, tracks.collected_eq,
          (by rintro ⟨⟩), fun _ free => absurd held free⟩

theorem tracks_demand (monitored : MonitoredReceiver) : monitored.demand.Tracks where
  stage_eq _ := rfl
  subscription_eq := by rintro ⟨⟩
  collected_eq := by rintro ⟨⟩
  emptied := by rintro ⟨⟩
  raised _ _ := rfl

theorem Tracks.step (tracks : monitored.Tracks) (step : Step monitored after) : after.Tracks := by
  cases step with
  | @task next step kept =>
      rcases SharedReceiver.step_cases step with ⟨free, rfl⟩ | ⟨held, released⟩ | spares
      · exact tracks.collect free
      · exact absurd (kept held) released
      · exact tracks.of_spares spares
  | register station => exact tracks.register station
  | empty held stage_eq => exact tracks.empty held
  | subscribe host held stage_eq => exact tracks.subscribe host held stage_eq
  | demand held stage_eq => exact tracks_demand monitored

theorem tracks_of_reached {config : Config}
    (reached : Relation.ReflTransGen Step (new config) monitored) : monitored.Tracks := by
  induction reached with
  | refl => exact tracks_new config
  | tail before step ih => exact ih.step step

/-! ## A monitor without an interruption -/

theorem Step.collect (free : monitored.holder = .nobody) : Step monitored monitored.collect := by
  refine .task (.collect free) ?_
  rw [free]
  rintro ⟨⟩

/-- Without an interruption, the monitor starts over as it does all at once. -/
theorem exists_reflTransGen_restart (host : Host) (held : monitored.holder = .monitor)
    (begun : monitored.stage = .begun) :
    ∃ isRefused, Relation.ReflTransGen Step monitored
      { shared := monitored.shared.restart host, isRefused } := by
  obtain ⟨shared, stage, isRefused⟩ := monitored
  obtain ⟨receiver, now, answers, pending, tuned, holder, collected, written, revealed⟩ := shared
  have emptied := Relation.ReflTransGen.single (Step.empty held begun)
  have subscribed := emptied.tail (.subscribe host held rfl)
  cases collected with
  | none => exact ⟨false, subscribed⟩
  | some station =>
      by_cases isFree : host.isFree station.stream.port = true
      · simp only [subscribe, empty, MonitoredReceiver.receiver, if_pos isFree] at subscribed
        exact ⟨false, subscribed⟩
      · simp only [subscribe, empty, MonitoredReceiver.receiver, if_neg isFree] at subscribed
        simp only [SharedReceiver.restart, Receiver.restart, Receiver.subscribe, if_neg isFree]
        have demanded := subscribed.tail (.demand held rfl)
        exact ⟨true, demanded⟩

theorem exists_reflTransGen_startOver (host : Host) (free : monitored.holder = .nobody)
    (begun : monitored.stage = .begun) (raised : monitored.receiver.isRestartDue = true) :
    ∃ isRefused, Relation.ReflTransGen Step monitored
      { shared := monitored.shared.startOver host, isRefused } := by
  have held : monitored.collect.holder = .monitor := if_pos raised
  obtain ⟨isRefused, restarted⟩ := exists_reflTransGen_restart host held begun
  exact ⟨isRefused, .head (.collect free) restarted⟩

/-- Unless the subscription is refused, starting over leads to the stream of the station that is
played, and the flag stays lowered. -/
theorem startOver_receiver {shared : SharedReceiver} {host : Host}
    (isFree : ∀ station ∈ shared.receiver.station, host.isFree station.stream.port = true) :
    (shared.startOver host).receiver.isRestartDue = false ∧
      (shared.startOver host).receiver.subscription =
        shared.receiver.station.map Station.stream := by
  have collected_eq : shared.collect.collected = shared.receiver.station := rfl
  rw [SharedReceiver.startOver, SharedReceiver.restart, collected_eq]
  cases station_eq : shared.receiver.station with
  | none => exact ⟨rfl, rfl⟩
  | some station =>
      simp only [Receiver.restart, Receiver.subscribe, if_pos (isFree station station_eq)]
      exact ⟨rfl, rfl⟩

/-! ## Runs -/

/-- In whatever order the tasks take their steps, whichever stations are registered and whatever
comes of the subscriptions, the subscription follows the station that is played. -/
theorem followsStation_of_reached {config : Config}
    (reached : Relation.ReflTransGen Step (new config) monitored) : monitored.FollowsStation := by
  have tracks := tracks_of_reached reached
  refine ⟨tracks.subscription_eq, tracks.raised, fun host free isFree => ?_⟩
  have unheld : monitored.holder ≠ .monitor := by
    rw [free]
    rintro ⟨⟩
  cases raised : monitored.receiver.isRestartDue with
  | false =>
      exact ⟨monitored, .refl, raised, free, tracks.subscription_eq raised unheld⟩
  | true =>
      obtain ⟨isRefused, started⟩ :=
        exists_reflTransGen_startOver host free (tracks.stage_eq unheld) raised
      obtain ⟨lowered, subscription_eq⟩ := startOver_receiver isFree
      exact ⟨_, started, lowered, rfl, subscription_eq⟩

/-- A host on which all ports are free, or none is. -/
def hostWhere (isFree : Bool) : Host :=
  { isFree := fun _ => isFree }

open SharedDial (announced)

/-- Another station is registered after the monitor was told the first one. -/
def overtaken : MonitoredReceiver :=
  ((((new {}).register (some (announced "Alpha" 1 0))).collect.register
    (some (announced "Beta" 2 0))).empty).subscribe (hostWhere true)

/-- The subscription to its stream is refused once, and then granted. -/
def granted : MonitoredReceiver :=
  ((overtaken.collect.empty.subscribe (hostWhere false)).demand.collect.empty).subscribe
    (hostWhere true)

theorem reflTransGen_overtaken : Relation.ReflTransGen Step (new {}) overtaken := by
  have raised := Relation.ReflTransGen.single
    (Step.register (new {}) (some (announced "Alpha" 1 0)))
  have overtaken := (raised.tail (.collect rfl)).tail
    (.register _ (some (announced "Beta" 2 0)))
  exact (overtaken.tail (.empty rfl rfl)).tail (.subscribe (hostWhere true) rfl rfl)

theorem reflTransGen_granted : Relation.ReflTransGen Step (new {}) granted := by
  have told := reflTransGen_overtaken.tail (.collect rfl)
  have refused := (told.tail (.empty rfl rfl)).tail (.subscribe (hostWhere false) rfl rfl)
  have toldAgain := (refused.tail (.demand rfl rfl)).tail (.collect rfl)
  exact (toldAgain.tail (.empty rfl rfl)).tail (.subscribe (hostWhere true) rfl rfl)

/-- The receiver is subscribed to the first station as long as the flag is raised, and then to the
second one. -/
theorem followsStation_of_granted :
    (Relation.ReflTransGen Step (new {}) overtaken ∧
        overtaken.receiver.subscription = some (announced "Alpha" 1 0).stream ∧
        overtaken.receiver.isRestartDue = true ∧ overtaken.FollowsStation) ∧
      Relation.ReflTransGen Step (new {}) granted ∧ granted.holder = .nobody ∧
        granted.receiver.isRestartDue = false ∧
        granted.receiver.subscription = some (announced "Beta" 2 0).stream ∧
        granted.FollowsStation :=
  ⟨⟨reflTransGen_overtaken, rfl, rfl, followsStation_of_reached reflTransGen_overtaken⟩,
    reflTransGen_granted, rfl, rfl, rfl, followsStation_of_reached reflTransGen_granted⟩

end MonitoredReceiver
end Listening
end AudioMulticast
