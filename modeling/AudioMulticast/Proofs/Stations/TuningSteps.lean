import AudioMulticast.Stations.Tuning
import Mathlib.Order.Fin.Basic
import Mathlib.Tactic.SplitIfs

/-!
# What a call does to a tuning

Each call is described once by its cases.  All calls but the one with which the monitor lowers the
flag have in common that station and session are the same as before, unless the flag is raised.
-/

namespace AudioMulticast
namespace Tuning

variable {tuning screened : Tuning} {session : SessionId}

/-! ## Cases -/

/-- A packet of the current session is accepted, and one of a higher session has it adopted.  Any
other one is ignored, and all are while the flag is raised. -/
theorem screen_cases (tuning : Tuning) (session : SessionId) :
    (tuning.restart = false ∧ session = tuning.session ∧
        tuning.screen session = (tuning, false)) ∨
      (tuning.restart = false ∧ tuning.session < session ∧
        tuning.screen session = ({ tuning with session, restart := true }, true)) ∨
      ((tuning.restart = false → session < tuning.session) ∧
        tuning.screen session = (tuning, true)) := by
  rw [screen]
  split_ifs with raised lower same
  · exact .inr (.inr ⟨fun lowered => absurd raised (Bool.eq_false_iff.mp lowered), rfl⟩)
  · exact .inr (.inr ⟨fun _ => lower, rfl⟩)
  · exact .inl ⟨Bool.eq_false_iff.mpr raised, same, rfl⟩
  · have higher : tuning.session < session := lt_of_le_of_ne (not_lt.mp lower) (Ne.symm same)
    exact .inr (.inl ⟨Bool.eq_false_iff.mpr raised, higher, rfl⟩)

/-- A packet is accepted if the flag is lowered and its session is the current one. -/
theorem screen_eq_accepted_iff :
    tuning.screen session = (screened, false) ↔
      screened = tuning ∧ tuning.restart = false ∧ session = tuning.session := by
  rcases tuning.screen_cases session with
    ⟨lowered, same, screen_eq⟩ | ⟨-, higher, screen_eq⟩ | ⟨lower, screen_eq⟩
  · rw [screen_eq]
    exact ⟨by rintro ⟨⟩; exact ⟨rfl, lowered, same⟩, by rintro ⟨rfl, -⟩; rfl⟩
  · rw [screen_eq]
    exact iff_of_false (by rintro ⟨⟩) fun current => higher.ne current.2.2.symm
  · rw [screen_eq]
    exact iff_of_false (by rintro ⟨⟩) fun current => (lower current.2.1).ne current.2.2

theorem screen_eq_of_accepted (accepted : (tuning.screen session).2 = false) :
    tuning.screen session = (tuning, false) := by
  have screen_eq : tuning.screen session = ((tuning.screen session).1, false) :=
    Prod.ext rfl accepted
  rw [screen_eq, (screen_eq_accepted_iff.mp screen_eq).1]

/-- Choosing the station that is played keeps session and flag.  Choosing another one starts with
session zero and raises the flag. -/
theorem choose_eq (tuning : Tuning) (station : Option Station) :
    (tuning.station.map Station.identity = station.map Station.identity ∧
        tuning.choose station = ({ tuning with station }, false)) ∨
      (tuning.station.map Station.identity ≠ station.map Station.identity ∧
        tuning.choose station = ({ station, session := 0, restart := true }, true)) := by
  rw [choose]
  split_ifs with same
  · exact .inl ⟨same, rfl⟩
  · exact .inr ⟨same, rfl⟩

theorem choose_station (tuning : Tuning) (station : Option Station) :
    (tuning.choose station).1.station = station := by
  rcases tuning.choose_eq station with ⟨-, choose_eq⟩ | ⟨-, choose_eq⟩
  all_goals rw [choose_eq]

/-! ## Changes that raise the flag -/

/-- Whether station and session are the same as before, unless the flag is raised. -/
def Persists (before after : Tuning) : Prop :=
  after.restart = false →
    before.restart = false ∧ after.session = before.session ∧
      after.station.map Station.identity = before.station.map Station.identity

theorem Persists.refl (tuning : Tuning) : tuning.Persists tuning :=
  fun lowered => ⟨lowered, rfl, rfl⟩

theorem Persists.trans {first second third : Tuning} (start : first.Persists second)
    (rest : second.Persists third) : first.Persists third := by
  intro lowered
  obtain ⟨lowered, session_eq, station_eq⟩ := rest lowered
  obtain ⟨lowered, session_eq', station_eq'⟩ := start lowered
  exact ⟨lowered, session_eq.trans session_eq', station_eq.trans station_eq'⟩

theorem persists_choose (tuning : Tuning) (station : Option Station) :
    tuning.Persists (tuning.choose station).1 := by
  rcases tuning.choose_eq station with ⟨same, choose_eq⟩ | ⟨-, choose_eq⟩
  · rw [choose_eq]
    exact fun lowered => ⟨lowered, rfl, same.symm⟩
  · rw [choose_eq]
    rintro ⟨⟩

theorem persists_screen (tuning : Tuning) (session : SessionId) :
    tuning.Persists (tuning.screen session).1 := by
  rcases tuning.screen_cases session with ⟨-, -, screen_eq⟩ | ⟨-, -, screen_eq⟩ | ⟨-, screen_eq⟩
  · rw [screen_eq]
    exact .refl tuning
  · rw [screen_eq]
    rintro ⟨⟩
  · rw [screen_eq]
    exact .refl tuning

theorem persists_demandRestart (tuning : Tuning) : tuning.Persists tuning.demandRestart := by
  rintro ⟨⟩

end Tuning
end AudioMulticast
