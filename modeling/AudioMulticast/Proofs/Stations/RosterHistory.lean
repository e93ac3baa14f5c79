import AudioMulticast.Proofs.Stations.RosterCalls
import AudioMulticast.Proofs.Text.ByteOrder
import Mathlib.Data.List.Induction

/-!
# What a roster knows

Stations are dropped only when something is requested, several of them at once, and before anything
else is done.  Still the answers of a roster follow from the calls so far and the clock: a name is
listed exactly if its most recent update is not older than the timeout, and the selection stays
where it is unless its name is not listed any more, or a request moves it.
-/

namespace AudioMulticast
namespace Roster

/-- The record that the most recent update of a name has brought. -/
def latest (calls : List RosterCall) (name : String) : Option Station :=
  calls.reverse.findSome? fun call => call.request.record? name

/-- Whether the most recent update of a name is not older than the timeout at some time. -/
def IsListed (timeout : Nat) (calls : List RosterCall) (time : Nat) (name : String) : Prop :=
  ∃ station, latest calls name = some station ∧ time ≤ station.lastReply + timeout

/-- What is left of a selection once only some names are listed any more. -/
inductive Remains (isListed : String → Prop) : Option String → Option String → Prop where
  /-- Nothing was selected. -/
  | nothing : Remains isListed none none
  /-- The selected name is listed. -/
  | listed {name : String} (kept : isListed name) : Remains isListed (some name) (some name)
  /-- The first name behind it takes its place. -/
  | behind {name next : String} (dropped : ¬isListed name) (kept : isListed next)
      (lt : name < next) (least : ∀ other, isListed other → name < other → next ≤ other) :
      Remains isListed (some name) (some next)
  /-- No name behind it is listed, and the first of all takes its place. -/
  | around {name first : String} (dropped : ¬isListed name) (kept : isListed first)
      (last : ∀ other, isListed other → ¬name < other)
      (least : ∀ other, isListed other → first ≤ other) :
      Remains isListed (some name) (some first)
  /-- No name is listed. -/
  | nobody {name : String} (empty : ∀ other, ¬isListed other) :
      Remains isListed (some name) none

/-- What a request makes of a selection that is left. -/
inductive Selects (isListed : String → Prop) (preferred left : Option String) :
    RosterRequest → Option String → Prop where
  /-- A station that replies is selected if no other is. -/
  | alone {station : Station} (nobody : left = none) :
      Selects isListed preferred left (.update station) (some station.name)
  /-- The preferred station is selected when it replies and was not listed. -/
  | preferred {station : Station} (isPreferred : preferred = some station.name)
      (isNew : ¬isListed station.name) :
      Selects isListed preferred left (.update station) (some station.name)
  /-- Any other reply keeps the selection. -/
  | refreshed {station : Station} (somebody : left ≠ none)
      (known : preferred = some station.name → isListed station.name) :
      Selects isListed preferred left (.update station) left
  /-- The listener moves the selection. -/
  | moved (direction : Direction) (after : Option String) :
      Selects isListed preferred left (.move direction) after
  /-- Looking keeps the selection. -/
  | looked {request : RosterRequest} (isLook : request.isLook = true) :
      Selects isListed preferred left request left

variable {timeout : Nat} {preferred : Option String} {roster : Roster} {calls : List RosterCall}
  {call : RosterCall} {name : String}

/-! ## The most recent update -/

theorem latest_concat (calls : List RosterCall) (call : RosterCall) (name : String) :
    latest (calls ++ [call]) name = (call.request.record? name).or (latest calls name) := by
  rw [latest, List.reverse_concat, List.findSome?_cons, latest]
  cases call.request.record? name with
  | none => rfl
  | some station => rfl

theorem latest_concat_update (calls : List RosterCall) (time : Nat) (station : Station) :
    latest (calls ++ [⟨time, .update station⟩]) station.name = some station := by
  rw [latest_concat, RosterRequest.record?, if_pos rfl, Option.some_or]

theorem latest_concat_of_none (none_eq : call.request.record? name = none) :
    latest (calls ++ [call]) name = latest calls name := by
  rw [latest_concat, none_eq, Option.none_or]

theorem isStale_eq_false_iff {station : Station} {time : Nat} :
    station.isStale time timeout = false ↔ time ≤ station.lastReply + timeout := by
  rw [Station.isStale, decide_eq_false_iff_not]
  omega

/-! ## What is held -/

/-- The records of a roster are the latest ones of their names, and none is missing that is not
stale.  A record that was stale at a call may be gone, so only times from the last call on count. -/
structure Reflects (roster : Roster) (calls : List RosterCall) : Prop where
  latest_eq : ∀ station ∈ roster.stations, latest calls station.name = some station
  mem_of_latest : ∀ name station time, latest calls name = some station →
    (∀ call ∈ calls, call.time ≤ time) → time ≤ station.lastReply + roster.timeout →
      station ∈ roster.stations ∧ station.name = name

theorem reflects_new (timeout : Nat) (preferred : Option String) :
    (new timeout preferred).Reflects [] where
  latest_eq := by rintro _ ⟨⟩
  mem_of_latest := by rintro _ _ _ ⟨⟩

/-- What is left of a roster at some time are the latest records that are not stale. -/
theorem Reflects.mem_evict (reflects : roster.Reflects calls) {time : Nat}
    (later : ∀ call ∈ calls, call.time ≤ time) {station : Station} :
    station ∈ (roster.evict time).stations ↔
      latest calls station.name = some station ∧ time ≤ station.lastReply + roster.timeout := by
  rw [evict, List.mem_filter, Bool.not_eq_true', isStale_eq_false_iff]
  constructor
  · rintro ⟨member, fresh⟩
    exact ⟨reflects.latest_eq station member, fresh⟩
  · rintro ⟨found, fresh⟩
    exact ⟨(reflects.mem_of_latest _ station time found later fresh).1, fresh⟩

theorem Reflects.holds_evict (reflects : roster.Reflects calls) {time : Nat}
    (later : ∀ call ∈ calls, call.time ≤ time) (name : String) :
    holds (roster.evict time).stations name = true ↔
      IsListed roster.timeout calls time name := by
  rw [holds_iff]
  constructor
  · rintro ⟨station, member, rfl⟩
    exact ⟨station, (reflects.mem_evict later).mp member⟩
  · rintro ⟨station, found, fresh⟩
    obtain ⟨-, rfl⟩ := reflects.mem_of_latest name station time found later fresh
    exact ⟨station, (reflects.mem_evict later).mpr ⟨found, fresh⟩, rfl⟩

/-- Dropping stations, or moving the selection, keeps what a roster reflects. -/
theorem Reflects.of_evict (reflects : roster.Reflects calls)
    (later : ∀ other ∈ calls, other.time ≤ call.time)
    (brings_none : ∀ name, call.request.record? name = none) {after : Roster}
    (stations_eq : after.stations = (roster.evict call.time).stations)
    (timeout_eq : after.timeout = roster.timeout) : after.Reflects (calls ++ [call]) := by
  refine ⟨fun station member => ?_, fun name station time found latest_time fresh => ?_⟩
  · rw [stations_eq, reflects.mem_evict later] at member
    rw [latest_concat_of_none (brings_none _), member.1]
  · rw [latest_concat_of_none (brings_none name)] at found
    rw [timeout_eq] at fresh
    have call_le := latest_time call (List.mem_append_right _ (List.mem_singleton_self call))
    have inside := reflects.mem_of_latest name station time found
      (fun other member => latest_time other (List.mem_append_left _ member)) fresh
    obtain ⟨-, rfl⟩ := inside
    rw [stations_eq, reflects.mem_evict later]
    exact ⟨⟨found, call_le.trans fresh⟩, rfl⟩

/-- An update brings the latest record of one name, and leaves those of the others. -/
theorem Reflects.update (reflects : roster.Reflects calls) (wellFormed : roster.WellFormed)
    {now : Nat} (later : ∀ other ∈ calls, other.time ≤ now) (station : Station) :
    (roster.update now station).1.Reflects (calls ++ [⟨now, .update station⟩]) := by
  have ascending := (wellFormed.evict now).ascending
  have latest_of_ne {name : String} (different : name ≠ station.name) :
      latest (calls ++ [⟨now, .update station⟩]) name = latest calls name :=
    latest_concat_of_none (if_neg different.symm)
  refine ⟨fun other member => ?_, fun name other time found latest_time fresh => ?_⟩
  -- The new record is held even if it is stale already.
  · rcases (mem_insert ascending).mp member with rfl | ⟨inside, different⟩
    · exact latest_concat_update calls now other
    · rw [latest_of_ne different, ((reflects.mem_evict later).mp inside).1]
  · rw [Roster.update, mem_insert ascending]
    by_cases same : name = station.name
    · rw [same, latest_concat_update] at found
      cases found
      exact ⟨.inl rfl, same.symm⟩
    · rw [latest_of_ne same] at found
      have now_le := latest_time _ (List.mem_append_right _ (List.mem_singleton_self _))
      obtain ⟨-, rfl⟩ := reflects.mem_of_latest name other time found
        (fun call member => latest_time call (List.mem_append_left _ member)) fresh
      exact ⟨.inr ⟨(reflects.mem_evict later).mpr ⟨found, now_le.trans fresh⟩, same⟩, rfl⟩

theorem Reflects.perform (reflects : roster.Reflects calls) (wellFormed : roster.WellFormed)
    (later : ∀ other ∈ calls, other.time ≤ call.time) :
    (roster.perform call).1.Reflects (calls ++ [call]) := by
  obtain ⟨time, request⟩ := call
  cases request with
  | update station => exact reflects.update wellFormed later station
  | move direction => exact reflects.of_evict later (fun _ => rfl) rfl rfl
  | current => exact reflects.of_evict later (fun _ => rfl) rfl rfl
  | names => exact reflects.of_evict later (fun _ => rfl) rfl rfl
  | menu => exact reflects.of_evict later (fun _ => rfl) rfl rfl

/-! ## Runs -/

theorem perform_settings (roster : Roster) (call : RosterCall) :
    (roster.perform call).1.timeout = roster.timeout ∧
      (roster.perform call).1.preferred = roster.preferred := by
  obtain ⟨time, request⟩ := call
  cases request with
  | update station => exact ⟨rfl, rfl⟩
  | move direction => exact ⟨rfl, rfl⟩
  | current => exact ⟨rfl, rfl⟩
  | names => exact ⟨rfl, rfl⟩
  | menu => exact ⟨rfl, rfl⟩

theorem run_settings (roster : Roster) (calls : List RosterCall) :
    (roster.run calls).timeout = roster.timeout ∧
      (roster.run calls).preferred = roster.preferred := by
  induction calls using List.reverseRecOn with
  | nil => exact ⟨rfl, rfl⟩
  | append_singleton calls call ih =>
      obtain ⟨timeout_eq, preferred_eq⟩ := (roster.run calls).perform_settings call
      rw [run_concat, timeout_eq, preferred_eq]
      exact ih

theorem forall_time_le_of_concat
    (ordered : (calls ++ [call]).Pairwise fun first second => first.time ≤ second.time) :
    ∀ other ∈ calls, other.time ≤ call.time := fun other member =>
  (List.pairwise_append.mp ordered).2.2 other member call (List.mem_singleton_self call)

theorem reflects_run (timeout : Nat) (preferred : Option String)
    (ordered : calls.Pairwise fun first second => first.time ≤ second.time) :
    ((new timeout preferred).run calls).Reflects calls := by
  induction calls using List.reverseRecOn with
  | nil => exact reflects_new timeout preferred
  | append_singleton calls call ih =>
      rw [run_concat]
      exact (ih (List.pairwise_append.mp ordered).1).perform
        ((wellFormed_new timeout preferred).run calls) (forall_time_le_of_concat ordered)

/-! ## The selection -/

section
variable {stations : List Station} {isListed : String → Prop}

/-- Dropping all stations that are not listed moves the selection as if names were struck off. -/
theorem remains_reselect (ascending : Ascending stations)
    (holds_iff_isListed : ∀ name, holds stations name = true ↔ isListed name)
    (selected : Option String) : Remains isListed selected (reselect stations selected) := by
  have isListed_iff (name : String) : isListed name ↔ ∃ station ∈ stations, station.name = name :=
    (holds_iff_isListed name).symm.trans holds_iff
  cases selected with
  | none => exact .nothing
  | some name =>
      rw [reselect, Option.bind_some]
      split_ifs with held
      · exact .listed ((holds_iff_isListed name).mp held)
      have dropped : ¬isListed name := mt (holds_iff_isListed name).mpr held
      cases behind : nameAfter stations name with
      | some next =>
          obtain ⟨next_held, least⟩ := (ascending.filter _).firstName_eq_some_iff.mp behind
          obtain ⟨station, inside, rfl⟩ := holds_iff.mp next_held
          obtain ⟨member, lt⟩ := List.mem_filter.mp inside
          have kept := (isListed_iff station.name).mpr ⟨station, member, rfl⟩
          refine .behind dropped kept (of_decide_eq_true lt) fun other listed other_lt => ?_
          obtain ⟨record, record_mem, rfl⟩ := (isListed_iff other).mp listed
          exact least record (List.mem_filter.mpr ⟨record_mem, decide_eq_true other_lt⟩)
      | none =>
          have none_behind := List.filter_eq_nil_iff.mp (firstName_eq_none_iff.mp behind)
          rw [Option.none_or]
          cases front : firstName stations with
          | some first =>
              obtain ⟨first_held, least⟩ := ascending.firstName_eq_some_iff.mp front
              refine .around dropped ((holds_iff_isListed first).mp first_held) ?_ ?_
              · intro other listed other_lt
                obtain ⟨record, member, rfl⟩ := (isListed_iff other).mp listed
                exact none_behind record member (decide_eq_true other_lt)
              · intro other listed
                obtain ⟨record, member, rfl⟩ := (isListed_iff other).mp listed
                exact least record member
          | none =>
              refine .nobody fun other listed => ?_
              obtain ⟨record, member, -⟩ := (isListed_iff other).mp listed
              rw [firstName_eq_none_iff.mp front] at member
              exact List.not_mem_nil member

end

/-- What a request makes of the selection that dropping stations has left. -/
theorem selects_perform {isListed : String → Prop}
    (holds_iff_isListed : ∀ name,
      holds (roster.evict call.time).stations name = true ↔ isListed name) :
    Selects isListed roster.preferred (roster.evict call.time).selected call.request
      (roster.perform call).1.selected := by
  obtain ⟨time, request⟩ := call
  cases request with
  | update station =>
      change Selects isListed roster.preferred (roster.evict time).selected (.update station)
        ((roster.evict time).selectionWith station)
      rcases (roster.evict time).selectionWith_cases station with
        ⟨chosen, nobody | ⟨isPreferred, absent⟩⟩ | ⟨same, somebody, present⟩
      · rw [chosen]
        exact .alone nobody
      · rw [chosen]
        exact .preferred isPreferred fun listed =>
          Bool.eq_false_iff.mp absent ((holds_iff_isListed station.name).mpr listed)
      · rw [same]
        exact .refreshed somebody fun isPreferred =>
          (holds_iff_isListed station.name).mp (present isPreferred)
  | move direction => exact .moved direction _
  | current => exact .looked rfl
  | names => exact .looked rfl
  | menu => exact .looked rfl

/-! ## Answers -/

/-- Some names, in strictly ascending order of their bytes. -/
structure Lists (isListed : String → Prop) (names : List String) : Prop where
  ascending : names.Pairwise fun first second =>
    Bytes.ofText first.toList < Bytes.ofText second.toList
  mem_iff : ∀ name, name ∈ names ↔ isListed name

/-- Whether an answer is the right one, given the records of names, the names that are listed, and
the name that is selected afterwards. -/
def IsRight (record : String → Option Station) (isListed : String → Prop)
    (selected : Option String) : RosterAnswer → Prop
  | .station found =>
      found.map Station.name = selected ∧
        ∀ station, found = some station → record station.name = some station
  | .names names => Lists isListed names
  | .menu entries =>
      Lists isListed (entries.map MenuEntry.name) ∧
        ∀ entry ∈ entries, entry.isSelected = true ↔ selected = some entry.name

theorem lists_names {isListed : String → Prop} {stations : List Station}
    (ascending : Ascending stations)
    (holds_iff_isListed : ∀ name, holds stations name = true ↔ isListed name) :
    Lists isListed (stations.map Station.name) where
  ascending := List.pairwise_map.mpr (ascending.imp Bytes.ofText_lt_ofText_iff.mpr)
  mem_iff := fun name => by rw [List.mem_map, ← holds_iff_isListed, holds_iff]

/-- The selected station is the latest record of the selected name. -/
theorem Reflects.isRight_station (reflects : roster.Reflects calls)
    (wellFormed : roster.WellFormed) (isListed : String → Prop) :
    IsRight (latest calls) isListed roster.selected (.station roster.selectedStation) :=
  ⟨wellFormed.selectedStation_name, fun station found =>
    reflects.latest_eq station (wellFormed.selectedStation_eq_some_iff.mp found).1⟩

theorem Reflects.isRight_perform (reflects : roster.Reflects calls)
    (wellFormed : roster.WellFormed) (later : ∀ other ∈ calls, other.time ≤ call.time) :
    IsRight (latest (calls ++ [call])) (IsListed roster.timeout calls call.time)
      (roster.perform call).1.selected (roster.perform call).2 := by
  have after_reflects := reflects.perform wellFormed later
  have after_wellFormed := wellFormed.perform call
  have lists := lists_names (wellFormed.evict call.time).ascending (reflects.holds_evict later)
  obtain ⟨time, request⟩ := call
  cases request with
  | update station => exact after_reflects.isRight_station after_wellFormed _
  | move direction => exact after_reflects.isRight_station after_wellFormed _
  | current => exact after_reflects.isRight_station after_wellFormed _
  | names => exact lists
  | menu =>
      refine ⟨?_, fun entry member => ?_⟩
      · rw [List.map_map]
        exact lists
      · obtain ⟨station, -, rfl⟩ := List.mem_map.mp member
        exact beq_iff_eq

/-- What the calls so far and the clock say about a call: how the roster is before it, and how it is
afterwards together with the answer. -/
structure Accounts (timeout : Nat) (preferred : Option String) (calls : List RosterCall)
    (call : RosterCall) (before : Roster) (performed : Roster × RosterAnswer) : Prop where
  isRight : IsRight (latest (calls ++ [call])) (IsListed timeout calls call.time)
    performed.1.selected performed.2
  selected_eq_none_iff : performed.1.selected = none ↔ performed.1.stations = []
  holds_selected : ∀ name, performed.1.selected = some name →
    holds performed.1.stations name = true
  selects : ∃ left, Remains (IsListed timeout calls call.time) before.selected left ∧
    Selects (IsListed timeout calls call.time) preferred left call.request performed.1.selected

/-- Whatever is requested of a roster, and whenever, the answers and the selection are what the
calls so far and the clock say. -/
theorem accounts_run (timeout : Nat) (preferred : Option String)
    (ordered : (calls ++ [call]).Pairwise fun first second => first.time ≤ second.time) :
    Accounts timeout preferred calls call ((new timeout preferred).run calls)
      (((new timeout preferred).run calls).perform call) := by
  have later := forall_time_le_of_concat ordered
  have wellFormed := (wellFormed_new timeout preferred).run calls
  have reflects := reflects_run timeout preferred (List.pairwise_append.mp ordered).1
  obtain ⟨timeout_eq, preferred_eq⟩ := (new timeout preferred).run_settings calls
  have holds_iff_isListed := reflects.holds_evict later
  have remains := remains_reselect (wellFormed.evict call.time).ascending holds_iff_isListed
    ((new timeout preferred).run calls).selected
  have selects := selects_perform holds_iff_isListed
  have isRight := reflects.isRight_perform wellFormed later
  rw [timeout_eq] at remains selects isRight
  rw [preferred_eq] at selects
  have after := wellFormed.perform call
  exact ⟨isRight, after.selected_eq_none_iff, after.holds_selected, _, remains, selects⟩

/-- Three stations reply, and two of them fall silent, the selected one among them. -/
def silences : List RosterCall :=
  let reply (name : String) (lastReply : Nat) : Station :=
    { name
      control := { address := ⟨10, 0, 0, 1⟩, port := 35830 }
      stream := { address := ⟨239, 0, 0, 1⟩, port := 25830 }
      lastReply }
  [⟨0, .update (reply "B" 0)⟩, ⟨4, .update (reply "C" 4)⟩, ⟨8, .update (reply "A" 8)⟩]

/-- The menu is asked for when only the last of them is left. -/
def drawing : RosterCall :=
  { time := 25, request := .menu }

/-- The selection wraps around to the only station that is left. -/
theorem accounts_run_of_silences :
    ((silences ++ [drawing]).Pairwise fun first second => first.time ≤ second.time) ∧
      ((new 20 none).run silences).selected = some "B" ∧
      (((new 20 none).run silences).perform drawing).2 =
        .menu [{ name := "A", isSelected := true }] ∧
      Accounts 20 none silences drawing ((new 20 none).run silences)
        (((new 20 none).run silences).perform drawing) := by
  have ordered : (silences ++ [drawing]).Pairwise fun first second =>
      first.time ≤ second.time := by
    decide
  exact ⟨ordered, by decide +kernel, by decide +kernel, accounts_run 20 none ordered⟩

end Roster
end AudioMulticast
