import AudioMulticast.Menu.Dial
import AudioMulticast.Proofs.Stations.RosterCalls
import AudioMulticast.Proofs.Wire.CanonicalMessage
import Mathlib.Data.Set.Function
import Mathlib.Logic.Relation

/-!
# Publishing the menu

The board compares texts and not menus, to find out whether there is anything new to publish.  It is
right to do so: names that have been read from a reply hold no carriage return, therefore a text is
drawn from one menu only.

A task that publishes the menu has got it from the roster before.  In between others may change the
roster, or publish a menu of their own.
-/

namespace AudioMulticast

open Text

namespace Roster

/-! ## Stations of a roster -/

theorem mem_of_mem_evict {roster : Roster} {now : Nat} {station : Station}
    (member : station ∈ (roster.evict now).stations) : station ∈ roster.stations :=
  List.mem_of_mem_filter member

theorem eq_or_mem_of_mem_insert {station other : Station} {stations : List Station}
    (member : other ∈ insert station stations) : other = station ∨ other ∈ stations := by
  fun_induction insert station stations with
  | case1 => exact .inl (List.mem_singleton.mp member)
  | case2 => exact List.mem_cons.mp member
  | case3 first rest =>
      rcases List.mem_cons.mp member with rfl | later
      · exact .inl rfl
      · exact .inr (List.mem_cons_of_mem _ later)
  | case4 first rest _ _ ih =>
      rcases List.mem_cons.mp member with rfl | later
      · exact .inr List.mem_cons_self
      · exact (ih later).imp_right (List.mem_cons_of_mem _)

/-- A request brings no station but the one that it adds. -/
theorem mem_of_mem_perform {roster : Roster} {call : RosterCall} {station : Station}
    (member : station ∈ (roster.perform call).1.stations) :
    call.request = .update station ∨ station ∈ roster.stations := by
  obtain ⟨time, request⟩ := call
  cases request with
  | update added =>
      rcases eq_or_mem_of_mem_insert member with rfl | kept
      · exact .inl rfl
      · exact .inr (mem_of_mem_evict kept)
  | _ => exact .inr (mem_of_mem_evict member)

end Roster

namespace Menu

/-- Whether a station of this name can be announced by a reply. -/
def IsHeard (name : String) : Prop :=
  ∃ bytes reply, ControlMessage.decode bytes = .ok (.reply reply) ∧ reply.name = name

/-- Whether all names of a menu can be announced. -/
def AreHeard (entries : List MenuEntry) : Prop :=
  ∀ entry ∈ entries, IsHeard entry.name

/-! ## Texts that are drawn from one menu -/

theorem IsHeard.spaced {name : String} (heard : IsHeard name) : Spaced name.toList := by
  obtain ⟨bytes, reply, read, rfl⟩ := heard
  cases ControlMessage.isCanonical_of_decode read with
  | reply spaced => exact spaced

/-- A name does not end its line. -/
theorem IsHeard.return_not_mem {name : String} (heard : IsHeard name) : '\r' ∉ name.toList :=
  fun member => absurd (heard.spaced.eq_of_isBlank member (by decide)) (by decide)

/-- What stands before the first carriage return is determined by the text. -/
theorem append_lineEnd_inj {front other rest rest' : List Char} (front_whole : '\r' ∉ front)
    (other_whole : '\r' ∉ other) (same : front ++ lineEnd ++ rest = other ++ lineEnd ++ rest') :
    front = other ∧ rest = rest' := by
  induction front generalizing other with
  | nil =>
      cases other with
      | nil => simpa using same
      | cons first other =>
          simp only [lineEnd, List.nil_append, List.cons_append, List.cons.injEq] at same
          simp [← same.1] at other_whole
  | cons first front ih =>
      rw [List.mem_cons, not_or] at front_whole
      cases other with
      | nil =>
          simp only [lineEnd, List.nil_append, List.cons_append, List.cons.injEq] at same
          exact absurd same.1.symm front_whole.1
      | cons first' other =>
          rw [List.mem_cons, not_or] at other_whole
          simp only [List.cons_append, List.cons.injEq] at same
          obtain ⟨rfl, rest_eq⟩ := ih front_whole.2 other_whole.2 same.2
          exact ⟨by rw [same.1], rest_eq⟩

theorem marker_append_inj {isSelected isSelected' : Bool} {rest rest' : List Char}
    (same : marker isSelected ++ rest = marker isSelected' ++ rest') :
    isSelected = isSelected' ∧ rest = rest' := by
  cases isSelected <;> cases isSelected' <;> simp_all [marker]

/-- The first entry of a menu is determined by the text, and so is what stands behind it. -/
theorem entryLine_append_inj {entry other : MenuEntry} {rest rest' : List Char}
    (heard : IsHeard entry.name) (other_heard : IsHeard other.name)
    (same : entryLine entry ++ rest = entryLine other ++ rest') : entry = other ∧ rest = rest' := by
  simp only [entryLine, List.append_assoc] at same
  obtain ⟨isSelected_eq, same⟩ := marker_append_inj same
  rw [← List.append_assoc, ← List.append_assoc] at same
  obtain ⟨name_eq, rest_eq⟩ :=
    append_lineEnd_inj heard.return_not_mem other_heard.return_not_mem same
  have entry_eq : entry = other := by
    cases entry
    cases other
    exact congrArg₂ MenuEntry.mk (String.toList_inj.mp name_eq) isSelected_eq
  exact ⟨entry_eq, rest_eq⟩

/-- The rule below the entries cannot be taken for an entry, nor an entry for the rule. -/
theorem rule_ne_entryLine_append (entry : MenuEntry) (rest : List Char) :
    rule ≠ entryLine entry ++ rest := by
  cases selected : entry.isSelected <;> simp [rule, entryLine, marker, selected, List.replicate]

/-- No two menus of announced names are drawn as the same text. -/
theorem injOn_render : Set.InjOn render {entries | AreHeard entries} := by
  intro entries entries_heard others others_heard same
  have body : entries.flatMap entryLine ++ rule = others.flatMap entryLine ++ rule := by
    simpa [render, List.append_assoc] using same
  clear same
  induction entries generalizing others with
  | nil =>
      cases others with
      | nil => rfl
      | cons other others =>
          rw [List.flatMap_nil, List.nil_append, List.flatMap_cons, List.append_assoc] at body
          exact absurd body (rule_ne_entryLine_append other _)
  | cons entry entries ih =>
      cases others with
      | nil =>
          rw [List.flatMap_nil, List.nil_append, List.flatMap_cons, List.append_assoc] at body
          exact absurd body.symm (rule_ne_entryLine_append entry _)
      | cons other others =>
          simp only [Set.mem_ofPred_eq, AreHeard, List.forall_mem_cons] at entries_heard others_heard
          simp only [List.flatMap_cons, List.append_assoc] at body
          obtain ⟨rfl, rest⟩ := entryLine_append_inj entries_heard.1 others_heard.1 body
          rw [ih entries_heard.2 others_heard.2 rest]

/-! ## Tasks that publish the menu -/

theorem Board.text_publish (board : Board) (entries : List MenuEntry) :
    (board.publish entries).text = render entries := by
  rw [Board.publish]
  split_ifs with same
  · exact same.symm
  · rfl

theorem Board.newsSince_publish (board : Board) (entries : List MenuEntry) :
    (board.publish entries).newsSince board.revision =
      if render entries = board.text then none else some (render entries) := by
  rw [Board.publish]
  split_ifs with same
  · simp [newsSince]
  · simp [newsSince]

/-- A dial, the clock, and the menus on their way to the board. -/
structure WatchedDial where
  dial : Dial
  now : Nat
  /-- Menus that tasks have got from the roster and are about to publish. -/
  drawn : List (List MenuEntry)
  /-- The menu that was published last.  There is none at the beginning, which is like one without
  entries. -/
  shown : List MenuEntry

namespace WatchedDial

/-- A dial that nobody has used so far. -/
def new (timeout : Nat) (preferred : Option String) : WatchedDial :=
  { dial := { roster := .new timeout preferred }, now := 0, drawn := [], shown := [] }

/-- The roster carries out a request. -/
def ask (watched : WatchedDial) (request : RosterRequest) : WatchedDial :=
  { watched with
    dial := { watched.dial with roster := (watched.dial.roster.perform ⟨watched.now, request⟩).1 } }

/-- The tuning changes. -/
def retune (watched : WatchedDial) (tuning : Tuning) : WatchedDial :=
  { watched with dial := { watched.dial with tuning } }

/-- A task has got the menu from the roster, and is about to publish it. -/
def draw (watched : WatchedDial) : WatchedDial :=
  { watched with
    dial := { watched.dial with roster := (watched.dial.roster.menu watched.now).1 }
    drawn := (watched.dial.roster.menu watched.now).2 :: watched.drawn }

/-- A task publishes a menu. -/
def publish (watched : WatchedDial) (entries : List MenuEntry) : WatchedDial :=
  { watched with
    dial := { watched.dial with board := watched.dial.board.publish entries }
    drawn := watched.drawn.erase entries
    shown := entries }

/-- Time passes. -/
def wait (watched : WatchedDial) (duration : Nat) : WatchedDial :=
  { watched with now := watched.now + duration }

/-- What a task can do next, or the clock. -/
inductive Step : WatchedDial → WatchedDial → Prop where
  /-- A datagram has been read as the reply of a station. -/
  | hear {watched : WatchedDial} {bytes : Bytes} {reply : Reply} {received : Nat}
      (source : Endpoint) (read : ControlMessage.decode bytes = .ok (.reply reply))
      (past : received ≤ watched.now) :
      Step watched (watched.ask (.update (.ofReply reply source received)))
  /-- A listener moves the selection. -/
  | press (watched : WatchedDial) (direction : Direction) :
      Step watched (watched.ask (.move direction))
  /-- The roster is asked for an answer. -/
  | look (watched : WatchedDial) {request : RosterRequest} (isLook : request.isLook = true) :
      Step watched (watched.ask request)
  /-- The tuning changes. -/
  | retune (watched : WatchedDial) (tuning : Tuning) :
      Step watched (watched.retune tuning)
  /-- The menu is drawn. -/
  | draw (watched : WatchedDial) :
      Step watched watched.draw
  /-- A menu that has been drawn is published. -/
  | publish {watched : WatchedDial} {entries : List MenuEntry} (due : entries ∈ watched.drawn) :
      Step watched (watched.publish entries)
  /-- Time passes. -/
  | wait (watched : WatchedDial) (duration : Nat) :
      Step watched (watched.wait duration)

variable {watched after : WatchedDial} {entries : List MenuEntry}

/-- The dial when the menu is drawn and published without an interruption. -/
def refresh (watched : WatchedDial) : WatchedDial :=
  { watched with
    dial := watched.dial.refresh watched.now
    shown := (watched.dial.roster.menu watched.now).2 }

theorem reflTransGen_refresh (watched : WatchedDial) :
    Relation.ReflTransGen Step watched watched.refresh := by
  have published := @Step.publish watched.draw _ List.mem_cons_self
  simp only [publish, draw, List.erase_cons_head] at published
  exact (Relation.ReflTransGen.single (.draw watched)).tail published

/-- A listener moves the selection, and the menu is drawn anew. -/
theorem reflTransGen_move (watched : WatchedDial) (direction : Direction) :
    ∃ shown, Relation.ReflTransGen Step watched
      { watched with dial := watched.dial.move watched.now direction, shown } := by
  have moved := Relation.ReflTransGen.single (Step.press watched direction)
  have tuned := moved.tail (Step.retune _ (watched.dial.tuning.choose
    (watched.dial.roster.move watched.now direction).2).1)
  exact ⟨_, tuned.trans (reflTransGen_refresh _)⟩

/-! ## Names that have been announced -/

/-- All names are announced ones, and the board shows the menu that was published last. -/
structure Faithful (watched : WatchedDial) : Prop where
  heard : ∀ station ∈ watched.dial.roster.stations, IsHeard station.name
  drawn_heard : ∀ entries ∈ watched.drawn, AreHeard entries
  shown_heard : AreHeard watched.shown
  text_eq : watched.dial.board.text = render watched.shown

theorem faithful_new (timeout : Nat) (preferred : Option String) :
    (new timeout preferred).Faithful where
  heard := by simp [new, Roster.new]
  drawn_heard := by simp [new]
  shown_heard := by simp [new, AreHeard]
  text_eq := rfl

theorem Faithful.ask (faithful : watched.Faithful) {request : RosterRequest}
    (heard : ∀ station, request = .update station → IsHeard station.name) :
    (watched.ask request).Faithful where
  heard := fun station member =>
    (Roster.mem_of_mem_perform member).elim (heard station) (faithful.heard station)
  drawn_heard := faithful.drawn_heard
  shown_heard := faithful.shown_heard
  text_eq := faithful.text_eq

theorem Faithful.step (faithful : watched.Faithful) (step : Step watched after) :
    after.Faithful := by
  obtain ⟨heard, drawn_heard, shown_heard, text_eq⟩ := faithful
  cases step with
  | @hear bytes reply received source read past =>
      apply Faithful.ask ⟨heard, drawn_heard, shown_heard, text_eq⟩
      rintro _ ⟨⟩
      exact ⟨bytes, reply, read, rfl⟩
  | press direction => exact Faithful.ask ⟨heard, drawn_heard, shown_heard, text_eq⟩ (by simp)
  | @look request isLook =>
      apply Faithful.ask ⟨heard, drawn_heard, shown_heard, text_eq⟩
      rintro station rfl
      cases isLook
  | retune tuning => exact ⟨heard, drawn_heard, shown_heard, text_eq⟩
  | draw =>
      have kept_heard : ∀ station ∈ (watched.dial.roster.evict watched.now).stations,
          IsHeard station.name := fun station member => heard station (Roster.mem_of_mem_evict member)
      refine ⟨kept_heard, List.forall_mem_cons.mpr ⟨fun entry member => ?_, drawn_heard⟩,
        shown_heard, text_eq⟩
      obtain ⟨station, kept, rfl⟩ := List.mem_map.mp member
      exact kept_heard station kept
  | @publish entries due =>
      refine ⟨heard, fun other member => drawn_heard other (List.mem_of_mem_erase member),
        drawn_heard entries due, ?_⟩
      exact watched.dial.board.text_publish entries
  | wait duration => exact ⟨heard, drawn_heard, shown_heard, text_eq⟩

theorem faithful_of_reached {timeout : Nat} {preferred : Option String}
    (reached : Relation.ReflTransGen Step (new timeout preferred) watched) : watched.Faithful := by
  induction reached with
  | refl => exact faithful_new timeout preferred
  | tail _ step ih => exact ih.step step

/-- A menu that is published stands on the board afterwards, and those who have seen the board before
are told exactly if it is not the menu that was published last.  This is so because no two menus look
the same. -/
theorem publish_tells_of_changes {timeout : Nat} {preferred : Option String}
    (reached : Relation.ReflTransGen Step (new timeout preferred) watched)
    (due : entries ∈ watched.drawn) :
    (watched.publish entries).dial.board.text = render entries ∧
      (watched.publish entries).dial.board.newsSince watched.dial.board.revision =
        (if entries = watched.shown then none else some (render entries)) ∧
      AreHeard entries ∧ AreHeard watched.shown ∧ Set.InjOn render {entries | AreHeard entries} := by
  have faithful := faithful_of_reached reached
  have published := faithful.step (.publish due)
  have heard := faithful.drawn_heard entries due
  refine ⟨published.text_eq, ?_, heard, faithful.shown_heard, injOn_render⟩
  simp only [publish, Board.newsSince_publish, faithful.text_eq,
    injOn_render.eq_iff heard faithful.shown_heard]

/-- A reply that announces a station of a name. -/
def announcing (name : String) : Reply :=
  { address := ⟨239, 0, 0, 1⟩, port := 25830, name }

/-- Where replies come from. -/
def studio : Endpoint :=
  { address := ⟨10, 0, 0, 1⟩, port := 35830 }

/-- A dial whose menu has been published and drawn again after a step, with a station whose name is
written like the marked entry of another one. -/
def imitated : WatchedDial :=
  ((((new 20000 none).ask (.update (.ofReply (announcing "Alpha") studio 0))).ask
    (.update (.ofReply (announcing "> Alpha") studio 0))).refresh.ask (.move .down)).draw

theorem reflTransGen_imitated : Relation.ReflTransGen Step (new 20000 none) imitated := by
  have read {name : String} (spaced : Spaced name.toList) :
      ControlMessage.decode (ControlMessage.encode (.reply (announcing name))) =
        .ok (.reply (announcing name)) :=
    (ControlMessage.IsCanonical.reply spaced).decode_encode
  have alpha : Spaced "Alpha".toList :=
    (unwords_words_eq_iff (by decide)).mp (by decide)
  have imitation : Spaced "> Alpha".toList :=
    (unwords_words_eq_iff (by decide)).mp (by decide)
  have first := Relation.ReflTransGen.single (@Step.hear (new 20000 none) _ _ 0 studio
    (read alpha) le_rfl)
  have second := first.tail (.hear studio (read imitation) le_rfl)
  exact ((second.trans (reflTransGen_refresh _)).tail (.press _ .down)).tail (.draw _)

theorem publish_tells_of_changes_imitated :
    Relation.ReflTransGen Step (new 20000 none) imitated ∧
      imitated.shown = [⟨"> Alpha", false⟩, ⟨"Alpha", true⟩] ∧
      (imitated.publish [⟨"> Alpha", true⟩, ⟨"Alpha", false⟩]).dial.board.newsSince
          imitated.dial.board.revision =
        some (render [⟨"> Alpha", true⟩, ⟨"Alpha", false⟩]) := by
  have shown_eq : imitated.shown = [⟨"> Alpha", false⟩, ⟨"Alpha", true⟩] := by
    decide +kernel
  have due : [⟨"> Alpha", true⟩, ⟨"Alpha", false⟩] ∈ imitated.drawn := by
    decide +kernel
  have news := (publish_tells_of_changes reflTransGen_imitated due).2.1
  rw [shown_eq, if_neg (by decide)] at news
  exact ⟨reflTransGen_imitated, shown_eq, news⟩

end WatchedDial
end Menu
end AudioMulticast
