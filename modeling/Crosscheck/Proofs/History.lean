import Crosscheck.Proofs.World

/-! # The history of a disk

Two kinds of events touch the machine and the disk of a world: calls, by which the runner changes
them as it likes, and removals. A history is a list of such events in order, each of which starts
where the one before it has ended. `Unfolds` says that a history is all there is between two worlds,
and that their records tell it.
-/

namespace Crosscheck

variable {σ : Type}

inductive Event where
  | call (call : Call)
  | removal (removal : Removal)

namespace Event

def call? : Event → Option Call
  | .call c => some c
  | .removal _ => none

def removal? : Event → Option Removal
  | .call _ => none
  | .removal r => some r

/-- The calls among the events. -/
def calls (events : List Event) : List Call :=
  events.filterMap call?

/-- The removals among the events. -/
def removals (events : List Event) : List Removal :=
  events.filterMap removal?

section

variable (c : Call) (r : Removal) (events events' : List Event)

@[simp] theorem calls_nil : calls [] = [] := rfl

@[simp] theorem calls_cons_call : calls (.call c :: events) = c :: calls events := rfl

@[simp] theorem calls_cons_removal : calls (.removal r :: events) = calls events := rfl

@[simp] theorem calls_append : calls (events ++ events') = calls events ++ calls events' :=
  List.filterMap_append

@[simp] theorem removals_nil : removals [] = [] := rfl

@[simp] theorem removals_cons_call : removals (.call c :: events) = removals events := rfl

@[simp] theorem removals_cons_removal : removals (.removal r :: events) = r :: removals events := rfl

@[simp] theorem removals_append :
    removals (events ++ events') = removals events ++ removals events' :=
  List.filterMap_append

end

@[simp] theorem calls_map_call (cs : List Call) : calls (cs.map .call) = cs := by
  induction cs with
  | nil => rfl
  | cons c cs ih => rw [List.map_cons, calls_cons_call, ih]

end Event

/-- The events lead from one machine and disk to another: each call is what the runner does there,
and each removal what the disk makes of it. -/
def History (runner : Runner σ) : σ → Disk → List Event → σ → Disk → Prop
  | machine, disk, [], machine', disk' => machine' = machine ∧ disk' = disk
  | machine, disk, .call call :: events, machine', disk' =>
    call.before = disk ∧
      ∃ next, runner.run machine disk call.invocation = (call.answer, next, call.after) ∧
        History runner next call.after events machine' disk'
  | machine, disk, .removal removal :: events, machine', disk' =>
    removal.before = disk ∧ History runner machine removal.after events machine' disk'

theorem History.append {runner : Runner σ} {machine machine' machine'' : σ}
    {disk disk' disk'' : Disk} {events events' : List Event}
    (h : History runner machine disk events machine' disk')
    (h' : History runner machine' disk' events' machine'' disk'') :
    History runner machine disk (events ++ events') machine'' disk'' := by
  induction events generalizing machine disk with
  | nil =>
    obtain ⟨rfl, rfl⟩ := h
    exact h'
  | cons event events ih =>
    cases event with
    | call call =>
      obtain ⟨hbefore, next, hrun, hrest⟩ := h
      exact ⟨hbefore, next, hrun, ih hrest⟩
    | removal removal => exact ⟨h.1, ih h.2⟩

namespace World

/-- All that happened to the machine and the disk from one world to another, and the records of it. -/
structure Unfolds (runner : Runner σ) (w : World σ) (events : List Event) (w' : World σ) : Prop where
  history : History runner w.machine w.disk events w'.machine w'.disk
  journal : w'.journal = w.journal ++ Event.calls events
  removals : w'.removals = w.removals ++ Event.removals events

namespace Unfolds

variable {runner : Runner σ} {w w' w'' : World σ} {events events' : List Event}

theorem refl (runner : Runner σ) (w : World σ) : w.Unfolds runner [] w :=
  ⟨⟨rfl, rfl⟩, by simp, by simp⟩

theorem trans (h : w.Unfolds runner events w') (h' : w'.Unfolds runner events' w'') :
    w.Unfolds runner (events ++ events') w'' where
  history := h.history.append h'.history
  journal := by rw [h'.journal, h.journal, List.append_assoc, Event.calls_append]
  removals := by rw [h'.removals, h.removals, List.append_assoc, Event.removals_append]

theorem call {purpose : Purpose} {invocation : Invocation} {answer : Except Error Output}
    (hc : w.call runner purpose invocation = (answer, w')) :
    w.Unfolds runner [.call ⟨purpose, invocation, w.build, w.disk, answer, w'.disk⟩] w' := by
  cases hc
  exact ⟨⟨rfl, _, rfl, rfl, rfl⟩, rfl, by simp⟩

theorem discard {path : String} {result : Except Error Unit} (hd : w.discard path = (result, w')) :
    w.Unfolds runner [.removal ⟨path, w.disk⟩] w' := by
  cases hd
  exact ⟨⟨rfl, rfl, rfl⟩, by simp, rfl⟩

/-- The latch of the gate is no part of the history. -/
theorem relatch (h : w.Unfolds runner events w') (latch : Latch) :
    w.Unfolds runner events { w' with latch := latch } :=
  ⟨h.history, h.journal, h.removals⟩

end Unfolds

end World

end Crosscheck
