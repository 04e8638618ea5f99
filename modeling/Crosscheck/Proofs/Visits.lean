import Crosscheck.Proofs.Gate

/-! # The gate from visit to visit

Visitors come to one gate, each with a runner of their own and in a world of their own; all that
passes from one to the next is the latch. One visit to an unsettled gate calls the command once, a
visit to a settled one calls nothing, and only a refusal leaves the gate unsettled. So the first
visitor whose command is answered settles it, and everyone after that is told the same.
-/

namespace Crosscheck

structure Visitor where
  Machine : Type
  runner : Runner Machine
  world : World Machine

/-- What came of a visit: what the visitor was told, the calls that were made, and how the latch was
left. -/
structure Visit where
  result : Except Error Unit
  calls : List Call
  latch : Latch

def Visit.state (visit : Visit) : BuildState :=
  visit.latch.state

/-- What was called, and the state of the gate meanwhile. -/
def Visit.asked (visit : Visit) : List (Invocation × BuildState) :=
  visit.calls.map fun call => (call.invocation, call.build)

/-- What the runner of a visitor makes of a command. -/
def Visitor.answer (visitor : Visitor) (command : Invocation) : Except Error Output :=
  (visitor.runner.run visitor.world.machine visitor.world.disk command).1

/-- The command can be started and comes to an end. -/
def Visitor.isAnswered (visitor : Visitor) (command : Invocation) : Bool :=
  match visitor.answer command with
  | .ok _ => true
  | .error _ => false

namespace Gate

/-- A visit to a gate with the given latch, whatever the world of the visitor says of it. -/
def visit (gate : Gate) (latch : Latch) (visitor : Visitor) : Visit :=
  let (result, w) := gate.ensureBuilt visitor.runner { visitor.world with latch := latch }
  ⟨result, w.journal.drop visitor.world.journal.length, w.latch⟩

def visits (gate : Gate) : Latch → List Visitor → List Visit
  | _, [] => []
  | latch, visitor :: later =>
    gate.visit latch visitor :: visits gate (gate.visit latch visitor).latch later

variable {gate : Gate} {latch : Latch} {visitor : Visitor}

/-! ## One visit -/

theorem visit_of_settled {outcome : Except BuildFailure Unit} (h : latch.outcome = some outcome) :
    gate.visit latch visitor = ⟨report outcome, [], latch⟩ := by
  have hvisited := gate.ensureBuilt_visited visitor.runner { visitor.world with latch := latch }
  unfold visit
  generalize gate.ensureBuilt visitor.runner { visitor.world with latch := latch } = ending
    at hvisited ⊢
  cases hvisited with
  | settled hsettled =>
    cases hsettled.symm.trans h
    simp
  | refused hopen _ => cases hopen.symm.trans h
  | answered hopen _ => cases hopen.symm.trans h

/-- A visit to a gate that is open: one call, and its answer says what the visitor is told and how
the latch is left. -/
theorem visit_of_open (gate : Gate) (visitor : Visitor) (h : latch.outcome = none) :
    (gate.visit latch visitor).asked = [(gate.command, .building)] ∧
    ((gate.visit latch visitor).result, (gate.visit latch visitor).latch) =
      match visitor.answer gate.command with
      | .error error => (.error error, .notBuilt)
      | .ok output => (report (gate.settle output), { outcome := some (gate.settle output) }) := by
  have hvisited := gate.ensureBuilt_visited visitor.runner { visitor.world with latch := latch }
  unfold visit Visit.asked
  generalize gate.ensureBuilt visitor.runner { visitor.world with latch := latch } = ending
    at hvisited ⊢
  cases hvisited with
  | settled hsettled => cases hsettled.symm.trans h
  | @refused error w' _ hc =>
    have hanswer : visitor.answer gate.command = .error error := congrArg Prod.fst hc
    have hjournal := (World.called_of_call hc).journal
    simp only [hanswer, hjournal, List.drop_left, List.map_cons, List.map_nil, and_true]
    rfl
  | @answered output w' _ hc =>
    have hanswer : visitor.answer gate.command = .ok output := congrArg Prod.fst hc
    have hjournal := (World.called_of_call hc).journal
    simp only [hanswer, hjournal, List.drop_left, List.map_cons, List.map_nil, and_true]
    rfl

/-- What a settled gate says, in the words of the output that settled it. -/
theorem report_settle (output : Output) :
    (report (gate.settle output), Latch.state { outcome := some (gate.settle output) }) =
      if output.state = .exited 0 then (.ok (), .built)
      else
        (.error (.build gate.command.commandLine output.state
          (String.ofList (Utf8.decodeLossy output.stderr))),
        .failed ⟨gate.command.commandLine, output.state,
          String.ofList (Utf8.decodeLossy output.stderr)⟩) := by
  unfold settle
  by_cases hs : output.state = .exited 0
  · have hsuccess : output.success = true := by simp [Output.success, ExitState.success, hs]
    rw [if_pos hsuccess, if_pos hs]
    rfl
  · have hsuccess : output.success ≠ true := by simpa [Output.success, ExitState.success] using hs
    rw [if_neg hsuccess, if_neg hs]
    rfl

/-! ## Any number of visits -/

theorem length_visits (gate : Gate) (latch : Latch) (visitors : List Visitor) :
    (gate.visits latch visitors).length = visitors.length := by
  induction visitors generalizing latch with
  | nil => rfl
  | cons visitor later ih => rw [visits, List.length_cons, ih, List.length_cons]

theorem visits_of_settled {outcome : Except BuildFailure Unit} (h : latch.outcome = some outcome)
    (visitors : List Visitor) :
    gate.visits latch visitors = visitors.map fun _ => ⟨report outcome, [], latch⟩ := by
  induction visitors with
  | nil => rfl
  | cons visitor later ih =>
    have hvisit : gate.visit latch visitor = ⟨report outcome, [], latch⟩ := visit_of_settled h
    rw [visits, hvisit, ih, List.map_cons]

/-- No visit leaves the flag up. -/
theorem building_visits (h : latch.building = false) (visitors : List Visitor) :
    ∀ visit ∈ gate.visits latch visitors, visit.latch.building = false := by
  induction visitors generalizing latch with
  | nil => simp [visits]
  | cons visitor later ih =>
    have hvisited := gate.ensureBuilt_visited visitor.runner { visitor.world with latch := latch }
    have hdown : (gate.visit latch visitor).latch.building = false := hvisited.building_eq_false h
    rw [visits, List.forall_mem_cons]
    exact ⟨hdown, ih hdown⟩

/-- The visitors before the first answer are refused one after another. -/
theorem visit_before_answer {visitors : List Visitor} {i : Nat} {visit : Visit}
    (hi : i < visitors.findIdx (·.isAnswered gate.command)) (hvisitor : visitors[i]? = some visitor)
    (hvisit : (gate.visits .notBuilt visitors)[i]? = some visit) :
    ∃ error, visitor.answer gate.command = .error error ∧ visit.result = .error error ∧
      visit.asked = [(gate.command, .building)] ∧ visit.latch = .notBuilt := by
  induction visitors generalizing i with
  | nil => cases hvisitor
  | cons next later ih =>
    have hopen : Latch.notBuilt.outcome = none := rfl
    obtain ⟨hasked, hleft⟩ := gate.visit_of_open next hopen
    rw [List.findIdx_cons] at hi
    cases hanswer : next.answer gate.command with
    | ok output =>
      -- An answer at the head would be the first one.
      have hfirst : next.isAnswered gate.command = true := by simp [Visitor.isAnswered, hanswer]
      rw [hfirst] at hi
      cases hi
    | error error =>
      have hfirst : next.isAnswered gate.command = false := by simp [Visitor.isAnswered, hanswer]
      simp only [hanswer, Prod.mk.injEq] at hleft
      rw [hfirst, cond_false] at hi
      rw [visits, hleft.2] at hvisit
      cases i with
      | zero =>
        cases hvisitor
        cases hvisit
        exact ⟨error, hanswer, hleft.1, hasked, hleft.2⟩
      | succ i => exact ih (by omega) hvisitor hvisit

/-- The first answer is what everyone is told from then on. -/
theorem visit_from_answer {visitors : List Visitor} {i : Nat} {visit : Visit}
    (hi : visitors.findIdx (·.isAnswered gate.command) ≤ i)
    (hvisit : (gate.visits .notBuilt visitors)[i]? = some visit) :
    ∃ first output, visitors[visitors.findIdx (·.isAnswered gate.command)]? = some first ∧
      first.answer gate.command = .ok output ∧
      visit.asked = (if i = visitors.findIdx (·.isAnswered gate.command)
        then [(gate.command, .building)] else []) ∧
      visit.result = report (gate.settle output) ∧
      visit.latch = { outcome := some (gate.settle output) } := by
  induction visitors generalizing i with
  | nil => cases hvisit
  | cons next later ih =>
    have hopen : Latch.notBuilt.outcome = none := rfl
    obtain ⟨hasked, hleft⟩ := gate.visit_of_open next hopen
    rw [List.findIdx_cons] at hi ⊢
    rw [visits] at hvisit
    cases hanswer : next.answer gate.command with
    | ok output =>
      have hfirst : next.isAnswered gate.command = true := by simp [Visitor.isAnswered, hanswer]
      simp only [hanswer, Prod.mk.injEq] at hleft
      rw [hleft.2, visits_of_settled rfl] at hvisit
      refine ⟨next, output, by simp [hfirst], hanswer, ?_⟩
      rw [hfirst, cond_true]
      cases i with
      | zero =>
        cases hvisit
        exact ⟨hasked, hleft⟩
      | succ i =>
        rw [List.getElem?_cons_succ, List.getElem?_map, Option.map_eq_some_iff] at hvisit
        obtain ⟨_, _, rfl⟩ := hvisit
        exact ⟨rfl, rfl, rfl⟩
    | error error =>
      have hfirst : next.isAnswered gate.command = false := by simp [Visitor.isAnswered, hanswer]
      simp only [hanswer, Prod.mk.injEq] at hleft
      rw [hfirst, cond_false] at hi ⊢
      rw [hleft.2] at hvisit
      cases i with
      | zero => cases hi
      | succ i =>
        obtain ⟨first, output, hmem, houtput, hcalls, hsaid⟩ := ih (by omega) hvisit
        refine ⟨first, output, hmem, houtput, ?_, hsaid⟩
        simpa using hcalls

/-- Visitors come to a gate that is not built yet. Those before the first whose command is answered
each call it once, while the gate is building, are told why it was refused, and leave the gate as it
was. That visitor calls it once too, and settles the gate; everyone from then on is told the same
and calls nothing. The gate is never left building. A gate that is built from the beginning lets
everyone pass without a call. -/
theorem gate_settles_once (gate : Gate) (visitors : List Visitor) :
    (gate.visits .notBuilt visitors).length = visitors.length ∧
    (∀ visit ∈ gate.visits .notBuilt visitors, visit.state ≠ .building) ∧
    (∀ (i k : Nat) visitor visit, k = visitors.findIdx (·.isAnswered gate.command) →
      visitors[i]? = some visitor → (gate.visits .notBuilt visitors)[i]? = some visit →
      (i < k → ∃ error, visitor.answer gate.command = .error error ∧
        visit.result = .error error ∧ visit.asked = [(gate.command, .building)] ∧
        visit.state = .notBuilt) ∧
      (k ≤ i → ∃ first output, visitors[k]? = some first ∧
        first.answer gate.command = .ok output ∧
        visit.asked = (if i = k then [(gate.command, .building)] else []) ∧
        (visit.result, visit.state) =
          if output.state = .exited 0 then (.ok (), .built)
          else
            (.error (.build gate.command.commandLine output.state
              (String.ofList (Utf8.decodeLossy output.stderr))),
            .failed ⟨gate.command.commandLine, output.state,
              String.ofList (Utf8.decodeLossy output.stderr)⟩))) ∧
    Gate.prebuilt.visits .built visitors = visitors.map (fun _ => ⟨.ok (), [], .built⟩) ∧
    gate.visits .built visitors = Gate.prebuilt.visits .built visitors := by
  have hbuilt : Latch.built.outcome = some (.ok ()) := rfl
  refine ⟨gate.length_visits _ visitors, fun visit hmem => ?_, ?_,
    visits_of_settled hbuilt visitors, ?_⟩
  · exact Latch.state_ne_building (building_visits rfl visitors visit hmem)
  · rintro i k visitor visit rfl hvisitor hvisit
    refine ⟨fun hi => ?_, fun hi => ?_⟩
    · obtain ⟨error, hanswer, hresult, hasked, hlatch⟩ := visit_before_answer hi hvisitor hvisit
      refine ⟨error, hanswer, hresult, hasked, ?_⟩
      rw [Visit.state, hlatch]
      rfl
    · obtain ⟨first, output, hfirst, houtput, hasked, hresult, hlatch⟩ :=
        visit_from_answer hi hvisit
      refine ⟨first, output, hfirst, houtput, hasked, ?_⟩
      rw [Visit.state, hresult, hlatch, report_settle]
  · rw [visits_of_settled hbuilt, visits_of_settled hbuilt]

/-- A visitor whose runner always gives the same answer. -/
def steadyVisitor (answer : Except Error Output) : Visitor where
  Machine := Unit
  runner := ⟨fun _ disk _ => (answer, (), disk)⟩
  world := World.start () Disk.fresh .notBuilt

-- A refusal, a failed build, and a visitor who would have built without trouble.
example :
    (Gate.visits ⟨{ program := "make" }⟩ .notBuilt
      [steadyVisitor (.error (.spawn "make" "busy")), steadyVisitor (.ok { state := .exited 2 }),
        steadyVisitor (.ok { state := .exited 0 })]).map
        (fun visit => (visit.asked.length, visit.state)) =
      [(1, .notBuilt), (1, .failed ⟨"make", .exited 2, ""⟩),
        (0, .failed ⟨"make", .exited 2, ""⟩)] := rfl

end Gate

end Crosscheck
