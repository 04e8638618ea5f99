import Crosscheck.Proofs.Effects
import Crosscheck.Proofs.Interleaving

/-! # The items of a run

A session is written down move by move: what each move gave, and the world before and after it. The
pulls of one run among its moves give items for the names of the run, one for each and in order,
until the names are used up or an item ends the run; from then on they give nothing and do nothing.
That other runs are started and pulled in between makes no difference to this.
-/

namespace Crosscheck

variable {σ : Type}

/-! ## Sessions written down -/

/-- A move as it was made. -/
structure Entry (σ : Type) where
  move : Move
  given : Option (Except Error Outcome)
  before : World σ
  after : World σ

namespace Entry

/-- The calls that a move led to. -/
def calls (entry : Entry σ) : List Call :=
  entry.after.journal.drop entry.before.journal.length

/-- The pulls of the run with the given number. -/
def pullsOf (number : Nat) (log : List (Entry σ)) : List (Entry σ) :=
  log.filter fun entry => entry.move = .pull number

end Entry

namespace Driver

/-- What a move gives: the item that is pulled, or the error for which a run is not started. -/
def given (driver : Driver) (runner : Runner σ) (s : Session σ) :
    Move → Option (Except Error Outcome)
  | .start names =>
    match driver.runAll names s.world.disk with
    | .ok _ => none
    | .error error => some (.error error)
  | .pull number =>
    match s.runs[number]? with
    | some run => (driver.next runner run s.world).1
    | none => none

/-- The moves of a session, written down as they are made. -/
def log (driver : Driver) (runner : Runner σ) (s : Session σ) : List Move → List (Entry σ)
  | [] => []
  | m :: moves =>
    ⟨m, driver.given runner s m, s.world, (driver.move runner s m).world⟩ ::
      log driver runner (driver.move runner s m) moves

/-! ## The calls of a case -/

theorem calls_around (stages : List Call) (stale : List Removal) :
    Event.calls (Event.around stages stale) = stages := by
  have hnone : Event.calls (stale.map Event.removal) = [] := by
    induction stale with
    | nil => rfl
    | cons removal stale ih => rw [List.map_cons, Event.calls_cons_removal, ih]
  unfold Event.around
  rw [Event.calls_append, Event.calls_append, hnone, List.append_nil, Event.calls_map_call,
    Event.calls_map_call, List.take_append_drop]

/-- The calls are those of a case: the build may be called first, and then the stages in their
order, as far as the case comes. -/
def CallsOf (driver : Driver) (case : TestCase) (calls : List Call) : Prop :=
  ∃ build stages, calls = build ++ stages ∧
    build.map Call.order <+: [(.build, driver.gate.command)] ∧
    stages.map Call.order <+:
      Pipeline.orders driver.tools case [.reference, .compile, .link, .execute]

theorem Through.callsOf {driver : Driver} {runner : Runner σ} {case : TestCase} {w : World σ}
    {ending : Except Error Verdict × World σ} {build stages : List Call} {stale : List Removal}
    (h : Through driver runner case w ending build stages stale) :
    ∃ calls, ending.2.journal = w.journal ++ calls ∧ driver.CallsOf case calls := by
  refine ⟨build ++ stages, ?_, build, stages, rfl, h.build_asked, h.asked⟩
  rw [h.unfolds.journal, Event.calls_append, Event.calls_map_call, calls_around]

theorem Handled.callsOf {driver : Driver} {runner : Runner σ} {case : TestCase} {w : World σ}
    {ending : Except Error Outcome × World σ} (h : Handled driver runner case w ending) :
    ∃ calls, ending.2.journal = w.journal ++ calls ∧ driver.CallsOf case calls := by
  cases h with
  | refused hg =>
    obtain ⟨build, hunfolds, hasked⟩ := (driver.gate.ensureBuilt_visited runner w).unfolds
    rw [hg] at hunfolds
    refine ⟨build, ?_, build, [], (List.append_nil _).symm, hasked, List.nil_prefix⟩
    rw [hunfolds.journal, Event.calls_map_call]
  | stopped hg hx =>
    obtain ⟨_, _, _, h⟩ := exists_through hg hx
    exact h.callsOf
  | failed hg hx _ =>
    obtain ⟨_, _, _, h⟩ := exists_through hg hx
    exact h.callsOf
  | stuck hg hx _ hd =>
    obtain ⟨_, _, _, h⟩ := exists_through hg hx
    rw [(World.removed_of_discard hd).journal]
    exact h.callsOf
  | passed hg hx _ hd =>
    obtain ⟨_, _, _, h⟩ := exists_through hg hx
    rw [(World.removed_of_discard hd).journal]
    exact h.callsOf

/-- An outcome bears the name of its case. -/
theorem Handled.name_eq {driver : Driver} {runner : Runner σ} {case : TestCase} {w : World σ}
    {ending : Except Error Outcome × World σ} (h : Handled driver runner case w ending)
    {outcome : Outcome} (ho : ending.1 = .ok outcome) : outcome.name = case.name := by
  cases h with
  | refused _ => cases ho
  | stopped _ _ => cases ho
  | stuck _ _ _ _ => cases ho
  | failed _ _ _ => cases ho; rfl
  | passed _ _ _ _ => cases ho; rfl

theorem next_journal (driver : Driver) (runner : Runner σ) (run : Run) (w : World σ) :
    ∃ calls, (driver.next runner run w).2.2.journal = w.journal ++ calls := by
  have hpulled := driver.next_pulled runner run w
  generalize driver.next runner run w = ending at hpulled ⊢
  cases hpulled with
  | ended _ => exact ⟨[], (List.append_nil _).symm⟩
  | @took case _ _ _ _ _ hc =>
    have hh := driver.runCase_handled runner case w
    rw [hc] at hh
    obtain ⟨calls, hcalls, -⟩ := hh.callsOf
    exact ⟨calls, hcalls⟩

theorem move_journal (driver : Driver) (runner : Runner σ) (s : Session σ) (m : Move) :
    ∃ calls, (driver.move runner s m).world.journal = s.world.journal ++ calls := by
  rcases driver.move_world runner s m with hw | ⟨run, -, hw⟩
  · exact ⟨[], by rw [hw, List.append_nil]⟩
  · rw [hw]
    exact driver.next_journal runner run s.world

/-- Every call of a session was made by one of its moves. -/
theorem journal_play (driver : Driver) (runner : Runner σ) (s : Session σ) (moves : List Move) :
    (driver.play runner s moves).world.journal =
      s.world.journal ++ (driver.log runner s moves).flatMap Entry.calls := by
  induction moves generalizing s with
  | nil => simp [play, log]
  | cons m moves ih =>
    obtain ⟨calls, hcalls⟩ := driver.move_journal runner s m
    have hrest : (driver.play runner s (m :: moves)).world.journal =
        (driver.move runner s m).world.journal ++
          (driver.log runner (driver.move runner s m) moves).flatMap Entry.calls := ih _
    rw [hrest, log, List.flatMap_cons, ← List.append_assoc]
    simp only [Entry.calls, hcalls, List.drop_left]

/-! ## The pulls of one run -/

/-- Entries that are the pulls of one run, from the state that it is in. The worlds in which they are
made need not have to do with each other. -/
inductive Pulls (driver : Driver) (runner : Runner σ) : Run → List (Entry σ) → Prop
  | none (run : Run) : Pulls driver runner run []
  | more {run run' : Run} {entry : Entry σ} {entries : List (Entry σ)}
      (hnext : driver.next runner run entry.before = (entry.given, run', entry.after))
      (h : Pulls driver runner run' entries) : Pulls driver runner run (entry :: entries)

/-- Nothing but a pull of its own changes the state of a run. -/
theorem runs_move {driver : Driver} {runner : Runner σ} {s : Session σ} {number : Nat} {run : Run}
    (hrun : s.runs[number]? = some run) {m : Move} (hm : m ≠ .pull number) :
    (driver.move runner s m).runs[number]? = some run := by
  obtain ⟨hlt, _⟩ := List.getElem?_eq_some_iff.mp hrun
  cases m with
  | start names =>
    simp only [move]
    split
    · rw [List.getElem?_append_left hlt]
      exact hrun
    · exact hrun
  | pull other =>
    have hne : other ≠ number := fun heq => hm (congrArg Move.pull heq)
    simp only [move]
    split
    · rw [List.getElem?_set_ne hne]
      exact hrun
    · exact hrun

theorem pulls_log (driver : Driver) (runner : Runner σ) {s : Session σ} {number : Nat} {run : Run}
    (hrun : s.runs[number]? = some run) (moves : List Move) :
    Pulls driver runner run (Entry.pullsOf number (driver.log runner s moves)) := by
  induction moves generalizing s run with
  | nil => exact .none run
  | cons m moves ih =>
    by_cases hm : m = .pull number
    · subst hm
      have hset : (driver.move runner s (.pull number)).runs[number]? =
          some (driver.next runner run s.world).2.1 := by
        obtain ⟨hlt, heq⟩ := List.getElem?_eq_some_iff.mp hrun
        simp [move, hlt, heq]
      rw [log, Entry.pullsOf, List.filter_cons_of_pos (by simp)]
      refine .more ?_ (ih hset)
      simp [given, move, hrun]
    · rw [log, Entry.pullsOf, List.filter_cons_of_neg (by simpa using hm)]
      exact ih (runs_move hrun hm)

/-- The items that pulls of a run over the given names have given. -/
structure Followed (driver : Driver) (runner : Runner σ) (names : List String)
    (pulls : List (Entry σ)) (items : List (Except Error Outcome)) : Prop where
  /-- Items first, and nothing from then on. -/
  given : pulls.map Entry.given =
    items.map some ++ List.replicate (pulls.length - items.length) none
  bounded : items.length ≤ names.length
  last : ∀ i item, items[i]? = some item → driver.endsRun item = true → i + 1 = items.length
  complete : (∀ item ∈ items, driver.endsRun item = false) →
    items.length = min pulls.length names.length
  handled : ∀ (i : Nat) (entry : Entry σ) item, pulls[i]? = some entry → items[i]? = some item →
    ∃ name, names[i]? = some name ∧
      driver.runCase runner (driver.layout.testCase name) entry.before = (item, entry.after)
  idle : ∀ (i : Nat) (entry : Entry σ), pulls[i]? = some entry → items.length ≤ i →
    entry.after = entry.before

namespace Followed

variable {driver : Driver} {runner : Runner σ} {names : List String} {pulls : List (Entry σ)}
  {items : List (Except Error Outcome)} {entry : Entry σ}

theorem none : Followed driver runner names [] [] where
  given := rfl
  bounded := Nat.zero_le _
  last := by simp
  complete := by simp
  handled := by simp
  idle := by simp

/-- A pull that finds the run over. -/
theorem ended (h : Followed driver runner [] pulls items) (hgiven : entry.given = .none)
    (hafter : entry.after = entry.before) : Followed driver runner [] (entry :: pulls) items := by
  obtain rfl : items = [] := List.length_eq_zero_iff.mp (Nat.le_zero.mp h.bounded)
  refine ⟨?_, h.bounded, h.last, by simp, by simp, ?_⟩
  · have hrest := h.given
    simp only [List.map_nil, List.nil_append, List.length_nil, Nat.sub_zero] at hrest
    simp [hgiven, hrest, List.replicate_succ]
  · intro i other hi _
    cases i with
    | zero =>
      cases hi
      exact hafter
    | succ i => exact h.idle i other hi (Nat.zero_le _)

/-- A pull that takes the next case. -/
theorem took {name : String} {item : Except Error Outcome}
    (h : Followed driver runner (if driver.endsRun item then [] else names) pulls items)
    (hgiven : entry.given = some item)
    (hcase : driver.runCase runner (driver.layout.testCase name) entry.before =
      (item, entry.after)) :
    Followed driver runner (name :: names) (entry :: pulls) (item :: items) := by
  have hends : driver.endsRun item = true → items = [] := by
    intro he
    have hbounded := h.bounded
    rw [if_pos he] at hbounded
    exact List.length_eq_zero_iff.mp (Nat.le_zero.mp hbounded)
  have hrest : (if driver.endsRun item then [] else names).length ≤ names.length := by
    split <;> simp
  refine ⟨?_, ?_, ?_, ?_, ?_, ?_⟩
  · simp [hgiven, h.given]
  · have hbounded := h.bounded
    simp only [List.length_cons]
    omega
  · intro i other hi he
    cases i with
    | zero =>
      cases hi
      rw [hends he, List.length_singleton]
    | succ i =>
      have hlast := h.last i other hi he
      rw [List.length_cons]
      omega
  · intro hnone
    have hgo : driver.endsRun item = false := hnone item List.mem_cons_self
    have hcomplete := h.complete fun other hmem => hnone other (List.mem_cons_of_mem _ hmem)
    rw [hgo, if_neg Bool.false_ne_true] at hcomplete
    simp only [List.length_cons]
    omega
  · intro i other result hi hresult
    cases i with
    | zero =>
      cases hi
      cases hresult
      exact ⟨name, rfl, hcase⟩
    | succ i =>
      obtain ⟨later, hlater, hrun⟩ := h.handled i other result hi hresult
      refine ⟨later, ?_, hrun⟩
      split at hlater
      · cases hlater
      · exact hlater
  · intro i other hi hlen
    cases i with
    | zero => cases hlen
    | succ i => exact h.idle i other hi (Nat.le_of_succ_le_succ hlen)

end Followed

theorem Pulls.followed {driver : Driver} {runner : Runner σ} {run : Run} {pulls : List (Entry σ)}
    (h : Pulls driver runner run pulls) {names : List String}
    (hnames : run.pending = names.map driver.layout.testCase) :
    ∃ items, Followed driver runner (if run.finished then [] else names) pulls items := by
  induction h generalizing names with
  | none run => exact ⟨[], .none⟩
  | @more run run' entry entries hnext _ ih =>
    have hpulled := driver.next_pulled runner run entry.before
    rw [hnext] at hpulled
    generalize hg : entry.given = given, ha : entry.after = after at hpulled
    cases hpulled with
    | ended hover =>
      obtain ⟨items, hitems⟩ := ih hnames
      have hnil : (if run.finished then [] else names) = [] := by
        rcases hover with hf | hp
        · rw [if_pos hf]
        · rw [hp] at hnames
          split
          · rfl
          · exact (List.map_eq_nil_iff.mp hnames.symm)
      rw [hnil] at hitems ⊢
      exact ⟨items, hitems.ended hg ha⟩
    | @took case rest item w' hf hp hc =>
      rw [hp] at hnames
      obtain ⟨name, later, rfl, rfl, rfl⟩ := List.map_eq_cons_iff.mp hnames.symm
      obtain ⟨items, hitems⟩ := ih rfl
      refine ⟨item :: items, ?_⟩
      rw [hf, if_neg Bool.false_ne_true]
      exact hitems.took hg (ha ▸ hc)

/-- The calls of a pull are those of the case that it took, if it took one. -/
theorem Followed.calls {driver : Driver} {runner : Runner σ} {names : List String}
    {pulls : List (Entry σ)} {items : List (Except Error Outcome)}
    (h : Followed driver runner names pulls items) {i : Nat} {entry : Entry σ}
    (hentry : pulls[i]? = some entry) :
    (i < items.length → ∃ name, names[i]? = some name ∧
      driver.CallsOf (driver.layout.testCase name) entry.calls) ∧
    (items.length ≤ i → entry.calls = []) := by
  constructor
  · intro hi
    obtain ⟨name, hname, hcase⟩ := h.handled i entry _ hentry (List.getElem?_eq_getElem hi)
    have hh := driver.runCase_handled runner (driver.layout.testCase name) entry.before
    rw [hcase] at hh
    obtain ⟨calls, hjournal, hcalls⟩ := hh.callsOf
    refine ⟨name, hname, ?_⟩
    rw [Entry.calls, hjournal, List.drop_left]
    exact hcalls
  · intro hi
    rw [Entry.calls, h.idle i entry hentry hi, List.drop_length]

theorem Followed.named {driver : Driver} {runner : Runner σ} {names : List String}
    {pulls : List (Entry σ)} {items : List (Except Error Outcome)}
    (h : Followed driver runner names pulls items) {i : Nat} {outcome : Outcome}
    (hitem : items[i]? = some (.ok outcome)) : names[i]? = some outcome.name := by
  have hlt : i < pulls.length := by
    have hlength := congrArg List.length h.given
    have hi := (List.getElem?_eq_some_iff.mp hitem).1
    simp only [List.length_map, List.length_append, List.length_replicate] at hlength
    omega
  obtain ⟨name, hname, hcase⟩ := h.handled i _ _ (List.getElem?_eq_getElem hlt) hitem
  have hh := driver.runCase_handled runner (driver.layout.testCase name) pulls[i].before
  rw [hcase] at hh
  rw [hname, hh.name_eq rfl]
  rfl

/-- A run that is started leaves the world as it is. Whatever moves are made from then on, its own
pulls give one item for each name at the head of the list, in order and under that name, and nothing
from then on. An error is the last item, and if the driver stops at failures so is the first failure;
without either, the items go on to the end of the list. Of the calls of the session, those of the
first pulls are those of the cases that were taken, one case for each pull, and the other pulls leave
the world as it is. -/
theorem run_gives_items_in_order (driver : Driver) (runner : Runner σ) (s : Session σ)
    (names : List String) (run : Run) (hrun : driver.runAll names s.world.disk = .ok run)
    (moves : List Move) :
    driver.move runner s (.start names) = ⟨s.world, s.runs ++ [run]⟩ ∧
    ∃ (log pulls : List (Entry σ)) (items : List (Except Error Outcome)),
      log = driver.log runner ⟨s.world, s.runs ++ [run]⟩ moves ∧
      pulls = Entry.pullsOf s.runs.length log ∧
      Followed driver runner names pulls items ∧
      (∀ (i : Nat) outcome, items[i]? = some (.ok outcome) → names[i]? = some outcome.name) ∧
      (∀ (i : Nat) error, items[i]? = some (.error error) → i + 1 = items.length) ∧
      (driver.failFast = true → ∀ (i : Nat) outcome, items[i]? = some (.ok outcome) →
        outcome.verdict ≠ .pass → i + 1 = items.length) ∧
      (driver.play runner ⟨s.world, s.runs ++ [run]⟩ moves).world.journal =
        s.world.journal ++ log.flatMap Entry.calls ∧
      ∀ (i : Nat) entry, pulls[i]? = some entry →
        (i < items.length → ∃ name, names[i]? = some name ∧
          driver.CallsOf (driver.layout.testCase name) entry.calls) ∧
        (items.length ≤ i → entry.calls = []) := by
  obtain ⟨-, -, hnames⟩ := runAll_eq_ok_iff.mp hrun
  have hnumber : (s.runs ++ [run])[s.runs.length]? = some run := List.getElem?_concat_length
  have hpending : run.pending = names.map driver.layout.testCase := by rw [hnames]
  refine ⟨by simp [move, hrun], ?_⟩
  obtain ⟨items, hitems⟩ := (pulls_log driver runner (s := ⟨s.world, s.runs ++ [run]⟩) hnumber
    moves).followed hpending
  rw [hnames, if_neg Bool.false_ne_true, ← hnames] at hitems
  refine ⟨_, _, items, rfl, rfl, hitems, ?_, ?_, ?_, journal_play driver runner _ moves, ?_⟩
  · exact fun i outcome => hitems.named
  · exact fun i error hitem => hitems.last i _ hitem rfl
  · intro hfast i outcome hitem hv
    have hfailed : outcome.verdict.isPass = false := by
      rw [← Bool.not_eq_true, Verdict.isPass_iff]
      exact hv
    exact hitems.last i _ hitem (by simp [endsRun, hfast, hfailed])
  · exact fun i entry => hitems.calls

/-! ## Two runs of a driver that stops at failures -/

/-- The build does well and the first program does not; then nothing can be started any more. -/
def hastyReplies : List Reply :=
  [{ answer := fun _ => .ok { state := .exited 0 } },
    { answer := fun _ => .ok { state := .exited 1 } }]

/-- A run has been started before, and it is pulled in between. -/
def hastySession : Session (List Reply) :=
  ⟨World.start hastyReplies Layout.sharedDisk .notBuilt, [⟨[Layout.testCase {} "d/a"], false⟩]⟩

def hastyRun : Run := ⟨["a", "d/a"].map (Layout.testCase {}), false⟩

def hastyPulls : List (Entry (List Reply)) :=
  Entry.pullsOf 1 ((makeDriver true).log .scripted
    ⟨hastySession.world, hastySession.runs ++ [hastyRun]⟩ [.pull 1, .pull 0, .pull 1, .pull 1])

/-- The first pull calls the build and the reference, and its failure is all that the run gives. -/
theorem hastyRun_stops_at_failure :
    (makeDriver true).runAll ["a", "d/a"] hastySession.world.disk = .ok hastyRun ∧
    (∃ items, (makeDriver true).Followed .scripted ["a", "d/a"] hastyPulls items ∧
      items.length = 1 ∧ ∀ outcome, items[0]? = some (.ok outcome) → outcome.name = "a") ∧
    hastyPulls.map (fun entry => entry.calls.map Call.purpose) =
      [[.build, .stage (Layout.testCase {} "a") .reference], [], []] := by
  have hrun : (makeDriver true).runAll ["a", "d/a"] hastySession.world.disk = .ok hastyRun := rfl
  obtain ⟨-, log, pulls, items, rfl, rfl, hfollowed, hnamed, -⟩ :=
    run_gives_items_in_order (makeDriver true) .scripted hastySession _ _ hrun
      [.pull 1, .pull 0, .pull 1, .pull 1]
  have hgiven : (hastyPulls.map Entry.given).map Option.isSome = [true, false, false] := rfl
  refine ⟨hrun, ⟨items, hfollowed, ?_, ?_⟩, rfl⟩
  · have hcount := congrArg (List.count true) (hfollowed.given ▸ hgiven)
    simpa [List.count_replicate, Function.comp_def] using hcount
  · intro outcome hitem
    exact (Option.some.inj (hnamed 0 outcome hitem)).symm

end Driver

end Crosscheck
