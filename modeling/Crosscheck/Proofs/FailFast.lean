import Crosscheck.Reaction
import Crosscheck.Proofs.Sources
import Crosscheck.Proofs.Tally

/-! # Stopping at failures

A driver that stops at failures and one that keeps going take the same cases in the same way. So the
first gives the items of the second up to its first failure or error, in the same worlds, and as that
item is among those of both, the exit status is the same.
-/

namespace Crosscheck

variable {σ α : Type}

/-! ## Lists that are cut -/

/-- The elements up to the first one with the property, and that one. -/
def upToFirst (p : α → Bool) : List α → List α
  | [] => []
  | a :: rest => if p a then [a] else a :: upToFirst p rest

theorem upToFirst_isPrefixOf (p : α → Bool) (l : List α) : upToFirst p l <+: l := by
  induction l with
  | nil => exact List.prefix_rfl
  | cons a rest ih =>
    unfold upToFirst
    split
    · exact ⟨rest, rfl⟩
    · exact List.cons_prefix_cons.mpr ⟨rfl, ih⟩

theorem upToFirst_eq_self {p : α → Bool} {l : List α} (h : ∀ a ∈ l, p a = false) :
    upToFirst p l = l := by
  induction l with
  | nil => rfl
  | cons a rest ih =>
    have hrest : upToFirst p rest = rest := ih fun b hb => h b (List.mem_cons_of_mem _ hb)
    rw [upToFirst, h a List.mem_cons_self, if_neg Bool.false_ne_true, hrest]

theorem any_upToFirst (p : α → Bool) (l : List α) : (upToFirst p l).any p = l.any p := by
  induction l with
  | nil => rfl
  | cons a rest ih =>
    unfold upToFirst
    split
    · next ha => simp [ha]
    · rw [List.any_cons, List.any_cons, ih]

/-! ## What a run does, pull by pull -/

/-- An item that is not a pass. -/
def falls : Except Error Outcome → Bool
  | .error _ => true
  | .ok outcome => !outcome.verdict.isPass

namespace Driver

variable (driver : Driver) (runner : Runner σ)

/-- What the next pull gives when so many have been made. -/
def pulled (count : Nat) (run : Run) (w : World σ) : Option (Except Error Outcome) :=
  let (run, w) := driver.pulls runner count run w
  (driver.next runner run w).1

/-- The world after cases that are taken one after another. -/
def after (cases : List TestCase) (w : World σ) : World σ :=
  cases.foldl (fun w case => (driver.runCase runner case w).2) w

theorem next_of_over {run : Run} (h : run.finished = true ∨ run.pending = []) (w : World σ) :
    driver.next runner run w = (none, run, w) := by
  unfold next
  rcases h with hf | hp
  · rw [if_pos hf]
  · rw [hp]
    split <;> rfl

theorem pulls_of_over {run : Run} (h : run.finished = true ∨ run.pending = []) (count : Nat)
    (w : World σ) : driver.pulls runner count run w = (run, w) := by
  induction count with
  | zero => rfl
  | succ count ih =>
    unfold pulls
    rw [next_of_over driver runner h w]
    exact ih

theorem pulls_cons (count : Nat) (case : TestCase) (rest : List TestCase) (w : World σ) :
    driver.pulls runner (count + 1) ⟨case :: rest, false⟩ w =
      driver.pulls runner count ⟨rest, driver.endsRun (driver.runCase runner case w).1⟩
        (driver.runCase runner case w).2 := rfl

/-- The items of a run are what its pulls give, and the pulls after them give nothing. -/
theorem pulled_eq (count : Nat) (cases : List TestCase) (w : World σ) :
    driver.pulled runner count ⟨cases, false⟩ w = (driver.drain runner cases w).1[count]? := by
  induction cases generalizing count w with
  | nil =>
    have hover : (⟨[], false⟩ : Run).finished = true ∨ (⟨[], false⟩ : Run).pending = [] := .inr rfl
    unfold pulled
    rw [pulls_of_over driver runner hover count w]
    simp only [next_of_over driver runner hover, drain, List.getElem?_nil]
  | cons case rest ih =>
    unfold drain
    cases count with
    | zero =>
      simp only
      split <;> rfl
    | succ count =>
      cases he : driver.endsRun (driver.runCase runner case w).1 with
      | true =>
        have hover : (⟨rest, true⟩ : Run).finished = true ∨ (⟨rest, true⟩ : Run).pending = [] :=
          .inl rfl
        unfold pulled
        rw [pulls_cons, he, pulls_of_over driver runner hover count _]
        simp [next_of_over driver runner hover, he]
      | false =>
        have hrest := ih count (driver.runCase runner case w).2
        unfold pulled at hrest ⊢
        rw [pulls_cons, he, hrest]
        simp [he]

/-- Each pull that gives an item takes one case, and the others do nothing. -/
theorem pulls_eq_after (count : Nat) (cases : List TestCase) (w : World σ) :
    (driver.pulls runner count ⟨cases, false⟩ w).2 =
      driver.after runner (cases.take (min count (driver.drain runner cases w).1.length)) w := by
  induction cases generalizing count w with
  | nil =>
    rw [pulls_of_over driver runner (.inr rfl) count w, List.take_nil]
    rfl
  | cons case rest ih =>
    cases count with
    | zero => simp [pulls, after]
    | succ count =>
      unfold drain
      rw [pulls_cons]
      cases he : driver.endsRun (driver.runCase runner case w).1 with
      | true =>
        rw [pulls_of_over driver runner (.inl rfl) count _]
        simp [he, after]
      | false =>
        rw [ih]
        simp [he, after, Nat.add_min_add_right]

/-! ## Two drivers -/

/-- The driver, set to stop at failures or to keep going. -/
def stopping (failFast : Bool) : Driver :=
  { driver with failFast := failFast }

@[simp] theorem failFast_stopping (failFast : Bool) :
    (driver.stopping failFast).failFast = failFast := rfl

/-- The driver that stops at failures gives the items of the other one up to the first failure. -/
theorem drain_stopping (cases : List TestCase) (w : World σ) :
    ((driver.stopping true).drain runner cases w).1 =
      upToFirst falls ((driver.stopping false).drain runner cases w).1 := by
  induction cases generalizing w with
  | nil => rfl
  | cons case rest ih =>
    rcases hcase : driver.runCase runner case w with ⟨item, w'⟩
    have hfast : (driver.stopping true).runCase runner case w = (item, w') := hcase
    have hslow : (driver.stopping false).runCase runner case w = (item, w') := hcase
    simp only [drain, hfast, hslow]
    cases item with
    | error error => rfl
    | ok outcome =>
      cases hv : outcome.verdict.isPass with
      | true => simp [endsRun, upToFirst, falls, hv, ih]
      | false => simp [endsRun, upToFirst, falls, hv]

end Driver

/-! ## The exit status -/

/-- Without an error, the items are the outcomes. -/
theorem eq_map_outcomesOf {items : List (Except Error Outcome)} (h : errorOf? items = none) :
    items = (outcomesOf items).map .ok := by
  induction items with
  | nil => rfl
  | cons item items ih =>
    unfold errorOf? at h
    cases item with
    | error error => cases h
    | ok outcome =>
      have hrest : errorOf? items = none := h
      have houtcomes : outcomesOf (.ok outcome :: items) = outcome :: outcomesOf items := rfl
      rw [houtcomes, List.map_cons, ← ih hrest]

/-- The status is zero exactly if every item is a pass. -/
theorem status_reactionTo (items : List (Except Error Outcome)) :
    (Display.ofReaction (reactionTo items)).status = if items.any falls then 1 else 0 := by
  unfold reactionTo Display.ofReaction
  cases herror : errorOf? items with
  | some error =>
    have hfalls : items.any falls = true := by
      obtain ⟨item, hmem, hitem⟩ := List.exists_of_findSome?_eq_some herror
      refine List.any_eq_true.mpr ⟨item, hmem, ?_⟩
      cases item with
      | error _ => rfl
      | ok _ => cases hitem
    simp [hfalls]
  | none =>
    have hfalls : ((outcomesOf items).map Outcome.verdict).any (fun verdict => !verdict.isPass) =
        items.any falls := by
      conv_rhs => rw [eq_map_outcomesOf herror]
      rw [List.any_map, List.any_map]
      rfl
    simp only [Tally.hasFailures_ofVerdicts, hfalls]
    cases items.any falls <;> rfl

theorem status_runNames_stopping (driver : Driver) (runner : Runner σ) (names : List String)
    (w : World σ) :
    (Display.ofReaction (runNames (driver.stopping true) runner names w).1).status =
      (Display.ofReaction (runNames (driver.stopping false) runner names w).1).status := by
  have hrun : (driver.stopping true).runAll names w.disk =
      (driver.stopping false).runAll names w.disk := rfl
  unfold runNames
  rw [hrun]
  split
  · rfl
  · split
    · rfl
    · simp only [status_reactionTo, driver.drain_stopping, any_upToFirst]

/-- A driver that stops at failures accepts the same names as one that keeps going. Its pulls give
the items of the other up to the first that is an error or not a pass, and nothing from then on; up to
there, the two are in the same worlds after the same pulls. When the names are run to the end, both
leave the same exit status. -/
theorem failFast_cuts_run (driver : Driver) (runner : Runner σ) (names : List String)
    (w : World σ) :
    (driver.stopping true).runAll names w.disk = (driver.stopping false).runAll names w.disk ∧
    (∀ run, (driver.stopping false).runAll names w.disk = .ok run →
      ∃ items : List (Except Error Outcome),
        (∀ count, (driver.stopping false).pulled runner count run w = items[count]?) ∧
        (∀ count, (driver.stopping true).pulled runner count run w =
          (upToFirst falls items)[count]?) ∧
        ∀ count, ((driver.stopping true).pulls runner count run w).2 =
          ((driver.stopping false).pulls runner (min count (upToFirst falls items).length) run w).2) ∧
    (Display.ofReaction (runNames (driver.stopping true) runner names w).1).status =
      (Display.ofReaction (runNames (driver.stopping false) runner names w).1).status := by
  refine ⟨rfl, ?_, status_runNames_stopping driver runner names w⟩
  intro run hrun
  obtain ⟨-, -, rfl⟩ := Driver.runAll_eq_ok_iff.mp hrun
  generalize names.map (driver.stopping false).layout.testCase = cases
  refine ⟨((driver.stopping false).drain runner cases w).1, ?_, ?_, ?_⟩
  · exact fun count => (driver.stopping false).pulled_eq runner count cases w
  · intro count
    rw [← driver.drain_stopping]
    exact (driver.stopping true).pulled_eq runner count cases w
  · intro count
    have hle := (upToFirst_isPrefixOf falls ((driver.stopping false).drain runner cases w).1).length_le
    rw [Driver.pulls_eq_after, Driver.pulls_eq_after, driver.drain_stopping, Nat.min_assoc,
      Nat.min_eq_left hle]
    rfl

end Crosscheck
