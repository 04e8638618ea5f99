import Crosscheck.Session

/-! # How a world changes

A world changes by calls of the runner, by removals, and by what happens to the latch of the gate.
`Called` and `Removed` say what one call and one removal leave as it was; `Evolves` is any number of
changes, and what holds of it holds of everything the harness does.
-/

namespace Crosscheck

variable {σ : Type}

namespace World

/-! ## One change -/

/-- What a call does to the records of a world. -/
structure Called (w : World σ) (purpose : Purpose) (invocation : Invocation)
    (answer : Except Error Output) (w' : World σ) : Prop where
  journal : w'.journal = w.journal ++ [⟨purpose, invocation, w.build, w.disk, answer, w'.disk⟩]
  latch : w'.latch = w.latch
  removals : w'.removals = w.removals

theorem called_of_call {runner : Runner σ} {w w' : World σ} {purpose : Purpose}
    {invocation : Invocation} {answer : Except Error Output}
    (h : w.call runner purpose invocation = (answer, w')) :
    Called w purpose invocation answer w' := by
  cases h
  exact ⟨rfl, rfl, rfl⟩

theorem Called.build {w w' : World σ} {purpose : Purpose} {invocation : Invocation}
    {answer : Except Error Output} (h : Called w purpose invocation answer w') :
    w'.build = w.build :=
  congrArg Latch.state h.latch

/-- What a removal does to a world. -/
structure Removed (w : World σ) (path : String) (result : Except Error Unit) (w' : World σ) :
    Prop where
  journal : w'.journal = w.journal
  latch : w'.latch = w.latch
  removals : w'.removals = w.removals ++ [⟨path, w.disk⟩]
  disk : w'.disk = Removal.after ⟨path, w.disk⟩
  outcome : Removal.outcome ⟨path, w.disk⟩ = result

theorem removed_of_discard {w w' : World σ} {path : String} {result : Except Error Unit}
    (h : w.discard path = (result, w')) : Removed w path result w' := by
  cases h
  exact ⟨rfl, rfl, rfl, rfl, rfl⟩

theorem Removed.build {w w' : World σ} {path : String} {result : Except Error Unit}
    (h : Removed w path result w') : w'.build = w.build :=
  congrArg Latch.state h.latch

/-! ## Any number of changes -/

/-- The second world comes about from the first by calls, by changes of the latch, and by removals
of paths that may be removed. -/
inductive Evolves (runner : Runner σ) (may : String → Prop) (w : World σ) : World σ → Prop
  | refl : Evolves runner may w w
  | call {w' w'' : World σ} {purpose : Purpose} {invocation : Invocation}
      {answer : Except Error Output} (h : Evolves runner may w w')
      (hc : w'.call runner purpose invocation = (answer, w'')) : Evolves runner may w w''
  | discard {w' w'' : World σ} {path : String} {result : Except Error Unit}
      (h : Evolves runner may w w') (hpath : may path) (hd : w'.discard path = (result, w'')) :
      Evolves runner may w w''
  | relatch {w' : World σ} (h : Evolves runner may w w') (latch : Latch) :
      Evolves runner may w { w' with latch := latch }

namespace Evolves

variable {runner : Runner σ} {may may' : String → Prop} {w w' w'' : World σ}

theorem trans (h : Evolves runner may w w') (h' : Evolves runner may w' w'') :
    Evolves runner may w w'' := by
  induction h' with
  | refl => exact h
  | call _ hc ih => exact ih.call hc
  | discard _ hpath hd ih => exact ih.discard hpath hd
  | relatch _ latch ih => exact ih.relatch latch

theorem mono (h : Evolves runner may w w') (hmay : ∀ path, may path → may' path) :
    Evolves runner may' w w' := by
  induction h with
  | refl => exact .refl
  | call _ hc ih => exact ih.call hc
  | discard _ hpath hd ih => exact ih.discard (hmay _ hpath) hd
  | relatch _ latch ih => exact ih.relatch latch

/-- No call is ever struck from the journal. -/
theorem journal_grows (h : Evolves runner may w w') : w.journal <+: w'.journal := by
  induction h with
  | refl => exact List.prefix_rfl
  | call _ hc ih =>
    rw [(called_of_call hc).journal]
    exact ih.trans (List.prefix_append _ _)
  | discard _ _ hd ih =>
    rw [(removed_of_discard hd).journal]
    exact ih
  | relatch _ _ ih => exact ih

end Evolves

end World

end Crosscheck
