import Crosscheck.Proofs.Corpus
import Mathlib.Data.List.Nodup
import Mathlib.Order.Nat

/-! # The first name that is refused

Names are looked at one after another. As long as all of them are accepted, only the set of names
grows that must not come again, so what happens at an index depends on the names up to it. A list is
refused at the least index whose name occurred before it or has no source, for the reason given
there.
-/

namespace Crosscheck.Layout

variable {layout : Layout} {disk : Disk} {names : List String}

/-- No name occurs twice, and every one has a source. -/
structure Accepts (layout : Layout) (disk : Disk) (names : List String) : Prop where
  distinct : names.Nodup
  source : ∀ name ∈ names, disk.isFile (layout.testCase name).source = true

/-- The name at an index occurred before it, or its source is not a file. -/
def Offends (layout : Layout) (disk : Disk) (names : List String) (i : Nat) : Prop :=
  ∃ name, names[i]? = some name ∧
    (name ∈ names.take i ∨ disk.isFile (layout.testCase name).source = false)

/-- What is said of a name that is refused behind the given ones. -/
def refusal (layout : Layout) (before : List String) (name : String) : Error :=
  if name ∈ before then .duplicateName name
  else .unknownCase name (layout.testCase name).source

/-! ## Going on behind accepted names -/

theorem resolveFrom_append {before : List String} (h : layout.Accepts disk before)
    {seen : List String} (hseen : ∀ name ∈ before, name ∉ seen) (rest : List String) :
    layout.resolveFrom disk seen (before ++ rest) =
      match layout.resolveFrom disk (before.reverse ++ seen) rest with
      | .ok cases => .ok (before.map layout.testCase ++ cases)
      | .error error => .error error := by
  induction before generalizing seen with
  | nil =>
    simp only [List.nil_append, List.reverse_nil, List.map_nil]
    cases layout.resolveFrom disk seen rest with
    | ok cases => rfl
    | error error => rfl
  | cons name before ih =>
    obtain ⟨hnew, hdistinct⟩ := List.nodup_cons.mp h.distinct
    have hbefore : layout.Accepts disk before :=
      ⟨hdistinct, fun other hmem => h.source other (List.mem_cons_of_mem _ hmem)⟩
    have hlater : ∀ other ∈ before, other ∉ name :: seen := by
      intro other hmem
      rw [List.mem_cons, not_or]
      exact ⟨fun heq => hnew (heq ▸ hmem), hseen other (List.mem_cons_of_mem _ hmem)⟩
    have hname : name ∉ seen := hseen name List.mem_cons_self
    have hsource := h.source name List.mem_cons_self
    rw [List.cons_append, resolveFrom, if_neg hname, if_pos hsource, ih hbefore hlater,
      List.reverse_cons, List.append_assoc, List.singleton_append]
    cases layout.resolveFrom disk (before.reverse ++ name :: seen) rest with
    | ok cases => rfl
    | error error => rfl

theorem resolve_eq_refusal {before : List String} {name : String} (h : layout.Accepts disk before)
    (hname : name ∈ before ∨ disk.isFile (layout.testCase name).source = false)
    (rest : List String) :
    layout.resolve disk (before ++ name :: rest) = .error (layout.refusal before name) := by
  have hhere : layout.resolveFrom disk (before.reverse ++ []) (name :: rest) =
      .error (layout.refusal before name) := by
    unfold resolveFrom refusal
    by_cases hold : name ∈ before
    · simp [hold]
    · simp [hold, hname.resolve_left hold]
  unfold resolve
  rw [resolveFrom_append h (by simp), hhere]

/-! ## The least index -/

theorem accepts_concat_iff {before : List String} {name : String} :
    layout.Accepts disk (before ++ [name]) ↔
      layout.Accepts disk before ∧ name ∉ before ∧
        disk.isFile (layout.testCase name).source = true := by
  constructor
  · rintro ⟨hdistinct, hsource⟩
    obtain ⟨hbefore, -, hnew⟩ := List.nodup_append.mp hdistinct
    refine ⟨⟨hbefore, fun other hmem => hsource other (by simp [hmem])⟩, ?_, hsource name (by simp)⟩
    exact fun hmem => hnew name hmem name List.mem_cons_self rfl
  · rintro ⟨⟨hbefore, hsource⟩, hnew, hname⟩
    refine ⟨List.nodup_append.mpr ⟨hbefore, List.nodup_singleton name, ?_⟩, ?_⟩
    · rintro other hmem last hlast rfl
      exact hnew (List.mem_singleton.mp hlast ▸ hmem)
    · intro other hmem
      rcases List.mem_append.mp hmem with hmem | hmem
      · exact hsource other hmem
      · exact List.mem_singleton.mp hmem ▸ hname

/-- The names before an index are accepted exactly if no index before it offends. -/
theorem accepts_take_iff (layout : Layout) (disk : Disk) (names : List String) (n : Nat) :
    layout.Accepts disk (names.take n) ↔ ∀ i < n, ¬ layout.Offends disk names i := by
  induction n with
  | zero =>
    refine ⟨fun _ i hi => absurd hi (Nat.not_lt_zero i), fun _ => ⟨?_, ?_⟩⟩
    · exact List.nodup_nil
    · simp
  | succ n ih =>
    have hsplit : (∀ i < n + 1, ¬ layout.Offends disk names i) ↔
        (∀ i < n, ¬ layout.Offends disk names i) ∧ ¬ layout.Offends disk names n :=
      Nat.forall_lt_succ_right
    rw [hsplit, ← ih, List.take_add_one]
    cases hget : names[n]? with
    | none =>
      have hnone : ¬ layout.Offends disk names n := by
        rintro ⟨name, hname, -⟩
        rw [hget] at hname
        cases hname
      simp [hnone]
    | some name =>
      have hthis : layout.Offends disk names n ↔
          name ∈ names.take n ∨ disk.isFile (layout.testCase name).source = false := by
        simp [Offends, hget]
      rw [hthis, Option.toList_some, accepts_concat_iff, not_or, Bool.not_eq_false]

theorem accepts_iff : layout.Accepts disk names ↔ ∀ i, ¬ layout.Offends disk names i := by
  have htake := accepts_take_iff layout disk names names.length
  rw [List.take_length] at htake
  rw [htake]
  refine ⟨fun h i => ?_, fun h i _ => h i⟩
  by_cases hi : i < names.length
  · exact h i hi
  · rintro ⟨name, hname, -⟩
    rw [List.getElem?_eq_none (Nat.not_lt.mp hi)] at hname
    cases hname

theorem resolve_of_isLeast {i : Nat} (h : IsLeast {i | layout.Offends disk names i} i)
    (rest : List String) :
    ∃ name, names[i]? = some name ∧
      layout.resolve disk (names.take (i + 1) ++ rest) =
        .error (layout.refusal (names.take i) name) := by
  obtain ⟨name, hget, hname⟩ := h.1
  have hbefore : layout.Accepts disk (names.take i) := by
    rw [accepts_take_iff]
    intro j hj hoffends
    exact absurd (h.2 hoffends) (Nat.not_le.mpr hj)
  refine ⟨name, hget, ?_⟩
  rw [List.take_add_one, hget, Option.toList_some, List.append_assoc, List.singleton_append]
  exact resolve_eq_refusal hbefore hname rest

theorem resolve_of_accepts (h : layout.Accepts disk names) :
    layout.resolve disk names = .ok (names.map layout.testCase) :=
  resolve_eq_ok_iff.mpr ⟨h.distinct, h.source, rfl⟩

/-- A list of names is resolved exactly if it is accepted, and then to the case of each name. It is
refused exactly if some index offends, with the error of the least one, whatever follows there. -/
theorem resolve_blames_first_offender (layout : Layout) (disk : Disk) (names : List String) :
    (∀ cases, layout.resolve disk names = .ok cases ↔
      layout.Accepts disk names ∧ cases = names.map layout.testCase) ∧
    (∀ error, layout.resolve disk names = .error error ↔
      ∃ i name, IsLeast {i | layout.Offends disk names i} i ∧ names[i]? = some name ∧
        error = layout.refusal (names.take i) name) ∧
    (∀ i rest, IsLeast {i | layout.Offends disk names i} i →
      layout.resolve disk (names.take (i + 1) ++ rest) = layout.resolve disk names) := by
  have hleast : ∀ i, IsLeast {i | layout.Offends disk names i} i →
      ∃ name, names[i]? = some name ∧
        layout.resolve disk names = .error (layout.refusal (names.take i) name) := by
    intro i hi
    have hnames := resolve_of_isLeast hi (names.drop (i + 1))
    rwa [List.take_append_drop] at hnames
  refine ⟨?_, ?_, ?_⟩
  · intro cases
    rw [resolve_eq_ok_iff, ← and_assoc]
    exact and_congr_left fun _ => ⟨fun h => ⟨h.1, h.2⟩, fun h => ⟨h.distinct, h.source⟩⟩
  · intro error
    constructor
    · intro herror
      have hoffends : ∃ i, layout.Offends disk names i := by
        by_contra hnone
        rw [resolve_of_accepts (accepts_iff.mpr (not_exists.mp hnone))] at herror
        cases herror
      classical
      have hi := Nat.isLeast_find hoffends
      obtain ⟨name, hget, hnames⟩ := hleast _ hi
      rw [hnames] at herror
      exact ⟨_, name, hi, hget, (Except.error.inj herror).symm⟩
    · rintro ⟨i, name, hi, hget, rfl⟩
      obtain ⟨other, hother, hnames⟩ := hleast i hi
      rw [hget] at hother
      rw [hnames, Option.some.inj hother]
  · intro i rest hi
    obtain ⟨name, hget, hnames⟩ := hleast i hi
    obtain ⟨other, hother, hrest⟩ := resolve_of_isLeast hi rest
    rw [hget] at hother
    rw [hnames, hrest, Option.some.inj hother]

/-- A name that comes again is refused there, although another one behind it has no source; what
follows is not looked at. -/
theorem repeatedName_is_blamed :
    IsLeast {i | ({} : Layout).Offends sharedDisk ["a", "d/a", "a", "b"] i} 2 ∧
    ({} : Layout).resolve sharedDisk ["a", "d/a", "a", "b"] = .error (.duplicateName "a") ∧
    ({} : Layout).resolve sharedDisk ["a", "d/a", "a", "d/a", "c"] =
      .error (.duplicateName "a") := by
  have hbefore : ({} : Layout).Accepts sharedDisk ["a", "d/a"] := ⟨by decide, by decide⟩
  have hleast : IsLeast {i | ({} : Layout).Offends sharedDisk ["a", "d/a", "a", "b"] i} 2 := by
    refine ⟨⟨"a", rfl, .inl (by decide)⟩, fun i hi => ?_⟩
    by_contra hlt
    have hnone := (accepts_take_iff {} sharedDisk ["a", "d/a", "a", "b"] 2).mp hbefore
    exact hnone i (Nat.not_le.mp hlt) hi
  obtain ⟨-, herror, hrest⟩ := resolve_blames_first_offender {} sharedDisk ["a", "d/a", "a", "b"]
  have hfirst : ({} : Layout).resolve sharedDisk ["a", "d/a", "a", "b"] =
      .error (.duplicateName "a") :=
    (herror _).mpr ⟨2, "a", hleast, rfl, rfl⟩
  exact ⟨hleast, hfirst, (hrest 2 ["d/a", "c"] hleast).trans hfirst⟩

end Crosscheck.Layout
