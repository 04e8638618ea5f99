import Crosscheck.Settings.Reader
import Mathlib.Data.List.Pairwise
import Mathlib.Data.List.Forall2

/-! # What a mapping says about a record

A record is read entry by entry into a draft, starting from its defaults. Here is what that comes to
without an order: every key names a field, no two keys name the same one, and each field has the value
that its key is given, or its default where no key names it.
-/

namespace Crosscheck.Settings

open Crosscheck.Yaml

/-! ## Values -/

section Values

variable {document : Document} {node : Tree}

/-- The node is a scalar with this text. -/
def IsText (document : Document) (node : Tree) (text : String) : Prop :=
  ∃ mark tag style, document.follow node = .scalar mark tag style text

/-- The node is nothing at all. -/
def IsVoid (document : Document) (node : Tree) : Prop :=
  ∃ mark tag, document.follow node = .scalar mark tag .plain ""

/-- The node is a scalar that counts as a number, and its text is this number. -/
def IsWord (document : Document) (node : Tree) (n : Nat) : Prop :=
  ∃ mark tag style text, document.follow node = .scalar mark tag style text ∧
    (style = .plain ∨ style = .literal ∧ tag = some "tag:yaml.org,2002:int") ∧
    Number.unsigned? UInt64.size text.toList = some n

/-- The node is a sequence of scalars with these texts, or nothing at all. -/
def IsTexts (document : Document) (node : Tree) (texts : List String) : Prop :=
  (∃ mark nodes, document.follow node = .sequence mark nodes ∧
    List.Forall₂ (IsText document) nodes texts) ∨
  IsVoid document node ∧ texts = []

theorem IsText.unique {a b : String} (ha : IsText document node a) (hb : IsText document node b) :
    a = b := by
  obtain ⟨_, _, _, ha⟩ := ha
  obtain ⟨_, _, _, hb⟩ := hb
  rw [ha] at hb
  injection hb

namespace Decode

theorem refuse_ne_ok {α : Type} {wanted path : String} {value : α} :
    refuse wanted document path node ≠ .ok value := by
  unfold refuse
  cases node <;> simp

theorem isVoid_follow : isVoid (document.follow node) = true ↔ IsVoid document node := by
  unfold IsVoid
  cases document.follow node with
  | scalar mark tag style text => cases style <;> simp [isVoid]
  | _ => simp [isVoid]

theorem text_eq_ok_iff {wanted path text : String} :
    Decode.text wanted document path node = .ok text ↔ IsText document node text := by
  unfold Decode.text IsText
  cases document.follow node with
  | scalar mark tag style found => simp
  | _ => simp [refuse_ne_ok]

theorem word_eq_ok_iff {wanted path : String} {n : Nat} :
    word wanted document path node = .ok n ↔ IsWord document node n := by
  unfold word IsWord
  cases document.follow node with
  | scalar mark tag style found =>
    by_cases hr : style = .plain ∨ style = .literal ∧ tag = some "tag:yaml.org,2002:int"
    · cases hn : Number.unsigned? UInt64.size found.toList with
      | none => simp [hr, hn, refuse_ne_ok]
      | some m => simp [hr, hn]
    · simp [hr, refuse_ne_ok]
  | _ => simp [refuse_ne_ok]

theorem items_eq_ok_iff {wanted path : String} {index : Nat} {before texts : List String}
    {nodes : List Tree} :
    items (Decode.text wanted) document path index before nodes = .ok texts ↔
      ∃ found, List.Forall₂ (IsText document) nodes found ∧ texts = before.reverse ++ found := by
  induction nodes generalizing index before with
  | nil => simp [items, eq_comm]
  | cons node rest ih =>
    unfold items
    cases hd : Decode.text wanted document (path ++ "[" ++ toString index ++ "]") node with
    | error error =>
      have hnone : ∀ text, ¬ IsText document node text := by
        intro text ht
        rw [text_eq_ok_iff.mpr ht] at hd
        cases hd
      simp [List.forall₂_cons_left_iff, hnone]
    | ok text =>
      have ht : IsText document node text := text_eq_ok_iff.mp hd
      rw [ih]
      constructor
      · rintro ⟨found, hfound, rfl⟩
        exact ⟨text :: found, .cons ht hfound, by simp⟩
      · rintro ⟨found, hfound, rfl⟩
        obtain ⟨first, others, hfirst, hothers, rfl⟩ := List.forall₂_cons_left_iff.mp hfound
        obtain rfl := ht.unique hfirst
        exact ⟨others, hothers, by simp⟩

theorem sequenceOf_eq_ok_iff {path : String} {texts : List String} :
    sequenceOf string document path node = .ok texts ↔ IsTexts document node texts := by
  unfold sequenceOf IsTexts
  rw [← isVoid_follow]
  cases document.follow node with
  | sequence mark nodes =>
    simp [string, items_eq_ok_iff, isVoid]
  | scalar mark tag style text =>
    by_cases hv : isVoid (.scalar mark tag style text) = true
    · simp [hv, eq_comm]
    · simp [hv, refuse_ne_ok]
  | _ => simp [isVoid, refuse_ne_ok]

end Decode

end Values

/-! ## Entries -/

section Entries

variable {β : Type} {document : Document} {key value : Tree} {pairs rest : List (Tree × Tree)}
  {name : String} {Is : Tree → β → Prop} {default final : β}

/-- The node is a mapping with these entries, or nothing at all and there are none. -/
def HasEntries (document : Document) (node : Tree) (pairs : List (Tree × Tree)) : Prop :=
  (∃ mark, document.follow node = .mapping mark pairs) ∨ IsVoid document node ∧ pairs = []

/-- No key is this name. -/
def Lacks (document : Document) (pairs : List (Tree × Tree)) (name : String) : Prop :=
  ∀ entry ∈ pairs, ¬ IsText document entry.1 name

/-- The keys are among the names, and no two of them are the same. -/
structure WellKeyed (document : Document) (names : List String) (pairs : List (Tree × Tree)) :
    Prop where
  known : ∀ entry ∈ pairs, ∃ name ∈ names, IsText document entry.1 name
  distinct : pairs.Pairwise fun a b =>
    ∀ name, IsText document a.1 name → ¬ IsText document b.1 name

/-- The value that the entries give under a name, or the default if they do not have this name. -/
def Layered (document : Document) (pairs : List (Tree × Tree)) (name : String)
    (Is : Tree → β → Prop) (default final : β) : Prop :=
  (∃ entry ∈ pairs, IsText document entry.1 name ∧ Is entry.2 final) ∨
  Lacks document pairs name ∧ final = default

theorem wellKeyed_cons {names : List String} :
    WellKeyed document names ((key, value) :: rest) ↔
      (∃ name ∈ names, IsText document key name ∧ Lacks document rest name) ∧
        WellKeyed document names rest := by
  constructor
  · rintro ⟨hknown, hdistinct⟩
    obtain ⟨name, hname, hkey⟩ := hknown _ List.mem_cons_self
    obtain ⟨hfirst, hrest⟩ := List.pairwise_cons.mp hdistinct
    exact ⟨⟨name, hname, hkey, fun entry hentry => hfirst entry hentry name hkey⟩,
      fun entry hentry => hknown entry (List.mem_cons_of_mem _ hentry), hrest⟩
  · rintro ⟨⟨name, hname, hkey, hlacks⟩, hknown, hdistinct⟩
    refine ⟨List.forall_mem_cons.mpr ⟨⟨name, hname, hkey⟩, hknown⟩,
      List.pairwise_cons.mpr ⟨fun entry hentry other hother => ?_, hdistinct⟩⟩
    exact hother.unique hkey ▸ hlacks entry hentry

/-- Well chosen keys that moreover are not among the names given before. -/
def Admissible (document : Document) (names given : List String) (pairs : List (Tree × Tree)) :
    Prop :=
  WellKeyed document names pairs ∧ ∀ name ∈ given, Lacks document pairs name

theorem admissible_nil {names given : List String} : Admissible document names given [] :=
  ⟨⟨List.forall_mem_nil _, .nil⟩, fun _ _ => List.forall_mem_nil _⟩

theorem admissible_cons {names given : List String} :
    Admissible document names given ((key, value) :: rest) ↔
      ∃ name ∈ names, IsText document key name ∧ name ∉ given ∧
        Admissible document names (name :: given) rest := by
  unfold Admissible
  rw [wellKeyed_cons]
  constructor
  · rintro ⟨⟨⟨name, hname, hkey, hlacks⟩, hrest⟩, hgiven⟩
    refine ⟨name, hname, hkey, fun hmem => hgiven name hmem _ List.mem_cons_self hkey, hrest,
      List.forall_mem_cons.mpr ⟨hlacks, fun other hother entry hentry => ?_⟩⟩
    exact hgiven other hother entry (List.mem_cons_of_mem _ hentry)
  · rintro ⟨name, hname, hkey, hnew, hrest, hgiven⟩
    obtain ⟨hlacks, hothers⟩ := List.forall_mem_cons.mp hgiven
    refine ⟨⟨⟨name, hname, hkey, hlacks⟩, hrest⟩, fun other hother =>
      List.forall_mem_cons.mpr ⟨fun h => ?_, hothers other hother⟩⟩
    exact hnew (h.unique hkey ▸ hother)

theorem layered_of_lacks (h : Lacks document pairs name) :
    Layered document pairs name Is default final ↔ final = default := by
  constructor
  · rintro (⟨entry, hentry, hkey, -⟩ | ⟨-, heq⟩)
    · exact absurd hkey (h entry hentry)
    · exact heq
  · exact fun heq => .inr ⟨h, heq⟩

/-- Where a key is required, there is no falling back on the default. -/
theorem layered_given_iff :
    ¬ Lacks document pairs name ∧ Layered document pairs name Is default final ↔
      ∃ entry ∈ pairs, IsText document entry.1 name ∧ Is entry.2 final := by
  constructor
  · rintro ⟨hgiven, hlayered | ⟨hlacks, -⟩⟩
    · exact hlayered
    · exact absurd hlacks hgiven
  · rintro ⟨entry, hentry, hkey, his⟩
    exact ⟨fun hlacks => hlacks entry hentry hkey, .inl ⟨entry, hentry, hkey, his⟩⟩

theorem layered_cons_self (hkey : IsText document key name) (h : Lacks document rest name) :
    Layered document ((key, value) :: rest) name Is default final ↔ Is value final := by
  constructor
  · rintro (⟨entry, hentry, hname, his⟩ | ⟨hlacks, -⟩)
    · rcases List.mem_cons.mp hentry with rfl | hrest
      · exact his
      · exact absurd hname (h entry hrest)
    · exact absurd hkey (hlacks _ List.mem_cons_self)
  · exact fun his => .inl ⟨_, List.mem_cons_self, hkey, his⟩

theorem layered_cons_of_ne {other : String} (hkey : IsText document key other)
    (hne : other ≠ name) :
    Layered document ((key, value) :: rest) name Is default final ↔
      Layered document rest name Is default final := by
  have hnot : ¬ IsText document key name := fun h => hne (hkey.unique h)
  simp [Layered, Lacks, hnot]

end Entries

/-! ## Records -/

/-- A field of a record with what its value has to be, where the value is kept, and how it is put
there. -/
structure Slot (α : Type) where
  β : Type
  name : String
  decoder : Decode.Decoder β
  Is : Document → Tree → β → Prop
  get : α → β
  put : β → α → α
  decoder_eq_ok_iff : ∀ {document path node b},
    decoder document path node = .ok b ↔ Is document node b
  get_put : ∀ b a, get (put b a) = b

/-- The two fields have nothing to do with each other. -/
def Slot.Apart {α : Type} (s t : Slot α) : Prop :=
  s.name ≠ t.name ∧ (∀ b a, t.get (s.put b a) = t.get a) ∧ ∀ b a, s.get (t.put b a) = s.get a

instance {α : Type} : Std.Symm (@Slot.Apart α) :=
  ⟨fun _ _ ⟨hname, hleft, hright⟩ => ⟨hname.symm, hright, hleft⟩⟩

/-- The fields that make up a record. -/
structure Shape (α : Type) where
  slots : List (Slot α)
  apart : slots.Pairwise Slot.Apart
  ext : ∀ {a a'}, (∀ slot ∈ slots, slot.get a = slot.get a') → a = a'

namespace Shape

open Decode

variable {α : Type} (shape : Shape α) {document : Document} {path : String} {mark : Mark}
  {a a' : α} {given : List String} {key value : Tree} {pairs rest : List (Tree × Tree)}

def names : List String :=
  shape.slots.map Slot.name

def fields : List (Decode.Field α) :=
  shape.slots.map fun slot => field slot.name slot.decoder slot.put

variable {shape}

theorem apart_of_ne {s t : Slot α} (hs : s ∈ shape.slots) (ht : t ∈ shape.slots) (h : s ≠ t) :
    s.Apart t :=
  shape.apart.forall hs ht h

theorem eq_of_name_eq {s t : Slot α} (hs : s ∈ shape.slots) (ht : t ∈ shape.slots)
    (h : s.name = t.name) : s = t := by
  by_contra hne
  exact (apart_of_ne hs ht hne).1 h

theorem find?_fields {slot : Slot α} (hslot : slot ∈ shape.slots) :
    shape.fields.find? (·.name == slot.name) =
      some (field slot.name slot.decoder slot.put) := by
  cases hfind : shape.fields.find? (·.name == slot.name) with
  | none =>
    have hnone := List.find?_eq_none.mp hfind _ (List.mem_map_of_mem hslot)
    simp [field] at hnone
  | some found =>
    obtain ⟨other, hother, rfl⟩ := List.mem_map.mp (List.mem_of_find?_eq_some hfind)
    have hname : other.name = slot.name := by simpa [field] using List.find?_some hfind
    rw [eq_of_name_eq hother hslot hname]

theorem find?_fields_eq_none {name : String} (h : ∀ slot ∈ shape.slots, slot.name ≠ name) :
    shape.fields.find? (·.name == name) = none := by
  rw [List.find?_eq_none]
  intro found hfound
  obtain ⟨slot, hslot, rfl⟩ := List.mem_map.mp hfound
  simpa [field] using h slot hslot

/-- What it takes to read an entry. -/
theorem entries_cons_eq_ok_iff {draft : Draft α} :
    entries shape.fields document path mark ⟨a, given⟩ ((key, value) :: rest) = .ok draft ↔
      ∃ slot ∈ shape.slots, IsText document key slot.name ∧ slot.name ∉ given ∧
        ∃ b, slot.Is document value b ∧
          entries shape.fields document path mark ⟨slot.put b a, slot.name :: given⟩ rest =
            .ok draft := by
  unfold IsText
  rw [entries]
  cases document.follow key with
  | scalar keyMark tag style name =>
    by_cases hknown : ∃ slot ∈ shape.slots, slot.name = name
    · obtain ⟨slot, hslot, rfl⟩ := hknown
      simp only [find?_fields hslot]
      constructor
      · intro h
        by_cases hgiven : slot.name ∈ given
        · simp [hgiven] at h
        · cases hd : slot.decoder document (below path key) value with
          | error error => simp [hgiven, field, hd, Except.map, bind, Except.bind] at h
          | ok b =>
            simp only [hgiven, field, hd, Except.map, bind, Except.bind, if_false] at h
            exact ⟨slot, hslot, ⟨_, _, _, rfl⟩, hgiven, b, slot.decoder_eq_ok_iff.mp hd, h⟩
      · rintro ⟨other, hother, ⟨_, _, _, hkey⟩, hgiven, b, hb, h⟩
        injection hkey with _ _ _ hname
        obtain rfl := eq_of_name_eq hslot hother hname
        simp only [hgiven, field, slot.decoder_eq_ok_iff.mpr hb, Except.map, bind, Except.bind,
          if_false]
        exact h
    · have hnone : ∀ slot ∈ shape.slots, slot.name ≠ name := by simpa using hknown
      simp only [find?_fields_eq_none hnone]
      constructor
      · rintro ⟨⟩
      · rintro ⟨slot, hslot, ⟨_, _, _, hkey⟩, -⟩
        injection hkey with _ _ _ hname
        exact absurd hname.symm (hnone slot hslot)
  | _ => simp [refuse_ne_ok]

/-- The fields that a draft has been given. -/
theorem mem_given_of_entries {draft : Draft α} {name : String}
    (h : entries shape.fields document path mark ⟨a, given⟩ pairs = .ok draft) :
    name ∈ draft.given ↔ name ∈ given ∨ ¬ Lacks document pairs name := by
  induction pairs generalizing a given with
  | nil =>
    obtain rfl := Except.ok.inj h
    simp [Lacks]
  | cons entry rest ih =>
    obtain ⟨slot, -, hkey, -, b, -, hrest⟩ := entries_cons_eq_ok_iff.mp h
    rw [ih hrest]
    by_cases hname : name = slot.name
    · subst hname
      simp [Lacks, hkey]
    · have hnot : ¬ IsText document entry.1 name := fun hother => hname (hother.unique hkey)
      simp [Lacks, hname, hnot]

/-- When the entries can be read at all. -/
theorem exists_entries_eq_ok_iff :
    (∃ draft, entries shape.fields document path mark ⟨a, given⟩ pairs = .ok draft) ↔
      Admissible document shape.names given pairs ∧
        ∀ entry ∈ pairs, ∀ slot ∈ shape.slots, IsText document entry.1 slot.name →
          ∃ b, slot.Is document entry.2 b := by
  induction pairs generalizing a given with
  | nil => simp [entries, admissible_nil]
  | cons entry rest ih =>
    obtain ⟨key, value⟩ := entry
    rw [admissible_cons, List.forall_mem_cons]
    constructor
    · rintro ⟨draft, h⟩
      obtain ⟨slot, hslot, hkey, hnew, b, hb, hrest⟩ := entries_cons_eq_ok_iff.mp h
      obtain ⟨hadmissible, hvalues⟩ := ih.mp ⟨draft, hrest⟩
      refine ⟨⟨slot.name, List.mem_map_of_mem hslot, hkey, hnew, hadmissible⟩, ?_, hvalues⟩
      intro other hother hname
      obtain rfl := eq_of_name_eq hother hslot (hname.unique hkey)
      exact ⟨b, hb⟩
    · rintro ⟨⟨name, hname, hkey, hnew, hadmissible⟩, hvalue, hvalues⟩
      obtain ⟨slot, hslot, rfl⟩ := List.mem_map.mp hname
      obtain ⟨b, hb⟩ := hvalue slot hslot hkey
      obtain ⟨draft, hrest⟩ := ih.mpr ⟨hadmissible, hvalues⟩
      exact ⟨draft, entries_cons_eq_ok_iff.mpr ⟨slot, hslot, hkey, hnew, b, hb, hrest⟩⟩

/-- Putting the value of the first entry leaves the other fields to the other entries. -/
theorem layered_put_iff {slot other : Slot α} (hslot : slot ∈ shape.slots)
    (hother : other ∈ shape.slots) (hkey : IsText document key slot.name)
    (hlacks : Lacks document rest slot.name) (hvalue : slot.Is document value (slot.get a')) :
    Layered document rest other.name (other.Is document)
        (other.get (slot.put (slot.get a') a)) (other.get a') ↔
      Layered document ((key, value) :: rest) other.name (other.Is document) (other.get a)
        (other.get a') := by
  by_cases heq : slot = other
  · subst heq
    rw [layered_of_lacks hlacks, layered_cons_self hkey hlacks, slot.get_put]
    exact iff_of_true rfl hvalue
  · obtain ⟨hname, hput, -⟩ := apart_of_ne hslot hother heq
    rw [layered_cons_of_ne hkey hname, hput]

/-- What is read from the entries, on top of what was there. -/
theorem entries_eq_ok_iff :
    (∃ given', entries shape.fields document path mark ⟨a, given⟩ pairs = .ok ⟨a', given'⟩) ↔
      Admissible document shape.names given pairs ∧
        ∀ slot ∈ shape.slots,
          Layered document pairs slot.name (slot.Is document) (slot.get a) (slot.get a') := by
  induction pairs generalizing a given with
  | nil =>
    have hlayered : (∀ slot ∈ shape.slots, Layered document [] slot.name (slot.Is document)
        (slot.get a) (slot.get a')) ↔ a = a' := by
      simp only [layered_of_lacks (List.forall_mem_nil _)]
      exact ⟨fun h => (shape.ext h).symm, fun h _ _ => h ▸ rfl⟩
    simp [entries, admissible_nil, hlayered]
  | cons entry rest ih =>
    obtain ⟨key, value⟩ := entry
    rw [admissible_cons]
    constructor
    · rintro ⟨given', h⟩
      obtain ⟨slot, hslot, hkey, hnew, b, hb, hrest⟩ := entries_cons_eq_ok_iff.mp h
      obtain ⟨hadmissible, hlayers⟩ := ih.mp ⟨given', hrest⟩
      have hlacks : Lacks document rest slot.name := hadmissible.2 _ List.mem_cons_self
      -- no later entry is of this field, so the value that was put is the final one
      obtain rfl : slot.get a' = b := by
        rw [(layered_of_lacks hlacks).mp (hlayers slot hslot), slot.get_put]
      exact ⟨⟨slot.name, List.mem_map_of_mem hslot, hkey, hnew, hadmissible⟩, fun other hother =>
        (layered_put_iff hslot hother hkey hlacks hb).mp (hlayers other hother)⟩
    · rintro ⟨⟨name, hname, hkey, hnew, hadmissible⟩, hlayers⟩
      obtain ⟨slot, hslot, rfl⟩ := List.mem_map.mp hname
      have hlacks : Lacks document rest slot.name := hadmissible.2 _ List.mem_cons_self
      have hb := (layered_cons_self hkey hlacks).mp (hlayers slot hslot)
      obtain ⟨given', hrest⟩ := ih.mpr ⟨hadmissible, fun other hother =>
        (layered_put_iff hslot hother hkey hlacks hb).mpr (hlayers other hother)⟩
      exact ⟨given', entries_cons_eq_ok_iff.mpr ⟨slot, hslot, hkey, hnew, _, hb, hrest⟩⟩

/-! ## Mappings -/

variable {wanted : String} {required : List String} {node : Tree}

/-- A draft is complete if all names that are required are given. -/
theorem complete_eq_ok_iff {draft : Draft α} :
    (match required.find? (· ∉ draft.given) with
      | some name => .error (.misfit path ("missing field \x60" ++ name ++ "\x60") mark)
      | none => return draft.value : Except ReadError α) = .ok a' ↔
      (∀ name ∈ required, name ∈ draft.given) ∧ draft.value = a' := by
  have hgiven : (∀ name ∈ required, name ∈ draft.given) ↔
      required.find? (· ∉ draft.given) = none := by
    simp
  rw [hgiven]
  cases required.find? (· ∉ draft.given) <;> simp [pure, Except.pure]

/-- A node with entries is read from them. -/
theorem record_of_hasEntries (h : HasEntries document node pairs) :
    ∃ mark, ∀ a', record wanted shape.fields required a document path node = .ok a' ↔
      ∃ draft, entries shape.fields document path mark ⟨a, []⟩ pairs = .ok draft ∧
        (∀ name ∈ required, name ∈ draft.given) ∧ draft.value = a' := by
  obtain ⟨mark, hrecord⟩ : ∃ mark, record wanted shape.fields required a document path node = (do
      let draft ← entries shape.fields document path mark ⟨a, []⟩ pairs
      match required.find? (· ∉ draft.given) with
      | some name => .error (.misfit path ("missing field \x60" ++ name ++ "\x60") mark)
      | none => return draft.value) := by
    unfold record
    rcases h with ⟨mark, hnode⟩ | ⟨⟨mark, tag, hnode⟩, rfl⟩
    · exact ⟨mark, by rw [hnode]; rfl⟩
    · exact ⟨mark, by rw [hnode]; rfl⟩
  refine ⟨mark, fun a' => ?_⟩
  rw [hrecord]
  cases entries shape.fields document path mark ⟨a, []⟩ pairs with
  | error error => simp [bind, Except.bind]
  | ok draft => simpa [bind, Except.bind] using complete_eq_ok_iff

theorem hasEntries_of_record (h : record wanted shape.fields required a document path node = .ok a') :
    ∃ pairs, HasEntries document node pairs := by
  unfold record at h
  cases hnode : document.follow node with
  | mapping mark pairs => exact ⟨pairs, .inl ⟨mark, hnode⟩⟩
  | scalar mark tag style text =>
    by_cases hv : isVoid (document.follow node) = true
    · exact ⟨[], .inr ⟨isVoid_follow.mp hv, rfl⟩⟩
    · rw [hnode] at h hv
      simp [hv, refuse, bind, Except.bind] at h
  | _ =>
    rw [hnode] at h
    simp [refuse, bind, Except.bind] at h

/-- A record is read from a node exactly if the node has entries with well chosen keys, among them
the required ones, and every field of the record is what they give or the default. -/
theorem record_eq_ok_iff :
    record wanted shape.fields required a document path node = .ok a' ↔
      ∃ pairs, HasEntries document node pairs ∧ WellKeyed document shape.names pairs ∧
        (∀ name ∈ required, ¬ Lacks document pairs name) ∧
        ∀ slot ∈ shape.slots,
          Layered document pairs slot.name (slot.Is document) (slot.get a) (slot.get a') := by
  constructor
  · intro h
    obtain ⟨pairs, hpairs⟩ := hasEntries_of_record h
    obtain ⟨mark, hiff⟩ := record_of_hasEntries hpairs
    obtain ⟨draft, hentries, hrequired, rfl⟩ := (hiff a').mp h
    obtain ⟨⟨hkeys, -⟩, hlayers⟩ := entries_eq_ok_iff.mp ⟨draft.given, hentries⟩
    refine ⟨pairs, hpairs, hkeys, fun name hname => ?_, hlayers⟩
    simpa [mem_given_of_entries hentries] using hrequired name hname
  · rintro ⟨pairs, hpairs, hkeys, hrequired, hlayers⟩
    obtain ⟨mark, hiff⟩ := record_of_hasEntries hpairs
    obtain ⟨given, hentries⟩ := entries_eq_ok_iff.mpr
      ⟨(⟨hkeys, List.forall_mem_nil _⟩ : Admissible _ _ [] _), hlayers⟩
    refine (hiff a').mpr ⟨_, hentries, fun name hname => ?_, rfl⟩
    exact (mem_given_of_entries hentries).mpr (.inr (hrequired name hname))

/-- When a record can be read from a node with entries, where no name is required. -/
theorem exists_record_eq_ok_iff (h : HasEntries document node pairs) :
    (∃ a', record wanted shape.fields [] a document path node = .ok a') ↔
      WellKeyed document shape.names pairs ∧
        ∀ entry ∈ pairs, ∀ slot ∈ shape.slots, IsText document entry.1 slot.name →
          ∃ b, slot.Is document entry.2 b := by
  have hadmissible : Admissible document shape.names [] pairs ↔
      WellKeyed document shape.names pairs := by simp [Admissible]
  obtain ⟨mark, hiff⟩ := record_of_hasEntries h
  rw [← hadmissible, ← exists_entries_eq_ok_iff]
  constructor
  · rintro ⟨a', ha'⟩
    obtain ⟨draft, hentries, -⟩ := (hiff a').mp ha'
    exact ⟨draft, hentries⟩
  · rintro ⟨draft, hentries⟩
    exact ⟨draft.value, (hiff _).mpr ⟨draft, hentries, List.forall_mem_nil _, rfl⟩⟩

end Shape

end Crosscheck.Settings
