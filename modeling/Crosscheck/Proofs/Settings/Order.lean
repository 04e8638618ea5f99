import Crosscheck.Proofs.Settings.Record
import Mathlib.Data.List.Perm.Basic

/-! # The order of entries

Two nodes of two documents are alike if they differ at most in the order of entries, in where they
stand in their texts, and in what is written out or stands behind an alias. An alias may refer to a
collection that it is part of, so likeness is stated up to a depth. What a node says of a value or of
a record is the same for nodes that are alike.
-/

namespace Crosscheck.Settings

open Crosscheck.Yaml

variable {document document' : Document} {R : Tree → Tree → Prop} {node node' : Tree}
  {pairs pairs' : List (Tree × Tree)}

/-- The entries are in relation after a change of their order. -/
def Shuffled (R : Tree → Tree → Prop) (pairs pairs' : List (Tree × Tree)) : Prop :=
  ∃ moved, List.Forall₂ (fun a b => R a.1 b.1 ∧ R a.2 b.2) pairs moved ∧ moved.Perm pairs'

/-- The nodes are of the same kind and their parts are in relation. -/
inductive Resembles (document document' : Document) (R : Tree → Tree → Prop) (node node' : Tree) :
    Prop
  | scalar {mark mark' : Mark} {tag : Option String} {style : Style} {text : String}
      (h : document.follow node = .scalar mark tag style text)
      (h' : document'.follow node' = .scalar mark' tag style text) :
      Resembles document document' R node node'
  | sequence {mark mark' : Mark} {nodes nodes' : List Tree}
      (h : document.follow node = .sequence mark nodes)
      (h' : document'.follow node' = .sequence mark' nodes')
      (hnodes : List.Forall₂ R nodes nodes') : Resembles document document' R node node'
  | mapping {mark mark' : Mark} {pairs pairs' : List (Tree × Tree)}
      (h : document.follow node = .mapping mark pairs)
      (h' : document'.follow node' = .mapping mark' pairs')
      (hpairs : Shuffled R pairs pairs') : Resembles document document' R node node'
  | broken (h : document.follow node = .broken) (h' : document'.follow node' = .broken) :
      Resembles document document' R node node'

/-- The nodes are alike up to a depth. -/
def Alike (document document' : Document) : Nat → Tree → Tree → Prop
  | 0 => fun _ _ => True
  | depth + 1 => Resembles document document' (Alike document document' depth)

theorem alike_scalar (depth : Nat) (mark mark' : Mark) (tag : Option String) (style : Style)
    (text : String) :
    Alike document document' depth (.scalar mark tag style text) (.scalar mark' tag style text) := by
  cases depth with
  | zero => trivial
  | succ depth => exact .scalar rfl rfl

theorem alike_mapping {mark mark' : Mark}
    (h : ∀ depth, Shuffled (Alike document document' depth) pairs pairs') (depth : Nat) :
    Alike document document' depth (.mapping mark pairs) (.mapping mark' pairs') := by
  cases depth with
  | zero => trivial
  | succ depth => exact .mapping rfl rfl (h depth)

/-! ## Symmetry -/

theorem Shuffled.symm {R' : Tree → Tree → Prop} (hR : ∀ a b, R a b → R' b a)
    (h : Shuffled R pairs pairs') : Shuffled R' pairs' pairs := by
  obtain ⟨moved, hmoved, hperm⟩ := h
  have hback : List.Forall₂ (fun a b => R' a.1 b.1 ∧ R' a.2 b.2) moved pairs :=
    hmoved.flip.imp fun _ _ h => ⟨hR _ _ h.1, hR _ _ h.2⟩
  exact List.perm_comp_forall₂ hperm.symm hback

theorem Resembles.symm {R' : Tree → Tree → Prop} (hR : ∀ a b, R a b → R' b a)
    (h : Resembles document document' R node node') :
    Resembles document' document R' node' node := by
  cases h with
  | scalar h h' => exact .scalar h' h
  | sequence h h' hnodes => exact .sequence h' h (hnodes.flip.imp fun _ _ h => hR _ _ h)
  | mapping h h' hpairs => exact .mapping h' h (hpairs.symm hR)
  | broken h h' => exact .broken h' h

theorem Alike.symm {depth : Nat} (h : Alike document document' depth node node') :
    Alike document' document depth node' node := by
  induction depth generalizing node node' with
  | zero => trivial
  | succ depth ih => exact Resembles.symm (fun _ _ => ih) h

/-! ## Values -/

theorem Resembles.isText (h : Resembles document document' R node node') {text : String}
    (ht : IsText document node text) : IsText document' node' text := by
  obtain ⟨mark, tag, style, ht⟩ := ht
  cases h with
  | scalar h h' =>
    obtain ⟨-, -, -, rfl⟩ := Tree.scalar.inj (h.symm.trans ht)
    exact ⟨_, _, _, h'⟩
  | _ => simp_all

theorem Resembles.isText_iff (h : Resembles document document' R node node') {text : String} :
    IsText document node text ↔ IsText document' node' text :=
  ⟨h.isText, (h.symm fun _ _ hab => (hab : flip R _ _)).isText⟩

theorem Resembles.isVoid (h : Resembles document document' R node node')
    (hv : IsVoid document node) : IsVoid document' node' := by
  obtain ⟨mark, tag, hv⟩ := hv
  cases h with
  | scalar h h' =>
    obtain ⟨-, -, rfl, rfl⟩ := Tree.scalar.inj (h.symm.trans hv)
    exact ⟨_, _, h'⟩
  | _ => simp_all

theorem Resembles.isWord (h : Resembles document document' R node node') {n : Nat}
    (hn : IsWord document node n) : IsWord document' node' n := by
  obtain ⟨mark, tag, style, text, hn, hnumber⟩ := hn
  cases h with
  | scalar h h' =>
    obtain ⟨-, rfl, rfl, rfl⟩ := Tree.scalar.inj (h.symm.trans hn)
    exact ⟨_, _, _, _, h', hnumber⟩
  | _ => simp_all

theorem forall₂_isText {nodes nodes' : List Tree} {texts : List String}
    (h : List.Forall₂ (Resembles document document' R) nodes nodes')
    (ht : List.Forall₂ (IsText document) nodes texts) :
    List.Forall₂ (IsText document') nodes' texts := by
  induction h generalizing texts with
  | nil => rwa [List.forall₂_nil_left_iff] at ht ⊢
  | cons hfirst _ ih =>
    obtain ⟨text, rest, htext, hrest, rfl⟩ := List.forall₂_cons_left_iff.mp ht
    exact .cons (hfirst.isText htext) (ih hrest)

theorem Alike.isTexts (depth : Nat) {texts : List String}
    (h : Alike document document' (depth + 2) node node') (ht : IsTexts document node texts) :
    IsTexts document' node' texts := by
  rcases ht with ⟨mark, nodes, ht, htexts⟩ | ⟨hv, rfl⟩
  · cases h with
    | sequence h h' hnodes =>
      obtain ⟨-, rfl⟩ := Tree.sequence.inj (h.symm.trans ht)
      exact .inl ⟨_, _, h', forall₂_isText hnodes htexts⟩
    | _ => simp_all
  · exact .inr ⟨Resembles.isVoid h hv, rfl⟩

/-! ## Records -/

theorem Resembles.hasEntries (h : Resembles document document' R node node')
    (hp : HasEntries document node pairs) :
    ∃ pairs', HasEntries document' node' pairs' ∧ Shuffled R pairs pairs' := by
  rcases hp with ⟨mark, hp⟩ | ⟨hv, rfl⟩
  · cases h with
    | mapping h h' hpairs =>
      obtain ⟨-, rfl⟩ := Tree.mapping.inj (h.symm.trans hp)
      exact ⟨_, .inl ⟨_, h'⟩, hpairs⟩
    | _ => simp_all
  · exact ⟨[], .inr ⟨h.isVoid hv, rfl⟩, [], .nil, .nil⟩

theorem forall₂_exists_of_mem {α β : Type} {P : α → β → Prop} {l : List α} {l' : List β}
    (h : List.Forall₂ P l l') {b : β} (hb : b ∈ l') : ∃ a ∈ l, P a b := by
  induction h with
  | nil => cases hb
  | @cons a _ _ _ hfirst _ ih =>
    rcases List.mem_cons.mp hb with rfl | hrest
    · exact ⟨a, List.mem_cons_self, hfirst⟩
    · obtain ⟨a, ha, hab⟩ := ih hrest
      exact ⟨a, List.mem_cons_of_mem _ ha, hab⟩

theorem Shuffled.exists_of_mem_right (h : Shuffled R pairs pairs') {entry' : Tree × Tree}
    (hentry : entry' ∈ pairs') : ∃ entry ∈ pairs, R entry.1 entry'.1 ∧ R entry.2 entry'.2 := by
  obtain ⟨moved, hmoved, hperm⟩ := h
  exact forall₂_exists_of_mem hmoved (hperm.symm.subset hentry)

theorem Shuffled.exists_of_mem (h : Shuffled R pairs pairs') {entry : Tree × Tree}
    (hentry : entry ∈ pairs) : ∃ entry' ∈ pairs', R entry.1 entry'.1 ∧ R entry.2 entry'.2 :=
  (h.symm fun _ _ hab => (hab : flip R _ _)).exists_of_mem_right hentry

theorem distinct_of_forall₂
    (h : List.Forall₂ (fun a b => Resembles document document' R a.1 b.1 ∧
      Resembles document document' R a.2 b.2) pairs pairs')
    (hdistinct : pairs.Pairwise fun a b =>
      ∀ name, IsText document a.1 name → ¬ IsText document b.1 name) :
    pairs'.Pairwise fun a b => ∀ name, IsText document' a.1 name → ¬ IsText document' b.1 name := by
  induction h with
  | nil => exact .nil
  | cons hfirst hrest ih =>
    obtain ⟨hleft, hright⟩ := List.pairwise_cons.mp hdistinct
    refine List.pairwise_cons.mpr ⟨fun entry' hentry' name hname hother => ?_, ih hright⟩
    obtain ⟨entry, hentry, hkey, -⟩ := forall₂_exists_of_mem hrest hentry'
    exact hleft entry hentry name (hfirst.1.isText_iff.mpr hname) (hkey.isText_iff.mpr hother)

section Keys

variable (h : Shuffled (Resembles document document' R) pairs pairs')

include h

theorem Shuffled.lacks {name : String} (hlacks : Lacks document pairs name) :
    Lacks document' pairs' name := by
  intro entry' hentry' hname
  obtain ⟨entry, hentry, hkey, -⟩ := h.exists_of_mem_right hentry'
  exact hlacks entry hentry (hkey.isText_iff.mpr hname)

theorem Shuffled.wellKeyed {names : List String} (hkeys : WellKeyed document names pairs) :
    WellKeyed document' names pairs' := by
  refine ⟨fun entry' hentry' => ?_, ?_⟩
  · obtain ⟨entry, hentry, hkey, -⟩ := h.exists_of_mem_right hentry'
    obtain ⟨name, hname, htext⟩ := hkeys.known entry hentry
    exact ⟨name, hname, hkey.isText htext⟩
  · obtain ⟨moved, hmoved, hperm⟩ := h
    exact (hperm.pairwise_iff fun hab name hb ha => hab name ha hb).mp
      (distinct_of_forall₂ hmoved hkeys.distinct)

theorem Shuffled.layered {β : Type} {Is Is' : Tree → β → Prop} {name : String}
    {default final : β}
    (his : ∀ node node', Resembles document document' R node node' → Is node final → Is' node' final)
    (hlayered : Layered document pairs name Is default final) :
    Layered document' pairs' name Is' default final := by
  rcases hlayered with ⟨entry, hentry, hname, hfinal⟩ | ⟨hlacks, hdefault⟩
  · obtain ⟨entry', hentry', hkey, hvalue⟩ := h.exists_of_mem hentry
    exact .inl ⟨entry', hentry', hkey.isText hname, his _ _ hvalue hfinal⟩
  · exact .inr ⟨h.lacks hlacks, hdefault⟩

end Keys

end Crosscheck.Settings
