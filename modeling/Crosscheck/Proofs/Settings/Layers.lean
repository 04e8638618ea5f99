import Crosscheck.Proofs.Settings.Order
import Crosscheck.Proofs.Yaml.Blank
import Mathlib.Tactic.MkIffOfInductiveProp

/-! # Where a setting comes from

A setting is the override if there is one, else what the text says, else the default. The layers do
not meet in the same way everywhere: a tool in the text replaces the whole default tool, a layout
replaces the fields that it has, and an override of a tool replaces its program.
-/

namespace Crosscheck.Settings

open Crosscheck.Yaml

/-! ## Shapes -/

namespace Slot

variable {α : Type}

def text (wanted name : String) (get : α → String) (put : String → α → α)
    (get_put : ∀ b a, get (put b a) = b) : Slot α :=
  ⟨String, name, Decode.text wanted, IsText, get, put, Decode.text_eq_ok_iff, get_put⟩

def texts (name : String) (get : α → List String) (put : List String → α → α)
    (get_put : ∀ b a, get (put b a) = b) : Slot α :=
  ⟨List String, name, Decode.sequenceOf Decode.string, IsTexts, get, put,
    Decode.sequenceOf_eq_ok_iff, get_put⟩

def word (wanted name : String) (get : α → Nat) (put : Nat → α → α)
    (get_put : ∀ b a, get (put b a) = b) : Slot α :=
  ⟨Nat, name, Decode.word wanted, IsWord, get, put, Decode.word_eq_ok_iff, get_put⟩

end Slot

def toolShape : Shape Tool where
  slots :=
    [.text "path string" "program" Tool.program (fun program tool => { tool with program := program })
        fun _ _ => rfl,
      .texts "args" Tool.args (fun args tool => { tool with args := args }) fun _ _ => rfl]
  apart := by simp [Slot.Apart, Slot.text, Slot.texts]
  ext := by
    rintro ⟨program, args⟩ ⟨program', args'⟩ h
    simpa [Slot.text, Slot.texts] using h

def layoutShape : Shape Layout where
  slots :=
    [.text "path string" "dir" Layout.dir (fun dir layout => { layout with dir := dir })
        fun _ _ => rfl,
      .text "a string" "source_suffix" Layout.sourceSuffix
        (fun suffix layout => { layout with sourceSuffix := suffix }) fun _ _ => rfl,
      .text "a string" "ir_suffix" Layout.irSuffix
        (fun suffix layout => { layout with irSuffix := suffix }) fun _ _ => rfl,
      .text "path string" "output_dir" Layout.outputDir
        (fun dir layout => { layout with outputDir := dir }) fun _ _ => rfl]
  apart := by simp [Slot.Apart, Slot.text]
  ext := by
    rintro ⟨dir, sourceSuffix, irSuffix, outputDir⟩ ⟨dir', sourceSuffix', irSuffix', outputDir'⟩ h
    simpa [Slot.text] using h

/-- The node is a mapping for this tool: it must name the program, and it may have arguments. -/
def IsTool (document : Document) (node : Tree) (tool : Tool) : Prop :=
  ∃ pairs, HasEntries document node pairs ∧ WellKeyed document ["program", "args"] pairs ∧
    (∃ entry ∈ pairs, IsText document entry.1 "program" ∧ IsText document entry.2 tool.program) ∧
    Layered document pairs "args" (IsTexts document) [] tool.args

/-- The node is a mapping for this layout. -/
def IsLayout (document : Document) (node : Tree) (layout : Layout) : Prop :=
  ∃ pairs, HasEntries document node pairs ∧
    WellKeyed document ["dir", "source_suffix", "ir_suffix", "output_dir"] pairs ∧
    Layered document pairs "dir" (IsText document) "tests" layout.dir ∧
    Layered document pairs "source_suffix" (IsText document) "scheme" layout.sourceSuffix ∧
    Layered document pairs "ir_suffix" (IsText document) "ll" layout.irSuffix ∧
    Layered document pairs "output_dir" (IsText document) "." layout.outputDir

theorem tool_eq_ok_iff {document : Document} {path : String} {node : Tree} {tool : Tool} :
    Decode.tool document path node = .ok tool ↔ IsTool document node tool := by
  have htool : Decode.tool =
    Decode.record "struct ToolConfig" toolShape.fields ["program"] ⟨"", []⟩ := rfl
  rw [htool, Shape.record_eq_ok_iff]
  unfold IsTool
  -- the program is required, so the empty default never shows
  have hprogram (pairs : List (Tree × Tree)) :
      ¬ Lacks document pairs "program" ∧
        Layered document pairs "program" (IsText document) "" tool.program ↔ _ := layered_given_iff
  simp [toolShape, Shape.names, Slot.text, Slot.texts, ← hprogram, and_assoc]

theorem layout_eq_ok_iff {document : Document} {path : String} {node : Tree} {layout : Layout} :
    Decode.layout document path node = .ok layout ↔ IsLayout document node layout := by
  have hlayout : Decode.layout =
    Decode.record "struct CorpusConfig" layoutShape.fields [] {} := rfl
  rw [hlayout, Shape.record_eq_ok_iff]
  unfold IsLayout
  simp [layoutShape, Shape.names, Slot.text]

namespace Slot

variable {α : Type}

def tool (name : String) (get : α → Tool) (put : Tool → α → α)
    (get_put : ∀ b a, get (put b a) = b) : Slot α :=
  ⟨Tool, name, Decode.tool, IsTool, get, put, tool_eq_ok_iff, get_put⟩

def layout (name : String) (get : α → Layout) (put : Layout → α → α)
    (get_put : ∀ b a, get (put b a) = b) : Slot α :=
  ⟨Layout, name, Decode.layout, IsLayout, get, put, layout_eq_ok_iff, get_put⟩

end Slot

def settingsShape : Shape Settings where
  slots :=
    [.tool "build" build (fun tool s => { s with build := tool }) fun _ _ => rfl,
      .text "path string" "compiler" compiler (fun file s => { s with compiler := file })
        fun _ _ => rfl,
      .text "path string" "runtime_archive" runtimeArchive
        (fun file s => { s with runtimeArchive := file }) fun _ _ => rfl,
      .tool "reference" reference (fun tool s => { s with reference := tool }) fun _ _ => rfl,
      .tool "linker" linker (fun tool s => { s with linker := tool }) fun _ _ => rfl,
      .layout "corpus" layout (fun layout s => { s with layout := layout }) fun _ _ => rfl,
      .word "u64" "timeout_secs" timeoutSecs (fun n s => { s with timeoutSecs := n }) fun _ _ => rfl,
      .word "usize" "max_output_bytes" maxOutputBytes (fun n s => { s with maxOutputBytes := n })
        fun _ _ => rfl,
      .texts "cases" cases (fun cases s => { s with cases := cases }) fun _ _ => rfl]
  apart := by simp [Slot.Apart, Slot.text, Slot.texts, Slot.tool, Slot.word, Slot.layout]
  ext := by
    intro s s' h
    cases s
    cases s'
    simpa [Slot.text, Slot.texts, Slot.tool, Slot.word, Slot.layout] using h

/-- What the entries say about each setting. -/
@[mk_iff]
structure Stated (document : Document) (entries : List (Tree × Tree)) (s : Settings) : Prop where
  build : Layered document entries "build" (IsTool document) ({} : Settings).build s.build
  compiler : Layered document entries "compiler" (IsText document) ({} : Settings).compiler s.compiler
  runtimeArchive : Layered document entries "runtime_archive" (IsText document)
    ({} : Settings).runtimeArchive s.runtimeArchive
  reference : Layered document entries "reference" (IsTool document) ({} : Settings).reference
    s.reference
  linker : Layered document entries "linker" (IsTool document) ({} : Settings).linker s.linker
  layout : Layered document entries "corpus" (IsLayout document) ({} : Settings).layout s.layout
  timeoutSecs : Layered document entries "timeout_secs" (IsWord document)
    ({} : Settings).timeoutSecs s.timeoutSecs
  maxOutputBytes : Layered document entries "max_output_bytes" (IsWord document)
    ({} : Settings).maxOutputBytes s.maxOutputBytes
  cases : Layered document entries "cases" (IsTexts document) ({} : Settings).cases s.cases

/-- The names of all settings. -/
def settingNames : List String :=
  ["build", "compiler", "runtime_archive", "reference", "linker", "corpus", "timeout_secs",
    "max_output_bytes", "cases"]

/-- The node can be the value of the setting with this name. -/
@[mk_iff]
structure Fits (document : Document) (name : String) (node : Tree) : Prop where
  tool : name ∈ ["build", "reference", "linker"] → ∃ tool, IsTool document node tool
  file : name ∈ ["compiler", "runtime_archive"] → ∃ file, IsText document node file
  layout : name = "corpus" → ∃ layout, IsLayout document node layout
  word : name ∈ ["timeout_secs", "max_output_bytes"] → ∃ n, IsWord document node n
  cases : name = "cases" → ∃ cases, IsTexts document node cases

variable {document document' : Document} {path : String} {mark mark' : Mark}
  {entries entries' : List (Tree × Tree)} {s : Settings}

theorem fits_slot_iff {node : Tree} {slot : Slot Settings} (hslot : slot ∈ settingsShape.slots) :
    Fits document slot.name node ↔ ∃ b, slot.Is document node b := by
  rw [fits_iff]
  simp only [settingsShape, List.mem_cons, List.not_mem_nil, or_false] at hslot
  rcases hslot with rfl | rfl | rfl | rfl | rfl | rfl | rfl | rfl | rfl
  all_goals simp [Slot.tool, Slot.text, Slot.layout, Slot.word, Slot.texts]

theorem hasEntries_mapping {pairs : List (Tree × Tree)} :
    HasEntries document (.mapping mark entries) pairs ↔ pairs = entries := by
  simp [HasEntries, IsVoid, Document.follow, eq_comm]

theorem settings_eq : Decode.settings =
    Decode.record "struct HarnessConfig" settingsShape.fields [] {} := rfl

theorem names_settingsShape : settingsShape.names = settingNames := rfl

theorem settings_eq_ok_iff :
    Decode.settings document path (.mapping mark entries) = .ok s ↔
      WellKeyed document settingNames entries ∧ Stated document entries s := by
  rw [settings_eq, Shape.record_eq_ok_iff, stated_iff, names_settingsShape]
  simp [hasEntries_mapping, settingsShape, Slot.tool, Slot.text, Slot.layout, Slot.word, Slot.texts]

theorem exists_settings_eq_ok_iff :
    (∃ s, Decode.settings document path (.mapping mark entries) = .ok s) ↔
      WellKeyed document settingNames entries ∧
        ∀ entry ∈ entries, ∀ name, IsText document entry.1 name → Fits document name entry.2 := by
  rw [settings_eq, Shape.exists_record_eq_ok_iff (hasEntries_mapping.mpr rfl), names_settingsShape]
  refine and_congr_right fun hkeys => ?_
  constructor
  · intro h entry hentry name hname
    obtain ⟨known, hknown, hkey⟩ := hkeys.known entry hentry
    obtain rfl := hkey.unique hname
    obtain ⟨slot, hslot, rfl⟩ := List.mem_map.mp (names_settingsShape ▸ hknown)
    exact (fits_slot_iff hslot).mpr (h entry hentry slot hslot hname)
  · intro h entry hentry slot hslot hname
    exact (fits_slot_iff hslot).mp (h entry hentry _ hname)

/-! ## The order of entries -/

theorem Alike.isTool (depth : Nat) {node node' : Tree} {tool : Tool}
    (h : Alike document document' (depth + 3) node node') (ht : IsTool document node tool) :
    IsTool document' node' tool := by
  obtain ⟨pairs, hpairs, hkeys, ⟨entry, hentry, hname, hprogram⟩, hargs⟩ := ht
  obtain ⟨pairs', hpairs', hshuffled⟩ := Resembles.hasEntries h hpairs
  obtain ⟨entry', hentry', hkey, hvalue⟩ := hshuffled.exists_of_mem hentry
  exact ⟨pairs', hpairs', Shuffled.wellKeyed hshuffled hkeys,
    ⟨entry', hentry', Resembles.isText hkey hname, Resembles.isText hvalue hprogram⟩,
    Shuffled.layered hshuffled (fun _ _ => Alike.isTexts depth) hargs⟩

theorem Alike.isLayout (depth : Nat) {node node' : Tree} {layout : Layout}
    (h : Alike document document' (depth + 2) node node') (hl : IsLayout document node layout) :
    IsLayout document' node' layout := by
  obtain ⟨pairs, hpairs, hkeys, hdir, hsource, hir, houtput⟩ := hl
  obtain ⟨pairs', hpairs', hshuffled⟩ := Resembles.hasEntries h hpairs
  have htext {name : String} {default final : String}
      (hlayered : Layered document pairs name (IsText document) default final) :
      Layered document' pairs' name (IsText document') default final :=
    Shuffled.layered hshuffled (fun _ _ hvalue => hvalue.isText) hlayered
  exact ⟨pairs', hpairs', Shuffled.wellKeyed hshuffled hkeys, htext hdir, htext hsource, htext hir,
    htext houtput⟩

theorem Alike.settings_eq_ok
    (h : Alike document document' 4 (.mapping mark entries) (.mapping mark' entries'))
    (hs : Decode.settings document path (.mapping mark entries) = .ok s) :
    Decode.settings document' path (.mapping mark' entries') = .ok s := by
  rw [settings_eq_ok_iff] at hs ⊢
  obtain ⟨hkeys, hstated⟩ := hs
  obtain ⟨pairs', hpairs', hshuffled⟩ := Resembles.hasEntries h (hasEntries_mapping.mpr rfl)
  obtain rfl := hasEntries_mapping.mp hpairs'
  have htext {name : String} {default final : String}
      (hlayered : Layered document entries name (IsText document) default final) :
      Layered document' pairs' name (IsText document') default final :=
    Shuffled.layered hshuffled (fun _ _ hvalue => hvalue.isText) hlayered
  have htool {name : String} {default final : Tool}
      (hlayered : Layered document entries name (IsTool document) default final) :
      Layered document' pairs' name (IsTool document') default final :=
    Shuffled.layered hshuffled (fun _ _ => Alike.isTool 0) hlayered
  have hword {name : String} {default final : Nat}
      (hlayered : Layered document entries name (IsWord document) default final) :
      Layered document' pairs' name (IsWord document') default final :=
    Shuffled.layered hshuffled (fun _ _ hvalue => hvalue.isWord) hlayered
  refine ⟨Shuffled.wellKeyed hshuffled hkeys, ?_⟩
  exact ⟨htool hstated.build, htext hstated.compiler, htext hstated.runtimeArchive,
    htool hstated.reference, htool hstated.linker,
    Shuffled.layered hshuffled (fun _ _ => Alike.isLayout 1) hstated.layout,
    hword hstated.timeoutSecs, hword hstated.maxOutputBytes,
    Shuffled.layered hshuffled (fun _ _ => Alike.isTexts 1) hstated.cases⟩

/-! ## The settings in force -/

/-- The text holds one document, and it is a mapping with these entries. -/
structure HoldsMapping (text : String) (document : Document) (mark : Mark)
    (entries : List (Tree × Tree)) : Prop where
  read : Document.ofText text.toList = document
  root : document.root = some (.mapping mark entries)
  whole : document.defect = none
  single : document.more = false

theorem HoldsMapping.ofText_eq_ok_iff {text : String}
    (h : HoldsMapping text document mark entries) :
    ofText text = .ok s ↔ Decode.settings document "" (.mapping mark entries) = .ok s := by
  obtain ⟨rfl, hroot, hwhole, hsingle⟩ := h
  have hfilled : (Text.trim text.toList).isEmpty = false := by
    by_contra hblank
    have hblank := Text.isBlank_of_trim (by simpa using hblank)
    exact root_ne_mapping_of_isBlank hblank mark entries hroot
  unfold ofText
  simp only [hfilled, hroot, hwhole, hsingle]
  cases Decode.settings (Document.ofText text.toList) "" (.mapping mark entries) with
  | error error => simp [bind, Except.bind]
  | ok found => simp [bind, Except.bind, pure, Except.pure]

/-- The value is the override if there is one, and else what holds underneath. -/
def Overridden {β : Type} (override : Option β) (under : β → Prop) (final : β) : Prop :=
  match override with
  | some given => final = given
  | none => under final

/-- Each setting is the override if there is one, else what the entries say, else the default. -/
structure InForce (document : Document) (entries : List (Tree × Tree)) (o : Overrides)
    (s : Settings) : Prop where
  build : Layered document entries "build" (IsTool document) ({} : Settings).build s.build
  compiler : Overridden o.compiler
    (Layered document entries "compiler" (IsText document) ({} : Settings).compiler) s.compiler
  runtimeArchive : Overridden o.runtime
    (Layered document entries "runtime_archive" (IsText document) ({} : Settings).runtimeArchive)
    s.runtimeArchive
  reference : ∃ tool,
    Layered document entries "reference" (IsTool document) ({} : Settings).reference tool ∧
      Overridden o.reference (· = tool.program) s.reference.program ∧ s.reference.args = tool.args
  linker : ∃ tool, Layered document entries "linker" (IsTool document) ({} : Settings).linker tool ∧
    Overridden o.linker (· = tool.program) s.linker.program ∧ s.linker.args = tool.args
  layout : ∃ layout,
    Layered document entries "corpus" (IsLayout document) ({} : Settings).layout layout ∧
      Overridden o.corpusDir (· = layout.dir) s.layout.dir ∧
      s.layout.sourceSuffix = layout.sourceSuffix ∧ s.layout.irSuffix = layout.irSuffix ∧
      s.layout.outputDir = layout.outputDir
  timeoutSecs : Overridden o.timeout
    (Layered document entries "timeout_secs" (IsWord document) ({} : Settings).timeoutSecs)
    s.timeoutSecs
  maxOutputBytes : Layered document entries "max_output_bytes" (IsWord document)
    ({} : Settings).maxOutputBytes s.maxOutputBytes
  cases : Layered document entries "cases" (IsTexts document) ({} : Settings).cases s.cases

theorem overridden_getD {β : Type} {override : Option β} {under : β → Prop} {b : β} (h : under b) :
    Overridden override under (override.getD b) := by
  cases override with
  | none => exact h
  | some given => rfl

theorem Stated.inForce (h : Stated document entries s) (o : Overrides) :
    InForce document entries o (o.apply s) where
  build := h.build
  compiler := overridden_getD h.compiler
  runtimeArchive := overridden_getD h.runtimeArchive
  reference := ⟨s.reference, h.reference, overridden_getD rfl, rfl⟩
  linker := ⟨s.linker, h.linker, overridden_getD rfl, rfl⟩
  layout := ⟨s.layout, h.layout, overridden_getD rfl, rfl, rfl, rfl⟩
  timeoutSecs := overridden_getD h.timeoutSecs
  maxOutputBytes := h.maxOutputBytes
  cases := h.cases

/-- A text that holds one mapping can be read exactly if its keys are names of settings, all
different, and each value fits its setting. Whatever the overrides are, each setting is then the
override, else what the text says, else the default. Two such texts whose mappings differ at most in
the order of entries, at any depth, give the same settings, or neither gives any. -/
theorem settings_come_in_layers {text : String} (h : HoldsMapping text document mark entries) :
    ((∃ s, ofText text = .ok s) ↔
      WellKeyed document settingNames entries ∧
        ∀ entry ∈ entries, ∀ name, IsText document entry.1 name → Fits document name entry.2) ∧
    (∀ s o, ofText text = .ok s → InForce document entries o (o.apply s)) ∧
    ∀ text' document' mark' entries', HoldsMapping text' document' mark' entries' →
      (∀ depth, Alike document document' depth (.mapping mark entries) (.mapping mark' entries')) →
      (ofText text').toOption = (ofText text).toOption := by
  refine ⟨?_, ?_, ?_⟩
  · simp only [h.ofText_eq_ok_iff]
    exact exists_settings_eq_ok_iff
  · intro s o hs
    exact (settings_eq_ok_iff.mp (h.ofText_eq_ok_iff.mp hs)).2.inForce o
  · intro text' document' mark' entries' h' halike
    have hsame : ∀ s, ofText text' = .ok s ↔ ofText text = .ok s := by
      intro s
      rw [h.ofText_eq_ok_iff, h'.ofText_eq_ok_iff]
      exact ⟨(halike 4).symm.settings_eq_ok, (halike 4).settings_eq_ok⟩
    cases hs : ofText text with
    | ok s => rw [(hsame s).mpr hs]
    | error error =>
      cases hs' : ofText text' with
      | error error' => rfl
      | ok s =>
        rw [(hsame s).mp hs'] at hs
        cases hs

/-! ## An example -/

def spareText : String := "reference: {program: guile}\ncorpus: {dir: cases}\n"

def turnedText : String := "corpus: {dir: cases}\nreference: {program: guile}\n"

def spareEntries : List (Tree × Tree) :=
  [(.scalar ⟨0, 0, 0⟩ none .plain "reference",
      .mapping ⟨11, 0, 11⟩
        [(.scalar ⟨12, 0, 12⟩ none .plain "program", .scalar ⟨21, 0, 21⟩ none .plain "guile")]),
    (.scalar ⟨28, 1, 0⟩ none .plain "corpus",
      .mapping ⟨36, 1, 8⟩
        [(.scalar ⟨37, 1, 9⟩ none .plain "dir", .scalar ⟨42, 1, 14⟩ none .plain "cases")])]

def turnedEntries : List (Tree × Tree) :=
  [(.scalar ⟨0, 0, 0⟩ none .plain "corpus",
      .mapping ⟨8, 0, 8⟩
        [(.scalar ⟨9, 0, 9⟩ none .plain "dir", .scalar ⟨14, 0, 14⟩ none .plain "cases")]),
    (.scalar ⟨21, 1, 0⟩ none .plain "reference",
      .mapping ⟨32, 1, 11⟩
        [(.scalar ⟨33, 1, 12⟩ none .plain "program", .scalar ⟨42, 1, 21⟩ none .plain "guile")])]

def spareDocument : Document := ⟨some (.mapping {} spareEntries), [], none, false⟩

def turnedDocument : Document := ⟨some (.mapping {} turnedEntries), [], none, false⟩

theorem holdsMapping_spareText : HoldsMapping spareText spareDocument {} spareEntries :=
  ⟨rfl, rfl, rfl, rfl⟩

theorem holdsMapping_turnedText : HoldsMapping turnedText turnedDocument {} turnedEntries :=
  ⟨rfl, rfl, rfl, rfl⟩

theorem alike_turned (depth : Nat) :
    Alike spareDocument turnedDocument depth (.mapping {} spareEntries)
      (.mapping {} turnedEntries) := by
  refine alike_mapping (fun depth => ⟨_, .cons ⟨?_, ?_⟩ (.cons ⟨?_, ?_⟩ .nil), .swap _ _ _⟩) depth
  · exact alike_scalar ..
  · exact alike_mapping
      (fun depth => ⟨_, .cons ⟨alike_scalar .., alike_scalar ..⟩ .nil, .refl _⟩) depth
  · exact alike_scalar ..
  · exact alike_mapping
      (fun depth => ⟨_, .cons ⟨alike_scalar .., alike_scalar ..⟩ .nil, .refl _⟩) depth

/-- The example can be read, with a tool that has no arguments and the default suffixes; an override
changes the program alone; and the other order of the entries makes no difference. -/
theorem spareText_in_layers :
    HoldsMapping spareText spareDocument {} spareEntries ∧
    ofText spareText = .ok { reference := ⟨"guile", []⟩, layout := { dir := "cases" } } ∧
    InForce spareDocument spareEntries { reference := some "racket" }
      { reference := ⟨"racket", []⟩, layout := { dir := "cases" } } ∧
    HoldsMapping turnedText turnedDocument {} turnedEntries ∧
    (ofText turnedText).toOption = (ofText spareText).toOption := by
  obtain ⟨-, hforce, horder⟩ := settings_come_in_layers holdsMapping_spareText
  have hread : ofText spareText =
    .ok { reference := ⟨"guile", []⟩, layout := { dir := "cases" } } := rfl
  exact ⟨holdsMapping_spareText, hread, hforce _ { reference := some "racket" } hread,
    holdsMapping_turnedText, horder _ _ _ _ holdsMapping_turnedText alike_turned⟩

end Crosscheck.Settings
