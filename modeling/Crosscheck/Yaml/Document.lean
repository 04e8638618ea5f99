import Crosscheck.Yaml.Event

/-! # Documents

The first document of a text as a tree. A text may be malformed after a readable start; the tree then
holds what was read, and `broken` stands where reading stopped.
-/

namespace Crosscheck.Yaml

inductive Tree where
  | scalar (mark : Mark) (tag : Option String) (style : Style) (text : String)
  | sequence (mark : Mark) (items : List Tree)
  | mapping (mark : Mark) (entries : List (Tree × Tree))
  /-- A reference to the node that an anchor marks, by the anchor's number. -/
  | alias (anchor : Nat)
  | broken
  deriving Inhabited

/-- Why a document stops before its end. -/
inductive Defect where
  | malformed
  | unknownAnchor (mark : Mark)
  deriving DecidableEq, Repr

structure Document where
  /-- Nothing, if the text has no document. -/
  root : Option Tree
  /-- The nodes that anchors mark. -/
  anchors : List (Nat × Tree)
  defect : Option Defect
  /-- Something follows the document. -/
  more : Bool

/-! ## Loading -/

/-- Nodes paired up as keys and values, after the pairs in `before`, which are last first. A key whose
value is missing is followed by `broken`. -/
def pairUp : List (Tree × Tree) → List Tree → List (Tree × Tree)
  | before, [] => before.reverse
  | before, [key] => ((key, .broken) :: before).reverse
  | before, key :: value :: rest => pairUp ((key, value) :: before) rest

/-- A collection whose end has not been reached. -/
structure Unfinished where
  isMapping : Bool
  mark : Mark
  /-- The number of its first event. -/
  place : Nat
  /-- Its nodes, last one first. -/
  nodes : List Tree := []

def Unfinished.finish (u : Unfinished) : Tree :=
  if u.isMapping then .mapping u.mark (pairUp [] u.nodes.reverse)
  else .sequence u.mark u.nodes.reverse

/-- The state of loading. Events are numbered by `count`. Anchors have numbers too: a new one is
numbered by how many names there are. -/
structure Loading where
  root : Option Tree := none
  unfinished : List Unfinished := []
  count : Nat := 0
  names : List (String × Nat) := []
  /-- The numbers of anchors and of the events that they mark, latest first. -/
  places : List (Nat × Nat) := []
  /-- The nodes that are marked, by the numbers of their first events. -/
  marked : List (Nat × Tree) := []
  defect : Option Defect := none

namespace Loading

/-- Gives the next event an anchor. -/
def mark (l : Loading) : Option String → Loading
  | none => l
  | some name =>
    let number := l.names.length
    { l with
      names := (name, number) :: l.names.filter (·.1 != name)
      places := (number, l.count) :: l.places }

/-- Adds a complete node whose first event has the given number. -/
def add (l : Loading) (place : Nat) (node : Tree) : Loading :=
  let l :=
    if l.places.any (·.2 == place) then { l with marked := (place, node) :: l.marked } else l
  match l.unfinished with
  | [] => { l with root := some node }
  | inner :: rest =>
    { l with unfinished := { inner with nodes := node :: inner.nodes } :: rest }

/-- Counts an event. -/
def tick (l : Loading) : Loading :=
  { l with count := l.count + 1 }

def start (l : Loading) (isMapping : Bool) (mark : Mark) : Loading :=
  { l with unfinished := { isMapping, mark, place := l.count } :: l.unfinished }.tick

/-- Ends the innermost collection. -/
def finish (l : Loading) : Loading :=
  match l.unfinished with
  | [] => l
  | inner :: rest => { l with unfinished := rest }.add inner.place inner.finish

/-- Ends what a malformed text leaves open. -/
def abandon : List Unfinished → Loading → Loading
  | [], l => if l.root.isNone then { l with root := some .broken } else l
  | _ :: rest, l =>
    match l.unfinished with
    | [] => l
    | inner :: outer =>
      let inner := { inner with nodes := .broken :: inner.nodes }
      abandon rest ({ l with unfinished := inner :: outer }.finish)

/-- Loads the events of one document and gives the events after it. -/
def load : Loading → List Event → Loading × List Event
  | l, [] => ({ l with defect := some .malformed }, [])
  | l, event :: rest =>
    match event.kind with
    | .streamEnd => (l, [])
    | .documentStart => load l rest
    | .documentEnd => (l, rest)
    | .alias name =>
      match l.names.lookup name with
      | some number => load (l.add l.count (.alias number)).tick rest
      | none => ({ l with defect := some (.unknownAnchor event.mark) }, rest)
    | .scalar properties text style =>
      let l := l.mark properties.anchor
      load (l.add l.count (.scalar event.mark properties.tag style text)).tick rest
    | .sequenceStart properties => load ((l.mark properties.anchor).start false event.mark) rest
    | .mappingStart properties => load ((l.mark properties.anchor).start true event.mark) rest
    | .sequenceEnd | .mappingEnd => load l.tick.finish rest

end Loading

/-- The first document of a text. -/
def Document.ofText (text : List Char) : Document :=
  let all := events text
  let (loaded, rest) := Loading.load {} all
  let loaded := if loaded.defect.isSome then Loading.abandon loaded.unfinished loaded else loaded
  let atEnd := (rest.head?.or all.getLast?).any (·.kind == .streamEnd)
  { root := loaded.root
    anchors := loaded.places.filterMap fun (number, place) =>
      (loaded.marked.lookup place).map (number, ·)
    defect := loaded.defect
    more := loaded.defect.isNone && !atEnd }

/-- The node itself, or the one an alias stands for. -/
def Document.follow (d : Document) : Tree → Tree
  | .alias number => (d.anchors.lookup number).getD .broken
  | node => node

end Crosscheck.Yaml
