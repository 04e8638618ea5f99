import Crosscheck.Shell.Expand
import Crosscheck.Shell.Program

/-! # Redirections

Descriptors that a command changes are kept on others, with high numbers, and given back afterwards.
-/

namespace Crosscheck.Shell

open Act

/-- A redirection whose words have been expanded. -/
inductive Wiring where
  | file (descriptor : Nat) (opening : Opening) (path : String)
  | copy (descriptor source : Nat)
  | close (descriptor : Nat)
  | document (descriptor number : Nat)

namespace Wiring

def descriptor : Wiring → Nat
  | file d _ _ | copy d _ | close d | document d _ => d

/-- What stands for a descriptor is none, which is taken for a mistake in what was read last. -/
def noDescriptor {α : Type} : Act α := do
  modifyScope fun s => { s with line := s.reached.headD s.line }
  giveUp "Syntax error: Bad fd number"

/-- Expands the words of redirections. -/
def prepare (substitute : Substitute) : List Redirect → Act (List Wiring)
  | [] => return []
  | redirect :: rest => do
    let wiring : Wiring ←
      match redirect with
      | .file descriptor opening target =>
        pure (.file descriptor opening (← expandText substitute target))
      | .document descriptor number => pure (.document descriptor number)
      | .duplicate descriptor target => do
        match (← expandText substitute target).toList with
        | ['-'] => pure (.close descriptor)
        | [c] =>
          if c.isDigit then pure (.copy descriptor (c.toNat - 48))
          else noDescriptor
        | _ => noDescriptor
    return wiring :: (← prepare substitute rest)

/-- What is said if there are not descriptors enough for a pipe. -/
def noPipe : String := "Pipe call failed"

/-- Opens a path; gives the number of the file. -/
def openFile (opening : Opening) (path : String) : Act Nat := do
  let keep := opening = .output && (← hasOption 'C')
  let text := Raw.toText path
  let result ← step fun k =>
    k.openPath text
      (match opening with
      | .input => { reads := true }
      | .output | .clobber => { writes := true, truncate := true, create := true, keep }
      | .append => { writes := true, append := true, create := true }
      | .both => { reads := true, writes := true, create := true })
  match result with
  | .ok index => return index
  | .error fault =>
    let missing := fault = .notFound || fault = .notDirectory
    let (verb, reason) :=
      if opening = .input then ("open", "No such file") else ("create", "Directory nonexistent")
    giveUp ("cannot " ++ verb ++ " " ++ path ++ ": " ++ if missing then reason else fault.text)

/-- Descriptors that were changed, each with the one that keeps what it was. -/
abbrev Saved := List (Nat × Option Nat)

/-- Moves a descriptor to a high number. If there is none that is allowed, it is closed. -/
def save (descriptor : Nat) : Act (Option Nat) := do
  let moved : Except String (Option Nat) ← step fun k =>
    match k.descriptors.lookup descriptor with
    | some index =>
      let other := k.freeDescriptor 10
      let allowed (number : Nat) : Bool := (k.limit .descriptors).all (number < ·)
      if !allowed 10 then (.error "Invalid argument", k.disconnect descriptor)
      else if !allowed other then (.error Fault.tooManyOpen.text, k.disconnect descriptor)
      else (.ok (some other), (k.connect other index).disconnect descriptor)
    | none => (.ok none, k)
  match moved with
  | .ok other => return other
  | .error reason => giveUp (toString descriptor ++ ": " ++ reason)

/-- Connects a descriptor to a file, if its number is allowed. -/
def link (descriptor index : Nat) : Act Bool :=
  step fun k =>
    if (k.limit .descriptors).all (descriptor < ·) then (true, k.connect descriptor index)
    else (false, k.disconnect descriptor)

/-- Opens what a redirection names: a file, or nothing if that comes later. -/
def opened (substitute : Substitute) : Wiring → Act (Option Nat)
  | .file _ opening path => some <$> openFile opening path
  | .document _ number => do
    let word := ((← scope).documents[number]?).getD []
    let text ← expandText substitute word
    if !(← kernel).hasRoom 2 then giveUp noPipe
    let file : OpenFile := ⟨.text (Raw.toBytes text.toList), true, false, 0, ([], 0)⟩
    some <$> step fun k => k.addFile file
  | .copy .. | .close _ => return none

/-- Connects the descriptor of a redirection to what was opened for it. -/
def connect (wiring : Wiring) (index : Option Nat) : Act Unit := do
  match wiring, index with
  | .copy descriptor source, _ =>
    let linked ←
      match (← kernel).descriptors.lookup source with
      | some index => link descriptor index
      | none => pure false
    if !linked then giveUp (toString source ++ ": Bad file descriptor")
  | wiring, some index =>
    let _ ← link wiring.descriptor index
  | wiring, none => change fun k => k.disconnect wiring.descriptor

/-- Whether a redirection makes a descriptor a copy of itself, which does nothing. -/
def isIdle : Wiring → Bool
  | .copy descriptor source => descriptor == source
  | _ => false

/-- Runs an action and gives what made it jump. -/
def caught {α : Type} (action : Act α) : Act (Except Jump α) := do
  try
    let a ← action
    return .ok a
  catch jump => return .error jump

/-- Notes whether a descriptor is now closed; tells whether it was before. -/
def noteClosed (descriptor : Nat) (isClosed : Bool) : Act Bool :=
  modifyGet fun s =>
    let others := s.closed.filter (· != descriptor)
    (s.closed.contains descriptor, { s with closed := if isClosed then descriptor :: others else others })

/-- Keeps what a descriptor was before a redirection, if that is not kept yet. There is nothing to keep
of one that was closed. -/
def keepFirst (saved : Saved) (wiring : Wiring) : Act Saved := do
  let isClosing :=
    match wiring with
    | .close _ => true
    | _ => false
  let descriptor := wiring.descriptor
  let wasClosed ← noteClosed descriptor isClosing
  if saved.any (·.1 == descriptor) then return saved
  else return (descriptor, ← if wasClosed then pure none else save descriptor) :: saved

/-- Carries out redirections in order; gives what is kept, and why it could not be done. What a
descriptor was is kept first, if it is to be. -/
def applyAll (substitute : Substitute) (keep : Bool) :
    Saved → List Wiring → Act (Saved × Option Jump)
  | saved, [] => return (saved, none)
  | saved, wiring :: rest => do
    if wiring.isIdle then applyAll substitute keep saved rest
    else
      match ← caught (wiring.opened substitute) with
      | .error jump => return (saved, some jump)
      | .ok index =>
        match ← caught (if keep then keepFirst saved wiring else pure saved) with
        | .error jump => return (saved, some jump)
        | .ok saved =>
          match ← caught (wiring.connect index) with
          | .error jump => return (saved, some jump)
          | .ok () => applyAll substitute keep saved rest

/-- Gives descriptors back what they were. -/
def restore (saved : Saved) : Act Unit :=
  saved.forM fun (descriptor, kept) => do
    let isClosed ← noteClosed descriptor kept.isNone
    change fun k =>
      match kept.bind (k.descriptors.lookup ·), kept with
      | some index, some other => (k.connect descriptor index).disconnect other
      | _, _ => if isClosed then k else k.disconnect descriptor

/-- Lets descriptors be as they are now. -/
def settle (saved : Saved) : Act Unit :=
  change fun k => saved.foldl (fun k (_, kept) => kept.elim k k.disconnect) k

end Wiring

/-- Runs an action, and something else after it whether it jumps or not. -/
def ensuring {α : Type} (action : Act α) (cleanup : Act Unit) : Act α := do
  let result ← Wiring.caught action
  cleanup
  match result with
  | .ok a => return a
  | .error jump => throw jump

end Crosscheck.Shell
