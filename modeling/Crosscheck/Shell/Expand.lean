import Crosscheck.Shell.Arithmetic
import Crosscheck.Shell.Pattern
import Crosscheck.Shell.State

/-! # Expansion of words

A word is expanded to spans of glyphs, which remember what was quoted and what is to be divided into
fields. From them come the fields of a command, a text or a pattern.
-/

namespace Crosscheck.Shell

open Act

inductive Glyph where
  | char (c : Char) (quoted : Bool)
  /-- A quotation mark, which makes a field even if there is nothing else in it. -/
  | mark
  /-- Stands between two arguments. -/
  | cut
  deriving DecidableEq

/-- How a span is divided into fields. -/
inductive Division where
  | whole
  | atSeparators
  /-- Only between arguments. -/
  | atCuts
  deriving DecidableEq

structure Span where
  division : Division
  glyphs : List Glyph

/-- How a substituted command is run: it gives its output. -/
abbrev Substitute := Command → Act (List Char)

/-! ## Variables -/

def valueOf? (scope : Scope) (name : String) : Option String :=
  (scope.values.lookup name).bind (·.value)

def isReadonly (scope : Scope) (name : String) : Bool :=
  (scope.values.lookup name).any (·.readonly)

/-- Sets what is known of a variable. -/
def putVariable (name : String) (var : Variable) : Act Unit :=
  modifyScope fun s =>
    { s with values := (name, var) :: s.values.filter (·.1 != name) }

/-- Sets a variable to a value, which keeps its marks. The name ends before an equals sign. -/
def assignVariable (name value : String) : Act Unit := do
  let name := String.ofList (name.toList.takeWhile (· != '='))
  if !isName name.toList then giveUp (name ++ ": bad variable name")
  let scope ← scope
  let old := (scope.values.lookup name).getD ⟨none, false, false⟩
  if old.readonly then giveUp (name ++ ": is read only")
  if name = "OPTIND" then
    match Numeral.whole? (some 10) value with
    | some n =>
      if n < 0 then giveUp ("Illegal number: " ++ value)
      modifyScope fun s => { s with optionIndex := max 1 n.toNat, optionPlace := none }
    | none => giveUp ("Illegal number: " ++ value)
  if name = "PATH" then modifyScope fun s => { s with hashed := [] }
  putVariable name
    { old with value := some value, exported := old.exported || scope.options.contains 'a' }

/-- The letters of options in the order in which they are told. -/
def optionLetters : List Char :=
  ['p', 'u', 'b', 'a', 'C', 'E', 'V', 'v', 'x', 's', 'n', 'm', 'i', 'I', 'f', 'e']

/-- The value of a parameter, if it is set. -/
def parameter? (scope : Scope) (name : String) : Option String :=
  match name with
  | "?" => some (toString scope.status)
  | "$" => some (toString scope.leader)
  | "!" => scope.lastJob.map toString
  | "#" => some (toString scope.args.length)
  | "-" => some (String.ofList (optionLetters.filter scope.options.contains))
  | "0" => some scope.name
  | name =>
    match Numeral.natural? name with
    | some n => if n = 0 then some scope.name else scope.args[n - 1]?
    | none => valueOf? scope name

/-- The characters that divide fields. -/
def separatorsOf (scope : Scope) : List Char :=
  ((valueOf? scope "IFS").getD " \t\n").toList

/-! ## Glyphs -/

def glyphsOf (text : List Char) (quoted : Bool) : List Glyph :=
  text.map fun c => .char c quoted

/-- The result of an expansion. -/
def expansion (glyphs : List Glyph) (quoted : Bool) : List Span :=
  [⟨if quoted then .whole else .atSeparators, glyphs⟩]

def glyphsIn (spans : List Span) : List Glyph :=
  spans.flatMap (·.glyphs)

/-- The text that glyphs spell. -/
def plainText (glyphs : List Glyph) : List Char :=
  glyphs.filterMap fun glyph =>
    match glyph with
    | .char c _ => some c
    | .mark => none
    | .cut => some '\x00'

def markedText (glyphs : List Glyph) : List Marked :=
  glyphs.filterMap fun glyph =>
    match glyph with
    | .char c quoted => some (c, quoted)
    | .mark => none
    | .cut => some ('\x00', false)

/-- All arguments as one value: cut apart where fields are made, else joined by the first
separator. -/
def argumentGlyphs (scope : Scope) (fields quoted every : Bool) : List Glyph :=
  let between : List Glyph :=
    if fields && (every || !quoted) then [.cut]
    else ((valueOf? scope "IFS").getD " ").toList.take 1 |>.map fun c => .char c quoted
  match scope.args.map fun arg => glyphsOf arg.toList quoted with
  | [] => []
  | first :: rest => rest.foldl (fun all next => all ++ between ++ next) first

/-- The value of an arithmetic expression; variables that it assigns are set. -/
def arithmetic (text : List Char) : Act (List Char) := do
  let scope ← scope
  let env : Arithmetic.Variables :=
    { value := valueOf? scope, readonly := isReadonly scope }
  let wrong (what : String) : Act (List Char) :=
    giveUp ("arithmetic expression: " ++ what ++ ": \"" ++ String.ofList text ++ "\"")
  match Arithmetic.evaluate env text with
  | .ok (value, assigned) =>
    for (name, n) in assigned do assignVariable name (toString n)
    return (toString value).toList
  | .error .division => wrong "division by zero"
  | .error (.expecting what) => wrong ("expecting " ++ what)
  | .error (.notNumber text) => giveUp ("Illegal number: " ++ text)
  | .error (.readonly name) => giveUp (name ++ ": is read only")
  | .error .overflow => do
    change fun k => (k.send 8 k.self).2
    hang

/-- The value of a parameter after its modifier. The argument of the modifier is expanded only if it
is needed. -/
def applyModifier (fields : Bool) (name : String) (modifier : Modifier) (bare : Bool)
    (argument : Act (List Span)) (quoted : Bool) : Act (List Span) := do
  let scope ← scope
  let every := name = "@"
  let arguments := every || name = "*"
  let value : Option (List Glyph) :=
    if arguments then some (argumentGlyphs scope fields quoted every)
    else (parameter? scope name).map fun text => glyphsOf text.toList quoted
  let missing (colon : Bool) : Bool := value.all fun v => colon && v.isEmpty
  let result (glyphs : List Glyph) : List Span :=
    if quoted && every && !scope.args.isEmpty then [⟨.atCuts, glyphs⟩]
    else expansion glyphs quoted
  let strict : Act Unit := do
    if value.isNone && scope.options.contains 'u' && !arguments then
      giveUp (name ++ ": parameter not set")
  match modifier with
  | .bad => giveUp "Bad substitution"
  | .plain =>
    strict
    return result (value.getD [])
  | .joined =>
    strict
    return result (value.getD []) ++ (← argument)
  | .length =>
    strict
    return expansion (glyphsOf (toString (value.getD []).length).toList quoted) quoted
  | .orElse colon => if missing colon then argument else return result (value.getD [])
  | .ifSet colon => if missing colon then return [] else argument
  | .orAssign colon =>
    if missing colon then
      let text := plainText (glyphsIn (← argument))
      assignVariable name (String.ofList text)
      return expansion (glyphsOf text quoted) quoted
    else return result (value.getD [])
  | .orFail colon =>
    if missing colon then
      if bare then
        giveUp (name ++ ": parameter not set" ++ if colon then " or null" else "")
      else
        let text := String.ofList (plainText (glyphsIn (← argument)))
        giveUp (name ++ ": " ++ text)
    else return result (value.getD [])
  | .trim atEnd longest =>
    strict
    match value with
    | none => return []
    | some value =>
      let pattern := patternOf (markedText (glyphsIn (← argument)))
      let text := plainText value
      let text := if atEnd then trimEnd pattern longest text else trimStart pattern longest text
      return result (text.map fun c => if c == '\x00' then .cut else .char c quoted)

/-- Where the list of users is. -/
def usersPath : String := "/etc/passwd"

/-- The home of a user, from a list that has users in its lines, with their homes after five colons. -/
def listedHome (list : List Char) (user : List Char) : Option (List Char) :=
  ((list.splitOn '\n').map (·.splitOn ':')).findSome? fun fields =>
    if fields.head? == some user then fields[5]? else none

/-- Where a user is at home. -/
def homeOf (scope : Scope) (disk : Disk) (user : List Char) : Option String :=
  if user.isEmpty then valueOf? scope "HOME"
  else
    match disk.readFile usersPath with
    | .ok list => (listedHome (Raw.ofBytes list) user).map String.ofList
    | .error _ => none

/-! ## Pieces -/

/-- Whether pieces after this one do not count. -/
def Piece.isLast : Piece → Bool
  | .parameter _ .joined _ _ => true
  | _ => false

mutual

/-- Expands a piece. In the argument of a modifier (`inner`) unquoted text is divided too. -/
def expandPiece (substitute : Substitute) (fields inner : Bool) : Piece → Act (List Span)
  | .text chars quoted =>
    return [⟨if inner && !quoted then .atSeparators else .whole, glyphsOf chars quoted⟩]
  | .mark => return [⟨.whole, [.mark]⟩]
  | .tilde user => do
    match homeOf (← scope) (← disk) user with
    | some home => return [⟨.whole, glyphsOf home.toList true⟩]
    | none =>
      return [⟨if inner then .atSeparators else .whole, glyphsOf ('~' :: user) false⟩]
  | .parameter name modifier argument quoted => do
    let pattern :=
      match modifier with
      | .trim .. => true
      | _ => false
    let single :=
      match modifier with
      | .trim .. | .orAssign _ | .orFail _ => true
      | _ => false
    let inside := if modifier = .joined then inner else !quoted && !pattern
    let word := expandPieces substitute (fields && !single) inside argument
    applyModifier fields name modifier argument.isEmpty word quoted
  | .command body quoted => return expansion (glyphsOf (← substitute body) quoted) quoted
  | .arithmetic body quoted => do
    let text := plainText (glyphsIn (← expandPieces substitute false false body))
    return expansion (glyphsOf (← arithmetic text) quoted) quoted

def expandPieces (substitute : Substitute) (fields inner : Bool) : List Piece → Act (List Span)
  | [] => return []
  | piece :: rest => do
    let first ← expandPiece substitute fields inner piece
    if piece.isLast then return first
    else return first ++ (← expandPieces substitute fields inner rest)

end

/-! ## Fields -/

/-- How far the division into fields has come. -/
structure Splitting where
  /-- Finished fields, latest first. -/
  fields : List (List Glyph) := []
  /-- The present field, latest glyph first. -/
  current : List Glyph := []
  /-- A blank has just ended a field. -/
  space : Bool := false
  /-- The last span was divided only between arguments, and the one before it. -/
  cuts : Bool := false
  afterCuts : Bool := false
  /-- How many fields there may still be, the present one included. -/
  room : Option Nat := none
  /-- What is left of the last field if nothing else comes. -/
  trimmed : Option (List Glyph) := none

namespace Splitting

def isBlank (c : Char) : Bool := c == ' ' || c == '\t' || c == '\n'

/-- Takes a glyph of a span that is divided. -/
def take (separators : List Char) (s : Splitting) (glyph : Glyph) : Splitting :=
  let separates :=
    match glyph with
    | .cut => true
    | .char c _ => !s.cuts && separators.contains c
    | .mark => false
  let blank := separates &&
    (match glyph with
    | .char c _ => isBlank c
    | _ => true)
  if s.room == some 0 then
    let after := { s with current := glyph :: s.current }
    if blank then { after with trimmed := s.trimmed.or (some s.current) }
    else
      { after with
        trimmed := if separates && s.space then s.trimmed else none
        space := false }
  else if s.space then
    if blank then { s with current := [] }
    else if separates then { s with current := [], space := false }
    else { s with current := [glyph], space := false }
  else if separates then
    let space := if s.afterCuts || s.cuts then s.space else blank
    if s.current.isEmpty && space then { s with space := false }
    else if s.room == some 1 then
      { s with
        room := some 0, trimmed := some s.current, current := glyph :: s.current, space := space }
    else
      { s with
        fields := s.current.reverse :: s.fields
        current := []
        space := space
        room := s.room.map (· - 1) }
  else { s with current := glyph :: s.current, space := false }

def takeSpan (separators : List Char) (s : Splitting) (span : Span) : Splitting :=
  match span.division with
  | .whole => { s with current := span.glyphs.reverse ++ s.current }
  | division =>
    let cuts := division == .atCuts
    let started := { s with space := false, afterCuts := s.cuts, cuts := cuts }
    span.glyphs.foldl (take separators) started

def finish (s : Splitting) : List (List Glyph) :=
  let last := s.trimmed.getD s.current
  if last.isEmpty && !s.cuts then s.fields.reverse else (last.reverse :: s.fields).reverse

end Splitting

/-- Divides spans into fields, at most so many. -/
def splitFields (separators : List Char) (most : Option Nat) (spans : List Span) :
    List (List Glyph) :=
  (spans.foldl (Splitting.takeSpan separators) { room := most }).finish

/-! ## Paths -/

/-- Divides marked characters at slashes. -/
def atSlashes (marked : List Marked) : List (List Marked) :=
  let (last, done) := marked.foldr
    (fun m (state : List Marked × List (List Marked)) =>
      if m.1 == '/' then ([], state.1 :: state.2) else (m :: state.1, state.2)) ([], [])
  last :: done

/-- The paths that match the segments of a pattern, below a path. What follows the last of them that is
a pattern must be there as it is. -/
def matchingPaths (disk : Disk) : List (List Marked) → String → List String
  | [], path => [path]
  | segment :: rest, path =>
    let literal (segment : List Marked) : String := String.ofList (segment.map Prod.fst)
    if !(segment :: rest).any isPattern then
      let whole := path ++ "/".intercalate ((segment :: rest).map literal)
      if disk.lexists (Raw.toText whole) then [whole] else []
    else if !isPattern segment then matchingPaths disk rest (path ++ literal segment ++ "/")
    else
      let pattern := patternOf segment
      let names : List String :=
        match disk.readDir (if path.isEmpty then "." else Raw.toText path) with
        | .ok entries => "." :: ".." :: entries.map (fun e : String × Node => Raw.ofText e.1)
        | .error _ => []
      let fitting := names.filter fun name =>
        Glob.covers pattern name.toList && (!name.startsWith "." || (literal segment).startsWith ".")
      fitting.flatMap fun name =>
        if rest.isEmpty then [path ++ name] else matchingPaths disk rest (path ++ name ++ "/")

/-- The words that a field gives: the paths that match it, or itself. -/
def fieldWords (disk : Disk) (field : List Marked) : List String :=
  let literal := String.ofList (field.map Prod.fst)
  if isPattern field then
    match matchingPaths disk (atSlashes field) "" with
    | [] => [literal]
    | paths => paths.mergeSort fun a b => decide (a ≤ b)
  else [literal]

/-! ## Words -/

/-- The fields of a word. -/
def expandWord (substitute : Substitute) (word : Word) : Act (List String) := do
  let spans ← expandPieces substitute true false word
  let scope ← scope
  let fields := splitFields (separatorsOf scope) none spans
  let marked := fields.map markedText
  if scope.options.contains 'f' || !marked.any isPattern then
    return marked.map fun field => String.ofList (field.map Prod.fst)
  else
    let disk := (← kernel).listingView
    return marked.flatMap (fieldWords disk)

def expandWords (substitute : Substitute) (words : List Word) : Act (List String) := do
  return (← words.mapM (expandWord substitute)).flatten

/-- A word as one text. -/
def expandText (substitute : Substitute) (word : Word) : Act String := do
  return String.ofList (plainText (glyphsIn (← expandPieces substitute false false word)))

/-- A word as a pattern. -/
def expandPattern (substitute : Substitute) (word : Word) : Act (List Glob) := do
  return patternOf (markedText (glyphsIn (← expandPieces substitute false false word)))

end Crosscheck.Shell
