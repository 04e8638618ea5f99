/-! # Commands of the shell

Words are kept as pieces, because what a piece expands to depends on whether it was quoted.
-/

namespace Crosscheck.Shell

/-- What is done to the value of a parameter. With `colon` an empty value counts as unset. -/
inductive Modifier where
  | plain
  | length
  | orElse (colon : Bool)
  | orAssign (colon : Bool)
  | orFail (colon : Bool)
  | ifSet (colon : Bool)
  /-- Removes what matches a pattern from the start or the end. -/
  | trim (atEnd : Bool) (longest : Bool)
  /-- The argument follows the value, and nothing after it belongs to the word. -/
  | joined
  /-- Nothing that can be done. -/
  | bad
  deriving DecidableEq, Repr

/-- How a file is opened by a redirection. -/
inductive Opening where
  | input
  | output
  /-- Output that replaces a file even if files are to be kept. -/
  | clobber
  | append
  | both
  deriving DecidableEq, Repr

mutual

inductive Piece where
  | text (chars : List Char) (quoted : Bool)
  /-- A quotation mark, which makes a field even if nothing stands between the marks. -/
  | mark
  /-- A tilde with the name of a user, which stands for a home. -/
  | tilde (user : List Char)
  | parameter (name : String) (modifier : Modifier) (argument : List Piece) (quoted : Bool)
  | command (body : Command) (quoted : Bool)
  | arithmetic (body : List Piece) (quoted : Bool)

inductive Redirect where
  | file (descriptor : Nat) (opening : Opening) (target : List Piece)
  /-- Makes one descriptor a copy of another, or closes it. -/
  | duplicate (descriptor : Nat) (target : List Piece)
  /-- The input is the here-document of a number. -/
  | document (descriptor : Nat) (number : Nat)

/-- Lines are those on which commands start. -/
inductive Command where
  | nothing
  | simple (line : Nat) (assignments : List (String × List Piece)) (words : List (List Piece))
      (redirects : List Redirect)
  | sequence (first second : Command)
  | background (command : Command)
  | both (first second : Command)
  | either (first second : Command)
  | negated (command : Command)
  | pipeline (stages : List Command) (background : Bool)
  | subshell (line : Nat) (body : Command) (redirects : List Redirect)
  | redirected (line : Nat) (body : Command) (redirects : List Redirect)
  | branch (condition yes no : Command)
  /-- Repeats the body as long as the condition succeeds, or with `negate` fails. -/
  | loop (negate : Bool) (condition body : Command)
  | each (line : Nat) (name : String) (words : List (List Piece)) (body : Command)
  | choose (line : Nat) (word : List Piece) (arms : List (List (List Piece) × Command))
  | define (line : Nat) (name : String) (body : Command)

end

abbrev Word := List Piece

instance : Inhabited Piece := ⟨.mark⟩

instance : Inhabited Command := ⟨.nothing⟩

/-- The text of a word without quotes and expansions. -/
def Word.bare? : Word → Option (List Char)
  | [.text chars false] => some chars
  | _ => none

/-- The text of a word, whatever was quoted in it. -/
def Word.literal (word : Word) : List Char :=
  word.flatMap fun piece =>
    match piece with
    | .text chars _ => chars
    | _ => []

/-! ## Tildes -/

/-- Text without quotes, if there is any. -/
def bareText (chars : List Char) : List Piece :=
  if chars.isEmpty then [] else [.text chars false]

/-- Takes a tilde at the start of a text for a home. What follows the name of the user has to be
known: a slash, or the end of the `whole`. -/
def tildeAt (whole : Bool) (text : List Char) : List Piece :=
  match text with
  | '~' :: rest =>
    let user := rest.takeWhile (· != '/')
    let after := rest.drop user.length
    if after.isEmpty && !whole then [.text text false] else .tilde user :: bareText after
  | text => bareText text

/-- Parts of a text, each after the first with the colon before it. -/
def atColons : List Char → List (List Char)
  | [] => [[]]
  | c :: rest =>
    match atColons rest with
    | first :: others => if c == ':' then [] :: (c :: first) :: others else (c :: first) :: others
    | [] => [[c]]

/-- Takes tildes for homes: at the start of a word, and in a value also after each colon. -/
def withHomes (value : Bool) : Bool → Word → Word
  | _, [] => []
  | start, .text chars false :: rest =>
    let pieces : List Piece :=
      if value then
        let parts := atColons chars
        parts.zipIdx.flatMap fun (part, n) =>
          let whole := rest.isEmpty || n + 1 < parts.length
          match part with
          | ':' :: part => .text [':'] false :: tildeAt whole part
          | part => if start then tildeAt whole part else bareText part
      else if start then tildeAt rest.isEmpty chars
      else [.text chars false]
    pieces ++ withHomes value false rest
  | _, piece :: rest => piece :: withHomes value false rest

/-- A word in which a tilde at the start stands for a home. -/
def Word.homed (word : Word) : Word := withHomes false true word

/-- A value in which tildes stand for homes. -/
def Word.homedValue (word : Word) : Word := withHomes true true word

/-! ## Names -/

def isNameStart (c : Char) : Bool := c.isAlpha || c == '_'

def isNameChar (c : Char) : Bool := c.isAlphanum || c == '_'

/-- Whether a text can be the name of a variable. -/
def isName (text : List Char) : Bool :=
  text.head?.any isNameStart && text.all isNameChar

/-- The name and the value of a word that has the form of an assignment. -/
def Word.assignment? : Word → Option (String × Word)
  | .text chars false :: rest =>
    let name := chars.takeWhile isNameChar
    match chars.drop name.length with
    | '=' :: value =>
      if isName name then
        some (String.ofList name, if value.isEmpty then rest else .text value false :: rest)
      else none
    | _ => none
  | _ => none

/-- Words that have a meaning of their own at the start of a command. -/
def keywords : List String :=
  ["!", "case", "do", "done", "elif", "else", "esac", "fi", "for", "if", "in", "then", "until", "while",
    "\x7b", "\x7d"]

/-- Commands whose failure ends the shell, and that a function cannot replace. -/
def isSpecialCommand (name : String) : Bool :=
  [":", ".", "break", "continue", "eval", "exec", "exit", "export", "local", "readonly", "return", "set",
    "shift", "times", "trap", "unset"].contains name

end Crosscheck.Shell
