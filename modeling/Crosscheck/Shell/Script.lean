import Crosscheck.Shell.Syntax

/-! # Reading scripts

A script is read one complete command at a time, because what a command does (an alias, say) can
change how the next one is read. A substituted command is read along with the word it stands in. The
text of a here-document comes after the end of its line; until then only its number is known.
-/

namespace Crosscheck.Shell

structure SyntaxError where
  line : Nat
  message : String
  deriving DecidableEq, Repr

inductive Token where
  | eof
  | newline
  | semicolon
  | ampersand
  | andIf
  | orIf
  | pipe
  | leftParen
  | rightParen
  | endCase
  | redirect
  | word
  | keyword (text : String)
  deriving DecidableEq, Repr

namespace Token

/-- What a token is called in messages. -/
def describe : Token → String
  | eof => "end of file"
  | newline => "newline"
  | semicolon => "\";\""
  | ampersand => "\"&\""
  | andIf => "\"&&\""
  | orIf => "\"||\""
  | pipe => "\"|\""
  | leftParen => "\"(\""
  | rightParen => "\")\""
  | endCase => "\";;\""
  | redirect => "redirection"
  | word => "word"
  | keyword text => "\"" ++ text ++ "\""

/-- Tokens before which a list of commands may end. -/
def endsList : Token → Bool
  | eof | rightParen | endCase => true
  | keyword text =>
    ["do", "done", "elif", "else", "esac", "fi", "then", "\x7d"].contains text
  | _ => false

end Token

/-- What a redirection operator asks for. -/
inductive Operator where
  | file (opening : Opening)
  | duplicate
  | document (strip : Bool)

/-- The text of an alias that is being read. -/
structure Layer where
  name : String
  /-- What is read after it. -/
  resume : List Char
  /-- It ends in a blank, so the next word may be an alias too. -/
  blank : Bool
  /-- Aliases whose text had just ended before it. -/
  spent : List String

/-- A here-document whose text is still to come. -/
structure Pending where
  number : Nat
  mark : List Char
  strip : Bool
  literal : Bool

structure Reader where
  rest : List Char
  line : Nat := 1
  aliases : List (String × String) := []
  layers : List Layer := []
  /-- Aliases whose text has just ended. -/
  spent : List String := []
  /-- The next word may be an alias. -/
  aliasNext : Bool := false
  /-- The reader has looked for more than there is. -/
  exhausted : Bool := false
  token : Token := .eof
  /-- The token is to be read again. -/
  pushed : Bool := false
  /-- The last word that was read. -/
  word : Word := []
  operator : Operator := .duplicate
  descriptor : Nat := 0
  /-- The word is the end mark of a here-document, in which nothing is substituted. -/
  marking : Bool := false
  pending : List Pending := []
  documents : Array Word := #[]

/-- Whether the text of an alias is being read, or has just ended. -/
def Reader.isBusy (r : Reader) (name : String) : Bool :=
  r.spent.contains name || r.layers.any fun layer => layer.name == name || layer.spent.contains name

abbrev Read := ExceptT SyntaxError (StateM Reader)

namespace Read

def fail {α : Type} (message : String) : Read α := do
  throw ⟨(← get).line, "Syntax error: " ++ message⟩

/-- The last token should not be there. -/
def unexpected {α : Type} : Read α := do
  fail ((← get).token.describe ++ " unexpected")

def expecting {α : Type} (token : Token) : Read α := do
  fail ((← get).token.describe ++ " unexpected (expecting " ++ token.describe ++ ")")

/-! ## Characters -/

/-- Goes on with what comes after aliases that have been read to their end. -/
def settle : List Layer → Reader → Reader
  | [], r => if r.rest.isEmpty then { r with exhausted := true } else r
  | layer :: outer, r =>
    if r.rest.isEmpty then
      settle outer
        { r with
          rest := layer.resume
          layers := outer
          spent := layer.name :: layer.spent ++ r.spent
          aliasNext := r.aliasNext || layer.blank }
    else r

def peek : Read (Option Char) := do
  let r ← get
  match r.rest with
  | c :: _ => return some c
  | [] =>
    let r := settle r.layers r
    set r
    return r.rest.head?

/-- Leaves out ends of lines after a backslash, and counts them. -/
def joinLines : List Char → List Char × Nat
  | '\\' :: '\n' :: rest =>
    let (rest, lines) := joinLines rest
    (rest, lines + 1)
  | rest => (rest, 0)

/-- The next character, where a backslash at the end of a line continues the line. -/
def peekJoined : Read (Option Char) := do
  match ← peek with
  | some '\\' =>
    let r ← get
    let (rest, lines) := joinLines r.rest
    set { r with rest := rest, line := r.line + lines }
    peek
  | c => return c

/-- Takes so many characters. -/
def take (count : Nat) : Read (List Char) := do
  let r ← get
  let taken := r.rest.take count
  set { r with rest := r.rest.drop count, line := r.line + taken.count '\n' }
  return taken

def skip : Read Unit := do
  let _ ← take 1

/-- Passes over a character that does not count as the end of a line. -/
def skipUncounted : Read Unit :=
  modify fun r => { r with rest := r.rest.drop 1 }

/-- Takes characters as long as they are of a kind. -/
def takeWhile (kind : Char → Bool) : Read (List Char) := do
  take ((← get).rest.takeWhile kind).length

/-! ## Pieces -/

/-- Adds text to pieces that are kept last one first. -/
def put (pieces : List Piece) (chars : List Char) (quoted : Bool) : List Piece :=
  match pieces with
  | .text before q :: rest =>
    if q == quoted then .text (before ++ chars) q :: rest else .text chars quoted :: pieces
  | pieces => .text chars quoted :: pieces

def isBlank (c : Char) : Bool := c == ' ' || c == '\t'

def isOperator (c : Char) : Bool :=
  c == '<' || c == '>' || c == '(' || c == ')' || c == ';' || c == '&' || c == '|'

def backquote : Char := Char.ofNat 96

/-- Characters that mean nothing in a word outside quotes. -/
def isPlain (c : Char) : Bool :=
  !(isBlank c || isOperator c || c == '\n' || c == '\\' || c == '\x27' || c == '"' || c == '$'
    || c == '\x7d' || c == backquote)

/-- Characters that mean nothing inside double quotes. -/
def isPlainQuoted (c : Char) : Bool :=
  !(c == '\n' || c == '\\' || c == '"' || c == '$' || c == '\x7d' || c == backquote)

/-- Characters that mean nothing in an arithmetic expression. -/
def isPlainArithmetic (c : Char) : Bool :=
  !(c == '\n' || c == '\\' || c == '(' || c == ')' || c == '$' || c == backquote)

/-- Characters that name a parameter of their own. -/
def isSpecialName (c : Char) : Bool :=
  c == '#' || c == '?' || c == '$' || c == '!' || c == '-' || c == '*' || c == '@' || c.isDigit

/-- Where a word stands. -/
inductive Place where
  | base
  | quotes
  | arithmetic
  /-- In a here-document with an end mark, whose lines may lose the tabs at their start. -/
  | document (mark : List Char) (strip : Bool)

/-- Whether what is expanded here counts as quoted. -/
def Place.quoted : Place → Bool
  | base => false
  | _ => true

/-- The text up to the next single quote. -/
def singleQuoted : Nat → List Char → Read (List Char)
  | 0, _ => fail "Unterminated quoted string"
  | fuel + 1, before => do
    let chars ← takeWhile (· != '\x27')
    match ← peek with
    | some '\x27' => skip; return before ++ chars
    | some _ => singleQuoted fuel (before ++ chars)
    | none => fail "Unterminated quoted string"

/-- A backslash in quotes: it stands for itself unless it protects a character. -/
def escaped (isProtected : Char → Bool) (pieces : List Piece) : Read (List Piece) := do
  skip
  match ← peek with
  | none => return put pieces ['\\'] true
  | some c =>
    skip
    return put pieces (if isProtected c then [c] else ['\\', c]) true

def isProtectedQuoted (c : Char) : Bool :=
  c == '\\' || c == backquote || c == '$' || c == '"'

def isProtectedDocument (c : Char) : Bool :=
  c == '\\' || c == backquote || c == '$'

/-- The source of a command between backquotes. -/
def backquoted (quoted : Bool) : Nat → List Char → Read (List Char)
  | 0, _ => fail "EOF in backquote substitution"
  | fuel + 1, seen => do
    match ← peekJoined with
    | none => fail "EOF in backquote substitution"
    | some '\\' =>
      skip
      match ← peek with
      | none => backquoted quoted fuel ('\\' :: seen)
      | some c =>
        skip
        let bare := c == '\\' || c == backquote || c == '$' || (quoted && c == '"')
        backquoted quoted fuel (if bare then c :: seen else c :: '\\' :: seen)
    | some c =>
      skip
      if c == backquote then return seen.reverse else backquoted quoted fuel (c :: seen)

/-- Whether the end mark of a here-document stands here on a line of its own; if so it is taken. -/
def takeMark (mark : List Char) (strip : Bool) : Read Bool := do
  if strip then let _ ← takeWhile (· == '\t')
  let _ ← peekJoined
  let r ← get
  let after := r.rest.drop mark.length
  if mark.isPrefixOf r.rest && (after.isEmpty || after.head? == some '\n') then
    if after.isEmpty then set { r with exhausted := true }
    let _ ← take (mark.length + 1)
    if after.isEmpty then modify fun r => { r with line := r.line + 1 }
    return true
  else return false

/-! ## Here-documents without expansions -/

def literalDocument (mark : List Char) (strip : Bool) : Nat → List Char → Read (List Char)
  | 0, seen => return seen
  | fuel + 1, seen => do
    if strip then let _ ← takeWhile (· == '\t')
    let line ← takeWhile (· != '\n')
    match ← peek with
    | none =>
      if line == mark then
        modify fun r => { r with line := r.line + 1 }
        return seen
      else return seen ++ line
    | some _ =>
      skip
      if line == mark then return seen else literalDocument mark strip fuel (seen ++ line ++ ['\n'])

/-! ## Words and commands -/

/-- What is looked for when a token is read. -/
structure Wanted where
  /-- Ends of lines are passed over. -/
  newlines : Bool := false
  keywords : Bool := false
  aliases : Bool := false

def atStart : Wanted := { newlines := true, keywords := true, aliases := true }

def pushBack : Read Unit :=
  modify fun r => { r with pushed := true }

/-- Takes one character as a token. -/
def single (token : Token) : Read Token := do
  skip
  return token

/-- Takes a token of one character, or of two if the second one follows. -/
def double (second : Char) (one two : Token) : Read Token := do
  skip
  if (← peekJoined) == some second then
    skip
    return two
  else return one

/-- The redirection operator that starts here. -/
def operator : Read (Nat × Operator) := do
  let first ← peek
  skip
  let second ← peekJoined
  if first == some '>' then
    match second with
    | some '>' => skip; return (1, .file .append)
    | some '|' => skip; return (1, .file .clobber)
    | some '&' => skip; return (1, .duplicate)
    | _ => return (1, .file .output)
  else
    match second with
    | some '<' =>
      skip
      if (← peekJoined) == some '-' then
        skip
        return (0, .document true)
      else return (0, .document false)
    | some '&' => skip; return (0, .duplicate)
    | some '>' => skip; return (0, .file .both)
    | _ => return (0, .file .input)

/-- Whether anything in a word was quoted. -/
def hasQuotes (word : Word) : Bool :=
  word.any fun piece =>
    match piece with
    | .mark | .text _ true | .parameter _ _ _ true | .command _ true | .arithmetic _ true => true
    | _ => false

/-- The modifier that a character after the name of a parameter stands for. -/
def modifier? (colon : Bool) : Char → Option Modifier
  | '-' => some (.orElse colon)
  | '+' => some (.ifSet colon)
  | '?' => some (.orFail colon)
  | '=' => some (.orAssign colon)
  | _ => none

/-- The name of a parameter inside braces, and whether its length is wanted. Nothing if it is no
parameter. -/
def bracedName : Read (Option (String × Bool)) := do
  let named (length : Bool) : Read (Option (String × Bool)) := do
    match ← peekJoined with
    | some c =>
      if isNameStart c then
        return some (String.ofList (← takeWhile isNameChar), length)
      else if c.isDigit then
        return some (String.ofList (← takeWhile Char.isDigit), length)
      else return none
    | none => return none
  match ← peekJoined with
  | some '#' =>
    skip
    match ← peekJoined with
    | some c =>
      if isNameChar c then named true
      else
        let second := ((← get).rest.drop 1).head?
        if c != '\x7d' && second == some '\x7d' then
          skipUncounted
          return if isSpecialName c then some (String.singleton c, true) else none
        else return some ("#", false)
    | none => return some ("#", false)
  | some c =>
    if isNameStart c || c.isDigit then named false
    else if c == '\x7d' then return none
    else
      skipUncounted
      return if isSpecialName c then some (String.singleton c, false) else none
  | none => return none

mutual

/-- A word outside quotes. In braces it goes on to the closing one. -/
def baseText : Nat → Bool → List Piece → Read Word
  | 0, _, _ => fail "word too long"
  | fuel + 1, braced, pieces => do
    match ← peekJoined with
    | none => if braced then fail "Missing '\x7d'" else return pieces.reverse
    | some c =>
      if c == '\n' || isBlank c || isOperator c then
        if braced then
          skip
          baseText fuel braced (put pieces [c] false)
        else return pieces.reverse
      else if c == '\\' then
        skip
        match ← peek with
        | none => baseText fuel braced (put pieces ['\\'] true)
        | some c =>
          skip
          baseText fuel braced (put pieces [c] true)
      else if c == '\x27' then
        skip
        let chars ← singleQuoted fuel []
        baseText fuel braced (.text chars true :: .mark :: pieces)
      else if c == '"' then
        skip
        let inside ← quotedText fuel []
        match inside with
        | [.parameter "@" .plain [] true] => baseText fuel braced (inside ++ pieces)
        | _ => baseText fuel braced (inside.reverse ++ .mark :: pieces)
      else if c == '$' then
        skip
        baseText fuel braced (← dollar fuel .base pieces)
      else if c == backquote then
        skip
        if (← get).marking then baseText fuel braced (put pieces [c] false)
        else baseText fuel braced (.command (← backquotedCommand fuel false) false :: pieces)
      else if c == '\x7d' then
        skip
        if braced then return pieces.reverse else baseText fuel braced (put pieces [c] false)
      else baseText fuel braced (put pieces (← takeWhile isPlain) false)

/-- What stands between double quotes, up to the closing one. -/
def quotedText : Nat → List Piece → Read Word
  | 0, _ => fail "word too long"
  | fuel + 1, pieces => do
    match ← peekJoined with
    | none => fail "Unterminated quoted string"
    | some '"' => skip; return pieces.reverse
    | some '\\' => quotedText fuel (← escaped isProtectedQuoted pieces)
    | some '$' => skip; quotedText fuel (← dollar fuel .quotes pieces)
    | some c =>
      if c == backquote then
        skip
        quotedText fuel (← backquoteIn fuel pieces)
      else if isPlainQuoted c then quotedText fuel (put pieces (← takeWhile isPlainQuoted) true)
      else
        skip
        quotedText fuel (put pieces [c] true)

/-- The argument of a parameter that is itself in quotes, up to the closing brace. Quotes inside
hide a brace. -/
def quotedArgument : Nat → Place → Bool → List Piece → Read Word
  | 0, _, _, _ => fail "word too long"
  | fuel + 1, place, hidden, pieces => do
    match ← peekJoined with
    | none =>
      match place with
      | .document .. => fail "Missing '\x7d'"
      | _ => fail "Unterminated quoted string"
    | some '"' => skip; quotedArgument fuel place (!hidden) pieces
    | some '\\' =>
      quotedArgument fuel place hidden
        (← escaped (fun c => isProtectedQuoted c || c == '\x7d') pieces)
    | some '$' => skip; quotedArgument fuel place hidden (← dollar fuel place pieces)
    | some '\n' =>
      skip
      match place with
      | .document mark strip => if ← takeMark mark strip then fail "Missing '\x7d'"
      | _ => pure ()
      quotedArgument fuel place hidden (put pieces ['\n'] true)
    | some c =>
      if c == backquote then
        skip
        quotedArgument fuel place hidden (← backquoteIn fuel pieces)
      else if c == '\x7d' then
        skip
        if hidden then quotedArgument fuel place hidden (put pieces [c] true)
        else return pieces.reverse
      else quotedArgument fuel place hidden (put pieces (← takeWhile isPlainQuoted) true)

/-- An arithmetic expression, up to the two closing parentheses. -/
def arithmeticText : Nat → Place → Nat → List Piece → Read Word
  | 0, _, _, _ => fail "word too long"
  | fuel + 1, place, depth, pieces => do
    match ← peekJoined with
    | none => fail "Missing '))'"
    | some '(' => skip; arithmeticText fuel place (depth + 1) (put pieces ['('] true)
    | some ')' =>
      skip
      if 0 < depth then arithmeticText fuel place (depth - 1) (put pieces [')'] true)
      else if (← peekJoined) == some ')' then
        skip
        return pieces.reverse
      else arithmeticText fuel place depth (put pieces [')'] true)
    | some '\\' =>
      let isProtected :=
        match place with
        | .document .. => isProtectedDocument
        | _ => isProtectedQuoted
      arithmeticText fuel place depth (← escaped isProtected pieces)
    | some '$' => skip; arithmeticText fuel place depth (← dollar fuel .arithmetic pieces)
    | some '\n' =>
      skip
      match place with
      | .document mark strip => if ← takeMark mark strip then fail "Missing '))'"
      | _ => pure ()
      arithmeticText fuel place depth (put pieces ['\n'] true)
    | some c =>
      if c == backquote then
        skip
        arithmeticText fuel place depth (← backquoteIn fuel pieces)
      else arithmeticText fuel place depth (put pieces (← takeWhile isPlainArithmetic) true)

/-- A here-document with expansions. -/
def documentText : Nat → List Char → Bool → Bool → List Piece → Read Word
  | 0, _, _, _, _ => fail "word too long"
  | fuel + 1, mark, strip, lineStart, pieces => do
    if lineStart then
      if ← takeMark mark strip then return pieces.reverse
    match ← peekJoined with
    | none => return pieces.reverse
    | some '\n' => skip; documentText fuel mark strip true (put pieces ['\n'] true)
    | some '\\' =>
      documentText fuel mark strip false (← escaped isProtectedDocument pieces)
    | some '$' =>
      skip
      documentText fuel mark strip false (← dollar fuel (.document mark strip) pieces)
    | some c =>
      if c == backquote then
        skip
        documentText fuel mark strip false (← backquoteIn fuel pieces)
      else if isPlainQuoted c then
        documentText fuel mark strip false (put pieces (← takeWhile isPlainQuoted) true)
      else
        skip
        documentText fuel mark strip false (put pieces [c] true)

/-- A command between backquotes, inside quotes. -/
def backquoteIn : Nat → List Piece → Read (List Piece)
  | 0, _ => fail "word too long"
  | fuel + 1, pieces => do
    if (← get).marking then return put pieces [backquote] true
    else return .command (← backquotedCommand fuel true) true :: pieces

/-- The command whose source stands between backquotes. Its lines are counted from one. -/
def backquotedCommand : Nat → Bool → Read Command
  | 0, _ => fail "word too long"
  | fuel + 1, quoted => do
    let source ← backquoted quoted ((← get).rest.length + 1) []
    let outer ← get
    set
      { outer with
        rest := source, line := 1, layers := [], spent := [], pushed := false, pending := []
        marking := false }
    let command ← list fuel false true
    readDocuments fuel
    modify fun r =>
      { outer with documents := r.documents, pushed := false, exhausted := outer.exhausted }
    return command

/-- What follows a dollar sign. -/
def dollar : Nat → Place → List Piece → Read (List Piece)
  | 0, _, _ => fail "word too long"
  | fuel + 1, place, pieces => do
    let quoted := place.quoted
    if (← get).marking then return put pieces ['$'] quoted
    else
      match ← peekJoined with
      | some '(' =>
        skip
        if (← peekJoined) == some '(' then
          skip
          let inner :=
            match place with
            | .document .. => place
            | _ => .arithmetic
          return .arithmetic (← arithmeticText fuel inner 0 []) quoted :: pieces
        else return .command (← substitution fuel) quoted :: pieces
      | some '\x7b' =>
        skip
        return (← braced fuel place) :: pieces
      | some c =>
        if isNameStart c then
          let name ← takeWhile isNameChar
          let more ← joinedName isNameChar fuel name
          return .parameter (String.ofList more) .plain [] quoted :: pieces
        else if isSpecialName c then
          skip
          return .parameter (String.singleton c) .plain [] quoted :: pieces
        else return put pieces ['$'] quoted
      | none => return put pieces ['$'] quoted

/-- A name that may go on after a line that is continued. -/
def joinedName (kind : Char → Bool) : Nat → List Char → Read (List Char)
  | 0, name => return name
  | fuel + 1, name => do
    match ← peekJoined with
    | some c => if kind c then joinedName kind fuel (name ++ (← takeWhile kind)) else return name
    | none => return name

/-- A parameter between braces. -/
def braced : Nat → Place → Read Piece
  | 0, _ => fail "word too long"
  | fuel + 1, place => do
    let quoted := place.quoted
    let argument (pattern : Bool) : Read Word :=
      match place with
      | .base => Word.homed <$> baseText fuel true []
      | _ =>
        if pattern then Word.homed <$> baseText fuel true []
        else quotedArgument fuel place false []
    match ← bracedName with
    | none => return .parameter "" .bad (← argument false) quoted
    | some (name, true) =>
      if (← peekJoined) == some '\x7d' then
        skip
        return .parameter name .length [] quoted
      else return .parameter name .bad (← argument false) quoted
    | some (name, false) =>
      let name ←
        if name.toList.all isNameChar then
          let kind := if isName name.toList then isNameChar else Char.isDigit
          String.ofList <$> joinedName kind fuel name.toList
        else pure name
      match ← peekJoined with
      | some '\x7d' => skip; return .parameter name .plain [] quoted
      | some ':' =>
        skip
        match ← peekJoined with
        | none => return .parameter name .bad (← argument false) quoted
        | some c =>
          skipUncounted
          let modifier := if c == '\x7d' then some .joined else modifier? true c
          return .parameter name (modifier.getD .bad) (← argument false) quoted
      | some c =>
        if c == '%' || c == '#' then
          skip
          let longest := (← peekJoined) == some c
          if longest then skip
          return .parameter name (.trim (c == '%') longest) (← argument true) quoted
        else
          skipUncounted
          return .parameter name ((modifier? false c).getD .bad) (← argument false) quoted
      | none => return .parameter name .bad (← argument false) quoted

/-- A command to be substituted, up to its closing parenthesis. -/
def substitution : Nat → Read Command
  | 0 => fail "word too long"
  | fuel + 1 => do
    let outer ← get
    set { outer with pushed := false, pending := [] }
    let command ← list fuel false true
    if (← token fuel {}) != .rightParen then expecting .rightParen
    modify fun r => { r with pending := outer.pending }
    return command

/-- Reads the here-documents that the line before asked for. -/
def readDocuments : Nat → Read Unit
  | 0 => fail "word too long"
  | fuel + 1 => do
    match (← get).pending with
    | [] => pure ()
    | document :: rest =>
      modify fun r => { r with pending := rest }
      let word ←
        if document.literal then
          pure [Piece.text (← literalDocument document.mark document.strip fuel []) true]
        else documentText fuel document.mark document.strip true []
      modify fun r => { r with documents := r.documents.setIfInBounds document.number word }
      readDocuments fuel

/-- The next token, whatever is looked for. -/
def plainToken : Nat → Read Token
  | 0 => fail "word too long"
  | fuel + 1 => do
    modify fun r => { r with spent := [] }
    match ← peekJoined with
    | none => return .eof
    | some c =>
      if isBlank c then
        skip
        plainToken fuel
      else if c == '#' then
        let _ ← takeWhile (· != '\n')
        plainToken fuel
      else
        match c with
        | '\n' => single .newline
        | '&' => double '&' .ampersand .andIf
        | '|' => double '|' .pipe .orIf
        | ';' => double ';' .semicolon .endCase
        | '(' => single .leftParen
        | ')' => single .rightParen
        | _ =>
          let word ← baseText fuel false []
          let next ← peek
          let digit := word.bare?.bind fun chars =>
            match chars with
            | [c] => if c.isDigit then some (c.toNat - 48) else none
            | _ => none
          if (next == some '<' || next == some '>') && (word.isEmpty || digit.isSome) then
            let (descriptor, operator) ← operator
            modify fun r =>
              { r with operator := operator, descriptor := digit.getD descriptor }
            return .redirect
          else
            modify fun r => { r with word := word }
            return .word

/-- The token that was pushed back, or the next one. -/
def anyToken : Nat → Read Token
  | 0 => fail "word too long"
  | fuel + 1 => do
    if (← get).pushed then
      modify fun r => { r with pushed := false }
      return (← get).token
    else
      let token ← plainToken fuel
      modify fun r => { r with token := token }
      return token

/-- Passes over ends of lines. -/
def passLines : Nat → Token → Read Token
  | 0, token => return token
  | fuel + 1, token => do
    if token == .newline then
      readDocuments fuel
      passLines fuel (← anyToken fuel)
    else return token

/-- The next token. A word may turn out to be a keyword, or an alias to be replaced. -/
def token : Nat → Wanted → Read Token
  | 0, _ => fail "word too long"
  | fuel + 1, wanted => do
    let first ← anyToken fuel
    let found ← if wanted.newlines then passLines fuel first else pure first
    let r ← get
    set { r with aliasNext := false }
    let wanted := { wanted with aliases := wanted.aliases || r.aliasNext }
    match found, r.word.bare? with
    | .word, some chars =>
      let text := String.ofList chars
      if wanted.keywords && keywords.contains text then
        modify fun r => { r with token := .keyword text }
        return .keyword text
      else if wanted.aliases && !r.isBusy text then
        match r.aliases.lookup text with
        | some value =>
          let value := value.toList
          if !value.isEmpty then
            let layer : Layer :=
              { name := text, resume := r.rest, blank := value.getLast?.any isBlank, spent := r.spent }
            modify fun r => { r with rest := value, layers := layer :: r.layers, spent := [] }
          token fuel wanted
        | none => return .word
      else return .word
    | found, _ => return found

/-- The target of the redirection operator that was just read. -/
def redirect : Nat → Read Redirect
  | 0 => fail "word too long"
  | fuel + 1 => do
    let r ← get
    let marks :=
      match r.operator with
      | .document _ => true
      | _ => false
    set { r with marking := marks }
    if (← token fuel {}) != .word then unexpected
    modify fun r => { r with marking := false }
    let word := (← get).word
    match r.operator with
    | .file opening => return .file r.descriptor opening word.homed
    | .duplicate => return .duplicate r.descriptor word.homed
    | .document strip =>
      let number := (← get).documents.size
      let document : Pending :=
        { number := number, mark := Word.literal word, strip := strip, literal := hasQuotes word }
      modify fun r =>
        { r with documents := r.documents.push [], pending := r.pending ++ [document] }
      return .document r.descriptor number

/-- The redirections after a command. Only what comes right after it can be a keyword. -/
def redirects : Nat → Wanted → Read (List Redirect)
  | 0, _ => fail "word too long"
  | fuel + 1, wanted => do
    if (← token fuel wanted) == .redirect then
      let first ← redirect fuel
      return first :: (← redirects fuel {})
    else
      pushBack
      return []

/-- Commands one after the other. At the `top` the list ends with its line; elsewhere it may be
empty only if `mayBeEmpty`. -/
def list : Nat → Bool → Bool → Read Command
  | 0, _, _ => fail "word too long"
  | fuel + 1, top, mayBeEmpty => listFrom fuel top mayBeEmpty .nothing

def listFrom : Nat → Bool → Bool → Command → Read Command
  | 0, _, _, _ => fail "word too long"
  | fuel + 1, top, mayEnd, before => do
    let next ← token fuel { newlines := !top, keywords := true, aliases := true }
    if next == .newline then
      readDocuments fuel
      return before
    else if next == .eof then
      readDocuments fuel
      pushBack
      return before
    else
      pushBack
      if mayEnd && !top && next.endsList then return before
      else
        let command ← andOr fuel
        let after ← token fuel {}
        let command :=
          if after == .ampersand then
            match command with
            | .pipeline stages _ => .pipeline stages true
            | command => .background command
          else command
        let all :=
          match before with
          | .nothing => command
          | before => .sequence before command
        match after with
        | .eof =>
          readDocuments fuel
          pushBack
          return all
        | .newline =>
          pushBack
          listFrom fuel top true all
        | .ampersand | .semicolon => listFrom fuel top true all
        | _ =>
          if top then unexpected
          else
            pushBack
            return all

def andOr : Nat → Read Command
  | 0 => fail "word too long"
  | fuel + 1 => do andOrFrom fuel (← pipeline fuel {})

def andOrFrom : Nat → Command → Read Command
  | 0, _ => fail "word too long"
  | fuel + 1, first => do
    match ← token fuel {} with
    | .andIf => andOrFrom fuel (.both first (← pipeline fuel atStart))
    | .orIf => andOrFrom fuel (.either first (← pipeline fuel atStart))
    | _ =>
      pushBack
      return first

def pipeline : Nat → Wanted → Read Command
  | 0, _ => fail "word too long"
  | fuel + 1, wanted => do
    let negated := (← token fuel wanted) == .keyword "!"
    if !negated then pushBack
    let first ← command fuel (if negated then { keywords := true, aliases := true } else {})
    let rest ← stages fuel
    let whole :=
      match rest with
      | [] => first
      | rest => .pipeline (first :: rest) false
    return if negated then .negated whole else whole

/-- The stages after the first one. -/
def stages : Nat → Read (List Command)
  | 0 => fail "word too long"
  | fuel + 1 => do
    if (← token fuel {}) == .pipe then
      let first ← command fuel atStart
      return first :: (← stages fuel)
    else
      pushBack
      return []

/-- Reads a token that has to be there. -/
def expect : Nat → Wanted → Token → Read Unit
  | 0, _, _ => fail "word too long"
  | fuel + 1, wanted, wantedToken => do
    if (← token fuel wanted) != wantedToken then expecting wantedToken

def command : Nat → Wanted → Read Command
  | 0, _ => fail "word too long"
  | fuel + 1, wanted => do
    let line := (← get).line
    let closing (body : Command) (last : Token) : Read Command := do
      expect fuel {} last
      withRedirects fuel line body
    match ← token fuel wanted with
    | .keyword "if" => closing (← branch fuel) (.keyword "fi")
    | .keyword "while" => closing (← loop fuel false) (.keyword "done")
    | .keyword "until" => closing (← loop fuel true) (.keyword "done")
    | .keyword "for" => closing (← each fuel line) (.keyword "done")
    | .keyword "case" => withRedirects fuel line (← choose fuel line)
    | .leftParen =>
      let body ← list fuel false false
      expect fuel {} .rightParen
      return .subshell line body (← redirects fuel { keywords := true, aliases := true })
    | .keyword "\x7b" => closing (← list fuel false false) (.keyword "\x7d")
    | .word | .redirect =>
      pushBack
      let line := (← get).line
      simple fuel line true [] [] []
    | _ => unexpected

/-- Adds the redirections after a command. They replace those of a subshell in braces. -/
def withRedirects : Nat → Nat → Command → Read Command
  | 0, _, _ => fail "word too long"
  | fuel + 1, line, body => do
    match ← redirects fuel { keywords := true, aliases := true }, body with
    | [], body => return body
    | redirects, .subshell line body _ => return .subshell line body redirects
    | redirects, body => return .redirected line body redirects

/-- A condition and its branches, up to the closing keyword. -/
def branch : Nat → Read Command
  | 0 => fail "word too long"
  | fuel + 1 => do
    let condition ← list fuel false false
    expect fuel {} (.keyword "then")
    let yes ← list fuel false false
    match ← token fuel {} with
    | .keyword "elif" => return .branch condition yes (← branch fuel)
    | .keyword "else" => return .branch condition yes (← list fuel false false)
    | _ =>
      pushBack
      return .branch condition yes .nothing

def loop : Nat → Bool → Read Command
  | 0, _ => fail "word too long"
  | fuel + 1, negate => do
    let condition ← list fuel false false
    expect fuel {} (.keyword "do")
    return .loop negate condition (← list fuel false false)

/-- The words of a loop over words. -/
def loopWords : Nat → Read (List Word)
  | 0 => fail "word too long"
  | fuel + 1 => do
    if (← token fuel {}) == .word then
      let word := (← get).word
      return word.homed :: (← loopWords fuel)
    else return []

def each : Nat → Nat → Read Command
  | 0, _ => fail "word too long"
  | fuel + 1, line => do
    let named := (← token fuel {}) == .word
    let name := ((← get).word.bare?.filter isName).filter fun _ => named
    match name with
    | none => fail "Bad for loop variable"
    | some name =>
      let words ←
        if (← token fuel atStart) == .keyword "in" then
          let words ← loopWords fuel
          let last := (← get).token
          if last != .newline && last != .semicolon then unexpected
          pure words
        else
          if (← get).token != .semicolon then pushBack
          pure [[.parameter "@" .plain [] true]]
      expect fuel atStart (.keyword "do")
      return .each line (String.ofList name) words (← list fuel false false)

def choose : Nat → Nat → Read Command
  | 0, _ => fail "word too long"
  | fuel + 1, line => do
    expect fuel {} .word
    let word := (← get).word
    expect fuel atStart (.keyword "in")
    return .choose line word.homed (← arms fuel)

/-- The arms of a choice, up to the closing keyword. -/
def arms : Nat → Read (List (List Word × Command))
  | 0 => fail "word too long"
  | fuel + 1 => do
    let first ← token fuel { newlines := true, keywords := true }
    if first == .keyword "esac" then return []
    else
      if first == .leftParen then
        let _ ← token fuel {}
      let patterns ← armPatterns fuel
      if (← get).token != .rightParen then expecting .rightParen
      let body ← list fuel false true
      let next ← token fuel { newlines := true, keywords := true }
      if next == .keyword "esac" then return [(patterns, body)]
      else if next == .endCase then return (patterns, body) :: (← arms fuel)
      else expecting .endCase

def armPatterns : Nat → Read (List Word)
  | 0 => fail "word too long"
  | fuel + 1 => do
    let word := (← get).word
    if (← token fuel {}) == .pipe then
      let _ ← token fuel {}
      return word.homed :: (← armPatterns fuel)
    else return [word.homed]

/-- A command made of words. Assignments count only before the first other word. -/
def simple : Nat → Nat → Bool → List (String × Word) → List Word → List Redirect → Read Command
  | 0, _, _, _, _, _ => fail "word too long"
  | fuel + 1, line, early, assignments, words, redirects => do
    let finished : Read Command := do
      pushBack
      return .simple line assignments.reverse words.reverse redirects.reverse
    match ← token fuel { aliases := early } with
    | .word =>
      let word := (← get).word
      match if early then Word.assignment? word else none with
      | some (name, value) =>
        simple fuel line early ((name, value.homedValue) :: assignments) words redirects
      | none => simple fuel line false assignments (word.homed :: words) redirects
    | .redirect =>
      let target ← redirect fuel
      simple fuel line early assignments words (target :: redirects)
    | .leftParen =>
      match words, assignments, redirects with
      | [word], [], [] =>
        expect fuel {} .rightParen
        match word.bare?.filter isName with
        | some name =>
          let name := String.ofList name
          if isSpecialCommand name then fail "Bad function name"
          else
            let line := (← get).line
            return .define line name (← command fuel atStart)
        | none => fail "Bad function name"
      | _, _, _ => finished
    | _ => finished

end

end Read

/-- A text with its expansions, read as if it stood between double quotes. -/
def wordOfText (text : List Char) : Option Word :=
  let reader : Reader := { rest := text }
  let reading := Read.documentText (20 * text.length + 200) ['\x00'] false false []
  match (reading.run reader : Except SyntaxError Word × Reader) with
  | (.ok word, _) => some word
  | (.error _, _) => none

/-- What reading a script gives. -/
inductive Next where
  | command (command : Command) (reader : Reader)
  | finished
  | malformed (error : SyntaxError) (reader : Reader)

/-- The next complete command of a script, and whether reading looked for more than there is. -/
def Reader.next (reader : Reader) : Next × Bool :=
  let fuel := 20 * reader.rest.length + 20000
  let fresh :=
    { reader with
      pushed := false, pending := [], exhausted := false, spent := [], marking := false
      aliasNext := false, token := .newline }
  match ((Read.list fuel true false).run fresh : Except SyntaxError Command × Reader) with
  | (.error error, after) => (.malformed error after, after.exhausted)
  | (.ok command, after) =>
    match command, after.token with
    | .nothing, .eof => (.finished, after.exhausted)
    | command, _ => (.command command after, after.exhausted)

end Crosscheck.Shell
