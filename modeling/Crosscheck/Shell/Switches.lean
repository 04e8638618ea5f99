import Crosscheck.Number.Reading

/-! # Options of programs

Letters may stand together after one dash; words follow two dashes, may be shortened as long as only
one is meant, and take their value after an equals sign or from the next argument. Options may come
after operands, unless they have to come first.
-/

namespace Crosscheck.Shell

/-- A word that stands for an option. -/
structure Long where
  word : String
  letter : Char

/-- The options of a program. -/
structure Switches where
  letters : List Char
  /-- Letters that need a value. -/
  valued : List Char := []
  longs : List Long := []
  /-- Options end at the first operand. -/
  first : Bool := false

namespace Switches

/-- The letter of the option that asks for help, and of the one that asks for the version. -/
def help : Char := '\x01'

def version : Char := '\x02'

/-- What arguments ask for: letters with their values in order, and the operands. -/
structure Chosen where
  options : List (Char × String) := []
  operands : List String := []

def Chosen.has (chosen : Chosen) (letter : Char) : Bool :=
  chosen.options.any (·.1 == letter)

/-- A word of a program; all programs can be asked for help and for their version. -/
def words (known : Switches) : List Long :=
  known.longs ++ [⟨"help", help⟩, ⟨"version", version⟩]

/-- The option that a word, or the start of one, stands for. -/
def long (known : Switches) (name : String) : Except String Long :=
  let fitting := known.words.filter fun l => name.toList.isPrefixOf l.word.toList
  match fitting.find? (·.word == name) with
  | some l => .ok l
  | none =>
    match fitting with
    | [] => .error ("unrecognized option '--" ++ name ++ "'")
    | l :: others =>
      if others.all (·.letter == l.letter) then .ok l
      else
        let each := fitting.map fun l => " '--" ++ l.word ++ "'"
        .error ("option '--" ++ name ++ "' is ambiguous; possibilities:" ++ String.join each)

/-- What was read, and what could not be. -/
structure Reading where
  chosen : Chosen := {}
  wrong : Option String := none

/-- Reads letters that stand together: what they ask for, and whether the next argument was used up
for it. -/
def cluster (known : Switches) (next : Option String) :
    List Char → List (Char × String) × Except String Bool
  | [] => ([], .ok false)
  | c :: rest =>
    if known.valued.contains c then
      match rest, next with
      | [], none => ([], .error ("option requires an argument -- '" ++ String.singleton c ++ "'"))
      | [], some value => ([(c, value)], .ok true)
      | rest, _ => ([(c, String.ofList rest)], .ok false)
    else if known.letters.contains c then
      let (others, result) := cluster known next rest
      ((c, "") :: others, result)
    else ([], .error ("invalid option -- '" ++ String.singleton c ++ "'"))

/-- Reads arguments from the left. -/
def read (known : Switches) : Chosen → List String → Reading
  | chosen, [] => { chosen }
  | chosen, arg :: rest =>
    let done (operands : List String) : Reading :=
      { chosen := { chosen with operands := chosen.operands ++ operands } }
    match arg.toList with
    | ['-', '-'] => done rest
    | '-' :: '-' :: body =>
      let name := String.ofList (body.takeWhile (· != '='))
      let value := (body.drop name.length).tail
      let attached := name.length < body.length
      match known.long name with
      | .error text => { chosen, wrong := some text }
      | .ok l =>
        let found (value : String) : Chosen :=
          { chosen with options := chosen.options ++ [(l.letter, value)] }
        if known.valued.contains l.letter then
          if attached then read known (found (String.ofList value)) rest
          else
            match rest with
            | next :: others => read known (found next) others
            | [] => { chosen, wrong := some ("option '--" ++ l.word ++ "' requires an argument") }
        else if attached then
          { chosen, wrong := some ("option '--" ++ l.word ++ "' doesn't allow an argument") }
        else read known (found "") rest
    | '-' :: c :: letters =>
      let (found, result) := known.cluster rest.head? (c :: letters)
      let chosen := { chosen with options := chosen.options ++ found }
      match result, rest with
      | .error text, _ => { chosen, wrong := some text }
      | .ok true, _ :: others => read known chosen others
      | .ok _, rest => read known chosen rest
    | _ =>
      if known.first then done (arg :: rest)
      else read known { chosen with operands := chosen.operands ++ [arg] } rest

/-- The options and operands among arguments, up to what is wrong with them. -/
def parse (known : Switches) (args : List String) : Reading :=
  known.read {} args

end Switches

end Crosscheck.Shell
