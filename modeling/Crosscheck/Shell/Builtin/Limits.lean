import Crosscheck.Shell.Builtin

/-! # The command about limits -/

namespace Crosscheck.Shell.Builtin

open Act

/-- The number that stands for no limit. Numbers are taken modulo the one after it. -/
def noLimit : Nat := UInt64.size - 1

/-- The limit that a word gives for a resource. -/
def limitOf? (resource : Resource) (word : String) : Option (Option Nat) :=
  if word = "unlimited" then some none
  else if word.toList.all Char.isDigit then
    let number := word.toList.foldl (fun n c => n * 10 + (c.toNat - 48)) 0
    let value := number * resource.unit % UInt64.size
    some (if value = noLimit then none else some value)
  else none

def limitText (resource : Resource) (value : Option Nat) : String :=
  value.elim "unlimited" fun n => toString (n / resource.unit)

def ulimit (args : List String) : Act Nat := do
  let (letters, words) ← options ('H' :: 'S' :: 'a' :: Resource.all.map Resource.letter) [] args
  let letters := letters.map Prod.fst
  let kind := (letters.filter fun c => c == 'H' || c == 'S').getLast?
  let resource := (letters.filterMap fun c => Resource.all.find? (·.letter == c)).getLastD .fileSize
  let all := letters.contains 'a'
  let k ← kernel
  let limits := (k.entry? k.self).elim {} (·.limits)
  let told (resource : Resource) : String :=
    let limit := limits.get resource
    limitText resource (if kind == some 'H' then limit.bound else limit.value) ++ "\n"
  match words with
  | [] =>
    if all then
      let lines := Resource.all.map fun resource =>
        let title := resource.title
        title ++ String.ofList (List.replicate (20 - title.length) ' ') ++ " " ++ told resource
      emit 0 (String.join lines).toList
    else emit 0 (told resource).toList
  | word :: rest =>
    if all || !rest.isEmpty then giveUp "too many arguments"
    match limitOf? resource word with
    | none => giveUp "bad number"
    | some value =>
      let old := limits.get resource
      let new : Limit :=
        { value := if kind == some 'H' then old.value else value
          bound := if kind == some 'S' then old.bound else value }
      match old.replace new with
      | .error reason => giveUp ("error setting limit (" ++ reason ++ ")")
      | .ok limit =>
        change fun k => k.updateSelf fun e => { e with limits := e.limits.set resource limit }
        return 0

end Crosscheck.Shell.Builtin
