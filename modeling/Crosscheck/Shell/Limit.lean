/-! # Limits

What a process may use of the machine. A limit can be lowered at will, and raised again only up to a
second one, its bound, which cannot be raised.
-/

namespace Crosscheck.Shell

/-- What a limit is about. -/
inductive Resource where
  | time
  | fileSize
  | data
  | stack
  | dump
  | memory
  | locked
  | processes
  | descriptors
  | space
  | locks
  | priority
  deriving DecidableEq, Repr

/-- A limit and its bound, in the units of the system. None means that there is none. -/
structure Limit where
  value : Option Nat := none
  bound : Option Nat := none
  deriving DecidableEq, Repr

namespace Resource

/-- All resources, in the order in which they are told. -/
def all : List Resource :=
  [time, fileSize, data, stack, dump, memory, locked, processes, descriptors, space, locks, priority]

/-- The letter by which a resource is chosen. -/
def letter : Resource → Char
  | time => 't'
  | fileSize => 'f'
  | data => 'd'
  | stack => 's'
  | dump => 'c'
  | memory => 'm'
  | locked => 'l'
  | processes => 'p'
  | descriptors => 'n'
  | space => 'v'
  | locks => 'w'
  | priority => 'r'

def title : Resource → String
  | time => "time(seconds)"
  | fileSize => "file(blocks)"
  | data => "data(kbytes)"
  | stack => "stack(kbytes)"
  | dump => "coredump(blocks)"
  | memory => "memory(kbytes)"
  | locked => "locked memory(kbytes)"
  | processes => "process"
  | descriptors => "nofiles"
  | space => "vmemory(kbytes)"
  | locks => "locks"
  | priority => "rtprio"

/-- How many units of the system are one of those in which a limit is told. -/
def unit : Resource → Nat
  | fileSize | dump => 512
  | data | stack | memory | locked | space => 1024
  | time | processes | descriptors | locks | priority => 1

/-- The limit that processes start with. -/
def usual : Resource → Limit
  | stack => ⟨some 8388608, none⟩
  | dump => ⟨some 0, none⟩
  | locked => ⟨some 8388608, some 8388608⟩
  | processes => ⟨some 128597, some 128597⟩
  | descriptors => ⟨some 20000, some 20000⟩
  | priority => ⟨some 0, some 0⟩
  | time | fileSize | data | memory | space | locks => {}

end Resource

namespace Limit

/-- Whether a value is within a limit. -/
def allows (limit : Option Nat) (value : Option Nat) : Bool :=
  match limit, value with
  | none, _ => true
  | some _, none => false
  | some most, some value => value ≤ most

/-- Puts another limit in place of one, or tells why that cannot be done. -/
def replace (old new : Limit) : Except String Limit :=
  if !allows new.bound new.value then .error "Invalid argument"
  else if !allows old.bound new.bound then .error "Operation not permitted"
  else .ok new

end Limit

/-- The limits of a process: those that are not the usual ones. -/
structure Limits where
  changed : List (Resource × Limit) := []

namespace Limits

def get (limits : Limits) (resource : Resource) : Limit :=
  (limits.changed.lookup resource).getD resource.usual

def set (limits : Limits) (resource : Resource) (limit : Limit) : Limits :=
  ⟨(resource, limit) :: limits.changed.filter (·.1 != resource)⟩

end Limits

end Crosscheck.Shell
