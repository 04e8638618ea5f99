import Crosscheck.Number.Reading

/-! # Signals -/

namespace Crosscheck.Shell.Signal

def names : List (String × Nat) :=
  [("HUP", 1), ("INT", 2), ("QUIT", 3), ("ILL", 4), ("TRAP", 5), ("ABRT", 6), ("BUS", 7), ("FPE", 8),
    ("KILL", 9), ("USR1", 10), ("SEGV", 11), ("USR2", 12), ("PIPE", 13), ("ALRM", 14), ("TERM", 15),
    ("STKFLT", 16), ("CHLD", 17), ("CONT", 18), ("STOP", 19), ("TSTP", 20), ("TTIN", 21),
    ("TTOU", 22), ("URG", 23), ("XCPU", 24), ("XFSZ", 25), ("VTALRM", 26), ("PROF", 27),
    ("WINCH", 28), ("IO", 29), ("PWR", 30), ("SYS", 31), ("RTMIN", 34), ("RTMIN+1", 35),
    ("RTMIN+2", 36), ("RTMIN+3", 37), ("RTMIN+4", 38), ("RTMIN+5", 39), ("RTMIN+6", 40),
    ("RTMIN+7", 41), ("RTMIN+8", 42), ("RTMIN+9", 43), ("RTMIN+10", 44), ("RTMIN+11", 45),
    ("RTMIN+12", 46), ("RTMIN+13", 47), ("RTMIN+14", 48), ("RTMIN+15", 49), ("RTMAX-14", 50),
    ("RTMAX-13", 51), ("RTMAX-12", 52), ("RTMAX-11", 53), ("RTMAX-10", 54), ("RTMAX-9", 55),
    ("RTMAX-8", 56), ("RTMAX-7", 57), ("RTMAX-6", 58), ("RTMAX-5", 59), ("RTMAX-4", 60),
    ("RTMAX-3", 61), ("RTMAX-2", 62), ("RTMAX-1", 63), ("RTMAX", 64)]

/-- The name of a signal; those without one go by their number. -/
def name (signal : Nat) : String :=
  match names.find? (·.2 == signal) with
  | some (name, _) => name
  | none => toString signal

/-- What is said of a process that a signal has killed. -/
def describe (signal : Nat) : String :=
  match signal with
  | 1 => "Hangup"
  | 2 => "Interrupt"
  | 3 => "Quit"
  | 4 => "Illegal instruction"
  | 5 => "Trace/breakpoint trap"
  | 6 => "Aborted"
  | 7 => "Bus error"
  | 8 => "Floating point exception"
  | 9 => "Killed"
  | 10 => "User defined signal 1"
  | 11 => "Segmentation fault"
  | 12 => "User defined signal 2"
  | 13 => "Broken pipe"
  | 14 => "Alarm clock"
  | 15 => "Terminated"
  | 16 => "Stack fault"
  | 17 => "Child exited"
  | 18 => "Continued"
  | 19 => "Stopped (signal)"
  | 20 => "Stopped"
  | 21 => "Stopped (tty input)"
  | 22 => "Stopped (tty output)"
  | 23 => "Urgent I/O condition"
  | 24 => "CPU time limit exceeded"
  | 25 => "File size limit exceeded"
  | 26 => "Virtual timer expired"
  | 27 => "Profiling timer expired"
  | 28 => "Window changed"
  | 29 => "I/O possible"
  | 30 => "Power failure"
  | 31 => "Bad system call"
  | signal =>
    if 34 ≤ signal && signal ≤ 64 then "Real-time signal " ++ toString (signal - 34)
    else "Unknown signal " ++ toString signal

/-- Signals that do nothing unless something is arranged for them. -/
def isHarmless (signal : Nat) : Bool :=
  [17, 18, 23, 28].contains signal

/-- Signals that make a process stand still. -/
def isStop (signal : Nat) : Bool :=
  [19, 20, 21, 22].contains signal

def int : Nat := 2

def quit : Nat := 3

def kill : Nat := 9

def segv : Nat := 11

def pipe : Nat := 13

def term : Nat := 15

def child : Nat := 17

def cont : Nat := 18

def stop : Nat := 19

def time : Nat := 24

def fileSize : Nat := 25

end Crosscheck.Shell.Signal
