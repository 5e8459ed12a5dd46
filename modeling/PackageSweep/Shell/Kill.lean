import PackageSweep.Shell.State

/-!
# Signals between processes

The signals of the system by name and number, and what sending one does. A process that has no
command for a signal is ended by it, unless the signal is one that is ignored by itself.
-/

namespace PackageSweep.Shell

namespace Kill

def names : List String :=
  ["HUP", "INT", "QUIT", "ILL", "TRAP", "ABRT", "BUS", "FPE", "KILL", "USR1", "SEGV", "USR2",
    "PIPE", "ALRM", "TERM", "STKFLT", "CHLD", "CONT", "STOP", "TSTP", "TTIN", "TTOU", "URG",
    "XCPU", "XFSZ", "VTALRM", "PROF", "WINCH", "IO", "PWR", "SYS"]

def upper (cs : List Char) : List Char := cs.map Char.toUpper

/-- The number of a signal that is given by name or number. Zero is no signal. -/
def number? (text : Bytes) : Option Nat :=
  let cs := Utf8.decodeLossy text
  match Text.natural? cs with
  | some n => if n ≤ 64 then some n else none
  | none =>
    let name := String.ofList (upper cs)
    if name = "EXIT" then some 0 else (names.idxOf? name).map (· + 1)

def isHarmless (signal : Nat) : Bool := [0, 17, 18, 19, 20, 21, 22, 23, 28].contains signal

def obituary (signal : Nat) : Option String :=
  match signal with
  | 1 => some "Hangup"
  | 2 => none
  | 3 => some "Quit"
  | 4 => some "Illegal instruction"
  | 5 => some "Trace/breakpoint trap"
  | 6 => some "Aborted"
  | 7 => some "Bus error"
  | 8 => some "Floating point exception"
  | 9 => some "Killed"
  | 10 => some "User defined signal 1"
  | 11 => some "Segmentation fault"
  | 12 => some "User defined signal 2"
  | 13 => none
  | 14 => some "Alarm clock"
  | 15 => some "Terminated"
  | 16 => some "Stack fault"
  | 24 => some "CPU time limit exceeded"
  | 25 => some "File size limit exceeded"
  | 26 => some "Virtual timer expired"
  | 27 => some "Profiling timer expired"
  | 29 => some "I/O possible"
  | 30 => some "Power failure"
  | 31 => some "Bad system call"
  | n => some ("Real-time signal " ++ toString (n - 34))

def send (process signal : Nat) : Act Bool := do
  let s ← get
  if process = s.process ∨ process = s.shell then
    if isHarmless signal then pure true
    else
      match (if process = s.process ∧ signal ≠ 9 then s.traps.lookup signal else none) with
      | some command => do
        if command ≠ [] then set { s with caught := s.caught ++ [command] }
        pure true
      | none => throw (.killed process signal)
  else pure false

end Kill

end PackageSweep.Shell
