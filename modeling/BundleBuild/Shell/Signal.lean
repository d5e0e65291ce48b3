/-
Signals: their numbers, their names, and what a shell says of a process that one of them ended.
-/
import BundleBuild.Shell.Arithmetic

namespace BundleBuild.Shell

/-- The names of the signals from 1 on; a number stands for itself where there is none. -/
def signalNames : List String :=
  ["HUP", "INT", "QUIT", "ILL", "TRAP", "ABRT", "BUS", "FPE", "KILL", "USR1", "SEGV", "USR2", "PIPE",
    "ALRM", "TERM", "16", "CHLD", "CONT", "STOP", "TSTP", "TTIN", "TTOU", "URG", "XCPU", "XFSZ",
    "VTALRM", "PROF", "WINCH", "IO", "PWR", "SYS", "32", "33", "RTMIN", "RTMIN+1", "RTMIN+2",
    "RTMIN+3", "RTMIN+4", "RTMIN+5", "RTMIN+6", "RTMIN+7", "RTMIN+8", "RTMIN+9", "RTMIN+10",
    "RTMIN+11", "RTMIN+12", "RTMIN+13", "RTMIN+14", "RTMIN+15", "RTMAX-14", "RTMAX-13", "RTMAX-12",
    "RTMAX-11", "RTMAX-10", "RTMAX-9", "RTMAX-8", "RTMAX-7", "RTMAX-6", "RTMAX-5", "RTMAX-4",
    "RTMAX-3", "RTMAX-2", "RTMAX-1", "RTMAX"]

def signalName (n : Nat) : String :=
  if n = 0 then "EXIT" else signalNames[n - 1]?.getD (Nat.repr n)

/-- A signal by number or by name, in any case. -/
def signal? (s : String) : Option Nat :=
  if !s.isEmpty && s.toList.all Char.isDigit then
    let n := (readDigits 10 s.toList).1
    if n < 65 then some n else none
  else
    let upper := String.ofList (s.toList.map Char.toUpper)
    if upper == "EXIT" then some 0
    else (signalNames.idxOf? upper).map (· + 1)

/-- Signals that a process passes over unless it has asked for them. -/
def isPassedOver (n : Nat) : Bool :=
  n = 0 || [17, 18, 23, 28].contains n

/-- Signals that only make a process wait. -/
def makesWait (n : Nat) : Bool :=
  [19, 20, 21, 22].contains n

/-- What is said of a process that a signal ended; nothing for the two that are expected. -/
def endedBy? (n : Nat) : Option String :=
  match n with
  | 1 => some "Hangup"
  | 2 => none
  | 3 => some "Quit"
  | 4 => some "Illegal instruction"
  | 5 => some "Trace/breakpoint trap"
  | 6 => some "Aborted"
  | 7 => some "Bus error"
  | 8 => some "Floating point exception"
  | 9 => some "Killed"
  | 10 => some "User defined signal 1"
  | 11 => some "Segmentation fault"
  | 12 => some "User defined signal 2"
  | 13 => none
  | 14 => some "Alarm clock"
  | 15 => some "Terminated"
  | 16 => some "Stack fault"
  | 24 => some "CPU time limit exceeded"
  | 25 => some "File size limit exceeded"
  | 26 => some "Virtual timer expired"
  | 27 => some "Profiling timer expired"
  | 29 => some "I/O possible"
  | 30 => some "Power failure"
  | 31 => some "Bad system call"
  | _ => if 34 ≤ n then some ("Real-time signal " ++ Nat.repr (n - 34)) else
    some ("Unknown signal " ++ Nat.repr n)

end BundleBuild.Shell
