/-!
# Ensemble.Shell.Signal

The **signals** that a process can be sent, by number and name, and what is said of a process that
one of them has ended.
-/

namespace Ensemble.Shell

/-- The number of the last signal. -/
def lastSignal : Nat := 64

/-- The number of the first signal that means nothing of its own. -/
def firstRealTime : Nat := 34

/-- The signals that have names of their own. -/
def signals : List (String × Nat) :=
  [("HUP", 1), ("INT", 2), ("QUIT", 3), ("ILL", 4), ("TRAP", 5), ("ABRT", 6), ("BUS", 7),
    ("FPE", 8), ("KILL", 9), ("USR1", 10), ("SEGV", 11), ("USR2", 12), ("PIPE", 13), ("ALRM", 14),
    ("TERM", 15), ("CHLD", 17), ("CONT", 18), ("STOP", 19), ("TSTP", 20), ("TTIN", 21),
    ("TTOU", 22), ("URG", 23), ("XCPU", 24), ("XFSZ", 25), ("VTALRM", 26), ("PROF", 27),
    ("WINCH", 28), ("IO", 29), ("PWR", 30), ("SYS", 31), ("RTMIN", firstRealTime),
    ("RTMAX", lastSignal)]

/-- The name of a signal; those between the first and the last that mean nothing of their own are
told by how far they are from the nearer one of the two. -/
def signalName (n : Nat) : String :=
  match signals.find? fun (_, m) => m == n with
  | some (name, _) => name
  | none =>
    if n < firstRealTime || lastSignal < n then toString n
    else if n - firstRealTime ≤ lastSignal - n then "RTMIN+" ++ toString (n - firstRealTime)
    else "RTMAX-" ++ toString (lastSignal - n)

/-- The signal of a name or number. The one with number 0 is the end of the shell. -/
def signalOf? (s : String) : Option Nat :=
  match s.toNat? with
  | some n => if n ≤ lastSignal then some n else none
  | none =>
    let upper := s.toUpper
    if upper = "EXIT" then some 0
    else ((List.range lastSignal).map (· + 1)).find? fun n => signalName n == upper

namespace Event

/-- The numbers of what is no signal, but can be waited for like one. -/
def beforeCommands : Nat := lastSignal + 1

def onFailure : Nat := lastSignal + 2

def onReturn : Nat := lastSignal + 3

end Event

/-- What is said of a process that a signal has ended; of some nothing is said. -/
def deathNotice (n : Nat) : Option String :=
  match n with
  | 1 => some "Hangup"
  | 2 => none
  | 3 => some "Quit"
  | 4 => some "Illegal instruction"
  | 5 => some "Trace/breakpoint trap"
  | 6 => some "Aborted"
  | 7 => some "Bus error"
  | 8 => some "Floating point exception"
  | 9 => some "Killed"
  | 10 => some "User defined signal 1"
  | 11 => some "Segmentation fault"
  | 12 => some "User defined signal 2"
  | 13 => none
  | 14 => some "Alarm clock"
  | 15 => some "Terminated"
  | 16 => some "Stack fault"
  | 24 => some "CPU time limit exceeded"
  | 25 => some "File size limit exceeded"
  | 26 => some "Virtual timer expired"
  | 27 => some "Profiling timer expired"
  | 29 => some "I/O possible"
  | 30 => some "Power failure"
  | 31 => some "Bad system call"
  | n => some ("Real-time signal " ++ toString (n - firstRealTime))

end Ensemble.Shell
