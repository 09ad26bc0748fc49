/-!
# Signals

What interrupts and ends processes from outside. A signal is known by its number; the first
thirty-one have names, and each has something that happens to a process that gets it and does not
care for it.
-/

namespace Formulary

/-- A signal, by its number. -/
structure Signal where
  number : Nat
  deriving DecidableEq, Repr, Inhabited

namespace Signal

/-! ### Signals that are asked for by name -/

def hangup : Signal := ⟨1⟩
def interrupt : Signal := ⟨2⟩
def quit : Signal := ⟨3⟩
def kill : Signal := ⟨9⟩
def brokenPipe : Signal := ⟨13⟩
def alarm : Signal := ⟨14⟩
def terminate : Signal := ⟨15⟩
def resume : Signal := ⟨18⟩
def stop : Signal := ⟨19⟩

/-! ### Names -/

/-- The names of the first signals, by their numbers. -/
def names : List String := ["HUP", "INT", "QUIT", "ILL", "TRAP", "ABRT", "BUS", "FPE", "KILL",
  "USR1", "SEGV", "USR2", "PIPE", "ALRM", "TERM", "STKFLT", "CHLD", "CONT", "STOP", "TSTP", "TTIN",
  "TTOU", "URG", "XCPU", "XFSZ", "VTALRM", "PROF", "WINCH", "IO", "PWR", "SYS"]

/-- A signal's name, without its common beginning. -/
def shortName? (s : Signal) : Option String := if s.number = 0 then none else names[s.number - 1]?

/-- What is said of a process that one of the first signals ended. -/
def descriptions : List String := ["Hangup", "Interrupt", "Quit", "Illegal instruction",
  "Trace/breakpoint trap", "Aborted", "Bus error", "Floating point exception", "Killed",
  "User defined signal 1", "Segmentation fault", "User defined signal 2", "Broken pipe",
  "Alarm clock", "Terminated", "Stack fault", "Child exited", "Continued", "Stopped (signal)",
  "Stopped", "Stopped (tty input)", "Stopped (tty output)", "Urgent I/O condition",
  "CPU time limit exceeded", "File size limit exceeded", "Virtual timer expired",
  "Profiling timer expired", "Window changed", "I/O possible", "Power failure", "Bad system call"]

/-- The first signal that programs may use as they like. -/
def firstFree : Nat := 34

def last : Nat := 64

def description (s : Signal) : String :=
  match descriptions[s.number - 1]? with
  | some text => text
  | none =>
    if s.number < firstFree then "Unknown signal " ++ toString s.number
    else "Real-time signal " ++ toString (s.number - firstFree)

def display (s : Signal) : String :=
  toString s.number ++ (s.shortName?.map fun name => " (SIG" ++ name ++ ")").getD ""

/-! ### Effects -/

/-- What happens to a process that gets a signal and does not care for it. -/
inductive Effect where
  | ends
  | stops
  | goesOn
  | nothing
  deriving DecidableEq, Repr

/-- What a signal does to a process that does not care for it. -/
def effect (s : Signal) : Effect :=
  if s = resume then .goesOn
  else if [19, 20, 21, 22].contains s.number then .stops
  else if [17, 23, 28].contains s.number then .nothing
  else .ends

/-- No process can ignore the signal, or do something else at it. -/
def isStrict (s : Signal) : Bool := s = kill || s = stop

end Signal

end Formulary
