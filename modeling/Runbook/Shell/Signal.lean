import Runbook.Number.Decimal

/-!
# Signals

The signals that processes send each other, and what a script does when one arrives.

* `Signal.name` and `Signal.ofText?` go between the numbers of signals and their names;
* `Traps` holds what a script does on which signals, in the order of their numbers; the end of the
  script counts as the signal of number zero.
-/

namespace Runbook.Shell

/-- The number of a signal. -/
abbrev Signal := Nat

namespace Signal

/-- The end of the script. -/
def atEnd : Signal := 0

/-- The signal that is sent if none is named. -/
def usual : Signal := 15

/-- The signals with names of their own; a few numbers have none. -/
def names : List String :=
  ["EXIT", "HUP", "INT", "QUIT", "ILL", "TRAP", "ABRT", "BUS", "FPE", "KILL", "USR1", "SEGV", "USR2",
    "PIPE", "ALRM", "TERM", "16", "CHLD", "CONT", "STOP", "TSTP", "TTIN", "TTOU", "URG", "XCPU",
    "XFSZ", "VTALRM", "PROF", "WINCH", "IO", "PWR", "SYS", "32", "33"]

/-- The first and the last of the signals that programs can use as they like. -/
def firstFree : Signal := 34

/-- The last signal. -/
def last : Signal := 64

/-- What a signal is called. -/
def name (signal : Signal) : String :=
  match names[signal]? with
  | some name => name
  | none =>
    if signal = firstFree then "RTMIN"
    else if signal = last then "RTMAX"
    else if signal < firstFree + 16 then s!"RTMIN+{signal - firstFree}"
    else s!"RTMAX-{last - signal}"

/-- A text in capital letters. -/
def capitals (text : String) : String := String.ofList (text.toList.map Char.toUpper)

/-- The signal that a number or a name stands for; the names of the signals below `least` do not
count. -/
def ofText? (least : Signal) (text : String) : Option Signal :=
  match Decimal.readNat? text.toList with
  | some n => if n ≤ last then some n else none
  | none => (List.range (last + 1)).find? (fun n => least ≤ n && name n == capitals text)

/-- Whether a signal does nothing to a process that has not asked for it. -/
def isHarmless (signal : Signal) : Bool := [0, 17, 18, 23, 28].contains signal

/-- Whether a process can do nothing about a signal. -/
def isFinal (signal : Signal) : Bool := signal = 9

/-- What a shell writes when a signal has ended a program; nothing for some. -/
def endText? (signal : Signal) : Option String :=
  match signal with
  | 1 => some "Hangup"
  | 2 | 13 => none
  | 3 => some "Quit"
  | 4 => some "Illegal instruction"
  | 5 => some "Trace/breakpoint trap"
  | 6 => some "Aborted"
  | 7 => some "Bus error"
  | 8 => some "Floating point exception"
  | 9 => some "Killed"
  | 10 => some "User defined signal 1"
  | 11 => some "Segmentation fault"
  | 12 => some "User defined signal 2"
  | 14 => some "Alarm clock"
  | 15 => some "Terminated"
  | 16 => some "Stack fault"
  | 24 => some "CPU time limit exceeded"
  | 25 => some "File size limit exceeded"
  | 26 => some "Virtual timer expired"
  | 27 => some "Profiling timer expired"
  | 29 => some "I/O possible"
  | 30 => some "Power failure"
  | 31 => some "Bad system call"
  | n => if firstFree ≤ n then some s!"Real-time signal {n - firstFree}" else none

end Signal

/-- What a script does on which signals, the lowest first; an empty text does nothing. -/
abbrev Traps := List (Signal × String)

namespace Traps

/-- What is done on a signal. -/
def action? (traps : Traps) (signal : Signal) : Option String :=
  (traps.find? (fun (n, _) => n == signal)).map (·.2)

/-- Sets what is done on a signal, or makes it the usual again. -/
def set (traps : Traps) (signal : Signal) (action : Option String) : Traps :=
  let others := traps.filter (fun (n, _) => n != signal)
  match action with
  | none => others
  | some text =>
    others.takeWhile (fun (n, _) => n < signal) ++
      (signal, text) :: others.dropWhile (fun (n, _) => n < signal)

/-- What a process of its own does on signals: it goes on ignoring those that were ignored. -/
def forChild (traps : Traps) : Traps := traps.filter (fun (_, text) => text.isEmpty)

end Traps

end Runbook.Shell
