import Marginalia.Text.Basic

/-!
# Signals

The signals by number and name, what they do to a script that does not expect
them, and what is said of a program that one of them ended.
-/

namespace Marginalia.Shell.Signal

/-- The names of the signals from one on; a signal without a name is called by its number. -/
def names : List Text :=
  ["HUP", "INT", "QUIT", "ILL", "TRAP", "ABRT", "BUS", "FPE", "KILL", "USR1", "SEGV", "USR2",
    "PIPE", "ALRM", "TERM", "16", "CHLD", "CONT", "STOP", "TSTP", "TTIN", "TTOU", "URG", "XCPU",
    "XFSZ", "VTALRM", "PROF", "WINCH", "IO", "PWR", "SYS", "32", "33"].map String.toList ++
  ["RTMIN".toList] ++
  (List.range 15).map (fun k => "RTMIN+".toList ++ Text.ofNat (k + 1)) ++
  (List.range 14).map (fun k => "RTMAX-".toList ++ Text.ofNat (14 - k)) ++
  ["RTMAX".toList]

/-- The name of a signal. -/
def name? : Nat → Option Text
  | 0 => none
  | n + 1 => names[n]?

/-- The signal that a text means: its number, or its name in any case. -/
def ofText? (text : Text) : Option Nat :=
  if text ≠ [] && text.all Char.isDigit then
    let n := text.foldl (fun n c => n * 10 + (c.toNat - '0'.toNat)) 0
    if n ≤ names.length then some n else none
  else if text = "EXIT".toList then some 0
  else (names.findIdx? fun name => name == text.map Char.toUpper).map (· + 1)

/-- The signals that do nothing unless they are expected. -/
def isHarmless (signal : Nat) : Bool :=
  [0, 17, 18, 19, 20, 21, 22, 23, 28].contains signal

/-- What is said of a program that a signal ended. -/
def obituary (signal : Nat) : Text :=
  let texts := ["Hangup", "", "Quit", "Illegal instruction", "Trace/breakpoint trap", "Aborted",
    "Bus error", "Floating point exception", "Killed", "User defined signal 1",
    "Segmentation fault", "User defined signal 2", "", "Alarm clock", "Terminated", "Stack fault",
    "Child exited", "Continued", "Stopped (signal)", "Stopped", "Stopped (tty input)",
    "Stopped (tty output)", "Urgent I/O condition", "CPU time limit exceeded",
    "File size limit exceeded", "Virtual timer expired", "Profiling timer expired",
    "Window changed", "I/O possible", "Power failure", "Bad system call"]
  match texts[signal - 1]? with
  | some text => if text = "" then [] else text.toList ++ ['\n']
  | none => "Unknown signal ".toList ++ Text.ofNat signal ++ ['\n']

end Marginalia.Shell.Signal
