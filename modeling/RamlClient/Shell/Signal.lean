import RamlClient.Text.Segment
/-!
# Signals

A signal has a number and a name, and what ends by one is reported with a few words.
-/

namespace RamlClient.Shell

/-- The names of the signals by their numbers. -/
def signalNames : List (Nat × String) :=
  [(1, "HUP"), (2, "INT"), (3, "QUIT"), (4, "ILL"), (5, "TRAP"), (6, "ABRT"), (7, "BUS"),
   (8, "FPE"), (9, "KILL"), (10, "USR1"), (11, "SEGV"), (12, "USR2"), (13, "PIPE"), (14, "ALRM"),
   (15, "TERM"), (16, "STKFLT"), (17, "CHLD"), (18, "CONT"), (19, "STOP"), (20, "TSTP"),
   (21, "TTIN"), (22, "TTOU"), (23, "URG"), (24, "XCPU"), (25, "XFSZ"), (26, "VTALRM"),
   (27, "PROF"), (28, "WINCH"), (29, "IO"), (30, "PWR"), (31, "SYS")]

/-- The report about what has ended by a signal. -/
def signalReport (signal : Nat) : String :=
  match signal with
  | 1 => "Hangup"
  | 3 => "Quit"
  | 4 => "Illegal instruction"
  | 5 => "Trace/breakpoint trap"
  | 6 => "Aborted"
  | 7 => "Bus error"
  | 8 => "Floating point exception"
  | 9 => "Killed"
  | 10 => "User defined signal 1"
  | 11 => "Segmentation fault"
  | 12 => "User defined signal 2"
  | 14 => "Alarm clock"
  | 15 => "Terminated"
  | n => "Signal " ++ toString n

/-- Whether a signal is no reason to end. -/
def isHarmless (signal : Nat) : Bool := [0, 17, 18, 19, 20, 21, 22, 23, 28].contains signal

/-- The signal of a number or a name, with or without its first letters. -/
def signalOf? (s : String) : Option Nat :=
  match s.toNat? with
  | some n => if n ≤ 64 then some n else none
  | none =>
    let name := Text.upper s
    let name := if Text.startsWith name "SIG" then String.ofList (name.toList.drop 3) else name
    if name = "EXIT" then some 0
    else (signalNames.find? (·.2 == name)).map (·.1)

/-- The name of a signal; the end of a process counts as one. -/
def signalName (signal : Nat) : String :=
  if signal = 0 then "EXIT"
  else ((signalNames.find? (·.1 == signal)).map (·.2)).getD (toString signal)

end RamlClient.Shell
