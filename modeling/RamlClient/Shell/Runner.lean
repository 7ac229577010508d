import RamlClient.Shell.Expansion
import RamlClient.Shell.Signal
/-!
# Runners

The built-in commands and the tools that run other commands are given a runner, which knows how to.
-/

namespace RamlClient.Shell

open Text (ByteText)
open Running

/-- Reports what has ended by a signal, unless it is one of the usual ends. -/
def reportEnd (signal : Nat) : Running Unit :=
  if signal = 2 || signal = 13 then pure ()
  else printError (signalReport signal ++ "\n")

/-- What can run commands. -/
structure Runner where
  /-- Runs a command of a script. -/
  command : Command → Running Unit
  /-- Runs the commands of a script. -/
  source : ByteText → Running Unit
  /-- Runs a program in the place of the process, and gives the exit code unless the program cannot
  be started. -/
  program : List ByteText → Running (Except FaultKind Nat)

/-- The runner that runs nothing. -/
def Runner.none : Runner where
  command _ := throw .lost
  source _ := throw .lost
  program _ := throw .lost

/-- A tool: it is given the name that it is run by and its arguments, and gives the exit code. -/
abbrev Tool := Runner → ByteText → List ByteText → Running Nat

namespace Builtin

/-- A built-in command: it is given its arguments and gives the exit code. -/
abbrev Action := Runner → List ByteText → Running Nat

/-- The command fails with a report. -/
def refuse (report : ByteText) : Running Nat := do
  match (← own).dialect with
  | .plain => fail report
  | .extended => do
    complain report
    pure 1

/-- The largest number that is read. -/
def maxNumber : Nat := 2147483647

/-- The number that an argument is. -/
def numberOf? (s : ByteText) : Option Nat :=
  let cs := s.toList
  if cs.isEmpty || !cs.all Char.isDigit then Option.none
  else
    let n := Reading.numberOf 10 cs
    if n ≤ maxNumber then some n else Option.none

/-- The number that an argument has to be. The process ends if it is none. -/
def number (s : ByteText) : Running Nat := do
  match numberOf? s with
  | some n => pure n
  | Option.none =>
    match (← own).dialect with
    | .plain => fail ("Illegal number: " ++ s)
    | .extended => fail (s ++ ": numeric argument required")

/-- The letters of the options at the start of the arguments, and the other arguments. Two hyphens
end the options. `valued` holds the letters of the options with values; it is an error if a letter
is not known. -/
def options (known valued : List Char) :
    List ByteText → Except Char (List (Char × ByteText) × List ByteText)
  | [] => .ok ([], [])
  | a :: r =>
    match a.toList with
    | ['-', '-'] => .ok ([], r)
    | '-' :: c :: cs =>
      let rec letters : List Char → Except Char (List (Char × Option ByteText))
        | [] => .ok []
        | d :: ds =>
          if valued.contains d then
            .ok [(d, if ds.isEmpty then Option.none else some (String.ofList ds))]
          else if known.contains d then (letters ds).map ((d, some "") :: ·)
          else .error d
      match letters (c :: cs) with
      | .error d => .error d
      | .ok ls =>
        match ls.getLast?, r with
        | some (d, Option.none), v :: rest =>
          (options known valued rest).map fun (os, args) =>
            (ls.dropLast.map (fun l => (l.1, l.2.getD "")) ++ (d, v) :: os, args)
        | some (d, Option.none), [] => .error d
        | _, r =>
          (options known valued r).map fun (os, args) =>
            (ls.map (fun l => (l.1, l.2.getD "")) ++ os, args)
    | _ => .ok ([], a :: r)

/-- Goes on with options, or fails because one is not known. -/
def withOptions (known valued : List Char) (args : List ByteText)
    (use : List (Char × ByteText) → List ByteText → Running Nat) : Running Nat := do
  match options known valued args with
  | .ok (os, rest) => use os rest
  | .error c => refuse ("Illegal option -" ++ String.ofList [c])

/-- Whether a letter is among options. -/
def hasLetter (os : List (Char × ByteText)) (c : Char) : Bool := os.any (·.1 == c)

/-- The rest of a text after the single quote before it: runs of single quotes stand between double
quotes, and all else between single ones. -/
def quotedRest : Bool → List Char → List Char
  | true, [] => ['\x22']
  | false, [] => ['\x27']
  | true, c :: r =>
    if c = '\x27' then c :: quotedRest true r else '\x22' :: '\x27' :: c :: quotedRest false r
  | false, c :: r =>
    if c = '\x27' then '\x27' :: '\x22' :: c :: quotedRest true r else c :: quotedRest false r

/-- A text between quotes, as the shell reads it. -/
def quoted (s : ByteText) : ByteText := String.ofList ('\x27' :: quotedRest false s.toList)

end Builtin

end RamlClient.Shell
