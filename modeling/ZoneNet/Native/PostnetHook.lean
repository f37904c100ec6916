import ZoneNet.Boot.Error
import ZoneNet.Native.Program
import ZoneNet.Text.Line
import ZoneNet.Text.PathJoin

/-!
# The hook after network setup

A program that is run once networking is up. It may be absent or not executable; if it runs, it
must succeed. What it prints is logged line by line.
-/

namespace ZoneNet

open Text

/-! ## What is told -/

namespace LogEntry

def noHook (path : String) : LogEntry :=
  make .debug .programs "no post-network hook" [("path", .text path)]

def hookNotExecutable (path : String) : LogEntry :=
  make .debug .programs "post-network hook not executable" [("path", .text path)]

/-- A line that the hook printed. -/
def hookLine (line : String) : LogEntry := make .info .programs line [("hook", .word "postnet")]

end LogEntry

namespace PostnetHook

def pathIn (root : String) : String := joinPath root "usr/lib/brand/lx/lx_hook_postnet"

def command (path : String) : Command := { path, environment := .only [] }

/-- What a hook printed: its standard output, then its standard error. -/
def output (c : Completion) : List Char := Utf8.decodeLossy c.stdout ++ Utf8.decodeLossy c.stderr

/-- The lines that go to the log; empty ones do not. -/
def logLines (c : Completion) : List String :=
  ((lines (output c)).filter (· ≠ [])).map String.ofList

/-- Whether a hook that has run has succeeded. -/
def verdict (path : String) (c : Completion) : Except BootError Unit :=
  if c.ending.isSuccess then .ok ()
  else
    .error (.hook (path ++ " " ++ c.ending.phrase ++ ": " ++ String.ofList (trim (output c))))

/-- Runs the hook and tells the lines that it printed. -/
def run (h : Host) (path : String) (w : World) : Outcome BootError Unit World :=
  match h.node path with
  | none => (.ok (), w.tell [.noHook path])
  | some _ =>
    match World.run h (command path) w with
    | (.error .permissionDenied, w) => (.ok (), w.tell [.hookNotExecutable path])
    | (.error e, w) => (.error (.hook (path ++ ": " ++ e.message)), w)
    | (.ok c, w) => (verdict path c, w.tell ((logLines c).map .hookLine))

end PostnetHook

end ZoneNet
