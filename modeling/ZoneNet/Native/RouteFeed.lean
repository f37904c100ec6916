import ZoneNet.Boot.Error
import ZoneNet.Native.Program
import ZoneNet.Text.Line
import ZoneNet.Text.PathJoin

/-!
# The static route feed

A program prints one route a line, and each is installed as it is read. The first line that cannot
be applied ends the feed; if every line could, the program must also have succeeded. What there is
to tell is told on the way, to a channel that may keep it or not.
-/

namespace ZoneNet

open Text

/-- A line whose flag asks for something that there is not. -/
structure OddFlag where
  line : String
  flag : String
  deriving DecidableEq, Repr

/-- What reading a feed tells as it goes along. -/
inductive FeedNote where
  | oddFlag (odd : OddFlag)
  /-- The route of a line was installed. -/
  | installed (route : RouteRequest)
  deriving DecidableEq, Repr

def LogEntry.noFeed (path : String) : LogEntry :=
  make .debug .programs "no static route feed" [("path", .text path)]

/-- What reading a feed has done so far. -/
structure FeedProgress (σ : Type) where
  channel : σ
  installed : Nat := 0
  /-- What was told, in order. -/
  notes : List FeedNote := []

namespace RouteFeed

variable {σ : Type}

/-- How much of the feed's standard error is kept for a message. -/
def stderrLimit : Nat := 512

/-- The odd flag of a line, if the line describes a route. -/
def oddFlag? (line : String) : Option OddFlag :=
  match FeedLine.parse line with
  | .ok l => if l.isNextHop then none else some ⟨line, l.flag⟩
  | .error _ => none

/-- The text of a line, which must be UTF-8. The end of the line goes first, so a sequence that the
line feed breaks off is one that the text ends in. -/
def lineText (bytes : List UInt8) : Except BootError String :=
  match Utf8.decode (dropEnd 10 13 bytes) with
  | .ok cs => .ok (String.ofList cs)
  | .error fault => .error (.io (.badText fault))

/-- Tells a note and keeps it. -/
def note (tell : FeedNote → σ → σ) (n : FeedNote) (p : FeedProgress σ) : FeedProgress σ :=
  { p with channel := tell n p.channel, notes := p.notes ++ [n] }

/-- Tells of an odd flag, if the line has one. -/
def noteFlag (tell : FeedNote → σ → σ) (line : String) (p : FeedProgress σ) : FeedProgress σ :=
  match oddFlag? line with
  | some o => note tell (.oddFlag o) p
  | none => p

/-- Applies one line. -/
def takeLine (ch : RouteChannel σ) (tell : FeedNote → σ → σ) (bytes : List UInt8)
    (p : FeedProgress σ) : Outcome BootError Unit (FeedProgress σ) :=
  match lineText bytes with
  | .error e => (.error e, p)
  | .ok line =>
    let p := noteFlag tell line p
    match applyFeedLine ch line p.channel with
    | (.error e, s) => (.error (.feedLine e), { p with channel := s })
    | (.ok l, s) =>
      let p := { p with channel := s, installed := p.installed + 1 }
      (.ok (), note tell (.installed l.request) p)

/-- Applies the lines of a feed in order. -/
def takeLines (ch : RouteChannel σ) (tell : FeedNote → σ → σ) (stdout : List UInt8)
    (p : FeedProgress σ) : Outcome BootError Unit (FeedProgress σ) :=
  Outcome.each (takeLine ch tell) (terminated 10 stdout) p

/-- The part of the standard error that goes into a message. -/
def stderrText (stderr : List UInt8) : String :=
  String.ofList (trimmedText (stderr.take stderrLimit))

/-- What a feed that has run comes to: the number of routes installed. -/
def conclude (ch : RouteChannel σ) (tell : FeedNote → σ → σ) (path : String) (c : Completion)
    (p : FeedProgress σ) : Outcome BootError Nat (FeedProgress σ) :=
  (takeLines ch tell c.stdout p).andThen fun _ p =>
    if c.ending.isSuccess then (.ok p.installed, p)
    else
      (.error (.feed (path ++ " " ++ c.ending.phrase ++ ": " ++ stderrText c.stderr)), p)

def command (path : String) : Command := { path, environment := .only [] }

def pathIn (root : String) : String := joinPath root "usr/lib/brand/lx/routeinfo"

/-- Runs the feed's program, if there is such a file. -/
def begin? (h : Host) (path : String) (w : World) : Outcome BootError (Option Completion) World :=
  match h.node path with
  | some .file =>
    match World.run h (command path) w with
    | (.error e, w) => (.error (.feed (path ++ ": " ++ e.message)), w)
    | (.ok c, w) => (.ok (some c), w)
  | _ => (.ok none, w.tell [.noFeed path])

end RouteFeed

end ZoneNet
