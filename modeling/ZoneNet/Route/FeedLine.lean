import ZoneNet.Route.Install

/-!
# Lines of the static route feed

A line reads `gateway|network/bits|flag`. It is scanned character by character; the scanner is in
one of four stages, and each stage but the last ends at its own delimiter. The flag is all that
remains, delimiters included.
-/

namespace ZoneNet

open Text

/-- What the scanner collects. -/
inductive ScanStage where
  | gateway
  | network
  | bits
  | flag
  deriving DecidableEq, Repr

namespace ScanStage

/-- The character that ends a stage. -/
def delimiter : ScanStage → Option Char
  | gateway => some '|'
  | network => some '/'
  | bits => some '|'
  | flag => none

/-- The name by which a message calls a stage. -/
def name : ScanStage → String
  | gateway => "CollectGateway"
  | network => "CollectDestination"
  | bits => "CollectPrefix"
  | flag => "CollectFlag"

end ScanStage

/-- Why a line describes no route. -/
inductive ParseError where
  /-- The line ended before the delimiter of a stage. -/
  | missingDelimiter (line : String) (stage : ScanStage) (delimiter : Char)
  | badGateway (line value : String)
  | badNetwork (line value : String)
  | badBits (line : String) (value : Int)
  deriving DecidableEq, Repr

namespace ParseError

def message : ParseError → String
  | missingDelimiter line stage delimiter =>
    "static route '" ++ line ++ "': missing '" ++ String.ofList [delimiter] ++ "' after "
      ++ stage.name
  | badGateway line value => "static route '" ++ line ++ "': bad gateway '" ++ value ++ "'"
  | badNetwork line value =>
    "static route '" ++ line ++ "': bad destination network '" ++ value ++ "'"
  | badBits line value =>
    "static route '" ++ line ++ "': bad prefix length " ++ toString value

end ParseError

/-- A line that describes a route. -/
structure FeedLine where
  request : RouteRequest
  flag : String
  deriving DecidableEq, Repr

/-- Whether a line asks for a route through a next hop, the only kind there is. -/
def FeedLine.isNextHop (l : FeedLine) : Bool := l.flag == "false"

/-! ## Scanning -/

/-- The stage, the characters collected in it (last first), and the fields before it. -/
structure Scan where
  stage : ScanStage := .gateway
  buffer : List Char := []
  gateway : List Char := []
  network : List Char := []
  bits : List Char := []

namespace Scan

def start : Scan := {}

/-- The text of the stage so far. -/
def field (s : Scan) : List Char := s.buffer.reverse

/-- One character more: a delimiter closes its stage, all else is collected. -/
def step (s : Scan) (c : Char) : Scan :=
  if s.stage.delimiter = some c then
    match s.stage with
    | .gateway => { s with stage := .network, buffer := [], gateway := s.field }
    | .network => { s with stage := .bits, buffer := [], network := s.field }
    | .bits => { s with stage := .flag, buffer := [], bits := s.field }
    | .flag => s
  else { s with buffer := c :: s.buffer }

/-- The fields of a line. -/
def ofLine (l : List Char) : Scan := l.foldl step start

end Scan

namespace FeedLine

/-- A prefix length of at most 32. -/
def bits? (n : Int) : Option UInt8 :=
  if 0 ≤ n ∧ n ≤ 32 then some (UInt8.ofNat n.toNat) else none

/-- The route that scanned fields describe. Of several faults the first in the line is told. -/
def ofScan (line : String) (s : Scan) : Except ParseError FeedLine :=
  match s.stage.delimiter with
  | some d => .error (.missingDelimiter line s.stage d)
  | none =>
    match IPv4.ofText? s.gateway with
    | none => .error (.badGateway line (String.ofList s.gateway))
    | some gateway =>
      match IPv4.ofText? s.network with
      | none => .error (.badNetwork line (String.ofList s.network))
      | some network =>
        match bits? (Decimal.lenient s.bits) with
        | none => .error (.badBits line (Decimal.lenient s.bits))
        | some bits => .ok ⟨.networkVia network bits gateway, String.ofList s.field⟩

/-- Reads one line. -/
def parse (line : String) : Except ParseError FeedLine := ofScan line (Scan.ofLine line.toList)

end FeedLine

/-! ## Applying -/

/-- Why a line of the feed could not be applied. -/
inductive FeedLineError where
  | parse (error : ParseError)
  | install (route : RouteRequest) (cause : RouteError)
  deriving DecidableEq, Repr

namespace FeedLineError

def message : FeedLineError → String
  | parse error => error.message
  | install route cause => "failed to add route " ++ route.text ++ ": " ++ cause.message

def causes : FeedLineError → List String
  | parse _ => []
  | install _ cause => cause.message :: cause.causes

end FeedLineError

/-- Installs the route that a line describes. The flag makes no difference to that: a route that is
no next-hop route is installed as one. -/
def applyFeedLine {σ : Type} (ch : RouteChannel σ) (line : String) (s : σ) :
    Outcome FeedLineError FeedLine σ :=
  match FeedLine.parse line with
  | .error e => (.error (.parse e), s)
  | .ok l =>
    match installRoute ch l.request s with
    | (.error e, s) => (.error (.install l.request e), s)
    | (.ok (), s) => (.ok l, s)

end ZoneNet
