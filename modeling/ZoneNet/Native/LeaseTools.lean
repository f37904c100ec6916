import ZoneNet.Facility.Operations
import ZoneNet.Native.Program
import ZoneNet.Text.Occurrence

/-!
# Leases through the native tools

The agent is started as a program of its own; a lease is asked for through `ifconfig`. Both are
bounded in time.
-/

namespace ZoneNet

open Text

/-! ## What is told -/

namespace LogEntry

def agentStarted : LogEntry := make .info .agent "dhcpagent started" []

def agentRunning : LogEntry := make .debug .agent "dhcpagent already running" []

end LogEntry

/-- The agent and the tool that talks to it. -/
structure LeaseTools where
  host : Host
  agent : String
  ifconfig : String

namespace LeaseTools

/-- What a program printed: its standard output and its standard error on lines of their own. -/
def combinedText (c : Completion) : List Char :=
  match trimmedText c.stdout, trimmedText c.stderr with
  | out, [] => out
  | [], err => err
  | out, err => out ++ '\n' :: err

/-- Runs a command to its end within a bound, and gives its code and what it printed. -/
def runBounded (h : Host) (c : Command) (operation : String) (seconds : UInt64) (w : World) :
    Outcome FacilityError (Int × List Char) World :=
  match World.run h c w with
  | (.error e, w) => (.error (.io operation e), w)
  | (.ok done, w) =>
    if done.overruns then (.error (.timeout operation seconds), w)
    else (.ok (done.ending.code, combinedText done), w)

/-- What an agent prints when another one runs already. -/
def alreadyRunning : List Char := "already running".toList

variable (d : LeaseTools)

/-- An agent that refuses to start because one is running is as good as one that starts. -/
def ensureRunning (seconds : UInt64) (w : World) : Outcome FacilityError Unit World :=
  match runBounded d.host { path := d.agent } "start dhcpagent" seconds w with
  | (.error e, w) => (.error e, w)
  | (.ok (code, text), w) =>
    if code = 0 then (.ok (), w.tell [.agentStarted])
    else if occursIn alreadyRunning text then (.ok (), w.tell [.agentRunning])
    else
      (.error (.rejected "start dhcpagent"
        ("exit code " ++ toString code ++ ": " ++ String.ofList text)), w)

/-- The bound on the tool: one second more than the agent's own, so that it only covers a tool
that hangs. There is none past the last second that can be told. -/
def leaseBound? (seconds : UInt64) : Option UInt64 :=
  if seconds.toNat + 1 < UInt64.size then some (seconds + 1) else none

/-- Asks for a lease. A bound that cannot be told breaks the process off. -/
def startLease (iface : String) (seconds : UInt64) (w : World) :
    Outcome FacilityError LeaseReply World :=
  let operation := "DHCP start on " ++ iface
  match leaseBound? seconds with
  | none => (.error (.unboundable operation), w ++ [.abort])
  | some bound =>
    let args := [iface, "dhcp", "start", "wait", toString seconds.toNat]
    match runBounded d.host { path := d.ifconfig, args } operation bound w with
    | (.error e, w) => (.error e, w)
    | (.ok (code, text), w) => (.ok ⟨code, String.ofList text⟩, w)

def leases : LeaseAgent World where
  ensureRunning := d.ensureRunning
  startLease := d.startLease

end LeaseTools

end ZoneNet
