import ZoneNet.Text.Decimal
import ZoneNet.Text.PathJoin

/-!
# Settings

What the environment says about where things are and how the boot is to go. Every setting has a
default.
-/

namespace ZoneNet

open Text

structure Settings where
  /-- The zone document. -/
  zoneConfig : String := "/etc/lx-init/zone.json"
  /-- The root of the native tree inside the zone. -/
  nativeRoot : String := "/native"
  /-- The device for logs that people read. -/
  console : String := "/dev/console"
  /-- The file for logs that programs read. -/
  bootLog : String := "/var/log/lx-init.log"
  /-- Whether a fatal error makes the process pause for ever instead of ending. -/
  pauseOnFatal : Bool := true
  /-- The bound on each request to the lease agent, in seconds. -/
  dhcpTimeout : UInt64 := 5
  deriving DecidableEq, Repr

namespace Settings

/-- The variables that settings are taken from. -/
def variableNames : List String :=
  ["LXINIT_ZONE_CONFIG", "LXINIT_NATIVE_ROOT", "LXINIT_CONSOLE", "LXINIT_BOOT_LOG",
    "LXINIT_PAUSE_ON_FATAL", "LXINIT_DHCP_TIMEOUT_SECS"]

/-- The texts that turn the pause off. -/
def offWords : List String := ["0", "false", "no"]

/-- A number of seconds of 64 bits. -/
def seconds? (text : String) : Option UInt64 :=
  (Decimal.upTo? (UInt64.size - 1) text.toList).map UInt64.ofNat

/-- The settings that variables give; a bound that is no number counts as absent. -/
def ofLookup (lookup : String → Option String) : Settings :=
  let defaults : Settings := {}
  { zoneConfig := (lookup "LXINIT_ZONE_CONFIG").getD defaults.zoneConfig
    nativeRoot := (lookup "LXINIT_NATIVE_ROOT").getD defaults.nativeRoot
    console := (lookup "LXINIT_CONSOLE").getD defaults.console
    bootLog := (lookup "LXINIT_BOOT_LOG").getD defaults.bootLog
    pauseOnFatal :=
      match lookup "LXINIT_PAUSE_ON_FATAL" with
      | some v => !offWords.contains v
      | none => defaults.pauseOnFatal
    dhcpTimeout :=
      ((lookup "LXINIT_DHCP_TIMEOUT_SECS").bind seconds?).getD defaults.dhcpTimeout }

/-- The path of something in the native tree. -/
def native (s : Settings) (rel : String) : String := joinPath s.nativeRoot rel

end Settings

end ZoneNet
