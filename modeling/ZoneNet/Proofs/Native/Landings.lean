import ZoneNet.Proofs.Native.LiteralCommands
import ZoneNet.Proofs.Setup.Turns

/-!
# Where addresses land

The native tools are told the interface of an address through the name of its object alone: a name
is made for the interface that was chosen, and is read back when the object is activated. The
reading stops at the first slash, so it gives back just those interfaces that have none.

* `ObjectName.interface_make` — what a name gives back of the interface that it was made for.
* `applyLiteral_lands` — the command of one literal.
* `run_landings` — the commands of all literals of a run.
* `run_landings_slash` — an address that lands beside the interface that was chosen for it.
-/

namespace ZoneNet

/-! ## Names read back -/

theorem Text.before_append_cons {d : Char} (a b : List Char) :
    before d (a ++ d :: b) = before d a := by
  induction a with
  | nil => simp [before]
  | cons c a ih =>
    unfold before at ih ⊢
    by_cases hc : c = d
    · simp [hc]
    · rw [List.cons_append, List.takeWhile_cons_of_pos (by simpa using hc),
        List.takeWhile_cons_of_pos (by simpa using hc), ih]

theorem Text.before_eq_self_iff {d : Char} {l : List Char} : before d l = l ↔ d ∉ l := by
  constructor
  · intro h hm
    rw [← h] at hm
    have hne := List.all_eq_true.1 List.all_takeWhile d hm
    simp at hne
  · intro h
    have hwhole := before_append h []
    rwa [List.append_nil, show before d [] = [] from rfl, List.append_nil] at hwhole

/-- The name of an interface up to its first slash. -/
def landing (iface : String) : String := String.ofList (Text.before '/' iface.toList)

/-- A name gives back the interface that it was made for up to the first slash. -/
theorem ObjectName.interface_make (iface : String) (n : UInt32) :
    (ObjectName.make iface n).interface = landing iface := by
  unfold interface landing
  rw [toList_make, Text.before_append_cons]

/-- That is the whole interface just when it has no slash. -/
theorem landing_eq_iff {iface : String} : landing iface = iface ↔ '/' ∉ iface.toList := by
  rw [← Text.before_eq_self_iff, ← String.toList_inj, landing, String.toList_ofList]

/-- The interface that a command of the tool is about is its first argument. -/
def Command.interface? (c : Command) : Option String := c.args.head?

namespace AddressTools

variable (t : AddressTools)

theorem interface?_addressCommand (iface : String) (family : Family) (addr : String) :
    (t.addressCommand iface family addr).interface? = some iface := by
  cases family <;> rfl

/-! ## One literal -/

/-- An interface for an address is the base interface or one that the tool has told. -/
theorem target_chosen {c : Context} {family : Family} {w w' : World} {iface : String}
    (h : target t.addresses c family w = (.ok iface, w')) :
    iface = c.base ∨ t.addLogical c.base family w = (.ok iface, w') := by
  unfold target at h
  split at h
  · cases h
    exact Or.inl rfl
  · right
    show t.addresses.addLogical c.base family w = (.ok iface, w')
    rcases hone : t.addresses.addLogical c.base family w with ⟨e | name, w''⟩
    · rw [hone] at h
      cases h
    · rw [hone] at h
      cases h
      rfl

/-- Once there is an interface for a literal, one command follows if objects take the literal and
none if they do not. -/
theorem applyLiteral_lands (leases : LeaseAgent World) (timeout : UInt64) {c : Context}
    {addr : String} {l : Ledger World} {iface : String} {w' : World}
    (htarget : target t.addresses c (Family.ofLiteral addr) l.world = (.ok iface, w')) :
    (Accepts addr → w'.Adds [t.addressCommand (landing iface) (Family.ofLiteral addr) addr]
      ((t.assigner leases timeout).applyLiteral c addr l).2.2.world) ∧
    (¬Accepts addr → w'.Adds [] ((t.assigner leases timeout).applyLiteral c addr l).2.2.world) := by
  obtain ⟨_, -, htaken, hleft⟩ :=
    t.hold_commands leases timeout iface addr (.make iface l.names.issued) w' []
  rw [ObjectName.interface_make] at htaken
  rw [Assigner.world_applyLiteral, t.assigner_addresses, htarget]
  exact ⟨htaken, fun hnot => (hleft hnot).1⟩

theorem assigner_of_addresses {u : Setup World} (hu : u.facilities.addresses = t.addresses) :
    u.assigner = t.assigner u.facilities.leases u.timeout := by
  unfold Setup.assigner assigner
  rw [hu]

/-! ## Every literal of a run -/

/-- Whatever the tools print and however they end, every literal of a run for which there is an
interface is put there, or nowhere: the interface is the base interface of its turn or one that the
tool has told, and the one command that follows, if objects take the literal, is about that
interface up to its first slash. So an address lands on the interface that was chosen for it just
when that has no slash. -/
theorem run_landings {u : Setup World} (hu : u.facilities.addresses = t.addresses)
    (nets : List Net) (w : World) :
    Setup.InTurn (u.runTurns nets w) (Setup.schedule nets) (u.run nets w) ∧
    ∀ turn ∈ u.runTurns nets w, ∀ addr, turn.token = .literal addr →
      (turn.context.base = Setup.loopbackName ∨ ∃ net ∈ nets, turn.context.base = net.physical) ∧
      ∀ iface w', target t.addresses turn.context (Family.ofLiteral addr) turn.ledger.world
          = (.ok iface, w') →
        (iface = turn.context.base ∨
          t.addLogical turn.context.base (Family.ofLiteral addr) turn.ledger.world
            = (.ok iface, w')) ∧
        ∃ commands,
          w'.Adds commands (u.assigner.apply turn.context turn.token turn.ledger).2.2.world ∧
          (Accepts addr →
            commands = [t.addressCommand (landing iface) (Family.ofLiteral addr) addr]) ∧
          (¬Accepts addr → commands = []) ∧
          ∀ command ∈ commands, command.interface? = some iface ↔ '/' ∉ iface.toList := by
  refine ⟨u.runTurns_inTurn nets w, ?_⟩
  intro turn hturn addr htoken
  refine ⟨u.base_of_mem_runTurns hturn, ?_⟩
  intro iface w' htarget
  refine ⟨t.target_chosen htarget, ?_⟩
  obtain ⟨htaken, hleft⟩ := t.applyLiteral_lands u.facilities.leases u.timeout htarget
  rw [htoken, t.assigner_of_addresses hu]
  by_cases haccepts : Accepts addr
  · refine ⟨_, htaken haccepts, fun _ => rfl, fun hnot => absurd haccepts hnot, ?_⟩
    intro command hcommand
    rw [List.mem_singleton.1 hcommand, interface?_addressCommand, Option.some.injEq]
    exact landing_eq_iff
  · exact ⟨_, hleft haccepts, fun h => absurd h haccepts, fun _ => rfl, by simp⟩

/-- A turn and the interface for its address, looked up among those of a run. -/
theorem exists_turn {u : Setup World} {nets : List Net} {w : World} {entry : String × Token}
    {family : Family} {iface : String}
    (h : (entry, .ok iface) ∈ (u.runTurns nets w).map fun turn =>
      (turn.entry, (target t.addresses turn.context family turn.ledger.world).1)) :
    ∃ turn ∈ u.runTurns nets w, turn.entry = entry ∧
      ∃ w', target t.addresses turn.context family turn.ledger.world = (.ok iface, w') := by
  obtain ⟨turn, hmem, hturn⟩ := List.mem_map.1 h
  obtain ⟨hentry, hchosen⟩ := Prod.mk.inj hturn
  exact ⟨turn, hmem, hentry, _, Prod.ext hchosen rfl⟩

/-- Where the tool tells `net0:1`, the second IPv4 address of `net0` lands there. -/
theorem run_landings_two :
    let host : Host := {
      respond := fun _ _ => .ok {
        ending := .exited 0
        stdout := Text.Utf8.encode "Created new logical interface net0:1" }
      node := fun _ => none
      routeWrite := fun _ message => .ok message.length }
    let t : AddressTools := ⟨host, "ifconfig", "ipadm"⟩
    let u : Setup World := {
      facilities := {
        addresses := t.addresses
        leases := LeaseTools.leases ⟨host, "dhcpagent", "ifconfig"⟩
        routes := ⟨0, fun _ => none, fun message w => (.ok message.length, w)⟩
        autoconf := ⟨fun w => (.ok (), w)⟩ }
      ipv6 := false }
    let nets : List Net := [{ physical := "net0", attrs := [⟨"ips", "10.0.0.2/24,10.0.0.3/24"⟩] }]
    ∃ turn ∈ u.runTurns nets [], ∃ w',
      turn.entry = ("net0", .literal "10.0.0.3/24") ∧
      target t.addresses turn.context .v4 turn.ledger.world = (.ok "net0:1", w') ∧
      w'.Adds [⟨"ifconfig", ["net0:1", "10.0.0.3/24", "up"], .inherited, false⟩]
        (u.assigner.apply turn.context turn.token turn.ledger).2.2.world := by
  intro host t u nets
  have haccepts : Accepts "10.0.0.3/24" := (setAddress_accepts _).2 (by decide +kernel)
  have hplaced : (("net0", Token.literal "10.0.0.3/24"), Except.ok "net0:1") ∈
      (u.runTurns nets []).map fun turn =>
        (turn.entry, (target t.addresses turn.context .v4 turn.ledger.world).1) := by
    decide +kernel
  obtain ⟨turn, hmem, hentry, w', htarget⟩ := t.exists_turn hplaced
  obtain ⟨-, hturns⟩ := t.run_landings (u := u) rfl nets []
  obtain ⟨-, hlands⟩ := hturns turn hmem "10.0.0.3/24" (congrArg Prod.snd hentry)
  obtain ⟨-, commands, hadds, hcommands, -⟩ := hlands "net0:1" _ htarget
  rw [hcommands haccepts] at hadds
  exact ⟨turn, hmem, w', hentry, htarget, hadds⟩

/-- A literal of an interface that is called `net/0` is placed on it, and is put on `net`. -/
theorem run_landings_slash :
    let host : Host := {
      respond := fun _ _ => .ok { ending := .exited 0 }
      node := fun _ => none
      routeWrite := fun _ message => .ok message.length }
    let t : AddressTools := ⟨host, "ifconfig", "ipadm"⟩
    let u : Setup World := {
      facilities := {
        addresses := t.addresses
        leases := LeaseTools.leases ⟨host, "dhcpagent", "ifconfig"⟩
        routes := ⟨0, fun _ => none, fun message w => (.ok message.length, w)⟩
        autoconf := ⟨fun w => (.ok (), w)⟩ }
      ipv6 := false }
    let nets : List Net := [{ physical := "net/0", attrs := [⟨"ips", "10.0.0.2/24"⟩] }]
    ∃ turn ∈ u.runTurns nets [], ∃ w',
      turn.entry = ("net/0", .literal "10.0.0.2/24") ∧
      target t.addresses turn.context .v4 turn.ledger.world = (.ok "net/0", w') ∧
      w'.Adds [⟨"ifconfig", ["net", "10.0.0.2/24", "up"], .inherited, false⟩]
        (u.assigner.apply turn.context turn.token turn.ledger).2.2.world := by
  intro host t u nets
  have haccepts : Accepts "10.0.0.2/24" := (setAddress_accepts _).2 (by decide +kernel)
  have hplaced : (("net/0", Token.literal "10.0.0.2/24"), Except.ok "net/0") ∈
      (u.runTurns nets []).map fun turn =>
        (turn.entry, (target t.addresses turn.context .v4 turn.ledger.world).1) := by
    decide +kernel
  obtain ⟨turn, hmem, hentry, w', htarget⟩ := t.exists_turn hplaced
  have hadds := (t.applyLiteral_lands u.facilities.leases u.timeout htarget).1 haccepts
  refine ⟨turn, hmem, w', hentry, htarget, ?_⟩
  rw [show turn.token = .literal "10.0.0.2/24" from congrArg Prod.snd hentry]
  exact hadds

end AddressTools

end ZoneNet
