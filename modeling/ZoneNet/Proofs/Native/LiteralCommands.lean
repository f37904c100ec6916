import ZoneNet.Proofs.Address.LiteralFamily
import ZoneNet.Proofs.Address.Naming
import ZoneNet.Proofs.Native.Attempts

/-!
# The commands that are run for a literal

A literal that is applied through the native tools costs a command where it needs a logical
interface, and one more to be assigned, whatever the tools print and however they end. Both commands
are for the family of its address. What is no address is not assigned.

* `setAddress_accepts` — an object takes a text just when the text is an address.
* `hold_commands` — what is run for the object of a literal.
* `applyLiteral_commands` — what is run for a literal.
-/

namespace ZoneNet

open World

/-- What a literal leaves is what its placement leaves, or else what its object leaves. -/
theorem Assigner.world_applyLiteral {σ : Type} (a : Assigner σ) (c : Context) (addr : String)
    (l : Ledger σ) : (a.applyLiteral c addr l).2.2.world =
      match target a.addresses c (Family.ofLiteral addr) l.world with
      | (.error _, s) => s
      | (.ok iface, s) => (a.hold iface addr (.make iface l.names.issued) s).2 := by
  rw [a.applyLiteral_eq]
  unfold refuse
  rcases target a.addresses c (Family.ofLiteral addr) l.world with ⟨e | iface, s⟩
  · rfl
  · dsimp only
    rcases a.hold iface addr (.make iface l.names.issued) s with ⟨e | _, s'⟩ <;> rfl

namespace AddressTools

/-- A text that objects take as their value. -/
def Accepts (addr : String) : Prop :=
  ∃ obj obj' w w', setAddress obj addr w = (.ok obj', w')

/-- What an object makes of a text does not depend on what happened before. -/
theorem setAddress_accepts (addr : String) : Accepts addr ↔ checkLiteral addr = .ok () := by
  constructor
  · rintro ⟨obj, obj', w, w', h⟩
    unfold setAddress at h
    rcases hcheck : checkLiteral addr with fault | _
    · rw [hcheck] at h
      cases h
    · rfl
  · intro h
    refine ⟨.fresh (.make "" 0), { AddressObject.fresh (.make "" 0) with address := some addr }, [],
      [], ?_⟩
    unfold setAddress
    rw [h]

variable (t : AddressTools)

/-- The command for a logical interface, if an address of this family needs one. -/
def placing (c : Context) (family : Family) : List Command :=
  if family = .v4 ∧ c.occupied = false then [] else [t.logicalCommand c.base family]

/-- The command that assigns a literal, if there is an interface for it. -/
def assigning (c : Context) (family : Family) (addr : String) (l : Ledger World) : List Command :=
  match (target t.addresses c family l.world).1 with
  | .ok iface => [t.addressCommand (ObjectName.make iface l.names.issued).interface family addr]
  | .error _ => []

theorem target_adds (c : Context) (family : Family) (w : World) :
    w.Adds (t.placing c family) (target t.addresses c family w).2 := by
  unfold target placing
  by_cases hbase : family = .v4 ∧ c.occupied = false
  · rw [if_pos hbase, if_pos hbase]
    exact Adds.refl w
  · rw [if_neg hbase, if_neg hbase]
    have hone := t.addLogical_adds_one c.base family w
    show w.Adds _ (Outcome.mapError _ (t.addLogical c.base family w)).2
    generalize t.addLogical c.base family w = o at hone ⊢
    rcases o with ⟨e | iface, w'⟩ <;> exact hone

/-- No object is activated, and none that is let go of has a value. -/
structure Unset (events : List ObjectEvent) : Prop where
  inactive : ∀ obj answer, .activate obj answer ∉ events
  released : ∀ obj, .release obj ∈ events → obj.address = none

/-- Assignment through the native tools. -/
def assigner (leases : LeaseAgent World) (timeout : UInt64) : Assigner World where
  addresses := t.addresses
  leases := leases
  timeout := timeout

variable (leases : LeaseAgent World) (timeout : UInt64)

theorem assigner_addresses : (t.assigner leases timeout).addresses = t.addresses := rfl

/-- An object is activated by one command if it takes the text, and is let go of without a value if
it does not. -/
theorem hold_commands (iface addr : String) (name : ObjectName) (w : World)
    (before : List ObjectEvent) :
    ∃ events, (t.assigner leases timeout).watched.hold iface addr name (w, before)
        = (((t.assigner leases timeout).hold iface addr name w).1,
          ((t.assigner leases timeout).hold iface addr name w).2, before ++ events) ∧
      (Accepts addr → w.Adds [t.addressCommand name.interface (Family.ofLiteral addr) addr]
        ((t.assigner leases timeout).hold iface addr name w).2) ∧
      (¬Accepts addr → w.Adds [] ((t.assigner leases timeout).hold iface addr name w).2 ∧
        Unset events) := by
  rw [setAddress_accepts]
  simp only [Assigner.hold, Assigner.fillObject, Assigner.watched, AddressManager.watched, assigner,
    addresses, kept, createObject, setAddress]
  rcases hcheck : checkLiteral addr with fault | _
  · refine ⟨[.create name (.ok (.fresh name)),
      .set (.fresh name) addr (.error (.rejected "set address" fault.message)),
      .release (.fresh name)], by simp, by simp, fun _ => ⟨adds_tell _ w, ?_⟩⟩
    constructor
    · simp
    · simp [AddressObject.fresh]
  · let filled : AddressObject := { AddressObject.fresh name with address := some addr }
    have haddr : filled.address = some addr := rfl
    have hadds := t.activate_adds_one haddr w
    dsimp only
    generalize t.activate filled w = o at hadds ⊢
    refine ⟨[.create name (.ok (.fresh name)), .set (.fresh name) addr (.ok filled),
      .activate filled o.1, .release filled], ?_, ?_, by simp⟩
    · rcases o with ⟨e | _, w'⟩ <;> simp [filled]
    · intro _
      rcases o with ⟨e | _, w'⟩ <;> exact hadds.trans_nil (adds_tell _ w')

/-- A literal is placed by at most one command. Its object costs a command if there is an interface
for it and it takes the text. -/
theorem applyLiteral_adds (c : Context) (addr : String) (l : Ledger World) :
    ∃ events,
      ((t.assigner leases timeout).watched.applyLiteral c addr (l.watched [])).2.2.world
        = (((t.assigner leases timeout).applyLiteral c addr l).2.2.world, events) ∧
      (Accepts addr → l.world.Adds
        (t.placing c (Family.ofLiteral addr) ++
          t.assigning c (Family.ofLiteral addr) addr l)
        ((t.assigner leases timeout).applyLiteral c addr l).2.2.world) ∧
      (¬Accepts addr → l.world.Adds (t.placing c (Family.ofLiteral addr))
        ((t.assigner leases timeout).applyLiteral c addr l).2.2.world ∧ Unset events) := by
  have htarget := t.target_adds c (Family.ofLiteral addr) l.world
  rw [Assigner.world_applyLiteral, Assigner.world_applyLiteral, Assigner.target_watched,
    t.assigner_addresses]
  unfold assigning
  dsimp only [Ledger.watched]
  generalize target t.addresses c (Family.ofLiteral addr) l.world = o at htarget ⊢
  rcases o with ⟨e | iface, s⟩
  · refine ⟨[], rfl, ?_, ?_⟩
    · intro _
      rwa [List.append_nil]
    · intro _
      exact ⟨htarget, by constructor <;> simp⟩
  · obtain ⟨events, hheld, htaken, hleft⟩ := t.hold_commands leases timeout iface addr
      (.make iface l.names.issued) s []
    refine ⟨events, ?_, ?_, ?_⟩
    · dsimp only
      rw [hheld]
      rfl
    · intro haccepts
      exact htarget.trans (htaken haccepts)
    · intro hnot
      exact ⟨htarget.trans_nil (hleft hnot).1, (hleft hnot).2⟩

/-- What is run for a literal, and what is done with its object. A text that objects take holds an
address before its first slash; the family by which it is placed, the family of the command that
asks for a logical interface, the family of the command that assigns it and the family of the
address are then one. A text that they do not take is not assigned, and its object is let go of
without a value. -/
theorem applyLiteral_commands (c : Context) (addr : String) (l : Ledger World) :
    ∃ commands events,
      l.world.Adds commands ((t.assigner leases timeout).applyLiteral c addr l).2.2.world ∧
      ((t.assigner leases timeout).watched.applyLiteral c addr (l.watched [])).2.2.world
        = (((t.assigner leases timeout).applyLiteral c addr l).2.2.world, events) ∧
      (Accepts addr → ∃ ip, IP.ofText? (hostText addr) = some ip ∧
        Family.ofLiteral addr = ip.family ∧
        (Family.ofLiteral addr = .v6 ↔ ∃ ip₆, IPv6.ofText? (hostText addr) = some ip₆) ∧
        commands = t.placing c ip.family ++ t.assigning c ip.family addr l) ∧
      (¬Accepts addr → commands = t.placing c (Family.ofLiteral addr) ∧ Unset events) := by
  obtain ⟨events, hwatched, htaken, hleft⟩ := t.applyLiteral_adds leases timeout c addr l
  by_cases haccepts : Accepts addr
  · obtain ⟨ip, hip, hfamily, hv6⟩ := ofLiteral_eq_family ((setAddress_accepts addr).1 haccepts)
    refine ⟨_, events, htaken haccepts, hwatched, fun _ => ⟨ip, hip, hfamily, hv6, ?_⟩,
      fun hnot => absurd haccepts hnot⟩
    rw [hfamily]
  · obtain ⟨hadds, hunset⟩ := hleft haccepts
    exact ⟨_, events, hadds, hwatched, fun h => absurd h haccepts, fun _ => ⟨rfl, hunset⟩⟩

/-- Where the base interface is occupied and every request for a logical interface is granted, an
IPv6 literal is assigned to its own one, and a prefix that is too long gets no further than its
interface. -/
theorem applyLiteral_commands_overlong :
    let host : Host := {
      respond := fun _ _ => .ok {
        ending := .exited 0
        stdout := Text.Utf8.encode "Created new logical interface net0:1" }
      node := fun _ => none
      routeWrite := fun _ message => .ok message.length }
    let t : AddressTools := ⟨host, "ifconfig", "ipadm"⟩
    let a := t.assigner (LeaseTools.leases ⟨host, "dhcpagent", "ifconfig"⟩) 5
    let c : Context := ⟨"net0", true⟩
    Accepts "fd00::2/64" ∧
      (a.applyLiteral c "fd00::2/64" ⟨[], {}, false⟩).2.2.world.attempts
        = [⟨"ifconfig", ["net0", "inet6", "addif", "::"], .inherited, false⟩,
          ⟨"ifconfig", ["net0:1", "inet6", "fd00::2/64", "up"], .inherited, false⟩] ∧
      ¬Accepts "10.0.0.2/33" ∧
      (a.applyLiteral c "10.0.0.2/33" ⟨[], {}, false⟩).2.2.world.attempts
        = [⟨"ifconfig", ["net0", "addif", "0.0.0.0"], .inherited, false⟩] := by
  intro host t a c
  have haccepts : Accepts "fd00::2/64" := (setAddress_accepts _).2 (by decide +kernel)
  have hrejects : ¬Accepts "10.0.0.2/33" := by
    rw [setAddress_accepts]
    decide +kernel
  obtain ⟨commands, _, hadds, -, htaken, -⟩ := t.applyLiteral_commands
    (LeaseTools.leases ⟨host, "dhcpagent", "ifconfig"⟩) 5 c "fd00::2/64" ⟨[], {}, false⟩
  obtain ⟨commands', _, hadds', -, -, hleft⟩ := t.applyLiteral_commands
    (LeaseTools.leases ⟨host, "dhcpagent", "ifconfig"⟩) 5 c "10.0.0.2/33" ⟨[], {}, false⟩
  obtain ⟨ip, -, hfamily, -, hcommands⟩ := htaken haccepts
  refine ⟨haccepts, ?_, hrejects, ?_⟩
  · rw [hadds.attempts, hcommands, ← hfamily]
    decide +kernel
  · rw [hadds'.attempts, (hleft hrejects).1]
    decide +kernel

end AddressTools

end ZoneNet
