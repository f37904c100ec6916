import ZoneNet.Native.AddressTools
import ZoneNet.Native.LeaseTools
import ZoneNet.Native.PostnetHook
import ZoneNet.Native.RouteFeed
import ZoneNet.Native.Service

/-!
# The programs that are to be started

What an operation adds to the history, as far as it starts programs: the commands in order,
whatever comes of them.

* `World.Adds` — the commands that one history has beyond another, and no end of the process.
* `AddressTools.apply_adds` — every setting of a profile is tried, whichever fail.
* `LeaseTools.startLease_adds` — a request for a lease is one command where its bound can be told.
-/

namespace ZoneNet

namespace World

/-! ## Histories -/

/-- The command that an event is about, if a program was to be started. -/
def attempt? : Event → Option Command
  | .start c _ => some c
  | _ => none

/-- The commands that were to be started, in order, whatever came of them. -/
def attempts (w : World) : List Command := w.filterMap attempt?

/-- The second history goes on from the first with these commands, and the process does not break
off. -/
def Adds (w : World) (cs : List Command) (w' : World) : Prop :=
  ∃ events : World, w' = w ++ events ∧ events.attempts = cs ∧ events.aborted = false

variable {w w' w'' : World} {cs cs' : List Command}

@[simp] theorem attempts_append (v w : World) : (v ++ w).attempts = v.attempts ++ w.attempts :=
  List.filterMap_append

@[simp] theorem aborted_append (v w : World) : (v ++ w).aborted = (v.aborted || w.aborted) :=
  List.any_append

theorem Adds.refl (w : World) : w.Adds [] w := ⟨[], (List.append_nil w).symm, rfl, rfl⟩

theorem Adds.trans (h : w.Adds cs w') (h' : w'.Adds cs' w'') : w.Adds (cs ++ cs') w'' := by
  obtain ⟨events, rfl, rfl, hkeeps⟩ := h
  obtain ⟨events', rfl, rfl, hkeeps'⟩ := h'
  refine ⟨events ++ events', List.append_assoc .., attempts_append .., ?_⟩
  rw [aborted_append, hkeeps, hkeeps']
  rfl

/-- What adds nothing can stand behind. -/
theorem Adds.trans_nil (h : w.Adds cs w') (h' : w'.Adds [] w'') : w.Adds cs w'' := by
  have hall := h.trans h'
  rwa [List.append_nil] at hall

theorem Adds.attempts (h : w.Adds cs w') : w'.attempts = w.attempts ++ cs := by
  obtain ⟨events, rfl, rfl, -⟩ := h
  exact attempts_append w events

theorem Adds.aborted (h : w.Adds cs w') : w'.aborted = w.aborted := by
  obtain ⟨events, rfl, -, hkeeps⟩ := h
  rw [aborted_append, hkeeps, Bool.or_false]

theorem adds_tell (es : List LogEntry) (w : World) : w.Adds [] (w.tell es) := by
  refine ⟨es.map .told, rfl, ?_, ?_⟩
  · unfold World.attempts
    rw [List.filterMap_map]
    exact List.filterMap_eq_nil_iff.2 fun _ _ => rfl
  · unfold World.aborted
    rw [List.any_map, List.any_eq_false]
    intro _ _ h
    cases h

theorem adds_run (h : Host) (c : Command) (w : World) : w.Adds [c] (World.run h c w).2 :=
  ⟨[.start c _], rfl, rfl, rfl⟩

theorem adds_send (message : List UInt8) (r : Except SystemError Nat) (w : World) :
    w.Adds [] (w ++ [.send message r]) := ⟨[.send message r], rfl, rfl, rfl⟩

/-- The second history goes on from the first with commands of one kind only. -/
def AddsOnly (p : Command → Prop) (w w' : World) : Prop := ∃ cs, (∀ c ∈ cs, p c) ∧ w.Adds cs w'

variable {p : Command → Prop}

theorem Adds.only (h : w.Adds [] w') : w.AddsOnly p w' := ⟨[], by simp, h⟩

theorem Adds.only_single {c : Command} (h : w.Adds [c] w') (hc : p c) : w.AddsOnly p w' :=
  ⟨[c], by simpa using hc, h⟩

theorem AddsOnly.aborted (h : w.AddsOnly p w') : w'.aborted = w.aborted := by
  obtain ⟨cs, -, hadds⟩ := h
  exact hadds.aborted

theorem AddsOnly.imp {q : Command → Prop} (h : w.AddsOnly p w') (hpq : ∀ c, p c → q c) :
    w.AddsOnly q w' := by
  obtain ⟨cs, hcs, hadds⟩ := h
  exact ⟨cs, fun c hc => hpq c (hcs c hc), hadds⟩

theorem AddsOnly.trans (h : w.AddsOnly p w') (h' : w'.AddsOnly p w'') : w.AddsOnly p w'' := by
  obtain ⟨cs, hcs, hadds⟩ := h
  obtain ⟨cs', hcs', hadds'⟩ := h'
  exact ⟨cs ++ cs', List.forall_mem_append.2 ⟨hcs, hcs'⟩, hadds.trans hadds'⟩

end World

open World

/-! ## The administration tools -/

namespace AddressTools

theorem runChecked_adds (h : Host) (path operation : String) (args : List String) (w : World) :
    w.Adds [{ path, args }] (runChecked h path operation args w).2 := by
  have hrun : w.Adds [{ path, args }] _ :=
    (adds_tell [.running path args] w).trans (adds_run h { path, args } _)
  unfold runChecked
  generalize World.run h { path, args } (w.tell [.running path args]) = o at hrun ⊢
  rcases o with ⟨e | c, w'⟩
  · exact hrun
  · dsimp only
    split <;> exact hrun

variable (t : AddressTools)

theorem runIfconfig_adds (operation : String) (args : List String) (w : World) :
    w.AddsOnly (·.path = t.ifconfig) (t.runIfconfig operation args w).2 :=
  (runChecked_adds t.host t.ifconfig operation args w).only_single rfl

theorem plumb_adds (iface : String) (family : Family) (w : World) :
    w.AddsOnly (·.path = t.ifconfig) (t.plumb iface family w).2 := by
  have hrun := t.runIfconfig_adds "plumb" (familyArgs iface family ["plumb"]) w
  unfold plumb
  generalize t.runIfconfig "plumb" (familyArgs iface family ["plumb"]) w = o at hrun ⊢
  rcases o with ⟨e | c, w'⟩
  · dsimp only
    split <;> exact hrun
  · exact hrun

theorem bringUpLinkLocal_adds (iface : String) (w : World) :
    w.AddsOnly (·.path = t.ifconfig) (t.bringUpLinkLocal iface w).2 := by
  have hrun := t.runIfconfig_adds "link-local up" [iface, "inet6", "up"] w
  unfold bringUpLinkLocal
  generalize t.runIfconfig "link-local up" [iface, "inet6", "up"] w = o at hrun ⊢
  rcases o with ⟨e | c, w'⟩ <;> exact hrun

/-- The command that asks for a logical interface. -/
def logicalCommand (base : String) (family : Family) : Command where
  path := t.ifconfig
  args := familyArgs base family ["addif", unspecified family]

/-- The command that puts an address on an interface. -/
def addressCommand (iface : String) (family : Family) (addr : String) : Command where
  path := t.ifconfig
  args := familyArgs iface family [addr, "up"]

theorem addLogical_adds_one (base : String) (family : Family) (w : World) :
    w.Adds [t.logicalCommand base family] (t.addLogical base family w).2 := by
  have hrun : w.Adds [t.logicalCommand base family]
      (t.runIfconfig "addif" (familyArgs base family ["addif", unspecified family]) w).2 :=
    runChecked_adds t.host t.ifconfig "addif" _ w
  unfold addLogical
  generalize t.runIfconfig "addif" (familyArgs base family ["addif", unspecified family]) w = o
    at hrun ⊢
  rcases o with ⟨e | c, w'⟩
  · exact hrun
  · dsimp only
    split
    · exact hrun.trans_nil (adds_tell _ w')
    · exact hrun

theorem addLogical_adds (base : String) (family : Family) (w : World) :
    w.AddsOnly (·.path = t.ifconfig) (t.addLogical base family w).2 :=
  (t.addLogical_adds_one base family w).only_single rfl

theorem activate_adds_one {obj : AddressObject} {addr : String} (h : obj.address = some addr)
    (w : World) :
    w.Adds [t.addressCommand obj.name.interface (Family.ofLiteral addr) addr]
      (t.activate obj w).2 := by
  have hrun : w.Adds [t.addressCommand obj.name.interface (Family.ofLiteral addr) addr]
      (t.runIfconfig "create address"
        (familyArgs obj.name.interface (Family.ofLiteral addr) [addr, "up"]) w).2 :=
    runChecked_adds t.host t.ifconfig "create address" _ w
  unfold activate
  rw [h]
  dsimp only
  generalize t.runIfconfig "create address" _ w = o at hrun ⊢
  rcases o with ⟨e | c, w'⟩ <;> exact hrun

theorem activate_adds (obj : AddressObject) (w : World) :
    w.AddsOnly (·.path = t.ifconfig) (t.activate obj w).2 := by
  rcases h : obj.address with _ | addr
  · unfold activate
    rw [h]
    exact (Adds.refl w).only
  · exact (t.activate_adds_one h w).only_single rfl

theorem setAddress_adds (obj : AddressObject) (addr : String) (w : World) :
    w.Adds [] (setAddress obj addr w).2 := by
  unfold setAddress
  rcases checkLiteral addr with fault | _ <;> exact Adds.refl w

/-- The command that sets a property of a transport. -/
def propertyCommand (property value : String) (protocol : Protocol) : Command where
  path := t.ipadm
  args := ["set-prop", "-t", "-p", property ++ "=" ++ value, protocol.moduleName]

theorem setProperty_adds (property value : String) (protocol : Protocol) (w : World) :
    w.Adds [t.propertyCommand property value protocol]
      (t.setProperty property value protocol w).2 := by
  have hrun := runChecked_adds t.host t.ipadm "set-prop"
    (t.propertyCommand property value protocol).args w
  unfold setProperty
  dsimp only [propertyCommand] at hrun ⊢
  generalize runChecked t.host t.ipadm "set-prop" _ w = o at hrun ⊢
  rcases o with ⟨e | c, w'⟩ <;> exact hrun

/-- The command for one setting of a profile. -/
def settingCommand (s : Protocol × String × UInt32) : Command :=
  t.propertyCommand s.2.1 (toString s.2.2.toNat) s.1

variable (props : BufferProperties World)

theorem setAll_adds (hset : props.set = t.setProperty)
    (htell : ∀ f (w : World), w.Adds [] (props.tell f w))
    (plan : List (Protocol × String × UInt32)) (w : World) :
    w.Adds (plan.map t.settingCommand) (BufferProfile.setAll props plan w).2 := by
  induction plan generalizing w with
  | nil => exact Adds.refl w
  | cons s plan ih =>
    obtain ⟨protocol, property, value⟩ := s
    have hone := t.setProperty_adds property (toString value.toNat) protocol w
    unfold BufferProfile.setAll
    rw [hset]
    generalize t.setProperty property (toString value.toNat) protocol w = o at hone ⊢
    rcases o with ⟨e | _, w'⟩
    · exact (hone.trans_nil (htell _ w')).trans (ih _)
    · exact hone.trans (ih w')

/-- Every setting of a profile is tried in order, whichever fail; a failure is told at most. -/
theorem apply_adds (hset : props.set = t.setProperty)
    (htell : ∀ f (w : World), w.Adds [] (props.tell f w)) (p : BufferProfile)
    (protocols : List Protocol) (w : World) :
    w.Adds ((p.plan protocols).map t.settingCommand) (p.apply props protocols w).2 :=
  t.setAll_adds props hset htell (p.plan protocols) w

end AddressTools

/-! ## Leases -/

namespace LeaseTools

theorem runBounded_adds (h : Host) (c : Command) (operation : String) (seconds : UInt64)
    (w : World) : w.Adds [c] (runBounded h c operation seconds w).2 := by
  have hrun := adds_run h c w
  unfold runBounded
  generalize World.run h c w = o at hrun ⊢
  rcases o with ⟨e | done, w'⟩
  · exact hrun
  · dsimp only
    split <;> exact hrun

variable (d : LeaseTools)

/-- The command that starts the agent. -/
def agentCommand : Command where
  path := d.agent

/-- The command that asks for a lease and waits for it. -/
def leaseCommand (iface : String) (seconds : UInt64) : Command where
  path := d.ifconfig
  args := [iface, "dhcp", "start", "wait", toString seconds.toNat]

theorem ensureRunning_adds_one (seconds : UInt64) (w : World) :
    w.Adds [d.agentCommand] (d.ensureRunning seconds w).2 := by
  have hrun : w.Adds [d.agentCommand] _ :=
    runBounded_adds d.host d.agentCommand "start dhcpagent" seconds w
  unfold ensureRunning
  unfold agentCommand at hrun ⊢
  generalize runBounded d.host _ "start dhcpagent" seconds w = o at hrun ⊢
  rcases o with ⟨e | ⟨code, text⟩, w'⟩
  · exact hrun
  · dsimp only
    split
    · exact hrun.trans_nil (adds_tell _ w')
    split
    · exact hrun.trans_nil (adds_tell _ w')
    · exact hrun

theorem ensureRunning_adds (seconds : UInt64) (w : World) :
    w.AddsOnly (·.path = d.agent) (d.ensureRunning seconds w).2 :=
  (d.ensureRunning_adds_one seconds w).only_single rfl

/-- A request whose bound can be told is one command. -/
theorem startLease_adds_one {seconds : UInt64} (hseconds : seconds.toNat + 1 < UInt64.size)
    (iface : String) (w : World) :
    w.Adds [d.leaseCommand iface seconds] (d.startLease iface seconds w).2 := by
  have hrun := runBounded_adds d.host (d.leaseCommand iface seconds) ("DHCP start on " ++ iface)
    (seconds + 1) w
  unfold startLease leaseBound?
  rw [if_pos hseconds]
  unfold leaseCommand at hrun ⊢
  dsimp only
  generalize runBounded d.host _ ("DHCP start on " ++ iface) (seconds + 1) w = o at hrun ⊢
  rcases o with ⟨e | ⟨code, text⟩, w'⟩ <;> exact hrun

theorem startLease_adds {seconds : UInt64} (hseconds : seconds.toNat + 1 < UInt64.size)
    (iface : String) (w : World) :
    w.AddsOnly (·.path = d.ifconfig) (d.startLease iface seconds w).2 :=
  (d.startLease_adds_one hseconds iface w).only_single rfl

end LeaseTools

/-! ## Services, the feed and the hook -/

/-- A launcher succeeds just when it is started and exits with zero. -/
theorem Service.launch_adds (h : Host) (v : Service) (w : World) :
    w.Adds [v.command] (v.launch h w).2 ∧
      ((v.launch h w).1 = .ok () ↔
        ∃ c, World.answer h v.command (w.tell [.serviceStarting v]) = .ok c ∧
          c.ending = .exited 0) := by
  have hrun : w.Adds [v.command] _ :=
    (adds_tell [.serviceStarting v] w).trans (adds_run h v.command _)
  unfold launch
  unfold World.run at hrun ⊢
  dsimp only at hrun ⊢
  generalize World.answer h v.command (w.tell [.serviceStarting v]) = r at hrun ⊢
  rcases r with e | c
  · exact ⟨hrun, by simp⟩
  · rcases c with ⟨(_ | code) | signal, out, err, overruns⟩
    · exact ⟨hrun.trans_nil (adds_tell _ _), by simp [Ending.isSuccess]⟩
    · exact ⟨hrun, by simp [Ending.isSuccess]⟩
    · exact ⟨hrun, by simp [Ending.isSuccess]⟩

theorem Service.start_adds (h : Host) (v : Service) (w : World) :
    w.Adds [v.command] (v.start h w).2 := by
  have hlaunch := (v.launch_adds h w).1
  unfold start
  generalize v.launch h w = o at hlaunch ⊢
  rcases o with ⟨e | _, w'⟩ <;> exact hlaunch

/-- A feed is started if there is such a file. -/
theorem RouteFeed.begin?_adds (h : Host) (path : String) (w : World) :
    w.Adds (if h.node path = some .file then [command path] else []) (begin? h path w).2 := by
  have hrun := adds_run h (command path) w
  unfold begin?
  rcases h.node path with _ | _ | _
  · exact adds_tell _ w
  · exact adds_tell _ w
  · dsimp only
    rw [if_pos rfl]
    generalize World.run h (command path) w = o at hrun ⊢
    rcases o with ⟨e | c, w'⟩ <;> exact hrun

namespace PostnetHook

/-- The hook is no obstacle if it is absent or may not be executed, or if it exits with zero. -/
def Passes (h : Host) (path : String) (w : World) : Prop :=
  h.node path = none ∨ World.answer h (command path) w = .error .permissionDenied ∨
    ∃ c, World.answer h (command path) w = .ok c ∧ c.ending = .exited 0

/-- A hook is started unless it is absent. -/
theorem run_adds (h : Host) (path : String) (w : World) :
    w.Adds (if h.node path = none then [] else [command path]) (run h path w).2 ∧
      ((run h path w).1 = .ok () ↔ Passes h path w) := by
  have hrun := adds_run h (command path) w
  unfold run Passes
  rcases hnode : h.node path with _ | node
  · exact ⟨adds_tell _ w, by simp⟩
  · unfold World.run at hrun ⊢
    dsimp only at hrun ⊢
    rw [if_neg (by simp)]
    generalize World.answer h (command path) w = r at hrun ⊢
    rcases r with e | c
    · cases e
      case permissionDenied => exact ⟨hrun.trans_nil (adds_tell _ _), by simp⟩
      all_goals exact ⟨hrun, by simp⟩
    · refine ⟨hrun.trans_nil (adds_tell _ _), ?_⟩
      rcases c with ⟨(_ | code) | signal, out, err, overruns⟩
      · simp [verdict, Ending.isSuccess]
      · simp [verdict, Ending.isSuccess]
      · simp [verdict, Ending.isSuccess]

end PostnetHook

end ZoneNet
