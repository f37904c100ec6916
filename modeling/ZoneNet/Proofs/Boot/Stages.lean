import ZoneNet.Boot.Run
import ZoneNet.Proofs.Native.Attempts
import ZoneNet.Proofs.Setup.Lockstep

/-!
# The stages of a boot

What each stage of a boot starts, whatever the machine answers. What the native programs do, what
the routing channel takes and what the files hold may depend on all that happened before.

* `readZone_ok_iff` — what a document must declare before anything is set up.
* `networkSetup_adds`, `setUp_runs` — network setup starts tools, and autoconfiguration last.
* `setBuffers_runs` — all twelve limits are tried.
* `runFeed_runs`, `runHook_runs` — the feed and the hook are one program each, if they are there.
-/

namespace ZoneNet

open World Text

namespace Boot

variable (m : Machine) (settings : Settings)

/-! ## The programs -/

/-- The command for the service that manages interfaces. -/
def managerCommand : Command := (Service.interfaceManager settings.nativeRoot).command

/-- The command for the daemon that does autoconfiguration. -/
def discoveryCommand : Command := (Service.neighborDiscovery settings.nativeRoot).command

def feedCommand : Command := RouteFeed.command (RouteFeed.pathIn settings.nativeRoot)

def hookCommand : Command := PostnetHook.command (PostnetHook.pathIn settings.nativeRoot)

/-- A command for interfaces, addresses or leases. -/
def IsTool (c : Command) : Prop :=
  c.path = settings.native "sbin/ifconfig" ∨ c.path = settings.native "sbin/dhcpagent"

/-- The command that sets one limit of one transport. -/
def limitCommand (transport limit : String) (value : UInt32) : Command where
  path := settings.native "usr/sbin/ipadm"
  args := ["set-prop", "-t", "-p", limit ++ "=" ++ toString value.toNat, transport]

/-- The commands for the buffer limits: three for each transport. -/
def limitCommands (kernel : KernelVersion) : List Command :=
  let profile := BufferProfile.ofVersion kernel
  ["tcp", "udp", "sctp", "icmp"].flatMap fun transport =>
    [limitCommand settings transport "max_buf" profile.maxBuf,
      limitCommand settings transport "send_buf" profile.sendBuf,
      limitCommand settings transport "recv_buf" profile.recvBuf]

/-- The commands of the route feed: one, if there is such a file. -/
def feedCommands : List Command :=
  if m.node (RouteFeed.pathIn settings.nativeRoot) = some .file then [feedCommand settings] else []

/-- The commands of the hook: one, unless it is absent. -/
def hookCommands : List Command :=
  if m.node (PostnetHook.pathIn settings.nativeRoot) = none then [] else [hookCommand settings]

/-! ## The document -/

/-- What a document declares: a zone that owns its stack, its kernel release, and whether it has
IPv6. -/
structure Declares (file : Except SystemError (List UInt8)) (d : Declared) : Prop where
  loads : Zone.load file = .ok d.zone
  exclusive : d.zone.ipType = "exclusive"
  kernel : ∃ text, d.zone.attr "kernel-version" = some text ∧ KernelVersion.parse text = .ok d.kernel
  ipv6 : d.zone.attr "ipv6" = none ∧ d.ipv6 = true ∨ d.zone.attr "ipv6" = some "true" ∧ d.ipv6 = true
    ∨ d.zone.attr "ipv6" = some "false" ∧ d.ipv6 = false

theorem Declares.unique {file : Except SystemError (List UInt8)} {d d' : Declared}
    (h : Declares file d) (h' : Declares file d') : d = d' := by
  obtain ⟨zone, kernel, ipv6⟩ := d
  obtain ⟨zone', kernel', ipv6'⟩ := d'
  obtain rfl : zone = zone' := Except.ok.inj (h.loads.symm.trans h'.loads)
  obtain ⟨text, htext, hparse⟩ := h.kernel
  obtain ⟨text', htext', hparse'⟩ := h'.kernel
  obtain rfl : text = text' := Option.some.inj (htext.symm.trans htext')
  obtain rfl : kernel = kernel' := Except.ok.inj (hparse.symm.trans hparse')
  have hipv6 : ipv6 = ipv6' := by
    have hone := h.ipv6
    have hother := h'.ipv6
    dsimp only at hone hother
    grind
  rw [hipv6]

/-! ## The stages -/

/-- A stage adds these commands, and the process does not break off in it. -/
structure Runs {α : Type} (o : Outcome Stop α World) (w : World) (cs : List Command) : Prop where
  adds : w.Adds cs o.2
  goes : o.1 ≠ .error .aborted

theorem Runs.settle {α : Type} {o : Outcome BootError α World} {w : World} {cs : List Command}
    (h : w.Adds cs o.2) : Runs (settle o) w cs := by
  rcases o with ⟨e | a, v⟩
  · exact ⟨h, by simp [Boot.settle]⟩
  · exact ⟨h, by simp [Boot.settle]⟩

theorem settle_ok_iff {α : Type} {o : Outcome BootError α World} {a : α} :
    (settle o).1 = .ok a ↔ o.1 = .ok a := by
  rcases o with ⟨e | b, v⟩
  · simp [settle]
  · simp [settle]

theorem startManager_runs (w : World) :
    Runs (startManager m settings w) w [managerCommand settings] :=
  .settle ((Service.interfaceManager settings.nativeRoot).launch_adds m.toHost w).1

theorem kernelOf_ok_iff {z : Zone} {kernel : KernelVersion} :
    kernelOf z = .ok kernel ↔ z.ipType = "exclusive" ∧
      ∃ text, z.attr "kernel-version" = some text ∧ KernelVersion.parse text = .ok kernel := by
  unfold kernelOf Zone.isExclusive Zone.kernelVersion Zone.kernelAttr
  by_cases hexclusive : z.ipType = "exclusive"
  · rcases z.attr "kernel-version" with _ | text
    · simp [hexclusive]
    · rcases hparse : KernelVersion.parse text with e | v
      · simp [hexclusive, hparse]
      · simp [hexclusive, hparse]
  · simp [hexclusive]

theorem zoneIpv6_ok_iff {stated : Option String} {enabled : Bool} :
    zoneIpv6 stated = .ok enabled ↔ stated = none ∧ enabled = true ∨
      stated = some "true" ∧ enabled = true ∨ stated = some "false" ∧ enabled = false := by
  rcases stated with _ | value
  · simp [zoneIpv6, eq_comm]
  · unfold zoneIpv6
    by_cases htrue : value = "true"
    · simp [htrue, eq_comm]
    · by_cases hfalse : value = "false"
      · simp [hfalse, eq_comm]
      · simp [htrue, hfalse]

theorem loadZone_ok_iff {path : String} {file : Except SystemError (List UInt8)} {z : Zone} :
    loadZone path file = .ok z ↔ Zone.load file = .ok z := by
  unfold loadZone
  rcases Zone.load file with e | z'
  · simp
  · simp

theorem settlePolicy_runs (z : Zone) (kernel : KernelVersion) (w : World) :
    Runs (settlePolicy z kernel w) w [] := by
  unfold settlePolicy
  dsimp only
  rcases zoneIpv6 (z.attr Zone.ipv6Attr) with e | ipv6
  · exact ⟨Adds.refl w, by simp⟩
  · exact ⟨adds_tell _ w, by simp⟩

theorem settlePolicy_ok_iff {z : Zone} {kernel : KernelVersion} {w : World} {d : Declared} :
    (settlePolicy z kernel w).1 = .ok d ↔
      d.zone = z ∧ d.kernel = kernel ∧ zoneIpv6 (z.attr Zone.ipv6Attr) = .ok d.ipv6 := by
  unfold settlePolicy
  dsimp only
  obtain ⟨zone', kernel', ipv6'⟩ := d
  rcases zoneIpv6 (z.attr Zone.ipv6Attr) with e | ipv6
  · simp
  · simp [eq_comm]

/-- Reading the document starts no program. -/
theorem readZone_runs (w : World) : Runs (readZone m settings w) w [] := by
  unfold readZone
  rcases loadZone settings.zoneConfig (m.fileBytes w settings.zoneConfig) with e | z
  · exact ⟨Adds.refl w, by simp⟩
  · dsimp only
    rcases kernelOf z with e | kernel
    · exact ⟨Adds.refl w, by simp⟩
    · have hpolicy := settlePolicy_runs z kernel (w.tell [.ofZone z kernel])
      exact ⟨(adds_tell _ w).trans hpolicy.adds, hpolicy.goes⟩

/-- The document is read just when it declares all that it must. -/
theorem readZone_ok_iff {w : World} {d : Declared} :
    (readZone m settings w).1 = .ok d ↔ Declares (m.fileBytes w settings.zoneConfig) d := by
  have hdeclares : Declares (m.fileBytes w settings.zoneConfig) d ↔
      loadZone settings.zoneConfig (m.fileBytes w settings.zoneConfig) = .ok d.zone ∧
        kernelOf d.zone = .ok d.kernel ∧ zoneIpv6 (d.zone.attr Zone.ipv6Attr) = .ok d.ipv6 := by
    rw [loadZone_ok_iff, kernelOf_ok_iff, zoneIpv6_ok_iff]
    exact ⟨fun ⟨hloads, hexclusive, hkernel, hipv6⟩ => ⟨hloads, ⟨hexclusive, hkernel⟩, hipv6⟩,
      fun ⟨hloads, ⟨hexclusive, hkernel⟩, hipv6⟩ => ⟨hloads, hexclusive, hkernel, hipv6⟩⟩
  rw [hdeclares]
  unfold readZone
  rcases loadZone settings.zoneConfig (m.fileBytes w settings.zoneConfig) with e | z
  · simp
  · dsimp only
    rcases hkernel : kernelOf z with e | kernel
    · constructor
      · intro h
        cases h
      · rintro ⟨hz, hk, -⟩
        cases hz
        rw [hkernel] at hk
        cases hk
    · rw [settlePolicy_ok_iff]
      constructor
      · rintro ⟨rfl, rfl, hipv6⟩
        exact ⟨rfl, hkernel, hipv6⟩
      · rintro ⟨hz, hk, hipv6⟩
        cases hz
        rw [hkernel] at hk
        exact ⟨rfl, (Except.ok.inj hk).symm, hipv6⟩

/-! ## Network setup -/

/-- The commands of network setup: those for interfaces, addresses and leases, and behind them that
for autoconfiguration, if any. -/
def SetsUp (cs : List Command) : Prop :=
  ∃ tools discovery, cs = tools ++ discovery ∧ (∀ c ∈ tools, IsTool settings c) ∧
    (discovery = [] ∨ discovery = [discoveryCommand settings])

variable {settings} in
theorem onlyTools_of_ifconfig {w w' : World}
    (h : w.AddsOnly (·.path = settings.native "sbin/ifconfig") w') :
    w.AddsOnly (IsTool settings) w' := h.imp fun _ => Or.inl

variable {settings} in
theorem onlyTools_of_agent {w w' : World}
    (h : w.AddsOnly (·.path = settings.native "sbin/dhcpagent") w') :
    w.AddsOnly (IsTool settings) w' := h.imp fun _ => Or.inr

/-- What is done with an address object is one command for an interface at most. -/
theorem hold_onlyTools (ipv6 : Bool) (iface addr : String) (name : ObjectName) (w : World) :
    w.AddsOnly (IsTool settings) ((networkSetup m settings ipv6).assigner.hold iface addr name w).2 := by
  have hset := AddressTools.setAddress_adds (.fresh name) addr w
  unfold Assigner.hold Assigner.fillObject Setup.assigner networkSetup facilities
    AddressTools.addresses AddressTools.createObject
  dsimp only
  generalize AddressTools.setAddress (.fresh name) addr w = o at hset ⊢
  rcases o with ⟨e | obj, w'⟩
  · exact (hset.trans_nil (adds_tell _ w')).only
  · have hactivate := onlyTools_of_ifconfig ((addressTools m settings).activate_adds obj w')
    dsimp only
    generalize (addressTools m settings).activate obj w' = o at hactivate ⊢
    rcases o with ⟨e | _, w''⟩
    · exact (hset.only.trans hactivate).trans (adds_tell _ w'').only
    · exact (hset.only.trans hactivate).trans (adds_tell _ w'').only

variable {settings} in
/-- Whatever interface it is for, an operation starts tools only. -/
theorem networkSetup_keeps (hbound : settings.dhcpTimeout.toNat + 1 < UInt64.size) (ipv6 : Bool)
    (w : World) (base : String) :
    (networkSetup m settings ipv6).Keeps base fun w' => w.AddsOnly (IsTool settings) w' where
  plumb family w' h :=
    h.trans (onlyTools_of_ifconfig ((addressTools m settings).plumb_adds base family w'))
  linkLocal w' h :=
    h.trans (onlyTools_of_ifconfig ((addressTools m settings).bringUpLinkLocal_adds base w'))
  addLogical family w' h :=
    h.trans (onlyTools_of_ifconfig ((addressTools m settings).addLogical_adds base family w'))
  hold iface addr name w' h := h.trans (hold_onlyTools m settings ipv6 iface addr name w')
  ensureRunning w' h :=
    h.trans (onlyTools_of_agent ((leaseTools m settings).ensureRunning_adds _ w'))
  startLease iface w' h :=
    h.trans (onlyTools_of_ifconfig ((leaseTools m settings).startLease_adds hbound iface w'))
  send message w' h := h.trans (adds_send message _ w').only
  tell _ w' h := h.trans (adds_tell _ w').only

theorem finish_adds (ipv6 : Bool) (p : Progress World) :
    ∃ discovery, (discovery = [] ∨ discovery = [discoveryCommand settings]) ∧
      p.ledger.world.Adds discovery ((networkSetup m settings ipv6).finish p).2.ledger.world := by
  unfold Setup.finish
  split
  · have hstart := (adds_tell [.autoconfStarting] p.ledger.world).trans
      ((Service.neighborDiscovery settings.nativeRoot).start_adds m.toHost _)
    refine ⟨_, .inr rfl, ?_⟩
    unfold networkSetup facilities autoconf
    dsimp only
    generalize (Service.neighborDiscovery settings.nativeRoot).start m.toHost _ = o at hstart ⊢
    rcases o with ⟨e | _, w⟩
    · exact hstart
    · exact hstart
  · exact ⟨[], .inl rfl, Adds.refl _⟩

variable {settings} in
/-- The commands of network setup, up to whatever ends it. -/
theorem networkSetup_adds (hbound : settings.dhcpTimeout.toNat + 1 < UInt64.size) (ipv6 : Bool)
    (nets : List Net) (w : World) :
    ∃ cs, SetsUp settings cs ∧
      w.Adds cs ((networkSetup m settings ipv6).run nets w).2.ledger.world := by
  obtain ⟨p, ⟨tools, htools, hadds⟩, hrun | ⟨e, hrun⟩⟩ :=
    Setup.Keeps.run (networkSetup_keeps m hbound ipv6 w) nets (s := w) (Adds.refl w).only
  · obtain ⟨discovery, hdiscovery, hfinish⟩ := finish_adds m settings ipv6 p
    rw [hrun]
    exact ⟨_, ⟨tools, discovery, rfl, htools, hdiscovery⟩, hadds.trans hfinish⟩
  · rw [hrun]
    exact ⟨tools, ⟨tools, [], (List.append_nil _).symm, htools, .inl rfl⟩, hadds⟩

variable {settings} in
theorem setUp_runs (hbound : settings.dhcpTimeout.toNat + 1 < UInt64.size) (d : Declared)
    {w : World} (hw : w.aborted = false) :
    (∃ cs, SetsUp settings cs ∧ Runs (setUp m settings d w) w cs) ∧
      ∀ report, (setUp m settings d w).1 = .ok report ↔
        ((networkSetup m settings d.ipv6).run d.zone.nets w).1 = .ok report := by
  obtain ⟨cs, hcs, hadds⟩ := networkSetup_adds m hbound d.ipv6 d.zone.nets w
  unfold setUp
  generalize (networkSetup m settings d.ipv6).run d.zone.nets w = o at hadds ⊢
  obtain ⟨result, p⟩ := o
  dsimp only at hadds ⊢
  rw [if_neg (by rw [hadds.aborted, hw]; simp)]
  rcases result with e | report
  · exact ⟨⟨cs, hcs, hadds.trans_nil (adds_tell _ _), by simp⟩, by simp⟩
  · exact ⟨⟨cs, hcs, hadds.trans_nil (adds_tell _ _), by simp⟩, by simp⟩

/-! ## The stages behind network setup -/

theorem map_settingCommand (kernel : KernelVersion) :
    ((BufferProfile.ofVersion kernel).plan Protocol.all).map (addressTools m settings).settingCommand
      = limitCommands settings kernel := by
  unfold limitCommands
  generalize BufferProfile.ofVersion kernel = profile
  rfl

theorem length_limitCommands (kernel : KernelVersion) :
    (limitCommands settings kernel).length = 12 := rfl

/-- All limits are tried, whichever cannot be set. -/
theorem setBuffers_runs (d : Declared) (w : World) :
    Runs (setBuffers m settings d w) w (limitCommands settings d.kernel) ∧
      (setBuffers m settings d w).1 = .ok () := by
  have happly := (addressTools m settings).apply_adds (bufferProperties m settings) rfl
    (fun _ w => adds_tell _ w) (BufferProfile.ofVersion d.kernel) Protocol.all w
  rw [map_settingCommand] at happly
  unfold setBuffers
  dsimp only
  generalize (BufferProfile.ofVersion d.kernel).apply _ _ w = o at happly ⊢
  exact ⟨⟨happly.trans_nil (adds_tell _ _), by simp⟩, rfl⟩

theorem installRoute_adds (q : RouteRequest) (w : World) :
    w.Adds [] (installRoute (routes m) q w).2 := by
  unfold installRoute routes
  rcases messageFor _ q with e | message
  · exact Adds.refl w
  · have hsend := adds_send message.encode (m.routeWrite w message.encode) w
    dsimp only
    generalize m.routeWrite w message.encode = r at hsend ⊢
    rcases r with e | written
    · exact hsend
    · dsimp only
      split <;> exact hsend

/-- One line of a feed starts no program. -/
theorem takeLine_adds {tell : FeedNote → World → World}
    (htell : ∀ n (w : World), w.Adds [] (tell n w)) (bytes : List UInt8) (p : FeedProgress World) :
    p.channel.Adds [] (RouteFeed.takeLine (routes m) tell bytes p).2.channel := by
  unfold RouteFeed.takeLine
  rcases RouteFeed.lineText bytes with e | line
  · exact Adds.refl p.channel
  · have hflag : p.channel.Adds [] (RouteFeed.noteFlag tell line p).channel := by
      unfold RouteFeed.noteFlag
      rcases RouteFeed.oddFlag? line with _ | odd
      · exact Adds.refl p.channel
      · exact htell _ p.channel
    dsimp only
    generalize RouteFeed.noteFlag tell line p = p' at hflag ⊢
    unfold applyFeedLine
    rcases FeedLine.parse line with e | l
    · exact hflag
    · have hroute := hflag.trans (installRoute_adds m l.request p'.channel)
      dsimp only
      generalize installRoute (routes m) l.request p'.channel = o at hroute ⊢
      rcases o with ⟨e | _, w⟩
      · exact hroute
      · exact hroute.trans (htell _ w)

theorem conclude_adds {tell : FeedNote → World → World}
    (htell : ∀ n (w : World), w.Adds [] (tell n w)) (path : String) (c : Completion) (w : World) :
    w.Adds [] (RouteFeed.conclude (routes m) tell path c { channel := w }).2.channel := by
  have hlines := Outcome.each_keeps (f := RouteFeed.takeLine (routes m) tell)
    (P := fun p => w.Adds [] p.channel)
    (fun bytes p h => h.trans (takeLine_adds m htell bytes p)) (Text.terminated 10 c.stdout)
    (s := { channel := w }) (Adds.refl w)
  unfold RouteFeed.conclude RouteFeed.takeLines
  generalize Outcome.each (RouteFeed.takeLine (routes m) tell) _ _ = o at hlines ⊢
  rcases o with ⟨e | _, p⟩
  · exact hlines
  · rw [Outcome.andThen_ok]
    split <;> exact hlines

theorem runFeed_runs (w : World) :
    Runs (runFeed m settings w) w (feedCommands m settings) := by
  have hbegin := RouteFeed.begin?_adds m.toHost (RouteFeed.pathIn settings.nativeRoot) w
  unfold runFeed feedCommands
  dsimp only
  generalize RouteFeed.begin? m.toHost (RouteFeed.pathIn settings.nativeRoot) w = o at hbegin ⊢
  rcases o with ⟨e | _ | c, w'⟩
  · exact ⟨hbegin, by simp⟩
  · exact ⟨hbegin, by simp⟩
  · have htell : ∀ (n : FeedNote) (w : World), w.Adds [] (w.tell (LogEntry.ofFeedNote n)) :=
      fun _ w => adds_tell _ w
    have hlines := hbegin.trans_nil
      (conclude_adds m htell (RouteFeed.pathIn settings.nativeRoot) c w')
    dsimp only
    generalize RouteFeed.conclude (routes m) _ _ c { channel := w' } = o at hlines ⊢
    rcases o with ⟨e | n, p⟩
    · exact ⟨hlines, by simp⟩
    · exact ⟨hlines.trans_nil (adds_tell _ _), by simp⟩

theorem runHook_runs (w : World) :
    Runs (runHook m settings w) w (hookCommands m settings) :=
  .settle (PostnetHook.run_adds m.toHost _ w).1

theorem runHook_ok_iff (w : World) :
    (runHook m settings w).1 = .ok () ↔
      PostnetHook.Passes m.toHost (PostnetHook.pathIn settings.nativeRoot) w :=
  settle_ok_iff.trans (PostnetHook.run_adds m.toHost _ w).2

end Boot

end ZoneNet
