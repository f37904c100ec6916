import Mathlib.Data.List.Nodup
import ZoneNet.Proofs.Boot.Stages

/-!
# Boots are fail-stop

A boot starts its programs stage by stage and stops at the first stage that fails.

* `stages_ends`, `run_course` — how far a boot gets, and every command on the way.
* `Course.done_iff`, `Course.once` — the end of a boot, and the one start of the manager.
* `failStop` — the order of the programs, the guard of each stage, and the end of the process.
-/

namespace ZoneNet

open World Text

namespace Boot

variable (m : Machine) (settings : Settings)

/-! ## How far a boot gets -/

/-- What has happened before the first stage. -/
def beforeStages : World := World.tell (opening m settings) []

/-- What has happened before the zone document is read. -/
def beforeReading : World := (startManager m settings (beforeStages m settings)).2

/-- What has happened before network setup. -/
def beforeSetup : World := (readZone m settings (beforeReading m settings)).2

/-- What has happened before the buffer limits are set. -/
def beforeBuffers (d : Declared) : World := (setUp m settings d (beforeSetup m settings)).2

/-- What has happened before the route feed is run. -/
def beforeFeed (d : Declared) : World := (setBuffers m settings d (beforeBuffers m settings d)).2

/-- What has happened before the hook is run. -/
def beforeHook (d : Declared) : World := (runFeed m settings (beforeFeed m settings d)).2

/-- The manager was started and has exited with zero. -/
def Managed : Prop :=
  ∃ c, World.answer m.toHost (managerCommand settings)
      ((beforeStages m settings).tell
        [.serviceStarting (Service.interfaceManager settings.nativeRoot)]) = .ok c ∧
    c.ending = .exited 0

/-- The manager is there, and the zone document declares what it must. -/
def Cleared (d : Declared) : Prop :=
  Managed m settings ∧ Declares (m.fileBytes (beforeReading m settings) settings.zoneConfig) d

/-- Network setup has returned an account of its run. -/
def Configured (d : Declared) : Prop :=
  Cleared m settings d ∧
    ∃ report, ((networkSetup m settings d.ipv6).run d.zone.nets (beforeSetup m settings)).1
      = .ok report

/-- The route feed has returned the number of its routes. -/
def Fed (d : Declared) : Prop :=
  Configured m settings d ∧ ∃ n, (runFeed m settings (beforeFeed m settings d)).1 = .ok n

/-- The hook was no obstacle either. -/
def Completed (d : Declared) : Prop :=
  Fed m settings d ∧
    PostnetHook.Passes m.toHost (PostnetHook.pathIn settings.nativeRoot) (beforeHook m settings d)

theorem startManager_ok_iff :
    (startManager m settings (beforeStages m settings)).1 = .ok () ↔ Managed m settings :=
  settle_ok_iff.trans
    ((Service.interfaceManager settings.nativeRoot).launch_adds m.toHost (beforeStages m settings)).2

/-- Up to network setup nothing breaks the process off. -/
theorem aborted_beforeSetup : (beforeSetup m settings).aborted = false := by
  have hmanager := startManager_runs m settings (beforeStages m settings)
  have hread := readZone_runs m settings (beforeReading m settings)
  exact (hread.adds.aborted.trans hmanager.adds.aborted).trans (adds_tell _ []).aborted

/-- How far a boot gets, with every command on the way; the flag says that all is done. -/
inductive Course : List Command → Bool → Prop where
  | uncleared (hends : ∀ d, ¬Cleared m settings d) : Course [managerCommand settings] false
  | unconfigured {d : Declared} {cs : List Command} (h : Cleared m settings d)
      (hcs : SetsUp settings cs) (hends : ¬Configured m settings d) :
      Course (managerCommand settings :: cs) false
  | unfed {d : Declared} {cs : List Command} (h : Configured m settings d) (hcs : SetsUp settings cs)
      (hends : ¬Fed m settings d) :
      Course (managerCommand settings :: cs ++ limitCommands settings d.kernel
        ++ feedCommands m settings) false
  | ended {d : Declared} {cs : List Command} {done : Bool} (h : Fed m settings d)
      (hcs : SetsUp settings cs) (hdone : done = true ↔ Completed m settings d) :
      Course (managerCommand settings :: cs ++ limitCommands settings d.kernel
        ++ feedCommands m settings ++ hookCommands m settings) done

/-- What is left of a boot, from a history on in which these commands were to be started. -/
def Ends (o : Outcome Stop Unit World) (w : World) (before : List Command) : Prop :=
  ∃ cs done, Runs o w cs ∧ Course m settings (before ++ cs) done ∧ (done = true ↔ o.1 = .ok ())

section

variable {m settings} {α : Type} {o : Outcome Stop α World} {f : α → Step Unit} {w : World}
  {before cs : List Command}

theorem Ends.stop (h : Runs o w cs) {e : Stop} (he : o.1 = .error e)
    (hcourse : Course m settings (before ++ cs) false) : Ends m settings (o.andThen f) w before := by
  obtain ⟨result, v⟩ := o
  cases he
  exact ⟨cs, false, ⟨h.adds, fun h' => h.goes (congrArg _ (Except.error.inj h'))⟩, hcourse, by simp⟩

theorem Ends.next (h : Runs o w cs) {a : α} (ha : o.1 = .ok a)
    (hrest : Ends m settings (f a o.2) o.2 (before ++ cs)) :
    Ends m settings (o.andThen f) w before := by
  obtain ⟨result, v⟩ := o
  cases ha
  obtain ⟨cs', done, hruns, hcourse, hdone⟩ := hrest
  rw [List.append_assoc] at hcourse
  exact ⟨cs ++ cs', done, ⟨h.adds.trans hruns.adds, hruns.goes⟩, hcourse, hdone⟩

end

variable {settings} in
/-- Each stage starts only if those before it have succeeded. -/
theorem stages_ends (hbound : settings.dhcpTimeout.toNat + 1 < UInt64.size) :
    Ends m settings (stages m settings (beforeStages m settings)) (beforeStages m settings) [] := by
  have hmanager := startManager_runs m settings (beforeStages m settings)
  unfold stages
  rcases hmanaged : (startManager m settings (beforeStages m settings)).1 with e | _
  · refine .stop hmanager hmanaged (.uncleared fun d h => ?_)
    rw [(startManager_ok_iff m settings).2 h.1] at hmanaged
    cases hmanaged
  refine .next hmanager hmanaged ?_
  change Ends m settings _ (beforeReading m settings) _
  have hread := readZone_runs m settings (beforeReading m settings)
  rcases hdeclared : (readZone m settings (beforeReading m settings)).1 with e | d
  · refine .stop hread hdeclared (.uncleared fun d h => ?_)
    rw [(readZone_ok_iff m settings).2 h.2] at hdeclared
    cases hdeclared
  have hcleared : Cleared m settings d :=
    ⟨(startManager_ok_iff m settings).1 hmanaged, (readZone_ok_iff m settings).1 hdeclared⟩
  refine .next hread hdeclared ?_
  change Ends m settings _ (beforeSetup m settings) _
  obtain ⟨⟨cs, hcs, hsetup⟩, hreport⟩ := setUp_runs m hbound d (aborted_beforeSetup m settings)
  rcases hset : (setUp m settings d (beforeSetup m settings)).1 with e | report
  · refine .stop hsetup hset (.unconfigured hcleared hcs ?_)
    rintro ⟨-, report, hrun⟩
    rw [(hreport report).2 hrun] at hset
    cases hset
  have hconfigured : Configured m settings d := ⟨hcleared, report, (hreport report).1 hset⟩
  refine .next hsetup hset ?_
  change Ends m settings _ (beforeBuffers m settings d) _
  obtain ⟨hbuffers, hlimits⟩ := setBuffers_runs m settings d (beforeBuffers m settings d)
  refine .next hbuffers hlimits ?_
  change Ends m settings _ (beforeFeed m settings d) _
  have hfeed := runFeed_runs m settings (beforeFeed m settings d)
  rcases hfed : (runFeed m settings (beforeFeed m settings d)).1 with e | n
  · refine .stop hfeed hfed (.unfed hconfigured hcs ?_)
    rintro ⟨-, n, hn⟩
    rw [hn] at hfed
    cases hfed
  refine .next hfeed hfed ?_
  change Ends m settings _ (beforeHook m settings d) _
  have hfed' : Fed m settings d := ⟨hconfigured, n, hfed⟩
  have hhook := runHook_runs m settings (beforeHook m settings d)
  have hpasses := runHook_ok_iff m settings (beforeHook m settings d)
  by_cases hcompleted : Completed m settings d
  · exact ⟨_, true, hhook, .ended hfed' hcs (by simp [hcompleted]),
      fun _ => hpasses.2 hcompleted.2, fun _ => rfl⟩
  · refine ⟨_, false, hhook, .ended hfed' hcs (by simp [hcompleted]), ?_⟩
    simp only [Bool.false_eq_true, false_iff]
    exact fun h => hcompleted ⟨hfed', hpasses.1 h⟩

/-- How the process ends if a stage has failed. -/
def failedExit : Exit := if settings.pauseOnFatal then .paused else .status 1

theorem run_world (filter : LogFilter) : ∃ last,
    (run m settings filter).world = (stages m settings (beforeStages m settings)).2.tell last :=
  ⟨_, rfl⟩

theorem run_exit (filter : LogFilter) : (run m settings filter).exit
    = (ending settings.pauseOnFatal (stages m settings (beforeStages m settings)).1).1 := rfl

variable {settings} in
/-- How far a boot gets, and how its process ends. -/
theorem run_course (filter : LogFilter) (hbound : settings.dhcpTimeout.toNat + 1 < UInt64.size) :
    ∃ done, Course m settings (run m settings filter).world.attempts done ∧
      (run m settings filter).exit = if done then .status 0 else failedExit settings := by
  obtain ⟨cs, done, hruns, hcourse, hdone⟩ := stages_ends m hbound
  obtain ⟨last, hworld⟩ := run_world m settings filter
  have hattempts : (run m settings filter).world.attempts = cs := by
    rw [hworld, (hruns.adds.trans_nil (adds_tell last _)).attempts,
      show (beforeStages m settings).attempts = [] from (adds_tell _ []).attempts]
    rfl
  refine ⟨done, ?_, ?_⟩
  · rw [hattempts]
    exact hcourse
  · rw [run_exit]
    have hgoes := hruns.goes
    generalize (stages m settings (beforeStages m settings)).1 = result at hdone hgoes ⊢
    rcases result with (e | _) | _
    · obtain rfl : done = false := by simpa using hdone
      unfold ending failedExit
      cases settings.pauseOnFatal <;> rfl
    · exact absurd rfl hgoes
    · obtain rfl : done = true := by simpa using hdone
      rfl

/-! ## The order of the programs -/

/-- The paths of all programs that a boot may start. -/
def programPaths : List String :=
  [(managerCommand settings).path, settings.native "sbin/ifconfig",
    settings.native "sbin/dhcpagent", (discoveryCommand settings).path,
    settings.native "usr/sbin/ipadm", (feedCommand settings).path, (hookCommand settings).path]

theorem joinPath_injective {base rel rel' : String} (h : rel.toList.head? ≠ some '/')
    (h' : rel'.toList.head? ≠ some '/') (heq : joinPath base rel = joinPath base rel') :
    rel = rel' := by
  unfold joinPath at heq
  dsimp only at heq
  rw [if_neg h, if_neg h'] at heq
  split at heq
  · exact String.toList_inj.1 (List.append_cancel_left (String.ofList_injective heq))
  · exact String.toList_inj.1
      (List.cons_injective (List.append_cancel_left (String.ofList_injective heq)))

theorem nodup_map_joinPath {base : String} {rels : List String}
    (hrelative : ∀ rel ∈ rels, rel.toList.head? ≠ some '/') (hnodup : rels.Nodup) :
    (rels.map (joinPath base)).Nodup :=
  hnodup.map_on fun rel hrel rel' hrel' => joinPath_injective (hrelative rel hrel)
    (hrelative rel' hrel')

/-- Wherever the native tree is, no two programs are one. -/
theorem nodup_programPaths : (programPaths settings).Nodup := by
  have hpaths : programPaths settings = List.map (joinPath settings.nativeRoot)
      ["lib/inet/ipmgmtd", "sbin/ifconfig", "sbin/dhcpagent", "usr/lib/inet/in.ndpd",
        "usr/sbin/ipadm", "usr/lib/brand/lx/routeinfo", "usr/lib/brand/lx/lx_hook_postnet"] := rfl
  rw [hpaths]
  exact nodup_map_joinPath (by decide) (by decide)

section

variable {m settings} {d d' : Declared} {cs : List Command} {done : Bool}

theorem Cleared.unique (h : Cleared m settings d) (h' : Cleared m settings d') : d = d' :=
  h.2.unique h'.2

/-- A boot is done just when the last of its stages has succeeded. -/
theorem Course.done_iff (h : Course m settings cs done) :
    done = true ↔ ∃ d, Completed m settings d := by
  cases h with
  | uncleared hends => exact ⟨nofun, fun ⟨d, h'⟩ => absurd h'.1.1.1 (hends d)⟩
  | unconfigured h _ hends =>
    refine ⟨nofun, fun ⟨d', h'⟩ => ?_⟩
    obtain rfl := h.unique h'.1.1.1
    exact absurd h'.1.1 hends
  | unfed h _ hends =>
    refine ⟨nofun, fun ⟨d', h'⟩ => ?_⟩
    obtain rfl := h.1.unique h'.1.1.1
    exact absurd h'.1 hends
  | ended h _ hdone =>
    refine ⟨fun ht => ⟨_, hdone.1 ht⟩, fun ⟨d', h'⟩ => ?_⟩
    obtain rfl := h.1.1.unique h'.1.1.1
    exact hdone.2 h'

/-- Behind the manager there are other programs only. -/
theorem SetsUp.path_mem (h : SetsUp settings cs) {c : Command} (hc : c ∈ cs) :
    c.path ∈ (programPaths settings).tail := by
  obtain ⟨tools, discovery, rfl, htools, hdiscovery⟩ := h
  rcases List.mem_append.1 hc with hc | hc
  · rcases htools c hc with hpath | hpath
    · simp [programPaths, hpath]
    · simp [programPaths, hpath]
  · rcases hdiscovery with rfl | rfl
    · cases hc
    · obtain rfl := List.mem_singleton.1 hc
      simp [programPaths]

theorem path_of_mem_limitCommands {kernel : KernelVersion} {c : Command}
    (hc : c ∈ limitCommands settings kernel) : c.path = settings.native "usr/sbin/ipadm" := by
  unfold limitCommands at hc
  simp only [List.mem_flatMap, List.mem_cons, List.not_mem_nil, or_false] at hc
  obtain ⟨transport, -, rfl | rfl | rfl⟩ := hc <;> rfl

theorem mem_feedCommands {c : Command} (hc : c ∈ feedCommands m settings) :
    c = feedCommand settings := by
  unfold feedCommands at hc
  split at hc
  · exact List.mem_singleton.1 hc
  · cases hc

theorem mem_hookCommands {c : Command} (hc : c ∈ hookCommands m settings) :
    c = hookCommand settings := by
  unfold hookCommands at hc
  split at hc
  · cases hc
  · exact List.mem_singleton.1 hc

theorem Course.path_mem (h : Course m settings cs done) {c : Command} (hc : c ∈ cs.tail) :
    c.path ∈ (programPaths settings).tail := by
  have hlimit {kernel : KernelVersion} (hc : c ∈ limitCommands settings kernel) :
      c.path ∈ (programPaths settings).tail := by
    simp [programPaths, path_of_mem_limitCommands hc]
  have hfeed (hc : c ∈ feedCommands m settings) : c.path ∈ (programPaths settings).tail := by
    simp [programPaths, mem_feedCommands hc]
  have hhook (hc : c ∈ hookCommands m settings) : c.path ∈ (programPaths settings).tail := by
    simp [programPaths, mem_hookCommands hc]
  cases h with
  | uncleared => cases hc
  | unconfigured _ hcs => exact hcs.path_mem hc
  | unfed _ hcs =>
    simp only [List.cons_append, List.tail_cons, List.mem_append] at hc
    rcases hc with (hc | hc) | hc
    · exact hcs.path_mem hc
    · exact hlimit hc
    · exact hfeed hc
  | ended _ hcs =>
    simp only [List.cons_append, List.tail_cons, List.mem_append] at hc
    rcases hc with ((hc | hc) | hc) | hc
    · exact hcs.path_mem hc
    · exact hlimit hc
    · exact hfeed hc
    · exact hhook hc

/-- The manager is started once. -/
theorem Course.once (h : Course m settings cs done) :
    ∀ c ∈ cs.tail, c.path ≠ (managerCommand settings).path := by
  intro c hc hpath
  have hmem := h.path_mem hc
  rw [hpath] at hmem
  exact (List.nodup_cons.1 (nodup_programPaths settings)).1 hmem

end

/-- A boot is fail-stop. The manager is started first and never again. Tools and autoconfiguration
come next, and nothing at all unless the manager has exited with zero and the document declares what
it must. Then come the twelve commands for buffer limits, all of them if network setup has returned
an account of its run and otherwise none, nor any behind them. The feed comes next, and the hook
last and only behind a feed that has succeeded. The process exits with zero just when the last stage
has succeeded, and goes the way of failures otherwise. -/
theorem failStop (filter : LogFilter) (hbound : settings.dhcpTimeout.toNat + 1 < UInt64.size) :
    let report := run m settings filter
    ∃ tools discovery limits feed hook : List Command,
      report.world.attempts
        = managerCommand settings :: (tools ++ discovery ++ limits ++ feed ++ hook) ∧
      (∀ c ∈ tools ++ discovery ++ limits ++ feed ++ hook,
        c.path ≠ (managerCommand settings).path) ∧
      (∀ c ∈ tools, IsTool settings c) ∧
      (discovery = [] ∨ discovery = [discoveryCommand settings]) ∧
      ((∃ d, Cleared m settings d) ∨ tools ++ discovery ++ limits ++ feed ++ hook = []) ∧
      ((∃ d, Configured m settings d ∧ limits = limitCommands settings d.kernel ∧
          limits.length = 12 ∧ feed = feedCommands m settings) ∨
        (∀ d, ¬Configured m settings d) ∧ limits ++ feed ++ hook = []) ∧
      ((∃ d, Fed m settings d ∧ hook = hookCommands m settings) ∨
        (∀ d, ¬Fed m settings d) ∧ hook = []) ∧
      (report.exit = .status 0 ↔ ∃ d, Completed m settings d) ∧
      (report.exit ≠ .status 0 → report.exit = failedExit settings) ∧
      (programPaths settings).Nodup := by
  intro report
  obtain ⟨done, hcourse, hexit⟩ := run_course m filter hbound
  have honce := hcourse.once
  have hdone : report.exit = .status 0 ↔ ∃ d, Completed m settings d := by
    rw [hexit, ← hcourse.done_iff]
    cases done
    · unfold failedExit
      cases settings.pauseOnFatal <;> simp
    · simp
  have hfailed : report.exit ≠ .status 0 → report.exit = failedExit settings := by
    intro hne
    cases done
    · exact hexit
    · exact absurd hexit hne
  have hnodup := nodup_programPaths settings
  change Course m settings report.world.attempts done at hcourse
  change ∀ c ∈ report.world.attempts.tail, _ at honce
  generalize report.world.attempts = cs at hcourse honce ⊢
  cases hcourse with
  | uncleared hends =>
    refine ⟨[], [], [], [], [], rfl, honce, nofun, .inl rfl, .inr rfl, ?_, ?_, hdone, hfailed, hnodup⟩
    · exact .inr ⟨fun d h => hends d h.1, rfl⟩
    · exact .inr ⟨fun d h => hends d h.1.1, rfl⟩
  | @unconfigured d cs h hcs hends =>
    obtain ⟨tools, discovery, rfl, htools, hdiscovery⟩ := hcs
    have hnone : ∀ d', ¬Configured m settings d' := fun d' h' => hends (h.unique h'.1 ▸ h')
    refine ⟨tools, discovery, [], [], [], by simp, by simpa using honce, htools, hdiscovery,
      .inl ⟨d, h⟩, .inr ⟨hnone, rfl⟩, .inr ⟨fun d' h' => hnone d' h'.1, rfl⟩, hdone, hfailed, hnodup⟩
  | @unfed d cs h hcs hends =>
    obtain ⟨tools, discovery, rfl, htools, hdiscovery⟩ := hcs
    have hnone : ∀ d', ¬Fed m settings d' := fun d' h' => hends (h.1.unique h'.1.1 ▸ h')
    refine ⟨tools, discovery, limitCommands settings d.kernel, feedCommands m settings, [], by simp,
      by simpa using honce, htools, hdiscovery, .inl ⟨d, h.1⟩,
      .inl ⟨d, h, rfl, length_limitCommands settings d.kernel, rfl⟩,
      .inr ⟨hnone, rfl⟩, hdone, hfailed, hnodup⟩
  | @ended d cs _ h hcs _ =>
    obtain ⟨tools, discovery, rfl, htools, hdiscovery⟩ := hcs
    refine ⟨tools, discovery, limitCommands settings d.kernel, feedCommands m settings,
      hookCommands m settings, by simp, by simpa using honce, htools, hdiscovery, .inl ⟨d, h.1.1⟩,
      .inl ⟨d, h.1, rfl, length_limitCommands settings d.kernel, rfl⟩, .inl ⟨d, h, rfl⟩,
      hdone, hfailed, hnodup⟩

/-- A machine on which every program is there and exits with zero, for a zone without interfaces. -/
def willing : Machine where
  respond _ _ := .ok { ending := .exited 0 }
  node _ := some .file
  routeWrite _ message := .ok message.length
  fileBytes _ _ := .ok (Utf8.encode ("\x7b\"zonename\":\"z\",\"attrs\":["
    ++ "\x7b\"name\":\"kernel-version\",\"value\":\"4.4\"\x7d]\x7d"))

/-- With the default settings the boot of that machine goes through all stages, down to the hook. -/
theorem failStop_willing :
    ({} : Settings).dhcpTimeout.toNat + 1 < UInt64.size ∧
      (run willing {} .byDefault).exit = .status 0 ∧ (∃ d, Completed willing {} d) ∧
      ∃ tools discovery limits feed, (run willing {} .byDefault).world.attempts
        = managerCommand {} ::
          (tools ++ discovery ++ limits ++ feed ++ hookCommands willing {}) := by
  have hexit : (run willing {} .byDefault).exit = .status 0 := by decide +kernel
  obtain ⟨tools, discovery, limits, feed, hook, hattempts, -, -, -, -, -, hhook, hdone, -⟩ :=
    failStop willing {} .byDefault (by decide)
  have hcompleted := hdone.1 hexit
  refine ⟨by decide, hexit, hcompleted, tools, discovery, limits, feed, ?_⟩
  rcases hhook with ⟨-, -, rfl⟩ | ⟨hnone, -⟩
  · exact hattempts
  · obtain ⟨d, hd⟩ := hcompleted
    exact absurd hd.1 (hnone d)

end Boot

end ZoneNet
