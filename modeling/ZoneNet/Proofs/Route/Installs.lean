import ZoneNet.Proofs.Route.MessageLayout
import ZoneNet.Route.Install

/-!
# Routes are written once or not at all

Requests are put to one channel, one after the other and going on after errors; every message is
kept with the channel's answer. A request for which there is a message is written once, whatever the
channel answers, and any other request leaves the channel alone.

* `installRoute_goes` — the ways in which one request can go.
* `Install.Goes.once` — what was written tells what came of a request, and the other way round.
* `installAll_once` — any number of requests.
-/

namespace ZoneNet

variable {σ : Type}

/-! ## Messages and answers -/

/-- A message that was put to the channel, and the channel's answer. -/
abbrev Sent := List UInt8 × Except SystemError Nat

/-- The channel with every message kept. -/
def RouteChannel.traced (ch : RouteChannel σ) : RouteChannel (σ × List Sent) where
  processId := ch.processId
  interfaceIndex := ch.interfaceIndex
  send message s :=
    ((ch.send message s.1).1, (ch.send message s.1).2, s.2 ++ [(message, (ch.send message s.1).1)])

/-- Installs routes in order, goes on after errors, and tells what came of each. -/
def installAll (ch : RouteChannel σ) : List RouteRequest → σ → List (Except RouteError Unit) × σ
  | [], s => ([], s)
  | q :: requests, s =>
    let (result, s) := installRoute ch q s
    let (results, s) := installAll ch requests s
    (result :: results, s)

/-- The index of the interface that a request is bound to, if it fits 16 bits; without an interface
it is zero. -/
def RouteChannel.indexFor (ch : RouteChannel σ) (q : RouteRequest) : Option Nat :=
  match q.interface with
  | none => some 0
  | some name => ((ch.interfaceIndex name).map UInt32.toNat).filter (· ≤ 65535)

/-- The prefix of a request, if there is one, is no longer than an address. -/
def RouteRequest.PrefixFits (q : RouteRequest) : Prop :=
  ∀ network bits, q.destination = some (network, bits) → bits ≤ 32

/-- What comes of a message by the channel's answer. -/
def RouteError.verdict : Except SystemError Nat → Except RouteError Unit
  | .error cause => .error (.channel cause)
  | .ok n => if n < 124 then .error (.incompleteWrite n 124) else .ok ()

/-! ## One request -/

/-- A request, what came of it, and what was written for it. -/
structure Install where
  request : RouteRequest
  result : Except RouteError Unit
  sent : List Sent

namespace Install

/-- The ways in which a request can go. The interface is looked up before the prefix is looked at,
and nothing is written before both are found good. -/
inductive Goes (ch : RouteChannel σ) : Install → Prop where
  | unknown {q : RouteRequest} {name : String} (hname : q.interface = some name)
      (hindex : ch.indexFor q = none) : Goes ch ⟨q, .error (.unknownInterface name), []⟩
  | overlong {q : RouteRequest} {i : Nat} {network : IPv4} {bits : UInt8}
      (hindex : ch.indexFor q = some i) (hdestination : q.destination = some (network, bits))
      (hbits : 32 < bits) : Goes ch ⟨q, .error (.invalidPrefix bits), []⟩
  | written {q : RouteRequest} {i : Nat} {m : RouteMessage} (answer : Except SystemError Nat)
      (hindex : ch.indexFor q = some i)
      (hmessage : RouteMessage.ofRequest q (UInt16.ofNat i) ch.processId = .ok m) :
      Goes ch ⟨q, RouteError.verdict answer, [(m.encode, answer)]⟩

/-- What is written for a request, and what comes of it. -/
structure Once (ch : RouteChannel σ) (x : Install) : Prop where
  /-- A request with an index and a prefix that fit is written once, as 124 bytes that carry what
  the request says. -/
  written : ∀ i, ch.indexFor x.request = some i → x.request.PrefixFits →
    ∃ m answer, RouteMessage.ofRequest x.request (UInt16.ofNat i) ch.processId = .ok m ∧
      x.sent = [(m.encode, answer)] ∧
      RouteMessage.Carries m.encode x.request (UInt16.ofNat i) ch.processId
  unwritten : ¬((∃ i, ch.indexFor x.request = some i) ∧ x.request.PrefixFits) → x.sent = []
  /-- The index in a message is the whole index of the interface. -/
  index : ∀ bytes answer, (bytes, answer) ∈ x.sent →
    ch.indexFor x.request = some (littleValue (fieldAt bytes 4 2))
  ok : x.result = .ok () ↔ ∃ bytes n, x.sent = [(bytes, .ok n)] ∧ 124 ≤ n
  incomplete : ∀ n expected, x.result = .error (.incompleteWrite n expected) ↔
    expected = 124 ∧ n < 124 ∧ ∃ bytes, x.sent = [(bytes, .ok n)]
  channel : ∀ cause, x.result = .error (.channel cause) ↔ ∃ bytes, x.sent = [(bytes, .error cause)]
  unknown : ∀ name, x.result = .error (.unknownInterface name) ↔
    x.request.interface = some name ∧ ch.indexFor x.request = none
  overlong : ∀ bits, x.result = .error (.invalidPrefix bits) ↔
    (∃ i, ch.indexFor x.request = some i) ∧
      ∃ network, x.request.destination = some (network, bits) ∧ 32 < bits

end Install

namespace RouteError

variable {answer : Except SystemError Nat}

theorem verdict_eq_ok : verdict answer = .ok () ↔ ∃ n, answer = .ok n ∧ 124 ≤ n := by
  rcases answer with cause | n
  · simp [verdict]
  · by_cases hn : n < 124 <;> simp [verdict, hn, Nat.not_lt.1]

theorem verdict_eq_incomplete {n expected : Nat} :
    verdict answer = .error (.incompleteWrite n expected) ↔
      expected = 124 ∧ n < 124 ∧ answer = .ok n := by
  rcases answer with cause | accepted
  · simp [verdict]
  · by_cases hn : accepted < 124
    · simp only [verdict, hn, if_true, Except.error.injEq, incompleteWrite.injEq, Except.ok.injEq]
      omega
    · simp only [verdict, hn, if_false, Except.ok.injEq, reduceCtorEq, false_iff]
      omega

theorem verdict_eq_channel {cause : SystemError} :
    verdict answer = .error (.channel cause) ↔ answer = .error cause := by
  rcases answer with cause' | n
  · simp [verdict]
  · by_cases hn : n < 124 <;> simp [verdict, hn]

theorem verdict_ne_unknownInterface {name : String} :
    verdict answer ≠ .error (.unknownInterface name) := by
  rcases answer with cause | n
  · simp [verdict]
  · by_cases hn : n < 124 <;> simp [verdict, hn]

theorem verdict_ne_invalidPrefix {bits : UInt8} : verdict answer ≠ .error (.invalidPrefix bits) := by
  rcases answer with cause | n
  · simp [verdict]
  · by_cases hn : n < 124 <;> simp [verdict, hn]

end RouteError

variable {ch : RouteChannel σ}

theorem RouteChannel.indexFor_le {q : RouteRequest} {i : Nat} (h : ch.indexFor q = some i) :
    i ≤ 65535 := by
  unfold indexFor at h
  split at h
  · cases h
    exact Nat.zero_le _
  · simpa using (Option.filter_eq_some_iff.1 h).2

theorem messageIndex_eq (q : RouteRequest) : messageIndex ch q.interface =
    match ch.indexFor q with
    | some i => .ok (UInt16.ofNat i)
    | none => .error (.unknownInterface (q.interface.getD "")) := by
  unfold messageIndex RouteChannel.indexFor
  rcases q.interface with _ | name
  · rfl
  · dsimp only
    rcases ch.interfaceIndex name with _ | i
    · rfl
    · by_cases hi : i.toNat ≤ 65535
      · simp [hi, Option.filter]
      · simp [hi, Option.filter]

/-- An index that fits is told by its 16 bits. -/
theorem RouteChannel.toNat_indexFor {q : RouteRequest} {i : Nat} (h : ch.indexFor q = some i) :
    (UInt16.ofNat i).toNat = i := by
  have hle : i ≤ 65535 := indexFor_le h
  rw [UInt16.toNat_ofNat']
  exact Nat.mod_eq_of_lt (by omega)

theorem RouteRequest.prefixFits_of_ok {q : RouteRequest} {index : UInt16} {pid : Int32}
    {m : RouteMessage} (h : RouteMessage.ofRequest q index pid = .ok m) : q.PrefixFits := by
  intro network bits hdestination
  rw [← UInt8.not_lt]
  intro hlong
  have herror : RouteMessage.ofRequest q index pid = .error (.invalidPrefix bits) :=
    RouteMessage.ofRequest_eq_error_iff.2 ⟨network, bits, hdestination, hlong, rfl⟩
  rw [h] at herror
  cases herror

/-- A message that could be made is put to the channel once, and the answer decides. -/
theorem installRoute_of_ok {q : RouteRequest} {m : RouteMessage} (h : messageFor ch q = .ok m)
    (s : σ) : installRoute ch q s
      = (RouteError.verdict (ch.send m.encode s).1, (ch.send m.encode s).2) := by
  unfold installRoute RouteError.verdict
  rw [h]
  dsimp only
  rw [RouteMessage.length_encode, show RouteMessage.length.toNat = 124 from rfl]
  rcases ch.send m.encode s with ⟨cause | n, s'⟩
  · rfl
  · dsimp only
    split <;> rfl

/-- A request without a message leaves the channel alone. -/
theorem installRoute_of_error {q : RouteRequest} {e : RouteError} (h : messageFor ch q = .error e)
    (s : σ) : installRoute ch q s = (.error e, s) := by
  unfold installRoute
  rw [h]

theorem messageFor_eq (q : RouteRequest) : messageFor ch q =
    match ch.indexFor q with
    | some i => RouteMessage.ofRequest q (UInt16.ofNat i) ch.processId
    | none => .error (.unknownInterface (q.interface.getD "")) := by
  unfold messageFor
  rw [messageIndex_eq]
  rcases ch.indexFor q with _ | i <;> rfl

/-- Every request goes one of the ways there are, and keeping the messages makes no difference. -/
theorem installRoute_goes (ch : RouteChannel σ) (q : RouteRequest) (s : σ) (before : List Sent) :
    ∃ x : Install, x.request = q ∧ x.Goes ch ∧ (installRoute ch q s).1 = x.result ∧
      installRoute ch.traced q (s, before)
        = (x.result, (installRoute ch q s).2, before ++ x.sent) := by
  have hsame : messageFor ch.traced q = messageFor ch q := rfl
  rcases hmessage : messageFor ch q with e | m
  · rw [installRoute_of_error hmessage, installRoute_of_error (hsame.trans hmessage)]
    refine ⟨⟨q, .error e, []⟩, rfl, ?_, rfl, by rw [List.append_nil]⟩
    rw [messageFor_eq] at hmessage
    rcases hindex : ch.indexFor q with _ | i
    · rw [hindex] at hmessage
      cases hmessage
      -- a request that is bound to no interface has an index
      rcases hname : q.interface with _ | name
      · rw [RouteChannel.indexFor, hname] at hindex
        cases hindex
      · exact .unknown hname hindex
    · rw [hindex] at hmessage
      obtain ⟨network, bits, hdestination, hbits, rfl⟩ :=
        RouteMessage.ofRequest_eq_error_iff.1 hmessage
      exact .overlong hindex hdestination hbits
  · rw [installRoute_of_ok hmessage, installRoute_of_ok (hsame.trans hmessage)]
    refine ⟨⟨q, _, [(m.encode, (ch.send m.encode s).1)]⟩, rfl, ?_, rfl, rfl⟩
    rw [messageFor_eq] at hmessage
    rcases hindex : ch.indexFor q with _ | i
    · rw [hindex] at hmessage
      cases hmessage
    · rw [hindex] at hmessage
      exact .written _ hindex hmessage

/-! ## What was written and what came of it -/

namespace Install

/-- A request that goes one of the ways is written once or not at all, and each result stands for
what was written. -/
theorem Goes.once {x : Install} (h : x.Goes ch) : x.Once ch := by
  cases h with
  | @unknown q name hname hindex =>
    constructor
    case unknown =>
      intro name'
      simp [hname, hindex]
    all_goals simp [hindex]
  | @overlong q i network bits hindex hdestination hbits =>
    have hnot : ¬q.PrefixFits := fun hfits => UInt8.not_lt.2 (hfits network bits hdestination) hbits
    constructor
    case overlong =>
      intro bits'
      simp only [hindex, hdestination, Except.error.injEq, RouteError.invalidPrefix.injEq]
      constructor
      · rintro rfl
        exact ⟨⟨i, rfl⟩, network, rfl, hbits⟩
      · rintro ⟨-, _, heq, -⟩
        cases heq
        rfl
    all_goals simp [hindex, hnot]
  | @written q i m answer hindex hmessage =>
    have hfits : q.PrefixFits := RouteRequest.prefixFits_of_ok hmessage
    have hcarries := RouteMessage.carries_encode hmessage
    constructor
    case written =>
      intro i' hi' _
      rw [hindex] at hi'
      cases hi'
      exact ⟨m, answer, hmessage, rfl, hcarries⟩
    case unwritten =>
      intro hnot
      exact absurd ⟨⟨i, hindex⟩, hfits⟩ hnot
    case index =>
      intro bytes answer' hm
      cases List.mem_singleton.1 hm
      rw [hcarries.index, RouteChannel.toNat_indexFor hindex]
      exact hindex
    case ok =>
      constructor
      · intro hresult
        obtain ⟨n, rfl, hn⟩ := RouteError.verdict_eq_ok.1 hresult
        exact ⟨m.encode, n, rfl, hn⟩
      · rintro ⟨bytes, n, hsent, hn⟩
        cases hsent
        exact RouteError.verdict_eq_ok.2 ⟨n, rfl, hn⟩
    case incomplete =>
      intro n expected
      constructor
      · intro hresult
        obtain ⟨rfl, hn, rfl⟩ := RouteError.verdict_eq_incomplete.1 hresult
        exact ⟨rfl, hn, m.encode, rfl⟩
      · rintro ⟨rfl, hn, bytes, hsent⟩
        cases hsent
        exact RouteError.verdict_eq_incomplete.2 ⟨rfl, hn, rfl⟩
    case channel =>
      intro cause
      constructor
      · intro hresult
        obtain rfl := RouteError.verdict_eq_channel.1 hresult
        exact ⟨m.encode, rfl⟩
      · rintro ⟨bytes, hsent⟩
        cases hsent
        rfl
    case unknown =>
      intro name
      constructor
      · intro hresult
        exact absurd hresult RouteError.verdict_ne_unknownInterface
      · rintro ⟨-, hnone⟩
        rw [hindex] at hnone
        cases hnone
    case overlong =>
      intro bits
      constructor
      · intro hresult
        exact absurd hresult RouteError.verdict_ne_invalidPrefix
      · rintro ⟨-, network, hdestination, hbits⟩
        exact absurd hbits (UInt8.not_lt.2 (hfits network bits hdestination))

end Install

/-! ## Any number of requests -/

theorem installAll_goes (ch : RouteChannel σ) (requests : List RouteRequest) (s : σ)
    (before : List Sent) :
    ∃ installs : List Install, installs.map (·.request) = requests ∧
      (∀ x ∈ installs, x.Goes ch) ∧
      ∀ i, (installAll ch (requests.take i) s).1 = (installs.take i).map (·.result) ∧
        installAll ch.traced (requests.take i) (s, before) =
          ((installs.take i).map (·.result), (installAll ch (requests.take i) s).2,
            before ++ (installs.take i).flatMap (·.sent)) := by
  induction requests generalizing s before with
  | nil => exact ⟨[], rfl, by simp, by simp [installAll]⟩
  | cons q requests ih =>
    obtain ⟨x, hx, hgoes, hresult, htraced⟩ := installRoute_goes ch q s before
    obtain ⟨installs, hrequests, hinstalls, hruns⟩ :=
      ih (installRoute ch q s).2 (before ++ x.sent)
    refine ⟨x :: installs, ?_, List.forall_mem_cons.2 ⟨hgoes, hinstalls⟩, ?_⟩
    · rw [List.map_cons, hx, hrequests]
    · intro i
      rcases i with _ | i
      · simp [installAll]
      · obtain ⟨hplain, hkept⟩ := hruns i
        simp only [List.take_succ_cons, installAll, htraced, hkept]
        refine ⟨?_, ?_⟩
        · rw [hresult, hplain, List.map_cons]
        · rw [List.map_cons, List.flatMap_cons, List.append_assoc]

/-- Whatever the channel answers and however often it fails, each request is written once or not at
all, the messages come in the order of the requests, and after any number of requests there is
nothing else on the channel. -/
theorem installAll_once (ch : RouteChannel σ) (requests : List RouteRequest) (s : σ) :
    ∃ installs : List Install, installs.map (·.request) = requests ∧
      (∀ x ∈ installs, x.Once ch) ∧
      ∀ i, (installAll ch (requests.take i) s).1 = (installs.take i).map (·.result) ∧
        installAll ch.traced (requests.take i) (s, []) =
          ((installs.take i).map (·.result), (installAll ch (requests.take i) s).2,
            (installs.take i).flatMap (·.sent)) := by
  obtain ⟨installs, hrequests, hgoes, hruns⟩ := installAll_goes ch requests s []
  exact ⟨installs, hrequests, fun x hx => (hgoes x hx).once, hruns⟩

/-- A channel that takes 20 bytes of the first message and the next ones whole. The short write is
not made up for, and an index that does not fit is found before a prefix that does not. -/
theorem installAll_once_short :
    let ch : RouteChannel Nat := {
      processId := 1
      interfaceIndex := fun name => if name = "net0" then some 65535 else some 65536
      send := fun message k => (.ok (if k = 0 then 20 else message.length), k + 1) }
    let requests : List RouteRequest := [.defaultVia ⟨10, 0, 0, 1⟩ "net0",
      ⟨some (.zero, 33), ⟨10, 0, 0, 1⟩, some "net1"⟩, .defaultVia ⟨10, 0, 0, 1⟩ "net0"]
    (installAll ch requests 0).1
        = [.error (.incompleteWrite 20 124), .error (.unknownInterface "net1"), .ok ()] ∧
      ∃ bytes bytes' n, 124 ≤ n ∧
        (installAll ch.traced requests (0, [])).2.2 = [(bytes, .ok 20), (bytes', .ok n)] := by
  intro ch requests
  have hresults : (installAll ch requests 0).1
      = [.error (.incompleteWrite 20 124), .error (.unknownInterface "net1"), .ok ()] := by rfl
  obtain ⟨installs, hrequests, honce, hruns⟩ := installAll_once ch requests 0
  obtain ⟨hplain, hkept⟩ := hruns requests.length
  obtain ⟨x, _, rfl, -, hrest⟩ := List.map_eq_cons_iff.1 hrequests
  obtain ⟨y, _, rfl, -, hrest⟩ := List.map_eq_cons_iff.1 hrest
  obtain ⟨z, _, rfl, -, hrest⟩ := List.map_eq_cons_iff.1 hrest
  obtain rfl := List.map_eq_nil_iff.1 hrest
  rw [List.take_length] at hplain hkept
  have hall := hresults.symm.trans hplain
  simp only [requests, List.length_cons, List.length_nil, List.take_succ_cons, List.take_zero,
    List.map_cons, List.map_nil, List.cons.injEq, and_true] at hall
  obtain ⟨hx, hy, hz⟩ := hall
  obtain ⟨-, -, bytes, hshort⟩ := ((honce x (by simp)).incomplete 20 124).1 hx.symm
  obtain ⟨-, hnone⟩ := ((honce y (by simp)).unknown "net1").1 hy.symm
  have hunsent : y.sent = [] := (honce y (by simp)).unwritten (by simp [hnone])
  obtain ⟨bytes', n, hwhole, hn⟩ := (honce z (by simp)).ok.1 hz.symm
  refine ⟨hresults, bytes, bytes', n, hn, ?_⟩
  rw [hkept]
  simp [requests, hshort, hunsent, hwhole]

end ZoneNet
