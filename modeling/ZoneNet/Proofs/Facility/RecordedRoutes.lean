import ZoneNet.Facility.Recorder
import ZoneNet.Route.Install

/-!
# Routes over a recorder

The recorded channel answers every message alike, since all have one length, so what comes of a
request is told by the settings and the request alone, whatever the journal holds.

* `send_eq` — one message: the answer of the channel, and the entry in the journal.
* `installRoute_eq` — one request: why it is refused, if it is, and the entries in the journal.
-/

namespace ZoneNet.Recorder

variable (r : Recorder)

/-- What the channel answers to a route message; every one has 124 bytes. -/
def channelAnswer : Except SystemError Nat :=
  match r.channelError with
  | some text => .error (.other text)
  | none => .ok (r.shortWrite.elim 124 (min · 124))

/-- Why the channel does not take a route message in full, if it does not. -/
def channelCause : Option RouteError :=
  match r.channelAnswer with
  | .error e => some (.channel e)
  | .ok n => if n < 124 then some (.incompleteWrite n 124) else none

/-- The entry that a route message leaves in the journal; a channel that fails records nothing. -/
def sending (message : List UInt8) : List Call :=
  match r.channelError with
  | some _ => []
  | none => [.writeRoute (r.shortWrite.elim 124 (min · 124)) message]

theorem send_eq (m : RouteMessage) (j : Journal) :
    r.send m.encode j = (r.channelAnswer, j ++ r.sending m.encode) := by
  have hlength : m.encode.length = 124 := RouteMessage.length_encode m
  unfold send channelAnswer sending
  rcases r.channelError with _ | text
  · rcases r.shortWrite with _ | n
    · simp only [hlength, record, Option.elim]
    · simp only [hlength, record, Option.elim]
  · simp

/-- Why a request is refused, if it is. -/
def refusal (q : RouteRequest) : Option RouteError :=
  match messageFor r.routes q with
  | .error e => some e
  | .ok _ => r.channelCause

/-- The entries that a request leaves in the journal. -/
def routeCalls (q : RouteRequest) : List Call :=
  match messageFor r.routes q with
  | .error _ => []
  | .ok m => r.sending m.encode

/-- A request is met or refused by the settings, and its message is written once or not at all. -/
theorem installRoute_eq (q : RouteRequest) (j : Journal) :
    installRoute r.routes q j
      = (match r.refusal q with
        | some e => .error e
        | none => .ok (), j ++ r.routeCalls q) := by
  unfold installRoute refusal routeCalls channelCause
  rcases messageFor r.routes q with e | m
  · simp
  · dsimp only
    rw [show r.routes.send = r.send from rfl, send_eq, RouteMessage.length_encode,
      show RouteMessage.length.toNat = 124 from rfl]
    rcases r.channelAnswer with e | n
    · rfl
    · dsimp only
      by_cases hshort : n < 124
      · rw [if_pos hshort, if_pos hshort]
      · rw [if_neg hshort, if_neg hshort]

end ZoneNet.Recorder
