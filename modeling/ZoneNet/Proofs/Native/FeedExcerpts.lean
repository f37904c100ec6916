import ZoneNet.Proofs.Native.FeedRun
import ZoneNet.Proofs.Text.ReplacedBytes

/-!
# What is told of a feed that fails

The message about a feed whose program fails holds what the first bytes of its standard error are
read as. The limit is one on those bytes. The text may be longer: what is no character among them is
told with three bytes, and so is a character that the limit cuts through.

* `excerpt_stderrText` — how long the text is.
* `conclude_congr` — only the bytes up to the limit count.
* `conclude_excerpt` — a run whose lines are all applied and whose program fails.
-/

namespace ZoneNet.RouteFeed

open Text

/-- What a message holds of a standard error. -/
structure Excerpt (stderr : List UInt8) (text : String) : Prop where
  /-- It is what the bytes up to the limit are read as, without the blanks at the ends. -/
  reads : text = String.ofList (trim (Utf8.decodeLossy (stderr.take stderrLimit)))
  /-- It is longer than those bytes by two for each faulty chunk among them at most. -/
  bounded : text.utf8ByteSize
    ≤ (stderr.take stderrLimit).length + 2 * Utf8.faults (stderr.take stderrLimit)
  ofAny : text.utf8ByteSize ≤ 3 * stderrLimit
  /-- It keeps to the limit if those bytes encode a text. -/
  ofKeptText : (∃ s, stderr.take stderrLimit = Utf8.encode s) → text.utf8ByteSize ≤ stderrLimit
  /-- If the whole standard error does, one character at most is cut through. -/
  ofText : (∃ s, stderr = Utf8.encode s) → text.utf8ByteSize ≤ stderrLimit + 2

theorem excerpt_stderrText (stderr : List UInt8) : Excerpt stderr (stderrText stderr) := by
  have hkept : (stderr.take stderrLimit).length ≤ stderrLimit := List.length_take_le ..
  have hbounded : (stderrText stderr).utf8ByteSize
      ≤ (stderr.take stderrLimit).length + 2 * Utf8.faults (stderr.take stderrLimit) :=
    Nat.le_trans (Utf8.utf8ByteSize_trim_le _) (Utf8.size_decodeLossy_le _)
  refine ⟨rfl, hbounded, ?_, ?_, ?_⟩
  · have hfaults := Utf8.faults_le_length (stderr.take stderrLimit)
    omega
  · rintro ⟨s, hs⟩
    have hfaults : Utf8.faults (stderr.take stderrLimit) = 0 := hs ▸ Utf8.faults_encode s
    omega
  · rintro ⟨s, hs⟩
    have hfaults : Utf8.faults (stderr.take stderrLimit) ≤ Utf8.faults stderr + 1 :=
      Utf8.faults_take_le stderrLimit stderr
    have hwhole : Utf8.faults stderr = 0 := hs ▸ Utf8.faults_encode s
    omega

variable {σ : Type} (ch : RouteChannel σ) (tell : FeedNote → σ → σ)

/-- What a feed comes to is told by its output, its ending, and the first bytes of its standard
error. -/
theorem conclude_congr (path : String) {c c' : Completion} (hstdout : c'.stdout = c.stdout)
    (hending : c'.ending = c.ending)
    (hstderr : c'.stderr.take stderrLimit = c.stderr.take stderrLimit) (p : FeedProgress σ) :
    conclude ch tell path c' p = conclude ch tell path c p := by
  unfold conclude stderrText
  rw [hstdout, hending, hstderr]

/-- A feed whose lines are all applied and whose program fails ends with a message that holds an
excerpt of its standard error, and any feed that prints the same, ends alike and has the same first
bytes there ends with the same message. -/
theorem conclude_excerpt {h : Host} {path : String} {w : World} {c : Completion} {s : σ}
    {p : FeedProgress σ} (hnode : h.node path = some .file)
    (hanswer : h.respond w (command path) = .ok c)
    (hlines : takeLines ch tell c.stdout { channel := s } = (.ok (), p))
    (hending : c.ending ≠ .exited 0) :
    (∃ w' text, begin? h path w = (.ok (some c), w') ∧
      conclude ch tell path c { channel := s }
        = (.error (.feed (path ++ " " ++ c.ending.phrase ++ ": " ++ text)), p) ∧
      Excerpt c.stderr text) ∧
    ∀ c' : Completion, c'.stdout = c.stdout → c'.ending = c.ending →
      c'.stderr.take stderrLimit = c.stderr.take stderrLimit →
        conclude ch tell path c' { channel := s } = conclude ch tell path c { channel := s } := by
  refine ⟨⟨_, stderrText c.stderr, begin?_eq hnode hanswer, ?_, excerpt_stderrText c.stderr⟩,
    fun c' hstdout hend hstderr => conclude_congr ch tell path hstdout hend hstderr _⟩
  rw [conclude, hlines, Outcome.andThen_ok, if_neg (mt isSuccess_iff.1 hending)]

/-- A route, and bytes none of which is part of a text: each is told with three. -/
theorem conclude_excerpt_garbled :
    let r : Recorder := {}
    let c : Completion := {
      ending := .killed 9
      stdout := Utf8.encode "10.77.77.2|10.1.1.0/24|false\n"
      stderr := List.replicate 600 0xFF }
    let h : Host := {
      respond := fun _ _ => .ok c
      node := fun _ => some .file
      routeWrite := fun _ message => .ok message.length }
    (stderrText c.stderr).utf8ByteSize = 3 * stderrLimit ∧
      h.node "/feed" = some .file ∧ h.respond [] (command "/feed") = .ok c ∧
      c.ending ≠ .exited 0 ∧
      ∃ p, takeLines r.routes untold c.stdout { channel := [] } = (.ok (), p) ∧
        (∃ w' text, begin? h "/feed" [] = (.ok (some c), w') ∧
          conclude r.routes untold "/feed" c { channel := [] }
            = (.error (.feed ("/feed" ++ " " ++ c.ending.phrase ++ ": " ++ text)), p) ∧
          Excerpt c.stderr text) ∧
        ∀ c' : Completion, c'.stdout = c.stdout → c'.ending = c.ending →
          c'.stderr.take stderrLimit = c.stderr.take stderrLimit →
            conclude r.routes untold "/feed" c' { channel := [] }
              = conclude r.routes untold "/feed" c { channel := [] } := by
  intro r c h
  have hlines : takeLines r.routes untold c.stdout { channel := [] }
      = (.ok (), (takeLines r.routes untold c.stdout { channel := [] }).2) :=
    Prod.ext (by decide +kernel) rfl
  have hending : c.ending ≠ .exited 0 := by decide
  exact ⟨by decide +kernel, rfl, rfl, hending, _, hlines,
    conclude_excerpt r.routes untold rfl rfl hlines hending⟩

/-- A text that is cut through a character is told with more bytes than the limit. -/
theorem conclude_excerpt_cut :
    let r : Recorder := {}
    let c : Completion := {
      ending := .exited 1
      stderr := (List.replicate 300 (Utf8.encode "aé")).flatten }
    takeLines r.routes untold c.stdout { channel := [] } = (.ok (), { channel := [] }) ∧
      c.ending ≠ .exited 0 ∧
      conclude r.routes untold "/feed" c { channel := [] }
        = (.error (.feed ("/feed exited with status 1: " ++ stderrText c.stderr)),
          { channel := [] }) ∧
      (stderrText c.stderr).utf8ByteSize = 514 ∧ stderrLimit < 514 := by
  intro r c
  exact ⟨rfl, by decide, rfl, by decide +kernel, by decide⟩

end ZoneNet.RouteFeed
