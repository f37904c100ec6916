import ZoneNet.Proofs.Native.Attempts
import ZoneNet.Proofs.Text.LineEnds
import ZoneNet.Proofs.Text.Trimming

/-!
# The names of new logical interfaces

The tool that makes a logical interface prints its name behind a marker. The name is on the first
line that carries the marker, and whatever else is printed there makes no difference to it.

* `newInterface?_eq` — a line with the marker always has a name behind it.
* `newInterface?_eq_some_iff`, `isName_of_newInterface?` — which name is read, and what it is like.
* `newInterface?_asLines_append` — a name that is printed on a line of its own is read back.
* `newInterface_first` — all of this, and what an output without a name comes to.
-/

namespace ZoneNet.AddressTools

open Text

/-! ## Lines with the marker -/

/-- A line carries the marker if it starts with it, apart from blanks. -/
def Carries (line : List Char) : Prop := newInterfaceMarker <+: trim line

/-- The first line with the marker has the name behind it. -/
def Tells (output name : List Char) : Prop :=
  ∃ preceding line following rest, lines output = preceding ++ line :: following ∧
    (∀ l ∈ preceding, ¬Carries l) ∧ trim line = newInterfaceMarker ++ rest ∧ name = trim rest

/-- A name has something in it, no blank at its ends, and is on one line. -/
structure IsName (name : List Char) : Prop where
  ne_nil : name ≠ []
  first : ∀ c, name.head? = some c → isBlank c = false
  last : ∀ c, name.getLast? = some c → isBlank c = false
  oneLine : '\n' ∉ name

theorem afterMarker?_eq_some_iff {line rest : List Char} :
    afterMarker? line = some rest ↔ trim line = newInterfaceMarker ++ rest := by
  unfold afterMarker?
  dsimp only
  by_cases h : newInterfaceMarker <+: trim line
  · rw [if_pos (List.isPrefixOf_iff_prefix.2 h)]
    obtain ⟨r, hr⟩ := h
    rw [← hr, List.drop_left, Option.some.injEq, List.append_cancel_left_eq]
  · rw [if_neg fun h' => h (List.isPrefixOf_iff_prefix.1 h')]
    exact iff_of_false nofun fun hr => h ⟨rest, hr.symm⟩

theorem afterMarker?_eq_none_iff {line : List Char} :
    afterMarker? line = none ↔ ¬Carries line := by
  rw [Option.eq_none_iff_forall_ne_some]
  constructor
  · rintro h ⟨rest, hrest⟩
    exact h rest (afterMarker?_eq_some_iff.2 hrest.symm)
  · intro h rest hrest
    exact h ⟨rest, (afterMarker?_eq_some_iff.1 hrest).symm⟩

/-- The marker ends with a blank, so a trimmed line does not end with the marker: there is a name
behind it. -/
theorem trim_ne_nil_of_afterMarker? {line rest : List Char} (h : afterMarker? line = some rest) :
    trim rest ≠ [] := by
  have htrim : trim line = newInterfaceMarker ++ rest := afterMarker?_eq_some_iff.1 h
  rcases hlast : rest.getLast? with _ | c
  · rw [List.getLast?_eq_none_iff] at hlast
    rw [hlast, List.append_nil] at htrim
    have hspace : (trim line).getLast? = some ' ' := by
      rw [htrim]
      decide
    exact absurd (isBlank_of_getLast?_trim hspace) (by decide)
  · refine trim_ne_nil (List.mem_of_getLast? hlast) (isBlank_of_getLast?_trim (l := line) ?_)
    rw [htrim, List.getLast?_append, hlast]
    rfl

/-! ## The name that is read -/

/-- What is read is what stands behind the first marker, without blanks. -/
theorem newInterface?_eq (output : List Char) :
    newInterface? output = ((lines output).findSome? afterMarker?).map trim := by
  unfold newInterface?
  rcases hfind : (lines output).findSome? afterMarker? with _ | rest
  · rfl
  · obtain ⟨line, -, hline⟩ := List.exists_of_findSome?_eq_some hfind
    exact if_neg (trim_ne_nil_of_afterMarker? hline)

theorem newInterface?_eq_some_iff {output name : List Char} :
    newInterface? output = some name ↔ Tells output name := by
  simp only [newInterface?_eq, Option.map_eq_some_iff, List.findSome?_eq_some_iff,
    afterMarker?_eq_some_iff, afterMarker?_eq_none_iff]
  constructor
  · rintro ⟨rest, ⟨preceding, line, following, hlines, hline, hnone⟩, rfl⟩
    exact ⟨preceding, line, following, rest, hlines, hnone, hline, rfl⟩
  · rintro ⟨preceding, line, following, rest, hlines, hnone, hline, rfl⟩
    exact ⟨rest, ⟨preceding, line, following, hlines, hline, hnone⟩, rfl⟩

theorem newInterface?_eq_none_iff {output : List Char} :
    newInterface? output = none ↔ ∀ line ∈ lines output, ¬Carries line := by
  simp only [newInterface?_eq, Option.map_eq_none_iff, List.findSome?_eq_none_iff,
    afterMarker?_eq_none_iff]

theorem isName_of_newInterface? {output name : List Char} (h : newInterface? output = some name) :
    IsName name := by
  obtain ⟨preceding, line, following, rest, hlines, -, hline, rfl⟩ := newInterface?_eq_some_iff.1 h
  have hmem : line ∈ lines output := by
    rw [hlines]
    exact List.mem_append_right _ List.mem_cons_self
  -- a line feed of the name would be one of its line
  have hsubset : trim rest ⊆ line := by
    obtain ⟨a, b, -, -, hrest⟩ := exists_blank_append_trim rest
    obtain ⟨a', b', -, -, hwhole⟩ := exists_blank_append_trim line
    intro c hc
    have hc' : c ∈ rest := by
      rw [hrest]
      simp [hc]
    rw [hwhole, hline]
    simp [hc']
  exact ⟨trim_ne_nil_of_afterMarker? (afterMarker?_eq_some_iff.2 hline),
    fun _ => isBlank_of_head?_trim, fun _ => isBlank_of_getLast?_trim,
    fun hfeed => not_mem_of_mem_lines hmem (hsubset hfeed)⟩

/-! ## Names that are read back -/

/-- Texts, each on a line of its own. -/
def asLines (ls : List (List Char)) : List Char := ls.flatMap fun l => l ++ ['\n']

/-- Blanks on one line. -/
def LineBlanks (b : List Char) : Prop := ∀ c ∈ b, isBlank c = true ∧ c ≠ '\n'

instance (b : List Char) : Decidable (LineBlanks b) :=
  List.decidableBAll (fun c => isBlank c = true ∧ c ≠ '\n') b

/-- A line that tells of a new interface, with blanks where there may be some. -/
def nameLine (before between name behind : List Char) : List Char :=
  before ++ (newInterfaceMarker ++ between ++ name ++ behind)

/-- The end of a line makes no difference to what stands behind the marker. -/
theorem afterMarker?_dropReturn (line : List Char) :
    afterMarker? (dropReturn '\r' line) = afterMarker? line := by
  have htrim : trim (dropReturn '\r' line) = trim line := by
    unfold dropReturn
    split
    · next h =>
      obtain ⟨l, rfl⟩ := List.getLast?_eq_some_iff.1 h
      rw [List.dropLast_concat, trim_append_blank l (List.forall_mem_singleton.2 (by decide))]
    · rfl
  unfold afterMarker?
  rw [htrim]

/-- The first line is looked at before all others. -/
theorem newInterface?_append_cons {line : List Char} (h : '\n' ∉ line) (r : List Char) :
    newInterface? (line ++ '\n' :: r) =
      match afterMarker? line with
      | some rest => some (trim rest)
      | none => newInterface? r := by
  rw [newInterface?_eq, lines_append_cons h, List.findSome?_cons, afterMarker?_dropReturn,
    newInterface?_eq]
  rcases afterMarker? line with _ | rest <;> rfl

theorem newInterface?_of_not_mem {line : List Char} (h : '\n' ∉ line) :
    newInterface? line = (afterMarker? line).map trim := by
  rw [newInterface?_eq, lines_of_not_mem h]
  split
  · next hnil =>
    rw [hnil]
    rfl
  · rw [List.findSome?_singleton]

/-- Lines without the marker are passed over. -/
theorem newInterface?_asLines_append {preceding : List (List Char)}
    (h : ∀ l ∈ preceding, '\n' ∉ l ∧ ¬Carries l) (r : List Char) :
    newInterface? (asLines preceding ++ r) = newInterface? r := by
  induction preceding with
  | nil => rfl
  | cons l ls ih =>
    obtain ⟨⟨hfeed, hnone⟩, hls⟩ := List.forall_mem_cons.1 h
    have htext : asLines (l :: ls) ++ r = l ++ '\n' :: (asLines ls ++ r) := by simp [asLines]
    rw [htext, newInterface?_append_cons hfeed, afterMarker?_eq_none_iff.2 hnone]
    exact ih hls

section

variable {before between name behind : List Char}

theorem LineBlanks.blank {b : List Char} (h : LineBlanks b) : ∀ c ∈ b, isBlank c = true :=
  fun c hc => (h c hc).1

theorem LineBlanks.not_mem {b : List Char} (h : LineBlanks b) : '\n' ∉ b :=
  fun hm => (h '\n' hm).2 rfl

/-- Behind the marker of such a line stand the blanks and the name. -/
theorem afterMarker?_nameLine (hbefore : LineBlanks before) (hbehind : LineBlanks behind)
    (hne : name ≠ []) (hname : ∀ c ∈ name, isBlank c = false) :
    afterMarker? (nameLine before between name behind) = some (between ++ name) := by
  have hfirst : (newInterfaceMarker ++ between ++ name).head? = some 'C' := by
    rw [List.append_assoc, List.head?_append, show newInterfaceMarker.head? = some 'C' from rfl]
    rfl
  have hlast : (newInterfaceMarker ++ between ++ name).getLast? = some (name.getLast hne) := by
    rw [List.getLast?_append, List.getLast?_eq_some_getLast hne]
    rfl
  rw [afterMarker?_eq_some_iff, nameLine, trim_blank_append hbefore.blank,
    trim_append_blank _ hbehind.blank, ← List.append_assoc]
  exact trim_eq_self hfirst hlast rfl (hname _ (List.getLast_mem hne))

theorem trim_append_name (hbetween : LineBlanks between) (hne : name ≠ [])
    (hname : ∀ c ∈ name, isBlank c = false) : trim (between ++ name) = name := by
  rw [trim_blank_append hbetween.blank]
  exact trim_eq_self (List.head?_eq_some_head hne) (List.getLast?_eq_some_getLast hne)
    (hname _ (List.head_mem hne)) (hname _ (List.getLast_mem hne))

theorem feed_not_mem_nameLine (hbefore : LineBlanks before) (hbetween : LineBlanks between)
    (hbehind : LineBlanks behind) (hname : ∀ c ∈ name, isBlank c = false) :
    '\n' ∉ nameLine before between name behind := by
  have hfeed : '\n' ∉ name := fun hm => absurd (hname '\n' hm) (by decide)
  simp [nameLine, hbefore.not_mem, hbetween.not_mem, hbehind.not_mem, hfeed,
    show '\n' ∉ newInterfaceMarker by decide]

/-- A name on such a line is read back, whether the output ends there or goes on. -/
theorem newInterface?_nameLine (hbefore : LineBlanks before) (hbetween : LineBlanks between)
    (hbehind : LineBlanks behind) (hne : name ≠ []) (hname : ∀ c ∈ name, isBlank c = false)
    {rest : List Char} (hrest : rest = [] ∨ ∃ following, rest = '\n' :: following) :
    newInterface? (nameLine before between name behind ++ rest) = some name := by
  have hfeed := feed_not_mem_nameLine hbefore hbetween hbehind hname
  have hmarker : afterMarker? (nameLine before between name behind) = some (between ++ name) :=
    afterMarker?_nameLine hbefore hbehind hne hname
  have htrim := trim_append_name hbetween hne hname
  rcases hrest with rfl | ⟨following, rfl⟩
  · rw [List.append_nil, newInterface?_of_not_mem hfeed, hmarker, Option.map_some, htrim]
  · rw [newInterface?_append_cons hfeed, hmarker]
    exact congrArg some htrim

end

/-! ## The tool -/

/-- Once the tool has ended well, its output alone decides. -/
theorem fst_addLogical (t : AddressTools) {base : String} {family : Family} {w : World}
    {done : Completion}
    (hanswer : World.answer t.host (t.logicalCommand base family)
      (w.tell [.running t.ifconfig (t.logicalCommand base family).args]) = .ok done)
    (hending : done.ending = .exited 0) :
    (t.addLogical base family w).1 =
      match newInterface? (Utf8.decodeLossy done.stdout) with
      | some name => .ok (String.ofList name)
      | none => .error (.rejected "addif"
          ("unexpected output: " ++ String.ofList (trim (Utf8.decodeLossy done.stdout)))) := by
  have hsuccess : done.ending.isSuccess = true := by
    rw [hending]
    rfl
  unfold addLogical runIfconfig runChecked World.run
  unfold logicalCommand at hanswer
  dsimp only at hanswer ⊢
  rw [hanswer]
  dsimp only
  rw [if_pos hsuccess]
  dsimp only
  rcases newInterface? (Utf8.decodeLossy done.stdout) with _ | name <;> rfl

/-- The name of a new logical interface, from any output. It is what stands behind the first marker
at the start of a line, apart from blanks, and there is a name just when there is such a line. It is
not empty, has no blank at its ends and holds no line feed. A tool that ends well without telling a
name has rejected the request. And a name without blanks that is told on a line of its own is read
back, whatever lines without the marker stand before it, whatever blanks around it, and whatever
follows on further lines. -/
theorem newInterface_first :
    (∀ output name, newInterface? output = some name ↔ Tells output name) ∧
      (∀ output, (∃ name, newInterface? output = some name) ↔
        ∃ line ∈ lines output, Carries line) ∧
      (∀ output name, newInterface? output = some name → IsName name) ∧
      (∀ (t : AddressTools) (base : String) (family : Family) (w : World) (done : Completion),
        World.answer t.host (t.logicalCommand base family)
            (w.tell [.running t.ifconfig (t.logicalCommand base family).args]) = .ok done →
          done.ending = .exited 0 →
          let output := Utf8.decodeLossy done.stdout
          (∀ name, newInterface? output = some name →
            (t.addLogical base family w).1 = .ok (String.ofList name)) ∧
          ((∀ line ∈ lines output, ¬Carries line) → newInterface? output = none ∧
            (t.addLogical base family w).1 = .error (.rejected "addif"
              ("unexpected output: " ++ String.ofList (trim output))))) ∧
      ∀ preceding before between name behind rest,
        (∀ l ∈ preceding, '\n' ∉ l ∧ ¬Carries l) →
          LineBlanks before → LineBlanks between → LineBlanks behind →
          name ≠ [] → (∀ c ∈ name, isBlank c = false) →
          (rest = [] ∨ ∃ following, rest = '\n' :: following) →
          newInterface? (asLines preceding ++ (nameLine before between name behind ++ rest))
            = some name := by
  refine ⟨fun _ _ => newInterface?_eq_some_iff, fun output => ?_,
    fun _ _ => isName_of_newInterface?, ?_, ?_⟩
  · have hnone : newInterface? output = none ↔ ∀ line ∈ lines output, ¬Carries line :=
      newInterface?_eq_none_iff
    rw [← Option.isSome_iff_exists, ← Option.ne_none_iff_isSome, ne_eq, hnone]
    simp
  · intro t base family w done hanswer hending output
    have hresult := t.fst_addLogical hanswer hending
    refine ⟨fun name hname => ?_, fun hnone => ?_⟩
    · rw [hresult, show newInterface? (Utf8.decodeLossy done.stdout) = some name from hname]
    · have hoff : newInterface? output = none := newInterface?_eq_none_iff.2 hnone
      refine ⟨hoff, ?_⟩
      rw [hresult, show newInterface? (Utf8.decodeLossy done.stdout) = none from hoff]
  · intro preceding before between name behind rest hpreceding hbefore hbetween hbehind hne hname
      hrest
    rw [newInterface?_asLines_append hpreceding]
    exact newInterface?_nameLine hbefore hbetween hbehind hne hname hrest

/-- A marker without a name does not count, nor does one inside a line, and a tool that prints no more
has rejected the request. The name between blanks on the next line is read, though that line ends in
a carriage return and another one with the marker follows. -/
theorem newInterface_first_passed :
    let preceding := ["Created new logical interface ".toList,
      "warning: Created new logical interface net9:9".toList]
    let text := "Created new logical interface \nwarning: Created new logical interface net9:9\n"
    let host : Host := {
      respond := fun _ _ => .ok ⟨.exited 0, Utf8.encode text, [], false⟩
      node := fun _ => none
      routeWrite := fun _ message => .ok message.length }
    let t : AddressTools := ⟨host, "ifconfig", "ipadm"⟩
    (∀ l ∈ preceding, '\n' ∉ l ∧ ¬Carries l) ∧
      (t.addLogical "net0" .v4 []).1 = .error (.rejected "addif" ("unexpected output: "
        ++ "Created new logical interface \nwarning: Created new logical interface net9:9")) ∧
      newInterface? (text.toList
          ++ "\tCreated new logical interface  net2:14 \r\nCreated new logical interface x".toList)
        = some "net2:14".toList ∧
      IsName "net2:14".toList := by
  intro preceding text host t
  obtain ⟨-, -, hname, htool, hback⟩ := newInterface_first
  have hpreceding : ∀ l ∈ preceding, '\n' ∉ l ∧ ¬Carries l := by
    unfold Carries
    decide
  have htext : Utf8.decodeLossy (Utf8.encode text) = text.toList := by decide +kernel
  have hnone : ∀ line ∈ lines (Utf8.decodeLossy (Utf8.encode text)), ¬Carries line := by
    rw [htext]
    unfold Carries
    decide +kernel
  obtain ⟨-, hrejected⟩ := htool t "net0" .v4 [] ⟨.exited 0, Utf8.encode text, [], false⟩ rfl rfl
  obtain ⟨-, hrejected⟩ := hrejected hnone
  have htrim : String.ofList (trim text.toList) =
      "Created new logical interface \nwarning: Created new logical interface net9:9" := by
    decide +kernel
  have hword : ∀ c ∈ "net2:14".toList, isBlank c = false := by
    have hall : "net2:14".toList.all (fun c => !isBlank c) = true := by decide
    intro c hc
    simpa using List.all_eq_true.1 hall c hc
  have hread := hback preceding ['\t'] [' '] "net2:14".toList [' ', '\r']
    ('\n' :: "Created new logical interface x".toList) hpreceding (by decide) (by decide)
    (by decide) (by decide) hword (.inr ⟨_, rfl⟩)
  rw [show asLines preceding ++ (nameLine ['\t'] [' '] "net2:14".toList [' ', '\r'] ++
      '\n' :: "Created new logical interface x".toList) = text.toList ++
        "\tCreated new logical interface  net2:14 \r\nCreated new logical interface x".toList
    by decide +kernel] at hread
  refine ⟨hpreceding, ?_, hread, hname _ _ hread⟩
  rw [hrejected, htext, htrim]

end ZoneNet.AddressTools
