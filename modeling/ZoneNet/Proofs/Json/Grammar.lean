import ZoneNet.Json.Lexeme

/-!
# The spelling of JSON lexemes

How the lexemes of a document may be written, apart from how they are read: strings with any escapes
that they can have, numbers by their grammar, and blanks anywhere between lexemes. What is written
is read back.

* `Quoted.Spells.read` — a string, up to its closing quote.
* `Number.IsNumber.read` — a number, up to what cannot be part of one.
* `Lexeme.Written.ofText` — the lexemes of a text, numbers being apart.
-/

namespace ZoneNet.Json

open Text

/-! ## Strings -/

namespace Quoted

/-- The escapes of two characters, without the backslash, and what they stand for. -/
def escapes : List (Char × Char) :=
  [('"', '"'), ('\\', '\\'), ('/', '/'), ('b', '\x08'), ('f', '\x0C'), ('n', '\n'), ('r', '\r'),
    ('t', '\t')]

/-- Characters that spell one piece of a string. -/
inductive Piece.Spelled : Piece → List Char → Prop where
  | plain {c : Char} (hcontrol : ' ' ≤ c) (hquote : c ≠ '"') (hslash : c ≠ '\\') :
      Spelled (.char c) [c]
  | escape {e c : Char} (h : (e, c) ∈ escapes) : Spelled (.char c) ['\\', e]
  | unit {a b c d : Char} {i j k l : Nat} (ha : hexValue? a = some i) (hb : hexValue? b = some j)
      (hc : hexValue? c = some k) (hd : hexValue? d = some l) :
      Spelled (.unit (((i * 16 + j) * 16 + k) * 16 + l)) ['\\', 'u', a, b, c, d]

/-- Characters that spell pieces one behind the other. -/
inductive Spelled : List Piece → List Char → Prop where
  | nil : Spelled [] []
  | cons {p : Piece} {ps : List Piece} {s body : List Char} (h : p.Spelled s)
      (hrest : Spelled ps body) : Spelled (p :: ps) (s ++ body)

/-- The text that pieces name; two halves of a surrogate pair name one character. -/
inductive Names : List Piece → List Char → Prop where
  | nil : Names [] []
  | char {c : Char} {ps : List Piece} {cs : List Char} (h : Names ps cs) :
      Names (.char c :: ps) (c :: cs)
  | unit {n : Nat} {ps : List Piece} {cs : List Char} (hn : n < 0xD800 ∨ 0xDFFF < n)
      (h : Names ps cs) : Names (.unit n :: ps) (Char.ofNat n :: cs)
  | pair {n m : Nat} {ps : List Piece} {cs : List Char} (hhigh : 0xD800 ≤ n ∧ n ≤ 0xDBFF)
      (hlow : 0xDC00 ≤ m ∧ m ≤ 0xDFFF) (h : Names ps cs) :
      Names (.unit n :: .unit m :: ps)
        (Char.ofNat (0x10000 + (n - 0xD800) * 0x400 + (m - 0xDC00)) :: cs)

/-- What may stand between the quotes of a string. Halves that have no other half are allowed, but
then no text is named. -/
inductive Spells : Option String → List Char → Prop where
  | text {s : String} {ps : List Piece} {body : List Char} (hbody : Spelled ps body)
      (h : Names ps s.toList) : Spells (some s) body
  | noText {ps : List Piece} {body : List Char} (hbody : Spelled ps body)
      (h : ∀ cs, ¬Names ps cs) : Spells none body

theorem Piece.Spelled.pieces? {p : Piece} {s : List Char} (h : p.Spelled s) (acc : List Piece)
    (r : List Char) : pieces? acc (s ++ r) = pieces? (p :: acc) r := by
  cases h with
  | @plain c hcontrol hquote hslash =>
    rw [List.singleton_append, Quoted.pieces?.eq_def acc (c :: r)]
    split
    · next heq =>
      cases heq
      exact absurd rfl hquote
    · next heq =>
      cases heq
      exact absurd rfl hslash
    · next heq =>
      cases heq
      exact absurd rfl hslash
    · next heq =>
      cases heq
      have hallowed : ¬(c = '\\' ∨ c < ' ') := by
        rintro (h | h)
        · exact hslash h
        · exact absurd hcontrol (Char.not_le.2 h)
      exact if_neg hallowed
    · next heq => cases heq
  | escape h =>
    simp only [escapes, List.mem_cons, Prod.mk.injEq, List.not_mem_nil, or_false] at h
    rcases h with ⟨rfl, rfl⟩ | ⟨rfl, rfl⟩ | ⟨rfl, rfl⟩ | ⟨rfl, rfl⟩ | ⟨rfl, rfl⟩ | ⟨rfl, rfl⟩ |
      ⟨rfl, rfl⟩ | ⟨rfl, rfl⟩ <;> rfl
  | unit ha hb hc hd =>
    simp [Quoted.pieces?, unit?, ha, hb, hc, hd]

theorem Spelled.pieces? {ps : List Piece} {body : List Char} (h : Spelled ps body)
    (acc : List Piece) (r : List Char) :
    pieces? acc (body ++ '"' :: r) = some (acc.reverse ++ ps, r) := by
  induction h generalizing acc with
  | nil => simp [Quoted.pieces?]
  | @cons p ps s body hp _ ih =>
    rw [List.append_assoc, hp.pieces?, ih]
    simp

theorem Names.chars? {ps : List Piece} {cs : List Char} (h : Names ps cs) (acc : List Char) :
    chars? acc ps = some (acc.reverse ++ cs) := by
  induction h generalizing acc with
  | nil => simp [Quoted.chars?]
  | char _ ih => simp [Quoted.chars?, ih]
  | @unit n ps cs hn _ ih =>
    have hhigh : isHigh n = false := by
      unfold isHigh
      simp
      omega
    have hlow : isLow n = false := by
      unfold isLow
      simp
      omega
    have hstep : Quoted.chars? acc (.unit n :: ps) = Quoted.chars? (Char.ofNat n :: acc) ps := by
      rcases ps with _ | ⟨c | m, ps⟩ <;> simp [Quoted.chars?, hhigh, hlow]
    rw [hstep, ih]
    simp
  | @pair n m ps cs hhigh hlow _ ih =>
    have hn : isHigh n = true := by simpa [isHigh] using hhigh
    have hm : isLow m = true := by simpa [isLow] using hlow
    simp [Quoted.chars?, hn, hm, ofPair, ih]

theorem exists_names {acc : List Char} {ps : List Piece} {text : List Char}
    (h : chars? acc ps = some text) : ∃ cs, Names ps cs := by
  fun_induction chars? acc ps with
  | case1 => exact ⟨[], .nil⟩
  | case2 acc c r ih =>
    obtain ⟨cs, hcs⟩ := ih h
    exact ⟨_, .char hcs⟩
  | case3 acc n m r hn hm ih =>
    obtain ⟨cs, hcs⟩ := ih h
    exact ⟨_, .pair (by simpa [isHigh] using hn) (by simpa [isLow] using hm) hcs⟩
  | case4 => cases h
  | case5 => cases h
  | case6 acc n m r hn hm ih =>
    obtain ⟨cs, hcs⟩ := ih h
    refine ⟨_, .unit ?_ hcs⟩
    simp only [isHigh, isLow, Bool.and_eq_true, decide_eq_true_eq] at hn hm
    omega
  | case7 => cases h
  | case8 acc n r hr hn ih =>
    obtain ⟨cs, hcs⟩ := ih h
    refine ⟨_, .unit ?_ hcs⟩
    simp only [isHigh, isLow, Bool.and_eq_true, decide_eq_true_eq] at hn
    omega

/-- A string is read up to its closing quote. -/
theorem Spells.read {s : Option String} {body : List Char} (h : Spells s body) (r : List Char) :
    read? (body ++ '"' :: r) = some (s, r) := by
  unfold read?
  cases h with
  | @text s ps _ hbody hnames =>
    rw [hbody.pieces?]
    dsimp only
    rw [List.reverse_nil, List.nil_append, hnames.chars?]
    simp
  | @noText ps _ hbody hnames =>
    rw [hbody.pieces?]
    dsimp only
    rw [List.reverse_nil, List.nil_append]
    rcases hchars : chars? [] ps with _ | text
    · rfl
    · obtain ⟨cs, hcs⟩ := exists_names hchars
      exact absurd hcs (hnames cs)

end Quoted

/-! ## Numbers -/

namespace Number

/-- A row of digits. -/
def IsDigits (ds : List Char) : Prop := ds ≠ [] ∧ ∀ c ∈ ds, c.isDigit = true

/-- An integer without leading zeros. -/
def IsInteger (ds : List Char) : Prop := IsDigits ds ∧ (ds.head? = some '0' → ds = ['0'])

inductive IsFraction : List Char → Prop where
  | absent : IsFraction []
  | digits {ds : List Char} (h : IsDigits ds) : IsFraction ('.' :: ds)

inductive IsExponent : List Char → Prop where
  | absent : IsExponent []
  | digits {e : Char} {sign ds : List Char} (he : e = 'e' ∨ e = 'E')
      (hsign : sign = [] ∨ sign = ['+'] ∨ sign = ['-']) (h : IsDigits ds) :
      IsExponent (e :: (sign ++ ds))

inductive IsNumber : List Char → Prop where
  | mk {sign integer fraction exponent : List Char} (hsign : sign = [] ∨ sign = ['-'])
      (hinteger : IsInteger integer) (hfraction : IsFraction fraction)
      (hexponent : IsExponent exponent) :
      IsNumber (sign ++ (integer ++ (fraction ++ exponent)))

/-- A text that no digits can go on in. -/
def StopsDigits (l : List Char) : Prop := ∀ c ∈ l.head?, c.isDigit = false

/-- A text that no number can go on in. -/
def Stops (l : List Char) : Prop := StopsDigits l ∧ ∀ c ∈ l.head?, c ≠ '.' ∧ c ≠ 'e' ∧ c ≠ 'E'

theorem IsDigits.head {ds : List Char} (h : IsDigits ds) : ∃ c ds', ds = c :: ds' ∧ c.isDigit := by
  rcases ds with _ | ⟨c, ds'⟩
  · exact absurd rfl h.1
  · exact ⟨c, ds', rfl, h.2 c List.mem_cons_self⟩

theorem IsDigits.read {ds r : List Char} (h : IsDigits ds) (hr : StopsDigits r) :
    digits? (ds ++ r) = some (ds, r) := by
  have htake : (ds ++ r).takeWhile Char.isDigit = ds := by
    rw [List.takeWhile_append_of_pos h.2]
    rcases r with _ | ⟨c, r⟩
    · simp
    · rw [List.takeWhile_cons_of_neg (by simp [hr c rfl]), List.append_nil]
  have hdrop : (ds ++ r).dropWhile Char.isDigit = r := by
    rw [List.dropWhile_append_of_pos h.2]
    rcases r with _ | ⟨c, r⟩
    · rfl
    · rw [List.dropWhile_cons_of_neg (by simp [hr c rfl])]
  obtain ⟨c, ds', rfl, -⟩ := h.head
  unfold digits?
  rw [htake, hdrop]

theorem IsInteger.read {ds r : List Char} (h : IsInteger ds) (hr : StopsDigits r) :
    integer? (ds ++ r) = some (ds, r) := by
  unfold integer?
  rw [h.1.read hr]
  split
  · next heq =>
    cases heq
    cases h.2 rfl
  · rfl

theorem IsExponent.stops {exponent r : List Char} (h : IsExponent exponent) (hr : Stops r) :
    StopsDigits (exponent ++ r) ∧ ∀ c ∈ (exponent ++ r).head?, c ≠ '.' := by
  cases h with
  | absent => exact ⟨hr.1, fun c hc => (hr.2 c hc).1⟩
  | digits he =>
    refine ⟨fun c hc => ?_, fun c hc => ?_⟩
    · cases hc
      rcases he with rfl | rfl <;> rfl
    · cases hc
      rcases he with rfl | rfl <;> decide

theorem IsFraction.stops {fraction l : List Char} (h : IsFraction fraction) (hl : StopsDigits l) :
    StopsDigits (fraction ++ l) := by
  cases h with
  | absent => exact hl
  | digits =>
    intro c hc
    cases hc
    rfl

theorem IsFraction.read {fraction l : List Char} (h : IsFraction fraction) (hl : StopsDigits l)
    (hdot : ∀ c ∈ l.head?, c ≠ '.') : fraction? (fraction ++ l) = some (fraction.tail, l) := by
  cases h with
  | absent =>
    rw [List.nil_append]
    unfold fraction?
    split
    · exact absurd rfl (hdot '.' rfl)
    · rfl
  | digits h => exact h.read hl

/-- The value of an exponent does not depend on what is behind it. -/
theorem IsExponent.read {exponent : List Char} (h : IsExponent exponent) :
    ∃ n, ∀ r, Stops r → exponent? (exponent ++ r) = some (n, r) := by
  cases h with
  | absent =>
    refine ⟨0, fun r hr => ?_⟩
    rcases r with _ | ⟨c, r⟩
    · rfl
    · obtain ⟨-, he, hE⟩ := hr.2 c rfl
      simp [exponent?, he, hE]
  | @digits e sign ds he hsign h =>
    obtain ⟨d, ds', rfl, hd⟩ := h.head
    rcases hsign with rfl | rfl | rfl
    · refine ⟨(Decimal.value (d :: ds') : Int), fun r hr => ?_⟩
      have hread := h.read hr.1
      have hplus : d ≠ '+' := by
        rintro rfl
        cases hd
      have hminus : d ≠ '-' := by
        rintro rfl
        cases hd
      rw [List.cons_append] at hread
      rw [List.nil_append, List.cons_append, List.cons_append]
      unfold exponent?
      dsimp only
      rw [if_pos he]
      split
      · next heq =>
        cases heq
        exact absurd rfl hminus
      · next heq =>
        cases heq
        exact absurd rfl hplus
      · rw [hread]
        rfl
    · refine ⟨(Decimal.value (d :: ds') : Int), fun r hr => ?_⟩
      have hread := h.read hr.1
      rw [List.cons_append] at hread
      simp [exponent?, he, hread]
    · refine ⟨-(Decimal.value (d :: ds') : Int), fun r hr => ?_⟩
      have hread := h.read hr.1
      rw [List.cons_append] at hread
      simp [exponent?, he, hread]

theorem IsInteger.append_ne {ds l : List Char} (h : IsInteger ds) {r : List Char} :
    ds ++ l ≠ '-' :: r := by
  obtain ⟨c, ds', rfl, hc⟩ := h.1.head
  rintro heq
  cases heq
  cases hc

/-- A number is read up to what cannot be part of it, and whether a double can hold it does not
depend on what is behind it. -/
theorem IsNumber.read {s : List Char} (h : IsNumber s) :
    ∃ b, ∀ r, Stops r → read? (s ++ r) = some (b, r) := by
  obtain ⟨hsign, hinteger, hfraction, hexponent⟩ := h
  rename_i sign integer fraction exponent
  obtain ⟨n, hn⟩ := hexponent.read
  have hunsigned : ∀ r, Stops r → unsigned? (integer ++ (fraction ++ (exponent ++ r)))
      = some (isFinite (Approx.ofDigits integer fraction.tail).value
        ((Approx.ofDigits integer fraction.tail).exponent + n), r) := by
    intro r hr
    obtain ⟨hstops, hdot⟩ := hexponent.stops hr
    unfold unsigned?
    rw [hinteger.read (hfraction.stops hstops)]
    dsimp only
    rw [hfraction.read hstops hdot]
    dsimp only
    rw [hn r hr]
  refine ⟨isFinite (Approx.ofDigits integer fraction.tail).value
    ((Approx.ofDigits integer fraction.tail).exponent + n), fun r hr => ?_⟩
  rw [List.append_assoc, List.append_assoc, List.append_assoc]
  rcases hsign with rfl | rfl
  · rw [List.nil_append]
    unfold read?
    split
    · next heq => exact absurd heq hinteger.append_ne
    · exact hunsigned r hr
  · exact hunsigned r hr

theorem IsNumber.head {s : List Char} (h : IsNumber s) :
    ∃ c s', s = c :: s' ∧ (c = '-' ∨ c.isDigit = true) := by
  obtain ⟨hsign, hinteger, -, -⟩ := h
  rcases hsign with rfl | rfl
  · obtain ⟨c, ds, rfl, hc⟩ := hinteger.1.head
    exact ⟨c, _, rfl, .inr hc⟩
  · exact ⟨'-', _, rfl, .inl rfl⟩

end Number

/-! ## Lexemes -/

namespace Lexeme

/-- Characters that spell a lexeme; what is broken has no spelling. Whether a double can hold a
number is for the reader to say. -/
inductive Spells : Lexeme → List Char → Prop where
  | openArray : Spells .openArray ['[']
  | closeArray : Spells .closeArray [']']
  | openObject : Spells .openObject ['{']
  | closeObject : Spells .closeObject ['}']
  | comma : Spells .comma [',']
  | colon : Spells .colon [':']
  | null : Spells .null ['n', 'u', 'l', 'l']
  | yes : Spells (.bool true) ['t', 'r', 'u', 'e']
  | no : Spells (.bool false) ['f', 'a', 'l', 's', 'e']
  | number {b : Bool} {s : List Char} (h : Number.IsNumber s) (hb : Number.read? s = some (b, [])) :
      Spells (.number b) s
  | string {s : Option String} {body : List Char} (h : Quoted.Spells s body) :
      Spells (.string s) ('"' :: (body ++ ['"']))

/-- The characters that may stand between lexemes. -/
def blanks : List Char := [' ', '\n', '\t', '\r']

/-- A text that holds these lexemes and blanks. -/
inductive Written : List Lexeme → List Char → Prop where
  | nil {space : List Char} (hspace : ∀ c ∈ space, c ∈ blanks) : Written [] space
  | cons {x : Lexeme} {ls : List Lexeme} {space s text : List Char}
      (hspace : ∀ c ∈ space, c ∈ blanks) (h : x.Spells s) (hrest : Written ls text) :
      Written (x :: ls) (space ++ (s ++ text))

def isNumber : Lexeme → Bool
  | number _ => true
  | _ => false

/-- No two numbers stand side by side. -/
def NumbersApart : List Lexeme → Prop
  | [] => True
  | x :: ls => (x.isNumber = true → ∀ y ∈ ls.head?, y.isNumber = false) ∧ NumbersApart ls

theorem isSpace_of_mem {c : Char} (h : c ∈ blanks) : isSpace c = true := by
  simp only [blanks, List.mem_cons, List.not_mem_nil, or_false] at h
  rcases h with rfl | rfl | rfl | rfl <;> rfl

/-- What a lexeme starts with is no blank, and can go on in a number only if it is one. -/
theorem Spells.head {x : Lexeme} {s : List Char} (h : x.Spells s) :
    ∃ c s', s = c :: s' ∧ isSpace c = false ∧
      (x.isNumber = false → ∀ r, Number.Stops (c :: r)) := by
  have hstops {c : Char} (hdigit : c.isDigit = false) (hc : c ≠ '.' ∧ c ≠ 'e' ∧ c ≠ 'E')
      (r : List Char) : Number.Stops (c :: r) :=
    ⟨fun _ h => Option.mem_some.1 h ▸ hdigit, fun _ h => Option.mem_some.1 h ▸ hc⟩
  cases h with
  | number h =>
    obtain ⟨c, s', rfl, hc⟩ := h.head
    refine ⟨c, s', rfl, ?_, nofun⟩
    rcases hc with rfl | hc
    · rfl
    · simp only [isSpace, Bool.or_eq_false_iff, beq_eq_false_iff_ne]
      refine ⟨⟨⟨?_, ?_⟩, ?_⟩, ?_⟩ <;>
        · rintro rfl
          cases hc
  | _ => exact ⟨_, _, rfl, rfl, fun _ => hstops rfl (by decide)⟩

/-- A word that starts like a number is read as one. -/
theorem read_of_head {c : Char} (hc : c = '-' ∨ c.isDigit = true) (l : List Char) {b : Bool}
    {r : List Char} (h : Number.read? (c :: l) = some (b, r)) :
    read (c :: l) = some (number b, r) := by
  have hne {d : Char} (hd : d ≠ '-' ∧ d.isDigit = false) : c ≠ d := by
    rintro rfl
    rcases hc with hc | hc
    · exact hd.1 hc
    · exact absurd hc (by simp [hd.2])
  unfold read
  split
  case h_12 =>
    next heq =>
    cases heq
    rw [h]
  case h_1 heq => cases heq
  all_goals
    next heq =>
    cases heq
    exact absurd rfl (hne (by decide))

/-- A lexeme is read up to its end; behind a number there must be something else. -/
theorem Spells.read {x : Lexeme} {s : List Char} (h : x.Spells s) {r : List Char}
    (hr : x.isNumber = true → Number.Stops r) : read (s ++ r) = some (x, r) := by
  cases h with
  | @number b s h hb =>
    obtain ⟨b', hread⟩ := h.read
    obtain rfl : b = b' := by
      have hend := hread [] ⟨nofun, nofun⟩
      rw [List.append_nil, hb] at hend
      cases hend
      rfl
    obtain ⟨c, s', rfl, hc⟩ := h.head
    exact read_of_head hc _ (hread r (hr rfl))
  | @string s body h =>
    have hread := h.read r
    rw [List.cons_append, List.append_assoc, List.singleton_append]
    simp [Lexeme.read, hread]
  | _ => rfl

theorem dropWhile_isSpace {space : List Char} (h : ∀ c ∈ space, c ∈ blanks) (l : List Char) :
    (space ++ l).dropWhile isSpace = l.dropWhile isSpace :=
  List.dropWhile_append_of_pos fun c hc => isSpace_of_mem (h c hc)

/-- A text whose first lexeme is no number cannot go on in a number before it. -/
theorem Written.stops {ls : List Lexeme} {text : List Char} (h : Written ls text)
    (hls : ∀ y ∈ ls.head?, y.isNumber = false) : Number.Stops text := by
  have hblank {space l : List Char} (hspace : ∀ c ∈ space, c ∈ blanks) (hl : Number.Stops l) :
      Number.Stops (space ++ l) := by
    rcases space with _ | ⟨c, space⟩
    · exact hl
    · have hc := hspace c List.mem_cons_self
      simp only [blanks, List.mem_cons, List.not_mem_nil, or_false] at hc
      rcases hc with rfl | rfl | rfl | rfl
      all_goals exact ⟨fun _ h => Option.mem_some.1 h ▸ rfl, fun _ h => Option.mem_some.1 h ▸ by decide⟩
  cases h with
  | @nil space hspace =>
    have hnil := hblank (l := []) hspace ⟨nofun, nofun⟩
    rwa [List.append_nil] at hnil
  | cons hspace hx =>
    obtain ⟨c, s', rfl, -, hstops⟩ := hx.head
    exact hblank hspace (hstops (hls _ rfl) _)

theorem Written.readAll {ls : List Lexeme} {text : List Char} (h : Written ls text)
    (hls : NumbersApart ls) (acc : List Lexeme) : readAll acc text = acc.reverse ++ ls := by
  induction h generalizing acc with
  | @nil space hspace =>
    have hend : space.dropWhile isSpace = [] := by
      have hdrop := dropWhile_isSpace hspace []
      rwa [List.append_nil] at hdrop
    rw [Lexeme.readAll]
    split
    · exact (List.append_nil _).symm
    · next heq =>
      rw [hend] at heq
      cases heq
  | @cons x ls space s text hspace hx hrest ih =>
    have hread := hx.read fun hnumber => hrest.stops (hls.1 hnumber)
    have hdrop : (space ++ (s ++ text)).dropWhile isSpace = s ++ text := by
      obtain ⟨c, s', rfl, hc, -⟩ := hx.head
      rw [dropWhile_isSpace hspace, List.cons_append,
        List.dropWhile_cons_of_neg (by simp [hc])]
    rw [Lexeme.readAll]
    split
    · next heq =>
      rw [hdrop, hread] at heq
      cases heq
    · next heq =>
      rw [hdrop, hread] at heq
      cases heq
      rw [ih hls.2]
      simp

/-- The lexemes of a text are those that are written there. -/
theorem Written.ofText {ls : List Lexeme} {text : List Char} (h : Written ls text)
    (hls : NumbersApart ls) : ofText text = ls :=
  h.readAll hls []

end Lexeme

end ZoneNet.Json
