import ZoneNet.Log.Entry
import ZoneNet.Text.Alphanumeric
import ZoneNet.Text.Blank
import ZoneNet.Text.BytePosition
import ZoneNet.Text.Cut
import ZoneNet.Text.Decimal
import ZoneNet.Text.Numeral
import ZoneNet.Text.Pattern.Reader

/-!
# Which entries are logged

A setting is a list of directives with commas between. A directive reads `level`, `target`,
`target=level`, or `target[span{field}]=level`, where the target, the span, the field and the level
may each be absent, and a field is a name or `name=value`. Of the directives that concern an entry
the most specific one decides whether the entry is kept; an entry that none concerns is dropped.
-/

namespace ZoneNet

open Text

/-! ## Directives -/

/-- A field that a directive asks for. -/
structure FieldPattern where
  name : String
  /-- Whether it asks for a value, too. -/
  hasValue : Bool
  deriving DecidableEq, Repr

structure LogDirective where
  /-- How an entry's target must begin. -/
  target : String := ""
  /-- The span that an entry must be logged in. -/
  span : Option String := none
  field : Option FieldPattern := none
  /-- The greatest rank of level that is kept; zero keeps nothing. -/
  limit : Nat := Level.trace.rank
  deriving DecidableEq, Repr

namespace LogDirective

/-- Whether a directive has a say about an entry. No entry is logged in a span, and values are
looked at in spans only, so a directive that asks for one of the two never has. -/
def concerns (d : LogDirective) (e : LogEntry) : Bool :=
  d.span.isNone && d.target.toList.isPrefixOf e.source.target.toList
    && d.field.all fun f => !f.hasValue && e.hasField f.name

/-- Whether a directive is more specific than another one: a longer target counts first, then a
field, then the later name of a field. -/
def outranks (d d' : LogDirective) : Bool :=
  if d.target.utf8ByteSize = d'.target.utf8ByteSize then
    match d.field, d'.field with
    | none, _ => false
    | some _, none => true
    | some f, some f' => f'.name < f.name
  else d'.target.utf8ByteSize < d.target.utf8ByteSize

/-- Of two directives the one that decides; if none is more specific, that is the second. -/
def prevailing (best : Option LogDirective) (d : LogDirective) : Option LogDirective :=
  match best with
  | none => some d
  | some b => if b.outranks d then some b else some d

/-! ## Reading a directive -/

/-- Why a directive cannot be read. -/
inductive Fault where
  | malformed
  /-- A word of it would begin or end inside a character. -/
  | insideCharacter
  deriving DecidableEq, Repr

/-- The words for levels, by the greatest rank that they keep. -/
def levelWords : List String := ["off", "error", "warn", "info", "debug", "trace"]

/-- The greatest rank that a level by name or by number keeps. -/
def limit? (word : List Char) : Option Nat :=
  match Decimal.upTo? Level.trace.rank word with
  | some n => some n
  | none => levelWords.findIdx? (·.toList = word.map Char.toLower)

/-- Where in a directive a reader is. A number is the position at which a word began. -/
inductive Place where
  | start
  /-- In a word that is a level or a target. -/
  | word (start : Nat)
  | span (start : Nat)
  | field (start : Nat)
  | afterField
  | afterSpan
  | level (start : Nat)
  deriving DecidableEq, Repr

/-- What has been read of a directive. -/
structure Reading where
  place : Place := .start
  directive : LogDirective := {}
  deriving DecidableEq, Repr

/-- The word between two positions of a text. -/
def word (text : List Char) (start stop : Nat) : Except Fault String :=
  match slice? text start stop with
  | some w => .ok (String.ofList w)
  | none => .error .insideCharacter

/-- Whether a word can begin with a character. -/
def opensWord (c : Char) : Bool := c = '-' || c = ':' || c = '_' || isAlphanumeric c

/-- Whether a field can be asked to have a value: a number, or text that a pattern describes. -/
def isValue (l : List Char) : Bool := Numeral.isReal l || Pattern.isWellFormed l

/-- The field that the text between braces asks for. The value goes up to a second `=`. -/
def fieldPattern? (text : String) : Option FieldPattern :=
  match cut '=' text.toList with
  | none => some ⟨text, false⟩
  | some (name, rest) =>
    if isValue (before '=' rest) then some ⟨String.ofList name, true⟩ else none

/-- One character more, which stands at position `i`. -/
def step (text : List Char) (r : Reading) (i : Nat) (c : Char) : Except Fault Reading :=
  match r.place with
  | .start =>
    if c = '[' then .ok { r with place := .span (i + 1) }
    else if opensWord c then .ok { r with place := .word i }
    else .error .malformed
  | .word start =>
    if c = '=' then
      (word text start i).map fun target => ⟨.level (i + 1), { r.directive with target }⟩
    else if c = '[' then
      (word text start i).map fun target => ⟨.span (i + 1), { r.directive with target }⟩
    else .ok r
  | .span start =>
    if c = ']' then
      (word text start i).map fun name => ⟨.afterSpan, { r.directive with span := some name }⟩
    else if c = '\x7b' then
      (word text start i).map fun name =>
        ⟨.field (i + 1), { r.directive with span := if name = "" then none else some name }⟩
    else .ok r
  | .field start =>
    if c = '\x7d' then
      match word text start i with
      | .error e => .error e
      | .ok "" => .error .malformed
      | .ok f =>
        match fieldPattern? f with
        | none => .error .malformed
        | some field => .ok ⟨.afterField, { r.directive with field := some field }⟩
    else .ok r
  | .afterField => if c = ']' then .ok { r with place := .afterSpan } else .error .malformed
  | .afterSpan => if c = '=' then .ok { r with place := .level (i + 1) } else .error .malformed
  | .level _ => .ok r

/-- Reads the characters from position `i` on. -/
def scan (text : List Char) : List Char → Nat → Reading → Except Fault Reading
  | [], _, r => .ok r
  | c :: rest, i, r =>
    match step text r i c with
    | .error e => .error e
    | .ok r => scan text rest (i + c.utf8Size) r

/-- The directive at the end of a text. A level that is left out keeps everything, and a word that
is no level is a target. -/
def finish (text : List Char) (r : Reading) : Except Fault LogDirective :=
  match r.place with
  | .word start =>
    match sliceFrom? text start with
    | none => .error .insideCharacter
    | some w =>
      match limit? w with
      | some limit => .ok { limit }
      | none => .ok { target := String.ofList w }
  | .level start =>
    match sliceFrom? text start with
    | none => .error .insideCharacter
    | some [] => .ok r.directive
    | some w =>
      match limit? w with
      | some limit => .ok { r.directive with limit }
      | none => .error .malformed
  | .afterSpan => .ok r.directive
  | _ => .error .malformed

/-- Reads a directive. Positions are counted in the text without the blanks at its ends, and words
are taken from the text with them, so a blank in front shifts every word. -/
def ofText (text : List Char) : Except Fault LogDirective :=
  match scan text (trim text) 0 {} with
  | .error e => .error e
  | .ok r => finish text r

/-- Reads directives in order, up to the first one that cannot be read. -/
def ofTexts : List (List Char) → Except Fault (List LogDirective)
  | [] => .ok []
  | text :: rest =>
    match ofText text with
    | .error e => .error e
    | .ok d => (ofTexts rest).map (d :: ·)

end LogDirective

/-! ## Filters -/

/-- The directives of a setting, in order. -/
structure LogFilter where
  directives : List LogDirective
  deriving DecidableEq, Repr

namespace LogFilter

/-- The filter of no setting: entries up to INFO are kept. -/
def byDefault : LogFilter := ⟨[{ limit := Level.info.rank }]⟩

/-- The filter that a setting asks for. Empty directives do not count, and a setting that is
malformed counts as absent. A process that would cut a character apart breaks off: it has none. -/
def ofSetting? : Option String → Option LogFilter
  | none => some byDefault
  | some text =>
    match LogDirective.ofTexts ((pieces ',' text.toList).filter (· ≠ [])) with
    | .ok directives => some ⟨directives⟩
    | .error .malformed => some byDefault
    | .error .insideCharacter => none

/-- The directive that decides about an entry. -/
def decisive? (f : LogFilter) (e : LogEntry) : Option LogDirective :=
  (f.directives.filter (·.concerns e)).foldl LogDirective.prevailing none

def keeps (f : LogFilter) (e : LogEntry) : Bool :=
  match f.decisive? e with
  | some d => e.level.rank ≤ d.limit
  | none => false

end LogFilter

end ZoneNet
