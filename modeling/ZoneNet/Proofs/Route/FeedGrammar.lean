import ZoneNet.Route.FeedLine
import ZoneNet.Proofs.Address.DottedQuad

/-!
# The grammar of feed lines

A line is scanned character by character. The same fields are had by cutting it three times: at
the first `|`, at the next `/` and at the next `|`; the flag is all that remains.

* `foldl_step_of_not_mem` — a stage collects every character that is not its delimiter.
* `ofScan_ofLine` — the scanner and the three cuts agree on every line.
* `parse_grammar` — the grammar of lines, and the line that is written for a route reads back.
-/

namespace ZoneNet

open Text

/-! ## The scanner on a stretch of text -/

namespace Scan

/-- A stage collects every character that is not its delimiter. -/
theorem foldl_step_of_not_mem {l : List Char} :
    ∀ s : Scan, (∀ d, s.stage.delimiter = some d → d ∉ l) →
      l.foldl step s = { s with buffer := l.reverse ++ s.buffer } := by
  induction l with
  | nil => intro s _; rfl
  | cons c l ih =>
    intro s h
    have hc : s.stage.delimiter ≠ some c := fun hd => h c hd List.mem_cons_self
    have hstep : step s c = { s with buffer := c :: s.buffer } := by
      unfold step
      rw [if_neg hc]
    rw [List.foldl_cons, hstep, ih { s with buffer := c :: s.buffer }
      (fun d hd hm => h d hd (List.mem_cons_of_mem _ hm))]
    simp

/-- A stage whose delimiter does not come keeps collecting to the end. -/
theorem foldl_step_of_cut_none {l : List Char} {s : Scan} {d : Char}
    (hd : s.stage.delimiter = some d) (hc : cut d l = none) :
    l.foldl step s = { s with buffer := l.reverse ++ s.buffer } := by
  refine foldl_step_of_not_mem s fun x hx => ?_
  rw [hd] at hx
  rw [← Option.some.inj hx]
  exact cut_eq_none_iff.1 hc

/-- A stage ends at the first occurrence of its delimiter. -/
theorem foldl_step_of_cut_some {l a b : List Char} {s : Scan} {d : Char}
    (hd : s.stage.delimiter = some d) (hc : cut d l = some (a, b)) :
    l.foldl step s = b.foldl step (step { s with buffer := a.reverse ++ s.buffer } d) := by
  obtain ⟨rfl, hn⟩ := cut_eq_some_iff.1 hc
  have ha : a.foldl step s = { s with buffer := a.reverse ++ s.buffer } := by
    refine foldl_step_of_not_mem s fun x hx => ?_
    rw [hd] at hx
    rw [← Option.some.inj hx]
    exact hn
  rw [List.foldl_append, ha, List.foldl_cons]

end Scan

/-! ## The fields of a line by cutting -/

/-- The four fields of a line. -/
structure LineFields where
  gateway : List Char
  network : List Char
  bits : List Char
  flag : List Char

namespace LineFields

/-- The text before the first `|`, from there to the next `/`, from there to the next `|`, and all
that remains. -/
def ofLine (line : String) : Except ParseError LineFields :=
  match cut '|' line.toList with
  | none => .error (.missingDelimiter line .gateway '|')
  | some (gateway, rest) =>
    match cut '/' rest with
    | none => .error (.missingDelimiter line .network '/')
    | some (network, rest) =>
      match cut '|' rest with
      | none => .error (.missingDelimiter line .bits '|')
      | some (bits, flag) => .ok ⟨gateway, network, bits, flag⟩

/-- The route that the fields of a line describe: two addresses and a prefix length from 0 to 32.
The flag is taken as it stands. -/
def route (line : String) (f : LineFields) : Except ParseError FeedLine :=
  match IPv4.ofText? f.gateway, IPv4.ofText? f.network with
  | none, _ => .error (.badGateway line (String.ofList f.gateway))
  | some _, none => .error (.badNetwork line (String.ofList f.network))
  | some gateway, some network =>
    let bits := Decimal.lenient f.bits
    if 0 ≤ bits ∧ bits ≤ 32 then
      .ok ⟨⟨some (network, UInt8.ofNat bits.toNat), gateway, none⟩, String.ofList f.flag⟩
    else .error (.badBits line bits)

end LineFields

namespace FeedLine

/-- Reads a line by cutting it into its fields. -/
def split (line : String) : Except ParseError FeedLine :=
  match LineFields.ofLine line with
  | .error e => .error e
  | .ok f => f.route line

/-- A scan that has reached the flag describes the route of its fields. -/
theorem ofScan_flag (line : String) (buffer gateway network bits : List Char) :
    ofScan line ⟨.flag, buffer, gateway, network, bits⟩
      = LineFields.route line ⟨gateway, network, bits, buffer.reverse⟩ := by
  simp only [ofScan, ScanStage.delimiter, LineFields.route]
  cases IPv4.ofText? gateway with
  | none => rfl
  | some gw =>
    cases IPv4.ofText? network with
    | none => rfl
    | some net =>
      by_cases hb : 0 ≤ Decimal.lenient bits ∧ Decimal.lenient bits ≤ 32
      · simp only [bits?, if_pos hb]
        rfl
      · simp only [bits?, if_neg hb]

/-- The scanner and the three cuts agree on every line. -/
theorem ofScan_ofLine (line : String) : ofScan line (Scan.ofLine line.toList) = split line := by
  unfold split LineFields.ofLine
  show ofScan line (line.toList.foldl Scan.step ⟨.gateway, [], [], [], []⟩) = _
  cases h1 : cut '|' line.toList with
  | none => rw [Scan.foldl_step_of_cut_none rfl h1]; rfl
  | some p =>
    obtain ⟨gateway, rest⟩ := p
    have hgateway : Scan.step ⟨.gateway, gateway.reverse ++ [], [], [], []⟩ '|'
        = ⟨.network, [], gateway, [], []⟩ := by
      simp [Scan.step, ScanStage.delimiter, Scan.field]
    rw [Scan.foldl_step_of_cut_some rfl h1, hgateway]
    dsimp only
    cases h2 : cut '/' rest with
    | none => rw [Scan.foldl_step_of_cut_none rfl h2]; rfl
    | some p =>
      obtain ⟨network, rest⟩ := p
      have hnetwork : Scan.step ⟨.network, network.reverse ++ [], gateway, [], []⟩ '/'
          = ⟨.bits, [], gateway, network, []⟩ := by
        simp [Scan.step, ScanStage.delimiter, Scan.field]
      rw [Scan.foldl_step_of_cut_some rfl h2, hnetwork]
      dsimp only
      cases h3 : cut '|' rest with
      | none => rw [Scan.foldl_step_of_cut_none rfl h3]; rfl
      | some p =>
        obtain ⟨bits, flag⟩ := p
        have hbits : Scan.step ⟨.bits, bits.reverse ++ [], gateway, network, []⟩ '|'
            = ⟨.flag, [], gateway, network, bits⟩ := by
          simp [Scan.step, ScanStage.delimiter, Scan.field]
        rw [Scan.foldl_step_of_cut_some rfl h3, hbits]
        -- the last stage has no delimiter, so it takes whatever is left
        rw [Scan.foldl_step_of_not_mem _ (fun d hd => absurd hd (by simp [ScanStage.delimiter])),
          ofScan_flag]
        simp

/-! ## The line that is written for a route -/

/-- The line for a route to a network through a gateway, with a flag. -/
def write (gateway network : IPv4) (bits : UInt8) (flag : String) : String :=
  toString gateway ++ "|" ++ toString network ++ "/" ++ toString bits.toNat ++ "|" ++ flag

theorem toList_write (gateway network : IPv4) (bits : UInt8) (flag : String) :
    (write gateway network bits flag).toList
      = gateway.toText ++ '|' :: (network.toText ++ '/' ::
          (Nat.toDigits 10 bits.toNat ++ '|' :: flag.toList)) := by
  have hip : ∀ ip : IPv4, (toString ip).toList = ip.toText := fun ip => String.toList_ofList
  simp [write, hip]

/-- The spelling of a prefix length reads back leniently. -/
theorem lenient_toDigits {n : Nat} (h : n ≤ 32) : Decimal.lenient (Nat.toDigits 10 n) = n := by
  have hall : ∀ k : Fin 33, Decimal.lenient (Nat.toDigits 10 k) = k := by decide +kernel
  exact hall ⟨n, by omega⟩

/-- A line of two addresses, with any texts for the prefix length and the flag, is cut into these
four, unless the delimiter stands inside the prefix length. -/
theorem ofLine_of_toList {line : String} {gateway network : IPv4} {bits flag : List Char}
    (hline : line.toList
      = gateway.toText ++ '|' :: (network.toText ++ '/' :: (bits ++ '|' :: flag)))
    (hbits : '|' ∉ bits) :
    LineFields.ofLine line = .ok ⟨gateway.toText, network.toText, bits, flag⟩ := by
  -- no field but the flag holds the delimiter that ends it
  unfold LineFields.ofLine
  rw [hline, cut_eq_some_iff.2 ⟨rfl, IPv4.not_mem_toText gateway (by decide) (by decide)⟩]
  dsimp only
  rw [cut_eq_some_iff.2 ⟨rfl, IPv4.not_mem_toText network (by decide) (by decide)⟩]
  dsimp only
  rw [cut_eq_some_iff.2 ⟨rfl, hbits⟩]

/-- The written line is cut into what it was written from. -/
theorem ofLine_write (gateway network : IPv4) (bits : UInt8) (flag : String) :
    LineFields.ofLine (write gateway network bits flag)
      = .ok ⟨gateway.toText, network.toText, Nat.toDigits 10 bits.toNat, flag.toList⟩ :=
  ofLine_of_toList (toList_write gateway network bits flag)
    (Decimal.not_mem_toDigits (by decide) bits.toNat)

theorem split_write (gateway network : IPv4) {bits : UInt8} (flag : String) (h : bits ≤ 32) :
    split (write gateway network bits flag) = .ok ⟨.networkVia network bits gateway, flag⟩ := by
  have hle : bits.toNat ≤ 32 := UInt8.le_iff_toNat_le.1 h
  unfold split LineFields.route
  rw [ofLine_write]
  simp only [IPv4.ofText?_toText, lenient_toDigits hle, String.ofList_toList]
  rw [if_pos ⟨by omega, by omega⟩]
  simp [RouteRequest.networkVia]

/-- The grammar of feed lines. Reading a line is cutting it into its fields; the texts that count
as addresses are the dotted spellings of four octets; and the line written for a route, whatever
its flag, reads back as that route. -/
theorem parse_grammar :
    (∀ line, parse line = split line) ∧
      (∀ text ip, IPv4.ofText? text = some ip ↔ text = ip.toText) ∧
      ∀ gateway network bits flag, bits ≤ 32 →
        parse (write gateway network bits flag) = .ok ⟨⟨some (network, bits), gateway, none⟩, flag⟩ := by
  refine ⟨ofScan_ofLine, fun _ _ => IPv4.ofText?_eq_some_iff, ?_⟩
  intro gateway network bits flag h
  show ofScan _ (Scan.ofLine _) = _
  rw [ofScan_ofLine, split_write gateway network flag h]
  rfl

/-- A flag keeps the delimiters in it. -/
theorem parse_grammar_flag : (32 : UInt8) ≤ 32 ∧
    parse (write ⟨10, 77, 77, 2⟩ ⟨10, 1, 1, 0⟩ 32 "tr|u/e")
      = .ok ⟨⟨some (⟨10, 1, 1, 0⟩, 32), ⟨10, 77, 77, 2⟩, none⟩, "tr|u/e"⟩ :=
  ⟨by decide, parse_grammar.2.2 _ _ _ _ (by decide)⟩

end FeedLine

end ZoneNet
