import RtcTestbench.Lib.Snprintf

namespace Json
open Strto Snprintf
set_option autoImplicit true

/-- `mantissa * 10 ^ exponent`. -/
structure Number where
  mantissa : Int
  exponent : Int
  deriving DecidableEq

/-- Texts are kept as they stand between the quotes. -/
inductive Value where
  | null
  | bool (b : Bool)
  | number (n : Number)
  | string (text : List UInt8)
  | array (items : List Value)
  | object (members : List (List UInt8 × Value))

/-- The digits of a fraction and what follows them. -/
def fraction : List UInt8 → Option (List UInt8 × List UInt8)
  | [] => some ([], [])
  | c :: text =>
    if c = 0x2e then
      if text.takeWhile (isDigit 10) = [] then none
      else some (text.takeWhile (isDigit 10), text.dropWhile (isDigit 10))
    else some ([], c :: text)

/-- The exponent, which ends a number. -/
def exponentPart : List UInt8 → Option Int
  | [] => some 0
  | c :: text =>
    if (c = 0x65 ∨ c = 0x45) ∧ (takeSign text).2 ≠ [] ∧ (takeSign text).2.all (isDigit 10) then
      some (signed (takeSign text).1 (value 10 (takeSign text).2))
    else none

/-- The digits of an integer part: no zero in front of others. -/
def IntegerPart (digits : List UInt8) : Prop :=
  digits ≠ [] ∧ (digits.head? = some 0x30 → digits = [0x30])

instance : DecidablePred IntegerPart := fun digits =>
  inferInstanceAs (Decidable (digits ≠ [] ∧ (digits.head? = some 0x30 → digits = [0x30])))

def unsignedNumber (negative : Bool) (body : List UInt8) : Option Number :=
  let digits := body.takeWhile (isDigit 10)
  if IntegerPart digits then do
    let (frac, rest) ← fraction (body.dropWhile (isDigit 10))
    let e ← exponentPart rest
    some ⟨signed negative (value 10 (digits ++ frac)), e - frac.length⟩
  else none

/-- A whole text as a number. -/
def number : List UInt8 → Option Number
  | [] => none
  | c :: text => if c = 0x2d then unsignedNumber true text else unsignedNumber false (c :: text)

/-- A text that is a number. -/
structure Numeral where
  text : List UInt8
  isNumber : (number text).isSome = true

def Numeral.value (n : Numeral) : Number := (number n.text).get n.isNumber

inductive Token where
  | openBrace | closeBrace | openBracket | closeBracket | colon | comma
  | string (text : List UInt8)
  | atom (v : Value)

/-- A value that is neither a string nor composed of others. -/
def atom (text : List UInt8) : Option Value :=
  if text = [0x6e, 0x75, 0x6c, 0x6c] then some .null
  else if text = [0x74, 0x72, 0x75, 0x65] then some (.bool true)
  else if text = [0x66, 0x61, 0x6c, 0x73, 0x65] then some (.bool false)
  else (number text).map .number

def isWhitespace (c : UInt8) : Bool := c == 0x20 || c == 0x09 || c == 0x0a || c == 0x0d

def punctuation (c : UInt8) : Option Token :=
  if c = 0x7b then some .openBrace
  else if c = 0x7d then some .closeBrace
  else if c = 0x5b then some .openBracket
  else if c = 0x5d then some .closeBracket
  else if c = 0x3a then some .colon
  else if c = 0x2c then some .comma
  else none

def isDelimiter (c : UInt8) : Bool := isWhitespace c || (punctuation c).isSome || c == 0x22

/-- Where the scanner stands: inside of a string it may be behind a backslash or in the four digits
of a `\u`. -/
inductive Mode where
  | between
  | string (text : List UInt8)
  | escape (text : List UInt8)
  | hex (left : Nat) (text : List UInt8)
  | atom (text : List UInt8)

/-- What a byte starts between two tokens. -/
def start (c : UInt8) : List Token × Mode :=
  if isWhitespace c then ([], .between)
  else match punctuation c with
    | some t => ([t], .between)
    | none => if c = 0x22 then ([], .string []) else ([], .atom [c])

/-- One byte: the tokens it completes and where the scanner goes. -/
def step : Mode → UInt8 → Option (List Token × Mode)
  | .between, c => some (start c)
  | .string text, c =>
    if c = 0x22 then some ([.string text], .between)
    else if c = 0x5c then some ([], .escape (text ++ [c]))
    else if c < 0x20 then none
    else some ([], .string (text ++ [c]))
  | .escape text, c =>
    if c = 0x75 then some ([], .hex 3 (text ++ [c]))
    else if c ∈ [0x22, 0x5c, 0x2f, 0x62, 0x66, 0x6e, 0x72, 0x74] then
      some ([], .string (text ++ [c]))
    else none
  | .hex left text, c =>
    if isDigit 16 c then
      some ([], if left = 0 then .string (text ++ [c]) else .hex (left - 1) (text ++ [c]))
    else none
  | .atom text, c =>
    if isDelimiter c then (atom text).map fun v => (.atom v :: (start c).1, (start c).2)
    else some ([], .atom (text ++ [c]))

def scan : Mode → List UInt8 → Option (List Token × Mode)
  | mode, [] => some ([], mode)
  | mode, c :: text => do
    let (ts, mode) ← step mode c
    let (ts', mode) ← scan mode text
    some (ts ++ ts', mode)

def tokens (text : List UInt8) : Option (List Token) :=
  match scan .between text with
  | some (ts, .between) => some ts
  | some (ts, .atom last) => (atom last).map fun v => ts ++ [.atom v]
  | _ => none

mutual
/-- The value at the front of the tokens and the tokens behind it; the number bounds the calls. -/
def parseValue : Nat → List Token → Option (Value × List Token)
  | _ + 1, .string text :: rest => some (.string text, rest)
  | _ + 1, .atom v :: rest => some (v, rest)
  | _ + 1, .openBrace :: .closeBrace :: rest => some (.object [], rest)
  | n + 1, .openBrace :: rest => (parseMembers n rest).map fun r => (.object r.1, r.2)
  | _ + 1, .openBracket :: .closeBracket :: rest => some (.array [], rest)
  | n + 1, .openBracket :: rest => (parseItems n rest).map fun r => (.array r.1, r.2)
  | _, _ => none

/-- Members with commas between them up to the closing brace. -/
def parseMembers : Nat → List Token → Option (List (List UInt8 × Value) × List Token)
  | n + 1, .string key :: .colon :: rest =>
    match parseValue n rest with
    | some (v, .closeBrace :: rest) => some ([(key, v)], rest)
    | some (v, .comma :: rest) => (parseMembers n rest).map fun r => ((key, v) :: r.1, r.2)
    | _ => none
  | _, _ => none

def parseItems : Nat → List Token → Option (List Value × List Token)
  | n + 1, rest =>
    match parseValue n rest with
    | some (v, .closeBracket :: rest) => some ([v], rest)
    | some (v, .comma :: rest) => (parseItems n rest).map fun r => (v :: r.1, r.2)
    | _ => none
  | _, _ => none
end

/-- The value a whole text stands for; `none` when it is no JSON text. -/
def parse (text : List UInt8) : Option Value :=
  match tokens text with
  | none => none
  | some ts =>
    match parseValue ts.length ts with
    | some (v, []) => some v
    | _ => none

-- `{"a" : [1, -2.5e1], "b": null}`; a comma in front of the brace is refused.
example : parse [0x7b, 0x22, 0x61, 0x22, 0x20, 0x3a, 0x20, 0x5b, 0x31, 0x2c, 0x20, 0x2d, 0x32, 0x2e,
    0x35, 0x65, 0x31, 0x5d, 0x2c, 0x20, 0x22, 0x62, 0x22, 0x3a, 0x20, 0x6e, 0x75, 0x6c, 0x6c,
      0x7d] =
    some (.object [([0x61], .array [.number ⟨1, 0⟩, .number ⟨-25, 0⟩]), ([0x62], .null)]) := rfl

example : (parse [0x7b, 0x22, 0x61, 0x22, 0x3a, 0x31, 0x2c, 0x7d]).isNone = true := rfl

section Number

theorem fraction_split (h : fraction text = some (frac, rest)) :
    ∃ front, text = front ++ rest ∧ ∀ c ∈ front, c = 0x2e ∨ isDigit 10 c = true := by
  cases text with
  | nil =>
    cases h
    exact ⟨[], rfl, nofun⟩
  | cons c text =>
    rw [fraction] at h
    split at h
    · rename_i hc
      split at h
      · cases h
      · cases h
        refine ⟨c :: text.takeWhile (isDigit 10), ?_, ?_⟩
        · rw [List.cons_append, List.takeWhile_append_dropWhile]
        · intro d hd
          rcases List.mem_cons.mp hd with rfl | hd
          · exact .inl hc
          · exact .inr (List.mem_takeWhile_imp hd)
    · cases h
      exact ⟨[], rfl, nofun⟩

/-- The characters of a number. -/
def IsNumeric (c : UInt8) : Prop :=
  isDigit 10 c = true ∨ c = 0x2d ∨ c = 0x2b ∨ c = 0x2e ∨ c = 0x65 ∨ c = 0x45

theorem takeSign_numeric {text : List UInt8} (h : (takeSign text).2.all (isDigit 10) = true) :
    ∀ c ∈ text, IsNumeric c := by
  obtain ⟨sign, hsign, htext⟩ := takeSign_spec text
  intro c hc
  rw [htext] at hc
  rcases List.mem_append.mp hc with hc | hc
  · cases hneg : (takeSign text).1 with
    | false =>
      rw [hneg] at hsign
      simp only [signs, List.mem_cons, List.not_mem_nil, or_false] at hsign
      rcases hsign with rfl | rfl
      · cases hc
      · exact .inr (.inr (.inl (List.mem_singleton.mp hc)))
    | true =>
      rw [hneg] at hsign
      simp only [signs, List.mem_cons, List.not_mem_nil, or_false] at hsign
      rw [hsign] at hc
      exact .inr (.inl (List.mem_singleton.mp hc))
  · exact .inl (List.all_eq_true.mp h c hc)

theorem exponentPart_numeric (h : exponentPart text = some e) : ∀ c ∈ text, IsNumeric c := by
  cases text with
  | nil => exact nofun
  | cons c text =>
    rw [exponentPart] at h
    split at h
    · rename_i hc
      intro d hd
      rcases List.mem_cons.mp hd with rfl | hd
      · exact .inr (.inr (.inr (.inr hc.1)))
      · exact takeSign_numeric hc.2.2 d hd
    · cases h

theorem unsignedNumber_numeric (h : unsignedNumber negative body = some v) :
    ∀ c ∈ body, IsNumeric c := by
  rw [unsignedNumber] at h
  split at h
  · simp only [bind, Option.bind_eq_some_iff] at h
    obtain ⟨⟨frac, rest⟩, hfrac, e, he, -⟩ := h
    obtain ⟨front, hfront, hdots⟩ := fraction_split hfrac
    intro c hc
    rw [← List.takeWhile_append_dropWhile (p := isDigit 10) (l := body), hfront] at hc
    rcases List.mem_append.mp hc with hc | hc
    · exact .inl (List.mem_takeWhile_imp hc)
    rcases List.mem_append.mp hc with hc | hc
    · rcases hdots c hc with hc | hc
      · exact .inr (.inr (.inr (.inl hc)))
      · exact .inl hc
    · exact exponentPart_numeric he c hc
  · cases h

theorem number_numeric (h : number text = some v) : ∀ c ∈ text, IsNumeric c := by
  cases text with
  | nil => exact nofun
  | cons c text =>
    rw [number] at h
    split at h
    · rename_i hc
      intro d hd
      rcases List.mem_cons.mp hd with rfl | hd
      · exact .inr (.inl hc)
      · exact unsignedNumber_numeric h d hd
    · exact unsignedNumber_numeric h

/-- Digits alone are a number when no zero stands in front. -/
theorem unsignedNumber_digits (negative : Bool) (hd : ∀ c ∈ digits, isDigit 10 c = true)
    (hint : IntegerPart digits) :
    unsignedNumber negative digits = some ⟨signed negative (value 10 digits), 0⟩ := by
  have htake : digits.takeWhile (isDigit 10) = digits := List.takeWhile_eq_self_iff.mpr hd
  have hdrop : digits.dropWhile (isDigit 10) = [] := List.dropWhile_eq_nil_iff.mpr hd
  simp only [unsignedNumber, htake, hdrop, if_pos hint]
  simp [fraction, exponentPart]

theorem number_numeral (n : Numeral) : number n.text = some n.value :=
  (Option.some_get n.isNumber).symm

theorem integerPart_decimal (n : Nat) : IntegerPart (decimal n) :=
  ⟨decimal_ne_nil n, fun h => decimal_head h⟩

theorem unsignedNumber_decimal (negative : Bool) (n : Nat) :
    unsignedNumber negative (decimal n) = some ⟨signed negative n, 0⟩ := by
  rw [unsignedNumber_digits negative (isDigit_decimal n) (integerPart_decimal n), value_decimal]

theorem number_decimal (n : Nat) : number (decimal n) = some ⟨n, 0⟩ := by
  have hdigits := isDigit_decimal n
  have hn := unsignedNumber_decimal false n
  cases hd : decimal n with
  | nil => exact absurd hd (decimal_ne_nil n)
  | cons c text =>
    have hc : c ≠ 0x2d := by
      rintro rfl
      exact absurd (hdigits 0x2d (by rw [hd]; exact List.mem_cons_self)) (by decide)
    rw [number, if_neg hc, ← hd, hn]
    rfl

theorem number_signedDecimal (n : Int) : number (signedDecimal n) = some ⟨n, 0⟩ := by
  rw [signedDecimal]
  split
  · rename_i hn
    rw [number, if_pos rfl, unsignedNumber_decimal, signed, if_pos rfl]
    congr
    omega
  · rename_i hn
    rw [number_decimal, Int.natAbs_of_nonneg (Int.not_lt.mp hn)]

end Number

section Scan
variable {mode mode' mode'' : Mode} {text text' : List UInt8} {ts ts' : List Token}

/-- The scanner reads `text` from one mode to another and gives the tokens `ts`. -/
def Scans (mode : Mode) (text : List UInt8) (ts : List Token) (mode' : Mode) : Prop :=
  scan mode text = some (ts, mode')

theorem Scans.append (h : Scans mode text ts mode') (h' : Scans mode' text' ts' mode'') :
    Scans mode (text ++ text') (ts ++ ts') mode'' := by
  induction text generalizing mode ts with
  | nil =>
    cases h
    exact h'
  | cons c text ih =>
    rw [Scans, scan] at h
    simp only [bind, Option.bind_eq_some_iff] at h
    obtain ⟨⟨first, next⟩, hstep, ⟨others, last⟩, hscan, heq⟩ := h
    cases heq
    have hrest := ih hscan
    rw [Scans] at hrest
    rw [Scans, List.cons_append, scan, hstep]
    simp only [bind, Option.bind_some, hrest, List.append_assoc]

/-- Texts that may stand between quotes as they are. -/
def Plain (text : List UInt8) : Prop := ∀ c ∈ text, 0x20 ≤ c ∧ c ≠ 0x22 ∧ c ≠ 0x5c

instance : DecidablePred Plain := fun text =>
  decidable_of_iff (text.all (fun c => 0x20 ≤ c && c != 0x22 && c != 0x5c) = true)
    (by simp [Plain, and_assoc])

theorem scans_plain (h : Plain text) (seen : List UInt8) :
    Scans (.string seen) text [] (.string (seen ++ text)) := by
  induction text generalizing seen with
  | nil => simp [Scans, scan]
  | cons c text ih =>
    obtain ⟨hcontrol, hquote, hslash⟩ := h c List.mem_cons_self
    have hstep : step (.string seen) c = some ([], .string (seen ++ [c])) := by
      rw [step, if_neg hquote, if_neg hslash, if_neg (UInt8.not_lt.mpr hcontrol)]
    have hrest := ih (fun d hd => h d (List.mem_cons_of_mem c hd)) (seen ++ [c])
    rw [List.append_assoc, List.singleton_append] at hrest
    rw [Scans] at hrest
    rw [Scans, scan, hstep]
    simp [hrest]

theorem isDelimiter_numeric (h : IsNumeric c) : isDelimiter c = false := by
  rcases h with h | h
  · have hall : ∀ c : UInt8, isDigit 10 c = true → isDelimiter c = false := by decide +kernel
    exact hall c h
  · rcases h with rfl | rfl | rfl | rfl | rfl <;> rfl

theorem scans_atom_numeric (h : ∀ c ∈ text, IsNumeric c) (seen : List UInt8) :
    Scans (.atom seen) text [] (.atom (seen ++ text)) := by
  induction text generalizing seen with
  | nil => simp [Scans, scan]
  | cons c text ih =>
    have hstep : step (.atom seen) c = some ([], .atom (seen ++ [c])) := by
      rw [step, isDelimiter_numeric (h c List.mem_cons_self), if_neg Bool.false_ne_true]
    have hrest := ih (fun d hd => h d (List.mem_cons_of_mem c hd)) (seen ++ [c])
    rw [List.append_assoc, List.singleton_append] at hrest
    rw [Scans] at hrest
    rw [Scans, scan, hstep]
    simp [hrest]

theorem start_numeric (h : IsNumeric c) : start c = ([], .atom [c]) := by
  have hd := isDelimiter_numeric h
  simp only [isDelimiter, Bool.or_eq_false_iff, Option.isSome_eq_false_iff,
    Option.isNone_iff_eq_none, beq_eq_false_iff_ne] at hd
  simp only [start, hd.1.1, Bool.false_eq_true, if_false, hd.1.2, if_neg hd.2]

theorem atom_number (h : number text = some v) : atom text = some (.number v) := by
  have hnull : text ≠ [0x6e, 0x75, 0x6c, 0x6c] := by
    rintro rfl
    cases h
  have htrue : text ≠ [0x74, 0x72, 0x75, 0x65] := by
    rintro rfl
    cases h
  have hfalse : text ≠ [0x66, 0x61, 0x6c, 0x73, 0x65] := by
    rintro rfl
    cases h
  rw [atom, if_neg hnull, if_neg htrue, if_neg hfalse, h]
  rfl

/-- A number with the delimiter that ends it. -/
theorem scans_number (h : number text = some v) (hc : isDelimiter c = true) :
    Scans .between (text ++ [c]) (.atom (.number v) :: (start c).1) (start c).2 := by
  have hnum := number_numeric h
  cases text with
  | nil => cases h
  | cons d text =>
    have hfirst : Scans .between [d] [] (.atom [d]) := by
      rw [Scans, scan, step, start_numeric (hnum d List.mem_cons_self)]
      rfl
    have hrest := scans_atom_numeric (fun e he => hnum e (List.mem_cons_of_mem d he)) [d]
    have hend : Scans (.atom ([d] ++ text)) [c] (.atom (.number v) :: (start c).1)
        (start c).2 := by
      rw [Scans, scan, step, if_pos hc, List.singleton_append, atom_number h]
      simp [scan]
    exact (hfirst.append hrest).append hend

/-- A scanner that reads on to the end of a token has no zero byte in hand. -/
def Mode.Clean : Mode → Prop
  | .atom text => 0 ∉ text
  | _ => True

theorem start_clean (h : (start c).2.Clean) : c ≠ 0 := by
  rintro rfl
  exact h (List.mem_singleton.mpr rfl)

theorem atom_clean (h : atom text = some v) : (0 : UInt8) ∉ text := by
  rw [atom] at h
  split at h
  · simp_all
  split at h
  · simp_all
  split at h
  · simp_all
  obtain ⟨n, hn, -⟩ := Option.map_eq_some_iff.mp h
  intro hzero
  have := number_numeric hn 0 hzero
  simp [IsNumeric, isDigit, digit] at this

theorem step_clean (h : step mode c = some (ts, mode')) (hclean : mode'.Clean) :
    c ≠ 0 ∧ mode.Clean := by
  cases mode with
  | between =>
    have hstart : start c = (ts, mode') := Option.some.inj h
    refine ⟨start_clean ?_, trivial⟩
    rw [hstart]
    exact hclean
  | string text =>
    refine ⟨?_, trivial⟩
    rintro rfl
    cases h
  | escape text =>
    refine ⟨?_, trivial⟩
    rintro rfl
    cases h
  | hex left text =>
    refine ⟨?_, trivial⟩
    rintro rfl
    cases h
  | atom text =>
    rw [step] at h
    split at h
    · rename_i hc
      obtain ⟨v, hv, -⟩ := Option.map_eq_some_iff.mp h
      refine ⟨?_, atom_clean hv⟩
      rintro rfl
      cases hc
    · cases h
      simp only [Mode.Clean, List.mem_append, List.mem_singleton, not_or] at hclean
      exact ⟨Ne.symm hclean.2, hclean.1⟩

/-- A text that is read to the end of a token holds no zero byte. -/
theorem Scans.clean (h : Scans mode text ts mode') (hclean : mode'.Clean) :
    0 ∉ text ∧ mode.Clean := by
  induction text generalizing mode ts with
  | nil =>
    cases h
    exact ⟨List.not_mem_nil, hclean⟩
  | cons c text ih =>
    rw [Scans, scan] at h
    simp only [bind, Option.bind_eq_some_iff] at h
    obtain ⟨⟨first, next⟩, hstep, ⟨others, last⟩, hscan, heq⟩ := h
    cases heq
    obtain ⟨hrest, hnext⟩ := ih hscan
    obtain ⟨hc, hmode⟩ := step_clean hstep hnext
    refine ⟨?_, hmode⟩
    intro hzero
    rcases List.mem_cons.mp hzero with hzero | hzero
    · exact hc hzero.symm
    · exact hrest hzero

theorem Scans.flatMap {items : List α} {line : α → List UInt8} {tokens : α → List Token}
    (h : ∀ x ∈ items, Scans .between (line x) (tokens x) .between) :
    Scans .between (items.flatMap line) (items.flatMap tokens) .between := by
  induction items with
  | nil => rfl
  | cons x items ih =>
    rw [List.flatMap_cons, List.flatMap_cons]
    exact (h x List.mem_cons_self).append (ih fun y hy => h y (List.mem_cons_of_mem x hy))

theorem tokens_of_scans (h : Scans .between text ts .between) : tokens text = some ts := by
  rw [Scans] at h
  rw [tokens, h]

end Scan

section Parse

/-- The tokens are those of `v`, whatever follows them. -/
def Parses (ts : List Token) (v : Value) : Prop :=
  ∀ n rest, ts.length ≤ n → parseValue n (ts ++ rest) = some (v, rest)

theorem parses_string (text : List UInt8) : Parses [.string text] (.string text) := by
  intro n rest hn
  obtain ⟨n, rfl⟩ := Nat.exists_eq_add_of_le' hn
  rfl

theorem parses_atom (v : Value) : Parses [.atom v] v := by
  intro n rest hn
  obtain ⟨n, rfl⟩ := Nat.exists_eq_add_of_le' hn
  rfl

/-- A member: its key, and its value with the tokens it is written in. -/
structure Member where
  key : List UInt8
  tokens : List Token
  value : Value

def Member.pair (m : Member) : List UInt8 × Value := (m.key, m.value)

/-- The tokens of members up to the closing brace. -/
def memberTokens : List Member → List Token
  | [] => [.closeBrace]
  | [m] => .string m.key :: .colon :: (m.tokens ++ [.closeBrace])
  | m :: m' :: ms => .string m.key :: .colon :: (m.tokens ++ .comma :: memberTokens (m' :: ms))

/-- Members in front of the last end in a comma. -/
theorem memberTokens_concat (ms : List Member) (last : Member) :
    memberTokens (ms ++ [last]) =
      ms.flatMap (fun m => .string m.key :: .colon :: (m.tokens ++ [.comma])) ++
        (.string last.key :: .colon :: (last.tokens ++ [.closeBrace])) := by
  induction ms with
  | nil => rfl
  | cons m ms ih =>
    obtain ⟨m', ms', hms⟩ : ∃ m' ms', ms ++ [last] = m' :: ms' :=
      List.exists_cons_of_ne_nil (List.append_ne_nil_of_right_ne_nil ms (List.cons_ne_nil last []))
    rw [List.cons_append, hms, memberTokens, ← hms, ih]
    simp

theorem parseMembers_memberTokens (hm : ms ≠ []) (h : ∀ m ∈ ms, Parses m.tokens m.value)
    (n : Nat) (rest : List Token) (hn : (memberTokens ms).length ≤ n) :
    parseMembers n (memberTokens ms ++ rest) = some (ms.map Member.pair, rest) := by
  induction ms generalizing n with
  | nil => exact absurd rfl hm
  | cons m ms ih =>
    have hvalue := h m List.mem_cons_self
    cases ms with
    | nil =>
      simp only [memberTokens, List.length_cons, List.length_append] at hn
      obtain ⟨n, rfl⟩ : ∃ k, n = k + 1 := ⟨n - 1, by omega⟩
      have hparsed := hvalue n (.closeBrace :: rest) (by omega)
      simp only [memberTokens, List.cons_append, List.append_assoc, List.nil_append, parseMembers,
        hparsed]
      rfl
    | cons m' ms =>
      simp only [memberTokens, List.length_cons, List.length_append] at hn
      obtain ⟨n, rfl⟩ : ∃ k, n = k + 1 := ⟨n - 1, by omega⟩
      have hparsed := hvalue n (.comma :: (memberTokens (m' :: ms) ++ rest)) (by omega)
      have hmore := ih (List.cons_ne_nil m' ms) (fun x hx => h x (List.mem_cons_of_mem m hx)) n
        (by omega)
      simp only [memberTokens, List.cons_append, List.append_assoc, parseMembers, hparsed, hmore]
      rfl

theorem parses_object (hm : ms ≠ []) (h : ∀ m ∈ ms, Parses m.tokens m.value) :
    Parses (.openBrace :: memberTokens ms) (.object (ms.map Member.pair)) := by
  intro n rest hn
  obtain ⟨n, rfl⟩ : ∃ k, n = k + 1 := ⟨n - 1, by rw [List.length_cons] at hn; omega⟩
  have hmembers := parseMembers_memberTokens hm h n rest (Nat.le_of_succ_le_succ hn)
  obtain ⟨key, more, hfirst⟩ : ∃ key more, memberTokens ms = .string key :: more := by
    match ms with
    | [] => exact absurd rfl hm
    | [m] => exact ⟨m.key, _, rfl⟩
    | m :: m' :: ms => exact ⟨m.key, _, rfl⟩
  rw [hfirst] at hmembers ⊢
  rw [List.cons_append, List.cons_append] at *
  rw [parseValue, hmembers]
  · rfl
  · intro x hx
    cases hx

theorem parse_of_parses (ht : tokens text = some ts) (h : Parses ts v) : parse text = some v := by
  have hparsed := h ts.length [] le_rfl
  rw [List.append_nil] at hparsed
  rw [parse, ht]
  simp only [hparsed]

end Parse

end Json
