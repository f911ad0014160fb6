import Mathlib

namespace Strto
set_option autoImplicit true

/-- `isspace` of the C locale. -/
def isSpace (c : UInt8) : Bool := c == 0x20 || (0x09 ≤ c && c ≤ 0x0d)

/-- The value of a digit; what is no digit in any base counts 36. -/
def digit (c : UInt8) : Nat :=
  if 0x30 ≤ c ∧ c ≤ 0x39 then c.toNat - 0x30
  else if 0x61 ≤ c ∧ c ≤ 0x7a then c.toNat - 0x61 + 10
  else if 0x41 ≤ c ∧ c ≤ 0x5a then c.toNat - 0x41 + 10
  else 36

def isDigit (base : Nat) (c : UInt8) : Bool := digit c < base

def value (base : Nat) (digits : List UInt8) : Nat :=
  digits.foldl (fun n c => base * n + digit c) 0

def isX (c : UInt8) : Bool := c == 0x78 || c == 0x58

/-- What a conversion reads off the front of a text, and the text behind it. -/
structure Reading where
  negative : Bool
  magnitude : Nat
  rest : List UInt8
  deriving DecidableEq

def signed (negative : Bool) (n : Nat) : Int := if negative then -n else n

def Reading.toInt (r : Reading) : Int := signed r.negative r.magnitude

def signs : Bool → List (List UInt8)
  | false => [[], [0x2b]]
  | true => [[0x2d]]

def basePrefixes (base : Nat) : List (List UInt8) :=
  if base = 16 then [[], [0x30, 0x78], [0x30, 0x58]] else [[]]

/-- The text starts with a number as C writes it: blanks, a sign, `0x` in base sixteen, digits. The
number ends where no character of it can follow. -/
def Reads (base : Nat) (text : List UInt8) (r : Reading) : Prop :=
  ∃ blanks sign intro digits, text = blanks ++ (sign ++ (intro ++ (digits ++ r.rest))) ∧
    (∀ c ∈ blanks, isSpace c = true) ∧ sign ∈ signs r.negative ∧ intro ∈ basePrefixes base ∧
    digits ≠ [] ∧ (∀ c ∈ digits, isDigit base c = true) ∧ r.magnitude = value base digits ∧
    (∀ c, r.rest.head? = some c → isDigit base c = false) ∧
    (base = 16 → intro = [] → digits = [0x30] → ∀ c, r.rest.head? = some c → isX c = false)

/-- The text starts with numbers that have one separator between them. -/
def Fields (base : Nat) (separator : UInt8) : List Reading → List UInt8 → Prop
  | [], _ => True
  | [r], text => Reads base text r
  | r :: r' :: rs, text => Reads base text r ∧
      ∃ next, r.rest = separator :: next ∧ Fields base separator (r' :: rs) next

/-- The whole text is a number. -/
def Numeral (base : Nat) (text : List UInt8) (negative : Bool) (n : Nat) : Prop :=
  Reads base text ⟨negative, n, []⟩

def takeSign : List UInt8 → Bool × List UInt8
  | [] => (false, [])
  | c :: text => if c = 0x2d then (true, text) else if c = 0x2b then (false, text)
      else (false, c :: text)

/-- The digits follow a `0x`. -/
def startsZeroX (base : Nat) : List UInt8 → Bool
  | zero :: x :: _ => base == 16 && zero == 0x30 && isX x
  | _ => false

def readDigits (base : Nat) (negative : Bool) (body : List UInt8) : Option Reading :=
  if body.takeWhile (isDigit base) = [] then none
  else some ⟨negative, value base (body.takeWhile (isDigit base)), body.dropWhile (isDigit base)⟩

/-- The input item of a `scanf` conversion: `none` is a matching failure. -/
def item (base : Nat) (text : List UInt8) : Option Reading :=
  let signed := takeSign (text.dropWhile isSpace)
  if startsZeroX base signed.2 then readDigits base signed.1 (signed.2.drop 2)
  else readDigits base signed.1 signed.2

/-- The subject sequence of `strtol`. Where no digit follows a `0x` it is the zero alone. -/
def subject (base : Nat) (text : List UInt8) : Option Reading :=
  let signed := takeSign (text.dropWhile isSpace)
  match item base text with
  | some r => some r
  | none => if startsZeroX base signed.2 then some ⟨signed.1, 0, signed.2.drop 1⟩ else none

/-- What `strtol` and its relatives leave behind: the value, the end pointer, and whether `errno` is
set to `ERANGE`. -/
structure Conversion (α : Type) where
  value : α
  rest : List UInt8
  erange : Bool

/-- `strtol` with a 64 bit `long`. -/
def strtol (base : Nat) (text : List UInt8) : Conversion Int :=
  match subject base text with
  | none => ⟨0, text, false⟩
  | some r =>
    if r.toInt < -2 ^ 63 then ⟨-2 ^ 63, r.rest, true⟩
    else if 2 ^ 63 ≤ r.toInt then ⟨2 ^ 63 - 1, r.rest, true⟩
    else ⟨r.toInt, r.rest, false⟩

/-- A minus sign negates in the unsigned type. -/
def unsigned (negative : Bool) (n : Nat) : Nat := if negative then (2 ^ 64 - n) % 2 ^ 64 else n

/-- `strtoul` and `strtoull` with 64 bit types. -/
def strtoul (base : Nat) (text : List UInt8) : Conversion Nat :=
  match subject base text with
  | none => ⟨0, text, false⟩
  | some r =>
    if 2 ^ 64 ≤ r.magnitude then ⟨2 ^ 64 - 1, r.rest, true⟩
    else ⟨unsigned r.negative r.magnitude, r.rest, false⟩

/-- The items `sscanf` converts for a format of conversions with `separator` between them. It stops
at the first that does not match. -/
def items (base : Nat) (separator : UInt8) : Nat → List UInt8 → List Reading
  | 0, _ => []
  | n + 1, text =>
    match item base text with
    | none => []
    | some r =>
      r :: if r.rest.head? = some separator then items base separator n r.rest.tail else []

section Reading
variable {base : Nat}

theorem takeWhile_exact {p : α → Bool} {body rest : List α} (inside : ∀ c ∈ body, p c = true)
    (boundary : ∀ c, rest.head? = some c → p c = false) : (body ++ rest).takeWhile p = body := by
  rw [List.takeWhile_append_of_pos inside]
  cases rest with
  | nil => simp
  | cons c rest => simp [boundary c rfl]

theorem dropWhile_exact {p : α → Bool} {body rest : List α} (inside : ∀ c ∈ body, p c = true)
    (boundary : ∀ c, rest.head? = some c → p c = false) : (body ++ rest).dropWhile p = rest := by
  rw [List.dropWhile_append_of_pos inside]
  cases rest with
  | nil => rfl
  | cons c rest => simp [boundary c rfl]

theorem head_dropWhile {p : α → Bool} {l : List α} :
    ∀ c, (l.dropWhile p).head? = some c → p c = false := by
  intro c hc
  have h := List.head?_dropWhile_not p l
  rw [hc] at h
  simpa using h

theorem takeSign_spec (text : List UInt8) :
    ∃ sign ∈ signs (takeSign text).1, text = sign ++ (takeSign text).2 := by
  cases text with
  | nil => exact ⟨[], by simp [takeSign, signs], rfl⟩
  | cons c text =>
    rw [takeSign]
    split
    · next hc => exact ⟨[0x2d], by simp [signs], by simp [hc]⟩
    · split
      · next hc => exact ⟨[0x2b], by simp [signs], by simp [hc]⟩
      · exact ⟨[], by simp [signs], rfl⟩

/-- Blanks, signs and digits are different characters. -/
theorem isDigit_separate (hbase : base ≤ 36) (hc : isDigit base c = true) :
    isSpace c = false ∧ c ≠ 0x2d ∧ c ≠ 0x2b := by
  have hlt : digit c < 36 := Nat.lt_of_lt_of_le (of_decide_eq_true hc) hbase
  have h : ∀ c : UInt8, digit c < 36 → isSpace c = false ∧ c ≠ 0x2d ∧ c ≠ 0x2b := by
    intro c
    obtain ⟨i⟩ := c
    revert i
    decide +kernel
  exact h c hlt

theorem isX_not_digit (hc : isX c = true) : isDigit 16 c = false := by
  rcases Bool.or_eq_true _ _ ▸ hc with h | h <;> rw [beq_iff_eq.mp h] <;> rfl

theorem takeSign_append (hsign : sign ∈ signs negative)
    (hhead : ∀ c, text.head? = some c → c ≠ 0x2d ∧ c ≠ 0x2b) :
    takeSign (sign ++ text) = (negative, text) := by
  cases negative with
  | true =>
    rw [List.mem_singleton.mp hsign]
    rfl
  | false =>
    rcases List.mem_cons.mp hsign with rfl | hsign
    · cases text with
      | nil => rfl
      | cons c text => simp [takeSign, hhead c rfl]
    · rw [List.mem_singleton.mp hsign]
      rfl

theorem readDigits_some (h : readDigits base negative body = some r) :
    r.negative = negative ∧ body.takeWhile (isDigit base) ≠ [] ∧
      r.magnitude = value base (body.takeWhile (isDigit base)) ∧
      r.rest = body.dropWhile (isDigit base) := by
  simp only [readDigits] at h
  split at h
  · cases h
  · next hdigits =>
    cases h
    exact ⟨rfl, hdigits, rfl, rfl⟩

theorem startsZeroX_spec (h : startsZeroX base body = true) :
    base = 16 ∧ ∃ x, isX x = true ∧ body = [0x30, x] ++ body.drop 2 := by
  match body with
  | zero :: x :: rest =>
    simp only [startsZeroX, Bool.and_eq_true, beq_iff_eq] at h
    obtain ⟨⟨hbase, rfl⟩, hx⟩ := h
    exact ⟨hbase, x, hx, rfl⟩

theorem mem_basePrefixes (hx : isX x = true) : [0x30, x] ∈ basePrefixes 16 := by
  rcases Bool.or_eq_true _ _ ▸ hx with h | h <;> rw [beq_iff_eq.mp h] <;> simp [basePrefixes]

/-- What is read are characters of the text in their order. -/
theorem reads_of_item (h : item base text = some r) : Reads base text r := by
  obtain ⟨sign, hsign, hsigned⟩ := takeSign_spec (text.dropWhile isSpace)
  have htext := List.takeWhile_append_dropWhile (p := isSpace) (l := text)
  rw [hsigned] at htext
  have hblanks : ∀ c ∈ text.takeWhile isSpace, isSpace c = true :=
    fun c hc => List.mem_takeWhile_imp hc
  simp only [item] at h
  generalize takeSign (text.dropWhile isSpace) = signed at *
  split at h
  · next hzero =>
    obtain ⟨rfl, x, hx, hbody⟩ := startsZeroX_spec hzero
    obtain ⟨hneg, hdigits, hmag, hrest⟩ := readDigits_some h
    refine ⟨_, sign, [0x30, x], (signed.2.drop 2).takeWhile (isDigit 16), ?_, hblanks,
      hneg ▸ hsign, mem_basePrefixes hx, hdigits, fun c hc => List.mem_takeWhile_imp hc, hmag,
      ?_, ?_⟩
    · rw [hrest, List.takeWhile_append_dropWhile, ← hbody]
      exact htext.symm
    · rw [hrest]
      exact head_dropWhile
    · intro _ hnil
      cases hnil
  · next hzero =>
    obtain ⟨hneg, hdigits, hmag, hrest⟩ := readDigits_some h
    have hbody := List.takeWhile_append_dropWhile (p := isDigit base) (l := signed.2)
    refine ⟨_, sign, [], signed.2.takeWhile (isDigit base), ?_, hblanks, hneg ▸ hsign, ?_, hdigits,
      fun c hc => List.mem_takeWhile_imp hc, hmag, ?_, ?_⟩
    · rw [hrest, List.nil_append, hbody]
      exact htext.symm
    · unfold basePrefixes
      split <;> simp
    · rw [hrest]
      exact head_dropWhile
    · intro hbase _ hone c hc
      rw [hrest] at hc
      obtain ⟨tail, htail⟩ : ∃ tail, signed.2.dropWhile (isDigit base) = c :: tail := by
        cases hd : signed.2.dropWhile (isDigit base) with
        | nil => rw [hd] at hc; cases hc
        | cons d tail => rw [hd] at hc; cases hc; exact ⟨tail, rfl⟩
      rw [hone, htail] at hbody
      rw [← hbody, hbase] at hzero
      simpa [startsZeroX] using hzero

theorem startsZeroX_digits (hbase : base ≤ 36) (hne : digits ≠ [])
    (hdigits : ∀ c ∈ digits, isDigit base c = true)
    (hx : base = 16 → digits = [0x30] → ∀ c, rest.head? = some c → isX c = false) :
    startsZeroX base (digits ++ rest) = false := by
  rw [Bool.eq_false_iff]
  intro hzero
  obtain ⟨rfl, x, hisX, hbody⟩ := startsZeroX_spec hzero
  match digits, hne with
  | [c], _ =>
    cases rest with
    | nil => simp at hbody
    | cons d rest =>
      simp only [List.cons_append, List.nil_append, List.cons.injEq] at hbody
      obtain ⟨rfl, rfl, -⟩ := hbody
      rw [hx rfl rfl d rfl] at hisX
      cases hisX
  | c :: d :: digits, _ =>
    simp only [List.cons_append, List.cons.injEq] at hbody
    have hd := hdigits d (by simp)
    rw [hbody.2.1, isX_not_digit hisX] at hd
    cases hd

theorem item_of_reads (hbase : base ≤ 36) (h : Reads base text r) : item base text = some r := by
  obtain ⟨blanks, sign, intro, digits, rfl, hblanks, hsign, hintro, hne, hdigits, hmag, hstop,
    hx⟩ := h
  obtain ⟨d, digits, rfl⟩ := List.exists_cons_of_ne_nil hne
  -- the first character behind the sign is a zero or a digit
  have hhead : ∀ c, (intro ++ ((d :: digits) ++ r.rest)).head? = some c →
      isSpace c = false ∧ c ≠ 0x2d ∧ c ≠ 0x2b := by
    intro c hc
    unfold basePrefixes at hintro
    split at hintro
    · simp only [List.mem_cons, List.not_mem_nil, or_false] at hintro
      rcases hintro with rfl | rfl | rfl
      · cases hc
        exact isDigit_separate hbase (hdigits d (by simp))
      · cases hc
        decide
      · cases hc
        decide
    · rw [List.mem_singleton.mp hintro] at hc
      cases hc
      exact isDigit_separate hbase (hdigits d (by simp))
  have hspace : ∀ c, (sign ++ (intro ++ ((d :: digits) ++ r.rest))).head? = some c →
      isSpace c = false := by
    intro c hc
    cases hneg : r.negative <;> rw [hneg] at hsign <;>
      simp only [signs, List.mem_cons, List.not_mem_nil, or_false] at hsign
    · rcases hsign with rfl | rfl
      · exact (hhead c hc).1
      · cases hc
        rfl
    · subst hsign
      cases hc
      rfl
  have hread : readDigits base r.negative ((d :: digits) ++ r.rest) = some r := by
    simp only [readDigits, takeWhile_exact hdigits hstop, dropWhile_exact hdigits hstop]
    rw [if_neg hne, ← hmag]
  simp only [item, dropWhile_exact hblanks hspace,
    takeSign_append hsign fun c hc => (hhead c hc).2]
  by_cases hnil : intro = []
  · subst hnil
    rw [List.nil_append, startsZeroX_digits hbase hne hdigits fun hb => hx hb rfl]
    exact hread
  · unfold basePrefixes at hintro
    split at hintro
    · next hb =>
      simp only [List.mem_cons, List.not_mem_nil, or_false, hnil, false_or] at hintro
      subst hb
      rcases hintro with rfl | rfl <;> exact hread
    · exact absurd (List.mem_singleton.mp hintro) hnil

theorem item_iff (hbase : base ≤ 36) : item base text = some r ↔ Reads base text r :=
  ⟨reads_of_item, item_of_reads hbase⟩

/-- `strtol` reads on where `scanf` fails only at a `0x` without digits. -/
theorem subject_iff (hbase : base ≤ 36) (hx : ∀ c, r.rest.head? = some c → isX c = false) :
    subject base text = some r ↔ Reads base text r := by
  rw [← item_iff hbase]
  simp only [subject]
  cases hitem : item base text with
  | some r' => rfl
  | none =>
    simp only [reduceCtorEq, iff_false]
    split
    · next hzero =>
      intro hr
      cases hr
      obtain ⟨-, x, hisX, hbody⟩ := startsZeroX_spec hzero
      rw [hbody] at hx
      rw [hx x rfl] at hisX
      cases hisX
    · intro hr
      cases hr

theorem Reads.unique (hbase : base ≤ 36) (h : Reads base text r) (h' : Reads base text r') :
    r = r' :=
  Option.some.inj ((item_of_reads hbase h).symm.trans (item_of_reads hbase h'))

theorem Reads.rest_ne (h : Reads base text r) : r.rest ≠ text := by
  obtain ⟨blanks, sign, intro, digits, htext, -, -, -, hne, -⟩ := h
  intro heq
  have hlen := congrArg List.length htext
  have hpos := List.length_pos_of_ne_nil hne
  simp only [List.length_append, heq] at hlen
  omega

/-- `strtol` succeeds on the texts that start with a number of type `long`. -/
theorem strtol_iff (hbase : base ≤ 36) (hx : ∀ c, rest.head? = some c → isX c = false) :
    (strtol base text).erange = false ∧ (strtol base text).rest ≠ text ∧
      (strtol base text).rest = rest ∧ (strtol base text).value = v ↔
    ∃ negative n, Reads base text ⟨negative, n, rest⟩ ∧ v = signed negative n ∧
      -2 ^ 63 ≤ v ∧ v < 2 ^ 63 := by
  constructor
  · rintro ⟨herange, hne, rfl, rfl⟩
    rw [strtol] at *
    cases hsub : subject base text with
    | none =>
      rw [hsub] at hne
      exact absurd rfl hne
    | some r =>
      rw [hsub] at herange hx
      dsimp only at herange hx ⊢
      split_ifs at herange hx ⊢ with hlow hhigh
      exact ⟨r.negative, r.magnitude, (subject_iff hbase hx).mp hsub, rfl, Int.not_lt.mp hlow,
        Int.not_le.mp hhigh⟩
  · rintro ⟨negative, n, hreads, rfl, hlow, hhigh⟩
    have hvalue : strtol base text = ⟨signed negative n, rest, false⟩ := by
      rw [strtol, (subject_iff hbase hx).mpr hreads]
      exact (if_neg (Int.not_lt.mpr hlow)).trans (if_neg (Int.not_le.mpr hhigh))
    rw [hvalue]
    exact ⟨rfl, hreads.rest_ne, rfl, rfl⟩

theorem strtoul_iff (hbase : base ≤ 36) (hx : ∀ c, rest.head? = some c → isX c = false) :
    (strtoul base text).erange = false ∧ (strtoul base text).rest ≠ text ∧
      (strtoul base text).rest = rest ∧ (strtoul base text).value = v ↔
    ∃ negative n, Reads base text ⟨negative, n, rest⟩ ∧ n < 2 ^ 64 ∧ v = unsigned negative n := by
  constructor
  · rintro ⟨herange, hne, rfl, rfl⟩
    rw [strtoul] at *
    cases hsub : subject base text with
    | none =>
      rw [hsub] at hne
      exact absurd rfl hne
    | some r =>
      rw [hsub] at herange hx
      dsimp only at herange hx ⊢
      split_ifs at herange hx ⊢ with hlarge
      exact ⟨r.negative, r.magnitude, (subject_iff hbase hx).mp hsub, Nat.not_le.mp hlarge, rfl⟩
  · rintro ⟨negative, n, hreads, hlt, rfl⟩
    have hvalue : strtoul base text = ⟨unsigned negative n, rest, false⟩ := by
      rw [strtoul, (subject_iff hbase hx).mpr hreads]
      exact if_neg (Nat.not_le.mpr hlt)
    rw [hvalue]
    exact ⟨rfl, hreads.rest_ne, rfl, rfl⟩

/-- All conversions succeed exactly on a text with that many fields. -/
theorem items_iff (hbase : base ≤ 36) (hlen : rs.length = n) :
    items base separator n text = rs ↔ Fields base separator rs text := by
  induction rs generalizing n text with
  | nil =>
    subst hlen
    simp [items, Fields]
  | cons r rs ih =>
    obtain ⟨n, rfl⟩ : ∃ m, n = m + 1 := ⟨rs.length, hlen.symm⟩
    have hrs : rs.length = n := Nat.succ.inj hlen
    rw [items]
    cases hitem : item base text with
    | none =>
      have hno : ¬Reads base text r := fun h => by
        rw [item_of_reads hbase h] at hitem
        cases hitem
      cases rs with
      | nil => simpa [Fields] using hno
      | cons r' rs => simp [Fields, hno]
    | some first =>
      have hreads : Reads base text r ↔ first = r := by
        rw [← item_iff hbase, hitem, Option.some.injEq]
      cases rs with
      | nil =>
        subst hrs
        simp [Fields, hreads, items]
      | cons r' rs =>
        simp only [Fields, hreads, List.cons.injEq]
        apply and_congr_right
        rintro rfl
        cases hrest : first.rest with
        | nil => simp
        | cons c next =>
          by_cases hc : c = separator
          · subst hc
            simp [ih hrs]
          · simp [hc]

end Reading

end Strto
