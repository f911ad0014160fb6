import RtcTestbench.Stat
import RtcTestbench.Lib.Strto

namespace RtcTestbench
open Strto
set_option autoImplicit true

inductive ConfigValueType where
  | bool | int | ulong | size | time | string | payload | interface | mac | etherType
  | securityMode | securityAlgorithm | cpuList | clockid | protocolType
  deriving DecidableEq

/-- The error codes; `eperm` is the -1 of a failed system call. -/
inductive Errno where
  | einval | enoent | erange | eio | eperm
  deriving DecidableEq

/-- An error code with the line printed for it. -/
structure ConfigError where
  errno : Errno
  message : List UInt8
  deriving DecidableEq

/-- The characters of a string constant. -/
def cBytes (s : String) : List UInt8 := s.toList.map fun c => c.toNat.toUInt8

/-- What the standard leaves to the C library: `atoi` of a number that is no `int`, and what `%x`
stores for a number that is no `unsigned int`. -/
structure LibC where
  atoi : List UInt8 → Int32
  scanned : Reading → UInt32

/-- A string member with its length member; `NULL` is `none`. -/
structure StringMember where
  text : Option CString
  length : Nat
  deriving DecidableEq

def ifNamesize : Nat := 16
def maxAuxClocks : Nat := 8

structure InterfaceName where
  bytes : List UInt8
  length_eq : bytes.length = ifNamesize
  deriving DecidableEq

/-- A CPU array with its count member. -/
structure CpuList where
  cpus : List Int32
  num : Int32
  length_eq : cpus.length = workloadMax
  deriving DecidableEq

/-- The C type behind an option's offset. -/
def ConfigValueType.Field : ConfigValueType → Type
  | bool => Bool
  | int => Int32
  | ulong | size | time => UInt64
  | string | payload => StringMember
  | interface => InterfaceName
  | mac => MacAddress
  | etherType => UInt32
  | securityMode => SecurityMode
  | securityAlgorithm => SecurityAlgorithm
  | cpuList => CpuList
  | clockid => ClockId
  | protocolType => ProtocolType

def toLower (c : UInt8) : UInt8 := if 0x41 ≤ c ∧ c ≤ 0x5a then c + 0x20 else c

/-- `!strcasecmp(value, s)`. -/
def caseEqual (value : List UInt8) (s : String) : Bool :=
  value.map toLower = (cBytes s).map toLower

def configParseBool (value : List UInt8) : Except Errno Bool :=
  if value = cBytes "0" ∨ caseEqual value "false" then .ok false
  else if value = cBytes "1" ∨ caseEqual value "true" then .ok true
  else .error .einval

/-- The test behind each conversion: no error, some digits, nothing left. -/
def Conversion.whole (c : Conversion α) (value : List UInt8) : Except Errno α :=
  if c.erange ∨ c.rest = value ∨ c.rest ≠ [] then .error .erange else .ok c.value

def configParseInt (value : List UInt8) : Except Errno Int :=
  Conversion.whole (strtol 10 value) value

def configParseUlong (value : List UInt8) : Except Errno Nat :=
  Conversion.whole (strtoul 10 value) value

def nsecPerSec : Nat := 1000000000
def usecPerSec : Nat := 1000000
def msecPerSec : Nat := 1000

/-- `__builtin_mul_overflow` on `unsigned long long`. -/
def mulOverflow (tmp factor : Nat) : Except Errno Nat :=
  if 2 ^ 64 ≤ tmp * factor then .error .erange else .ok (tmp * factor)

def configParseTime (value : List UInt8) : Except Errno Nat :=
  let c := strtoul 10 value
  if c.erange ∨ c.rest = value then .error .erange
  else if c.rest = [] then .ok c.value
  else if c.rest = cBytes "s" then mulOverflow c.value nsecPerSec
  else if c.rest = cBytes "ms" then mulOverflow c.value usecPerSec
  else if c.rest = cBytes "us" then mulOverflow c.value msecPerSec
  else .error .einval

/-- The tokens `strtok` cuts out with the delimiters `" ,"`. -/
def cpuTokens (value : List UInt8) : List (List UInt8) :=
  (value.splitOnP fun c => c == 0x20 || c == 0x2c).filter (· ≠ [])

/-- The loop of `config_parse_cpu_list` from index `i` on. -/
def cpuListLoop (lib : LibC) (arrayLen : Nat) :
    List (List UInt8) → Nat → List Int32 → Except Errno Nat × List Int32
  | [], i, array => (.ok i, array)
  | p :: tokens, i, array =>
    if lib.atoi p < 0 then (.error .einval, array.set i (lib.atoi p))
    else if arrayLen ≤ i + 1 ∧ tokens ≠ [] then (.error .erange, array.set i (lib.atoi p))
    else cpuListLoop lib arrayLen tokens (i + 1) (array.set i (lib.atoi p))

theorem cpuListLoop_length (lib : LibC) (arrayLen : Nat) (tokens : List (List UInt8)) (i : Nat)
    (array : List Int32) :
    (cpuListLoop lib arrayLen tokens i array).2.length = array.length := by
  induction tokens generalizing i array with
  | nil => rfl
  | cons p tokens ih =>
    rw [cpuListLoop]
    split
    · exact List.length_set
    · split
      · exact List.length_set
      · rw [ih, List.length_set]

/-- A refused list leaves the values in the array that were read before. -/
def configParseCpuList (lib : LibC) (value : List UInt8) (list : CpuList) :
    Except Errno Unit × CpuList :=
  let run := cpuListLoop lib workloadMax (cpuTokens value) 0 list.cpus
  let array : CpuList :=
    ⟨run.2, list.num, (cpuListLoop_length lib workloadMax _ 0 list.cpus).trans list.length_eq⟩
  match run.1 with
  | .error e => (.error e, array)
  | .ok i => if i = 0 then (.error .einval, array)
      else (.ok (), { array with num := Int32.ofInt i })

def configParseClockid (value : List UInt8) : Except Errno ClockId :=
  if value = cBytes "CLOCK_TAI" then .ok .tai
  else if value = cBytes "CLOCK_MONOTONIC" then .ok .monotonic
  else if value = cBytes "CLOCK_REALTIME" then .ok .realtime
  else if (cBytes "CLOCK_AUX").isPrefixOf value then
    match configParseInt (value.drop (cBytes "CLOCK_AUX").length) with
    | .error _ => .error .einval
    | .ok id => if id < 0 ∨ (maxAuxClocks : Int) ≤ id then .error .einval else .ok (.aux id.toNat)
  else .error .einval

def configParseSecurityMode (value : List UInt8) : Except Errno SecurityMode :=
  if caseEqual value "none" then .ok .none
  else if caseEqual value "ao" then .ok .ao
  else if caseEqual value "ae" then .ok .ae
  else .error .einval

def configParseSecurityAlgorithm (value : List UInt8) : Except Errno SecurityAlgorithm :=
  if caseEqual value "aes256-gcm" then .ok .aes256Gcm
  else if caseEqual value "aes128-gcm" then .ok .aes128Gcm
  else if caseEqual value "chacha20-poly1305" then .ok .chacha20Poly1305
  else .error .einval

def configParseProtocolType (value : List UInt8) : Except Errno ProtocolType :=
  if caseEqual value "L2" then .ok .genericL2
  else if caseEqual value "EtherCAT" then .ok .etherCat
  else .error .einval

def configParseEtherType (value : List UInt8) : Except Errno Nat :=
  Conversion.whole (strtoul 16 value) value

def ethAlen : Nat := 6

/-- `%x` into an `unsigned int`. -/
def LibC.scanf (lib : LibC) (r : Reading) : UInt32 :=
  if r.negative ∨ 2 ^ 32 ≤ r.magnitude then lib.scanned r else UInt32.ofNat r.magnitude

/-- `sscanf` with `"%x:%x:%x:%x:%x:%x"`; the values are cut to bytes. -/
def configParseMac (lib : LibC) (value : List UInt8) : Except Errno MacAddress :=
  let tmp := items 16 0x3a ethAlen value
  if h : tmp.length = ethAlen then
    .ok ⟨tmp.map fun r => (lib.scanf r).toUInt8, (List.length_map _).trans h⟩
  else .error .einval

def invalidValue (key : CString) : ConfigError :=
  ⟨.einval, cBytes "The value for '" ++ key.bytes ++ cBytes "' is invalid!\n"⟩

/-- A failed parse leaves the member as it is. -/
def storeParsed (error : ConfigError) (parsed : Except Errno α) (store : α → β) (field : β) :
    Option ConfigError × β :=
  match parsed with
  | .error _ => (some error, field)
  | .ok result => (none, store result)

def strncpyInterface (value : List UInt8) (ifname : InterfaceName) : InterfaceName where
  bytes := (value ++ List.replicate ifNamesize 0).take (ifNamesize - 1) ++
    ifname.bytes.drop (ifNamesize - 1)
  length_eq := by
    simp only [List.length_append, List.length_take, List.length_drop, List.length_replicate,
      ifname.length_eq, ifNamesize]
    omega

def configStoreValue (lib : LibC) : (type : ConfigValueType) → (key value : CString) →
    type.Field → Option ConfigError × type.Field
  | .bool, key, value, field =>
    storeParsed (invalidValue key) (configParseBool value.bytes) id field
  | .int, key, value, field =>
    storeParsed (invalidValue key) (configParseInt value.bytes) Int32.ofInt field
  | .ulong, key, value, field =>
    storeParsed (invalidValue key) (configParseUlong value.bytes) UInt64.ofNat field
  | .size, key, value, field =>
    storeParsed (invalidValue key) (configParseUlong value.bytes) UInt64.ofNat field
  | .time, key, value, field =>
    storeParsed (invalidValue key) (configParseTime value.bytes) UInt64.ofNat field
  | .string, _, value, _ => (none, ⟨some value, value.bytes.length⟩)
  | .payload, _, value, _ => (none, ⟨some value, value.bytes.length⟩)
  | .interface, _, value, field => (none, strncpyInterface value.bytes field)
  | .mac, key, value, field =>
    storeParsed ⟨.einval, cBytes "Failed to parse '" ++ key.bytes ++ cBytes "' MAC Address!\n"⟩
      (configParseMac lib value.bytes) id field
  | .etherType, key, value, field =>
    storeParsed (invalidValue key) (configParseEtherType value.bytes) UInt32.ofNat field
  | .securityMode, _, value, field =>
    storeParsed ⟨.einval, cBytes "Invalid security mode specified!\n"⟩
      (configParseSecurityMode value.bytes) id field
  | .securityAlgorithm, _, value, field =>
    storeParsed ⟨.einval, cBytes "Invalid security algorithm specified!\n"⟩
      (configParseSecurityAlgorithm value.bytes) id field
  | .cpuList, key, value, field =>
    match configParseCpuList lib value.bytes field with
    | (.error _, field) => (some (invalidValue key), field)
    | (.ok (), field) => (none, field)
  | .clockid, _, value, field =>
    storeParsed ⟨.einval, cBytes "Invalid clockid specified!\n"⟩
      (configParseClockid value.bytes) id field
  | .protocolType, _, value, field =>
    storeParsed ⟨.einval, cBytes "Invalid protocol type specified!\n"⟩
      (configParseProtocolType value.bytes) id field

/-- The option types that hold numbers. -/
inductive NumericType where
  | int | ulong | size | time | etherType | mac
  deriving DecidableEq

def NumericType.type : NumericType → ConfigValueType
  | int => .int
  | ulong => .ulong
  | size => .size
  | time => .time
  | etherType => .etherType
  | mac => .mac

def timeUnits : List (List UInt8 × Nat) :=
  [([], 1), (cBytes "s", 1000000000), (cBytes "ms", 1000000), (cBytes "us", 1000)]

/-- The number a text stands for is the one in the member. -/
def Denotes : (t : NumericType) → List UInt8 → t.type.Field → Prop
  | .int, text, (field : Int32) => ∃ negative n, Numeral 10 text negative n ∧
      field.toInt = signed negative n
  | .ulong, text, (field : UInt64) => Numeral 10 text false field.toNat
  | .size, text, (field : UInt64) => Numeral 10 text false field.toNat
  | .time, text, (field : UInt64) => ∃ n unit factor, (unit, factor) ∈ timeUnits ∧
      Reads 10 text ⟨false, n, unit⟩ ∧ field.toNat = n * factor
  | .etherType, text, (field : UInt32) => Numeral 16 text false field.toNat
  | .mac, text, (field : MacAddress) => ∃ rs, rs.length = ethAlen ∧ Fields 16 0x3a rs text ∧
      (∀ r ∈ rs, r.negative = false) ∧ rs.map Reading.magnitude = field.bytes.map UInt8.toNat ∧
      ∀ r, rs.getLast? = some r → r.rest = []

/-- The texts that are taken for another number, or for a number at all. -/
def Misread : NumericType → List UInt8 → Prop
  | .int, text => ∃ negative n, Numeral 10 text negative n ∧
      (-2 ^ 63 ≤ signed negative n ∧ signed negative n < 2 ^ 63) ∧
      ¬(-2 ^ 31 ≤ signed negative n ∧ signed negative n < 2 ^ 31)
  | .ulong, text => ∃ n, Numeral 10 text true n ∧ n < 2 ^ 64
  | .size, text => ∃ n, Numeral 10 text true n ∧ n < 2 ^ 64
  | .time, text => ∃ n unit factor, (unit, factor) ∈ timeUnits ∧ Reads 10 text ⟨true, n, unit⟩ ∧
      n < 2 ^ 64 ∧ (2 ^ 64 - n) % 2 ^ 64 * factor < 2 ^ 64
  | .etherType, text => ∃ negative n, Numeral 16 text negative n ∧ n < 2 ^ 64 ∧
      (negative = true ∨ 2 ^ 32 ≤ n)
  | .mac, text => ∃ rs, rs.length = ethAlen ∧ Fields 16 0x3a rs text ∧
      ((∃ r ∈ rs, r.negative = true ∨ 2 ^ 8 ≤ r.magnitude) ∨
        ∃ r, rs.getLast? = some r ∧ r.rest ≠ [])

theorem Conversion.whole_ok {c : Conversion α} :
    Conversion.whole c text = .ok v ↔
      c.erange = false ∧ c.rest ≠ text ∧ c.rest = [] ∧ c.value = v := by
  rw [Conversion.whole]
  split
  · next h =>
    simp only [reduceCtorEq, false_iff]
    rintro ⟨herange, hrest, hnil, -⟩
    rcases h with h | h | h
    · rw [herange] at h
      cases h
    · exact hrest h
    · exact h hnil
  · next h =>
    simp only [not_or, Bool.not_eq_true, not_not] at h
    rw [Except.ok.injEq]
    exact ⟨fun hv => ⟨h.1, h.2.1, h.2.2, hv⟩, fun hv => hv.2.2.2⟩

theorem configParseInt_ok : configParseInt text = .ok v ↔
    ∃ negative n, Numeral 10 text negative n ∧ v = signed negative n ∧
      -2 ^ 63 ≤ v ∧ v < 2 ^ 63 :=
  Conversion.whole_ok.trans (strtol_iff (by decide) fun _ hc => nomatch hc)

theorem wholeUnsigned_ok (hbase : base ≤ 36) : Conversion.whole (strtoul base text) text = .ok v ↔
    ∃ negative n, Numeral base text negative n ∧ n < 2 ^ 64 ∧ v = unsigned negative n :=
  Conversion.whole_ok.trans (strtoul_iff hbase fun _ hc => nomatch hc)

theorem mulOverflow_ok : mulOverflow tmp factor = .ok v ↔ v = tmp * factor ∧ v < 2 ^ 64 := by
  rw [mulOverflow]
  split
  · next h =>
    simp only [reduceCtorEq, false_iff]
    rintro ⟨rfl, hlt⟩
    exact absurd h (Nat.not_le.mpr hlt)
  · next h =>
    rw [Except.ok.injEq]
    constructor
    · rintro rfl
      exact ⟨rfl, Nat.not_le.mp h⟩
    · exact fun hv => hv.1.symm

theorem unsigned_lt (negative : Bool) (hn : n < 2 ^ 64) : unsigned negative n < 2 ^ 64 := by
  rw [unsigned]
  split
  · exact Nat.mod_lt _ (by decide)
  · exact hn

theorem timeUnits_boundary (h : (unit, factor) ∈ timeUnits) :
    ∀ c, unit.head? = some c → isX c = false := by
  simp only [timeUnits, List.mem_cons, Prod.mk.injEq, List.not_mem_nil, or_false] at h
  rcases h with ⟨rfl, -⟩ | ⟨rfl, -⟩ | ⟨rfl, -⟩ | ⟨rfl, -⟩ <;> intro c hc <;> cases hc <;> rfl

theorem mem_timeUnits : (unit, factor) ∈ timeUnits ↔
    unit = [] ∧ factor = 1 ∨ unit = cBytes "s" ∧ factor = nsecPerSec ∨
      unit = cBytes "ms" ∧ factor = usecPerSec ∨ unit = cBytes "us" ∧ factor = msecPerSec := by
  simp [timeUnits, nsecPerSec, usecPerSec, msecPerSec]

theorem configParseTime_unit (herange : (strtoul 10 text).erange = false)
    (hrest : (strtoul 10 text).rest ≠ text)
    (hunit : ((strtoul 10 text).rest, factor) ∈ timeUnits)
    (hlt : (strtoul 10 text).value < 2 ^ 64) :
    configParseTime text = mulOverflow (strtoul 10 text).value factor := by
  rw [configParseTime, if_neg (not_or.mpr ⟨by simp [herange], hrest⟩)]
  rcases mem_timeUnits.mp hunit with ⟨h, rfl⟩ | ⟨h, rfl⟩ | ⟨h, rfl⟩ | ⟨h, rfl⟩
  · rw [if_pos h, mulOverflow, Nat.mul_one, if_neg (Nat.not_le.mpr hlt)]
  · simp [h, cBytes]
  · simp [h, cBytes]
  · simp [h, cBytes]

theorem configParseTime_ok : configParseTime text = .ok v ↔
    ∃ negative n unit factor, (unit, factor) ∈ timeUnits ∧ Reads 10 text ⟨negative, n, unit⟩ ∧
      n < 2 ^ 64 ∧ v = unsigned negative n * factor ∧ v < 2 ^ 64 := by
  constructor
  · intro h
    have haccepted : (strtoul 10 text).erange = false ∧ (strtoul 10 text).rest ≠ text ∧
        ∃ factor, ((strtoul 10 text).rest, factor) ∈ timeUnits := by
      simp only [configParseTime, mem_timeUnits] at h ⊢
      split_ifs at h with hc h0 h1 h2 h3 <;>
        simp only [not_or, Bool.not_eq_true] at hc <;> refine ⟨hc.1, hc.2, ?_⟩
      · exact ⟨1, .inl ⟨h0, rfl⟩⟩
      · exact ⟨_, .inr (.inl ⟨h1, rfl⟩)⟩
      · exact ⟨_, .inr (.inr (.inl ⟨h2, rfl⟩))⟩
      · exact ⟨_, .inr (.inr (.inr ⟨h3, rfl⟩))⟩
    obtain ⟨herange, hrest, factor, hunit⟩ := haccepted
    obtain ⟨negative, n, hreads, hn, hvalue⟩ :=
      (strtoul_iff (by decide) (timeUnits_boundary hunit)).mp ⟨herange, hrest, rfl, rfl⟩
    rw [configParseTime_unit herange hrest hunit (hvalue ▸ unsigned_lt negative hn),
      mulOverflow_ok, hvalue] at h
    exact ⟨negative, n, _, factor, hunit, hreads, hn, h⟩
  · rintro ⟨negative, n, unit, factor, hunit, hreads, hn, hv⟩
    obtain ⟨herange, hrest, rfl, hvalue⟩ :=
      (strtoul_iff (by decide) (timeUnits_boundary hunit)).mpr ⟨negative, n, hreads, hn, rfl⟩
    rw [configParseTime_unit herange hrest hunit (hvalue ▸ unsigned_lt negative hn),
      mulOverflow_ok, hvalue]
    exact hv

theorem configParseMac_ok : configParseMac lib text = .ok mac ↔
    ∃ rs, rs.length = ethAlen ∧ Fields 16 0x3a rs text ∧
      mac.bytes = rs.map fun r => (lib.scanf r).toUInt8 := by
  simp only [configParseMac]
  constructor
  · intro h
    split at h
    · next hlen =>
      cases h
      exact ⟨_, hlen, (items_iff (by decide) hlen).mp rfl, rfl⟩
    · cases h
  · rintro ⟨rs, hlen, hfields, hbytes⟩
    have hitems := (items_iff (by decide) hlen).mpr hfields
    rw [dif_pos (hitems ▸ hlen)]
    congr 1
    cases mac
    simp only [hitems, MacAddress.mk.injEq]
    exact hbytes.symm

/-- A store is faithful if every number that is read is the right one. -/
theorem storeParsed_faithful (error : ConfigError) (store : α → β) (field : β) (good : β → Prop) :
    ((storeParsed error parsed store field).1 ≠ none ∧
        (storeParsed error parsed store field).2 = field ∨
      (storeParsed error parsed store field).1 = none ∧
        good (storeParsed error parsed store field).2) ↔
    ∀ v, parsed = .ok v → good (store v) := by
  cases parsed with
  | error e => simp [storeParsed]
  | ok v => simp [storeParsed]

theorem int_faithful : (∀ v, configParseInt text = .ok v → Denotes .int text (Int32.ofInt v)) ↔
    ¬Misread .int text := by
  constructor
  · rintro h ⟨negative, n, hnum, hlong, hint⟩
    obtain ⟨negative', n', hnum', heq⟩ :=
      h _ (configParseInt_ok.mpr ⟨negative, n, hnum, rfl, hlong.1, hlong.2⟩)
    cases hnum.unique (by decide) hnum'
    apply hint
    rw [← heq]
    exact ⟨Int32.le_toInt _, Int32.toInt_lt _⟩
  · intro h v hv
    obtain ⟨negative, n, hnum, rfl, hlow, hhigh⟩ := configParseInt_ok.mp hv
    have hint : -2 ^ 31 ≤ signed negative n ∧ signed negative n < 2 ^ 31 := by
      by_contra hout
      exact h ⟨negative, n, hnum, ⟨hlow, hhigh⟩, hout⟩
    exact ⟨negative, n, hnum, Int32.toInt_ofInt_of_le hint.1 hint.2⟩

theorem ulong_faithful :
    (∀ v, configParseUlong text = .ok v → Numeral 10 text false (UInt64.ofNat v).toNat) ↔
      ¬∃ n, Numeral 10 text true n ∧ n < 2 ^ 64 := by
  constructor
  · rintro h ⟨n, hnum, hn⟩
    have hnum' := h _ ((wholeUnsigned_ok (by decide)).mpr ⟨true, n, hnum, hn, rfl⟩)
    cases hnum.unique (by decide) hnum'
  · intro h v hv
    obtain ⟨negative, n, hnum, hn, rfl⟩ := (wholeUnsigned_ok (by decide)).mp hv
    cases negative with
    | true => exact absurd ⟨n, hnum, hn⟩ h
    | false =>
      rw [show unsigned false n = n from rfl, UInt64.toNat_ofNat_of_lt' hn]
      exact hnum

theorem time_faithful :
    (∀ v, configParseTime text = .ok v → Denotes .time text (UInt64.ofNat v)) ↔
      ¬Misread .time text := by
  constructor
  · rintro h ⟨n, unit, factor, hunit, hreads, hn, hlt⟩
    obtain ⟨n', unit', factor', -, hreads', -⟩ :=
      h _ (configParseTime_ok.mpr ⟨true, n, unit, factor, hunit, hreads, hn, rfl, hlt⟩)
    cases hreads.unique (by decide) hreads'
  · intro h v hv
    obtain ⟨negative, n, unit, factor, hunit, hreads, hn, rfl, hlt⟩ := configParseTime_ok.mp hv
    cases negative with
    | true => exact absurd ⟨n, unit, factor, hunit, hreads, hn, hlt⟩ h
    | false => exact ⟨n, unit, factor, hunit, hreads, UInt64.toNat_ofNat_of_lt' hlt⟩

theorem etherType_faithful :
    (∀ v, configParseEtherType text = .ok v → Denotes .etherType text (UInt32.ofNat v)) ↔
      ¬Misread .etherType text := by
  constructor
  · rintro h ⟨negative, n, hnum, hn, hbad⟩
    have hnum' := h _ ((wholeUnsigned_ok (by decide)).mpr ⟨negative, n, hnum, hn, rfl⟩)
    have heq := hnum.unique (by decide) hnum'
    rw [Reading.mk.injEq] at heq
    rcases hbad with hneg | hlarge
    · rw [hneg] at heq
      cases heq.1
    · have hlt := UInt32.toNat_lt (UInt32.ofNat (unsigned negative n))
      rw [← heq.2.1] at hlt
      omega
  · intro h v hv
    obtain ⟨negative, n, hnum, hn, rfl⟩ := (wholeUnsigned_ok (by decide)).mp hv
    have hgood : negative = false ∧ n < 2 ^ 32 := by
      constructor
      · cases negative with
        | true => exact absurd ⟨true, n, hnum, hn, .inl rfl⟩ h
        | false => rfl
      · by_contra hlarge
        exact h ⟨negative, n, hnum, hn, .inr (Nat.not_lt.mp hlarge)⟩
    obtain ⟨rfl, hlt⟩ := hgood
    change Numeral 16 text false (UInt32.ofNat n).toNat
    rw [UInt32.toNat_ofNat_of_lt' hlt]
    exact hnum

theorem LibC.scanf_byte (lib : LibC) (hneg : r.negative = false) (hlt : r.magnitude < 2 ^ 8) :
    (lib.scanf r).toUInt8.toNat = r.magnitude := by
  have hrange : ¬(r.negative = true ∨ 2 ^ 32 ≤ r.magnitude) := by
    rw [hneg]
    simp only [Bool.false_eq_true, false_or]
    omega
  rw [LibC.scanf, if_neg hrange, UInt32.toNat_toUInt8,
    UInt32.toNat_ofNat_of_lt' (show r.magnitude < 2 ^ 32 by omega), Nat.mod_eq_of_lt hlt]

theorem mac_faithful (lib : LibC) :
    (∀ mac, configParseMac lib text = .ok mac → Denotes .mac text mac) ↔ ¬Misread .mac text := by
  constructor
  · rintro h ⟨rs, hlen, hfields, hbad⟩
    obtain ⟨rs', hlen', hfields', hsigns, hbytes, hlast⟩ :=
      h ⟨rs.map fun r => (lib.scanf r).toUInt8, (List.length_map _).trans hlen⟩
        (configParseMac_ok.mpr ⟨rs, hlen, hfields, rfl⟩)
    have hsame : rs = rs' :=
      ((items_iff (by decide) hlen).mpr hfields).symm.trans
        ((items_iff (by decide) hlen').mpr hfields')
    subst hsame
    rcases hbad with ⟨r, hr, hneg | hlarge⟩ | ⟨r, hr, hrest⟩
    · rw [hsigns r hr] at hneg
      cases hneg
    · have hmem : r.magnitude ∈ rs.map Reading.magnitude := List.mem_map_of_mem hr
      rw [hbytes] at hmem
      obtain ⟨b, -, hb⟩ := List.mem_map.mp hmem
      have := UInt8.toNat_lt b
      omega
    · exact hrest (hlast r hr)
  · intro h mac hmac
    obtain ⟨rs, hlen, hfields, hbytes⟩ := configParseMac_ok.mp hmac
    have hgood : ∀ r ∈ rs, r.negative = false ∧ r.magnitude < 2 ^ 8 := by
      intro r hr
      by_contra hbad
      rw [not_and_or, Bool.not_eq_false, Nat.not_lt] at hbad
      exact h ⟨rs, hlen, hfields, .inl ⟨r, hr, hbad⟩⟩
    refine ⟨rs, hlen, hfields, fun r hr => (hgood r hr).1, ?_, ?_⟩
    · rw [hbytes, List.map_map]
      apply List.map_congr_left
      intro r hr
      exact (lib.scanf_byte (hgood r hr).1 (hgood r hr).2).symm
    · intro r hr
      by_contra hrest
      exact h ⟨rs, hlen, hfields, .inr ⟨r, hr, hrest⟩⟩

/-- A numeric option is refused and kept, or holds the number of its text, unless the text is one of
those the conversions misread. -/
theorem numeric_option_faithful (lib : LibC) (t : NumericType) (key value : CString)
    (field : t.type.Field) :
    ((configStoreValue lib t.type key value field).1 ≠ none ∧
        (configStoreValue lib t.type key value field).2 = field ∨
      (configStoreValue lib t.type key value field).1 = none ∧
        Denotes t value.bytes (configStoreValue lib t.type key value field).2) ↔
    ¬Misread t value.bytes := by
  cases t with
  | int => exact (storeParsed_faithful _ _ _ _).trans int_faithful
  | ulong => exact (storeParsed_faithful _ _ _ _).trans ulong_faithful
  | size => exact (storeParsed_faithful _ _ _ _).trans ulong_faithful
  | time => exact (storeParsed_faithful _ _ _ _).trans time_faithful
  | etherType => exact (storeParsed_faithful _ _ _ _).trans etherType_faithful
  | mac => exact (storeParsed_faithful _ _ _ _).trans (mac_faithful lib)

/-- A C library that stores zero wherever the standard leaves the value open. -/
def zeroLibC : LibC := ⟨fun _ => 0, fun _ => 0⟩

theorem numeric_option_faithful_time :
    let key : CString := ⟨cBytes "ApplicationBaseCycleTimeNS", by decide⟩
    let value : CString := ⟨cBytes " +4us", by decide⟩
    configStoreValue zeroLibC .time key value (0 : UInt64) = (none, (4000 : UInt64)) ∧
      ¬Misread .time value.bytes := by
  intro key value
  have hdenotes : Denotes .time value.bytes (4000 : UInt64) :=
    ⟨4, cBytes "us", 1000, by decide, reads_of_item (by decide), rfl⟩
  have hstore : configStoreValue zeroLibC .time key value (0 : UInt64) =
      (none, (4000 : UInt64)) := by
    have hparse : configParseTime value.bytes = .ok 4000 := by decide +kernel
    simp only [configStoreValue, hparse, storeParsed]
    rfl
  have hgood : (configStoreValue zeroLibC .time key value (0 : UInt64)).1 = none ∧
      Denotes .time value.bytes (configStoreValue zeroLibC .time key value (0 : UInt64)).2 := by
    rw [hstore]
    exact ⟨rfl, hdenotes⟩
  exact ⟨hstore, (numeric_option_faithful zeroLibC .time key value (0 : UInt64)).mp (.inr hgood)⟩

/-- A `Vid` of 2 ^ 32 + 1 is stored as 1, a frame number of -1 as 2 ^ 64 - 1, and a byte of a MAC
address loses its upper bits. -/
theorem numeric_option_wraps :
    let vid : CString := ⟨cBytes "4294967297", by decide⟩
    let frames : CString := ⟨cBytes "-1", by decide⟩
    let destination : CString := ⟨cBytes "0:0:0:0:0:100", by decide⟩
    let zero : MacAddress := ⟨[0, 0, 0, 0, 0, 0], length_zeroAddress⟩
    (configStoreValue zeroLibC .int ⟨cBytes "RtcVid", by decide⟩ vid (0 : Int32) =
        (none, (1 : Int32)) ∧ ¬Denotes .int vid.bytes (1 : Int32)) ∧
    (configStoreValue zeroLibC .size ⟨cBytes "RtcNumFramesPerCycle", by decide⟩ frames
        (1 : UInt64) = (none, (18446744073709551615 : UInt64)) ∧
      ¬Denotes .size frames.bytes (18446744073709551615 : UInt64)) ∧
    (configStoreValue zeroLibC .mac ⟨cBytes "RtcDestination", by decide⟩ destination
        defaultDestination = (none, zero) ∧ ¬Denotes .mac destination.bytes zero) := by
  intro vid frames destination zero
  refine ⟨⟨?_, ?_⟩, ⟨?_, ?_⟩, ⟨?_, ?_⟩⟩
  · have hparse : configParseInt vid.bytes = .ok 4294967297 := by decide +kernel
    simp only [configStoreValue, hparse, storeParsed]
    rfl
  · rintro ⟨negative, n, hnum, heq⟩
    cases hnum.unique (by decide)
      (reads_of_item (show item 10 vid.bytes = some ⟨false, 4294967297, []⟩ by decide))
    cases heq
  · have hparse : configParseUlong frames.bytes = .ok 18446744073709551615 := by decide +kernel
    simp only [configStoreValue, hparse, storeParsed]
    rfl
  · intro hnum
    cases Reads.unique (by decide) hnum
      (reads_of_item (show item 10 frames.bytes = some ⟨true, 1, []⟩ by decide))
  · have hparse : configParseMac zeroLibC destination.bytes = .ok zero :=
      configParseMac_ok.mpr ⟨items 16 0x3a 6 destination.bytes, by decide,
        (items_iff (by decide) (by decide)).mp rfl, by decide +kernel⟩
    simp only [configStoreValue, hparse, storeParsed]
    rfl
  · rintro ⟨rs, hlen, hfields, -, hbytes, -⟩
    rw [← (items_iff (by decide) hlen).mpr hfields] at hbytes
    revert hbytes
    decide

end RtcTestbench
