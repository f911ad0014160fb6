import RtcTestbench.ConfigValue

namespace RtcTestbench
open Strto
set_option autoImplicit true

/-- The members of `struct application_config` that options write to. -/
inductive AppMember where
  | applicationClockId | applicationBaseCycleTimeNs | applicationBaseStartTimeNs
  | applicationBaseStartOffsetNs | applicationTxBaseOffsetNs | applicationRxBaseOffsetNs
  | applicationXdpProgram | logThreadPriority | logThreadCpu | logFile | logLevel
  | debugStopTraceOnOutlier | debugStopTraceOnError | debugMonitorMode | debugMonitorDestination
  | statsHistogramEnabled | statsHistogramMinimumNs | statsHistogramMaximumNs | statsHistogramFile
  | statsCollectionIntervalNs | logMqtt | logMqttThreadPriority | logMqttThreadCpu
  | logMqttBrokerIp | logMqttBrokerPort | logMqttKeepAliveSecs | logMqttMeasurementName | logJson
  | logJsonThreadPriority | logJsonThreadCpu | logJsonHost | logJsonPort | logJsonMeasurementName
  deriving DecidableEq

def AppMember.type : AppMember → ConfigValueType
  | .applicationClockId => .clockid
  | .applicationBaseCycleTimeNs | .applicationBaseStartTimeNs | .applicationBaseStartOffsetNs
  | .applicationTxBaseOffsetNs | .applicationRxBaseOffsetNs | .statsHistogramMinimumNs
  | .statsHistogramMaximumNs | .statsCollectionIntervalNs => .time
  | .applicationXdpProgram | .logFile | .logLevel | .statsHistogramFile | .logMqttBrokerIp
  | .logMqttMeasurementName | .logJsonHost | .logJsonPort | .logJsonMeasurementName => .string
  | .logThreadPriority | .logThreadCpu | .logMqttThreadPriority | .logMqttThreadCpu
  | .logMqttBrokerPort | .logMqttKeepAliveSecs | .logJsonThreadPriority | .logJsonThreadCpu => .int
  | .debugStopTraceOnOutlier | .debugStopTraceOnError | .debugMonitorMode | .statsHistogramEnabled
  | .logMqtt | .logJson => .bool
  | .debugMonitorDestination => .mac

/-- The members of `struct traffic_class_config` that options write to. -/
inductive ClassMember where
  | enabled | xdpEnabled | xdpSkbMode | xdpZcMode | xdpWakeupMode | xdpBusyPollMode
  | txHwtstampEnabled | txTimeEnabled | txTimeOffsetNs | ignoreRxErrors | vid | pcp
  | numFramesPerCycle | payloadPattern | frameLength | rxQueue | txQueue | socketPriority
  | txThreadPriority | rxThreadPriority | txThreadCpu | rxThreadCpu | interface | burstPeriodNs
  | l2Destination | l3Destination | l3Source | l3Port | name | etherType | protocolType
  | securityMode | securityAlgorithm | securityKey | securityIvPrefix | rxWorkloadEnabled
  | rxWorkloadPrewarm | rxWorkloadSkipCount | workloadFile | workloadSetupFunction
  | workloadSetupArguments | workloadTeardownFunction | workloadFunction | workloadArguments
  | workloadThreadCpus | workloadThreadPriority
  deriving DecidableEq

def ClassMember.type : ClassMember → ConfigValueType
  | .enabled | .xdpEnabled | .xdpSkbMode | .xdpZcMode | .xdpWakeupMode | .xdpBusyPollMode
  | .txHwtstampEnabled | .txTimeEnabled | .ignoreRxErrors | .rxWorkloadEnabled
  | .rxWorkloadPrewarm => .bool
  | .txTimeOffsetNs | .burstPeriodNs => .time
  | .vid | .pcp | .rxQueue | .txQueue | .socketPriority | .txThreadPriority | .rxThreadPriority
  | .txThreadCpu | .rxThreadCpu | .workloadThreadPriority => .int
  | .numFramesPerCycle | .frameLength => .size
  | .payloadPattern => .payload
  | .interface => .interface
  | .l2Destination => .mac
  | .l3Destination | .l3Source | .l3Port | .name | .securityKey | .securityIvPrefix | .workloadFile
  | .workloadSetupFunction | .workloadSetupArguments | .workloadTeardownFunction
  | .workloadFunction | .workloadArguments => .string
  | .etherType => .etherType
  | .protocolType => .protocolType
  | .securityMode => .securityMode
  | .securityAlgorithm => .securityAlgorithm
  | .rxWorkloadSkipCount => .ulong
  | .workloadThreadCpus => .cpuList

/-- `app_config`, as far as options can write to it. -/
structure Settings where
  app : (m : AppMember) → m.type.Field
  classes : StatFrameType → (m : ClassMember) → m.type.Field

def Settings.setApp (s : Settings) (m : AppMember) (field : m.type.Field) : Settings :=
  { s with app := Function.update s.app m field }

def Settings.setClass (s : Settings) (type : StatFrameType) (m : ClassMember)
    (field : m.type.Field) : Settings :=
  { s with classes := Function.update s.classes type (Function.update (s.classes type) m field) }

def Settings.clockId (s : Settings) : ClockId := s.app .applicationClockId

def tcAll : List StatFrameType :=
  [.tsnHigh, .tsnLow, .rtc, .rta, .dcp, .lldp, .udpHigh, .udpLow, .genericL2]
def tcTsn : List StatFrameType := [.tsnHigh, .tsnLow]
def tcUdp : List StatFrameType := [.udpHigh, .udpLow]
def tcProfinet : List StatFrameType := tcTsn ++ [.rtc, .rta]
def tcXdp : List StatFrameType := tcProfinet ++ [.genericL2]
def tcWorkload : List StatFrameType := [.tsnHigh, .rtc, .genericL2]
def tcL2 : List StatFrameType := tcProfinet ++ [.dcp, .lldp, .genericL2]
def tcL3 : List StatFrameType := tcUdp
def tcBurst : List StatFrameType := [.rta, .dcp, .lldp] ++ tcUdp
def tcSecurity : List StatFrameType := tcProfinet
def tcTxtime : List StatFrameType := tcTsn ++ [.genericL2]

/-- An option of a traffic class with the classes that have it. -/
structure ConfigClassOption where
  name : String
  member : ClassMember
  tcs : List StatFrameType

def globalOptions : List (String × AppMember) := [
  ("ApplicationClockId", .applicationClockId),
  ("ApplicationBaseCycleTimeNS", .applicationBaseCycleTimeNs),
  ("ApplicationBaseStartTimeNS", .applicationBaseStartTimeNs),
  ("ApplicationBaseStartOffsetNS", .applicationBaseStartOffsetNs),
  ("ApplicationTxBaseOffsetNS", .applicationTxBaseOffsetNs),
  ("ApplicationRxBaseOffsetNS", .applicationRxBaseOffsetNs),
  ("ApplicationXdpProgram", .applicationXdpProgram), ("LogThreadPriority", .logThreadPriority),
  ("LogThreadCpu", .logThreadCpu), ("LogFile", .logFile), ("LogLevel", .logLevel),
  ("DebugStopTraceOnOutlier", .debugStopTraceOnOutlier),
  ("DebugStopTraceOnError", .debugStopTraceOnError), ("DebugMonitorMode", .debugMonitorMode),
  ("DebugMonitorDestination", .debugMonitorDestination),
  ("StatsHistogramEnabled", .statsHistogramEnabled),
  ("StatsHistogramMinimumNS", .statsHistogramMinimumNs),
  ("StatsHistogramMaximumNS", .statsHistogramMaximumNs),
  ("StatsHistogramFile", .statsHistogramFile),
  ("StatsCollectionIntervalNS", .statsCollectionIntervalNs), ("LogMqtt", .logMqtt),
  ("LogMqttThreadPriority", .logMqttThreadPriority), ("LogMqttThreadCpu", .logMqttThreadCpu),
  ("LogMqttBrokerIP", .logMqttBrokerIp), ("LogMqttBrokerPort", .logMqttBrokerPort),
  ("LogMqttKeepAliveSecs", .logMqttKeepAliveSecs),
  ("LogMqttMeasurementName", .logMqttMeasurementName), ("LogJson", .logJson),
  ("LogJsonThreadPriority", .logJsonThreadPriority), ("LogJsonThreadCpu", .logJsonThreadCpu),
  ("LogJsonHost", .logJsonHost), ("LogJsonPort", .logJsonPort),
  ("LogJsonMeasurementName", .logJsonMeasurementName)]

def classOptions : List ConfigClassOption := [
  ⟨"Enabled", .enabled, tcAll⟩, ⟨"XdpEnabled", .xdpEnabled, tcXdp⟩,
  ⟨"XdpSkbMode", .xdpSkbMode, tcXdp⟩, ⟨"XdpZcMode", .xdpZcMode, tcXdp⟩,
  ⟨"XdpWakeupMode", .xdpWakeupMode, tcXdp⟩, ⟨"XdpBusyPollMode", .xdpBusyPollMode, tcXdp⟩,
  ⟨"TxTimeStampEnabled", .txHwtstampEnabled, tcXdp⟩, ⟨"TxTimeEnabled", .txTimeEnabled, tcTxtime⟩,
  ⟨"TxTimeOffsetNS", .txTimeOffsetNs, tcTxtime⟩, ⟨"IgnoreRxErrors", .ignoreRxErrors, tcAll⟩,
  ⟨"Vid", .vid, tcAll⟩, ⟨"Pcp", .pcp, tcAll⟩, ⟨"NumFramesPerCycle", .numFramesPerCycle, tcAll⟩,
  ⟨"PayloadPattern", .payloadPattern, tcAll⟩, ⟨"FrameLength", .frameLength, tcAll⟩,
  ⟨"RxQueue", .rxQueue, tcAll⟩, ⟨"TxQueue", .txQueue, tcAll⟩,
  ⟨"SocketPriority", .socketPriority, tcAll⟩, ⟨"TxThreadPriority", .txThreadPriority, tcAll⟩,
  ⟨"RxThreadPriority", .rxThreadPriority, tcAll⟩, ⟨"TxThreadCpu", .txThreadCpu, tcAll⟩,
  ⟨"RxThreadCpu", .rxThreadCpu, tcAll⟩, ⟨"Interface", .interface, tcAll⟩,
  ⟨"BurstPeriodNS", .burstPeriodNs, tcBurst⟩, ⟨"Destination", .l2Destination, tcL2⟩,
  ⟨"Destination", .l3Destination, tcL3⟩, ⟨"Source", .l3Source, tcL3⟩, ⟨"Port", .l3Port, tcL3⟩,
  ⟨"Name", .name, [.genericL2]⟩, ⟨"EtherType", .etherType, [.genericL2]⟩,
  ⟨"ProtocolType", .protocolType, [.genericL2]⟩, ⟨"SecurityMode", .securityMode, tcSecurity⟩,
  ⟨"SecurityAlgorithm", .securityAlgorithm, tcSecurity⟩, ⟨"SecurityKey", .securityKey, tcSecurity⟩,
  ⟨"SecurityIvPrefix", .securityIvPrefix, tcSecurity⟩,
  ⟨"RxWorkloadEnabled", .rxWorkloadEnabled, tcWorkload⟩,
  ⟨"RxWorkloadPrewarm", .rxWorkloadPrewarm, tcWorkload⟩,
  ⟨"RxWorkloadSkipCount", .rxWorkloadSkipCount, tcWorkload⟩,
  ⟨"RxWorkloadFile", .workloadFile, tcWorkload⟩,
  ⟨"RxWorkloadSetupFunction", .workloadSetupFunction, tcWorkload⟩,
  ⟨"RxWorkloadSetupArguments", .workloadSetupArguments, tcWorkload⟩,
  ⟨"RxWorkloadTeardownFunction", .workloadTeardownFunction, tcWorkload⟩,
  ⟨"RxWorkloadFunction", .workloadFunction, tcWorkload⟩,
  ⟨"RxWorkloadArguments", .workloadArguments, tcWorkload⟩,
  ⟨"RxWorkloadThreadCpu", .workloadThreadCpus, tcWorkload⟩,
  ⟨"RxWorkloadThreadPriority", .workloadThreadPriority, tcWorkload⟩]

/-- The class an option name starts with, and the rest of the name. -/
def configOptToType (opt : List UInt8) : Option (StatFrameType × List UInt8) :=
  (tcAll.find? fun type => (cBytes (statFrameTypeName type)).isPrefixOf opt).map fun type =>
    (type, opt.drop (cBytes (statFrameTypeName type)).length)

/-- `-ENOENT`, where nothing is printed yet. -/
def noEntry : ConfigError := ⟨.enoent, []⟩

def configStoreClassOption (lib : LibC) (key value : CString) (s : Settings) :
    Option ConfigError × Settings :=
  match configOptToType key.bytes with
  | none => (some noEntry, s)
  | some (type, suffix) =>
    match classOptions.find? fun opt => type ∈ opt.tcs ∧ suffix = cBytes opt.name with
    | none => (some noEntry, s)
    | some opt =>
      let stored := configStoreValue lib opt.member.type key value (s.classes type opt.member)
      (stored.1, s.setClass type opt.member stored.2)

def configStoreAppOption (lib : LibC) (key value : CString) (s : Settings) :
    Option ConfigError × Settings :=
  match globalOptions.find? fun opt => key.bytes = cBytes opt.1 with
  | none => (some noEntry, s)
  | some (_, m) =>
    let stored := configStoreValue lib m.type key value (s.app m)
    (stored.1, s.setApp m stored.2)

/-- The tokens of `libyaml`'s scanner; those the loop does not look at are `other`. -/
inductive YamlToken where
  | streamStart | streamEnd | blockMappingStart | blockEnd | key | value
  | scalar (text : List UInt8)
  | other
  deriving DecidableEq

/-- A scalar read as a C string. -/
def cString (text : List UInt8) : CString where
  bytes := text.takeWhile (· ≠ 0)
  no_nul := by
    intro h
    simpa using List.mem_takeWhile_imp h

/-- A leaf of the document with its key. -/
abbrev Leaf := CString × CString

/-- What the loop of `config_read_from_file` leaves behind: the configuration, `base_time_seen`, and
the pairs it tried to store. -/
structure ReadResult where
  settings : Settings
  baseTimeSeen : Bool
  stores : List Leaf

/-- The loop's state: `state_key` and the remembered key. -/
structure ReadState extends ReadResult where
  stateKey : Bool
  key : Option CString

/-- Class options come first, what is left must be a global one. -/
def storeOption (lib : LibC) (leaf : Leaf) (s : Settings) : Option ConfigError × Settings :=
  let classOption := configStoreClassOption lib leaf.1 leaf.2 s
  if classOption.1.map ConfigError.errno = some .enoent then
    let appOption := configStoreAppOption lib leaf.1 leaf.2 classOption.2
    if appOption.1.map ConfigError.errno = some .enoent then
      (some ⟨.enoent, cBytes "Unknown option '" ++ leaf.1.bytes ++ cBytes "' found!\n"⟩,
        appOption.2)
    else appOption
  else classOption

def baseStartTimeOption : List UInt8 := cBytes "ApplicationBaseStartTimeNS"

def ReadResult.store (lib : LibC) (r : ReadResult) (leaf : Leaf) :
    Option ConfigError × ReadResult :=
  let stored := storeOption lib leaf r.settings
  (stored.1,
    { settings := stored.2
      baseTimeSeen := r.baseTimeSeen || (stored.1 = none && leaf.1.bytes = baseStartTimeOption)
      stores := r.stores ++ [leaf] })

def readToken (lib : LibC) (st : ReadState) : YamlToken → Option ConfigError × ReadState
  | .key => (none, { st with stateKey := true })
  | .value => (none, { st with stateKey := false })
  | .scalar text =>
    if st.stateKey then (none, { st with key := some (cString text) })
    else
      match st.key with
      | none => (none, st)
      | some key =>
        let stored := st.toReadResult.store lib (key, cString text)
        (stored.1, { st with toReadResult := stored.2, key := none })
  | _ => (none, st)

/-- The loop over the tokens; the scanner fails where they end too early. -/
def readTokens (lib : LibC) : List YamlToken → ReadState → Option ConfigError × ReadResult
  | [], st => (some ⟨.einval, cBytes "Failed to parse YAML file!\n"⟩, st.toReadResult)
  | .streamEnd :: _, st => (none, st.toReadResult)
  | token :: tokens, st =>
    match readToken lib st token with
    | (some error, st) => (some error, st.toReadResult)
    | (none, st) => readTokens lib tokens st

/-- The start time in nanoseconds, 30 seconds ahead. -/
def laterStartTime (seconds : Int) : UInt64 := UInt64.ofInt ((seconds + 30) * nsecPerSec)

/-- The default start time is taken again from a clock other than TAI. `clockGettime` gives the
seconds, or the text of its error. -/
def recalculateBaseStartTime (clockGettime : ClockId → Except String Int) (r : ReadResult) :
    Option ConfigError × ReadResult :=
  if r.settings.clockId ≠ .tai ∧ r.baseTimeSeen = false then
    match clockGettime r.settings.clockId with
    | .error text =>
      (some ⟨.eperm, cBytes "CONFIG: clock_gettime() failed: " ++ cBytes text ++ cBytes "!\n"⟩, r)
    | .ok seconds =>
      (none, { r with settings :=
        r.settings.setApp .applicationBaseStartTimeNs (laterStartTime seconds) })
  else (none, r)

/-- A configuration file as `fopen` and the YAML parser see it. -/
structure ConfigFile where
  opens : Bool
  parserStarts : Bool
  tokens : List YamlToken

/-- Without a file name there is nothing to read. -/
def configReadFromFile (lib : LibC) (clockGettime : ClockId → Except String Int) (s : Settings) :
    Option ConfigFile → Option ConfigError × ReadResult
  | none => (some ⟨.einval, []⟩, ⟨s, false, []⟩)
  | some file =>
    if file.opens = false then (some ⟨.eio, cBytes "fopen() failed"⟩, ⟨s, false, []⟩)
    else if file.parserStarts = false then
      (some ⟨.einval, cBytes "Failed to initialize YAML parser\n"⟩, ⟨s, false, []⟩)
    else
      match readTokens lib file.tokens ⟨⟨s, false, []⟩, false, none⟩ with
      | (some error, r) => (some error, r)
      | (none, r) => recalculateBaseStartTime clockGettime r

/-- A document: nested mappings with scalars at the leaves. -/
inductive YamlNode where
  | scalar (text : List UInt8)
  | mapping (entries : List (List UInt8 × YamlNode))

mutual

/-- The tokens the scanner cuts a document into. -/
def YamlNode.tokens : YamlNode → List YamlToken
  | .scalar text => [.scalar text]
  | .mapping entries => .blockMappingStart :: (entryTokens entries ++ [.blockEnd])

def entryTokens : List (List UInt8 × YamlNode) → List YamlToken
  | [] => []
  | (key, node) :: entries =>
    .key :: .scalar key :: .value :: (node.tokens ++ entryTokens entries)

end

mutual

/-- The leaves of what stands under a key, in the order of the document. -/
def YamlNode.leaves (key : List UInt8) : YamlNode → List Leaf
  | .scalar text => [(cString key, cString text)]
  | .mapping entries => entryLeaves entries

def entryLeaves : List (List UInt8 × YamlNode) → List Leaf
  | [] => []
  | (key, node) :: entries => node.leaves key ++ entryLeaves entries

end

/-- The file of a document. -/
def fileOf (entries : List (List UInt8 × YamlNode)) : ConfigFile where
  opens := true
  parserStarts := true
  tokens := .streamStart :: ((YamlNode.mapping entries).tokens ++ [.streamEnd])

/-- Go on with `f` unless there was an error. -/
def thenRead (outcome : Option ConfigError × ReadResult)
    (f : ReadResult → Option ConfigError × ReadResult) : Option ConfigError × ReadResult :=
  match outcome with
  | (some error, r) => (some error, r)
  | (none, r) => f r

theorem thenRead_assoc (outcome : Option ConfigError × ReadResult)
    (f g : ReadResult → Option ConfigError × ReadResult) :
    thenRead (thenRead outcome f) g = thenRead outcome fun r => thenRead (f r) g := by
  obtain ⟨_ | error, r⟩ := outcome <;> rfl

/-- The leaves are stored one after the other up to the first error. -/
def storeLeaves (lib : LibC) : List Leaf → ReadResult → Option ConfigError × ReadResult
  | [], r => (none, r)
  | leaf :: leaves, r => thenRead (r.store lib leaf) (storeLeaves lib leaves)

theorem storeLeaves_append (lib : LibC) (leaves leaves' : List Leaf) (r : ReadResult) :
    storeLeaves lib (leaves ++ leaves') r =
      thenRead (storeLeaves lib leaves r) (storeLeaves lib leaves') := by
  induction leaves generalizing r with
  | nil => rfl
  | cons leaf leaves ih =>
    simp only [List.cons_append, storeLeaves, thenRead_assoc]
    congr 1
    funext r
    exact ih r

section Tokens
variable {lib : LibC}

theorem readTokens_streamStart (st : ReadState) :
    readTokens lib (.streamStart :: rest) st = readTokens lib rest st := rfl

theorem readTokens_blockMappingStart (st : ReadState) :
    readTokens lib (.blockMappingStart :: rest) st = readTokens lib rest st := rfl

theorem readTokens_blockEnd (st : ReadState) :
    readTokens lib (.blockEnd :: rest) st = readTokens lib rest st := rfl

theorem readTokens_leaf (hkey : st.key = some key) (hstate : st.stateKey = false)
    (hrest : ∀ st, readTokens lib rest st = f st.toReadResult) :
    readTokens lib (.scalar text :: rest) st =
      thenRead (st.toReadResult.store lib (key, cString text)) f := by
  rw [readTokens]
  · simp only [readToken, hstate, hkey, Bool.false_eq_true, if_false, thenRead]
    generalize st.toReadResult.store lib (key, cString text) = stored
    obtain ⟨_ | error, r⟩ := stored
    · exact hrest _
    · rfl
  · exact fun h => nomatch h

/-- An entry starts with a new key, whatever was remembered before. -/
theorem readTokens_key (st : ReadState) :
    readTokens lib (.key :: .scalar key :: .value :: rest) st =
      readTokens lib rest { st with stateKey := false, key := some (cString key) } :=
  rfl

mutual

theorem readTokens_node (node : YamlNode) (hkey : st.key = some (cString key))
    (hstate : st.stateKey = false) (hrest : ∀ st, readTokens lib rest st = f st.toReadResult) :
    readTokens lib (node.tokens ++ rest) st =
      thenRead (storeLeaves lib (node.leaves key) st.toReadResult) f :=
  match node with
  | .scalar text => by
    rw [YamlNode.tokens, YamlNode.leaves, List.singleton_append, readTokens_leaf hkey hstate hrest,
      storeLeaves, thenRead_assoc]
    rfl
  | .mapping entries => by
    rw [YamlNode.tokens, YamlNode.leaves, List.cons_append, List.append_assoc,
      readTokens_blockMappingStart]
    apply readTokens_entries entries
    intro st
    exact (readTokens_blockEnd st).trans (hrest st)

/-- The header of a mapping is never stored: its key is replaced by the first key inside. -/
theorem readTokens_entries (entries : List (List UInt8 × YamlNode))
    (hrest : ∀ st, readTokens lib rest st = f st.toReadResult) (st : ReadState) :
    readTokens lib (entryTokens entries ++ rest) st =
      thenRead (storeLeaves lib (entryLeaves entries) st.toReadResult) f :=
  match entries with
  | [] => by
    rw [entryTokens, entryLeaves, List.nil_append, hrest st]
    rfl
  | (key, node) :: entries => by
    rw [entryTokens, entryLeaves, List.cons_append, List.cons_append, List.cons_append,
      readTokens_key, List.append_assoc, storeLeaves_append, thenRead_assoc]
    apply readTokens_node node rfl rfl
    exact readTokens_entries entries hrest

end

theorem readTokens_file (entries : List (List UInt8 × YamlNode)) (st : ReadState) :
    readTokens lib (fileOf entries).tokens st =
      storeLeaves lib (entryLeaves entries) st.toReadResult := by
  have hend : ∀ st, readTokens lib [.blockEnd, .streamEnd] st = (none, st.toReadResult) := by
    intro st
    rw [readTokens_blockEnd, readTokens]
  rw [fileOf, readTokens_streamStart, YamlNode.tokens, List.cons_append, List.append_assoc,
    readTokens_blockMappingStart]
  refine (readTokens_entries entries hend st).trans ?_
  generalize storeLeaves lib (entryLeaves entries) st.toReadResult = outcome
  obtain ⟨_ | error, r⟩ := outcome <;> rfl

end Tokens

/-- The configuration after the stores of these leaves, failed ones included. -/
def storedSettings (lib : LibC) (s : Settings) (leaves : List Leaf) : Settings :=
  leaves.foldl (fun s leaf => (storeOption lib leaf s).2) s

/-- Every leaf is stored successfully into what the leaves before it left. -/
def AllStored (lib : LibC) : Settings → List Leaf → Prop
  | _, [] => True
  | s, leaf :: leaves =>
    (storeOption lib leaf s).1 = none ∧ AllStored lib (storeOption lib leaf s).2 leaves

instance AllStored.decide (lib : LibC) (s : Settings) (leaves : List Leaf) :
    Decidable (AllStored lib s leaves) :=
  match leaves with
  | [] => .isTrue trivial
  | leaf :: leaves =>
    have := AllStored.decide lib (storeOption lib leaf s).2 leaves
    inferInstanceAs (Decidable (_ ∧ _))

/-- The option exists, for the class its name starts with or globally. -/
def KnownOption (key : CString) : Prop :=
  (∃ type suffix, configOptToType key.bytes = some (type, suffix) ∧
    ∃ opt ∈ classOptions, type ∈ opt.tcs ∧ suffix = cBytes opt.name) ∨
  ∃ opt ∈ globalOptions, key.bytes = cBytes opt.1

theorem storeParsed_errno (h : (storeParsed error parsed store field).1 = some e) :
    e = error := by
  cases parsed with
  | error _ => exact (Option.some.inj h).symm
  | ok v => cases h

/-- Whatever is wrong with a value, the error is `-EINVAL`. -/
theorem configStoreValue_errno (lib : LibC) (type : ConfigValueType) (key value : CString)
    (field : type.Field) (h : (configStoreValue lib type key value field).1 = some e) :
    e.errno = .einval := by
  cases type with
  | string | payload | interface => cases h
  | cpuList =>
    rw [configStoreValue] at h
    split at h
    · cases h
      rfl
    · cases h
  | bool | int | ulong | size | time | mac | etherType | securityMode | securityAlgorithm
  | clockid | protocolType =>
    exact congrArg ConfigError.errno (storeParsed_errno h)

/-- An option that is known is not refused as unknown. -/
theorem configStoreValue_known (lib : LibC) (type : ConfigValueType) (key value : CString)
    (cell : type.Field) :
    ¬ (configStoreValue lib type key value cell).1.map ConfigError.errno = some .enoent := by
  intro henoent
  obtain ⟨e, he, hcode⟩ := Option.map_eq_some_iff.mp henoent
  rw [configStoreValue_errno lib _ key value _ he] at hcode
  cases hcode

theorem configStoreClassOption_enoent (lib : LibC) (key value : CString) (s : Settings) :
    (configStoreClassOption lib key value s).1.map ConfigError.errno = some .enoent ↔
      ¬∃ type suffix, configOptToType key.bytes = some (type, suffix) ∧
        ∃ opt ∈ classOptions, type ∈ opt.tcs ∧ suffix = cBytes opt.name := by
  rw [configStoreClassOption]
  cases htype : configOptToType key.bytes with
  | none => simp [noEntry]
  | some found =>
    obtain ⟨type, suffix⟩ := found
    dsimp only
    cases hfind : classOptions.find? fun opt => type ∈ opt.tcs ∧ suffix = cBytes opt.name with
    | none =>
      have hnone := List.find?_eq_none.mp hfind
      simp only [noEntry, Option.map_some, true_iff]
      rintro ⟨type', suffix', heq, opt, hopt, htcs, hname⟩
      cases heq
      exact hnone opt hopt (by simp [htcs, hname])
    | some opt =>
      have hopt := List.find?_some hfind
      simp only [decide_eq_true_eq] at hopt
      apply iff_of_false (configStoreValue_known lib _ key value _)
      rw [not_not]
      exact ⟨type, suffix, rfl, opt, List.mem_of_find?_eq_some hfind, hopt⟩

theorem configStoreAppOption_enoent (lib : LibC) (key value : CString) (s : Settings) :
    (configStoreAppOption lib key value s).1.map ConfigError.errno = some .enoent ↔
      ¬∃ opt ∈ globalOptions, key.bytes = cBytes opt.1 := by
  rw [configStoreAppOption]
  cases hfind : globalOptions.find? fun opt => key.bytes = cBytes opt.1 with
  | none =>
    have hnone := List.find?_eq_none.mp hfind
    simp only [noEntry, Option.map_some, true_iff]
    rintro ⟨opt, hopt, hname⟩
    exact hnone opt hopt (by simp [hname])
  | some opt =>
    have hopt := List.find?_some hfind
    simp only [decide_eq_true_eq] at hopt
    apply iff_of_false (configStoreValue_known lib _ key value _)
    rw [not_not]
    exact ⟨opt, List.mem_of_find?_eq_some hfind, hopt⟩

theorem storeOption_enoent (lib : LibC) (leaf : Leaf) (s : Settings) :
    (storeOption lib leaf s).1.map ConfigError.errno = some .enoent ↔ ¬KnownOption leaf.1 := by
  rw [KnownOption, not_or, ← configStoreClassOption_enoent lib leaf.1 leaf.2 s,
    ← configStoreAppOption_enoent lib leaf.1 leaf.2
      (configStoreClassOption lib leaf.1 leaf.2 s).2, storeOption]
  dsimp only
  split
  · next hclass =>
    split
    · next happ => simp [hclass, happ]
    · next happ => simp [happ]
  · next hclass => simp [hclass]

theorem storeLeaves_stored (lib : LibC) (leaves : List Leaf) (r : ReadResult)
    (h : AllStored lib r.settings leaves) :
    storeLeaves lib leaves r = (none,
      ⟨storedSettings lib r.settings leaves,
        r.baseTimeSeen || leaves.any fun leaf => leaf.1.bytes = baseStartTimeOption,
        r.stores ++ leaves⟩) := by
  induction leaves generalizing r with
  | nil => simp [storeLeaves, storedSettings]
  | cons leaf leaves ih =>
    have hstore : r.store lib leaf = (none, (r.store lib leaf).2) := Prod.ext h.1 rfl
    rw [storeLeaves, hstore, thenRead, ih _ h.2]
    simp only [ReadResult.store, h.1, List.any_cons, List.append_assoc, Bool.or_assoc]
    rfl

/-- The first leaf that fails ends the loop with its error. -/
theorem storeLeaves_failed (lib : LibC) (before after : List Leaf) (leaf : Leaf) (r : ReadResult)
    (hbefore : AllStored lib r.settings before)
    (hleaf : (storeOption lib leaf (storedSettings lib r.settings before)).1 = some error) :
    (storeLeaves lib (before ++ leaf :: after) r).1 = some error ∧
      (storeLeaves lib (before ++ leaf :: after) r).2.settings =
        (storeOption lib leaf (storedSettings lib r.settings before)).2 ∧
      (storeLeaves lib (before ++ leaf :: after) r).2.stores = r.stores ++ before ++ [leaf] := by
  rw [storeLeaves_append, storeLeaves_stored lib before r hbefore, thenRead, storeLeaves]
  have hstore (r' : ReadResult) (hs : r'.settings = storedSettings lib r.settings before) :
      r'.store lib leaf = (some error, (r'.store lib leaf).2) := by
    refine Prod.ext ?_ rfl
    rw [← hleaf, ← hs]
    rfl
  rw [hstore _ rfl, thenRead]
  exact ⟨rfl, rfl, rfl⟩

theorem allStored_or_failed (lib : LibC) (s : Settings) (leaves : List Leaf) :
    AllStored lib s leaves ∨ ∃ before leaf after error, leaves = before ++ leaf :: after ∧
      AllStored lib s before ∧
        (storeOption lib leaf (storedSettings lib s before)).1 = some error := by
  induction leaves generalizing s with
  | nil => exact .inl trivial
  | cons leaf leaves ih =>
    cases hleaf : (storeOption lib leaf s).1 with
    | some error => exact .inr ⟨[], leaf, leaves, error, rfl, trivial, hleaf⟩
    | none =>
      rcases ih (storeOption lib leaf s).2 with
        hall | ⟨before, leaf', after, error, rfl, hbefore, he⟩
      · exact .inl ⟨hleaf, hall⟩
      · exact .inr ⟨leaf :: before, leaf', after, error, rfl, ⟨hleaf, hbefore⟩, he⟩

/-- The start time follows the configured clock unless the file gives one. -/
def withStartTime (clock : ClockId → Int) (leaves : List Leaf) (s : Settings) : Settings :=
  if s.clockId ≠ .tai ∧ ∀ leaf ∈ leaves, leaf.1.bytes ≠ baseStartTimeOption then
    s.setApp .applicationBaseStartTimeNs (laterStartTime (clock s.clockId))
  else s

theorem configReadFromFile_document (lib : LibC) (clockGettime : ClockId → Except String Int)
    (s : Settings) (doc : List (List UInt8 × YamlNode)) :
    configReadFromFile lib clockGettime s (some (fileOf doc)) =
      thenRead (storeLeaves lib (entryLeaves doc) ⟨s, false, []⟩)
        (recalculateBaseStartTime clockGettime) := by
  simp only [configReadFromFile]
  rw [if_neg (show ¬(fileOf doc).opens = false from nofun),
    if_neg (show ¬(fileOf doc).parserStarts = false from nofun), readTokens_file]
  rfl

theorem recalculate_withStartTime (clock : ClockId → Int) (s : Settings) (leaves : List Leaf) :
    recalculateBaseStartTime (fun id => .ok (clock id))
      ⟨s, leaves.any fun leaf => leaf.1.bytes = baseStartTimeOption, leaves⟩ =
    (none, ⟨withStartTime clock leaves s,
      leaves.any fun leaf => leaf.1.bytes = baseStartTimeOption, leaves⟩) := by
  have hseen : (leaves.any fun leaf => leaf.1.bytes = baseStartTimeOption) = false ↔
      ∀ leaf ∈ leaves, leaf.1.bytes ≠ baseStartTimeOption := by
    simp
  simp only [recalculateBaseStartTime, withStartTime]
  by_cases hrecalc : s.clockId ≠ .tai ∧ ∀ leaf ∈ leaves, leaf.1.bytes ≠ baseStartTimeOption
  · rw [if_pos ⟨hrecalc.1, hseen.mpr hrecalc.2⟩, if_pos hrecalc]
  · rw [if_neg fun h => hrecalc ⟨h.1, hseen.mp h.2⟩, if_neg hrecalc]

/-- No option of the class writes to the member. -/
def Unwritten (type : StatFrameType) (m : ClassMember) : Prop :=
  ∀ opt ∈ classOptions, opt.member = m → type ∉ opt.tcs

theorem storeOption_unwritten (lib : LibC) (leaf : Leaf) (s : Settings) (h : Unwritten type m) :
    (storeOption lib leaf s).2.classes type m = s.classes type m := by
  have hclass : (configStoreClassOption lib leaf.1 leaf.2 s).2.classes type m =
      s.classes type m := by
    rw [configStoreClassOption]
    split
    · rfl
    · next type' suffix _ =>
      split
      · rfl
      · next opt hfind =>
        have hopt := List.find?_some hfind
        simp only [decide_eq_true_eq] at hopt
        simp only [Settings.setClass]
        by_cases htype : type = type'
        · subst htype
          have hm : m ≠ opt.member := fun hm =>
            h opt (List.mem_of_find?_eq_some hfind) hm.symm hopt.1
          rw [Function.update_self, Function.update_of_ne hm]
        · rw [Function.update_of_ne htype]
  have happ (s : Settings) : (configStoreAppOption lib leaf.1 leaf.2 s).2.classes = s.classes := by
    rw [configStoreAppOption]
    split <;> rfl
  rw [storeOption]
  dsimp only
  split
  · split <;> simp only [happ] <;> exact hclass
  · exact hclass

theorem readToken_unwritten (lib : LibC) (st : ReadState) (token : YamlToken)
    (h : Unwritten type m) :
    (readToken lib st token).2.settings.classes type m = st.settings.classes type m := by
  cases token with
  | scalar text =>
    rw [readToken]
    split
    · rfl
    · split
      · rfl
      · exact storeOption_unwritten lib _ _ h
  | _ => rfl

theorem readTokens_unwritten (lib : LibC) (tokens : List YamlToken) (st : ReadState)
    (h : Unwritten type m) :
    (readTokens lib tokens st).2.settings.classes type m = st.settings.classes type m := by
  induction tokens generalizing st with
  | nil => rfl
  | cons token tokens ih =>
    have hstep := readToken_unwritten lib st token h
    unfold readTokens
    split
    · next heq => cases heq
    · rfl
    · next heq =>
      cases heq
      split
      · next hread =>
        rw [hread] at hstep
        exact hstep
      · next hread =>
        rw [hread] at hstep
        rw [ih, hstep]

/-- Whatever the file holds, a member without an option of its class keeps its default. -/
theorem configReadFromFile_unwritten (lib : LibC) (clockGettime : ClockId → Except String Int)
    (s : Settings) (file : Option ConfigFile) (h : Unwritten type m) :
    (configReadFromFile lib clockGettime s file).2.settings.classes type m = s.classes type m := by
  cases file with
  | none => rfl
  | some file =>
    have hrun := readTokens_unwritten lib file.tokens ⟨⟨s, false, []⟩, false, none⟩ h
    simp only [configReadFromFile]
    split_ifs
    · rfl
    · rfl
    · split
      · next hread =>
        rw [hread] at hrun
        exact hrun
      · next r hread =>
        rw [hread] at hrun
        have hclasses : (recalculateBaseStartTime clockGettime r).2.settings.classes =
            r.settings.classes := by
          rw [recalculateBaseStartTime]
          split
          · split <;> rfl
          · rfl
        rw [hclasses]
        exact hrun

/-- The string of a member; `NULL` has no characters. -/
def StringMember.cString (m : StringMember) : CString := m.text.getD ⟨[], nul_not_mem_nil⟩

/-- The part of the configuration the threads read, for a process that mirrors or not. -/
def Settings.appConfig (s : Settings) (mirrorEnabled : Bool) : AppConfig where
  applicationClockId := s.clockId
  applicationBaseCycleTimeNs := s.app .applicationBaseCycleTimeNs
  applicationTxBaseOffsetNs := s.app .applicationTxBaseOffsetNs
  applicationRxBaseOffsetNs := s.app .applicationRxBaseOffsetNs
  classes type :=
    let conf := s.classes type
    let name : StringMember := conf .name
    let pattern : StringMember := conf .payloadPattern
    let frameLength : UInt64 := conf .frameLength
    let key : StringMember := conf .securityKey
    let iv : StringMember := conf .securityIvPrefix
    { enabled := conf .enabled
      rxMirrorEnabled := mirrorEnabled
      name := String.ofList (name.cString.bytes.map fun c => Char.ofNat c.toNat)
      xdpEnabled := conf .xdpEnabled
      xdpBusyPollMode := conf .xdpBusyPollMode
      txTimeEnabled := conf .txTimeEnabled
      txHwtstampEnabled := conf .txHwtstampEnabled
      ignoreRxErrors := conf .ignoreRxErrors
      rxWorkloadSkipCount := conf .rxWorkloadSkipCount
      etherType := conf .etherType
      vid := conf .vid
      pcp := conf .pcp
      numFramesPerCycle := conf .numFramesPerCycle
      payloadPattern := pattern.cString
      frameLength := frameLength.toNat
      protocolType := conf .protocolType
      l2Destination := conf .l2Destination
      securityMode := conf .securityMode
      securityAlgorithm := conf .securityAlgorithm
      securityKey := key.cString
      securityIvPrefix := iv.cString }
  debugStopTraceOnOutlier := s.app .debugStopTraceOnOutlier
  statsHistogramEnabled := s.app .statsHistogramEnabled
  statsHistogramMinimumNs := s.app .statsHistogramMinimumNs
  statsHistogramMaximumNs := s.app .statsHistogramMaximumNs
  statsCollectionIntervalNs := s.app .statsCollectionIntervalNs
  logMqtt := s.app .logMqtt

theorem securityMode_unwritten (h : type ∉ tcSecurity) : Unwritten type .securityMode := by
  cases type <;> first | exact absurd (by decide) h | (unfold Unwritten; decide)

/-- Only the PROFINET classes can be given a security mode. -/
theorem configReadFromFile_securityMode (lib : LibC)
    (clockGettime : ClockId → Except String Int) (s : Settings) (file : Option ConfigFile)
    (mirrorEnabled : Bool) (h : type ∉ tcSecurity) :
    (((configReadFromFile lib clockGettime s file).2.settings.appConfig mirrorEnabled).classes
      type).securityMode = ((s.appConfig mirrorEnabled).classes type).securityMode :=
  configReadFromFile_unwritten lib clockGettime s file (securityMode_unwritten h)

/-- Static storage starts as zeroes. -/
def ConfigValueType.zero : (type : ConfigValueType) → type.Field
  | bool => false
  | int => (0 : Int32)
  | ulong => (0 : UInt64)
  | size => (0 : UInt64)
  | time => (0 : UInt64)
  | string => ⟨none, 0⟩
  | payload => ⟨none, 0⟩
  | interface => ⟨List.replicate ifNamesize 0, List.length_replicate⟩
  | mac => ⟨[0, 0, 0, 0, 0, 0], length_zeroAddress⟩
  | etherType => (0 : UInt32)
  | securityMode => SecurityMode.none
  | securityAlgorithm => SecurityAlgorithm.aes256Gcm
  | cpuList => ⟨List.replicate workloadMax 0, 0, List.length_replicate⟩
  | clockid => ClockId.realtime
  | protocolType => ProtocolType.genericL2

def zeroSettings : Settings := ⟨fun m => m.type.zero, fun _ m => m.type.zero⟩

/-- Two headers and a class option under the second one. -/
def nestedDocument : List (List UInt8 × YamlNode) :=
  [(cBytes "Application", .mapping
      [(cBytes "ApplicationClockId", .scalar (cBytes "CLOCK_MONOTONIC"))]),
    (cBytes "TSNHigh", .mapping
      [(cBytes "TsnHighEnabled", .scalar (cBytes "true")),
        (cBytes "TsnHighVid", .scalar (cBytes "200"))])]

end RtcTestbench
