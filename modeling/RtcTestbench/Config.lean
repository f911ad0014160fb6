import Mathlib

namespace RtcTestbench
set_option autoImplicit true

inductive StatFrameType where
  | tsnHigh | tsnLow | rtc | rta | dcp | lldp | udpHigh | udpLow | genericL2
  deriving DecidableEq, Repr

inductive SecurityMode where
  | none | ao | ae
  deriving DecidableEq, Repr

inductive SecurityAlgorithm where
  | aes256Gcm | aes128Gcm | chacha20Poly1305
  deriving DecidableEq, Repr

inductive ProtocolType where
  | genericL2 | etherCat
  deriving DecidableEq, Repr

inductive ClockId where
  | tai | monotonic | realtime
  | aux (id : Nat)
  deriving DecidableEq, Repr

structure CString where
  bytes : List UInt8
  no_nul : 0 ∉ bytes
  deriving DecidableEq

theorem nul_not_mem_nil : (0 : UInt8) ∉ ([] : List UInt8) := List.not_mem_nil

structure MacAddress where
  bytes : List UInt8
  length_eq : bytes.length = 6
  deriving DecidableEq

theorem length_zeroAddress : ([0, 0, 0, 0, 0, 0] : List UInt8).length = 6 := rfl

@[simp] def sizeofEthhdr : Nat := 14
@[simp] def sizeofVlanEthernetHeader : Nat := 18
@[simp] def sizeofVlanHeader : Nat := 4
@[simp] def sizeofReferenceMetaData : Nat := 16
@[simp] def sizeofProfinetRtHeader : Nat := 18
@[simp] def sizeofProfinetSecureHeader : Nat := 26
@[simp] def sizeofSecurityChecksum : Nat := 16
@[simp] def sizeofGenericL2Header : Nat := 16
@[simp] def sizeofEthercatHeader : Nat := 2

/-- `MAX_FRAME_SIZE`, the chunk size of the UMEM area. -/
def maxFrameSize : Nat := 4096

def securityIvPrefixLen : Nat := 6

/-- What the build found out about its platform. The size of `struct xsk_tx_metadata` comes from
the kernel headers, where the launch time request has been added later. -/
structure BuildConfig where
  withMqtt : Bool
  rxTimestamp : Bool
  txTimestamp : Bool
  haveXdpTxTime : Bool
  haveBusyPoll : Bool
  sizeofXskTxMetadata : Nat
  sizeofXskTxMetadata_eq : sizeofXskTxMetadata = 16 ∨ sizeofXskTxMetadata = 24

/-- `struct traffic_class_config`. -/
structure TrafficClassConfig where
  enabled : Bool
  rxMirrorEnabled : Bool
  name : String
  xdpEnabled : Bool
  xdpBusyPollMode : Bool
  txTimeEnabled : Bool
  txHwtstampEnabled : Bool
  ignoreRxErrors : Bool
  rxWorkloadSkipCount : UInt64
  etherType : UInt32
  vid : Int32
  pcp : Int32
  numFramesPerCycle : UInt64
  payloadPattern : CString
  frameLength : Nat
  protocolType : ProtocolType
  l2Destination : MacAddress
  securityMode : SecurityMode
  securityAlgorithm : SecurityAlgorithm
  securityKey : CString
  securityIvPrefix : CString

/-- `struct application_config`. -/
structure AppConfig where
  applicationClockId : ClockId
  applicationBaseCycleTimeNs : UInt64
  applicationTxBaseOffsetNs : UInt64
  applicationRxBaseOffsetNs : UInt64
  classes : StatFrameType → TrafficClassConfig
  debugStopTraceOnOutlier : Bool
  statsHistogramEnabled : Bool
  statsHistogramMinimumNs : UInt64
  statsHistogramMaximumNs : UInt64
  statsCollectionIntervalNs : UInt64
  logMqtt : Bool

def configIsTcActive (app : AppConfig) (type : StatFrameType) : Bool :=
  (app.classes type).enabled && decide (0 < (app.classes type).numFramesPerCycle)

/-- A condition under which the configuration is refused, with what is printed then. -/
structure SanityCheck where
  failed : Bool
  messages : List String

def minProfinetFrameSize : Nat := sizeofVlanEthernetHeader + sizeofProfinetRtHeader

def minSecureProfinetFrameSize : Nat :=
  sizeofVlanEthernetHeader + sizeofProfinetSecureHeader + sizeofSecurityChecksum

def frameLengthCheck (conf : TrafficClassConfig) (minFrameSize : Nat) (name : String) :
    SanityCheck where
  failed := decide (maxFrameSize < conf.frameLength) ||
    decide (conf.frameLength < minFrameSize + conf.payloadPattern.bytes.length)
  messages := [name ++ "FrameLength is invalid!"]

def profinetMinFrameSize (conf : TrafficClassConfig) : Nat :=
  if conf.securityMode = .none then minProfinetFrameSize else minSecureProfinetFrameSize

def securityAlgorithmToString : SecurityAlgorithm → String
  | .aes256Gcm => "AES-256-GCM"
  | .aes128Gcm => "AES-128-GCM"
  | .chacha20Poly1305 => "CHACHA20-POLY1305"

/-- `config_check_keys`: the prefix length is looked at before the key length. -/
def configCheckKeys (trafficClass : String) (conf : TrafficClassConfig) : SanityCheck :=
  let expectedKeyLen := if conf.securityAlgorithm = .aes128Gcm then 16 else 32
  let keyLen := conf.securityKey.bytes.length
  if conf.securityMode = .none then ⟨false, []⟩
  else if conf.securityIvPrefix.bytes.length ≠ securityIvPrefixLen then
    ⟨true, [trafficClass ++ " IV prefix length should be " ++ toString securityIvPrefixLen ++ "!"]⟩
  else if expectedKeyLen ≠ keyLen then
    ⟨true, [trafficClass ++ " key length mismatch!. Have " ++ toString keyLen ++ " expected " ++
      toString expectedKeyLen ++ " for " ++ securityAlgorithmToString conf.securityAlgorithm ++
      "!"]⟩
  else ⟨false, []⟩

def anyTxHwtstamp (app : AppConfig) : Bool :=
  (app.classes .genericL2).txHwtstampEnabled || (app.classes .rtc).txHwtstampEnabled ||
    (app.classes .rta).txHwtstampEnabled || (app.classes .tsnHigh).txHwtstampEnabled ||
    (app.classes .tsnLow).txHwtstampEnabled

/-- The refusals of `config_sanity_check` in the order in which they are tried. -/
def sanityChecks (build : BuildConfig) (app : AppConfig) : List SanityCheck :=
  [⟨configIsTcActive app .genericL2 &&
      (configIsTcActive app .tsnHigh || configIsTcActive app .tsnLow ||
        configIsTcActive app .rtc || configIsTcActive app .rta || configIsTcActive app .dcp ||
        configIsTcActive app .lldp || configIsTcActive app .udpHigh ||
        configIsTcActive app .udpLow),
      ["Either use PROFINET or GenericL2!",
        "For simulation of PROFINET and other middlewares in parallel " ++
          "start multiple instances of ref&mirror application(s) with " ++
          "different profiles!"]⟩,
    ⟨decide (app.applicationBaseCycleTimeNs = 0),
      ["ApplicationBaseCycleTimeNS should be greater than 0! For example 1ms!"]⟩,
    ⟨decide (app.applicationBaseCycleTimeNs < app.applicationRxBaseOffsetNs) ||
        decide (app.applicationBaseCycleTimeNs < app.applicationTxBaseOffsetNs),
      ["Application(Tx|Rx)BaseOffsetNS should be less than ApplicationBaseCycleTimeNS!"]⟩,
    ⟨decide (app.applicationTxBaseOffsetNs ≤ app.applicationRxBaseOffsetNs),
      ["ApplicationRxBaseOffsetNS should be less than ApplicationTxBaseOffsetNS!"]⟩,
    frameLengthCheck (app.classes .genericL2) (sizeofVlanEthernetHeader + sizeofGenericL2Header)
      "GenericL2",
    frameLengthCheck (app.classes .tsnHigh) (profinetMinFrameSize (app.classes .tsnHigh))
      "TsnHigh",
    frameLengthCheck (app.classes .tsnLow) (profinetMinFrameSize (app.classes .tsnLow)) "TsnLow",
    frameLengthCheck (app.classes .rtc) (profinetMinFrameSize (app.classes .rtc)) "Rtc",
    frameLengthCheck (app.classes .rta) (profinetMinFrameSize (app.classes .rta)) "Rta",
    frameLengthCheck (app.classes .dcp) minProfinetFrameSize "Dcp",
    frameLengthCheck (app.classes .lldp) (sizeofEthhdr + sizeofReferenceMetaData) "Lldp",
    frameLengthCheck (app.classes .udpHigh) sizeofReferenceMetaData "UdpHigh",
    frameLengthCheck (app.classes .udpLow) sizeofReferenceMetaData "UdpLow",
    ⟨!build.haveXdpTxTime &&
        ((app.classes .genericL2).txTimeEnabled && (app.classes .genericL2).xdpEnabled ||
          (app.classes .tsnHigh).txTimeEnabled && (app.classes .tsnHigh).xdpEnabled ||
          (app.classes .tsnLow).txTimeEnabled && (app.classes .tsnLow).xdpEnabled),
      ["TxTime and XDP cannot be used at the same time on this platform!",
        "Update libxdp to >= v1.5.0 support it."]⟩,
    ⟨build.rxTimestamp && decide (app.applicationClockId ≠ .tai),
      ["Rx HW timestamping requires ApplicationClockId: CLOCK_TAI!"]⟩,
    ⟨!build.txTimestamp && anyTxHwtstamp app,
      ["Tx HW Timestamp requires TX_TIMESTAMP build support!",
        "Rebuild with -DTX_TIMESTAMP=ON (AF_XDP additionally requires libxdp " ++
          ">= v1.5.2 and Linux kernel >= v6.8)."]⟩,
    ⟨anyTxHwtstamp app && decide (app.applicationClockId ≠ .tai),
      ["Tx HW timestamping requires ApplicationClockId: CLOCK_TAI!"]⟩,
    ⟨!build.haveBusyPoll &&
        ((app.classes .tsnHigh).xdpBusyPollMode || (app.classes .tsnLow).xdpBusyPollMode ||
          (app.classes .rtc).xdpBusyPollMode || (app.classes .rta).xdpBusyPollMode ||
          (app.classes .genericL2).xdpBusyPollMode),
      ["XDP busy polling selected, but not supported!"]⟩,
    ⟨!build.withMqtt && app.logMqtt, ["Log via Mosquito enabled, but not supported!"]⟩,
    configCheckKeys "TsnHigh" (app.classes .tsnHigh),
    configCheckKeys "TsnLow" (app.classes .tsnLow),
    configCheckKeys "Rtc" (app.classes .rtc),
    configCheckKeys "Rta" (app.classes .rta),
    ⟨decide (app.statsHistogramMaximumNs < app.statsHistogramMinimumNs),
      ["Histogram minimum and maximum values are invalid!"]⟩,
    ⟨configIsTcActive app .genericL2 &&
        decide ((app.classes .genericL2).protocolType = .etherCat) &&
        decide ((app.classes .genericL2).frameLength < sizeofEthhdr + sizeofEthercatHeader + 20),
      ["EtherCAT needs a minimum frame length of " ++
        toString (sizeofEthhdr + sizeofEthercatHeader + 20) ++ "!"]⟩]

/-- The lines printed on a refusal; `none` when the configuration passes. -/
def configSanityErrors (build : BuildConfig) (app : AppConfig) : Option (List String) :=
  ((sanityChecks build app).find? SanityCheck.failed).map SanityCheck.messages

def configSanityCheck (build : BuildConfig) (app : AppConfig) : Bool :=
  (configSanityErrors build app).isNone

/-- The room a class's headers take in a frame, as `config_sanity_check` counts it. -/
def minFrameSize (conf : TrafficClassConfig) : StatFrameType → Nat
  | .tsnHigh | .tsnLow | .rtc | .rta => profinetMinFrameSize conf
  | .dcp => minProfinetFrameSize
  | .lldp => sizeofEthhdr + sizeofReferenceMetaData
  | .udpHigh | .udpLow => sizeofReferenceMetaData
  | .genericL2 => sizeofVlanEthernetHeader + sizeofGenericL2Header

/-- `stat_frame_type_names`, before GenericL2 gets its configured name. -/
def statFrameTypeName : StatFrameType → String
  | .tsnHigh => "TsnHigh"
  | .tsnLow => "TsnLow"
  | .rtc => "Rtc"
  | .rta => "Rta"
  | .dcp => "Dcp"
  | .lldp => "Lldp"
  | .udpHigh => "UdpHigh"
  | .udpLow => "UdpLow"
  | .genericL2 => "GenericL2"

/-- What `config_set_defaults` stores for a class; the classes differ in these values only. -/
def defaultTrafficClass (mirrorEnabled xdpEnabled : Bool) (vid pcp : Int32) (frameLength : Nat)
    (l2Destination : MacAddress) : TrafficClassConfig where
  enabled := false
  rxMirrorEnabled := mirrorEnabled
  name := ""
  xdpEnabled := xdpEnabled
  xdpBusyPollMode := false
  txTimeEnabled := false
  txHwtstampEnabled := false
  ignoreRxErrors := false
  rxWorkloadSkipCount := 0
  etherType := 0
  vid := vid
  pcp := pcp
  numFramesPerCycle := 1
  -- "Payload! :-)"
  payloadPattern := ⟨[0x50, 0x61, 0x79, 0x6c, 0x6f, 0x61, 0x64, 0x21, 0x20, 0x3a, 0x2d, 0x29],
    by decide⟩
  frameLength := frameLength
  protocolType := .genericL2
  l2Destination := l2Destination
  securityMode := .none
  securityAlgorithm := .aes256Gcm
  securityKey := ⟨[], nul_not_mem_nil⟩
  securityIvPrefix := ⟨[], nul_not_mem_nil⟩

def defaultDestination : MacAddress := ⟨[0xa8, 0x74, 0x1d, 0x9d, 0x98, 0xd8], rfl⟩

def configSetDefaults (mirrorEnabled : Bool) : AppConfig where
  applicationClockId := .tai
  applicationBaseCycleTimeNs := 1000000
  applicationTxBaseOffsetNs := 800000
  applicationRxBaseOffsetNs := 300000
  classes
    | .tsnHigh => defaultTrafficClass mirrorEnabled true 0x101 6 128 defaultDestination
    | .tsnLow => defaultTrafficClass mirrorEnabled true 0x102 5 128 defaultDestination
    | .rtc => defaultTrafficClass mirrorEnabled true 0 4 128 defaultDestination
    | .rta => defaultTrafficClass mirrorEnabled true 0 3 200 defaultDestination
    | .dcp => defaultTrafficClass mirrorEnabled false 0 2 200
        ⟨[0x01, 0x0e, 0xcf, 0x00, 0x00, 0x00], rfl⟩
    | .lldp => defaultTrafficClass mirrorEnabled false 0 0 200
        ⟨[0x01, 0x80, 0xc2, 0x00, 0x00, 0x0e], rfl⟩
    | .udpHigh => defaultTrafficClass mirrorEnabled false 0 0 1400
        ⟨[0, 0, 0, 0, 0, 0], length_zeroAddress⟩
    | .udpLow => defaultTrafficClass mirrorEnabled false 0 0 1400
        ⟨[0, 0, 0, 0, 0, 0], length_zeroAddress⟩
    | .genericL2 =>
        { defaultTrafficClass mirrorEnabled false 100 6 128 defaultDestination with
          name := "GenericL2", etherType := 0xb62c }
  debugStopTraceOnOutlier := false
  statsHistogramEnabled := false
  statsHistogramMinimumNs := 1000000
  statsHistogramMaximumNs := 10000000
  statsCollectionIntervalNs := 1000000000
  logMqtt := false

def AppConfig.setClass (app : AppConfig) (type : StatFrameType)
    (f : TrafficClassConfig → TrafficClassConfig) : AppConfig :=
  { app with classes := fun t => if t = type then f (app.classes t) else app.classes t }

def fullBuild : BuildConfig where
  withMqtt := true
  rxTimestamp := true
  txTimestamp := true
  haveXdpTxTime := true
  haveBusyPoll := true
  sizeofXskTxMetadata := 24
  sizeofXskTxMetadata_eq := .inr rfl

variable {build : BuildConfig} {app : AppConfig} {conf : TrafficClassConfig}

/-- The defaults pass the check whatever the build supports. -/
theorem configSetDefaults_sane (build : BuildConfig) (mirrorEnabled : Bool) :
    configSanityCheck build (configSetDefaults mirrorEnabled) = true := by
  cases mirrorEnabled <;>
    simp [configSanityCheck, configSanityErrors, sanityChecks, configIsTcActive, anyTxHwtstamp,
      configSetDefaults, defaultTrafficClass, frameLengthCheck, configCheckKeys, maxFrameSize,
      profinetMinFrameSize, minProfinetFrameSize]

theorem configSanityCheck_all (h : configSanityCheck build app = true) :
    ∀ c ∈ sanityChecks build app, c.failed = false := by
  simp only [configSanityCheck, configSanityErrors, Option.isNone_map, Option.isNone_iff_eq_none,
    List.find?_eq_none] at h
  intro c hc
  exact Bool.eq_false_iff.mpr (h c hc)

theorem frameLengthCheck_passed (h : (frameLengthCheck conf minSize name).failed = false) :
    conf.frameLength ≤ maxFrameSize ∧
      minSize + conf.payloadPattern.bytes.length ≤ conf.frameLength := by
  simp only [frameLengthCheck, Bool.or_eq_false_iff, decide_eq_false_iff_not, Nat.not_lt] at h
  exact h

theorem frameLengthCheck_mem (build : BuildConfig) (app : AppConfig) (type : StatFrameType) :
    frameLengthCheck (app.classes type) (minFrameSize (app.classes type) type)
      (statFrameTypeName type) ∈ sanityChecks build app := by
  cases type <;>
    simp only [sanityChecks, minFrameSize, statFrameTypeName, List.mem_cons, true_or, or_true]

theorem configSanityCheck_frameLength (h : configSanityCheck build app = true)
    (type : StatFrameType) :
    (app.classes type).frameLength ≤ maxFrameSize ∧
      minFrameSize (app.classes type) type + (app.classes type).payloadPattern.bytes.length ≤
        (app.classes type).frameLength :=
  frameLengthCheck_passed (configSanityCheck_all h _ (frameLengthCheck_mem build app type))

theorem configCheckKeys_passed (h : (configCheckKeys name conf).failed = false)
    (hm : conf.securityMode ≠ .none) :
    conf.securityIvPrefix.bytes.length = securityIvPrefixLen := by
  simp only [configCheckKeys, if_neg hm] at h
  split at h
  · cases h
  · rename_i hp
    exact Decidable.not_not.mp hp

theorem configSanityCheck_ivLength (h : configSanityCheck build app = true)
    (ht : type = .tsnHigh ∨ type = .tsnLow ∨ type = .rtc ∨ type = .rta)
    (hm : (app.classes type).securityMode ≠ .none) :
    (app.classes type).securityIvPrefix.bytes.length = securityIvPrefixLen := by
  have hall := configSanityCheck_all h
  rcases ht with rfl | rfl | rfl | rfl
  · exact configCheckKeys_passed (hall (configCheckKeys "TsnHigh" _) (by simp [sanityChecks])) hm
  · exact configCheckKeys_passed (hall (configCheckKeys "TsnLow" _) (by simp [sanityChecks])) hm
  · exact configCheckKeys_passed (hall (configCheckKeys "Rtc" _) (by simp [sanityChecks])) hm
  · exact configCheckKeys_passed (hall (configCheckKeys "Rta" _) (by simp [sanityChecks])) hm

end RtcTestbench
