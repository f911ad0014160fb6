import RtcTestbench.ConfigFile
import RtcTestbench.StatRecord
import RtcTestbench.StatJson
import RtcTestbench.Timespec

namespace RtcTestbench
open Snprintf
set_option autoImplicit true

/-- The bytes of a name. -/
def nameBytes (name : String) : List UInt8 := name.toUTF8.data.toList

/-- What the logging threads read of the configuration. -/
structure LogConfig where
  stat : StatConfig
  rxWorkloadEnabled : StatFrameType → Bool
  workloadThreadCpusNum : StatFrameType → WorkloadThreadNum
  logJsonMeasurementName : CString
  logMqttMeasurementName : CString
  currentLogLevel : LogLevel
  genericL2Name_no_nul : 0 ∉ nameBytes (stat.app.classes .genericL2).name

/-- A copy of the statistics as the logging threads fetch it. -/
structure Snapshot where
  stats : StatFrameType → Statistics
  avgs : StatFrameType → StatAverages

def logBufferSize : Nat := 8 * 1024 * 1024

/-- The size of every buffer a message is composed in. -/
def messageSize : Nat := 4096

def LogLevel.rank : LogLevel → Nat
  | .error => 1
  | .warning => 2
  | .info => 3
  | .debug => 4

def logLevelToString : LogLevel → String
  | .debug => "DEBUG"
  | .info => "INFO"
  | .warning => "WARNING"
  | .error => "ERROR"

def configClassRxTimestampEnabled (build : BuildConfig) (type : StatFrameType) : Bool :=
  build.rxTimestamp && tcXdp.contains type

/-- A value of the statistics line with what stands behind it. -/
structure LogItem where
  what : List UInt8
  value : List UInt8
  ending : List UInt8

def LogItem.text (name : List UInt8) (item : LogItem) : List UInt8 :=
  name ++ (item.what ++ (cBytes "=" ++ (item.value ++ item.ending)))

def logCount (what : String) (value : UInt64) : LogItem :=
  ⟨cBytes what, decimal value.toNat, cBytes " | "⟩

def logTime (what : String) (value : UInt64) : LogItem :=
  ⟨cBytes what, decimal value.toNat, cBytes " [us] | "⟩

def logSignedTime (what : String) (value : Int64) : LogItem :=
  ⟨cBytes what, signedDecimal value.toInt, cBytes " [us] | "⟩

def logAverage (what : String) (value : Json.Numeral) : LogItem :=
  ⟨cBytes what, value.text, cBytes " [us] | "⟩

def printItems (name : List UInt8) (items : List LogItem) : Printer Errno Unit :=
  print (items.flatMap (LogItem.text name))

/-- The values a class has only under a condition. -/
def printItemsIf (cond : Bool) (name : List UInt8) (items : List LogItem) : Printer Errno Unit :=
  if cond then printItems name items else pure ()

section Items
variable (stat : Statistics) (avg : StatAverages)

def statItems : List LogItem :=
  [logCount "Sent" stat.framesSent, logCount "Received" stat.framesReceived,
    logTime "RttMin" stat.roundTripMin, logTime "RttMax" stat.roundTripMax,
    logAverage "RttAvg" avg.roundTripAvg, logSignedTime "OnewayMin" stat.onewayMin,
    logSignedTime "OnewayMax" stat.onewayMax, logAverage "OnewayAvg" avg.onewayAvg]

def procFirstItems : List LogItem :=
  [logTime "ProcFirstMin" stat.procFirstMin, logTime "ProcFirstMax" stat.procFirstMax,
    logAverage "ProcFirstAvg" avg.procFirstAvg,
    logCount "ProcFirstOutliers" stat.procFirstOutliers]

def procBatchItems : List LogItem :=
  [logTime "ProcBatchMin" stat.procBatchMin, logTime "ProcBatchMax" stat.procBatchMax,
    logAverage "ProcBatchAvg" avg.procBatchAvg,
    logCount "ProcBatchOutliers" stat.procBatchOutliers]

def rxHwtsItems : List LogItem :=
  [logTime "RxMin" stat.rxMin, logTime "RxMax" stat.rxMax, logAverage "RxAvg" avg.rxAvg,
    logTime "RxHw2SwMin" stat.rxHw2swMin, logTime "RxHw2SwMax" stat.rxHw2swMax,
    logAverage "RxHw2SwAvg" avg.rxHw2swAvg, logTime "RxSw2AppMin" stat.rxSw2appMin,
    logTime "RxSw2AppMax" stat.rxSw2appMax, logAverage "RxSw2AppAvg" avg.rxSw2appAvg]

def txHwtsItems : List LogItem :=
  [logTime "TxMin" stat.txMin, logTime "TxMax" stat.txMax, logAverage "TxAvg" avg.txAvg,
    logCount "TxHwTimestampMissing" stat.txHwTimestampMissing]

def outlierItems : List LogItem :=
  [logCount "RttOutliers" stat.roundTripOutliers, logCount "OnewayOutliers" stat.onewayOutliers]

/-- The values of one workload thread; with a single thread its id is not in their names. -/
def workloadItems (num : WorkloadThreadNum) (i : Fin workloadMax) : List LogItem :=
  let wl := stat.workload i
  let named := fun what =>
    if num = 1 then cBytes "RxWorkload" ++ cBytes what else workloadName i what
  [⟨named "Min", decimal wl.rxWorkloadMin.toNat, cBytes " [us] | "⟩,
    ⟨named "Max", decimal wl.rxWorkloadMax.toNat, cBytes " [us] | "⟩,
    ⟨named "Avg", (avg.rxWorkloadAvg i).text, cBytes " [us] | "⟩,
    ⟨named "Outliers", decimal wl.rxWorkloadOutliers.toNat, cBytes " | "⟩]

end Items

section Class
variable (cfg : LogConfig) (snap : Snapshot) (frameType : StatFrameType)

def LogConfig.className : List UInt8 :=
  nameBytes (statFrameTypeToString (cfg.stat.app.classes frameType) frameType)

def hasProcFirst : Bool :=
  cfg.stat.txHwtstampEnabled frameType && cfg.stat.build.rxTimestamp &&
    decide (0 < (snap.stats frameType).procFirstCount)

def hasProcBatch : Bool :=
  cfg.stat.txHwtstampEnabled frameType && cfg.stat.build.rxTimestamp &&
    decide (0 < (snap.stats frameType).procBatchCount)

def logAddStats (name : List UInt8) : Printer Errno Unit :=
  printItems name (statItems (snap.stats frameType) (snap.avgs frameType))

def logAddProcFirstStats (name : List UInt8) : Printer Errno Unit :=
  printItemsIf (hasProcFirst cfg snap frameType) name
    (procFirstItems (snap.stats frameType) (snap.avgs frameType))

def logAddProcBatchStats (name : List UInt8) : Printer Errno Unit :=
  printItemsIf (hasProcBatch cfg snap frameType) name
    (procBatchItems (snap.stats frameType) (snap.avgs frameType))

def logAddRxHwtsStats (name : List UInt8) : Printer Errno Unit :=
  printItemsIf (configClassRxTimestampEnabled cfg.stat.build frameType) name
    (rxHwtsItems (snap.stats frameType) (snap.avgs frameType))

def logAddTxHwtsStats (name : List UInt8) : Printer Errno Unit :=
  printItemsIf (cfg.stat.txHwtstampEnabled frameType) name
    (txHwtsItems (snap.stats frameType) (snap.avgs frameType))

def logAddOutlierStats (name : List UInt8) : Printer Errno Unit :=
  printItemsIf (statFrameTypeIsRealTime frameType) name (outlierItems (snap.stats frameType))

def logAddWorkloadStats (name : List UInt8) : Printer Errno Unit :=
  let num := cfg.workloadThreadCpusNum frameType
  let items := workloadItems (snap.stats frameType) (snap.avgs frameType) num
  if !cfg.rxWorkloadEnabled frameType then pure ()
  else if num = 1 then printItems name (items firstWorkloadThread)
  else (workloadIndices num).forM fun i => printItems name (items i)

def logAddTrafficClass (name : List UInt8) : Printer Errno Unit := do
  logAddStats snap frameType name
  logAddProcFirstStats cfg snap frameType name
  logAddProcBatchStats cfg snap frameType name
  logAddRxHwtsStats cfg snap frameType name
  logAddTxHwtsStats cfg snap frameType name
  logAddOutlierStats snap frameType name
  logAddWorkloadStats cfg snap frameType name

/-- The common part of `log_json_add_traffic_class` and `log_mqtt_add_traffic_class`: the message
that is sent, `none` when it could not be composed. -/
def logJsonMessage (measurement : CString) (stack : Memory) : Option (List UInt8) :=
  let run := statToJson (cfg.workloadThreadCpusNum frameType) (snap.stats frameType)
    (snap.avgs frameType) stack 0 messageSize (cfg.className frameType) measurement.bytes
  match run.1 with
  | .ok () => some (run.2.string 0 messageSize)
  | .error _ => none

def logJsonAddTrafficClass (stack : Memory) : Option (List UInt8) :=
  logJsonMessage cfg snap frameType cfg.logJsonMeasurementName stack

/-- The buffer of this one is zeroed first. -/
def logMqttAddTrafficClass : Option (List UInt8) :=
  logJsonMessage cfg snap frameType cfg.logMqttMeasurementName fun _ => 0

end Class

def logTimeStamp (level : LogLevel) (time : Timespec) : List UInt8 :=
  cBytes "[" ++ (zeroPadded 8 time.tvSec.toInt ++ (cBytes "." ++ (zeroPadded 9 time.tvNsec.toInt ++
    (cBytes "]: [" ++ (cBytes (logLevelToString level) ++ cBytes "]: ")))))

/-- What `log_message` adds to the ring buffer; `stack` is what its buffer holds before, `time` the
clock reading or zeros. -/
def logMessage (current level : LogLevel) (time : Timespec) (stack : Memory)
    (message : List UInt8) : Option (List UInt8) :=
  if current.rank < level.rank then none
  else
    let run := (do print (logTimeStamp level time); print message).run.run ⟨stack, 0, messageSize⟩
    match run.1 with
    | .ok () => some (run.2.memory.bytes 0 (messageSize - run.2.len))
    | .error _ => none

def activeClasses (cfg : LogConfig) : List StatFrameType :=
  statFrameTypes.filter (configIsTcActive cfg.stat.app)

/-- The loop over the classes in a period of the log thread. -/
def composeLine (cfg : LogConfig) (snap : Snapshot) : Bool × Cursor :=
  runAll ((activeClasses cfg).map fun frameType =>
    logAddTrafficClass cfg snap frameType (cfg.className frameType)) ⟨fun _ => 0, 0, messageSize⟩

/-- What a period of the log thread adds to the ring buffer. -/
def logThreadMessage (cfg : LogConfig) (snap : Snapshot) (time : Timespec) (stack : Memory) :
    Option (List UInt8) :=
  let line := composeLine cfg snap
  if line.1 then
    logMessage cfg.currentLogLevel .info time stack
      (line.2.memory.string 0 messageSize ++ cBytes "\n")
  else none

def logThreadPeriod (cfg : LogConfig) (snap : Snapshot) (time : Timespec) (stack : Memory)
    (rb : Option RingBuffer) : Option RingBuffer :=
  match logThreadMessage cfg snap time stack with
  | some message => ringBufferAdd rb message
  | none => rb

section Text
variable (cfg : LogConfig) (snap : Snapshot) (frameType : StatFrameType)

def itemsIf (cond : Bool) (items : List LogItem) : List LogItem := if cond then items else []

def classWorkloadItems : List LogItem :=
  let num := cfg.workloadThreadCpusNum frameType
  let items := workloadItems (snap.stats frameType) (snap.avgs frameType) num
  if !cfg.rxWorkloadEnabled frameType then []
  else if num = 1 then items firstWorkloadThread
  else (workloadIndices num).flatMap items

/-- The values of a class in the statistics line. -/
def classItems : List LogItem :=
  let stat := snap.stats frameType
  let avg := snap.avgs frameType
  statItems stat avg ++ (itemsIf (hasProcFirst cfg snap frameType) (procFirstItems stat avg) ++
    (itemsIf (hasProcBatch cfg snap frameType) (procBatchItems stat avg) ++
    (itemsIf (configClassRxTimestampEnabled cfg.stat.build frameType) (rxHwtsItems stat avg) ++
    (itemsIf (cfg.stat.txHwtstampEnabled frameType) (txHwtsItems stat avg) ++
    (itemsIf (statFrameTypeIsRealTime frameType) (outlierItems stat) ++
    classWorkloadItems cfg snap frameType)))))

def classText : List UInt8 :=
  (classItems cfg snap frameType).flatMap (LogItem.text (cfg.className frameType))

/-- The statistics line of all active classes. -/
def lineText : List UInt8 := (activeClasses cfg).flatMap (classText cfg snap)

end Text

section Prints
variable {cfg : LogConfig} {snap : Snapshot} {frameType : StatFrameType} {c : Cursor}

theorem prints_printItemsIf (cond : Bool) (name : List UInt8) (items : List LogItem)
    (hc : c.Terminated) :
    Prints Errno.einval (printItemsIf cond name items)
      ((itemsIf cond items).flatMap (LogItem.text name)) c := by
  cases cond with
  | false => exact prints_pure hc
  | true => exact prints_print _ c

theorem prints_workloadItems (name : List UInt8) (hc : c.Terminated) :
    Prints Errno.einval (logAddWorkloadStats cfg snap frameType name)
      ((classWorkloadItems cfg snap frameType).flatMap (LogItem.text name)) c := by
  simp only [logAddWorkloadStats, classWorkloadItems]
  split
  · exact prints_pure hc
  split
  · exact prints_print _ c
  · rw [List.flatMap_assoc]
    exact prints_forM (fun i _ d _ => prints_print _ d) hc

theorem prints_trafficClass (c : Cursor) :
    Prints Errno.einval (logAddTrafficClass cfg snap frameType (cfg.className frameType))
      (classText cfg snap frameType) c := by
  simp only [classText, classItems, List.flatMap_append]
  apply (prints_print _ c).bind
  intro d hd
  apply (prints_printItemsIf _ _ _ hd).bind
  intro d hd
  apply (prints_printItemsIf _ _ _ hd).bind
  intro d hd
  apply (prints_printItemsIf _ _ _ hd).bind
  intro d hd
  apply (prints_printItemsIf _ _ _ hd).bind
  intro d hd
  apply (prints_printItemsIf _ _ _ hd).bind
  intro d hd
  exact prints_workloadItems _ hd

/-- The classes are all composed when the whole line fits. -/
theorem composeLine_spec (cfg : LogConfig) (snap : Snapshot) :
    if (lineText cfg snap).length < messageSize then
      (composeLine cfg snap).1 = true ∧ (composeLine cfg snap).2.memory =
        Cursor.filled ⟨fun _ => 0, 0, messageSize⟩ (lineText cfg snap)
    else (composeLine cfg snap).1 = false := by
  have hstart : Cursor.Terminated ⟨fun _ => 0, 0, messageSize⟩ := ⟨by decide, rfl⟩
  have hclasses : ∀ t ∈ activeClasses cfg, ∀ d, d.Terminated →
      Prints Errno.einval (logAddTrafficClass cfg snap t (cfg.className t))
        (classText cfg snap t) d :=
    fun t _ d _ => prints_trafficClass d
  have hall := runAll_spec hclasses hstart
  change if (lineText cfg snap).length < messageSize then composeLine cfg snap = _
    else (composeLine cfg snap).1 = false at hall
  split at hall
  · rename_i fits
    rw [if_pos fits, hall]
    exact ⟨rfl, rfl⟩
  · rename_i full
    rw [if_neg full]
    exact hall

/-- `log_message` adds its time stamp and the message when both fit its buffer together. -/
theorem logMessage_spec (hlevel : level.rank ≤ current.rank) (time : Timespec) (stack : Memory)
    (message : List UInt8) :
    logMessage current level time stack message =
      if (logTimeStamp level time ++ message).length < messageSize then
        some (logTimeStamp level time ++ message)
      else none := by
  have hprints : Prints Errno.einval (do print (logTimeStamp level time); print message)
      (logTimeStamp level time ++ message) ⟨stack, 0, messageSize⟩ :=
    (prints_print _ _).bind fun d _ => prints_print message d
  rw [logMessage, if_neg (Nat.not_lt.mpr hlevel)]
  split
  · rename_i fits
    have hrun := hprints.run_eq fits
    have hlen : messageSize - (messageSize - (logTimeStamp level time ++ message).length) =
        (logTimeStamp level time ++ message).length := Nat.sub_sub_self fits.le
    simp only [hrun]
    change some ((Cursor.filled ⟨stack, 0, messageSize⟩ _).bytes 0
      (messageSize - (messageSize - _))) = _
    rw [hlen, filled_of_fits fits]
    exact congrArg some (bytes_store_append _ [0])
  · rename_i full
    rw [Prints, if_neg full] at hprints
    obtain ⟨d, hd, -⟩ := hprints
    simp only [hd]

end Prints

section Clean
variable {cfg : LogConfig} {snap : Snapshot} {frameType : StatFrameType}

def LogItem.Clean (item : LogItem) : Prop := 0 ∉ item.what ++ (item.value ++ item.ending)

theorem decimal_clean (n : Nat) : 0 ∉ decimal n := by
  intro h
  exact absurd (isDigit_decimal n 0 h) (by decide)

theorem numeral_clean (n : Json.Numeral) : 0 ∉ n.text := by
  intro h
  have := Json.number_numeric (Json.number_numeral n) 0 h
  simp [Json.IsNumeric, Strto.isDigit, Strto.digit] at this

theorem signedDecimal_clean (n : Int) : 0 ∉ signedDecimal n := by
  rw [signedDecimal]
  split
  · rw [List.mem_cons, not_or]
    exact ⟨by decide, decimal_clean _⟩
  · exact decimal_clean _

/-- An item is a string when its name and its value are. -/
theorem clean_item (hwhat : 0 ∉ what) (hvalue : 0 ∉ value)
    (hending : ending = " | " ∨ ending = " [us] | ") :
    LogItem.Clean ⟨what, value, cBytes ending⟩ := by
  have hend : 0 ∉ cBytes ending := by
    rcases hending with rfl | rfl <;> decide +kernel
  simp only [LogItem.Clean, List.mem_append, not_or]
  exact ⟨hwhat, hvalue, hend⟩

theorem clean_logCount (value : UInt64) (h : 0 ∉ cBytes what) : (logCount what value).Clean :=
  clean_item h (decimal_clean _) (.inl rfl)

theorem clean_logTime (value : UInt64) (h : 0 ∉ cBytes what) : (logTime what value).Clean :=
  clean_item h (decimal_clean _) (.inr rfl)

theorem clean_logSignedTime (value : Int64) (h : 0 ∉ cBytes what) :
    (logSignedTime what value).Clean :=
  clean_item h (signedDecimal_clean _) (.inr rfl)

theorem clean_logAverage (value : Json.Numeral) (h : 0 ∉ cBytes what) :
    (logAverage what value).Clean :=
  clean_item h (numeral_clean _) (.inr rfl)

theorem workloadItems_clean (stat : Statistics) (avg : StatAverages) (num : WorkloadThreadNum)
    (i : Fin workloadMax) : ∀ item ∈ workloadItems stat avg num i, item.Clean := by
  have hnamed (what : String) (h : 0 ∉ cBytes what) :
      0 ∉ if num = 1 then cBytes "RxWorkload" ++ cBytes what else workloadName i what := by
    have hfront : (0 : UInt8) ∉ cBytes "RxWorkload" := by decide +kernel
    split
    · simp only [List.mem_append, not_or]
      exact ⟨hfront, h⟩
    · simp only [workloadName, List.mem_append, not_or]
      exact ⟨⟨hfront, decimal_clean i⟩, h⟩
  simp only [workloadItems, List.forall_mem_cons]
  exact ⟨clean_item (hnamed _ (by decide +kernel)) (decimal_clean _) (.inr rfl),
    clean_item (hnamed _ (by decide +kernel)) (decimal_clean _) (.inr rfl),
    clean_item (hnamed _ (by decide +kernel)) (numeral_clean _) (.inr rfl),
    clean_item (hnamed _ (by decide +kernel)) (decimal_clean _) (.inl rfl), List.forall_mem_nil _⟩

theorem itemsIf_subset (cond : Bool) (items : List LogItem) : itemsIf cond items ⊆ items := by
  cases cond with
  | false => exact List.nil_subset items
  | true => exact List.Subset.refl items

theorem fixedItems_clean (stat : Statistics) (avg : StatAverages) :
    ∀ item ∈ statItems stat avg ++ (procFirstItems stat avg ++ (procBatchItems stat avg ++
      (rxHwtsItems stat avg ++ (txHwtsItems stat avg ++ outlierItems stat)))), item.Clean := by
  simp only [statItems, procFirstItems, procBatchItems, rxHwtsItems, txHwtsItems, outlierItems,
    List.cons_append, List.nil_append, List.forall_mem_cons]
  exact ⟨clean_logCount _ (by decide +kernel), clean_logCount _ (by decide +kernel),
    clean_logTime _ (by decide +kernel), clean_logTime _ (by decide +kernel),
    clean_logAverage _ (by decide +kernel), clean_logSignedTime _ (by decide +kernel),
    clean_logSignedTime _ (by decide +kernel), clean_logAverage _ (by decide +kernel),
    clean_logTime _ (by decide +kernel), clean_logTime _ (by decide +kernel),
    clean_logAverage _ (by decide +kernel), clean_logCount _ (by decide +kernel),
    clean_logTime _ (by decide +kernel), clean_logTime _ (by decide +kernel),
    clean_logAverage _ (by decide +kernel), clean_logCount _ (by decide +kernel),
    clean_logTime _ (by decide +kernel), clean_logTime _ (by decide +kernel),
    clean_logAverage _ (by decide +kernel), clean_logTime _ (by decide +kernel),
    clean_logTime _ (by decide +kernel), clean_logAverage _ (by decide +kernel),
    clean_logTime _ (by decide +kernel), clean_logTime _ (by decide +kernel),
    clean_logAverage _ (by decide +kernel), clean_logTime _ (by decide +kernel),
    clean_logTime _ (by decide +kernel), clean_logAverage _ (by decide +kernel),
    clean_logCount _ (by decide +kernel), clean_logCount _ (by decide +kernel),
    clean_logCount _ (by decide +kernel), nofun⟩

theorem classWorkloadItems_clean : ∀ item ∈ classWorkloadItems cfg snap frameType, item.Clean := by
  intro item h
  simp only [classWorkloadItems] at h
  split at h
  · cases h
  split at h
  · exact workloadItems_clean _ _ _ _ item h
  · obtain ⟨i, -, h⟩ := List.mem_flatMap.mp h
    exact workloadItems_clean _ _ _ _ item h

theorem classItems_clean : ∀ item ∈ classItems cfg snap frameType, item.Clean := by
  intro item h
  have hfixed := fixedItems_clean (snap.stats frameType) (snap.avgs frameType) item
  simp only [List.mem_append] at hfixed
  simp only [classItems, List.mem_append] at h
  rcases h with h | h | h | h | h | h | h
  · exact hfixed (.inl h)
  · exact hfixed (.inr (.inl (itemsIf_subset _ _ h)))
  · exact hfixed (.inr (.inr (.inl (itemsIf_subset _ _ h))))
  · exact hfixed (.inr (.inr (.inr (.inl (itemsIf_subset _ _ h)))))
  · exact hfixed (.inr (.inr (.inr (.inr (.inl (itemsIf_subset _ _ h))))))
  · exact hfixed (.inr (.inr (.inr (.inr (.inr (itemsIf_subset _ _ h))))))
  · exact classWorkloadItems_clean item h

theorem className_clean (cfg : LogConfig) (frameType : StatFrameType) :
    0 ∉ cfg.className frameType := by
  rw [LogConfig.className, statFrameTypeToString]
  split
  · rename_i hl2
    subst hl2
    exact cfg.genericL2Name_no_nul
  · cases frameType <;> decide +kernel

theorem lineText_clean (cfg : LogConfig) (snap : Snapshot) : 0 ∉ lineText cfg snap := by
  intro h
  obtain ⟨frameType, -, h⟩ := List.mem_flatMap.mp h
  obtain ⟨item, hitem, h⟩ := List.mem_flatMap.mp h
  have hclean := classItems_clean item hitem
  simp only [LogItem.Clean, List.mem_append, not_or] at hclean
  simp only [LogItem.text, List.mem_append] at h
  rcases h with h | h | h | h | h
  · exact className_clean cfg frameType h
  · exact hclean.1 h
  · exact absurd h (by decide +kernel)
  · exact hclean.2.1 h
  · exact hclean.2.2 h

end Clean

section Sizes
variable (cfg : LogConfig) (snap : Snapshot)

/-- The length of a report: its fixed text, the names and the digits of every value. -/
def jsonSize (num : WorkloadThreadNum) (stat : Statistics) (avg : StatAverages)
    (tc measurement : List UInt8) : Nat :=
  109 + (decimal stat.timeStamp.toNat).length + measurement.length + tc.length +
    ((statFields num stat avg).map fun f => f.key.length + f.text.length + 6).sum +
    (decimal stat.onewayOutliers.toNat).length

/-- The length of the statistics line. -/
def lineSize : Nat :=
  ((activeClasses cfg).map fun frameType => ((classItems cfg snap frameType).map fun item =>
    (cfg.className frameType).length + item.what.length + 1 + item.value.length +
      item.ending.length).sum).sum

/-- The length of the time stamp of an `INFO` message. -/
def timeStampSize (time : Timespec) : Nat :=
  13 + (zeroPadded 8 time.tvSec.toInt).length + (zeroPadded 9 time.tvNsec.toInt).length

theorem length_jsonText (num : WorkloadThreadNum) (stat : Statistics) (avg : StatAverages)
    (tc measurement : List UInt8) :
    (jsonText num stat avg tc measurement).length = jsonSize num stat avg tc measurement := by
  have hline (f : JsonField) : f.line.length = f.key.length + f.text.length + 6 := by
    simp only [JsonField.line, jlogName, List.length_append]
    have h1 : (cBytes "\"").length = 1 := rfl
    have h2 : (cBytes "\": ").length = 3 := rfl
    have h3 : (cBytes ",\n").length = 2 := rfl
    omega
  have hheader : (jsonHeader stat tc measurement).length =
      (decimal stat.timeStamp.toNat).length + measurement.length + tc.length + 84 := by
    simp only [jsonHeader, List.length_append]
    have h1 : (cBytes "\x7b\"testbench\" :\n\x7b\"Timestamp\" : ").length = 30 := rfl
    have h2 : (cBytes ",\n\"MeasurementName\" : \"").length = 23 := rfl
    have h3 : (cBytes "\",\n\"stats\" : \n\x7b\n\"TCName\" : \"").length = 28 := rfl
    have h4 : (cBytes "\",\n").length = 3 := rfl
    omega
  have hlast : (lastField stat).lastLine.length =
      (decimal stat.onewayOutliers.toNat).length + 19 := by
    simp only [JsonField.lastLine, jlogName, List.length_append]
    have h1 : (cBytes "\"").length = 1 := rfl
    have h2 : (cBytes "\": ").length = 3 := rfl
    have h3 : (cBytes "\n").length = 1 := rfl
    have h4 : (lastField stat).key.length = 14 := rfl
    have h5 : (lastField stat).text = decimal stat.onewayOutliers.toNat := rfl
    rw [h5]
    omega
  have hfooter : jsonFooter.length = 6 := rfl
  rw [jsonText, jsonSize]
  simp only [List.length_append, List.length_flatMap, hline]
  omega

theorem length_lineText : (lineText cfg snap).length = lineSize cfg snap := by
  have hitem (name : List UInt8) (item : LogItem) : (item.text name).length =
      name.length + item.what.length + 1 + item.value.length + item.ending.length := by
    simp only [LogItem.text, List.length_append]
    have h : (cBytes "=").length = 1 := rfl
    omega
  simp only [lineText, lineSize, classText, List.length_flatMap, hitem]

theorem length_logTimeStamp (time : Timespec) :
    (logTimeStamp .info time).length = timeStampSize time := by
  simp only [logTimeStamp, timeStampSize, List.length_append]
  have h1 : (cBytes "[").length = 1 := rfl
  have h2 : (cBytes ".").length = 1 := rfl
  have h3 : (cBytes "]: [").length = 4 := rfl
  have h4 : (cBytes (logLevelToString .info)).length = 4 := rfl
  have h5 : (cBytes "]: ").length = 3 := rfl
  omega

end Sizes

section Reports
variable {cfg : LogConfig} {snap : Snapshot} {frameType : StatFrameType}

theorem logJsonMessage_isSome (measurement : CString) (stack : Memory) :
    (logJsonMessage cfg snap frameType measurement stack).isSome = true ↔
      jsonSize (cfg.workloadThreadCpusNum frameType) (snap.stats frameType) (snap.avgs frameType)
        (cfg.className frameType) measurement.bytes < messageSize := by
  have hprints : Prints Errno.einval
      (printJson (cfg.workloadThreadCpusNum frameType) (snap.stats frameType)
        (snap.avgs frameType) (cfg.className frameType) measurement.bytes) _
      ⟨stack, 0, messageSize⟩ := prints_json (cfg.className frameType) measurement.bytes _
  have hok := hprints.isOk_iff
  rw [length_jsonText] at hok
  apply Iff.trans _ hok
  simp only [logJsonMessage, statToJson]
  split <;> simp_all

/-- The message of a period: the time stamp, the line and its end. -/
def reportMessage (cfg : LogConfig) (snap : Snapshot) (time : Timespec) : List UInt8 :=
  logTimeStamp .info time ++ (lineText cfg snap ++ cBytes "\n")

theorem length_reportMessage (cfg : LogConfig) (snap : Snapshot) (time : Timespec) :
    (reportMessage cfg snap time).length = timeStampSize time + lineSize cfg snap + 1 := by
  have h : (cBytes "\n").length = 1 := rfl
  rw [reportMessage, List.length_append, List.length_append, length_logTimeStamp, length_lineText,
    h, Nat.add_assoc]

theorem logThreadMessage_spec (hlevel : LogLevel.info.rank ≤ cfg.currentLogLevel.rank)
    (snap : Snapshot) (time : Timespec) (stack : Memory) :
    logThreadMessage cfg snap time stack =
      if (reportMessage cfg snap time).length < messageSize then some (reportMessage cfg snap time)
      else none := by
  have hline := composeLine_spec cfg snap
  have hlong : (lineText cfg snap).length < (reportMessage cfg snap time).length := by
    rw [length_reportMessage, length_lineText]
    omega
  rw [logThreadMessage]
  by_cases fits : (lineText cfg snap).length < messageSize
  · rw [if_pos fits] at hline
    have hstring : (composeLine cfg snap).2.memory.string 0 messageSize = lineText cfg snap := by
      rw [hline.2, filled_of_fits fits]
      exact string_store (lineText_clean cfg snap) fits
    simp only [hline.1, if_true, hstring]
    exact logMessage_spec hlevel time stack _
  · rw [if_neg fits] at hline
    rw [if_neg (by omega : ¬ (reportMessage cfg snap time).length < messageSize)]
    simp only [hline, Bool.false_eq_true, if_false]

/-- Every report of a period is delivered: the JSON loggers compose their messages for all active
classes, and the statistics line goes to the log ring buffer as a whole. -/
structure ReportsKept (cfg : LogConfig) (global period : Snapshot) (time : Timespec)
    (stack : Memory) : Prop where
  json : ∀ frameType, configIsTcActive cfg.stat.app frameType = true →
    (logJsonAddTrafficClass cfg global frameType stack).isSome = true
  mqtt : ∀ frameType, configIsTcActive cfg.stat.app frameType = true →
    (logMqttAddTrafficClass cfg period frameType).isSome = true
  line : logThreadMessage cfg global time stack = some (reportMessage cfg global time)

/-- The texts fit the buffers they are composed in. -/
structure ReportsFit (cfg : LogConfig) (global period : Snapshot) (time : Timespec) : Prop where
  json : ∀ frameType, configIsTcActive cfg.stat.app frameType = true →
    jsonSize (cfg.workloadThreadCpusNum frameType) (global.stats frameType)
      (global.avgs frameType) (cfg.className frameType) cfg.logJsonMeasurementName.bytes <
      messageSize
  mqtt : ∀ frameType, configIsTcActive cfg.stat.app frameType = true →
    jsonSize (cfg.workloadThreadCpusNum frameType) (period.stats frameType)
      (period.avgs frameType) (cfg.className frameType) cfg.logMqttMeasurementName.bytes <
      messageSize
  line : timeStampSize time + lineSize cfg global + 1 < messageSize

theorem reports_kept_iff (cfg : LogConfig) (global period : Snapshot) (time : Timespec)
    (stack : Memory) (hlevel : cfg.currentLogLevel = .info ∨ cfg.currentLogLevel = .debug) :
    ReportsKept cfg global period time stack ↔ ReportsFit cfg global period time := by
  have hrank : LogLevel.info.rank ≤ cfg.currentLogLevel.rank := by
    rcases hlevel with h | h
    · rw [h]
    · rw [h]
      decide
  have hmessage := logThreadMessage_spec hrank global time stack
  rw [length_reportMessage] at hmessage
  constructor
  · intro h
    refine ⟨fun t ht => (logJsonMessage_isSome _ _).mp (h.json t ht),
      fun t ht => (logJsonMessage_isSome _ _).mp (h.mqtt t ht), ?_⟩
    by_contra hfull
    rw [if_neg hfull, h.line] at hmessage
    cases hmessage
  · intro h
    refine ⟨fun t ht => (logJsonMessage_isSome _ _).mpr (h.json t ht),
      fun t ht => (logJsonMessage_isSome _ _).mpr (h.mqtt t ht), ?_⟩
    rw [hmessage, if_pos h.line]

end Reports

/-- One class with the given number of workload threads; all else as `config_set_defaults` has
it. -/
def workloadLogConfig (num : WorkloadThreadNum) : LogConfig where
  stat := ⟨fullBuild, (configSetDefaults false).setClass .tsnHigh fun conf =>
    { conf with enabled := true }, .reference⟩
  rxWorkloadEnabled := fun frameType => frameType = .tsnHigh
  workloadThreadCpusNum := fun frameType => if frameType = .tsnHigh then num else 0
  logJsonMeasurementName := ⟨cBytes "reference", by decide +kernel⟩
  logMqttMeasurementName := ⟨cBytes "reference", by decide +kernel⟩
  currentLogLevel := .debug
  genericL2Name_no_nul := by decide +kernel

def freshSnapshot : Snapshot := ⟨fun _ => statReset, fun _ => zeroAverages⟩

/-- With four workload threads all reports are delivered. -/
theorem reports_kept_four :
    ReportsKept (workloadLogConfig 4) freshSnapshot freshSnapshot ⟨1000, 5⟩ fun _ => 0 := by
  apply (reports_kept_iff (workloadLogConfig 4) freshSnapshot freshSnapshot ⟨1000, 5⟩ (fun _ => 0)
    (.inr rfl)).mpr
  refine ⟨?_, ?_, by decide +kernel⟩
  · intro frameType h
    cases frameType with
    | tsnHigh => decide +kernel
    | _ => cases h
  · intro frameType h
    cases frameType with
    | tsnHigh => decide +kernel
    | _ => cases h

/-- With 32 workload threads the JSON reports are dropped from the first period on. -/
theorem reports_dropped :
    configSanityCheck (workloadLogConfig 32).stat.build (workloadLogConfig 32).stat.app = true ∧
      ∃ s s', statInit (workloadLogConfig 32).stat = some s ∧
        [StatCall.update 1, .update 1000000001].foldlM (statStep (workloadLogConfig 32).stat) s =
          some s' ∧
        ¬ ReportsKept (workloadLogConfig 32) ⟨s'.globalStatisticsForLog, fun _ => zeroAverages⟩
          ⟨s'.statisticsPerPeriodForLog, fun _ => zeroAverages⟩ ⟨1000, 5⟩ fun _ => 0 := by
  refine ⟨by decide +kernel, _, _, by rw [statInit, if_neg (by decide +kernel)], rfl, ?_⟩
  intro h
  have hfits := (logJsonMessage_isSome _ _).mp (h.json .tsnHigh rfl)
  exact absurd hfits (by decide +kernel)

end RtcTestbench
