import RtcTestbench.ConfigValue
import RtcTestbench.Lib.Json

namespace RtcTestbench
open Snprintf
set_option autoImplicit true

/-- The averages of `struct statistics` as `%lf` prints them. -/
structure StatAverages where
  roundTripAvg : Json.Numeral
  onewayAvg : Json.Numeral
  procFirstAvg : Json.Numeral
  procBatchAvg : Json.Numeral
  rxAvg : Json.Numeral
  rxHw2swAvg : Json.Numeral
  rxSw2appAvg : Json.Numeral
  rxWorkloadAvg : Fin workloadMax → Json.Numeral
  txAvg : Json.Numeral

/-- `%lf` of zero. -/
def zeroNumeral : Json.Numeral := ⟨cBytes "0.000000", rfl⟩

def zeroAverages : StatAverages where
  roundTripAvg := zeroNumeral
  onewayAvg := zeroNumeral
  procFirstAvg := zeroNumeral
  procBatchAvg := zeroNumeral
  rxAvg := zeroNumeral
  rxHw2swAvg := zeroNumeral
  rxSw2appAvg := zeroNumeral
  rxWorkloadAvg := fun _ => zeroNumeral
  txAvg := zeroNumeral

/-- A number of workload threads a class can have. -/
abbrev WorkloadThreadNum := Fin (workloadMax + 1)

instance (priority := 2000) instNeZeroWorkloadThreadNum :
    @NeZero Nat Zero.ofOfNat0 (workloadMax + 1) := ⟨Nat.succ_ne_zero _⟩

/-- The workload threads of a class as indices of its statistics. -/
def workloadIndices (num : WorkloadThreadNum) : List (Fin workloadMax) :=
  (List.finRange num).map fun i => i.castLE (Nat.le_of_lt_succ num.isLt)

def firstWorkloadThread : Fin workloadMax := ⟨0, by decide⟩

def snprintfErrHandling (ret : Nat) : Printer Errno Unit := do
  let c ← getThe Cursor
  if c.len ≤ ret then throw .einval else set (c.advance ret)

/-- A call of `snprintf` with the handling of its result. -/
def print (text : List UInt8) : Printer Errno Unit := do
  let ret ← snprintf text
  snprintfErrHandling ret

/-- `"\"%s\": "` with the name of a value. -/
def jlogName (stat : List UInt8) : List UInt8 := cBytes "\"" ++ stat ++ cBytes "\": "

def appendJlogU64 (stat : String) (value : UInt64) : Printer Errno Unit :=
  print (jlogName (cBytes stat) ++ decimal value.toNat ++ cBytes ",\n")

def appendJlogI64 (stat : String) (value : Int64) : Printer Errno Unit :=
  print (jlogName (cBytes stat) ++ signedDecimal value.toInt ++ cBytes ",\n")

def lastJlogU64 (stat : String) (value : UInt64) : Printer Errno Unit :=
  print (jlogName (cBytes stat) ++ decimal value.toNat ++ cBytes "\n")

def appendJlogFloat (stat : String) (value : Json.Numeral) : Printer Errno Unit :=
  print (jlogName (cBytes stat) ++ value.text ++ cBytes ",\n")

/-- A name with the workload id in it. -/
def workloadName (i : Fin workloadMax) (what : String) : List UInt8 :=
  cBytes "RxWorkload" ++ decimal i ++ cBytes what

section Report
variable (num : WorkloadThreadNum) (stat : Statistics) (avg : StatAverages)

def appendJlogWorkloadStats : Printer Errno Unit :=
  if num = 1 then do
    appendJlogU64 "RxWorkloadMin" (stat.workload firstWorkloadThread).rxWorkloadMin
    appendJlogU64 "RxWorkloadMax" (stat.workload firstWorkloadThread).rxWorkloadMax
    appendJlogFloat "RxWorkloadAv" (avg.rxWorkloadAvg firstWorkloadThread)
    appendJlogU64 "RxWorkloadOutliers" (stat.workload firstWorkloadThread).rxWorkloadOutliers
  else (workloadIndices num).forM fun i => do
    print (jlogName (workloadName i "Min") ++ decimal (stat.workload i).rxWorkloadMin.toNat ++
      cBytes ",\n")
    print (jlogName (workloadName i "Max") ++ decimal (stat.workload i).rxWorkloadMax.toNat ++
      cBytes ",\n")
    print (jlogName (workloadName i "Av") ++ (avg.rxWorkloadAvg i).text ++ cBytes ",\n")
    print (jlogName (workloadName i "Outliers") ++
      decimal (stat.workload i).rxWorkloadOutliers.toNat ++ cBytes ",\n")

def jsonHeader (tc measurement : List UInt8) : List UInt8 :=
  cBytes "\x7b\"testbench\" :\n\x7b\"Timestamp\" : " ++ decimal stat.timeStamp.toNat ++
    cBytes ",\n\"MeasurementName\" : \"" ++ measurement ++
    cBytes "\",\n\"stats\" : \n\x7b\n\"TCName\" : \"" ++ tc ++ cBytes "\",\n"

def jsonFooter : List UInt8 := cBytes "\x7d\n\x7d\n\x7d\n"

/-- The body of `stat_to_json`. -/
def printJson (tc measurement : List UInt8) : Printer Errno Unit := do
  print (jsonHeader stat tc measurement)
  appendJlogU64 "FramesSent" stat.framesSent
  appendJlogU64 "FramesReceived" stat.framesReceived
  appendJlogU64 "RoundTripTimeMin" stat.roundTripMin
  appendJlogU64 "RoundTripMax" stat.roundTripMax
  appendJlogFloat "RoundTripAv" avg.roundTripAvg
  appendJlogI64 "OnewayMin" stat.onewayMin
  appendJlogI64 "OnewayMax" stat.onewayMax
  appendJlogFloat "OnewayAv" avg.onewayAvg
  appendJlogU64 "ProcFirstMin" stat.procFirstMin
  appendJlogU64 "ProcFirstMax" stat.procFirstMax
  appendJlogFloat "ProcFirstAv" avg.procFirstAvg
  appendJlogU64 "ProcFirstOutliers" stat.procFirstOutliers
  appendJlogU64 "ProcBatchMin" stat.procBatchMin
  appendJlogU64 "ProcBatchMax" stat.procBatchMax
  appendJlogFloat "ProcBatchAv" avg.procBatchAvg
  appendJlogU64 "ProcBatchOutliers" stat.procBatchOutliers
  appendJlogU64 "RxMin" stat.rxMin
  appendJlogU64 "RxMax" stat.rxMax
  appendJlogFloat "RxAv" avg.rxAvg
  appendJlogU64 "RxHw2SwMin" stat.rxHw2swMin
  appendJlogU64 "RxHw2SwMax" stat.rxHw2swMax
  appendJlogFloat "RxHw2SwAv" avg.rxHw2swAvg
  appendJlogU64 "RxSw2AppMin" stat.rxSw2appMin
  appendJlogU64 "RxSw2AppMax" stat.rxSw2appMax
  appendJlogFloat "RxSw2AppAv" avg.rxSw2appAvg
  appendJlogWorkloadStats num stat avg
  appendJlogU64 "TxMin" stat.txMin
  appendJlogU64 "TxMax" stat.txMax
  appendJlogFloat "TxAv" avg.txAvg
  appendJlogU64 "TxHwTimestampMissing" stat.txHwTimestampMissing
  appendJlogU64 "OutofOrderErrors" stat.outOfOrderErrors
  appendJlogU64 "FrameIdErrors" stat.frameIdErrors
  appendJlogU64 "PayloadErrors" stat.payloadErrors
  appendJlogU64 "RoundTripOutliers" stat.roundTripOutliers
  lastJlogU64 "OnewayOutliers" stat.onewayOutliers
  print jsonFooter

/-- `stat_to_json` into the `len` bytes at `json`. -/
def statToJson (memory : Memory) (json len : Nat) (tc measurement : List UInt8) :
    Except Errno Unit × Memory :=
  let run := (printJson num stat avg tc measurement).run.run ⟨memory, json, len⟩
  (run.1, run.2.memory)

end Report

/-- A value of a report: its name, the text it is printed as and the number that text stands for. -/
structure JsonField where
  key : List UInt8
  text : List UInt8
  value : Json.Number
  text_eq : Json.number text = some value

def u64FieldOf (key : List UInt8) (value : UInt64) : JsonField :=
  ⟨key, decimal value.toNat, ⟨value.toNat, 0⟩, Json.number_decimal _⟩

def floatFieldOf (key : List UInt8) (value : Json.Numeral) : JsonField :=
  ⟨key, value.text, value.value, Json.number_numeral value⟩

def u64Field (key : String) (value : UInt64) : JsonField := u64FieldOf (cBytes key) value

def i64Field (key : String) (value : Int64) : JsonField :=
  ⟨cBytes key, signedDecimal value.toInt, ⟨value.toInt, 0⟩, Json.number_signedDecimal _⟩

def floatField (key : String) (value : Json.Numeral) : JsonField := floatFieldOf (cBytes key) value

def JsonField.line (f : JsonField) : List UInt8 := jlogName f.key ++ f.text ++ cBytes ",\n"

def JsonField.lastLine (f : JsonField) : List UInt8 := jlogName f.key ++ f.text ++ cBytes "\n"

section Text
variable (num : WorkloadThreadNum) (stat : Statistics) (avg : StatAverages)

def workloadFields : List JsonField :=
  if num = 1 then
    [u64Field "RxWorkloadMin" (stat.workload firstWorkloadThread).rxWorkloadMin,
      u64Field "RxWorkloadMax" (stat.workload firstWorkloadThread).rxWorkloadMax,
      floatField "RxWorkloadAv" (avg.rxWorkloadAvg firstWorkloadThread),
      u64Field "RxWorkloadOutliers" (stat.workload firstWorkloadThread).rxWorkloadOutliers]
  else (workloadIndices num).flatMap fun i =>
    [u64FieldOf (workloadName i "Min") (stat.workload i).rxWorkloadMin,
      u64FieldOf (workloadName i "Max") (stat.workload i).rxWorkloadMax,
      floatFieldOf (workloadName i "Av") (avg.rxWorkloadAvg i),
      u64FieldOf (workloadName i "Outliers") (stat.workload i).rxWorkloadOutliers]

def rxFields : List JsonField :=
  [u64Field "FramesSent" stat.framesSent, u64Field "FramesReceived" stat.framesReceived,
    u64Field "RoundTripTimeMin" stat.roundTripMin, u64Field "RoundTripMax" stat.roundTripMax,
    floatField "RoundTripAv" avg.roundTripAvg, i64Field "OnewayMin" stat.onewayMin,
    i64Field "OnewayMax" stat.onewayMax, floatField "OnewayAv" avg.onewayAvg,
    u64Field "ProcFirstMin" stat.procFirstMin, u64Field "ProcFirstMax" stat.procFirstMax,
    floatField "ProcFirstAv" avg.procFirstAvg,
    u64Field "ProcFirstOutliers" stat.procFirstOutliers,
    u64Field "ProcBatchMin" stat.procBatchMin, u64Field "ProcBatchMax" stat.procBatchMax,
    floatField "ProcBatchAv" avg.procBatchAvg,
    u64Field "ProcBatchOutliers" stat.procBatchOutliers, u64Field "RxMin" stat.rxMin,
    u64Field "RxMax" stat.rxMax, floatField "RxAv" avg.rxAvg,
    u64Field "RxHw2SwMin" stat.rxHw2swMin, u64Field "RxHw2SwMax" stat.rxHw2swMax,
    floatField "RxHw2SwAv" avg.rxHw2swAvg, u64Field "RxSw2AppMin" stat.rxSw2appMin,
    u64Field "RxSw2AppMax" stat.rxSw2appMax, floatField "RxSw2AppAv" avg.rxSw2appAvg]

def txFields : List JsonField :=
  [u64Field "TxMin" stat.txMin, u64Field "TxMax" stat.txMax, floatField "TxAv" avg.txAvg,
    u64Field "TxHwTimestampMissing" stat.txHwTimestampMissing,
    u64Field "OutofOrderErrors" stat.outOfOrderErrors,
    u64Field "FrameIdErrors" stat.frameIdErrors, u64Field "PayloadErrors" stat.payloadErrors,
    u64Field "RoundTripOutliers" stat.roundTripOutliers]

/-- The values of a report but the last. -/
def statFields : List JsonField :=
  rxFields stat avg ++ (workloadFields num stat avg ++ txFields stat avg)

def lastField : JsonField := u64Field "OnewayOutliers" stat.onewayOutliers

/-- The complete text of a report. -/
def jsonText (tc measurement : List UInt8) : List UInt8 :=
  jsonHeader stat tc measurement ++
    ((statFields num stat avg).flatMap JsonField.line ++ ((lastField stat).lastLine ++ jsonFooter))

end Text

def JsonField.member (f : JsonField) : List UInt8 × Json.Value := (f.key, .number f.value)

/-- The names of the values in a report. -/
def statKeys (num : WorkloadThreadNum) (stat : Statistics) (avg : StatAverages) :
    List (List UInt8) :=
  cBytes "TCName" :: (statFields num stat avg ++ [lastField stat]).map JsonField.key

/-- What a report says. -/
def statDocument (num : WorkloadThreadNum) (stat : Statistics) (avg : StatAverages)
    (tc measurement : List UInt8) : Json.Value :=
  .object [(cBytes "testbench", .object [
    (cBytes "Timestamp", .number ⟨stat.timeStamp.toNat, 0⟩),
    (cBytes "MeasurementName", .string measurement),
    (cBytes "stats", .object ((cBytes "TCName", .string tc) ::
      (statFields num stat avg ++ [lastField stat]).map JsonField.member))])]

section Prints
variable {num : WorkloadThreadNum} {stat : Statistics} {avg : StatAverages} {c : Cursor}

theorem run_print (text : List UInt8) (c : Cursor) :
    (print text).run.run c =
      if c.len ≤ text.length then (.error .einval, { c with memory := c.filled text })
      else (.ok (), { c with memory := c.filled text }.advance text.length) := by
  change (if c.len ≤ text.length then _ else _ : Printer Errno Unit) _ = _
  split <;> rfl

theorem prints_print (text : List UInt8) (c : Cursor) :
    Prints Errno.einval (print text) text c := by
  rw [Prints, run_print]
  by_cases fits : text.length < c.len
  · rw [if_pos fits, if_neg (Nat.not_le.mpr fits)]
  · rw [if_neg fits, if_pos (Nat.not_lt.mp fits)]
    exact ⟨_, rfl, rfl⟩

theorem appendJlogU64_eq (key : String) (value : UInt64) :
    appendJlogU64 key value = print (u64Field key value).line := rfl

theorem appendJlogI64_eq (key : String) (value : Int64) :
    appendJlogI64 key value = print (i64Field key value).line := rfl

theorem appendJlogFloat_eq (key : String) (value : Json.Numeral) :
    appendJlogFloat key value = print (floatField key value).line := rfl

def printLines (fields : List JsonField) : Printer Errno Unit :=
  fields.forM fun field => print field.line

theorem prints_printLines (fields : List JsonField) (hc : c.Terminated) :
    Prints Errno.einval (printLines fields) (fields.flatMap JsonField.line) c :=
  prints_forM (fun field _ d _ => prints_print field.line d) hc

theorem appendJlogWorkloadStats_eq :
    appendJlogWorkloadStats num stat avg =
      if num = 1 then printLines (workloadFields num stat avg)
      else (workloadIndices num).forM fun i => printLines [
        u64FieldOf (workloadName i "Min") (stat.workload i).rxWorkloadMin,
        u64FieldOf (workloadName i "Max") (stat.workload i).rxWorkloadMax,
        floatFieldOf (workloadName i "Av") (avg.rxWorkloadAvg i),
        u64FieldOf (workloadName i "Outliers") (stat.workload i).rxWorkloadOutliers] := by
  rw [appendJlogWorkloadStats]
  split
  · rename_i hnum
    simp only [workloadFields, if_pos hnum, printLines, List.forM, appendJlogU64_eq,
      appendJlogFloat_eq, bind_pure_unit]
  · simp only [printLines, List.forM, bind_pure_unit]
    rfl

theorem printJson_eq (tc measurement : List UInt8) :
    printJson num stat avg tc measurement = (do
      print (jsonHeader stat tc measurement)
      printLines (rxFields stat avg)
      appendJlogWorkloadStats num stat avg
      printLines (txFields stat avg)
      print (lastField stat).lastLine
      print jsonFooter) := by
  simp only [printJson, printLines, rxFields, txFields, List.forM, bind_assoc, pure_bind,
    appendJlogU64_eq, appendJlogI64_eq, appendJlogFloat_eq]
  rfl

theorem prints_workload (hc : c.Terminated) :
    Prints Errno.einval (appendJlogWorkloadStats num stat avg)
      ((workloadFields num stat avg).flatMap JsonField.line) c := by
  rw [appendJlogWorkloadStats_eq]
  split
  · exact prints_printLines _ hc
  · rename_i hnum
    rw [workloadFields, if_neg hnum, List.flatMap_assoc]
    exact prints_forM (fun i _ d hd => prints_printLines _ hd) hc

/-- The appends of `stat_to_json` together are one print of the complete text. -/
theorem prints_json (tc measurement : List UInt8) (c : Cursor) :
    Prints Errno.einval (printJson num stat avg tc measurement)
      (jsonText num stat avg tc measurement) c := by
  rw [printJson_eq, jsonText, statFields, List.flatMap_append, List.flatMap_append,
    List.append_assoc, List.append_assoc]
  apply (prints_print _ c).bind
  intro d hd
  apply (prints_printLines _ hd).bind
  intro d hd
  apply (prints_workload hd).bind
  intro d hd
  apply (prints_printLines _ hd).bind
  intro d hd
  apply (prints_print _ d).bind
  intro d _
  exact prints_print _ d

end Prints

section Document
open Json
variable {num : WorkloadThreadNum} {stat : Statistics} {avg : StatAverages}

def JsonField.toMember (f : JsonField) : Member where
  key := f.key
  tokens := [.atom (.number f.value)]
  value := .number f.value

theorem scans_jlogName (hk : Plain key) :
    Scans .between (jlogName key) [.string key, .colon] .between := by
  have hopen : Scans .between (cBytes "\"") [] (.string []) := rfl
  have hclose : Scans (.string ([] ++ key)) (cBytes "\": ") [.string key, .colon] .between := rfl
  exact (hopen.append (scans_plain hk [])).append hclose

theorem scans_line (f : JsonField) (hk : Plain f.key) :
    Scans .between f.line
      (.string f.key :: .colon :: (f.toMember.tokens ++ [.comma])) .between := by
  have hvalue := scans_number f.text_eq (c := 0x2c) rfl
  have hbreak : Scans .between (cBytes "\n") [] .between := rfl
  have hline := ((scans_jlogName hk).append hvalue).append hbreak
  rw [List.append_nil, ← List.append_assoc, List.append_assoc] at hline
  exact hline

theorem scans_lastLine (f : JsonField) (hk : Plain f.key) :
    Scans .between f.lastLine (.string f.key :: .colon :: f.toMember.tokens) .between := by
  have hvalue := scans_number f.text_eq (c := 0x0a) rfl
  have hline := (scans_jlogName hk).append hvalue
  rw [← List.append_assoc] at hline
  exact hline

def headerTokens (stat : Statistics) (tc measurement : List UInt8) : List Token :=
  [.openBrace, .string (cBytes "testbench"), .colon, .openBrace, .string (cBytes "Timestamp"),
    .colon, .atom (.number ⟨stat.timeStamp.toNat, 0⟩), .comma,
    .string (cBytes "MeasurementName"), .colon, .string measurement, .comma,
    .string (cBytes "stats"), .colon, .openBrace, .string (cBytes "TCName"), .colon, .string tc,
    .comma]

theorem scans_header (ht : Plain tc) (hm : Plain measurement) :
    Scans .between (jsonHeader stat tc measurement) (headerTokens stat tc measurement)
      .between := by
  have htop : Scans .between (cBytes "\x7b\"testbench\" :\n\x7b\"Timestamp\" : ")
      [.openBrace, .string (cBytes "testbench"), .colon, .openBrace, .string (cBytes "Timestamp"),
        .colon] .between := rfl
  have htime := scans_number (number_decimal stat.timeStamp.toNat) (c := 0x2c) rfl
  have hname : Scans .between (cBytes "\n\"MeasurementName\" : \"")
      [.string (cBytes "MeasurementName"), .colon] (.string []) := rfl
  have hstats : Scans (.string ([] ++ measurement))
      (cBytes "\",\n\"stats\" : \n\x7b\n\"TCName\" : \"")
      [.string measurement, .comma, .string (cBytes "stats"), .colon, .openBrace,
        .string (cBytes "TCName"), .colon] (.string []) := rfl
  have hend : Scans (.string ([] ++ tc)) (cBytes "\",\n") [.string tc, .comma] .between := rfl
  have hall := (((((htop.append htime).append hname).append (scans_plain hm [])).append
    hstats).append (scans_plain ht [])).append hend
  have htext : jsonHeader stat tc measurement =
      cBytes "\x7b\"testbench\" :\n\x7b\"Timestamp\" : " ++
        (decimal stat.timeStamp.toNat ++ [0x2c]) ++ cBytes "\n\"MeasurementName\" : \"" ++
        measurement ++ cBytes "\",\n\"stats\" : \n\x7b\n\"TCName\" : \"" ++ tc ++
        cBytes "\",\n" := by
    have hcut : cBytes ",\n\"MeasurementName\" : \"" =
        [0x2c] ++ cBytes "\n\"MeasurementName\" : \"" := rfl
    simp only [jsonHeader, hcut, List.append_assoc]
  rw [htext]
  exact hall

theorem scans_text (ht : Plain tc) (hm : Plain measurement)
    (hkeys : ∀ f ∈ statFields num stat avg ++ [lastField stat], Plain f.key) :
    Scans .between (jsonText num stat avg tc measurement)
      (headerTokens stat tc measurement ++
        (((statFields num stat avg).flatMap fun f =>
          .string f.key :: .colon :: (f.toMember.tokens ++ [.comma])) ++
        ((.string (lastField stat).key :: .colon :: (lastField stat).toMember.tokens) ++
          [.closeBrace, .closeBrace, .closeBrace]))) .between := by
  apply (scans_header ht hm).append
  apply Scans.append
  · apply Scans.flatMap
    intro f hf
    exact scans_line f (hkeys f (List.mem_append_left _ hf))
  apply Scans.append
  · exact scans_lastLine _ (hkeys _ (List.mem_append_right _ List.mem_cons_self))
  · rfl

/-- The members of the innermost object. -/
def statMembers (num : WorkloadThreadNum) (stat : Statistics) (avg : StatAverages)
    (tc : List UInt8) : List Member :=
  ⟨cBytes "TCName", [.string tc], .string tc⟩ ::
    ((statFields num stat avg).map JsonField.toMember ++ [(lastField stat).toMember])

def testbenchMembers (num : WorkloadThreadNum) (stat : Statistics) (avg : StatAverages)
    (tc measurement : List UInt8) : List Member :=
  [⟨cBytes "Timestamp", [.atom (.number ⟨stat.timeStamp.toNat, 0⟩)],
      .number ⟨stat.timeStamp.toNat, 0⟩⟩,
    ⟨cBytes "MeasurementName", [.string measurement], .string measurement⟩,
    ⟨cBytes "stats", .openBrace :: memberTokens (statMembers num stat avg tc),
      .object ((statMembers num stat avg tc).map Member.pair)⟩]

theorem parses_stats (tc : List UInt8) :
    Parses (.openBrace :: memberTokens (statMembers num stat avg tc))
      (.object ((statMembers num stat avg tc).map Member.pair)) := by
  apply parses_object (List.cons_ne_nil _ _)
  intro m hm
  rcases List.mem_cons.mp hm with rfl | hm
  · exact parses_string tc
  rcases List.mem_append.mp hm with hm | hm
  · obtain ⟨f, -, rfl⟩ := List.mem_map.mp hm
    exact parses_atom _
  · rw [List.mem_singleton.mp hm]
    exact parses_atom _

theorem parses_testbench (tc measurement : List UInt8) :
    Parses (.openBrace :: memberTokens (testbenchMembers num stat avg tc measurement))
      (.object ((testbenchMembers num stat avg tc measurement).map Member.pair)) := by
  apply parses_object (List.cons_ne_nil _ _)
  intro m hm
  simp only [List.mem_cons, List.not_mem_nil, or_false] at hm
  rcases hm with rfl | rfl | rfl
  · exact parses_atom _
  · exact parses_string measurement
  · exact parses_stats tc

theorem memberTokens_statMembers (tc : List UInt8) :
    memberTokens (statMembers num stat avg tc) =
      .string (cBytes "TCName") :: .colon :: .string tc :: .comma ::
        ((statFields num stat avg).flatMap (fun f =>
          .string f.key :: .colon :: (f.toMember.tokens ++ [.comma])) ++
        (.string (lastField stat).key :: .colon ::
          ((lastField stat).toMember.tokens ++ [.closeBrace]))) := by
  rw [statMembers, ← List.cons_append, memberTokens_concat, List.flatMap_cons, List.flatMap_map]
  rfl

theorem statDocument_eq (tc measurement : List UInt8) :
    statDocument num stat avg tc measurement = .object [(cBytes "testbench",
      .object ((testbenchMembers num stat avg tc measurement).map Member.pair))] := by
  simp only [statDocument, testbenchMembers, statMembers, List.map_cons, List.map_append,
    List.map_map, List.map_nil]
  rfl

theorem parses_document (tc measurement : List UInt8) :
    Parses (.openBrace :: memberTokens [⟨cBytes "testbench",
      .openBrace :: memberTokens (testbenchMembers num stat avg tc measurement),
      .object ((testbenchMembers num stat avg tc measurement).map Member.pair)⟩])
      (statDocument num stat avg tc measurement) := by
  rw [statDocument_eq]
  apply parses_object (List.cons_ne_nil _ _)
  intro m hm
  rw [List.mem_singleton.mp hm]
  exact parses_testbench tc measurement

theorem parse_jsonText (ht : Plain tc) (hm : Plain measurement)
    (hkeys : ∀ f ∈ statFields num stat avg ++ [lastField stat], Plain f.key) :
    parse (jsonText num stat avg tc measurement) =
      some (statDocument num stat avg tc measurement) := by
  apply parse_of_parses _ (parses_document tc measurement)
  rw [tokens_of_scans (scans_text ht hm hkeys)]
  simp only [memberTokens, testbenchMembers, memberTokens_statMembers, headerTokens,
    List.cons_append, List.append_assoc, List.nil_append]

end Document

section Keys
open Json Strto
variable {num : WorkloadThreadNum} {stat : Statistics} {avg : StatAverages}

def rxKeys : List String :=
  ["FramesSent", "FramesReceived", "RoundTripTimeMin", "RoundTripMax", "RoundTripAv",
    "OnewayMin", "OnewayMax", "OnewayAv", "ProcFirstMin", "ProcFirstMax", "ProcFirstAv",
    "ProcFirstOutliers", "ProcBatchMin", "ProcBatchMax", "ProcBatchAv", "ProcBatchOutliers",
    "RxMin", "RxMax", "RxAv", "RxHw2SwMin", "RxHw2SwMax", "RxHw2SwAv", "RxSw2AppMin",
    "RxSw2AppMax", "RxSw2AppAv"]

def txKeys : List String :=
  ["TxMin", "TxMax", "TxAv", "TxHwTimestampMissing", "OutofOrderErrors", "FrameIdErrors",
    "PayloadErrors", "RoundTripOutliers"]

/-- The names every report has. -/
def fixedKeys : List (List UInt8) :=
  cBytes "TCName" :: (rxKeys.map cBytes ++ (txKeys.map cBytes ++ [cBytes "OnewayOutliers"]))

/-- The endings of the names of a workload's values. -/
def workloadEndings : List String := ["Min", "Max", "Av", "Outliers"]

def workloadKeys (num : WorkloadThreadNum) : List (List UInt8) :=
  if num = 1 then workloadEndings.map fun what => cBytes "RxWorkload" ++ cBytes what
  else (workloadIndices num).flatMap fun i => workloadEndings.map (workloadName i)

theorem rxFields_keys : (rxFields stat avg).map JsonField.key = rxKeys.map cBytes := rfl

theorem txFields_keys : (txFields stat avg).map JsonField.key = txKeys.map cBytes := rfl

theorem workloadFields_keys :
    (workloadFields num stat avg).map JsonField.key = workloadKeys num := by
  rw [workloadFields, workloadKeys]
  split
  · rfl
  · rw [List.map_flatMap]
    rfl

theorem statKeys_perm : (statKeys num stat avg).Perm (workloadKeys num ++ fixedKeys) := by
  simp only [statKeys, statFields, List.map_append, List.append_assoc, rxFields_keys,
    workloadFields_keys, txFields_keys]
  apply List.Perm.trans _ List.perm_middle.symm
  apply List.Perm.cons
  exact List.perm_append_comm_assoc _ _ _

theorem nodup_fixedKeys : fixedKeys.Nodup := by decide +kernel

theorem plain_fixedKeys : ∀ key ∈ fixedKeys, Plain key := by decide +kernel

theorem fixedKeys_not_workload : ∀ key ∈ fixedKeys,
    (cBytes "RxWorkload").isPrefixOf key = false := by
  decide +kernel

theorem ending_not_digit (hw : what ∈ workloadEndings) :
    ∀ c, (cBytes what).head? = some c → isDigit 10 c = false := by
  simp only [workloadEndings, List.mem_cons, List.not_mem_nil, or_false] at hw
  rcases hw with rfl | rfl | rfl | rfl <;>
  · intro c hc
    cases Option.some.inj hc
    rfl

theorem ending_inj : ∀ what ∈ workloadEndings, ∀ what' ∈ workloadEndings,
    cBytes what = cBytes what' → what = what' := by
  decide +kernel

/-- The id and the ending can be read off a name. -/
theorem workloadName_inj (hw : what ∈ workloadEndings) (hw' : what' ∈ workloadEndings)
    (h : workloadName i what = workloadName j what') : i = j ∧ what = what' := by
  rw [workloadName, workloadName, List.append_assoc, List.append_assoc,
    List.append_cancel_left_eq] at h
  have hid := congrArg (List.takeWhile (isDigit 10)) h
  rw [takeWhile_exact (isDigit_decimal i) (ending_not_digit hw),
    takeWhile_exact (isDigit_decimal j) (ending_not_digit hw')] at hid
  have hij : i.val = j.val := by rw [← value_decimal i.val, hid, value_decimal]
  rw [hid, List.append_cancel_left_eq] at h
  exact ⟨Fin.ext hij, ending_inj what hw what' hw' h⟩

theorem nodup_workloadKeys : (workloadKeys num).Nodup := by
  have hends : workloadEndings.Nodup := by decide +kernel
  rw [workloadKeys]
  split
  · apply List.Nodup.map_on _ hends
    intro what hw what' hw' h
    exact ending_inj what hw what' hw' (List.append_cancel_left h)
  rw [List.nodup_flatMap]
  constructor
  · intro i _
    apply List.Nodup.map_on _ hends
    intro what hw what' hw' h
    exact (workloadName_inj hw hw' h).2
  · have hindices : (workloadIndices num).Nodup :=
      (List.nodup_finRange num).map (Fin.castLE_injective _)
    apply hindices.imp
    intro i j hij key hi hj
    obtain ⟨what, hw, rfl⟩ := List.mem_map.mp hi
    obtain ⟨what', hw', h⟩ := List.mem_map.mp hj
    exact hij (workloadName_inj hw' hw h).1.symm

theorem plain_append (h : Plain text) (h' : Plain text') : Plain (text ++ text') := by
  intro c hc
  rcases List.mem_append.mp hc with hc | hc
  · exact h c hc
  · exact h' c hc

theorem plain_decimal (n : Nat) : Plain (decimal n) := by
  intro c hc
  have hall : ∀ c : UInt8, isDigit 10 c = true → 0x20 ≤ c ∧ c ≠ 0x22 ∧ c ≠ 0x5c := by
    decide +kernel
  exact hall c (isDigit_decimal n c hc)

theorem workloadKeys_spec (hk : key ∈ workloadKeys num) :
    Plain key ∧ (cBytes "RxWorkload").isPrefixOf key = true := by
  rw [List.isPrefixOf_iff_prefix]
  have hfront : Plain (cBytes "RxWorkload") := by decide +kernel
  have hends : ∀ what ∈ workloadEndings, Plain (cBytes what) := by decide +kernel
  rw [workloadKeys] at hk
  split at hk
  · obtain ⟨what, hw, rfl⟩ := List.mem_map.mp hk
    exact ⟨plain_append hfront (hends what hw), List.prefix_append _ _⟩
  · obtain ⟨i, -, hk⟩ := List.mem_flatMap.mp hk
    obtain ⟨what, hw, rfl⟩ := List.mem_map.mp hk
    rw [workloadName, List.append_assoc]
    exact ⟨plain_append hfront (plain_append (plain_decimal i) (hends what hw)),
      List.prefix_append _ _⟩

theorem nodup_statKeys : (statKeys num stat avg).Nodup := by
  rw [statKeys_perm.nodup_iff, List.nodup_append']
  refine ⟨nodup_workloadKeys, nodup_fixedKeys, ?_⟩
  intro key hk hfixed
  exact absurd (workloadKeys_spec hk).2 (Bool.eq_false_iff.mp (fixedKeys_not_workload key hfixed))

theorem plain_statKeys (hk : key ∈ statKeys num stat avg) : Plain key := by
  rcases List.mem_append.mp (statKeys_perm.subset hk) with hk | hk
  · exact (workloadKeys_spec hk).1
  · exact plain_fixedKeys key hk

theorem plain_fields : ∀ f ∈ statFields num stat avg ++ [lastField stat], Plain f.key := by
  intro f hf
  have hk : f.key ∈ statKeys num stat avg := List.mem_cons_of_mem _ (List.mem_map_of_mem hf)
  exact plain_statKeys hk

end Keys

/-- A report is refused or complete: nothing outside of the buffer changes, the call succeeds when
the text and its zero byte fit, and the string left then is a JSON text that says what the
statistics hold, with every name once. -/
theorem statToJson_wellFormed (num : WorkloadThreadNum) (stat : Statistics) (avg : StatAverages)
    (memory : Memory) (json len : Nat) (tc measurement : List UInt8) (ht : Json.Plain tc)
    (hm : Json.Plain measurement) :
    let text := jsonText num stat avg tc measurement
    let run := statToJson num stat avg memory json len tc measurement
    (∀ a, a < json ∨ json + len ≤ a → run.2 a = memory a) ∧
      (run.1 = .ok () ↔ text.length + 1 ≤ len) ∧
      (run.1 = .ok () → run.2.bytes json (text.length + 1) = text ++ [0] ∧ 0 ∉ text ∧
        Json.parse text = some (statDocument num stat avg tc measurement) ∧
        (statKeys num stat avg).Nodup) := by
  intro text run
  have hprints : Prints Errno.einval (printJson num stat avg tc measurement) text
      ⟨memory, json, len⟩ := prints_json tc measurement _
  have hmemory : run.2 = Cursor.filled ⟨memory, json, len⟩ text := hprints.memory
  have hok : run.1 = .ok () ↔ text.length + 1 ≤ len := hprints.isOk_iff
  refine ⟨?_, hok, ?_⟩
  · intro a ha
    rw [hmemory]
    exact filled_outside ha
  · intro hrun
    refine ⟨?_, ?_, parse_jsonText ht hm plain_fields, nodup_statKeys⟩
    · have hfits : text.length < (⟨memory, json, len⟩ : Cursor).len := hok.mp hrun
      rw [hmemory, filled_of_fits hfits]
      have hbytes := bytes_store (m := memory) (p := json) (text ++ [0])
      rw [List.length_append, List.length_singleton] at hbytes
      exact hbytes
    · exact ((scans_text ht hm plain_fields).clean trivial).1

/-- A class with two workload threads, before any frame. -/
theorem statToJson_wellFormed_two :
    (statToJson 2 statReset zeroAverages (fun _ => 0xff) 100 4096 (cBytes "TsnHigh")
        (cBytes "testbench")).1 = .ok () ∧
      Json.parse (jsonText 2 statReset zeroAverages (cBytes "TsnHigh") (cBytes "testbench")) =
        some (statDocument 2 statReset zeroAverages (cBytes "TsnHigh") (cBytes "testbench")) := by
  obtain ⟨-, hok, hparse⟩ := statToJson_wellFormed 2 statReset zeroAverages (fun _ => 0xff) 100 4096
    (cBytes "TsnHigh") (cBytes "testbench") (by decide +kernel) (by decide +kernel)
  have hrun := hok.mpr (by decide +kernel)
  exact ⟨hrun, (hparse hrun).2.2.1⟩

end RtcTestbench
