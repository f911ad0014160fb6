import RtcTestbench.ConfigValue
import RtcTestbench.Lib.Strtok

namespace RtcTestbench
open Strtok
set_option autoImplicit true

/-- The delimiters `" ,"`. -/
def isCpuSeparator (c : UInt8) : Bool := c == 0x20 || c == 0x2c

/-- The loop of `config_parse_cpu_list` on the copy that `strtok` cuts up. The next token is fetched
before the length is checked. `none` is a store outside of the array, or more than `n` rounds. -/
def cpuListStores (lib : LibC) (arrayLen : Nat) :
    Nat → Call → Nat → List Int32 → Option (Except Errno Nat × List Int32)
  | 0, _, _, _ => none
  | n + 1, call, i, array =>
    match call.token with
    | none => some (.ok i, array)
    | some p =>
      if i < array.length then
        let value := lib.atoi (stringAt call.buffer p)
        let array := array.set i value
        let next := strtok isCpuSeparator call.buffer call.next
        if value < 0 then some (.error .einval, array)
        else if arrayLen ≤ i + 1 ∧ next.token.isSome then some (.error .erange, array)
        else cpuListStores lib arrayLen n next (i + 1) array
      else none

/-- The whole loop of `config_parse_cpu_list` for a text. -/
def cpuListRun (lib : LibC) (value : CString) (array : List Int32) :
    Option (Except Errno Nat × List Int32) :=
  let tmp := value.bytes ++ [0]
  cpuListStores lib array.length tmp.length (strtok isCpuSeparator tmp 0) 0 array

section Loop
variable {lib : LibC} {tokens : List (List UInt8)} {array : List Int32}

/-- No store leaves the array, and the loop computes what the list of tokens says. -/
theorem cpuListStores_eq (h : Yields isCpuSeparator len tokens call) (hn : tokens.length < n)
    (hi : tokens ≠ [] → i < array.length) (hlen : array.length = arrayLen) :
    cpuListStores lib arrayLen n call i array =
      some (cpuListLoop lib arrayLen tokens i array) := by
  induction tokens generalizing n call i array with
  | nil =>
    obtain ⟨n, rfl⟩ := Nat.exists_eq_add_of_lt hn
    simp only [cpuListStores, h.1, cpuListLoop]
  | cons token tokens ih =>
    obtain ⟨n, rfl⟩ : ∃ k, n = k + 1 := ⟨n - 1, by omega⟩
    obtain ⟨⟨p, hp, hword⟩, -, hrest⟩ := h
    have hmore := hrest.token_isSome
    simp only [cpuListStores, hp, hword, if_pos (hi (List.cons_ne_nil _ _)), cpuListLoop, hmore]
    split
    · rfl
    split
    · rfl
    · rename_i hroom
      apply ih hrest (Nat.lt_of_succ_lt_succ hn)
      · intro hne
        rw [List.length_set, hlen]
        exact Nat.not_le.mp fun hle => hroom ⟨hle, hne⟩
      · rw [List.length_set]
        exact hlen

/-- A list that fits and has no negative number is stored from `i` on. -/
theorem cpuListLoop_ok (hpos : ∀ t ∈ tokens, 0 ≤ lib.atoi t)
    (hfit : i + tokens.length ≤ array.length) :
    cpuListLoop lib array.length tokens i array = (.ok (i + tokens.length),
      array.take i ++ (tokens.map lib.atoi ++ array.drop (i + tokens.length))) := by
  generalize harray : array.length = arrayLen at hfit ⊢
  induction tokens generalizing i array with
  | nil => simp [cpuListLoop]
  | cons token tokens ih =>
    obtain ⟨hhead, hrest⟩ := List.forall_mem_cons.mp hpos
    rw [List.length_cons] at hfit
    have hroom : ¬ (arrayLen ≤ i + 1 ∧ tokens ≠ []) := by
      rintro ⟨hle, hne⟩
      have := List.length_pos_iff.mpr hne
      omega
    have hstep : cpuListLoop lib arrayLen tokens (i + 1) (array.set i (lib.atoi token)) = _ :=
      ih hrest (List.length_set.trans harray) (by omega)
    rw [cpuListLoop, if_neg (Int32.not_lt.mpr hhead), if_neg hroom, hstep]
    have hi : i < array.length := by omega
    have htake : (array.set i (lib.atoi token)).take (i + 1) =
        array.take i ++ [lib.atoi token] := by
      rw [List.take_add_one, List.take_set_of_le le_rfl, List.getElem?_set_self hi]
      rfl
    rw [htake, List.drop_set_of_lt (by omega), List.length_cons, List.map_cons]
    simp [Nat.add_comm, Nat.add_left_comm]

/-- A list that is too long or has a negative number is refused. -/
theorem cpuListLoop_error (hi : i < arrayLen)
    (hbad : ¬ (i + tokens.length ≤ arrayLen ∧ ∀ t ∈ tokens, 0 ≤ lib.atoi t)) :
    ∃ e, (cpuListLoop lib arrayLen tokens i array).1 = .error e := by
  induction tokens generalizing i array with
  | nil => exact absurd ⟨hi.le, List.forall_mem_nil _⟩ hbad
  | cons token tokens ih =>
    rw [cpuListLoop]
    split
    · exact ⟨_, rfl⟩
    split
    · exact ⟨_, rfl⟩
    · rename_i hneg hroom
      rw [List.forall_mem_cons, List.length_cons] at hbad
      by_cases hlast : tokens = []
      · subst hlast
        exact absurd ⟨hi, Int32.not_lt.mp hneg, List.forall_mem_nil _⟩ hbad
      apply ih (Nat.not_le.mp fun hle => hroom ⟨hle, hlast⟩)
      rintro ⟨hfit, hpos⟩
      exact hbad ⟨by omega, Int32.not_lt.mp hneg, hpos⟩

theorem configParseCpuList_of_ok {list : CpuList}
    (h : (cpuListLoop lib workloadMax (cpuTokens value) 0 list.cpus).1 = .ok i) :
    (configParseCpuList lib value list).1 = (if i = 0 then .error .einval else .ok ()) ∧
      (configParseCpuList lib value list).2.num = (if i = 0 then list.num else Int32.ofInt i) ∧
      (configParseCpuList lib value list).2.cpus =
        (cpuListLoop lib workloadMax (cpuTokens value) 0 list.cpus).2 := by
  simp only [configParseCpuList, h]
  split <;> exact ⟨rfl, rfl, rfl⟩

theorem configParseCpuList_of_error {list : CpuList}
    (h : (cpuListLoop lib workloadMax (cpuTokens value) 0 list.cpus).1 = .error e) :
    (configParseCpuList lib value list).1 = .error e ∧
      (configParseCpuList lib value list).2.num = list.num := by
  simp only [configParseCpuList, h, and_self]

end Loop

/-- The tokens are the pieces between blanks and commas, no store leaves the array whatever the
text, and the list is accepted when it has one to 32 tokens and no negative number. -/
theorem configParseCpuList_exact (lib : LibC) (value : CString) (list : CpuList) :
    let tokens := cpuTokens value.bytes
    let run := configParseCpuList lib value.bytes list
    Cuts isCpuSeparator value.bytes tokens ∧
      cpuListRun lib value list.cpus = some (cpuListLoop lib workloadMax tokens 0 list.cpus) ∧
      (run.1 = .ok () ↔
        1 ≤ tokens.length ∧ tokens.length ≤ workloadMax ∧ ∀ t ∈ tokens, 0 ≤ lib.atoi t) ∧
      (run.1 = .ok () → run.2.num.toInt = tokens.length ∧
        run.2.cpus.take tokens.length = tokens.map lib.atoi) ∧
      (run.1 ≠ .ok () → run.2.num = list.num) := by
  intro tokens run
  have hlen := list.length_eq
  have hcuts : Cuts isCpuSeparator value.bytes tokens := cuts_tokens _ _
  have hstores : cpuListRun lib value list.cpus =
      some (cpuListLoop lib workloadMax tokens 0 list.cpus) := by
    rw [cpuListRun, hlen]
    apply cpuListStores_eq (strtok_copy_yields value.no_nul hcuts)
    · rw [List.length_append]
      exact Nat.lt_succ_of_le hcuts.length_le
    · intro _
      rw [hlen]
      decide
    · exact hlen
  refine ⟨hcuts, hstores, ?_⟩
  by_cases hgood : tokens.length ≤ workloadMax ∧ ∀ t ∈ tokens, 0 ≤ lib.atoi t
  · have hloop : cpuListLoop lib workloadMax tokens 0 list.cpus = (.ok (0 + tokens.length),
        list.cpus.take 0 ++ (tokens.map lib.atoi ++ list.cpus.drop (0 + tokens.length))) := by
      rw [← hlen]
      apply cpuListLoop_ok hgood.2
      rw [hlen, Nat.zero_add]
      exact hgood.1
    rw [Nat.zero_add, List.take_zero, List.nil_append] at hloop
    obtain ⟨hresult, hnum, hcpus⟩ := configParseCpuList_of_ok (congrArg Prod.fst hloop)
    rw [congrArg Prod.snd hloop] at hcpus
    by_cases hempty : tokens.length = 0
    · rw [if_pos hempty] at hresult hnum
      refine ⟨⟨fun h => ?_, fun h => absurd hempty (Nat.ne_of_gt h.1)⟩, fun h => ?_, fun _ => hnum⟩
      all_goals
        rw [hresult] at h
        cases h
    · rw [if_neg hempty] at hresult hnum
      refine ⟨⟨fun _ => ⟨Nat.pos_of_ne_zero hempty, hgood⟩, fun _ => hresult⟩, fun _ => ⟨?_, ?_⟩,
        fun h => absurd hresult h⟩
      · have hmax : workloadMax = 32 := rfl
        rw [hnum, Int32.toInt_ofInt_of_le (by omega) (by omega)]
      · rw [hcpus, List.take_append_of_le_length (List.length_map lib.atoi).ge,
          List.take_of_length_le (List.length_map lib.atoi).le]
  · have hbad : ¬ (0 + tokens.length ≤ workloadMax ∧ ∀ t ∈ tokens, 0 ≤ lib.atoi t) := by
      rw [Nat.zero_add]
      exact hgood
    obtain ⟨e, he⟩ : ∃ e, (cpuListLoop lib workloadMax tokens 0 list.cpus).1 = .error e :=
      cpuListLoop_error (by decide) hbad
    obtain ⟨hresult, hnum⟩ := configParseCpuList_of_error he
    refine ⟨⟨fun h => ?_, fun h => absurd h.2 hgood⟩, fun h => ?_, fun _ => hnum⟩
    all_goals
      rw [hresult] at h
      cases h

end RtcTestbench
