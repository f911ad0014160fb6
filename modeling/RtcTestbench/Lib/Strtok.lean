import RtcTestbench.Lib.Strto

namespace Strtok
open Strto
set_option autoImplicit true

/-- The string at a position of a buffer. -/
def stringAt (buffer : List UInt8) (p : Nat) : List UInt8 := (buffer.drop p).takeWhile (· != 0)

/-- What a call of `strtok` leaves: where the token starts, the buffer and where the next call goes
on. -/
structure Call where
  token : Option Nat
  buffer : List UInt8
  next : Nat

def strtok (delim : UInt8 → Bool) (buffer : List UInt8) (p : Nat) : Call :=
  let rest := stringAt buffer p
  let start := p + (rest.takeWhile delim).length
  let token := (rest.dropWhile delim).takeWhile (!delim ·)
  let stop := start + token.length
  if token = [] then ⟨none, buffer, start⟩
  -- the delimiter behind the token becomes its end
  else if stop < p + rest.length then ⟨some start, buffer.set stop 0, stop + 1⟩
  else ⟨some start, buffer, stop⟩

/-- A loop over the tokens of a buffer from the first call on, at most `n` rounds long; `none` when
it runs longer or the body fails. The buffer it leaves comes with the result. -/
def strtokLoop (delim : UInt8 → Bool) (body : σ → List UInt8 → Option σ) :
    Nat → Call → σ → Option (σ × List UInt8)
  | 0, _, _ => none
  | n + 1, call, s =>
    match call.token with
    | none => some (s, call.buffer)
    | some p =>
      (body s (stringAt call.buffer p)).bind fun s =>
        strtokLoop delim body n (strtok delim call.buffer call.next) s

/-- The maximal pieces of a text that have no delimiter in them. -/
inductive Cuts (delim : UInt8 → Bool) : List UInt8 → List (List UInt8) → Prop where
  | blank (hblank : ∀ c ∈ text, delim c = true) : Cuts delim text []
  | piece (hblank : ∀ c ∈ blanks, delim c = true) (hne : word ≠ [])
      (hword : ∀ c ∈ word, delim c = false) (hend : ∀ c, rest.head? = some c → delim c = true)
      (hrest : Cuts delim rest words) : Cuts delim (blanks ++ (word ++ rest)) (word :: words)

def tokens (delim : UInt8 → Bool) (text : List UInt8) : List (List UInt8) :=
  (text.splitOnP delim).filter (· ≠ [])

section Cuts
variable {delim : UInt8 → Bool}

theorem Cuts.cons_delim (h : Cuts delim text words) (hc : delim c = true) :
    Cuts delim (c :: text) words := by
  cases h with
  | blank hblank => exact .blank (List.forall_mem_cons.mpr ⟨hc, hblank⟩)
  | piece hblank hne hword hend hrest =>
    rw [← List.cons_append]
    exact .piece (List.forall_mem_cons.mpr ⟨hc, hblank⟩) hne hword hend hrest

/-- Every text can be cut. -/
theorem exists_cuts (delim : UInt8 → Bool) (text : List UInt8) :
    ∃ words, Cuts delim text words := by
  induction text with
  | nil => exact ⟨[], .blank nofun⟩
  | cons c text ih =>
    obtain ⟨words, h⟩ := ih
    cases hc : delim c with
    | true => exact ⟨words, h.cons_delim hc⟩
    | false =>
      have hsingle : ∀ d ∈ [c], delim d = false := by
        intro d hd
        rw [List.mem_singleton.mp hd]
        exact hc
      cases h with
      | blank hblank =>
        have hcut : Cuts delim ([] ++ ([c] ++ text)) [[c]] :=
          .piece nofun (List.cons_ne_nil c []) hsingle
            (fun d hd => hblank d (List.mem_of_head? hd)) (.blank hblank)
        exact ⟨_, hcut⟩
      | @piece blanks word rest words hblank hne hword hend hrest =>
        cases blanks with
        | nil =>
          have hcut : Cuts delim ([] ++ ((c :: word) ++ rest)) ((c :: word) :: words) :=
            .piece nofun (List.cons_ne_nil c word) (List.forall_mem_cons.mpr ⟨hc, hword⟩) hend hrest
          exact ⟨_, hcut⟩
        | cons b blanks =>
          have hcut : Cuts delim ([] ++ ([c] ++ (b :: blanks ++ (word ++ rest))))
              ([c] :: word :: words) := by
            apply Cuts.piece (List.forall_mem_nil _) (List.cons_ne_nil c []) hsingle _
              (.piece hblank hne hword hend hrest)
            intro d hd
            cases hd
            exact hblank b List.mem_cons_self
          exact ⟨_, hcut⟩

theorem Cuts.tail (h : Cuts delim (c :: text) words) (hc : delim c = true) :
    Cuts delim text words := by
  generalize htext : c :: text = whole at h
  cases h with
  | blank hblank =>
    subst htext
    exact .blank (List.forall_mem_cons.mp hblank).2
  | @piece blanks word rest words hblank hne hword hend hrest =>
    cases blanks with
    | nil =>
      cases word with
      | nil => exact absurd rfl hne
      | cons d word =>
        cases htext
        rw [hword c List.mem_cons_self] at hc
        cases hc
    | cons b blanks =>
      cases htext
      exact .piece (List.forall_mem_cons.mp hblank).2 hne hword hend hrest

theorem tokens_cons_delim (hc : delim c = true) : tokens delim (c :: text) = tokens delim text := by
  rw [tokens, List.splitOnP_cons_eq_if_modifyHead, if_pos hc]
  rfl

theorem tokens_blanks (hblank : ∀ c ∈ blanks, delim c = true) :
    tokens delim (blanks ++ text) = tokens delim text := by
  induction blanks with
  | nil => rfl
  | cons c blanks ih =>
    obtain ⟨hc, hrest⟩ := List.forall_mem_cons.mp hblank
    rw [List.cons_append, tokens_cons_delim hc, ih hrest]

theorem tokens_word (hne : word ≠ []) (hword : ∀ c ∈ word, delim c = false)
    (hend : ∀ c, rest.head? = some c → delim c = true) :
    tokens delim (word ++ rest) = word :: tokens delim rest := by
  cases rest with
  | nil =>
    rw [List.append_nil, tokens, List.splitOnP_eq_singleton hword,
      List.filter_cons_of_pos (by simpa using hne)]
    rfl
  | cons c rest =>
    have hc := hend c rfl
    rw [tokens_cons_delim hc, tokens, List.splitOnP_append_cons_of_forall_mem hword c hc,
      List.filter_cons_of_pos (by simpa using hne)]
    rfl

/-- There is only one way to cut a text. -/
theorem Cuts.eq_tokens (h : Cuts delim text words) : words = tokens delim text := by
  induction h with
  | @blank text hblank =>
    have hall : tokens delim (text ++ []) = [] := tokens_blanks hblank
    rw [List.append_nil] at hall
    exact hall.symm
  | piece hblank hne hword hend hrest ih =>
    rw [tokens_blanks hblank, tokens_word hne hword hend, ih]

theorem cuts_tokens (delim : UInt8 → Bool) (text : List UInt8) :
    Cuts delim text (tokens delim text) := by
  obtain ⟨words, h⟩ := exists_cuts delim text
  rw [← h.eq_tokens]
  exact h

end Cuts

section Loop
variable {delim : UInt8 → Bool}

theorem stringAt_append (hz : 0 ∉ text) (front tail : List UInt8) :
    stringAt (front ++ (text ++ 0 :: tail)) front.length = text := by
  rw [stringAt, List.drop_left]
  apply takeWhile_exact
  · intro c hc
    exact bne_iff_ne.mpr fun h => hz (h ▸ hc)
  · intro c hc
    cases hc
    rfl

theorem strtok_blank (hz : 0 ∉ text) (hblank : ∀ c ∈ text, delim c = true)
    (front tail : List UInt8) :
    (strtok delim (front ++ (text ++ 0 :: tail)) front.length).token = none := by
  have hdrop : text.dropWhile delim = [] := List.dropWhile_eq_nil_iff.mpr hblank
  simp only [strtok, stringAt_append hz, hdrop, List.takeWhile_nil, if_true]

/-- A token is handed out, ended by a zero byte, and the next call goes on behind it. -/
theorem strtok_piece (hz : 0 ∉ blanks ++ (word ++ rest)) (hblank : ∀ c ∈ blanks, delim c = true)
    (hne : word ≠ []) (hword : ∀ c ∈ word, delim c = false)
    (hend : ∀ c, rest.head? = some c → delim c = true) (front tail : List UInt8) :
    strtok delim (front ++ ((blanks ++ (word ++ rest)) ++ 0 :: tail)) front.length =
      ⟨some (front ++ blanks).length, front ++ blanks ++ (word ++ 0 :: (rest.tail ++
        if rest = [] then tail else 0 :: tail)), (front ++ blanks ++ word).length +
        if rest = [] then 0 else 1⟩ := by
  have hfirst : ∀ c, (word ++ rest).head? = some c → delim c = false := by
    intro c hc
    cases word with
    | nil => exact absurd rfl hne
    | cons d word =>
      cases hc
      exact hword c List.mem_cons_self
  have htake : (blanks ++ (word ++ rest)).takeWhile delim = blanks := takeWhile_exact hblank hfirst
  have hdrop : (blanks ++ (word ++ rest)).dropWhile delim = word ++ rest :=
    dropWhile_exact hblank hfirst
  have htoken : (word ++ rest).takeWhile (!delim ·) = word := by
    apply takeWhile_exact
    · intro c hc
      rw [hword c hc]
      rfl
    · intro c hc
      rw [hend c hc]
      rfl
  simp only [strtok, stringAt_append hz, htake, hdrop, htoken, if_neg hne]
  cases rest with
  | nil => simp [Nat.add_assoc]
  | cons c rest =>
    have hset : (front ++ ((blanks ++ (word ++ c :: rest)) ++ 0 :: tail)).set
        (front.length + blanks.length + word.length) 0 =
        front ++ blanks ++ (word ++ 0 :: (rest ++ 0 :: tail)) := by
      have hsplit : front ++ ((blanks ++ (word ++ c :: rest)) ++ 0 :: tail) =
          (front ++ blanks ++ word) ++ c :: (rest ++ 0 :: tail) := by simp
      have hlen : front.length + blanks.length + word.length =
          (front ++ blanks ++ word).length := by simp [Nat.add_assoc]
      rw [hsplit, hlen, List.set_append_right _ _ le_rfl, Nat.sub_self, List.set_cons_zero,
        List.append_assoc]
    rw [if_pos (by simp only [List.length_append, List.length_cons]; omega), hset]
    simp [Nat.add_assoc]

/-- This call and those after it hand out the words, in a buffer that keeps its length. -/
def Yields (delim : UInt8 → Bool) (len : Nat) : List (List UInt8) → Call → Prop
  | [], call => call.token = none ∧ call.buffer.length = len
  | word :: words, call =>
    (∃ p, call.token = some p ∧ stringAt call.buffer p = word) ∧ call.buffer.length = len ∧
      Yields delim len words (strtok delim call.buffer call.next)

theorem Yields.token_isSome (h : Yields delim len words call) :
    call.token.isSome = true ↔ words ≠ [] := by
  cases words with
  | nil => simp [h.1]
  | cons word words =>
    obtain ⟨⟨p, hp, -⟩, -⟩ := h
    simp [hp]

theorem strtok_buffer_length (buffer : List UInt8) (p : Nat) :
    (strtok delim buffer p).buffer.length = buffer.length := by
  simp only [strtok]
  split
  · rfl
  split
  · exact List.length_set
  · rfl

/-- The calls take the pieces of a text one after the other. -/
theorem strtok_yields (hz : 0 ∉ text) (h : Cuts delim text words) (front tail : List UInt8) :
    Yields delim (front ++ (text ++ 0 :: tail)).length words
      (strtok delim (front ++ (text ++ 0 :: tail)) front.length) := by
  induction words generalizing text front tail with
  | nil =>
    cases h with
    | blank hblank => exact ⟨strtok_blank hz hblank front tail, strtok_buffer_length _ _⟩
  | cons word words ih =>
    cases h with
    | @piece blanks _ rest _ hblank hne hword hend hrest =>
      have hcall := strtok_piece hz hblank hne hword hend front tail
      simp only [List.mem_append, not_or] at hz
      refine ⟨?_, strtok_buffer_length _ _, ?_⟩
      · rw [hcall]
        exact ⟨_, rfl, stringAt_append hz.2.1 _ _⟩
      · rw [hcall]
        cases rest with
        | nil =>
          have hnext := ih List.not_mem_nil hrest (front ++ blanks ++ word) tail
          simpa using hnext
        | cons c rest =>
          have hc := hend c rfl
          have hzr : 0 ∉ rest := fun h => hz.2.2 (List.mem_cons_of_mem c h)
          have hnext := ih hzr (hrest.tail hc) (front ++ blanks ++ word ++ [0]) tail
          simpa [Nat.add_assoc, Nat.add_comm, Nat.add_left_comm] using hnext

/-- What a program gets that copies a text and cuts the copy. -/
theorem strtok_copy_yields (hz : 0 ∉ text) (h : Cuts delim text words) :
    Yields delim (text.length + 1) words (strtok delim (text ++ [0]) 0) := by
  have hall := strtok_yields hz h [] []
  rw [List.nil_append, List.length_append] at hall
  exact hall

theorem strtokLoop_eq (body : σ → List UInt8 → Option σ) (h : Yields delim len words call)
    (hn : words.length < n) (s : σ) :
    ∃ buffer, buffer.length = len ∧
      strtokLoop delim body n call s = (words.foldlM body s).map fun s => (s, buffer) := by
  induction words generalizing n call s with
  | nil =>
    obtain ⟨n, rfl⟩ := Nat.exists_eq_add_of_lt hn
    refine ⟨call.buffer, h.2, ?_⟩
    simp only [strtokLoop, h.1]
    rfl
  | cons word words ih =>
    obtain ⟨n, rfl⟩ : ∃ k, n = k + 1 := ⟨n - 1, by omega⟩
    obtain ⟨⟨p, hp, hword⟩, hlen, hrest⟩ := h
    simp only [strtokLoop, hp, hword, List.foldlM_cons]
    cases hb : body s word with
    | none => exact ⟨call.buffer, hlen, rfl⟩
    | some s' => exact ih hrest (Nat.lt_of_succ_lt_succ hn) s'

end Loop

theorem Cuts.length_le (h : Cuts delim text words) : words.length ≤ text.length := by
  induction h with
  | blank => exact Nat.zero_le _
  | @piece blanks word rest words hblank hne hword hend hrest ih =>
    have hpos := List.length_pos_iff.mpr hne
    simp only [List.length_cons, List.length_append]
    omega

end Strtok
