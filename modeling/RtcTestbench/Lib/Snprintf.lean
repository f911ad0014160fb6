import RtcTestbench.Lib.Strto

namespace Snprintf
open Strto
set_option autoImplicit true

/-- The bytes of a program by address. -/
def Memory := Nat → UInt8

def Memory.store (m : Memory) (p : Nat) (src : List UInt8) : Memory :=
  fun a => if p ≤ a then src.getD (a - p) (m a) else m a

/-- The `n` bytes from address `p` on. -/
def Memory.bytes (m : Memory) (p n : Nat) : List UInt8 := (List.range n).map fun i => m (p + i)

/-- The string in the `n` bytes at `p`. -/
def Memory.string (m : Memory) (p n : Nat) : List UInt8 := (m.bytes p n).takeWhile (· != 0)

section Store
variable {m : Memory} {p a : Nat}

theorem store_below (src : List UInt8) (h : a < p) : m.store p src a = m a :=
  if_neg (Nat.not_le.mpr h)

theorem store_above {src : List UInt8} (h : p + src.length ≤ a) : m.store p src a = m a := by
  have hp : p ≤ a := by omega
  have hlen : src.length ≤ a - p := by omega
  rw [Memory.store, if_pos hp, List.getD_eq_default _ _ hlen]

theorem store_at (src : List UInt8) (i : Nat) :
    m.store p src (p + i) = src.getD i (m (p + i)) := by
  rw [Memory.store, if_pos (Nat.le_add_right p i), Nat.add_sub_cancel_left]

/-- What is stored behind `front` covers what the first store has left there. -/
theorem store_store {front old new : List UInt8} (h : old.length ≤ new.length) :
    (m.store p (front ++ old)).store (p + front.length) new = m.store p (front ++ new) := by
  funext a
  by_cases below : a < p
  · rw [store_below _ (by omega), store_below _ below, store_below _ below]
  obtain ⟨i, rfl⟩ := Nat.exists_eq_add_of_le (Nat.not_lt.mp below)
  by_cases inFront : i < front.length
  · rw [store_below _ (by omega), store_at, store_at, List.getD_append _ _ _ _ inFront,
      List.getD_append _ _ _ _ inFront]
  obtain ⟨j, rfl⟩ := Nat.exists_eq_add_of_le (Nat.not_lt.mp inFront)
  have hj : front.length ≤ front.length + j := Nat.le_add_right _ j
  rw [← Nat.add_assoc, store_at, Nat.add_assoc, store_at, store_at,
    List.getD_append_right _ _ _ _ hj, List.getD_append_right _ _ _ _ hj, Nat.add_sub_cancel_left]
  by_cases inNew : j < new.length
  · rw [List.getD_eq_getElem _ _ inNew, List.getD_eq_getElem _ _ inNew]
  · have hnew : new.length ≤ j := Nat.not_lt.mp inNew
    rw [List.getD_eq_default _ _ hnew, List.getD_eq_default _ _ hnew,
      List.getD_eq_default _ _ (h.trans hnew)]

theorem bytes_store (src : List UInt8) : (m.store p src).bytes p src.length = src := by
  apply List.ext_getElem
  · rw [Memory.bytes, List.length_map, List.length_range]
  intro i _ hi
  simp only [Memory.bytes, List.getElem_map, List.getElem_range]
  rw [store_at, List.getD_eq_getElem _ _ hi]

theorem bytes_add (m : Memory) (p k n : Nat) :
    m.bytes p (k + n) = m.bytes p k ++ m.bytes (p + k) n := by
  simp only [Memory.bytes, List.range_add, List.map_append, List.map_map, Function.comp_def,
    Nat.add_assoc]

theorem bytes_store_append (text more : List UInt8) :
    (m.store p (text ++ more)).bytes p text.length = text := by
  have hall := bytes_store (m := m) (p := p) (text ++ more)
  rw [List.length_append, bytes_add] at hall
  apply (List.append_inj hall _).1
  rw [Memory.bytes, List.length_map, List.length_range]

theorem string_store (hz : 0 ∉ text) (hn : text.length < n) :
    (m.store p (text ++ [0])).string p n = text := by
  obtain ⟨k, rfl⟩ := Nat.exists_eq_add_of_lt hn
  have hbytes := bytes_store (m := m) (p := p) (text ++ [0])
  rw [List.length_append, List.length_singleton] at hbytes
  rw [Memory.string, Nat.add_right_comm, bytes_add, hbytes, List.append_assoc]
  apply takeWhile_exact
  · intro c hc
    exact bne_iff_ne.mpr fun h => hz (h ▸ hc)
  · intro c hc
    cases hc
    rfl

end Store

/-- A `char **buffer` with its `size_t *len`: where the next text goes and how many bytes are left
there. -/
structure Cursor where
  memory : Memory
  pos : Nat
  len : Nat

abbrev Printer (ε : Type) := ExceptT ε (StateM Cursor)

/-- The memory after a text has been printed at the cursor: cut to the space that is left and ended
by a zero byte. -/
def Cursor.filled (c : Cursor) (text : List UInt8) : Memory :=
  if c.len = 0 then c.memory else c.memory.store c.pos (text.take (c.len - 1) ++ [0])

def Cursor.advance (c : Cursor) (n : Nat) : Cursor := { c with pos := c.pos + n, len := c.len - n }

/-- `snprintf` where the format and its arguments give `text`. -/
def snprintf (text : List UInt8) : StateM Cursor Nat :=
  modifyGet fun c => (text.length, { c with memory := c.filled text })

/-- The cursor stands on the zero byte behind the text printed so far. -/
def Cursor.Terminated (c : Cursor) : Prop := 0 < c.len ∧ c.memory c.pos = 0

/-- A printer behaves as one print of `text`: it succeeds when the text and its zero byte fit, and
fails with `e` when they do not, after as much as fits. -/
def Prints (e : ε) (f : Printer ε Unit) (text : List UInt8) (c : Cursor) : Prop :=
  if text.length < c.len then
    f.run.run c = (.ok (), { c with memory := c.filled text }.advance text.length)
  else ∃ d, f.run.run c = (.error e, d) ∧ d.memory = c.filled text

section Filled
variable {c : Cursor} {text : List UInt8}

theorem filled_of_fits (h : text.length < c.len) :
    c.filled text = c.memory.store c.pos (text ++ [0]) := by
  have hlen : c.len ≠ 0 := by omega
  have htake : text.length ≤ c.len - 1 := by omega
  rw [Cursor.filled, if_neg hlen, List.take_of_length_le htake]

/-- Nothing outside of the `len` bytes at the cursor changes. -/
theorem filled_outside (h : a < c.pos ∨ c.pos + c.len ≤ a) : c.filled text a = c.memory a := by
  rw [Cursor.filled]
  split
  · rfl
  rcases h with h | h
  · exact store_below _ h
  · apply store_above
    rw [List.length_append, List.length_take, List.length_singleton]
    omega

theorem terminated_advance (h : text.length < c.len) :
    ({ c with memory := c.filled text }.advance text.length).Terminated := by
  constructor
  · exact Nat.sub_pos_of_lt h
  · change c.filled text (c.pos + text.length) = 0
    rw [filled_of_fits h, store_at, List.getD_append_right _ _ _ _ le_rfl, Nat.sub_self]
    rfl

theorem filled_append (h : text.length < c.len) (more : List UInt8) :
    ({ c with memory := c.filled text }.advance text.length).filled more =
      c.filled (text ++ more) := by
  have hleft : c.len - text.length ≠ 0 := by omega
  have hlen : c.len ≠ 0 := by omega
  have htake : (text ++ more).take (c.len - 1) ++ [0] =
      text ++ (more.take (c.len - text.length - 1) ++ [0]) := by
    rw [List.take_append, List.take_of_length_le (by omega), List.append_assoc,
      Nat.sub_right_comm]
  have hall : c.filled (text ++ more) =
      c.memory.store c.pos (text ++ (more.take (c.len - text.length - 1) ++ [0])) := by
    rw [Cursor.filled, if_neg hlen, htake]
  rw [hall, Cursor.filled]
  apply (if_neg hleft).trans
  change (c.filled text).store (c.pos + text.length) _ = _
  rw [filled_of_fits h]
  apply store_store
  rw [List.length_append]
  exact Nat.le_add_left _ _

theorem filled_of_not_fits (h : ¬ text.length < c.len) (more : List UInt8) :
    c.filled (text ++ more) = c.filled text := by
  rw [Cursor.filled, Cursor.filled, List.take_append_of_le_length (by omega)]

theorem filled_nil (h : c.Terminated) : c.filled [] = c.memory := by
  have hfits : ([] : List UInt8).length < c.len := h.1
  rw [filled_of_fits hfits]
  funext a
  by_cases ha : a = c.pos
  · rw [ha]
    exact (store_at (m := c.memory) [0] 0).trans h.2.symm
  · rcases Nat.lt_or_gt_of_ne ha with ha | ha
    · exact store_below _ ha
    · exact store_above ha

end Filled

section Prints
variable {ε : Type} {e : ε} {f g : Printer ε Unit} {text more : List UInt8} {c : Cursor}

theorem run_bind_ok (hf : f.run.run c = (.ok (), d)) :
    (f >>= fun _ => g).run.run c = g.run.run d := by
  have := hf
  simp only [ExceptT.run, StateT.run] at this ⊢
  simp only [bind, ExceptT.bind, ExceptT.mk, StateT.bind, ExceptT.bindCont]
  rw [this]

theorem run_bind_error (hf : f.run.run c = (.error e, d)) :
    (f >>= fun _ => g).run.run c = (.error e, d) := by
  have := hf
  simp only [ExceptT.run, StateT.run] at this ⊢
  simp only [bind, ExceptT.bind, ExceptT.mk, StateT.bind, ExceptT.bindCont]
  rw [this]
  rfl

/-- Two prints in a row are one print of both texts. -/
theorem Prints.bind (hf : Prints e f text c) (hg : ∀ d, d.Terminated → Prints e g more d) :
    Prints e (f >>= fun _ => g) (text ++ more) c := by
  rw [Prints, List.length_append]
  by_cases fits : text.length < c.len
  · rw [Prints, if_pos fits] at hf
    have hmore := hg _ (terminated_advance fits)
    rw [Prints] at hmore
    have hleft : (more.length < c.len - text.length) ↔ text.length + more.length < c.len := by
      omega
    change if more.length < c.len - text.length then _ else _ at hmore
    rw [run_bind_ok hf]
    by_cases both : text.length + more.length < c.len
    · rw [if_pos (hleft.mpr both)] at hmore
      rw [if_pos both, hmore, filled_append fits]
      simp only [Cursor.advance, Nat.add_assoc, Nat.sub_sub]
    · rw [if_neg (mt hleft.mp both)] at hmore
      obtain ⟨d, hd, hm⟩ := hmore
      rw [if_neg both]
      exact ⟨d, hd, hm.trans (filled_append fits more)⟩
  · rw [Prints, if_neg fits] at hf
    obtain ⟨d, hd, hm⟩ := hf
    rw [if_neg (by omega)]
    exact ⟨d, run_bind_error hd, hm.trans (filled_of_not_fits fits more).symm⟩

theorem prints_pure (h : c.Terminated) : Prints e (pure ()) [] c := by
  have hlen : ([] : List UInt8).length < c.len := h.1
  rw [Prints, if_pos hlen, filled_nil h]
  rfl

theorem prints_forM {items : List α} {f : α → Printer ε Unit} {line : α → List UInt8}
    (h : ∀ x ∈ items, ∀ d, d.Terminated → Prints e (f x) (line x) d) (hc : c.Terminated) :
    Prints e (items.forM f) (items.flatMap line) c := by
  induction items generalizing c with
  | nil => exact prints_pure hc
  | cons x items ih =>
    rw [List.flatMap_cons]
    change Prints e (f x >>= fun _ => items.forM f) _ c
    apply Prints.bind (h x List.mem_cons_self c hc)
    intro d hd
    exact ih (fun y hy => h y (List.mem_cons_of_mem x hy)) hd

theorem Prints.run_eq (h : Prints e f text c) (fits : text.length < c.len) :
    f.run.run c = (.ok (), { c with memory := c.filled text }.advance text.length) := by
  rw [Prints, if_pos fits] at h
  exact h

/-- Printers one after the other at one cursor, where a failure does not stop the next. The flag
says that none has failed. -/
def runAll (fs : List (Printer ε Unit)) (c : Cursor) : Bool × Cursor :=
  fs.foldl (fun s f => (s.1 && (f.run.run s.2).1.isOk, (f.run.run s.2).2)) (true, c)

theorem foldl_failed (fs : List (Printer ε Unit)) (c : Cursor) :
    (fs.foldl (fun s f => (s.1 && (f.run.run s.2).1.isOk, (f.run.run s.2).2))
      ((false, c) : Bool × Cursor)).1 = false := by
  induction fs generalizing c with
  | nil => rfl
  | cons f fs ih => exact ih (f.run.run c).2

/-- Nothing has failed when all texts together fit, and then they stand there in a row. -/
theorem runAll_spec {items : List α} {f : α → Printer ε Unit} {line : α → List UInt8}
    (h : ∀ x ∈ items, ∀ d, d.Terminated → Prints e (f x) (line x) d) (hc : c.Terminated) :
    if (items.flatMap line).length < c.len then
      runAll (items.map f) c = (true, { c with memory := c.filled (items.flatMap line) }.advance
        (items.flatMap line).length)
    else (runAll (items.map f) c).1 = false := by
  induction items generalizing c with
  | nil =>
    have hlen : (([] : List α).flatMap line).length < c.len := hc.1
    rw [if_pos hlen, List.flatMap_nil, filled_nil hc]
    rfl
  | cons x items ih =>
    have hx := h x List.mem_cons_self c hc
    rw [List.flatMap_cons, List.length_append]
    by_cases fits : (line x).length < c.len
    · have hrun := hx.run_eq fits
      have hrest := ih (fun y hy => h y (List.mem_cons_of_mem x hy)) (terminated_advance fits)
      have hnext : runAll ((x :: items).map f) c = runAll (items.map f)
          ({ c with memory := c.filled (line x) }.advance (line x).length) := by
        rw [runAll, List.map_cons, List.foldl_cons, hrun]
        rfl
      rw [hnext, ← filled_append fits]
      have hleft : (items.flatMap line).length < c.len - (line x).length ↔
          (line x).length + (items.flatMap line).length < c.len := by omega
      change if (items.flatMap line).length < c.len - (line x).length then _ else _ at hrest
      by_cases both : (line x).length + (items.flatMap line).length < c.len
      · rw [if_pos (hleft.mpr both)] at hrest
        rw [if_pos both, hrest]
        simp only [Cursor.advance, Nat.add_assoc, Nat.sub_sub]
      · rw [if_neg (mt hleft.mp both)] at hrest
        rw [if_neg both]
        exact hrest
    · rw [Prints, if_neg fits] at hx
      obtain ⟨d, hd, -⟩ := hx
      rw [if_neg (by omega), runAll, List.map_cons, List.foldl_cons, hd]
      exact foldl_failed _ d

theorem Prints.isOk_iff (h : Prints e f text c) :
    (f.run.run c).1 = .ok () ↔ text.length + 1 ≤ c.len := by
  rw [Prints] at h
  split at h
  · rename_i fits
    rw [h]
    exact ⟨fun _ => fits, fun _ => rfl⟩
  · rename_i fits
    obtain ⟨d, hd, -⟩ := h
    rw [hd]
    exact ⟨nofun, fun hle => absurd hle fits⟩

theorem Prints.memory (h : Prints e f text c) : (f.run.run c).2.memory = c.filled text := by
  rw [Prints] at h
  split at h
  · rw [h]
    rfl
  · obtain ⟨d, hd, hm⟩ := h
    rw [hd]
    exact hm

end Prints

/-- The character of a digit. -/
def digitChar (d : Nat) : UInt8 := UInt8.ofNat (0x30 + d)

/-- `%lu` and its relatives. -/
def decimal (n : Nat) : List UInt8 :=
  if n = 0 then [digitChar 0] else ((Nat.digits 10 n).map digitChar).reverse

/-- `%ld` and its relatives. -/
def signedDecimal (n : Int) : List UInt8 :=
  if n < 0 then 0x2d :: decimal n.natAbs else decimal n.natAbs

/-- A signed conversion with the flag `0` and a field width, in which the sign counts. -/
def zeroPadded (width : Nat) (n : Int) : List UInt8 :=
  let sign : List UInt8 := if n < 0 then [0x2d] else []
  let digits := decimal n.natAbs
  sign ++ List.replicate (width - sign.length - digits.length) (digitChar 0) ++ digits

section Decimal

theorem digit_digitChar (h : d < 10) : digit (digitChar d) = d := by
  revert d
  decide

theorem digitChar_eq_zero (h : d < 10) (h0 : digitChar d = digitChar 0) : d = 0 := by
  have hd := digit_digitChar h
  rw [h0] at hd
  exact hd.symm

theorem decimal_ne_nil (n : Nat) : decimal n ≠ [] := by
  rw [decimal]
  split
  · exact List.cons_ne_nil _ _
  · rename_i hn
    simpa [Nat.digits_ne_nil_iff_ne_zero] using hn

theorem isDigit_decimal (n : Nat) : ∀ c ∈ decimal n, isDigit 10 c = true := by
  intro c hc
  rw [decimal] at hc
  split at hc
  · rw [List.mem_singleton.mp hc]
    rfl
  · obtain ⟨d, hd, rfl⟩ := List.mem_map.mp (List.mem_reverse.mp hc)
    have hlt : d < 10 := Nat.digits_lt_base (by decide) hd
    rw [isDigit, digit_digitChar hlt]
    exact decide_eq_true hlt

theorem value_append (base : Nat) (ds : List UInt8) (c : UInt8) :
    value base (ds ++ [c]) = base * value base ds + digit c := by
  rw [value, List.foldl_append]
  rfl

theorem value_digits {ds : List Nat} (h : ∀ d ∈ ds, d < 10) :
    value 10 (ds.map digitChar).reverse = Nat.ofDigits 10 ds := by
  induction ds with
  | nil => rfl
  | cons d ds ih =>
    rw [List.map_cons, List.reverse_cons, value_append, digit_digitChar (h d List.mem_cons_self),
      ih fun x hx => h x (List.mem_cons_of_mem d hx), Nat.ofDigits_cons, Nat.add_comm]

theorem value_decimal (n : Nat) : value 10 (decimal n) = n := by
  rw [decimal]
  split
  · rename_i hn
    rw [hn]
    rfl
  · rw [value_digits fun d hd => Nat.digits_lt_base (by decide) hd, Nat.ofDigits_digits]

/-- No zero stands in front of other digits. -/
theorem decimal_head (h : (decimal n).head? = some (digitChar 0)) : decimal n = [digitChar 0] := by
  rw [decimal] at h ⊢
  split at h
  · rename_i hn
    rw [if_pos hn]
  · rename_i hn
    have hne : Nat.digits 10 n ≠ [] := Nat.digits_ne_nil_iff_ne_zero.mpr hn
    rw [List.head?_reverse, List.getLast?_map, List.getLast?_eq_getLast_of_ne_nil hne,
      Option.map_some, Option.some.injEq] at h
    have hlt : (Nat.digits 10 n).getLast hne < 10 :=
      Nat.digits_lt_base (by decide) (List.getLast_mem hne)
    exact absurd (digitChar_eq_zero hlt h) (Nat.getLast_digit_ne_zero 10 hn)

end Decimal

end Snprintf
