import Mathlib
import RtcTestbench.Lib.Buffer
import RtcTestbench.Lib.DropOldest

namespace Buffer
open DropOldest
set_option autoImplicit true

/-- The whole blocks of `len` cells at the front of a region, in order. -/
def blocks (len : Nat) (mem : List α) : List (List α) :=
  (List.range (mem.length / len)).map fun i => slice mem (i * len) len

def Uniform (len : Nat) (xss : List (List α)) : Prop := ∀ xs ∈ xss, xs.length = len

variable {xs : List α} {xss : List (List α)} {len : Nat}

theorem Uniform.length_flatten (h : Uniform len xss) :
    xss.flatten.length = xss.length * len := by
  induction xss with
  | nil => simp
  | cons xs xss ih =>
    rw [List.flatten_cons, List.length_append, h xs List.mem_cons_self,
      ih fun ys hy => h ys (List.mem_cons_of_mem _ hy), List.length_cons]
    ring

theorem Uniform.of_subset (h : Uniform len xss) (hs : yss ⊆ xss) : Uniform len yss :=
  fun ys hy => h ys (hs hy)

theorem Uniform.append_singleton (h : Uniform len xss) (hx : xs.length = len) :
    Uniform len (xss ++ [xs]) := by
  intro ys hy
  rcases List.mem_append.mp hy with hy | hy
  · exact h ys hy
  · rw [List.mem_singleton.mp hy, hx]

theorem Uniform.drop_flatten (h : Uniform len xss) (k : Nat) :
    xss.flatten.drop (k * len) = (xss.drop k).flatten := by
  induction k generalizing xss with
  | zero => simp
  | succ k ih =>
    cases xss with
    | nil => simp
    | cons xs xss =>
      have hx : xs.length = len := h xs List.mem_cons_self
      rw [List.flatten_cons, List.drop_succ_cons, Nat.succ_mul, Nat.add_comm, ← List.drop_drop,
        List.drop_append, hx, List.drop_of_length_le (Nat.le_of_eq hx), Nat.sub_self,
        List.drop_zero, List.nil_append, ih fun ys hy => h ys (List.mem_cons_of_mem _ hy)]

theorem Uniform.lastN_flatten (h : Uniform len xss) (k : Nat) :
    lastN (k * len) xss.flatten = (lastN k xss).flatten := by
  rw [lastN, lastN, h.length_flatten, ← Nat.sub_mul, h.drop_flatten]

theorem Uniform.slice_flatten (h : Uniform len xss) (i : Nat) (hi : i < xss.length) :
    slice xss.flatten (i * len) len = xss[i] := by
  have hx : xss[i].length = len := h _ (List.getElem_mem hi)
  rw [slice, h.drop_flatten, List.drop_eq_getElem_cons hi, List.flatten_cons,
    List.take_append, hx, Nat.sub_self, List.take_of_length_le (Nat.le_of_eq hx), List.take_zero,
    List.append_nil]

/-- Cutting a concatenation of equal blocks gives the blocks back. -/
theorem Uniform.blocks_flatten (h : Uniform len xss) (hl : 0 < len) :
    blocks len xss.flatten = xss := by
  rw [blocks, h.length_flatten, Nat.mul_div_cancel _ hl]
  apply List.ext_getElem
  · simp
  · intro i h₁ h₂
    rw [List.getElem_map, List.getElem_range, h.slice_flatten i h₂]

end Buffer
