import RtcTestbench.Lib.Buffer

namespace Bounds
open Buffer
set_option autoImplicit true

/-- Read `len` cells of a buffer whose first `limit` cells may be accessed. -/
def load (limit : Nat) (mem : List α) (off len : Nat) : Option (List α) :=
  if off + len ≤ limit then some (slice mem off len) else none

/-- Copy `src` into a buffer whose first `limit` cells may be accessed. -/
def store (limit : Nat) (mem : List α) (off : Nat) (src : List α) : Option (List α) :=
  if off + src.length ≤ limit then some (write mem off src) else none

def storeAll (limit : Nat) (mem : List α) : List (Nat × List α) → Option (List α)
  | [] => some mem
  | w :: ws => (store limit mem w.1 w.2).bind fun mem => storeAll limit mem ws

/-- A buffer of `limit` cells with nothing in it but `src`. -/
def fill (limit : Nat) (src : List α) : Option (List α) :=
  if src.length ≤ limit then some src else none

/-- The difference of two sizes, unless it wraps around. -/
def sub (a b : Nat) : Option Nat := if b ≤ a then some (a - b) else none

theorem load_of_le (mem : List α) (h : off + len ≤ limit) :
    load limit mem off len = some (slice mem off len) := if_pos h

theorem store_of_le (mem : List α) (h : off + src.length ≤ limit) :
    store limit mem off src = some (write mem off src) := if_pos h

theorem fill_of_le {src : List α} (h : src.length ≤ limit) : fill limit src = some src := if_pos h

theorem sub_of_le (h : b ≤ a) : sub a b = some (a - b) := if_pos h

/-- One step of a checked computation. -/
theorem bind_of_some {x : Option α} {f : α → Option β} (h : x = some a) : (x >>= f) = f a := by
  rw [h]
  rfl

theorem storeAll_of_le (mem : List α) (h : ∀ w ∈ ws, w.1 + w.2.length ≤ limit) :
    storeAll limit mem ws = some (writeAll mem ws) := by
  induction ws generalizing mem with
  | nil => rfl
  | cons w ws ih =>
    rw [storeAll, store_of_le mem (h w List.mem_cons_self), Option.bind_some, writeAll_cons]
    exact ih _ fun w' hw' => h w' (List.mem_cons_of_mem w hw')

end Bounds
