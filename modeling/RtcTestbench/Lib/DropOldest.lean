import RtcTestbench.Lib.Machine

namespace DropOldest
set_option autoImplicit true

/-- A first-in first-out queue that never holds more than `cap` elements. -/
structure Queue (α : Type) (cap : Nat) where
  contents : List α
  bounded : contents.length ≤ cap

def lastN (k : Nat) (xs : List α) : List α := xs.drop (xs.length - k)

theorem length_lastN (k : Nat) (xs : List α) : (lastN k xs).length = min k xs.length := by
  simp only [lastN, List.length_drop]
  omega

theorem getElem?_lastN (k : Nat) (xs : List α) (i : Nat) :
    (lastN k xs)[i]? = xs[xs.length - k + i]? := by
  simp only [lastN, List.getElem?_drop]

def Queue.empty : Queue α cap := ⟨[], Nat.zero_le _⟩

/-- A block that fits displaces the oldest elements; one that cannot fit is ignored. -/
def Queue.add (q : Queue α cap) (data : List α) : Queue α cap :=
  if data.length ≤ cap then
    ⟨lastN (min (q.contents.length + data.length) cap) (q.contents ++ data), by
      rw [length_lastN]; omega⟩
  else q

def Queue.fetch (q : Queue α cap) (len : Nat) : Queue α cap × List α :=
  if len ≤ cap then
    (⟨q.contents.drop (min len q.contents.length), by
        have h := q.bounded
        rw [List.length_drop]; omega⟩,
      q.contents.take (min len q.contents.length))
  else (q, [])

inductive Op (α : Type) where
  | add (data : List α)
  | fetch (len : Nat)

/-- The queue as a reactive system; only `fetch` is observable. -/
def system (α : Type) (cap : Nat) : Machine.System (Queue α cap) (Op α) (Option (List α)) where
  step q
    | .add data => (q.add data, none)
    | .fetch len => ((q.fetch len).1, some (q.fetch len).2)

theorem Queue.add_contents (q : Queue α cap) (h : data.length ≤ cap) :
    (q.add data).contents =
      lastN (min (q.contents.length + data.length) cap) (q.contents ++ data) := by
  simp only [Queue.add, h, ↓reduceIte]

theorem Queue.add_of_gt (q : Queue α cap) (h : cap < data.length) : q.add data = q := by
  simp only [Queue.add, if_neg (Nat.not_le_of_gt h)]

theorem Queue.fetch_fst_contents (q : Queue α cap) (h : len ≤ cap) :
    (q.fetch len).1.contents = q.contents.drop (min len q.contents.length) := by
  simp only [Queue.fetch, h, ↓reduceIte]

theorem Queue.fetch_snd (q : Queue α cap) (h : len ≤ cap) :
    (q.fetch len).2 = q.contents.take (min len q.contents.length) := by
  simp only [Queue.fetch, h, ↓reduceIte]

theorem Queue.fetch_of_gt (q : Queue α cap) (h : cap < len) : q.fetch len = (q, []) := by
  simp only [Queue.fetch, if_neg (Nat.not_le_of_gt h)]

theorem lastN_append (h : ys.length ≤ k) (xs : List α) :
    lastN k (lastN k xs ++ ys) = lastN k (xs ++ ys) := by
  simp only [lastN, List.length_append, List.length_drop]
  rw [List.drop_append_of_le_length (by rw [List.length_drop]; omega), List.drop_drop,
    List.drop_append_of_le_length (by omega)]
  congr 2
  omega

theorem Queue.add_lastN (q : Queue α cap) (hq : q.contents = lastN cap xs)
    (hd : data.length ≤ cap) : (q.add data).contents = lastN cap (xs ++ data) := by
  rw [q.add_contents hd, ← lastN_append hd, ← hq]
  simp only [lastN, List.length_append]
  congr 1
  omega

theorem Queue.fetch_all (q : Queue α cap) : (q.fetch cap).2 = q.contents := by
  rw [q.fetch_snd (Nat.le_refl _), Nat.min_eq_right q.bounded, List.take_length]

theorem Queue.fetch_all_contents (q : Queue α cap) : (q.fetch cap).1.contents = [] := by
  rw [q.fetch_fst_contents (Nat.le_refl _), Nat.min_eq_right q.bounded, List.drop_length]

end DropOldest
