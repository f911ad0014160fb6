import Mathlib

namespace XskRing
set_option autoImplicit true

/-- The producer's end of a ring: entries it has reserved, and entries it has published that the
other side has not taken yet. -/
structure Producer (α : Type) where
  size : Nat
  reserved : List α
  submitted : List α
  fits : reserved.length + submitted.length ≤ size

def Producer.empty (α : Type) (size : Nat) : Producer α := ⟨size, [], [], Nat.zero_le size⟩

/-- Reserve one slot per entry and fill them. It fails only if there are fewer free slots. -/
def Producer.reserve (r : Producer α) (xs : List α) : Option (Producer α) :=
  if h : r.reserved.length + r.submitted.length + xs.length ≤ r.size then
    some { r with
      reserved := r.reserved ++ xs
      fits := by rw [List.length_append, Nat.add_right_comm]; exact h }
  else none

def Producer.submit (r : Producer α) (k : Nat) : Producer α where
  size := r.size
  reserved := r.reserved.drop k
  submitted := r.submitted ++ r.reserved.take k
  fits := by
    have h := r.fits
    rw [List.length_append, List.length_drop, List.length_take]
    omega

def Producer.take (r : Producer α) : Option (α × Producer α) :=
  match h : r.submitted with
  | [] => none
  | x :: xs => some (x, { r with
      submitted := xs
      fits := by
        have hfits := r.fits
        rw [h, List.length_cons] at hfits
        omega })

/-- The consumer's end of a ring: the entries the other side has published. -/
structure Consumer (α : Type) where
  size : Nat
  entries : List α
  fits : entries.length ≤ size

def Consumer.empty (α : Type) (size : Nat) : Consumer α := ⟨size, [], Nat.zero_le size⟩

/-- The oldest entries, `nb` at most. The consumer sees as many as its copy of the producer index
shows. -/
def Consumer.peek (r : Consumer α) (nb visible : Nat) : List α := r.entries.take (min nb visible)

def Consumer.release (r : Consumer α) (k : Nat) : Consumer α where
  size := r.size
  entries := r.entries.drop k
  fits := by
    rw [List.length_drop]
    exact Nat.le_trans (Nat.sub_le _ _) r.fits

def Consumer.put (r : Consumer α) (x : α) : Option (Consumer α) :=
  if h : r.entries.length < r.size then
    some { r with
      entries := r.entries ++ [x]
      fits := by rw [List.length_append]; exact h }
  else none

theorem Producer.reserve_spec {r r' : Producer α} (h : r.reserve xs = some r') :
    r'.size = r.size ∧ r'.reserved = r.reserved ++ xs ∧ r'.submitted = r.submitted := by
  unfold Producer.reserve at h
  split at h
  · cases h
    exact ⟨rfl, rfl, rfl⟩
  · cases h

theorem Producer.reserve_of_fits (r : Producer α) (xs : List α)
    (h : r.reserved.length + r.submitted.length + xs.length ≤ r.size) :
    ∃ r', r.reserve xs = some r' := by
  rw [Producer.reserve, dif_pos h]
  exact ⟨_, rfl⟩

/-- Entries that are reserved and submitted at once go behind those submitted before. -/
theorem Producer.reserve_submit {r r' : Producer α} (h : r.reserve xs = some r')
    (hr : r.reserved = []) :
    (r'.submit xs.length).reserved = [] ∧
      (r'.submit xs.length).submitted = r.submitted ++ xs := by
  obtain ⟨-, hreserved, hsubmitted⟩ := Producer.reserve_spec h
  rw [hr, List.nil_append] at hreserved
  change r'.reserved.drop xs.length = [] ∧ r'.submitted ++ r'.reserved.take xs.length = _
  rw [hreserved, hsubmitted, List.drop_length, List.take_length]
  exact ⟨rfl, rfl⟩

theorem Producer.take_spec {r r' : Producer α} (h : r.take = some (x, r')) :
    r'.size = r.size ∧ r'.reserved = r.reserved ∧ r.submitted = x :: r'.submitted := by
  unfold Producer.take at h
  split at h
  · cases h
  · next hs =>
    cases h
    exact ⟨rfl, rfl, hs⟩

theorem Consumer.length_peek_le (r : Consumer α) (nb visible : Nat) :
    (r.peek nb visible).length ≤ nb :=
  Nat.le_trans (List.length_take_le _ _) (Nat.min_le_left _ _)

/-- What is released after a peek is exactly what was seen. -/
theorem Consumer.peek_append_release (r : Consumer α) (nb visible : Nat) :
    r.peek nb visible ++ (r.release (r.peek nb visible).length).entries = r.entries := by
  simp only [Consumer.peek, Consumer.release, List.length_take]
  rw [List.take_eq_take_min, List.take_append_drop]

theorem Producer.submit_perm (r : Producer α) (k : Nat) :
    ((r.submit k).reserved ++ (r.submit k).submitted).Perm (r.reserved ++ r.submitted) := by
  have hcomm : (r.reserved.drop k ++ r.submitted ++ r.reserved.take k).Perm
      (r.reserved.take k ++ (r.reserved.drop k ++ r.submitted)) := List.perm_append_comm
  rw [← List.append_assoc, List.take_append_drop, List.append_assoc] at hcomm
  exact hcomm

theorem Consumer.put_spec {r r' : Consumer α} (h : r.put x = some r') :
    r'.entries = r.entries ++ [x] := by
  unfold Consumer.put at h
  split at h
  · cases h
    rfl
  · cases h

theorem Producer.take_of_submitted {r : Producer α} (h : r.submitted = x :: xs) :
    ∃ r', r.take = some (x, r') := by
  unfold Producer.take
  split
  · next h' => cases h.symm.trans h'
  · next h' =>
    cases h.symm.trans h'
    exact ⟨_, rfl⟩

end XskRing
