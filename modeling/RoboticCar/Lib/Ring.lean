import Mathlib.Data.List.DropRight

/-!
# Ring buffers

`head` is the slot of the next push and `count` the number of slots in use; `view` reads the ring
from its oldest element on, and `view_push` says that it shows the last elements of the history.
-/

namespace RoboticCar.Lib.Ring

variable {α : Type*} {buf : ℕ → α} {cap head count : ℕ}

/-- The slot of the element number `i`, the oldest one being number 0. -/
def slot (cap head count i : ℕ) : ℕ := (head + cap - count + i) % cap

/-- The elements, the oldest first. -/
def view (buf : ℕ → α) (cap head count : ℕ) : List α :=
  (List.range count).map fun i => buf (slot cap head count i)

@[simp]
theorem length_view : (view buf cap head count).length = count := by simp [view]

@[simp]
theorem view_zero : view buf cap head 0 = [] := rfl

theorem slot_eq (hhead : head < cap) (hcount : count ≤ cap) {i : ℕ} (hi : i ≤ count) :
    slot cap head count i =
      if head + cap - count + i < cap then head + cap - count + i else head + i - count := by
  unfold slot
  split_ifs with h
  · exact Nat.mod_eq_of_lt h
  · rw [Nat.mod_eq_sub_mod (by omega)]
    by_cases hfull : head + cap - count + i - cap < cap
    · rw [Nat.mod_eq_of_lt hfull]
      omega
    · omega

/-- A slot that is in use is not the next one to be written, while there is a free one. -/
theorem slot_ne_head (hhead : head < cap) (hcount : count < cap) {i : ℕ} (hi : i < count) :
    slot cap head count i ≠ head := by
  rw [slot_eq hhead hcount.le hi.le]
  split_ifs <;> omega

/-- After a push the slots are those of the old ring with room for one more element. -/
theorem slot_succ (hhead : head < cap) (hcount : count < cap) {i : ℕ} (hi : i ≤ count) :
    slot cap ((head + 1) % cap) (count + 1) i = slot cap head count i := by
  have hnext : (head + 1) % cap = if head + 1 < cap then head + 1 else 0 := by
    split_ifs with h
    · exact Nat.mod_eq_of_lt h
    · rw [show head + 1 = cap by omega, Nat.mod_self]
  have hlt : (head + 1) % cap < cap := Nat.mod_lt _ (by omega)
  rw [slot_eq hlt hcount (by omega), slot_eq hhead hcount.le hi, hnext]
  split_ifs <;> omega

/-- The newest element is in the slot before the head. -/
theorem slot_last (hhead : head < cap) (hcount : count < cap) :
    slot cap head count count = head := by
  rw [slot_eq hhead hcount.le le_rfl]
  split_ifs <;> omega

theorem view_push_of_lt (hhead : head < cap) (hcount : count < cap) (a : α) :
    view (Function.update buf head a) cap ((head + 1) % cap) (count + 1) =
      view buf cap head count ++ [a] := by
  rw [view, List.range_succ, List.map_append, List.map_singleton]
  congr 1
  · refine List.map_congr_left fun i hi => ?_
    have hi : i < count := List.mem_range.1 hi
    rw [slot_succ hhead hcount hi.le, Function.update_of_ne (slot_ne_head hhead hcount hi)]
  · rw [slot_succ hhead hcount le_rfl, slot_last hhead hcount, Function.update_self]

/-- A full ring without its oldest element. -/
theorem view_pred (hhead : head < cap) :
    view buf cap head (cap - 1) = (view buf cap head cap).tail := by
  obtain ⟨n, rfl⟩ : ∃ n, cap = n + 1 := ⟨cap - 1, by omega⟩
  rw [view, view, List.range_succ_eq_map, List.map_cons, List.tail_cons, List.map_map]
  refine List.map_congr_left fun i _ => ?_
  simp only [Function.comp_apply, slot]
  congr 2
  omega

/-- **A push**: the ring holds the last elements of its history. -/
theorem view_push {h : List α} (hhead : head < cap) (hcount : count ≤ cap)
    (hview : view buf cap head count = h.rtake cap) (a : α) :
    view (Function.update buf head a) cap ((head + 1) % cap) (min cap (count + 1)) =
      (h ++ [a]).rtake cap := by
  have hlength : count = min cap h.length := by
    have hlen := congrArg List.length hview
    rw [length_view, List.rtake, List.length_drop] at hlen
    omega
  obtain ⟨n, rfl⟩ : ∃ n, cap = n + 1 := ⟨cap - 1, by omega⟩
  rw [List.rtake_concat_succ]
  rcases hcount.lt_or_eq with hlt | rfl
  · have hall : h.rtake (n + 1) = h.rtake n := by
      simp only [List.rtake]
      congr 1
      omega
    rw [min_eq_right hlt, view_push_of_lt hhead hlt, hview, hall]
  · have hfull : (h.rtake (n + 1)).tail = h.rtake n := by
      rw [List.rtake, List.tail_drop, List.rtake]
      congr 1
      omega
    rw [min_eq_left (Nat.le_succ _), view_push_of_lt hhead (Nat.lt_succ_self n), ← hfull, ← hview]
    exact congrArg (· ++ [a]) (view_pred hhead)

end RoboticCar.Lib.Ring
