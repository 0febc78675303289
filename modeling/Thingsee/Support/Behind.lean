import Mathlib.Data.List.Basic

/-!
Owns what stands behind an element of a list, where elements have keys that tell them apart. A
walk that only knows the key of its element finds the next one there, also after elements were
removed, added or changed.
-/

namespace Thingsee.Support

open List

universe u v

variable {α : Type u} {κ : Type v} [DecidableEq κ] (key : α → κ)

def behind (place : κ) (list : List α) : List α :=
  (list.dropWhile fun element => decide (key element ≠ place)).tail

variable {key} {place : κ} {list : List α}

theorem exists_split (found : place ∈ list.map key) :
    ∃ front element back, list = front ++ element :: back ∧ key element = place ∧
      place ∉ front.map key := by
  induction list with
  | nil => cases found
  | cons first rest ih =>
    by_cases here : key first = place
    · exact ⟨[], first, rest, rfl, here, not_mem_nil⟩
    · have later : place ∈ rest.map key := by
        rcases mem_cons.mp found with same | inRest
        · exact absurd same.symm here
        · exact inRest
      obtain ⟨front, element, back, same, isKey, notBefore⟩ := ih later
      refine ⟨first :: front, element, back, ?_, isKey, ?_⟩
      · rw [same, cons_append]
      · rw [map_cons, mem_cons, not_or]
        exact ⟨fun same => here same.symm, notBefore⟩

theorem behind_split {front back : List α} {element : α} (notBefore : key element ∉ front.map key) :
    behind key (key element) (front ++ element :: back) = back := by
  unfold behind
  induction front with
  | nil =>
    rw [nil_append, dropWhile_cons_of_neg (by simp)]
    rfl
  | cons first rest ih =>
    rw [map_cons, mem_cons, not_or] at notBefore
    rw [cons_append,
      dropWhile_cons_of_pos (by simpa using fun same => notBefore.1 same.symm)]
    exact ih notBefore.2

theorem behind_append (found : place ∈ list.map key) (more : List α) :
    behind key place (list ++ more) = behind key place list ++ more := by
  obtain ⟨front, element, back, rfl, rfl, notBefore⟩ := exists_split found
  rw [append_assoc, cons_append, behind_split notBefore, behind_split notBefore]

theorem behind_last {element : α} (notBefore : key element ∉ list.map key) :
    behind key (key element) (list ++ [element]) = [] := behind_split notBefore

theorem behind_filter (keep : α → Bool) (found : place ∈ list.map key)
    (kept : ∀ element, key element = place → keep element = true) :
    behind key place (list.filter keep) = (behind key place list).filter keep := by
  obtain ⟨front, element, back, rfl, rfl, notBefore⟩ := exists_split found
  have notKept : key element ∉ (front.filter keep).map key := by
    intro before
    obtain ⟨other, found, same⟩ := mem_map.mp before
    exact notBefore (mem_map.mpr ⟨other, mem_of_mem_filter found, same⟩)
  rw [filter_append, filter_cons_of_pos (kept element rfl), behind_split notKept,
    behind_split notBefore]

theorem behind_map (change : α → α) (same : ∀ element, key (change element) = key element)
    (found : place ∈ list.map key) :
    behind key place (list.map change) = (behind key place list).map change := by
  obtain ⟨front, element, back, rfl, rfl, notBefore⟩ := exists_split found
  have keys : (front.map change).map key = front.map key := by
    rw [map_map]
    exact map_congr_left fun other _ => same other
  rw [map_append, map_cons, ← same element, behind_split (by rwa [keys, same]),
    same element, behind_split notBefore]

theorem behind_suffix (place : κ) (list : List α) : behind key place list <:+ list :=
  (tail_suffix _).trans (dropWhile_suffix _)

end Thingsee.Support
