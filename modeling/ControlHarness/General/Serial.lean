import Mathlib.Data.List.Sort
import Mathlib.Tactic

/-!
Rows numbered from a sequence that never goes back.

`Serial number rows last`: the numbers of the rows increase, and none is past
`last`, the last number that the sequence handed out. Drawing a number keeps it
(`mono`), and so does a row under the next number at the end (`concat`). Rows in
such an order are sorted already (`insertionSort_filter`).
-/

/-- The numbers of the rows increase, and the sequence is past all of them. -/
structure Serial {α : Type*} (number : α → ℕ) (rows : List α) (last : ℕ) : Prop where
  increasing : rows.Pairwise (number · < number ·)
  bounded : ∀ r ∈ rows, number r ≤ last

namespace Serial

variable {α : Type*} {number : α → ℕ} {rows : List α} {last : ℕ}

lemma empty : Serial number [] 0 := ⟨.nil, by simp⟩

lemma mono (h : Serial number rows last) {n : ℕ} (hn : last ≤ n) : Serial number rows n :=
  ⟨h.increasing, fun r hr => (h.bounded r hr).trans hn⟩

/-- A row under the next number goes to the end. -/
lemma concat (h : Serial number rows last) {r : α} (hr : number r = last + 1) :
    Serial number (rows ++ [r]) (last + 1) := by
  constructor
  · rw [List.pairwise_append]
    refine ⟨h.increasing, by simp, fun a ha b hb => ?_⟩
    obtain rfl := List.mem_singleton.mp hb
    have ha' := h.bounded a ha
    omega
  · intro a ha
    rcases List.mem_append.mp ha with ha | ha
    · have ha' := h.bounded a ha
      omega
    · obtain rfl := List.mem_singleton.mp ha
      exact hr.le

/-- Sorting the rows by their number, all or some of them, changes nothing. -/
lemma insertionSort_filter (h : Serial number rows last) (p : α → Bool) :
    (rows.filter p).insertionSort (number · ≤ number ·) = rows.filter p := by
  have hsorted : (rows.filter p).Pairwise (number · ≤ number ·) :=
    (h.increasing.filter p).imp fun hab => hab.le
  exact hsorted.insertionSort_eq

end Serial
