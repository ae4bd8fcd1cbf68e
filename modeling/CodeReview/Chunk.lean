import CodeReview.Text.Basic

/-!
Texts cut into chunks of at most a given size. A chunk is a group of whole segments, which end at
line breaks; only a segment that is larger than a chunk may be is a chunk of its own. Each group
takes as many segments as it can, so there are as few groups as possible.
-/

namespace CodeReview.Chunk

open Text

/-- Puts segments into groups. `held` holds the segments of the group that is being filled, the
last one first, and `size` is their length. -/
def fill (limit : Int) (held : List (List Char)) (size : Nat) :
    List (List Char) → List (List (List Char))
  | [] => if held.isEmpty then [] else [held.reverse]
  | s :: ss =>
    if !held.isEmpty && limit < (size + s.length : Nat) then
      held.reverse :: fill limit [s] s.length ss
    else fill limit (s :: held) (size + s.length) ss

theorem flatten_fill (limit : Int) (held : List (List Char)) (size : Nat)
    (ss : List (List Char)) : (fill limit held size ss).flatten = held.reverse ++ ss := by
  induction ss generalizing held size with
  | nil => cases held <;> simp [fill]
  | cons s ss ih =>
    simp only [fill]
    split <;> simp [ih]

def groups (limit : Int) (t : List Char) : List (List (List Char)) :=
  fill limit [] 0 (segments t)

/-- The chunks of a text. A text that is small enough is one chunk, also when it is empty. -/
def ofText (limit : Int) (t : List Char) : List (List Char) :=
  if t.length ≤ limit then [t] else (groups limit t).map List.flatten

theorem flatten_ofText (limit : Int) (t : List Char) : (ofText limit t).flatten = t := by
  simp only [ofText]
  split
  · simp
  · rw [← List.flatten_flatten, groups, flatten_fill]
    simpa using flatten_segments t

theorem ofText_ne_nil (limit : Int) {t : List Char} (h : t ≠ []) : ofText limit t ≠ [] := by
  intro hnil
  have hflat := flatten_ofText limit t
  rw [hnil] at hflat
  exact h hflat.symm

end CodeReview.Chunk
