import CodeReview.Text.CharClass

/-!
Plain operations on texts. A text is a `String`; the functions that walk through it work on its
list of characters, and each has a form on strings where a caller holds a string.
-/

namespace CodeReview.Text

def trimStart (t : List Char) : List Char :=
  t.dropWhile isBlank

def trimEnd (t : List Char) : List Char :=
  (t.reverse.dropWhile isBlank).reverse

def trim (t : List Char) : List Char :=
  trimEnd (trimStart t)

def strip (s : String) : String :=
  String.ofList (trim s.toList)

def isBlankText (s : String) : Bool :=
  s.toList.all isBlank

/-- The lines of a text, which line feeds separate: one more than there are line feeds. -/
def lines (t : List Char) : List (List Char) :=
  t.splitOn '\n'

/-- The text cut after each line break; a carriage return and a line feed make one break. -/
def segments : List Char → List (List Char)
  | [] => []
  | '\r' :: '\n' :: t => ['\r', '\n'] :: segments t
  | c :: t =>
    if isLineBreak c then [c] :: segments t
    else match segments t with
      | [] => [[c]]
      | s :: ss => (c :: s) :: ss

theorem flatten_segments (t : List Char) : (segments t).flatten = t := by
  fun_induction segments t with
  | case1 => rfl
  | case2 t ih => simp [ih]
  | case3 c t _ hc ih => simp [ih]
  | case4 c t _ hc h ih =>
    rw [h] at ih
    simp only [List.flatten_nil] at ih
    simp [← ih]
  | case5 c t _ hc s ss h ih =>
    rw [h] at ih
    simp [← ih]

theorem ne_nil_of_mem_segments {t s : List Char} (h : s ∈ segments t) : s ≠ [] := by
  fun_induction segments t with
  | case1 => simp at h
  | case2 t ih =>
    rcases List.mem_cons.1 h with rfl | h
    · simp
    · exact ih h
  | case3 c t _ hc ih =>
    rcases List.mem_cons.1 h with rfl | h
    · simp
    · exact ih h
  | case4 c t _ hc hs ih =>
    simp only [List.mem_singleton] at h
    simp [h]
  | case5 c t _ hc s' ss hs ih =>
    rcases List.mem_cons.1 h with rfl | h
    · simp
    · exact ih (by simp [hs, h])

def after? : (word text : List Char) → Option (List Char)
  | [], t => some t
  | _ :: _, [] => none
  | w :: ws, c :: t => if w = c then after? ws t else none

theorem after?_append (w t : List Char) : after? w (w ++ t) = some t := by
  induction w with
  | nil => simp [after?]
  | cons c w ih => simp [after?, ih]

theorem after?_eq_some_iff {w t r : List Char} : after? w t = some r ↔ t = w ++ r := by
  constructor
  · intro h
    induction w generalizing t with
    | nil => simpa [after?] using h
    | cons c w ih =>
      cases t with
      | nil => simp [after?] at h
      | cons d t =>
        simp only [after?] at h
        split at h
        · next hcd => simp [hcd, ih h]
        · simp at h
  · rintro rfl
    exact after?_append w r

def startsWith (word text : List Char) : Bool :=
  (after? word text).isSome

def occursIn (word : List Char) : List Char → Bool
  | [] => word.isEmpty
  | c :: t => startsWith word (c :: t) || occursIn word t

def contains (text word : String) : Bool :=
  occursIn word.toList text.toList

def dropTrailing (c : Char) (t : List Char) : List Char :=
  (t.reverse.dropWhile (· == c)).reverse

end CodeReview.Text
