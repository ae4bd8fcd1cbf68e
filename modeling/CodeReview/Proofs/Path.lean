import CodeReview.Path
import CodeReview.Proofs.Text.Line
import CodeReview.Proofs.Text.Start
import Mathlib.Data.List.Basic
import Mathlib.Data.List.TakeWhile

/-!
Paths and their texts. The names of a path hold no slash, a text that holds none is a single name, and
the names of a path behind another one are among its own.
-/

namespace CodeReview

namespace Path

theorem slash_notMem_of_mem_names {t : List Char} {n : String} (h : n ∈ names t) :
    '/' ∉ n.toList := by
  obtain ⟨w, hw, rfl⟩ := List.mem_map.1 h
  rw [String.toList_ofList]
  exact notMem_of_mem_splitOn (List.mem_filter.1 hw).1

theorem slash_notMem_of_mem_parts {s n : String} (h : n ∈ (ofString s).parts) :
    '/' ∉ n.toList :=
  slash_notMem_of_mem_names h

theorem names_of_no_slash {t : List Char} (hslash : '/' ∉ t) (hempty : t ≠ [])
    (hdot : t ≠ ['.']) : names t = [String.ofList t] := by
  rw [names, List.splitOn_eq_singleton hslash]
  simp [hempty, hdot]

theorem rootOf_of_no_slash {t : List Char} (hslash : '/' ∉ t) : rootOf t = .working := by
  cases t with
  | nil => rfl
  | cons c t =>
    rw [List.mem_cons, not_or] at hslash
    have hfirst : (c == '/') = false := by simpa using Ne.symm hslash.1
    simp [rootOf, hfirst]

theorem ofString_of_no_slash {s : String} (hslash : '/' ∉ s.toList) (hempty : s ≠ "")
    (hdot : s ≠ ".") : ofString s = ⟨.working, [s]⟩ := by
  have hnil : s.toList ≠ [] := fun h => hempty (String.toList_inj.1 h)
  have hone : s.toList ≠ ['.'] := fun h => hdot (String.toList_inj.1 h)
  rw [ofString, names_of_no_slash hslash hnil hone, rootOf_of_no_slash hslash,
    String.ofList_toList]

def Clean (p : Path) : Prop :=
  ∀ n ∈ p.parts, ¬(n = "." ∨ n = "")

theorem clean_ofString (s : String) : (ofString s).Clean := by
  intro n hn
  obtain ⟨w, hw, rfl⟩ := List.mem_map.1 hn
  have hne := (List.mem_filter.1 hw).2
  simp only [Bool.and_eq_true, bne_iff_ne, ne_eq] at hne
  rintro (hdot | hempty)
  · exact hne.2 (by simpa using congrArg String.toList hdot)
  · exact hne.1 (by simpa using congrArg String.toList hempty)

theorem Clean.parent {p : Path} (h : p.Clean) : p.parent.Clean :=
  fun n hn => h n (List.dropLast_subset _ hn)

theorem names_intercalate {parts : List String} (hne : parts ≠ [])
    (hclean : ∀ n ∈ parts, ¬(n = "." ∨ n = "")) (hslash : ∀ n ∈ parts, '/' ∉ n.toList) :
    names (['/'].intercalate (parts.map String.toList)) = parts := by
  have hsplit : (['/'].intercalate (parts.map String.toList)).splitOn '/' =
      parts.map String.toList :=
    List.splitOn_intercalate '/' (by simpa using hslash) (by simpa using hne)
  have hkept : (parts.map String.toList).filter (fun n => n != [] && n != ['.']) =
      parts.map String.toList := by
    refine List.filter_eq_self.2 fun w hw => ?_
    obtain ⟨n, hn, rfl⟩ := List.mem_map.1 hw
    obtain ⟨hdot, hempty⟩ := not_or.1 (hclean n hn)
    rw [Bool.and_eq_true, bne_iff_ne, bne_iff_ne]
    exact ⟨fun h => hempty (String.toList_inj.1 h), fun h => hdot (String.toList_inj.1 h)⟩
  rw [names, hsplit, hkept, List.map_map]
  exact List.map_id'' (fun n => String.ofList_toList) parts

theorem names_slash_cons (t : List Char) : names ('/' :: t) = names t := by
  simp [names, List.splitOn_cons_eq_if_modifyHead]

theorem names_root (root : PathRoot) (t : List Char) :
    names (root.text.toList ++ t) = names t := by
  cases root with
  | working => rfl
  | single => exact names_slash_cons t
  | double => exact (names_slash_cons _).trans (names_slash_cons t)

theorem rootOf_root (root : PathRoot) {t : List Char} (h : t.head? ≠ some '/') :
    rootOf (root.text.toList ++ t) = root := by
  have hnone : t.takeWhile (· == '/') = [] := by
    cases t with
    | nil => rfl
    | cons c t => exact List.takeWhile_cons_of_neg (by simpa using h)
  cases root <;> simp [rootOf, PathRoot.text, hnone]

theorem head?_intercalate_ne_slash {n : String} {ns : List String} (hempty : n ≠ "")
    (hslash : '/' ∉ n.toList) :
    (['/'].intercalate ((n :: ns).map String.toList)).head? ≠ some '/' := by
  cases hn : n.toList with
  | nil => exact absurd (String.toList_inj.1 hn) hempty
  | cons c cs =>
    rw [hn, List.mem_cons, not_or] at hslash
    have hfirst : c ≠ '/' := Ne.symm hslash.1
    cases ns <;> simp [hn, hfirst, List.intercalate]

theorem ofString_toString {p : Path} (hclean : p.Clean) (hslash : ∀ n ∈ p.parts, '/' ∉ n.toList) :
    ofString p.toString = p := by
  obtain ⟨root, parts⟩ := p
  cases parts with
  | nil => cases root <;> decide
  | cons n ns =>
    have htext : (toString ⟨root, n :: ns⟩).toList =
        root.text.toList ++ ['/'].intercalate ((n :: ns).map String.toList) := by
      rw [toString, if_neg (by simp), String.toList_append, String.toList_intercalate]
      rfl
    have hempty : n ≠ "" := fun h => hclean n List.mem_cons_self (.inr h)
    rw [ofString, htext, names_root, names_intercalate (by simp) hclean hslash,
      rootOf_root root (head?_intercalate_ne_slash hempty (hslash n List.mem_cons_self))]

theorem intercalate_append_last {α : Type} (sep : List α) (ls : List (List α)) (a b : List α) :
    sep.intercalate (ls ++ [a ++ b]) = sep.intercalate (ls ++ [a]) ++ b := by
  induction ls with
  | nil => simp [List.intercalate]
  | cons l ls ih =>
    rw [List.cons_append, List.cons_append, List.intercalate_cons_of_ne_nil (by simp),
      List.intercalate_cons_of_ne_nil (by simp), ih]
    simp only [List.append_assoc]

theorem toString_join_append (p : Path) (a b : String) :
    (p.join [a ++ b]).toString = (p.join [a]).toString ++ b := by
  have hne : ∀ n : String, ¬((p.join [n]).root = .working ∧ (p.join [n]).parts = []) := by
    simp [join]
  rw [toString, toString, if_neg (hne _), if_neg (hne _), ← String.toList_inj]
  simp only [join, String.toList_append, String.toList_intercalate, List.map_append, List.map_cons,
    List.map_nil, intercalate_append_last, List.append_assoc]

theorem eq_append_of_namesAfter? {start ns rest : List String}
    (h : namesAfter? start ns = some rest) : ns = start ++ rest := by
  induction start generalizing ns with
  | nil => simpa [namesAfter?] using h
  | cons s start ih =>
    cases ns with
    | nil => cases h
    | cons n ns =>
      rw [namesAfter?] at h
      split at h
      · next heq => rw [heq, ih h, List.cons_append]
      · cases h

theorem namesAfter?_eq_some_iff {start ns rest : List String} :
    namesAfter? start ns = some rest ↔ ns = start ++ rest := by
  refine ⟨eq_append_of_namesAfter?, ?_⟩
  rintro rfl
  induction start with
  | nil => rfl
  | cons s start ih => simpa [namesAfter?] using ih

theorem mem_parts_of_relativeTo? {p base : Path} {rest : List String} {n : String}
    (h : p.relativeTo? base = some rest) (hn : n ∈ rest) : n ∈ p.parts := by
  rw [relativeTo?] at h
  split at h
  · rw [eq_append_of_namesAfter? h]
    exact List.mem_append_right _ hn
  · cases h

theorem join_join (p : Path) (ns ms : List String) : (p.join ns).join ms = p.join (ns ++ ms) := by
  simp [join]

theorem parent_join {p : Path} {n : String} (h : p.parts.getLast? = some n) :
    p.parent.join [n] = p := by
  obtain ⟨init, hinit⟩ := List.getLast?_eq_some_iff.1 h
  cases p
  simp_all [parent, join]

theorem parent_join_singleton (p : Path) (n : String) : (p.join [n]).parent = p := by
  simp [join, parent]

theorem name_join_singleton (p : Path) (n : String) : (p.join [n]).name = n := by
  simp [join, name]

theorem splitName_append {before ending : List Char} (hbefore : before ≠ []) (hending : ending ≠ [])
    (hdot : '.' ∉ ending) : splitName (before ++ '.' :: ending) = (before, '.' :: ending) := by
  have hbehind : ((before ++ '.' :: ending).reverse.takeWhile (· != '.')).reverse = ending := by
    have hall : ∀ c ∈ ending.reverse, (c != '.') = true := by
      intro c hc
      rw [List.mem_reverse] at hc
      simpa using fun h : c = '.' => hdot (h ▸ hc)
    rw [List.reverse_append, List.reverse_cons, List.append_assoc, List.singleton_append,
      Text.takeWhile_append_cons (by decide), List.takeWhile_eq_self_iff.2 hall,
      List.reverse_reverse]
  have hlength : (before ++ '.' :: ending).length - ending.length - 1 = before.length := by
    simp only [List.length_append, List.length_cons]
    omega
  simp only [splitName, hbehind, hlength, List.take_left']
  simp [hbefore, hending]

theorem suffix_of_name {p : Path} {before ending : List Char}
    (hname : p.name.toList = before ++ '.' :: ending) (hbefore : before ≠ []) (hending : ending ≠ [])
    (hdot : '.' ∉ ending) : p.suffix = String.ofList ('.' :: ending) := by
  rw [suffix, hname, splitName_append hbefore hending hdot]

theorem suffix_join (p : Path) {names : List String} (hne : names ≠ []) (root : PathRoot)
    (at_ : List String) : (p.join names).suffix = suffix ⟨root, at_ ++ names⟩ := by
  simp only [suffix, name, join, List.getLast?_append_of_ne_nil _ hne]

end Path

end CodeReview
