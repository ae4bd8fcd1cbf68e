import CodeReview.Proofs.Path
import CodeReview.Proofs.Report.Save

/-!
Names of reports. Whatever a reviewed file is called and whatever root it is told from, what its
report is named for holds neither a slash nor a dot. So a report stands right in the directory of the
reports, and the only dot of its name is the one that its suffix starts with.
-/

namespace CodeReview

theorem notMem_intercalate {c : Char} {sep : String} (hsep : c ∉ sep.toList) {ns : List String}
    (h : ∀ n ∈ ns, c ∉ n.toList) : c ∉ (String.intercalate sep ns).toList := by
  rw [String.toList_intercalate]
  induction ns with
  | nil => simp
  | cons n ns ih =>
    rw [List.forall_mem_cons] at h
    cases ns with
    | nil => simpa using h.1
    | cons m ms =>
      rw [List.map_cons, List.intercalate_cons_of_ne_nil (by simp)]
      simp only [List.mem_append, not_or]
      exact ⟨⟨h.1, hsep⟩, ih h.2⟩

namespace Report

theorem slash_notMem_of_mem_names {filename n : String} {root : Option Path}
    (h : n ∈ names filename root) : '/' ∉ n.toList := by
  cases root with
  | none => exact Path.slash_notMem_of_mem_parts h
  | some r =>
    simp only [names] at h
    cases hrel : (Path.ofString filename).relativeTo? r with
    | none =>
      rw [hrel] at h
      exact Path.slash_notMem_of_mem_parts h
    | some rest =>
      rw [hrel] at h
      exact Path.slash_notMem_of_mem_parts (Path.mem_parts_of_relativeTo? hrel h)

theorem slash_notMem_stem (filename : String) (root : Option Path) :
    '/' ∉ (stem filename root).toList := by
  have hnames : '/' ∉ (String.intercalate "_" (names filename root)).toList :=
    notMem_intercalate (by decide) fun n hn => slash_notMem_of_mem_names hn
  rw [stem, String.toList_ofList, List.mem_map]
  rintro ⟨c, hc, hslash⟩
  split at hslash
  · cases hslash
  · exact hnames (hslash ▸ hc)

theorem dot_notMem_stem (filename : String) (root : Option Path) :
    '.' ∉ (stem filename root).toList := by
  rw [stem, String.toList_ofList, List.mem_map]
  rintro ⟨c, -, hdot⟩
  split at hdot
  · cases hdot
  · contradiction

/-- A time stamp is made of digits and underscores. -/
def IsStamp (s : String) : Prop :=
  s.toList.all (fun c => c.isDigit || c == '_') = true

instance (s : String) : Decidable (IsStamp s) :=
  inferInstanceAs (Decidable (_ = true))

theorem IsStamp.notMem {s : String} (h : IsStamp s) {c : Char} (hdigit : c.isDigit = false)
    (hscore : c ≠ '_') : c ∉ s.toList := by
  intro hc
  have hmark := List.all_eq_true.1 h c hc
  rw [hdigit, Bool.false_or, beq_iff_eq] at hmark
  exact hscore hmark

def baseName (stem stamp : String) (n : Nat) : String :=
  stem ++ "_" ++ stamp ++ (if n ≤ 1 then "" else "_" ++ toString n)

theorem toList_json : ".json".toList = ['.', 'j', 's', 'o', 'n'] := rfl

theorem fileName_eq (stem stamp : String) (n : Nat) :
    fileName stem stamp n = baseName stem stamp n ++ ".json" := rfl

theorem notMem_toString {c : Char} (hdigit : c.isDigit = false) (n : Nat) :
    c ∉ (toString n).toList := by
  rw [Nat.toString_eq_repr, Nat.toList_repr]
  intro hc
  rw [Nat.isDigit_of_mem_toDigits (by decide) (by decide) hc] at hdigit
  cases hdigit

theorem notMem_baseName {c : Char} {stem stamp : String} (hstem : c ∉ stem.toList)
    (hstamp : c ∉ stamp.toList) (hdigit : c.isDigit = false) (hscore : c ≠ '_') (n : Nat) :
    c ∉ (baseName stem stamp n).toList := by
  have hnumber := notMem_toString hdigit n
  simp only [baseName, String.toList_append, List.mem_append, not_or]
  refine ⟨⟨⟨hstem, by simpa using hscore⟩, hstamp⟩, ?_⟩
  split
  · simp
  · simpa only [String.toList_append, List.mem_append, not_or] using
      ⟨by simpa using hscore, hnumber⟩

theorem baseName_ne_empty (stem stamp : String) (n : Nat) : baseName stem stamp n ≠ "" := by
  intro h
  have hlen := congrArg String.length h
  have hscore : "_".length = 1 := rfl
  simp only [baseName, String.length_append, hscore, String.length_empty] at hlen
  omega

def chosen : Except SaveFault (Path × FileTree) → Path
  | .ok (p, _) => p
  | .error (.path e) => e.path
  | .error (.longLine p) => p

theorem chosen_save (t : FileTree) (directory : Path) (stamp : String) (root : Option Path)
    (r : Review) :
    ∃ n, chosen (save t directory stamp root r) =
      directory.join [fileName (stem r.filename root) stamp n] := by
  obtain ⟨n, -, hpath, -, -⟩ := firstFree_spec t directory (stem r.filename root) stamp
    (t.entries.length + 1) 1
  refine ⟨n, ?_⟩
  by_cases hlong : r.hasLongLine = true
  · rw [save_of_long hlong, hpath, chosen]
  rw [save_of_short (Bool.eq_false_iff.2 hlong), hpath]
  cases hwrite : t.write (directory.join [fileName (stem r.filename root) stamp n]) (bytes r) with
  | ok t' => rfl
  | error e => exact FileTree.path_of_write_error hwrite

/-- The name of a report on any file, told from any root, has no slash, and no dot in front of its
suffix. So the path of the report leads right into the directory of the reports: as a text the name
is a single name, and behind its one dot there is only the suffix. -/
theorem stands_in_directory (filename : String) (root : Option Path) :
    '/' ∉ (stem filename root).toList ∧ '.' ∉ (stem filename root).toList ∧
    ∀ (t : FileTree) (directory : Path) (stamp : String) (r : Review), IsStamp stamp →
      r.filename = filename →
      ∃ base : String, '/' ∉ base.toList ∧ '.' ∉ base.toList ∧
        chosen (save t directory stamp root r) = directory.join [base ++ ".json"] ∧
        (directory.join [base ++ ".json"]).parent = directory ∧
        (directory.join [base ++ ".json"]).suffix = ".json" ∧
        Path.ofString (base ++ ".json") = ⟨.working, [base ++ ".json"]⟩ := by
  refine ⟨slash_notMem_stem filename root, dot_notMem_stem filename root, ?_⟩
  rintro t directory stamp r hstamp rfl
  obtain ⟨n, hchosen⟩ := chosen_save t directory stamp root r
  have hslash : '/' ∉ (baseName (stem r.filename root) stamp n).toList :=
    notMem_baseName (slash_notMem_stem r.filename root) (hstamp.notMem (by decide) (by decide))
      (by decide) (by decide) n
  have hdot : '.' ∉ (baseName (stem r.filename root) stamp n).toList :=
    notMem_baseName (dot_notMem_stem r.filename root) (hstamp.notMem (by decide) (by decide))
      (by decide) (by decide) n
  have hempty : (baseName (stem r.filename root) stamp n).toList ≠ [] := fun h =>
    baseName_ne_empty _ _ n (String.toList_inj.1 h)
  have hone := fileName_ne_dot (stem r.filename root) stamp n
  rw [fileName_eq] at hchosen hone
  generalize baseName (stem r.filename root) stamp n = base at *
  have hname : (base ++ ".json").toList = base.toList ++ '.' :: ['j', 's', 'o', 'n'] := by
    rw [String.toList_append, toList_json]
  refine ⟨base, hslash, hdot, hchosen, Path.parent_join_singleton _ _, ?_, ?_⟩
  · have hlast := Path.name_join_singleton directory (base ++ ".json")
    exact Path.suffix_of_name (hlast.symm ▸ hname) hempty (by decide) (by decide)
  · refine Path.ofString_of_no_slash ?_ (fun h => hone (.inr h)) fun h => hone (.inl h)
    rw [hname, List.mem_append, not_or]
    exact ⟨hslash, by decide⟩

theorem stands_in_directory_outside_root :
    IsStamp "20240102_030405" ∧
    '/' ∉ (stem "/etc/..//x.py/" (some (Path.ofString "src"))).toList ∧
    ∃ base : String, '/' ∉ base.toList ∧ '.' ∉ base.toList ∧
      chosen (save {} (Path.ofString "out") "20240102_030405" (some (Path.ofString "src"))
        (.failure "/etc/..//x.py/" "python" "No answer")) =
          (Path.ofString "out").join [base ++ ".json"] := by
  have hstamp : IsStamp "20240102_030405" := by decide +kernel
  obtain ⟨hslash, -, hpath⟩ :=
    stands_in_directory "/etc/..//x.py/" (some (Path.ofString "src"))
  obtain ⟨base, hno, hdot, hchosen, -⟩ :=
    hpath {} (Path.ofString "out") "20240102_030405"
      (.failure "/etc/..//x.py/" "python" "No answer") hstamp rfl
  exact ⟨hstamp, hslash, base, hno, hdot, hchosen⟩

end Report

end CodeReview
