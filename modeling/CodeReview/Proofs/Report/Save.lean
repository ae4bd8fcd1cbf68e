import CodeReview.Proofs.FileTree.Walk
import CodeReview.Report
import Mathlib.Data.List.Nodup
import Mathlib.Data.List.Perm.Subperm

/-!
Saving reviews. In a usable directory the search for a free name ends at one, and each review comes
to be a file of its own behind everything that the tree has held before.
-/

namespace CodeReview.Report

def bytes (r : Review) : List UInt8 :=
  Text.Utf8.encode r.text.toList

theorem two_lt_length_fileName (stem stamp : String) (n : Nat) :
    2 < (fileName stem stamp n).length := by
  have hjson : ".json".length = 5 := rfl
  simp only [fileName, String.length_append, hjson]
  omega

theorem fileName_ne_dot (stem stamp : String) (n : Nat) :
    ¬(fileName stem stamp n = "." ∨ fileName stem stamp n = "") := by
  have hlen := two_lt_length_fileName stem stamp n
  rintro (h | h)
  · rw [h] at hlen
    exact absurd hlen (by decide)
  · rw [h] at hlen
    exact absurd hlen (by decide)

theorem fileName_ne_up (stem stamp : String) (n : Nat) : fileName stem stamp n ≠ ".." := by
  intro h
  have hlen := two_lt_length_fileName stem stamp n
  rw [h] at hlen
  exact absurd hlen (by decide)

theorem eq_of_fileName_eq {stem stamp : String} {n m : Nat} (hn : 1 ≤ n) (hm : 1 ≤ m)
    (h : fileName stem stamp n = fileName stem stamp m) : n = m := by
  simp only [fileName, String.append_left_inj, String.append_right_inj] at h
  have hne : ∀ k : Nat, "" ≠ "_" ++ toString k := fun k hk => by
    have hlen := congrArg String.length hk
    have hempty : "".length = 0 := rfl
    have hscore : "_".length = 1 := rfl
    rw [String.length_append] at hlen
    omega
  split at h
  · split at h
    · omega
    · exact absurd h (hne m)
  · split at h
    · exact absurd h.symm (hne n)
    · have hdigits := congrArg String.toList (String.append_right_inj _ |>.1 h)
      rw [Nat.toString_eq_repr, Nat.toString_eq_repr, Nat.toList_repr, Nat.toList_repr] at hdigits
      have hvalue := congrArg (Nat.ofDigitChars 10 · 0) hdigits
      simpa only [Nat.ofDigitChars_toDigits (b := 10) (by decide) (by decide)] using hvalue

theorem firstFree_spec (t : FileTree) (directory : Path) (stem stamp : String) (fuel n : Nat) :
    ∃ m, n ≤ m ∧
      firstFree t directory stem stamp fuel n = directory.join [fileName stem stamp m] ∧
      (∀ i, n ≤ i → i < m → t.exists_ (directory.join [fileName stem stamp i]) = true) ∧
      (m < n + fuel → t.exists_ (directory.join [fileName stem stamp m]) = false) := by
  induction fuel generalizing n with
  | zero => exact ⟨n, Nat.le_refl n, rfl, fun i hi hlt => by omega, fun h => by omega⟩
  | succ fuel ih =>
    by_cases htaken : t.exists_ (directory.join [fileName stem stamp n]) = true
    · obtain ⟨m, hle, heq, hbefore, hfree⟩ := ih (n + 1)
      refine ⟨m, by omega, by rw [firstFree, if_pos htaken, heq], fun i hi hlt => ?_,
        fun h => hfree (by omega)⟩
      obtain rfl | hlt' := Nat.eq_or_lt_of_le hi
      · exact htaken
      · exact hbefore i hlt' hlt
    · exact ⟨n, Nat.le_refl n, by rw [firstFree, if_neg htaken], fun i hi hlt => by omega,
        fun _ => by simpa using htaken⟩

theorem mem_entries_of_exists {t : FileTree} {directory : Path} {at_ : Location}
    (hdir : t.find directory = .ok (.taken at_ .directory)) {stem stamp : String} {n : Nat}
    (h : t.exists_ (directory.join [fileName stem stamp n]) = true) :
    at_ ++ [fileName stem stamp n] ∈ t.entries.map (·.1) := by
  -- the name itself is an entry, even where it is a link to one that stands elsewhere
  obtain ⟨k, hk⟩ := FileTree.find_join hdir
  simp only [FileTree.exists_, hk] at h
  split at h
  · next hwalk =>
    have hne := FileTree.entry?_ne_none_of_walk_taken (fileName_ne_dot stem stamp n)
      (fileName_ne_up stem stamp n) hwalk
    obtain ⟨e, he⟩ := Option.ne_none_iff_exists'.1 hne
    exact List.mem_map.2 ⟨_, FileTree.mem_entries_of_entry (by simp) he, rfl⟩
  · cases h

theorem exists_free_name {t : FileTree} {directory : Path} {at_ : Location}
    (hdir : t.find directory = .ok (.taken at_ .directory)) (stem stamp : String) :
    ∃ n, 1 ≤ n ∧ n ≤ t.entries.length + 1 ∧
      t.exists_ (directory.join [fileName stem stamp n]) = false := by
  by_contra hall
  have htaken : ∀ n ∈ List.range' 1 (t.entries.length + 1),
      t.exists_ (directory.join [fileName stem stamp n]) = true := by
    intro n hn
    rw [List.mem_range'_1] at hn
    by_contra hfree
    exact hall ⟨n, hn.1, by omega, by simpa using hfree⟩
  have hnodup : ((List.range' 1 (t.entries.length + 1)).map fun n =>
      at_ ++ [fileName stem stamp n]).Nodup := by
    refine List.Nodup.map_on (fun n hn m hm h => ?_) List.nodup_range'
    rw [List.mem_range'_1] at hn hm
    exact eq_of_fileName_eq hn.1 hm.1 (by simpa using h)
  have hsub : ((List.range' 1 (t.entries.length + 1)).map fun n =>
      at_ ++ [fileName stem stamp n]) ⊆ t.entries.map (·.1) := by
    intro l hl
    obtain ⟨n, hn, rfl⟩ := List.mem_map.1 hl
    exact mem_entries_of_exists hdir (htaken n hn)
  have hlen := (hnodup.subperm hsub).length_le
  simp only [List.length_map, List.length_range'] at hlen
  omega

theorem firstFree_of_directory {t : FileTree} {directory : Path} {at_ : Location}
    (hdir : t.find directory = .ok (.taken at_ .directory)) (stem stamp : String) :
    ∃ n, 1 ≤ n ∧
      firstFree t directory stem stamp (t.entries.length + 1) 1 =
        directory.join [fileName stem stamp n] ∧
      t.exists_ (directory.join [fileName stem stamp n]) = false ∧
      ∀ i, 1 ≤ i → i < n → t.exists_ (directory.join [fileName stem stamp i]) = true := by
  obtain ⟨m, hm, heq, hbefore, hfree⟩ :=
    firstFree_spec t directory stem stamp (t.entries.length + 1) 1
  obtain ⟨n, hn, hnfuel, hnfree⟩ := exists_free_name hdir stem stamp
  have hle : m ≤ n := by
    by_contra hlt
    rw [hbefore n hn (by omega)] at hnfree
    cases hnfree
  exact ⟨m, hm, heq, hfree (by omega), hbefore⟩

/-- Reports can be written to the directory: it is there, and no name of a report in it is a link
that leads nowhere. -/
structure Usable (t : FileTree) (directory : Path) (stamp : String) : Prop where
  isDirectory : t.isDirectory directory = true
  places : ∀ stem n, ∃ place, t.find (directory.join [fileName stem stamp n]) = .ok place

theorem find_of_isDirectory {t : FileTree} {p : Path} (h : t.isDirectory p = true) :
    ∃ at_, t.find p = .ok (.taken at_ .directory) := by
  simp only [FileTree.isDirectory] at h
  split at h
  · next at_ hfind => exact ⟨at_, hfind⟩
  · cases h

theorem usable_of_no_link {t : FileTree} {directory : Path} {at_ : Location} (stamp : String)
    (hdir : t.find directory = .ok (.taken at_ .directory))
    (hlinks : ∀ e ∈ t.entries, e.1.dropLast = at_ → ∀ target, e.2 ≠ .link target) :
    Usable t directory stamp := by
  refine ⟨by simp [FileTree.isDirectory, hdir], fun stem n => ?_⟩
  obtain ⟨k, hk⟩ := FileTree.find_join hdir
  rw [hk]
  refine FileTree.exists_walk_of_ne_link (fileName_ne_dot stem stamp n)
    (fileName_ne_up stem stamp n) fun target he => ?_
  exact hlinks _ (FileTree.mem_entries_of_entry (by simp) he) (by simp) target rfl

theorem Usable.put {t : FileTree} {directory : Path} {stamp : String}
    (h : Usable t directory stamp) {at_ : Location} (hfree : t.entry? at_ = none)
    (bytes : List UInt8) : Usable (t.put at_ (.file bytes)) directory stamp where
  isDirectory := by
    obtain ⟨l, hl⟩ := find_of_isDirectory h.isDirectory
    simp only [FileTree.isDirectory, FileTree.find_put bytes hfree hl, FileTree.Place.filled]
  places stem n := by
    obtain ⟨place, hplace⟩ := h.places stem n
    exact ⟨_, FileTree.find_put bytes hfree hplace⟩

theorem save_of_long {r : Review} (h : r.hasLongLine = true) (t : FileTree) (directory : Path)
    (stamp : String) (root : Option Path) :
    save t directory stamp root r = .error (.longLine
      (firstFree t directory (stem r.filename root) stamp (t.entries.length + 1) 1)) := by
  rw [save, if_pos h]

theorem save_of_short {r : Review} (h : r.hasLongLine = false) (t : FileTree) (directory : Path)
    (stamp : String) (root : Option Path) :
    save t directory stamp root r =
      match t.write (firstFree t directory (stem r.filename root) stamp (t.entries.length + 1) 1)
        (bytes r) with
      | .error e => .error (.path e)
      | .ok t' =>
        .ok (firstFree t directory (stem r.filename root) stamp (t.entries.length + 1) 1, t') := by
  have hne : ¬r.hasLongLine = true := by
    rw [h]
    exact Bool.false_ne_true
  exact if_neg hne

theorem save_of_usable {t : FileTree} {directory : Path} {stamp : String}
    (h : Usable t directory stamp) (root : Option Path) {r : Review}
    (hshort : r.hasLongLine = false) :
    ∃ n at_, 1 ≤ n ∧
      t.find (directory.join [fileName (stem r.filename root) stamp n]) = .ok (.free at_) ∧
      save t directory stamp root r =
        .ok (directory.join [fileName (stem r.filename root) stamp n],
          t.put at_ (.file (bytes r))) := by
  obtain ⟨l, hl⟩ := find_of_isDirectory h.isDirectory
  obtain ⟨n, hn, heq, hfree, -⟩ := firstFree_of_directory hl (stem r.filename root) stamp
  obtain ⟨place, hplace⟩ := h.places (stem r.filename root) n
  cases place with
  | taken at_ e => simp [FileTree.exists_, hplace] at hfree
  | free at_ =>
    refine ⟨n, at_, hn, hplace, ?_⟩
    rw [save_of_short hshort, heq, FileTree.write, hplace]

/-- Reviews are saved one behind the other, the first of them at the `k`th time, each as a new file
under a name made for it. -/
inductive Saves (directory : Path) (clock : Nat → String) (root : Option Path) :
    Nat → FileTree → List Review → FileTree → Prop
  | nil (k : Nat) (t : FileTree) : Saves directory clock root k t [] t
  | cons {k n : Nat} {t t' : FileTree} {r : Review} {rs : List Review} {at_ : Location}
      (pos : 1 ≤ n)
      (free : t.find (directory.join [fileName (stem r.filename root) (clock k) n]) =
        .ok (.free at_))
      (rest : Saves directory clock root (k + 1) (t.put at_ (.file (bytes r))) rs t') :
      Saves directory clock root k t (r :: rs) t'

/-- The second tree is the first one with a file for each review, in their order, behind its
entries. The file holds its review and is found under a name made for it at its time. -/
def AddsReports (directory : Path) (clock : Nat → String) (root : Option Path) (t t' : FileTree)
    (rs : List Review) : Prop :=
  ∃ files, t.Adds t' files ∧
    List.Forall₂ (fun f x => f.2 = .file (bytes x.1) ∧ ∃ n, 1 ≤ n ∧
      t'.find (directory.join [fileName (stem x.1.filename root) (clock x.2) n]) =
        .ok (.taken f.1 f.2)) files rs.zipIdx

namespace Saves

variable {directory : Path} {clock : Nat → String} {root : Option Path} {k : Nat} {t t' : FileTree}
  {rs : List Review}

theorem find_taken (h : Saves directory clock root k t rs t') {p : Path} {at_ : Location}
    {e : FileEntry} (hp : t.find p = .ok (.taken at_ e)) : t'.find p = .ok (.taken at_ e) := by
  induction h with
  | nil k t => exact hp
  | cons pos free rest ih => exact ih (FileTree.find_put _ (FileTree.entry?_of_find_free free) hp)

theorem exists_files (h : Saves directory clock root k t rs t') :
    ∃ files, t.Adds t' files ∧
      List.Forall₂ (fun f x => f.2 = .file (bytes x.1) ∧ ∃ n, 1 ≤ n ∧
        t'.find (directory.join [fileName (stem x.1.filename root) (clock x.2) n]) =
          .ok (.taken f.1 f.2)) files (rs.zipIdx k) := by
  induction h with
  | nil k t => exact ⟨[], .refl t, .nil⟩
  | @cons k n t t' r rs at_ pos free rest ih =>
    have hnew := FileTree.entry?_of_find_free free
    obtain ⟨files, hadds, hfiles⟩ := ih
    refine ⟨(at_, .file (bytes r)) :: files, (FileTree.adds_put hnew _).trans hadds,
      .cons ⟨rfl, n, pos, ?_⟩ hfiles⟩
    have hput := FileTree.find_put (bytes r) hnew free
    rw [FileTree.Place.filled, if_pos rfl] at hput
    exact rest.find_taken hput

theorem addsReports (h : Saves directory clock root 0 t rs t') :
    AddsReports directory clock root t t' rs :=
  h.exists_files

end Saves

end CodeReview.Report
