import CodeReview.Proofs.FileTree.Rescan
import CodeReview.Proofs.Report.Append
import CodeReview.Proofs.Report.Name

/-!
Reports that are saved beside the files they are on. If no name of a report is a broken link, a
report comes to stand in the directory of the reports under its own name, which is none of code; so
saving reports extends the tree by nothing that is reviewed.
-/

namespace CodeReview.Report

open FileTree (Extends IsName)

theorem isName_fileName (stem stamp : String) (n : Nat) : IsName (fileName stem stamp n) :=
  ⟨fileName_ne_dot stem stamp n, fileName_ne_up stem stamp n⟩

theorem suffix_fileName (p : Path) (stem stamp : String) (n : Nat) :
    (p.join [fileName stem stamp n]).suffix = ".json" := by
  have hname : (fileName stem stamp n).toList =
      (baseName stem stamp n).toList ++ '.' :: ['j', 's', 'o', 'n'] := by
    rw [fileName_eq, String.toList_append, toList_json]
  have hempty : (baseName stem stamp n).toList ≠ [] := fun h =>
    baseName_ne_empty stem stamp n (String.toList_inj.1 h)
  have hlast := Path.name_join_singleton p (fileName stem stamp n)
  exact Path.suffix_of_name (hlast.symm ▸ hname) hempty (by decide) (by decide)

/-- In the directory, no name of a report with the stamp is a link that leads nowhere. -/
def Unbroken (t : FileTree) (directory : Path) (stamp : String) : Prop :=
  ∀ stem n, ¬t.Broken (directory.join [fileName stem stamp n])

section

variable {t t' : FileTree} {directory : Path} {stamp : String}

theorem Unbroken.usable (h : Unbroken t directory stamp) (hdir : t.isDirectory directory = true) :
    Usable t directory stamp := by
  obtain ⟨at_, hat⟩ := find_of_isDirectory hdir
  refine ⟨hdir, fun stem n => ?_⟩
  cases hfind : t.find (directory.join [fileName stem stamp n]) with
  | ok place => exact ⟨place, rfl⟩
  | error f =>
    obtain ⟨target, hlink⟩ := link_of_find_error hat hfind
    exact absurd (FileTree.broken_child hat hlink (by rw [FileTree.exists_, hfind])) (h stem n)

theorem Unbroken.extends (h : Unbroken t directory stamp) (hdir : t.isDirectory directory = true)
    (hmore : Extends t t') : Unbroken t' directory stamp := by
  refine fun stem n hb => h stem n (hmore.broken ?_ hb)
  rwa [Path.parent_join_singleton]

theorem extends_put (ht : t.WellFormed) (h : Unbroken t directory stamp)
    (hdir : t.isDirectory directory = true) {stem : String} {n : Nat} {at_ : Location}
    (hfree : t.find (directory.join [fileName stem stamp n]) = .ok (.free at_))
    (bytes : List UInt8) : Extends t (t.put at_ (.file bytes)) := by
  obtain ⟨d, hd⟩ := find_of_isDirectory hdir
  have hnone : t.exists_ (directory.join [fileName stem stamp n]) = false := by
    rw [FileTree.exists_, hfree]
  have hname := isName_fileName stem stamp n
  have hentry := FileTree.entry?_of_not_exists hd hname (h stem n) hnone
  have hplace := FileTree.find_child_free hd hname hentry
  rw [hfree] at hplace
  cases hplace
  refine .put ht (ht.entry?_of_find hd) hname hentry (.inr ⟨⟨bytes, rfl⟩, ?_⟩)
  exact suffix_fileName ⟨.working, d⟩ stem stamp n

theorem Saves.extends {clock : Nat → String} {root : Option Path} {k : Nat} {rs : List Review}
    (ht : t.WellFormed) (h : ∀ i, Unbroken t directory (clock i))
    (hdir : t.isDirectory directory = true) (hsaves : Saves directory clock root k t rs t') :
    Extends t t' := by
  induction hsaves with
  | nil k t => exact .refl ht
  | @cons k n t t' r rs at_ pos free rest ih =>
    have hone := extends_put ht (h k) hdir free (bytes r)
    obtain ⟨d, hd⟩ := find_of_isDirectory hdir
    have hstill : FileTree.isDirectory (t.put at_ (.file (bytes r))) directory = true := by
      rw [FileTree.isDirectory, hone.keeps.find hd]
    exact hone.trans (ih hone.wellFormed (fun i => (h i).extends hdir hone) hstill)

end

end CodeReview.Report
