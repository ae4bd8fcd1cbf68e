import CodeReview.Proofs.FileTree.Scan

/-!
Scans of a tree that has grown. What ends like a report holds no code, and a directory is no file,
so a scan finds the files that it has found before. Only a link that was broken may have come to
lead to a file.
-/

namespace CodeReview

namespace Path

theorem isCode_of_json {p : Path} (h : p.suffix = ".json") : p.isCode = false := by
  rw [isCode, h]
  decide +kernel

end Path

namespace FileTree

/-- No link that a scan of the target may follow to a file of code is broken. -/
def ScanUnbroken (t : FileTree) (target : Path) (recursive : Bool) : Prop :=
  ∀ directory, t.find target = .ok (.taken directory .directory) →
    ∀ names ∈ t.below directory recursive, (target.join names).isCode = true →
      ¬t.Broken (target.join names)

namespace Extends

variable {t t' : FileTree} {target : Path} {directory : Location} {recursive : Bool}

theorem suffix_of_isFile (h : Extends t t') {p : Path} {n : String}
    (hp : t.find p = .ok (.taken directory .directory)) (hn : IsName n)
    (hb : ¬t.Broken (p.join [n])) (hnone : t.exists_ (p.join [n]) = false)
    (hfile : t'.isFile (p.join [n]) = true) : (p.join [n]).suffix = ".json" := by
  have hfree := entry?_of_not_exists hp hn hb hnone
  have hp' := h.keeps.find hp
  obtain ⟨e, he⟩ := exists_entry_of_exists hp' hn (exists_of_isFile hfile)
  have hmem := mem_entries_of_entry (by simp) he
  obtain ⟨-, more, hadds, hmore⟩ := h
  rw [hadds.entries] at hmem
  rcases List.mem_append.1 hmem with hold | hnew
  · rw [entry?_of_mem hold (by simp)] at hfree
    cases hfree
  · rcases hmore _ hnew with hdir | ⟨-, hjson⟩
    · obtain rfl : e = .directory := hdir
      rw [isFile, find_child hp' hn he (by simp)] at hfile
      cases hfile
    · rw [p.suffix_join (by simp) .working directory, hjson]

theorem picks_old (ht : t.WellFormed) (h : Extends t t')
    (hdir : t.find target = .ok (.taken directory .directory))
    (hb : t.ScanUnbroken target recursive) {names : List String} (hnames : names ∈ t.below directory recursive) :
    (t'.isFile (target.join names) && (target.join names).isCode) =
      (t.isFile (target.join names) && (target.join names).isCode) := by
  cases hcode : (target.join names).isCode with
  | false => rw [Bool.and_false, Bool.and_false]
  | true =>
    obtain ⟨hne, -, e, hmem⟩ := mem_below_iff.1 hnames
    have hunbroken := hb directory hdir names hnames hcode
    have he := entry?_of_mem hmem (by simp [hne])
    obtain ⟨q, d, n, hjoin, hat, hq, hn⟩ := ht.exists_child hdir hne he
    rw [hjoin] at hunbroken ⊢
    rw [hat] at he
    have hexists := exists_child_of_entry hq hn he hunbroken
    rw [isFile, isFile, h.keeps.find_eq hexists]

theorem picks_new (h : Extends t t') (hdir : t.find target = .ok (.taken directory .directory))
    {names : List String} (hne : names ≠ []) {e : FileEntry}
    (he : (directory ++ names, e) ∈ t'.entries)
    (hnew : e = .directory ∨ Path.suffix ⟨.working, directory ++ names⟩ = ".json") :
    (t'.isFile (target.join names) && (target.join names).isCode) = false := by
  rcases hnew with rfl | hjson
  · have hentry := entry?_of_mem he (by simp [hne])
    rw [isFile, h.wellFormed.find_directory_below (h.keeps.find hdir) hentry, Bool.false_and]
  · rw [Path.isCode_of_json (by rw [target.suffix_join hne .working directory, hjson]),
      Bool.and_false]

theorem picked_eq (ht : t.WellFormed) (h : Extends t t')
    (hdir : t.find target = .ok (.taken directory .directory))
    (hb : t.ScanUnbroken target recursive) :
    (((t'.below directory recursive).map target.join).filter fun p => t'.isFile p && p.isCode) =
      ((t.below directory recursive).map target.join).filter fun p => t.isFile p && p.isCode := by
  obtain ⟨-, more, hadds, hmore⟩ := id h
  have hold : (((t.below directory recursive).map target.join).filter fun p =>
      t'.isFile p && p.isCode) =
        ((t.below directory recursive).map target.join).filter fun p => t.isFile p && p.isCode := by
    refine List.filter_congr fun p hp => ?_
    obtain ⟨names, hnames, rfl⟩ := List.mem_map.1 hp
    exact h.picks_old ht hdir hb hnames
  -- the names of what has been added, as `below` takes them from the entries
  let added := (more.filterMap fun e => Path.namesAfter? directory e.1).filter fun names =>
    names != [] && (recursive || names.length == 1)
  have hnew : (added.map target.join).filter (fun p => t'.isFile p && p.isCode) = [] := by
    refine List.filter_eq_nil_iff.2 fun p hp => ?_
    obtain ⟨names, hnames, rfl⟩ := List.mem_map.1 hp
    obtain ⟨hafter, hne⟩ := List.mem_filter.1 hnames
    obtain ⟨⟨l, e⟩, hmem, hl⟩ := List.mem_filterMap.1 hafter
    obtain rfl : l = directory ++ names := Path.eq_append_of_namesAfter? hl
    rw [Bool.and_eq_true, bne_iff_ne] at hne
    rw [h.picks_new hdir hne.1 (hadds.entries ▸ List.mem_append_right _ hmem)
      ((hmore _ hmem).imp_right And.right)]
    exact Bool.false_ne_true
  have hbelow : t'.below directory recursive = t.below directory recursive ++ added := by
    rw [below, below, hadds.entries, List.filterMap_append, List.filter_append]
  rw [hbelow, List.map_append, List.filter_append, hold, hnew, List.append_nil]

theorem scan_eq (ht : t.WellFormed) (h : Extends t t') (hfound : t.scan target recursive ≠ [])
    (hb : t.ScanUnbroken target recursive) :
    t'.scan target recursive = t.scan target recursive := by
  have hfind := h.keeps.find_eq (exists_of_scan hfound)
  rw [scan, scan, isFile, isFile, hfind]
  cases hplace : t.find target with
  | error f => rfl
  | ok place =>
    cases place with
    | free at_ => rfl
    | taken at_ e =>
      cases e with
      | link l => rfl
      | file bytes => rfl
      | directory => simp only [picked_eq ht h hplace hb]

end Extends

end FileTree

end CodeReview
