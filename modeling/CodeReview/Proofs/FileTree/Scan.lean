import Mathlib
import CodeReview.FileTree.Scan
import CodeReview.Proofs.FileTree.Growth
import CodeReview.Proofs.Language

/-!
Scans. A scan of a directory finds the files of code below it, each once, in the order of their
paths; without the directories below it, it finds those whose parent it is. The language of each is
known.
-/

namespace CodeReview

namespace Path

theorem isCode_iff {p : Path} : p.isCode = true ↔ Text.toLower p.suffix ∈ codeSuffixes := by
  rw [isCode, List.contains_iff_mem]

theorem nameLt_iff {a b : String} : nameLt a b = true ↔ a < b := by
  rw [nameLt, List.lex_eq_true_iff_lex, String.lt_iff_toList_lt]
  simp only [decide_eq_true_iff]
  rfl

theorem le_iff {p q : Path} : p.le q = true ↔ p.parts ≤ q.parts := by
  have hlex : List.lex q.parts p.parts nameLt = true ↔ q.parts < p.parts := by
    rw [List.lex_eq_true_iff_lex]
    simp only [nameLt_iff]
    rfl
  rw [le, Bool.not_eq_true', ← Bool.not_eq_true, hlex, not_lt]

theorem join_injective (p : Path) : Function.Injective p.join := by
  intro ns ms h
  exact List.append_cancel_left (congrArg parts h)

theorem join_inj_parts {p : Path} {ns ms : List String}
    (h : (p.join ns).parts = (p.join ms).parts) : p.join ns = p.join ms :=
  congrArg p.join (List.append_cancel_left h)

theorem parent_join_eq_iff (p : Path) {ns : List String} (hne : ns ≠ []) :
    (p.join ns).parent = p ↔ ns.length = 1 := by
  obtain ⟨init, n, rfl⟩ := (List.eq_nil_or_concat ns).resolve_left hne
  rw [List.concat_eq_append, ← join_join, parent_join_singleton, List.length_append]
  constructor
  · intro h
    have hinit : init = [] := List.append_right_eq_self.1 (congrArg parts h)
    rw [hinit]
    rfl
  · intro h
    have hinit : init = [] := by simpa using h
    simp [hinit, join]

end Path

namespace FileTree

/-- A tree of a file system in which there are no links. No name in it holds a slash. -/
structure Plain (t : FileTree) : Prop extends WellFormed t where
  unlinked : ∀ e ∈ t.entries, ∀ target, e.2 ≠ .link target
  slashless : ∀ e ∈ t.entries, ∀ n ∈ e.1, '/' ∉ n.toList

variable {t : FileTree} {target p : Path} {directory : Location} {recursive : Bool}

theorem mem_below_iff {names : List String} :
    names ∈ t.below directory recursive ↔ names ≠ [] ∧ (recursive = false → names.length = 1) ∧
      ∃ e, (directory ++ names, e) ∈ t.entries := by
  simp only [below, List.mem_filter, List.mem_filterMap, Path.namesAfter?_eq_some_iff, Bool.and_eq_true,
    bne_iff_ne, Bool.or_eq_true, beq_iff_eq]
  constructor
  · rintro ⟨⟨e, he, hat⟩, hne, hdeep⟩
    exact ⟨hne, fun hflat => hdeep.resolve_left (by simp [hflat]), e.2, hat ▸ he⟩
  · rintro ⟨hne, hdeep, e, he⟩
    refine ⟨⟨_, he, rfl⟩, hne, ?_⟩
    cases recursive with
    | true => exact .inl rfl
    | false => exact .inr (hdeep rfl)

theorem nodup_below (t : FileTree) (directory : Location) (recursive : Bool) :
    (t.below directory recursive).Nodup := by
  have hbehind : (t.entries.filterMap fun e => Path.namesAfter? directory e.1) =
      (t.entries.map (·.1)).filterMap (Path.namesAfter? directory) := by
    rw [List.filterMap_map]
    rfl
  refine List.Nodup.filter _ ?_
  rw [hbehind]
  refine t.nodup.filterMap fun l l' names h h' => ?_
  rw [Option.mem_def, Path.namesAfter?_eq_some_iff] at h h'
  rw [h, h']

theorem Plain.find_below (ht : t.Plain) (hdir : t.find target = .ok (.taken directory .directory))
    {names : List String} (hne : names ≠ []) {e : FileEntry}
    (he : t.entry? (directory ++ names) = some e) :
    t.find (target.join names) = .ok (.taken (directory ++ names) e) := by
  obtain ⟨q, d, n, hjoin, hat, hq, hn⟩ := ht.exists_child hdir hne he
  have hlink := ht.unlinked _ (mem_entries_of_entry (by simp [hne]) he)
  rw [hat] at he
  rw [hjoin, hat, find_child hq hn he hlink]

theorem Plain.isFile_below_iff (ht : t.Plain)
    (hdir : t.find target = .ok (.taken directory .directory)) {names : List String}
    (hne : names ≠ []) {e : FileEntry} (he : (directory ++ names, e) ∈ t.entries) :
    t.isFile (target.join names) = true ↔
      ∃ bytes, t.entry? (directory ++ names) = some (.file bytes) := by
  have hentry := entry?_of_mem he (by simp [hne])
  rw [isFile, ht.find_below hdir hne hentry, hentry]
  cases e <;> simp

theorem exists_of_scan (h : t.scan target recursive ≠ []) : t.exists_ target = true := by
  rw [exists_]
  rw [scan, isFile] at h
  cases hfind : t.find target with
  | error f => simp [hfind] at h
  | ok place =>
    cases place with
    | taken at_ e => rfl
    | free at_ => simp [hfind] at h

theorem scan_of_isFile (h : t.isFile target = true) (recursive : Bool) :
    t.scan target recursive = [target] :=
  if_pos h

theorem scan_of_not_exists (h : t.exists_ target = false) (recursive : Bool) :
    t.scan target recursive = [] := by
  by_contra hsome
  rw [exists_of_scan hsome] at h
  cases h

theorem scan_of_directory (hdir : t.find target = .ok (.taken directory .directory))
    (recursive : Bool) :
    t.scan target recursive = (((t.below directory recursive).map target.join).filter fun p =>
      t.isFile p && p.isCode).mergeSort Path.le := by
  rw [scan, isFile, hdir]
  rfl

/-- A file of code below a directory, at some names from there; without `recursive` at one. -/
def IsCodeBelow (t : FileTree) (target : Path) (directory : Location) (recursive : Bool)
    (p : Path) : Prop :=
  ∃ names, p = target.join names ∧ names ≠ [] ∧ (recursive = false → names.length = 1) ∧
    (∃ bytes, t.entry? (directory ++ names) = some (.file bytes)) ∧
    Text.toLower p.suffix ∈ codeSuffixes

theorem Plain.mem_scan_iff (ht : t.Plain)
    (hdir : t.find target = .ok (.taken directory .directory)) :
    p ∈ t.scan target recursive ↔ t.IsCodeBelow target directory recursive p := by
  rw [scan_of_directory hdir, List.mem_mergeSort, List.mem_filter, List.mem_map,
    Bool.and_eq_true, Path.isCode_iff]
  constructor
  · rintro ⟨⟨names, hbelow, rfl⟩, hfile, hcode⟩
    obtain ⟨hne, hdeep, e, he⟩ := mem_below_iff.1 hbelow
    exact ⟨names, rfl, hne, hdeep, (ht.isFile_below_iff hdir hne he).1 hfile, hcode⟩
  · rintro ⟨names, rfl, hne, hdeep, ⟨bytes, he⟩, hcode⟩
    have hmem := mem_entries_of_entry (by simp [hne]) he
    exact ⟨⟨names, mem_below_iff.2 ⟨hne, hdeep, _, hmem⟩, rfl⟩,
      (ht.isFile_below_iff hdir hne hmem).2 ⟨bytes, he⟩, hcode⟩

theorem nodup_scan (hdir : t.find target = .ok (.taken directory .directory)) (recursive : Bool) :
    (t.scan target recursive).Nodup := by
  rw [scan_of_directory hdir, (List.mergeSort_perm _ _).nodup_iff]
  exact ((t.nodup_below directory recursive).map target.join_injective).filter _

theorem pairwise_scan (hdir : t.find target = .ok (.taken directory .directory))
    (recursive : Bool) :
    (t.scan target recursive).Pairwise fun p q => p.parts < q.parts := by
  have hsorted : (t.scan target recursive).Pairwise fun p q => p.le q = true := by
    rw [scan_of_directory hdir]
    refine List.pairwise_mergeSort (fun p q r hpq hqr => ?_) (fun p q => ?_) _
    · rw [Path.le_iff] at hpq hqr ⊢
      exact hpq.trans hqr
    · rw [Bool.or_eq_true, Path.le_iff, Path.le_iff]
      exact le_total _ _
  refine (hsorted.and (nodup_scan hdir recursive)).imp_of_mem fun {p q} hp hq h => ?_
  refine lt_of_le_of_ne (Path.le_iff.1 h.1) fun heq => h.2 ?_
  rw [scan_of_directory hdir, List.mem_mergeSort, List.mem_filter, List.mem_map] at hp hq
  obtain ⟨⟨ns, -, rfl⟩, -⟩ := hp
  obtain ⟨⟨ms, -, rfl⟩, -⟩ := hq
  exact Path.join_inj_parts heq

theorem Plain.scan_flat_eq (ht : t.Plain)
    (hdir : t.find target = .ok (.taken directory .directory)) :
    t.scan target false = (t.scan target true).filter fun p => p.parent = target := by
  have hmem : ∀ p, p ∈ t.scan target false ↔
      p ∈ (t.scan target true).filter fun p => p.parent = target := by
    intro p
    rw [List.mem_filter, ht.mem_scan_iff hdir, ht.mem_scan_iff hdir, decide_eq_true_iff]
    constructor
    · rintro ⟨names, rfl, hne, hone, hrest⟩
      exact ⟨⟨names, rfl, hne, nofun, hrest⟩, (target.parent_join_eq_iff hne).2 (hone rfl)⟩
    · rintro ⟨⟨names, rfl, hne, -, hrest⟩, hparent⟩
      exact ⟨names, rfl, hne, fun _ => (target.parent_join_eq_iff hne).1 hparent, hrest⟩
  have hperm := (List.perm_ext_iff_of_nodup (nodup_scan hdir false)
    ((nodup_scan hdir true).filter _)).2 hmem
  exact hperm.eq_of_pairwise (fun p q _ _ hpq hqp => absurd hpq hqp.not_gt)
    (pairwise_scan hdir false) ((pairwise_scan hdir true).filter _)

theorem walk_ne_link {links : Nat} {at_ l : Location} {names : List String} {link : String} :
    t.walk links at_ names ≠ .ok (.taken l (.link link)) := by
  fun_induction t.walk links at_ names <;> simp_all

theorem isFile_or_not_exists_or_directory (t : FileTree) (p : Path) :
    t.isFile p = true ∨ t.exists_ p = false ∨
      ∃ directory, t.find p = .ok (.taken directory .directory) := by
  rw [isFile, exists_]
  cases hfind : t.find p with
  | error f => exact .inr (.inl rfl)
  | ok place =>
    cases place with
    | free l => exact .inr (.inl rfl)
    | taken l e =>
      cases e with
      | file bytes => exact .inl rfl
      | directory => exact .inr (.inr ⟨l, rfl⟩)
      | link link => exact absurd hfind walk_ne_link

theorem Plain.ofString_of_mem_scan (ht : t.Plain) {target : String}
    (hdir : t.find (.ofString target) = .ok (.taken directory .directory))
    (hp : p ∈ t.scan (.ofString target) recursive) : Path.ofString p.toString = p := by
  obtain ⟨names, rfl, hne, -, ⟨bytes, he⟩, -⟩ := (ht.mem_scan_iff hdir).1 hp
  have hmem := mem_entries_of_entry (by simp [hne]) he
  have hname : ∀ n ∈ names, n ∈ directory ++ names := fun n hn => List.mem_append_right _ hn
  refine Path.ofString_toString (fun n hn => ?_) fun n hn => ?_
  · rcases List.mem_append.1 hn with hn | hn
    · exact Path.clean_ofString target n hn
    · exact ((ht.named _ hmem).2 n (hname n hn)).1
  · rcases List.mem_append.1 hn with hn | hn
    · exact Path.slash_notMem_of_mem_parts hn
    · exact ht.slashless _ hmem n (hname n hn)

/-- A target that is a file is found alone, and one that is nothing finds nothing. One that is a
directory finds exactly the files of code below it, each once and in the strict order of their
paths, or just those whose parent it is. The language of a path is known exactly where its suffix is
one of code, so the language of each file that is found in a directory is. -/
theorem scan_of_target {t : FileTree} (ht : t.Plain) (target : String) (recursive : Bool) :
    (t.isFile (.ofString target) = true ∨ t.exists_ (.ofString target) = false ∨
      ∃ directory, t.find (.ofString target) = .ok (.taken directory .directory)) ∧
    (t.isFile (.ofString target) = true →
      t.scan (.ofString target) recursive = [.ofString target]) ∧
    (t.exists_ (.ofString target) = false → t.scan (.ofString target) recursive = []) ∧
    (∀ directory, t.find (.ofString target) = .ok (.taken directory .directory) →
      (∀ p, p ∈ t.scan (.ofString target) recursive ↔
        t.IsCodeBelow (.ofString target) directory recursive p) ∧
      ((t.scan (.ofString target) recursive).Pairwise fun p q => p.parts < q.parts) ∧
      (t.scan (.ofString target) false =
        (t.scan (.ofString target) true).filter fun p => p.parent = .ofString target) ∧
      ∀ p ∈ t.scan (.ofString target) recursive, Language.nameFor p.toString ≠ "unknown") ∧
    ∀ path, Language.nameFor path ≠ "unknown" ↔
      Text.toLower (Path.ofString path).suffix ∈ codeSuffixes := by
  refine ⟨t.isFile_or_not_exists_or_directory _, fun h => scan_of_isFile h recursive,
    fun h => scan_of_not_exists h recursive, fun directory hdir => ?_,
    fun path => Language.nameFor_ne_unknown_iff⟩
  refine ⟨fun p => ht.mem_scan_iff hdir, pairwise_scan hdir recursive, ht.scan_flat_eq hdir,
    fun p hp => ?_⟩
  rw [Language.nameFor_ne_unknown_iff, ht.ofString_of_mem_scan hdir hp]
  exact ((ht.mem_scan_iff hdir).1 hp).choose_spec.2.2.2.2

def dottedTree : FileTree where
  entries := [
    (["home"], .directory),
    (["home", "lib.js"], .directory),
    (["home", "lib.js", "x.tar.Py"], .file []),
    (["home", "A.JS"], .file []),
    (["home", ".py"], .file []),
    (["home", "b.js."], .file [])]
  working := ["home"]
  nodup := by decide

theorem scan_of_dotted_tree :
    dottedTree.Plain ∧
    dottedTree.find (.ofString "/home/") = .ok (.taken ["home"] .directory) ∧
    dottedTree.isFile (.ofString "../home/.py") = true ∧
    dottedTree.exists_ (.ofString "b.js") = false ∧
    dottedTree.scan (.ofString "/home/") true =
      [.ofString "/home/A.JS", .ofString "/home/lib.js/x.tar.Py"] ∧
    dottedTree.scan (.ofString "/home/") false = [.ofString "/home/A.JS"] ∧
    Language.nameFor "/home/lib.js/x.tar.Py" ≠ "unknown" ∧
    dottedTree.scan (.ofString "../home/.py") true = [.ofString "../home/.py"] ∧
    dottedTree.scan (.ofString "b.js") true = [] := by
  have hplain : dottedTree.Plain :=
    { housed := by decide
      rooted := by decide
      named := by decide
      unlinked := by simp [dottedTree]
      slashless := by decide }
  have hdir : dottedTree.find (.ofString "/home/") = .ok (.taken ["home"] .directory) := by cbv
  have hfile : dottedTree.isFile (.ofString "../home/.py") = true := by cbv
  have hnone : dottedTree.exists_ (.ofString "b.js") = false := by cbv
  have hbelow : dottedTree.below ["home"] true =
      [["lib.js"], ["lib.js", "x.tar.Py"], ["A.JS"], [".py"], ["b.js."]] := by cbv
  have hcode : ([["lib.js"], ["lib.js", "x.tar.Py"], ["A.JS"], [".py"], ["b.js."]].map
      (Path.ofString "/home/").join).filter Path.isCode =
        [.ofString "/home/lib.js", .ofString "/home/lib.js/x.tar.Py", .ofString "/home/A.JS"] := by
    decide +kernel
  have hscan : dottedTree.scan (.ofString "/home/") true =
      [.ofString "/home/A.JS", .ofString "/home/lib.js/x.tar.Py"] := by
    have hfiles : ([.ofString "/home/lib.js", .ofString "/home/lib.js/x.tar.Py",
        .ofString "/home/A.JS"] : List Path).filter dottedTree.isFile =
          [.ofString "/home/lib.js/x.tar.Py", .ofString "/home/A.JS"] := by cbv
    have horder : (Path.ofString "/home/lib.js/x.tar.Py").le (.ofString "/home/A.JS") = false := by
      decide +kernel
    rw [scan_of_directory hdir, hbelow, ← List.filter_filter, hcode, hfiles]
    simp [List.mergeSort, List.MergeSort.Internal.splitInTwo, horder]
  obtain ⟨-, -, -, hfound, -⟩ := scan_of_target hplain "/home/" true
  obtain ⟨-, -, hflat, hknown⟩ := hfound _ hdir
  have hlanguage := hknown (.ofString "/home/lib.js/x.tar.Py") (by rw [hscan]; simp)
  refine ⟨hplain, hdir, hfile, hnone, hscan, ?_, ?_,
    (scan_of_target hplain "../home/.py" true).2.1 hfile,
    (scan_of_target hplain "b.js" true).2.2.1 hnone⟩
  · rw [hflat, hscan]
    decide
  · have htext : (Path.ofString "/home/lib.js/x.tar.Py").toString = "/home/lib.js/x.tar.Py" := by
      cbv
    rwa [htext] at hlanguage

end FileTree

end CodeReview
