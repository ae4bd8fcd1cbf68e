import Mathlib
import CodeReview.Proofs.Report.Save

/-!
Reports are only ever added. The search for a name ends at one under which nothing is found; a report
that is saved there is a new file behind all that the tree has held, and no path that led somewhere
leads elsewhere. A report is not saved only where the name that was found is a link that leads nowhere.
-/

namespace CodeReview.Report

/-- The second tree is the first one with the review in a new file, to which the path leads. -/
structure Added (t : FileTree) (p : Path) (r : Review) (t' : FileTree) : Prop where
  fresh : t.exists_ p = false
  file : ∃ at_, t.Adds t' [(at_, .file (bytes r))] ∧
    t'.find p = .ok (.taken at_ (.file (bytes r)))
  kept : ∀ q at_ e, t.find q = .ok (.taken at_ e) → t'.find q = .ok (.taken at_ e)

theorem added_put {t : FileTree} {p : Path} {at_ : Location} (h : t.find p = .ok (.free at_))
    (r : Review) : Added t p r (t.put at_ (.file (bytes r))) := by
  have hnew := FileTree.entry?_of_find_free h
  have hput := FileTree.find_put (bytes r) hnew h
  rw [FileTree.Place.filled, if_pos rfl] at hput
  exact
    { fresh := by simp [FileTree.exists_, h]
      file := ⟨at_, FileTree.adds_put hnew _, hput⟩
      kept := fun _ _ _ hq => FileTree.find_put (bytes r) hnew hq }

/-- What comes of saving a review under a name: a new file, the fault of a link of that name, which
leads nowhere, or that of a number that is too long to be written. -/
inductive Saved (t : FileTree) (directory : Path) (name : String) (r : Review) :
    Except SaveFault (Path × FileTree) → Prop
  | added {t' : FileTree} (short : r.hasLongLine = false)
      (added : Added t (directory.join [name]) r t') :
      Saved t directory name r (.ok (directory.join [name], t'))
  | nowhere {f : PathFault} {at_ : Location} {target : String} (short : r.hasLongLine = false)
      (place : t.find directory = .ok (.taken at_ .directory))
      (link : t.entry? (at_ ++ [name]) = some (.link target))
      (leads : t.find (directory.join [name]) = .error f) :
      Saved t directory name r (.error (.path ⟨f, directory.join [name]⟩))
  | unwritten (long : r.hasLongLine = true) :
      Saved t directory name r (.error (.longLine (directory.join [name])))

theorem link_of_find_error {t : FileTree} {directory : Path} {at_ : Location} {f : PathFault}
    (hdir : t.find directory = .ok (.taken at_ .directory)) {stem stamp : String} {n : Nat}
    (h : t.find (directory.join [fileName stem stamp n]) = .error f) :
    ∃ target, t.entry? (at_ ++ [fileName stem stamp n]) = some (.link target) := by
  by_contra hlink
  obtain ⟨k, hk⟩ := FileTree.find_join hdir
  obtain ⟨place, hplace⟩ : ∃ place, t.walk k at_ [fileName stem stamp n] = .ok place :=
    FileTree.exists_walk_of_ne_link (fileName_ne_dot stem stamp n) (fileName_ne_up stem stamp n)
      fun target he => hlink ⟨target, he⟩
  rw [hk, hplace] at h
  cases h

theorem save_spec {t : FileTree} {directory : Path} (hdir : t.isDirectory directory = true)
    (stamp : String) (root : Option Path) (r : Review) :
    ∃ n, 1 ≤ n ∧
      (∀ i, 1 ≤ i → i < n →
        t.exists_ (directory.join [fileName (stem r.filename root) stamp i]) = true) ∧
      t.exists_ (directory.join [fileName (stem r.filename root) stamp n]) = false ∧
      Saved t directory (fileName (stem r.filename root) stamp n) r
        (save t directory stamp root r) := by
  obtain ⟨l, hl⟩ := find_of_isDirectory hdir
  obtain ⟨n, hn, hpath, hfree, hbefore⟩ := firstFree_of_directory hl (stem r.filename root) stamp
  refine ⟨n, hn, hbefore, hfree, ?_⟩
  by_cases hlong : r.hasLongLine = true
  · rw [save_of_long hlong, hpath]
    exact .unwritten hlong
  have hshort := Bool.eq_false_iff.2 hlong
  rw [save_of_short hshort, hpath]
  rcases FileTree.write_of_not_exists hfree (bytes r) with ⟨at_, hfind, hwrite⟩ | ⟨f, hfind, hwrite⟩
  · rw [hwrite]
    exact .added hshort (added_put hfind r)
  · obtain ⟨target, hlink⟩ := link_of_find_error hl hfind
    rw [hwrite]
    exact .nowhere hshort hl hlink hfind

/-- Saves reviews one behind the other, each told from a root of its own, up to the first that cannot
be saved. -/
def saveAll (directory : Path) (stamp : String) (t : FileTree) :
    List (Option Path × Review) → List Path × FileTree × Option SaveFault
  | [] => ([], t, none)
  | (root, r) :: jobs =>
    match save t directory stamp root r with
    | .error e => ([], t, some e)
    | .ok (p, t) =>
      let (paths, t, e) := saveAll directory stamp t jobs
      (p :: paths, t, e)

/-- The second tree is the first one with one new file for each review, in their order, behind its
entries. The paths lead to these files; no two of them are the same, and none has led to anything
before. -/
structure Appends (t : FileTree) (paths : List Path) (rs : List Review) (t' : FileTree) : Prop where
  files : ∃ files, t.Adds t' files ∧
    List.Forall₂ (fun f r => f.2 = .file (bytes r)) files rs ∧
    List.Forall₂ (fun p f => t'.find p = .ok (.taken f.1 f.2)) paths files
  kept : ∀ q at_ e, t.find q = .ok (.taken at_ e) → t'.find q = .ok (.taken at_ e)
  fresh : ∀ p ∈ paths, t.exists_ p = false
  nodup : paths.Nodup

namespace Appends

theorem nil (t : FileTree) : Appends t [] [] t where
  files := ⟨[], .refl t, .nil, .nil⟩
  kept _ _ _ h := h
  fresh := by simp
  nodup := List.nodup_nil

theorem cons {t u t' : FileTree} {p : Path} {paths : List Path} {r : Review} {rs : List Review}
    (h : Added t p r u) (hs : Appends u paths rs t') : Appends t (p :: paths) (r :: rs) t' := by
  obtain ⟨at_, hadds, hfind⟩ := h.file
  obtain ⟨files, hadds', hfiles, hpaths⟩ := hs.files
  have hexists : ∀ q, u.exists_ q = false → t.exists_ q = false := by
    intro q hq
    rw [FileTree.exists_] at hq ⊢
    split
    · next at_ e hold => simp [h.kept q at_ e hold] at hq
    · rfl
  refine ⟨⟨(at_, .file (bytes r)) :: files, hadds.trans hadds', .cons rfl hfiles, .cons ?_ hpaths⟩,
    fun q l e hq => hs.kept q l e (h.kept q l e hq), ?_, ?_⟩
  · exact hs.kept p at_ _ hfind
  · rw [List.forall_mem_cons]
    exact ⟨h.fresh, fun q hq => hexists q (hs.fresh q hq)⟩
  · refine List.nodup_cons.2 ⟨fun hp => ?_, hs.nodup⟩
    have hfresh := hs.fresh p hp
    simp [FileTree.exists_, hfind] at hfresh

end Appends

theorem Added.isDirectory {t t' : FileTree} {p d : Path} {r : Review} (h : Added t p r t')
    (hd : t.isDirectory d = true) : t'.isDirectory d = true := by
  obtain ⟨l, hl⟩ := find_of_isDirectory hd
  simp only [FileTree.isDirectory, h.kept d l _ hl]

theorem appends_saveAll {t : FileTree} {directory : Path}
    (hdir : t.isDirectory directory = true) (stamp : String) (jobs : List (Option Path × Review)) :
    ∃ paths t' fault, saveAll directory stamp t jobs = (paths, t', fault) ∧
      Appends t paths ((jobs.map (·.2)).take paths.length) t' ∧
      (fault = none → paths.length = jobs.length) ∧
      ∀ e, fault = some e → ∃ job n, jobs[paths.length]? = some job ∧ 1 ≤ n ∧
        Saved t' directory (fileName (stem job.2.filename job.1) stamp n) job.2 (.error e) := by
  -- the tree changes from one saving to the next, but the directory stays one
  induction jobs generalizing t with
  | nil => exact ⟨[], t, none, rfl, .nil t, fun _ => rfl, fun _ h => by cases h⟩
  | cons job jobs ih =>
    obtain ⟨root, r⟩ := job
    obtain ⟨n, hn, -, -, hsaved⟩ := save_spec hdir stamp root r
    generalize hsave : save t directory stamp root r = outcome at hsaved
    -- what is not saved ends the saving, with the tree as it is
    have hfailed : ∀ e, outcome = .error e → ∃ paths t' fault,
        saveAll directory stamp t ((root, r) :: jobs) = (paths, t', fault) ∧
        Appends t paths ((((root, r) :: jobs).map (·.2)).take paths.length) t' ∧
        (fault = none → paths.length = jobs.length + 1) ∧
        ∀ e, fault = some e → ∃ job n, ((root, r) :: jobs)[paths.length]? = some job ∧ 1 ≤ n ∧
          Saved t' directory (fileName (stem job.2.filename job.1) stamp n) job.2 (.error e) := by
      rintro e rfl
      refine ⟨[], t, some e, by simp only [saveAll, hsave], .nil t, nofun, fun e' he => ?_⟩
      obtain rfl := Option.some.inj he
      exact ⟨(root, r), n, rfl, hn, hsaved⟩
    cases id hsaved with
    | @added u _ hadded =>
      obtain ⟨paths, t', fault, hall, happends, hnone, hfault⟩ := ih (hadded.isDirectory hdir)
      refine ⟨directory.join [fileName (stem r.filename root) stamp n] :: paths, t', fault,
        ?_, ?_, ?_, ?_⟩
      · simp only [saveAll, hsave, hall]
      · exact happends.cons hadded
      · exact fun h => congrArg (· + 1) (hnone h)
      · exact hfault
    | nowhere => exact hfailed _ rfl
    | unwritten => exact hfailed _ rfl

theorem fault_saveAll_of_usable {t : FileTree} {directory : Path} {stamp : String}
    (h : Usable t directory stamp) {jobs : List (Option Path × Review)}
    (hshort : ∀ job ∈ jobs, job.2.hasLongLine = false) :
    (saveAll directory stamp t jobs).2.2 = none := by
  induction jobs generalizing t with
  | nil => rfl
  | cons job jobs ih =>
    rw [List.forall_mem_cons] at hshort
    obtain ⟨root, r⟩ := job
    obtain ⟨n, at_, -, hfind, hsave⟩ := save_of_usable h root hshort.1
    simp only [saveAll, hsave]
    exact ih (h.put (FileTree.entry?_of_find_free hfind) _) hshort.2

/-- Whatever a directory holds, the search for a name ends at the first one under which nothing is
found, and the review is saved there as a new file, unless that name is a link that leads nowhere or
the number of a line is too long to be written. So reviews that are saved one behind the other,
whatever they are called, make one new file each, in their order, and change nothing that was there.
If no name of a report is a link that leads nowhere, all are saved whose numbers can be written. -/
theorem reports_appended {t : FileTree} {directory : Path} (hdir : t.isDirectory directory = true)
    (stamp : String) :
    (∀ root r, ∃ n, 1 ≤ n ∧
      (∀ i, 1 ≤ i → i < n →
        t.exists_ (directory.join [fileName (stem r.filename root) stamp i]) = true) ∧
      t.exists_ (directory.join [fileName (stem r.filename root) stamp n]) = false ∧
      Saved t directory (fileName (stem r.filename root) stamp n) r
        (save t directory stamp root r)) ∧
    (∀ jobs, ∃ paths t' fault, saveAll directory stamp t jobs = (paths, t', fault) ∧
      Appends t paths ((jobs.map (·.2)).take paths.length) t' ∧
      (fault = none → paths.length = jobs.length) ∧
      ∀ e, fault = some e → ∃ job n, jobs[paths.length]? = some job ∧ 1 ≤ n ∧
        Saved t' directory (fileName (stem job.2.filename job.1) stamp n) job.2 (.error e)) ∧
    (Usable t directory stamp → ∀ jobs, (∀ job ∈ jobs, job.2.hasLongLine = false) → ∃ paths t',
      saveAll directory stamp t jobs = (paths, t', none) ∧
      Appends t paths (jobs.map (·.2)) t') := by
  refine ⟨fun root r => save_spec hdir stamp root r, fun jobs => appends_saveAll hdir stamp jobs,
    fun husable jobs hshort => ?_⟩
  obtain ⟨paths, t', fault, hall, happends, hlength, -⟩ := appends_saveAll hdir stamp jobs
  have hnone := fault_saveAll_of_usable husable hshort
  rw [hall] at hnone
  subst hnone
  rw [List.take_of_length_le (by rw [List.length_map, hlength rfl])] at happends
  exact ⟨paths, t', hall, happends⟩

def earlierTree : FileTree where
  entries := [(["out"], .directory), (["out", "a_js_20240102_030405.json"], .file [])]
  nodup := by decide

theorem usable_earlierTree : Usable earlierTree (Path.ofString "out") "20240102_030405" := by
  have hfind : earlierTree.find (Path.ofString "out") = .ok (.taken ["out"] .directory) := by cbv
  exact usable_of_no_link _ hfind (by simp [earlierTree])

theorem reports_appended_of_one_stem :
    earlierTree.isDirectory (Path.ofString "out") = true ∧
    Usable earlierTree (Path.ofString "out") "20240102_030405" ∧
    Review.hasLongLine (.failure "a.js" "javascript" "No answer") = false ∧
    Review.hasLongLine (.failure "a/js" "unknown" "") = false ∧
    ∃ paths t',
      saveAll (Path.ofString "out") "20240102_030405" earlierTree
        [(none, .failure "a.js" "javascript" "No answer"), (none, .failure "a/js" "unknown" "")] =
          (paths, t', none) ∧
      Appends earlierTree paths
        [.failure "a.js" "javascript" "No answer", .failure "a/js" "unknown" ""] t' := by
  have hdir := usable_earlierTree.isDirectory
  exact ⟨hdir, usable_earlierTree, by rfl, by rfl,
    (reports_appended hdir "20240102_030405").2.2 usable_earlierTree _ (by simp [Review.hasLongLine,
      Review.failure, Finding.hasLongLine])⟩

def brokenLinkTree : FileTree where
  entries := [(["out"], .directory), (["out", "a_js_20240102_030405.json"], .link "gone/x.json")]
  nodup := by decide

theorem find_brokenLinkTree :
    brokenLinkTree.find (Path.ofString "out/a_js_20240102_030405.json") = .error .notFound := by
  have hpath : Path.ofString "out/a_js_20240102_030405.json" =
      ⟨.working, ["out", "a_js_20240102_030405.json"]⟩ := by decide +kernel
  have hout : brokenLinkTree.entry? ["out"] = some .directory := by decide +kernel
  have hlink : brokenLinkTree.entry? ["out", "a_js_20240102_030405.json"] =
      some (.link "gone/x.json") := by decide +kernel
  have hgone : brokenLinkTree.entry? ["out", "gone"] = none := by decide +kernel
  have hroot : Path.rootOf "gone/x.json".toList = .working := by decide +kernel
  have hnames : FileTree.linkNames "gone/x.json" ++ [] = ["gone", "x.json"] := by decide +kernel
  have hlinks : FileTree.maxLinks = 39 + 1 := rfl
  rw [hpath, FileTree.find, hlinks]
  -- the directory, the link in it, and the first name that the link is made of
  have hstart : PathRoot.start brokenLinkTree.working .working = [] := rfl
  rw [hstart, FileTree.walk, if_neg (by decide +kernel), if_neg (by decide +kernel)]
  simp only [List.nil_append, hout]
  rw [FileTree.walk, if_neg (by decide +kernel), if_neg (by decide +kernel)]
  simp only [List.cons_append, List.nil_append, hlink, hroot, PathRoot.start, hnames]
  rw [FileTree.walk, if_neg (by decide +kernel), if_neg (by decide +kernel)]
  simp only [List.cons_append, List.nil_append, hgone]
  rw [if_neg (by decide)]

theorem isDirectory_brokenLinkTree : brokenLinkTree.isDirectory (Path.ofString "out") = true := by
  cbv

theorem save_brokenLinkTree {r : Review} (hname : r.filename = "a.js")
    (hshort : r.hasLongLine = false) :
    save brokenLinkTree (Path.ofString "out") "20240102_030405" none r =
      .error (.path ⟨.notFound, Path.ofString "out/a_js_20240102_030405.json"⟩) := by
  have hstem : stem "a.js" none = "a_js" := by decide +kernel
  have hfirst : (Path.ofString "out").join [fileName "a_js" "20240102_030405" 1] =
      Path.ofString "out/a_js_20240102_030405.json" := by decide +kernel
  have hfree : brokenLinkTree.exists_ (Path.ofString "out/a_js_20240102_030405.json") = false := by
    simp only [FileTree.exists_, find_brokenLinkTree]
  rw [save_of_short hshort, hname]
  simp only [hstem, firstFree, hfirst, hfree, FileTree.write, find_brokenLinkTree,
    Bool.false_eq_true, if_false]

/-- Nothing is found under the name, and nothing can be written there either. -/
theorem not_saved_at_broken_link :
    brokenLinkTree.isDirectory (Path.ofString "out") = true ∧
    save brokenLinkTree (Path.ofString "out") "20240102_030405" none
      { filename := "a.js", score := 50, issues := [], suggestions := [], summary := "s" } =
      .error (.path ⟨.notFound, Path.ofString "out/a_js_20240102_030405.json"⟩) :=
  ⟨isDirectory_brokenLinkTree, save_brokenLinkTree rfl rfl⟩

end CodeReview.Report
