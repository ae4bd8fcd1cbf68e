import CodeReview.Proofs.FileTree.Walk
import CodeReview.Proofs.Path
import Mathlib.Data.List.Induction
import Mathlib.Data.List.Nodup

/-!
Trees that grow. As long as no entry of a tree is changed, whatever a path leads to it leads to in
the grown tree; only a path that has led nowhere can come to lead somewhere. In a tree as file
systems have them, that is no path of an entry but of a link.
-/

namespace CodeReview

namespace FileTree

theorem entry?_of_mem {t : FileTree} {e : Location × FileEntry} (h : e ∈ t.entries)
    (hne : e.1 ≠ []) : t.entry? e.1 = some e.2 := by
  cases he : t.entry? e.1 with
  | none => exact absurd (List.mem_map_of_mem h) (notMem_of_entry?_none he)
  | some e' =>
    have hmem := mem_entries_of_entry hne he
    have heq := List.inj_on_of_nodup_map t.nodup hmem h rfl
    rw [← heq]

structure Keeps (t t' : FileTree) : Prop where
  entry : ∀ l e, t.entry? l = some e → t'.entry? l = some e
  working : t'.working = t.working

theorem Adds.keeps {t t' : FileTree} {more : List (Location × FileEntry)} (h : Adds t t' more) :
    Keeps t t' where
  entry l e he := by
    by_cases hl : l = []
    · subst hl
      exact he
    · rw [entry?_of_ne_nil _ hl, Option.map_eq_some_iff] at he ⊢
      obtain ⟨d, hd, rfl⟩ := he
      exact ⟨d, by rw [h.entries, List.find?_append, hd, Option.some_or], rfl⟩
  working := h.working

namespace Keeps

variable {t t' : FileTree}

theorem walk (h : Keeps t t') {links : Nat} {at_ l : Location} {names : List String} {e : FileEntry}
    (hw : t.walk links at_ names = .ok (.taken l e)) :
    t'.walk links at_ names = .ok (.taken l e) := by
  -- every entry that the walk meets is met again
  fun_induction t.walk links at_ names with
  | case1 links at_ =>
    cases hw
    rw [FileTree.walk]
  | case2 links at_ n ns hdot ih => rw [FileTree.walk, if_pos hdot, ih hw]
  | case3 links at_ ns hdot ih => rw [FileTree.walk, if_neg hdot, if_pos rfl, ih hw]
  | case6 links at_ n ns hdot hup he ih =>
    rw [FileTree.walk, if_neg hdot, if_neg hup]
    simp only [h.entry _ _ he, ih hw]
  | case7 links at_ n hdot hup old he =>
    cases hw
    rw [FileTree.walk, if_neg hdot, if_neg hup]
    simp only [h.entry _ _ he, if_true]
  | case10 at_ n ns hdot hup target he k ih =>
    rw [FileTree.walk, if_neg hdot, if_neg hup]
    simp only [h.entry _ _ he, ih hw]
  | _ => cases hw

theorem find (h : Keeps t t') {p : Path} {l : Location} {e : FileEntry}
    (hp : t.find p = .ok (.taken l e)) : t'.find p = .ok (.taken l e) := by
  rw [FileTree.find, h.working]
  exact h.walk hp

theorem find_eq (h : Keeps t t') {p : Path} (hp : t.exists_ p = true) : t'.find p = t.find p := by
  rw [exists_] at hp
  split at hp
  · next l e hfind => rw [hfind, h.find hfind]
  · cases hp

end Keeps

def IsName (n : String) : Prop :=
  ¬(n = "." ∨ n = "") ∧ n ≠ ".."

instance (n : String) : Decidable (IsName n) :=
  inferInstanceAs (Decidable (_ ∧ _))

/-- What holds of every tree of a file system: an entry stands in a directory and has a name, and
the working directory is a directory. -/
structure WellFormed (t : FileTree) : Prop where
  housed : t.entry? t.working = some .directory
  rooted : ∀ e ∈ t.entries, t.entry? e.1.dropLast = some .directory
  named : ∀ e ∈ t.entries, e.1 ≠ [] ∧ ∀ n ∈ e.1, IsName n

theorem walk_directory_cons {t : FileTree} {at_ : Location} {n : String} (hn : IsName n)
    (h : t.entry? (at_ ++ [n]) = some .directory) (links : Nat) (ns : List String) :
    t.walk links at_ (n :: ns) = t.walk links (at_ ++ [n]) ns := by
  rw [walk, if_neg hn.1, if_neg hn.2]
  simp only [h]

namespace WellFormed

variable {t : FileTree}

theorem rooted_entry (h : t.WellFormed) {at_ : Location} {n : String} {e : FileEntry}
    (he : t.entry? (at_ ++ [n]) = some e) : t.entry? at_ = some .directory ∧ IsName n := by
  have hmem := mem_entries_of_entry (by simp) he
  have hroot := h.rooted _ hmem
  rw [List.dropLast_concat] at hroot
  exact ⟨hroot, (h.named _ hmem).2 n (by simp)⟩

theorem walk_along (h : t.WellFormed) {at_ : Location} {names : List String}
    (he : t.entry? (at_ ++ names) = some .directory) (links : Nat) (more : List String) :
    t.walk links at_ (names ++ more) = t.walk links (at_ ++ names) more := by
  induction names using List.reverseRecOn generalizing more with
  | nil => rw [List.nil_append, List.append_nil]
  | append_singleton init n ih =>
    rw [← List.append_assoc] at he ⊢
    obtain ⟨hinit, hn⟩ := h.rooted_entry he
    rw [List.append_assoc, List.singleton_append, ih hinit, walk_directory_cons hn he]

end WellFormed

section

variable {t : FileTree} {p : Path} {at_ : Location} {n : String}

theorem find_child (hp : t.find p = .ok (.taken at_ .directory)) (hn : IsName n) {e : FileEntry}
    (he : t.entry? (at_ ++ [n]) = some e) (hlink : ∀ target, e ≠ .link target) :
    t.find (p.join [n]) = .ok (.taken (at_ ++ [n]) e) := by
  obtain ⟨k, hk⟩ := find_join hp
  rw [hk, walk, if_neg hn.1, if_neg hn.2]
  cases e with
  | link target => exact absurd rfl (hlink target)
  | directory => simp only [he, walk]
  | file bytes => simp only [he, if_true]

theorem find_child_free (hp : t.find p = .ok (.taken at_ .directory)) (hn : IsName n)
    (he : t.entry? (at_ ++ [n]) = none) : t.find (p.join [n]) = .ok (.free (at_ ++ [n])) := by
  obtain ⟨k, hk⟩ := find_join hp
  rw [hk, walk, if_neg hn.1, if_neg hn.2]
  simp only [he, if_true]

theorem exists_entry_of_exists (hp : t.find p = .ok (.taken at_ .directory)) (hn : IsName n)
    (h : t.exists_ (p.join [n]) = true) : ∃ e, t.entry? (at_ ++ [n]) = some e := by
  cases he : t.entry? (at_ ++ [n]) with
  | some e => exact ⟨e, rfl⟩
  | none =>
    rw [exists_, find_child_free hp hn he] at h
    cases h

end

namespace WellFormed

variable {t : FileTree} {p : Path} {at_ : Location} {names : List String}

theorem find_directory_below (h : t.WellFormed) (hp : t.find p = .ok (.taken at_ .directory))
    (he : t.entry? (at_ ++ names) = some .directory) :
    t.find (p.join names) = .ok (.taken (at_ ++ names) .directory) := by
  obtain ⟨k, hk⟩ := find_join hp
  have hwalk := h.walk_along he k []
  rw [List.append_nil, walk] at hwalk
  rw [hk, hwalk]

theorem exists_child (h : t.WellFormed) (hp : t.find p = .ok (.taken at_ .directory))
    (hne : names ≠ []) {e : FileEntry} (he : t.entry? (at_ ++ names) = some e) :
    ∃ q d n, p.join names = q.join [n] ∧ at_ ++ names = d ++ [n] ∧
      t.find q = .ok (.taken d .directory) ∧ IsName n := by
  obtain ⟨init, n, rfl⟩ := (List.eq_nil_or_concat names).resolve_left hne
  rw [List.concat_eq_append, ← List.append_assoc] at he ⊢
  obtain ⟨hinit, hn⟩ := h.rooted_entry he
  exact ⟨p.join init, at_ ++ init, n, (Path.join_join p init [n]).symm, rfl,
    h.find_directory_below hp hinit, hn⟩

theorem entry?_start {at_ : Location} (hat : t.entry? at_ = some .directory) (root : PathRoot) :
    t.entry? (root.start at_) = some .directory := by
  cases root with
  | working => exact hat
  | single => rfl
  | double => rfl

theorem entry?_dropLast (h : t.WellFormed) {e : FileEntry} (hat : t.entry? at_ = some e) :
    t.entry? at_.dropLast = some .directory := by
  by_cases hne : at_ = []
  · rw [hne]
    rfl
  · exact h.rooted _ (mem_entries_of_entry hne hat)

theorem entry?_of_walk (h : t.WellFormed) {links : Nat} {d : Location}
    (hat : t.entry? at_ = some .directory)
    (hw : t.walk links at_ names = .ok (.taken d .directory)) : t.entry? d = some .directory := by
  fun_induction t.walk links at_ names with
  | case1 links at_ =>
    cases hw
    exact hat
  | case2 links at_ n ns hdot ih => exact ih hat hw
  | case3 links at_ ns hdot ih => exact ih (h.entry?_dropLast hat) hw
  | case6 links at_ n ns hdot hup he ih => exact ih he hw
  | case10 at_ n ns hdot hup target he k ih =>
    exact ih (entry?_start hat (Path.rootOf target.toList)) hw
  | _ => cases hw

theorem entry?_of_find (h : t.WellFormed) (hp : t.find p = .ok (.taken at_ .directory)) :
    t.entry? at_ = some .directory :=
  h.entry?_of_walk (entry?_start h.housed p.root) hp

theorem put (h : t.WellFormed) {n : String} (hat : t.entry? at_ = some .directory)
    (hn : IsName n) (hfree : t.entry? (at_ ++ [n]) = none) (e : FileEntry) :
    WellFormed (t.put (at_ ++ [n]) e) := by
  have hadds := adds_put hfree e
  have hkeeps := hadds.keeps.entry
  refine ⟨hkeeps _ _ h.housed, ?_, ?_⟩
  · rw [hadds.entries]
    intro d hd
    rcases List.mem_append.1 hd with hold | hnew
    · exact hkeeps _ _ (h.rooted d hold)
    · rw [List.mem_singleton.1 hnew, List.dropLast_concat]
      exact hkeeps _ _ hat
  · rw [hadds.entries]
    intro d hd
    rcases List.mem_append.1 hd with hold | hnew
    · exact h.named d hold
    · rw [List.mem_singleton.1 hnew]
      refine ⟨by simp, fun m hm => ?_⟩
      rcases List.mem_append.1 hm with hat' | hlast
      · by_cases hroot : at_ = []
        · rw [hroot] at hat'
          cases hat'
        · exact (h.named _ (mem_entries_of_entry hroot hat)).2 m hat'
      · rwa [List.mem_singleton.1 hlast]

end WellFormed

/-- The path is that of a link that leads nowhere. -/
def Broken (t : FileTree) (p : Path) : Prop :=
  t.exists_ p = false ∧ ∃ at_ target, t.find p.parent = .ok (.taken at_ .directory) ∧
    t.entry? (at_ ++ [p.name]) = some (.link target)

theorem not_broken_of_no_link {t : FileTree} (h : ∀ e ∈ t.entries, ∀ target, e.2 ≠ .link target)
    (p : Path) : ¬t.Broken p := by
  rintro ⟨-, at_, target, -, he⟩
  exact h _ (mem_entries_of_entry (by simp) he) target rfl

section

variable {t : FileTree} {p : Path} {at_ : Location} {n : String}

theorem broken_child (hp : t.find p = .ok (.taken at_ .directory)) {target : String}
    (he : t.entry? (at_ ++ [n]) = some (.link target)) (h : t.exists_ (p.join [n]) = false) :
    t.Broken (p.join [n]) :=
  ⟨h, at_, target, by rwa [Path.parent_join_singleton], by rwa [Path.name_join_singleton]⟩

theorem exists_child_of_entry (hp : t.find p = .ok (.taken at_ .directory)) (hn : IsName n)
    {e : FileEntry} (he : t.entry? (at_ ++ [n]) = some e) (hb : ¬t.Broken (p.join [n])) :
    t.exists_ (p.join [n]) = true := by
  cases e with
  | directory => rw [exists_, find_child hp hn he (by simp)]
  | file bytes => rw [exists_, find_child hp hn he (by simp)]
  | link target =>
    by_contra h
    exact hb (broken_child hp he (by simpa using h))

theorem entry?_of_not_exists (hp : t.find p = .ok (.taken at_ .directory)) (hn : IsName n)
    (hb : ¬t.Broken (p.join [n])) (h : t.exists_ (p.join [n]) = false) :
    t.entry? (at_ ++ [n]) = none := by
  cases he : t.entry? (at_ ++ [n]) with
  | none => rfl
  | some e =>
    rw [exists_child_of_entry hp hn he hb] at h
    cases h

end

theorem isDirectory_of_makeDirectory {t t' : FileTree} {p : Path} (hp : p.Clean)
    (h : t.makeDirectory p = .ok t') : t'.isDirectory p = true := by
  obtain ⟨n, at_, hlast, hparent, hup, hfree, rfl⟩ := exists_of_makeDirectory h
  have hn : IsName n := ⟨hp n (List.mem_of_getLast? hlast), hup⟩
  have hfound := (adds_put hfree .directory).keeps.find hparent
  have hentry : FileTree.entry? (t.put (at_ ++ [n]) .directory) (at_ ++ [n]) = some .directory := by
    rw [entry?_put _ (by simp), if_pos rfl]
  rw [isDirectory, ← Path.parent_join hlast, find_child hfound hn hentry (by simp)]

theorem isDirectory_of_ensureDirectory {t : FileTree} {p : Path} (hp : p.Clean)
    (h : (t.ensureDirectory p).2 = none) : (t.ensureDirectory p).1.isDirectory p = true := by
  fun_induction t.ensureDirectory p with
  | case1 p made hmade => exact isDirectory_of_makeDirectory hp hmade
  | case4 p _ _ _ _ made _ made' hmade => exact isDirectory_of_makeDirectory hp hmade
  | case6 p orThere | case7 p orThere =>
    by_contra hnot
    simp only [orThere, dif_neg hnot] at h
    cases h
  | _ => cases h

theorem ensureDirectory_of_isDirectory {t : FileTree} {p : Path} (hp : p.Clean)
    (h : t.isDirectory p = true) : t.ensureDirectory p = (t, none) := by
  have hthere : t.makeDirectory p = .error ⟨.alreadyExists, p⟩ := by
    rw [makeDirectory]
    cases hlast : p.parts.getLast? with
    | none => rfl
    | some n =>
      have hjoin := Path.parent_join hlast
      have hfound := h
      rw [isDirectory] at hfound
      split at hfound
      · next l hfind =>
        rw [← hjoin] at hfind
        obtain ⟨at_, hat⟩ := find_eq_directory hfind
        simp only [hat]
        refine if_pos ?_
        by_cases hup : n = ".."
        · exact .inl hup
        · have hexists : t.exists_ (p.parent.join [n]) = true := by rw [exists_, hfind]
          obtain ⟨e, he⟩ :=
            exists_entry_of_exists hat ⟨hp n (List.mem_of_getLast? hlast), hup⟩ hexists
          exact .inr (by rw [he]; rfl)
      · cases hfound
  rw [ensureDirectory, hthere]
  simp [h]

/-- The second tree is the first one with directories, and files that end like reports, added behind
its entries, as a file system does it. -/
structure Extends (t t' : FileTree) : Prop where
  wellFormed : t'.WellFormed
  added : ∃ more, Adds t t' more ∧ ∀ e ∈ more,
    e.2 = .directory ∨ (∃ bytes, e.2 = .file bytes) ∧ Path.suffix ⟨.working, e.1⟩ = ".json"

namespace Extends

variable {t t' : FileTree}

theorem refl (h : t.WellFormed) : Extends t t :=
  ⟨h, [], .refl t, fun _ h => absurd h List.not_mem_nil⟩

theorem trans {u v : FileTree} (h : Extends t u) (h' : Extends u v) : Extends t v := by
  obtain ⟨-, more, hadds, hmore⟩ := h
  obtain ⟨hv, rest, hadds', hrest⟩ := h'
  exact ⟨hv, more ++ rest, hadds.trans hadds', List.forall_mem_append.2 ⟨hmore, hrest⟩⟩

theorem keeps (h : Extends t t') : Keeps t t' := by
  obtain ⟨-, more, hadds, -⟩ := h
  exact hadds.keeps

theorem put (h : t.WellFormed) {at_ : Location} {n : String}
    (hat : t.entry? at_ = some .directory) (hn : IsName n) (hfree : t.entry? (at_ ++ [n]) = none)
    {e : FileEntry} (he : e = .directory ∨
      (∃ bytes, e = .file bytes) ∧ Path.suffix ⟨.working, at_ ++ [n]⟩ = ".json") :
    Extends t (t.put (at_ ++ [n]) e) :=
  ⟨h.put hat hn hfree e, [(at_ ++ [n], e)], adds_put hfree e, by simpa using he⟩

theorem ensureDirectory (h : t.WellFormed) {p : Path} (hp : p.Clean) :
    Extends t (t.ensureDirectory p).1 := by
  refine ensureDirectory_preserves (C := Path.Clean) (fun _ => .parent)
    (fun u q u' hq hu hmade => ?_) hp (.refl h)
  obtain ⟨n, at_, hlast, hparent, hup, hfree, rfl⟩ := exists_of_makeDirectory hmade
  exact hu.trans (.put hu.wellFormed (hu.wellFormed.entry?_of_find hparent)
    ⟨hq n (List.mem_of_getLast? hlast), hup⟩ hfree (.inl rfl))

theorem entry?_of_link (h : Extends t t') {l : Location} {target : String}
    (he : t'.entry? l = some (.link target)) : t.entry? l = some (.link target) := by
  obtain ⟨-, more, hadds, hmore⟩ := h
  have hne : l ≠ [] := by
    rintro rfl
    cases he
  have hmem := mem_entries_of_entry hne he
  rw [hadds.entries] at hmem
  rcases List.mem_append.1 hmem with hold | hnew
  · exact entry?_of_mem hold hne
  · rcases hmore _ hnew with hdir | ⟨⟨bytes, hfile⟩, -⟩
    · cases hdir
    · cases hfile

theorem broken (h : Extends t t') {p : Path} (hp : t.isDirectory p.parent = true)
    (hb : t'.Broken p) : t.Broken p := by
  obtain ⟨hnone, at_, target, hparent, he⟩ := hb
  have hfind := h.keeps.find_eq (exists_of_isDirectory hp)
  refine ⟨?_, at_, target, by rw [← hfind, hparent], h.entry?_of_link he⟩
  by_contra hsome
  rw [Bool.not_eq_false] at hsome
  rw [exists_, h.keeps.find_eq hsome, ← exists_, hsome] at hnone
  cases hnone

end Extends

end FileTree

end CodeReview
