import CodeReview.FileTree

/-!
Walks in a tree. A walk that comes to a directory can be taken up from there, and a file that comes
to a free place leads no walk elsewhere.
-/

namespace CodeReview

theorem putEntry_of_notMem {entries : List (Location × FileEntry)} {at_ : Location} (e : FileEntry)
    (h : at_ ∉ entries.map (·.1)) : putEntry entries at_ e = entries ++ [(at_, e)] := by
  induction entries with
  | nil => rfl
  | cons d es ih =>
    simp only [List.map_cons, List.mem_cons, not_or] at h
    simp only [putEntry, if_neg (Ne.symm h.1), ih h.2, List.cons_append]

theorem find?_putEntry (entries : List (Location × FileEntry)) (at_ l : Location) (e : FileEntry) :
    (putEntry entries at_ e).find? (·.1 = l) =
      if l = at_ then some (at_, e) else entries.find? (·.1 = l) := by
  induction entries with
  | nil => by_cases hl : l = at_ <;> simp [putEntry, hl, eq_comm]
  | cons d es ih =>
    simp only [putEntry]
    by_cases hd : d.1 = at_
    · by_cases hl : l = at_
      · simp [hd, hl]
      · simp [hd, hl, Ne.symm hl]
    · by_cases hdl : d.1 = l
      · subst hdl
        simp [hd]
      · simp [hd, hdl, ih]

namespace FileTree

theorem entry?_nil (t : FileTree) : t.entry? [] = some .directory := rfl

theorem entry?_of_ne_nil (t : FileTree) {at_ : Location} (h : at_ ≠ []) :
    t.entry? at_ = (t.entries.find? (·.1 = at_)).map (·.2) := if_neg h

theorem ne_nil_of_entry?_none {t : FileTree} {at_ : Location} (h : t.entry? at_ = none) :
    at_ ≠ [] := by
  rintro rfl
  simp [entry?_nil] at h

theorem entry?_put (t : FileTree) {at_ : Location} (h : at_ ≠ []) (l : Location) (e : FileEntry) :
    FileTree.entry? (t.put at_ e) l = if l = at_ then some e else t.entry? l := by
  by_cases hl : l = []
  · rw [hl, entry?_nil, entry?_nil, if_neg (Ne.symm h)]
  · rw [entry?_of_ne_nil _ hl, entry?_of_ne_nil _ hl, put, find?_putEntry]
    split <;> rfl

theorem notMem_of_entry?_none {t : FileTree} {at_ : Location} (h : t.entry? at_ = none) :
    at_ ∉ t.entries.map (·.1) := by
  rw [entry?_of_ne_nil _ (ne_nil_of_entry?_none h), Option.map_eq_none_iff,
    List.find?_eq_none] at h
  rw [List.mem_map]
  rintro ⟨d, hd, hat⟩
  exact h d hd (by simpa using hat)

theorem mem_entries_of_entry {t : FileTree} {at_ : Location} {e : FileEntry}
    (hne : at_ ≠ []) (h : t.entry? at_ = some e) : (at_, e) ∈ t.entries := by
  rw [entry?_of_ne_nil _ hne, Option.map_eq_some_iff] at h
  obtain ⟨d, hd, rfl⟩ := h
  obtain rfl : d.1 = at_ := by simpa using List.find?_some hd
  exact List.mem_of_find?_eq_some hd

/-- The second tree is the first one with some entries behind those that were there. -/
structure Adds (t t' : FileTree) (more : List (Location × FileEntry)) : Prop where
  entries : t'.entries = t.entries ++ more
  working : t'.working = t.working

theorem Adds.refl (t : FileTree) : Adds t t [] :=
  ⟨(List.append_nil _).symm, rfl⟩

theorem Adds.trans {t u v : FileTree} {more rest : List (Location × FileEntry)}
    (h : Adds t u more) (h' : Adds u v rest) : Adds t v (more ++ rest) :=
  ⟨by rw [h'.entries, h.entries, List.append_assoc], h'.working.trans h.working⟩

theorem adds_put {t : FileTree} {at_ : Location} (h : t.entry? at_ = none) (e : FileEntry) :
    Adds t (t.put at_ e) [(at_, e)] :=
  ⟨putEntry_of_notMem e (notMem_of_entry?_none h), rfl⟩

theorem entry?_of_walk_free {t : FileTree} {links : Nat} {at_ l : Location} {names : List String}
    (h : t.walk links at_ names = .ok (.free l)) : t.entry? l = none := by
  fun_induction t.walk links at_ names <;> simp_all

theorem walk_append {t : FileTree} {links : Nat} {at_ d : Location} {names : List String}
    (h : t.walk links at_ names = .ok (.taken d .directory)) :
    ∃ k, ∀ more, t.walk links at_ (names ++ more) = t.walk k d more := by
  fun_induction t.walk links at_ names with
  | case1 links at_ =>
    cases h
    exact ⟨links, fun more => rfl⟩
  | case2 links at_ n ns hdot ih =>
    obtain ⟨k, hk⟩ := ih h
    exact ⟨k, fun more => by rw [List.cons_append, walk, if_pos hdot, hk]⟩
  | case3 links at_ ns hdot ih =>
    obtain ⟨k, hk⟩ := ih h
    exact ⟨k, fun more => by rw [List.cons_append, walk, if_neg hdot, if_pos rfl, hk]⟩
  | case6 links at_ n ns hdot hup he ih =>
    obtain ⟨k, hk⟩ := ih h
    exact ⟨k, fun more => by
      rw [List.cons_append, walk, if_neg hdot, if_neg hup]
      simp only [he, hk]⟩
  | case10 at_ n ns hdot hup target he k ih =>
    obtain ⟨k', hk⟩ := ih h
    exact ⟨k', fun more => by
      rw [List.cons_append, walk, if_neg hdot, if_neg hup]
      simp only [he, ← hk more, List.append_assoc]⟩
  | _ => cases h

theorem walk_eq_directory {t : FileTree} {links : Nat} {at_ : Location} {names : List String}
    {n : String} {place : Place} (h : t.walk links at_ (names ++ [n]) = .ok place) :
    ∃ d, t.walk links at_ names = .ok (.taken d .directory) := by
  fun_induction t.walk links at_ names with
  | case1 links at_ => exact ⟨at_, rfl⟩
  | case2 links at_ m ns hdot ih =>
    rw [List.cons_append, walk, if_pos hdot] at h
    exact ih h
  | case3 links at_ ns hdot ih =>
    rw [List.cons_append, walk, if_neg hdot, if_pos rfl] at h
    exact ih h
  | case6 links at_ m ns hdot hup he ih =>
    rw [List.cons_append, walk, if_neg hdot, if_neg hup] at h
    simp only [he] at h
    exact ih h
  | case10 at_ m ns hdot hup target he k ih =>
    rw [List.cons_append, walk, if_neg hdot, if_neg hup] at h
    simp only [he, ← List.append_assoc] at h
    exact ih h
  | _ =>
    -- the walk ends before the last name, at something that is no directory
    rw [List.cons_append, walk, if_neg ‹_›, if_neg ‹_›] at h
    simp_all

/-- What a place becomes when a file comes to `at_`, where there was no entry. -/
def Place.filled (at_ : Location) (bytes : List UInt8) : Place → Place
  | .free l => if l = at_ then .taken l (.file bytes) else .free l
  | p => p

/-- A file at a free place takes that place, and changes no other walk that came to its end. -/
theorem walk_put {t : FileTree} {new : Location} (bytes : List UInt8) (hnew : t.entry? new = none)
    {links : Nat} {at_ : Location} {names : List String} {p : Place}
    (h : t.walk links at_ names = .ok p) :
    (t.put new (.file bytes)).walk links at_ names = .ok (p.filled new bytes) := by
  have hput := entry?_put t (ne_nil_of_entry?_none hnew)
  have hkept : ∀ {l e}, t.entry? l = some e →
      FileTree.entry? (t.put new (.file bytes)) l = some e := by
    intro l e hl
    rw [hput, if_neg, hl]
    rintro rfl
    rw [hnew] at hl
    cases hl
  -- the new entry is met only where the names end at a place that had none
  fun_induction t.walk links at_ names with
  | case1 links at_ =>
    cases h
    rw [walk, Place.filled]
    nofun
  | case2 links at_ n ns hdot ih => rw [walk, if_pos hdot, ih h]
  | case3 links at_ ns hdot ih => rw [walk, if_neg hdot, if_pos rfl, ih h]
  | case4 links at_ n hdot hup he =>
    cases h
    rw [walk, if_neg hdot, if_neg hup]
    by_cases hn : at_ ++ [n] = new
    · simp only [hput, Place.filled, if_pos hn, if_true]
    · simp only [hput, Place.filled, if_neg hn, he, if_true]
  | case6 links at_ n ns hdot hup he ih =>
    rw [walk, if_neg hdot, if_neg hup]
    simp only [hkept he, ih h]
  | case7 links at_ n hdot hup old he =>
    cases h
    rw [walk, if_neg hdot, if_neg hup]
    simp only [hkept he, if_true, Place.filled]
  | case10 at_ n ns hdot hup target he k ih =>
    rw [walk, if_neg hdot, if_neg hup]
    simp only [hkept he, ih h]
  -- the other walks come to a fault
  | _ => cases h

theorem entry?_of_find_free {t : FileTree} {p : Path} {l : Location}
    (h : t.find p = .ok (.free l)) : t.entry? l = none :=
  entry?_of_walk_free h

theorem find_put {t : FileTree} {new : Location} (bytes : List UInt8) (hnew : t.entry? new = none)
    {p : Path} {place : Place} (h : t.find p = .ok place) :
    (t.put new (.file bytes)).find p = .ok (place.filled new bytes) :=
  walk_put bytes hnew h

theorem exists_of_isFile {t : FileTree} {p : Path} (h : t.isFile p = true) :
    t.exists_ p = true := by
  rw [isFile] at h
  split at h
  · next hfind => rw [exists_, hfind]
  · cases h

theorem exists_of_isDirectory {t : FileTree} {p : Path} (h : t.isDirectory p = true) :
    t.exists_ p = true := by
  rw [isDirectory] at h
  split at h
  · next hfind => rw [exists_, hfind]
  · cases h

theorem find_join {t : FileTree} {p : Path} {at_ : Location}
    (h : t.find p = .ok (.taken at_ .directory)) :
    ∃ k, ∀ names, t.find (p.join names) = t.walk k at_ names :=
  walk_append h

theorem find_eq_directory {t : FileTree} {p : Path} {n : String} {place : Place}
    (h : t.find (p.join [n]) = .ok place) : ∃ at_, t.find p = .ok (.taken at_ .directory) :=
  walk_eq_directory h

theorem entry?_ne_none_of_walk_taken {t : FileTree} {links : Nat} {at_ l : Location} {n : String}
    {e : FileEntry} (hdot : ¬(n = "." ∨ n = "")) (hup : n ≠ "..")
    (h : t.walk links at_ [n] = .ok (.taken l e)) : t.entry? (at_ ++ [n]) ≠ none := by
  intro hnone
  rw [walk, if_neg hdot, if_neg hup] at h
  simp [hnone] at h

theorem exists_walk_of_ne_link {t : FileTree} {links : Nat} {at_ : Location} {n : String}
    (hdot : ¬(n = "." ∨ n = "")) (hup : n ≠ "..")
    (h : ∀ target, t.entry? (at_ ++ [n]) ≠ some (.link target)) :
    ∃ place, t.walk links at_ [n] = .ok place := by
  rw [walk, if_neg hdot, if_neg hup]
  cases he : t.entry? (at_ ++ [n]) with
  | none => exact ⟨_, rfl⟩
  | some e =>
    cases e with
    | file bytes => exact ⟨_, rfl⟩
    | directory => exact ⟨.taken (at_ ++ [n]) .directory, by simp only [walk]⟩
    | link target => exact absurd he (h target)

theorem path_of_write_error {t : FileTree} {p : Path} {bytes : List UInt8} {e : PathError}
    (h : t.write p bytes = .error e) : e.path = p := by
  rw [write] at h
  split at h
  · cases h
  · cases h
    rfl
  · cases h
  · cases h
    rfl

theorem write_of_not_exists {t : FileTree} {p : Path} (h : t.exists_ p = false)
    (bytes : List UInt8) :
    (∃ at_, t.find p = .ok (.free at_) ∧ t.write p bytes = .ok (t.put at_ (.file bytes))) ∨
    ∃ f, t.find p = .error f ∧ t.write p bytes = .error ⟨f, p⟩ := by
  cases hfind : t.find p with
  | error f => exact .inr ⟨f, rfl, by simp only [write, hfind]⟩
  | ok place =>
    cases place with
    | taken at_ e => simp [exists_, hfind] at h
    | free at_ => exact .inl ⟨at_, rfl, by simp only [write, hfind]⟩

theorem exists_of_makeDirectory {t t' : FileTree} {p : Path} (h : t.makeDirectory p = .ok t') :
    ∃ n at_, p.parts.getLast? = some n ∧ t.find p.parent = .ok (.taken at_ .directory) ∧ n ≠ ".." ∧
      t.entry? (at_ ++ [n]) = none ∧ t' = t.put (at_ ++ [n]) .directory := by
  simp only [makeDirectory] at h
  split at h
  · cases h
  · next n hn =>
    split at h
    · cases h
    · cases h
    · next at_ hat =>
      split at h
      · cases h
      · next hfree =>
        cases h
        rw [not_or, Bool.not_eq_true, Option.isSome_eq_false_iff,
          Option.isNone_iff_eq_none] at hfree
        exact ⟨n, at_, hn, hat, hfree.1, hfree.2, rfl⟩
    · cases h

theorem ensureDirectory_preserves {C : Path → Prop} (hparent : ∀ q, C q → C q.parent)
    {P : FileTree → Prop}
    (step : ∀ u q u', C q → P u → u.makeDirectory q = .ok u' → P u') {t : FileTree} {p : Path}
    (hp : C p) (ht : P t) : P (t.ensureDirectory p).1 := by
  fun_induction t.ensureDirectory p with
  | case1 p made hmade => exact step _ _ _ hp ht hmade
  | case2 p => exact ht
  | case3 p _ _ _ _ made e hmade ih =>
    have hmid := ih (hparent p hp)
    rwa [hmade] at hmid
  | case4 p _ _ _ _ made hmade made' hlast ih =>
    have hmid := ih (hparent p hp)
    rw [hmade] at hmid
    exact step _ _ _ hp hmid hlast
  | case5 p _ _ _ _ made hmade e _ _ ih =>
    have hmid := ih (hparent p hp)
    rwa [hmade] at hmid
  | case6 p _ _ _ _ _ made hmade e _ _ ih =>
    have hmid := ih (hparent p hp)
    rwa [hmade] at hmid
  | case7 p => exact ht

/-- The second tree is the first one with directories added behind its entries. -/
def AddsDirectories (t t' : FileTree) : Prop :=
  ∃ made, Adds t t' made ∧ ∀ e ∈ made, e.2 = .directory

namespace AddsDirectories

theorem refl (t : FileTree) : AddsDirectories t t :=
  ⟨[], .refl t, fun _ h => absurd h List.not_mem_nil⟩

theorem trans {t u v : FileTree} (h : AddsDirectories t u) (h' : AddsDirectories u v) :
    AddsDirectories t v := by
  obtain ⟨made, hadds, hall⟩ := h
  obtain ⟨more, hadds', hall'⟩ := h'
  exact ⟨made ++ more, hadds.trans hadds', List.forall_mem_append.2 ⟨hall, hall'⟩⟩

theorem of_makeDirectory {t t' : FileTree} {p : Path} (h : t.makeDirectory p = .ok t') :
    AddsDirectories t t' := by
  obtain ⟨n, at_, -, -, -, hfree, rfl⟩ := exists_of_makeDirectory h
  exact ⟨_, adds_put hfree _, by simp⟩

end AddsDirectories

theorem addsDirectories_ensureDirectory (t : FileTree) (p : Path) :
    AddsDirectories t (t.ensureDirectory p).1 :=
  ensureDirectory_preserves (C := fun _ => True) (fun _ _ => trivial)
    (fun _ _ _ _ h hmade => h.trans (.of_makeDirectory hmade)) trivial (.refl t)

end FileTree

end CodeReview
