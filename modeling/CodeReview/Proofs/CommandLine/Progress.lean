import CodeReview.CommandLine
import CodeReview.Proofs.Report.Save

/-!
The part of a run that shows and saves its reviews. It goes on entry by entry as long as everything
can be printed and saved, so how it ends tells of all that came before.
-/

namespace CodeReview

namespace Progress

variable {p : Progress} {next : FileTree → Progress}

theorem andThen_of_none (h : p.crash = none) :
    p.andThen next = { next p.tree with console := p.console ++ (next p.tree).console } := by
  rw [andThen, h]

theorem andThen_of_some {c : Crash} (h : p.crash = some c) : p.andThen next = p := by
  rw [andThen, h]

theorem crash_andThen_eq_none_iff :
    (p.andThen next).crash = none ↔ p.crash = none ∧ (next p.tree).crash = none := by
  cases h : p.crash with
  | none => simp [andThen_of_none h]
  | some c => simp [andThen_of_some h, h]

theorem crash_andThen_eq_some {c : Crash} (h : (p.andThen next).crash = some c) :
    p.crash = some c ∨ p.crash = none ∧ (next p.tree).crash = some c := by
  cases hp : p.crash with
  | none =>
    rw [andThen_of_none hp] at h
    exact .inr ⟨rfl, h⟩
  | some d =>
    rw [andThen_of_some hp, hp] at h
    exact .inl h

theorem crash_andThen_eq_some_of_next {c : Crash} (h : p.crash = none)
    (hnext : (next p.tree).crash = some c) : (p.andThen next).crash = some c := by
  rw [andThen_of_none h]
  exact hnext

theorem tree_andThen_of_none (h : p.crash = none) : (p.andThen next).tree = (next p.tree).tree := by
  rw [andThen_of_none h]

theorem tree_andThen_eq {t : FileTree} (h : p.tree = t) (hnext : (next t).tree = t) :
    (p.andThen next).tree = t := by
  cases hp : p.crash with
  | none => rw [tree_andThen_of_none hp, h, hnext]
  | some c => rw [andThen_of_some hp, h]

theorem mem_console_andThen {e : ConsoleEntry} (h : e ∈ (p.andThen next).console) :
    e ∈ p.console ∨ e ∈ (next p.tree).console := by
  cases hp : p.crash with
  | none =>
    rw [andThen_of_none hp] at h
    exact List.mem_append.1 h
  | some c =>
    rw [andThen_of_some hp] at h
    exact .inl h

theorem mem_console_andThen_of_mem {e : ConsoleEntry} (h : e ∈ p.console) :
    e ∈ (p.andThen next).console := by
  cases hp : p.crash with
  | none =>
    rw [andThen_of_none hp]
    exact List.mem_append_left _ h
  | some c => rwa [andThen_of_some hp]

theorem mem_console_andThen_of_next {e : ConsoleEntry} (h : p.crash = none)
    (hnext : e ∈ (next p.tree).console) : e ∈ (p.andThen next).console := by
  rw [andThen_of_none h]
  exact List.mem_append_right _ hnext

end Progress

namespace CommandLine

open Progress

variable {host : Host} {t : FileTree} {es : List ConsoleEntry} {r : Review} {rs : List Review}
  {save : Option (Path × Option Path)} {clock : Nat → String} {stamp : String} {k : Nat}

theorem tree_print (host : Host) (t : FileTree) (es : List ConsoleEntry) :
    (print host t es).tree = t := by
  induction es with
  | nil => rfl
  | cons e es ih =>
    rw [print]
    split
    · exact ih
    · rfl

theorem print_of_prints (h : ∀ e ∈ es, host.prints e = true) (t : FileTree) :
    print host t es = { console := es, tree := t } := by
  induction es with
  | nil => rfl
  | cons e es ih =>
    rw [List.forall_mem_cons] at h
    rw [print, if_pos h.1, ih h.2]

theorem crash_print_eq_none_iff :
    (print host t es).crash = none ↔ ∀ e ∈ es, host.prints e = true := by
  induction es with
  | nil => exact iff_of_true rfl (List.forall_mem_nil _)
  | cons e es ih =>
    rw [List.forall_mem_cons, print]
    by_cases he : host.prints e = true
    · rw [if_pos he, and_iff_right he]
      exact ih
    · rw [if_neg he]
      exact iff_of_false nofun fun h => he h.1

theorem crash_print_eq_some {c : Crash} (h : (print host t es).crash = some c) :
    ∃ e ∈ es, host.prints e = false ∧ c = .unprinted e := by
  induction es with
  | nil => cases h
  | cons e es ih =>
    rw [print] at h
    by_cases he : host.prints e = true
    · rw [if_pos he] at h
      obtain ⟨e', hmem, he'⟩ := ih h
      exact ⟨e', List.mem_cons_of_mem e hmem, he'⟩
    · rw [if_neg he] at h
      exact ⟨e, List.mem_cons_self, Bool.eq_false_iff.2 he, (Option.some.inj h).symm⟩

theorem mem_of_mem_print {e : ConsoleEntry} (h : e ∈ (print host t es).console) : e ∈ es := by
  induction es with
  | nil => cases h
  | cons e' es ih =>
    rw [print] at h
    split at h
    · rcases List.mem_cons.1 h with rfl | h
      · exact List.mem_cons_self
      · exact List.mem_cons_of_mem _ (ih h)
    · rw [List.mem_singleton.1 h]
      exact List.mem_cons_self

theorem mem_print_singleton (host : Host) (t : FileTree) (e : ConsoleEntry) :
    e ∈ (print host t [e]).console := by
  rw [print]
  split
  · exact List.mem_cons_self
  · exact List.mem_cons_self

structure Shown (host : Host) (r : Review) : Prop where
  short : r.hasLongLine = false
  heading : ∀ e ∈ ConsoleEntry.heading r, host.prints e = true
  details : ∀ e ∈ ConsoleEntry.details r, host.prints e = true

theorem tree_render (host : Host) (r : Review) (t : FileTree) : (render host r t).tree = t := by
  refine tree_andThen_eq (tree_print _ _ _) ?_
  split
  · rfl
  · exact tree_print _ _ _

theorem crash_render_eq_none_iff : (render host r t).crash = none ↔ Shown host r := by
  rw [render, crash_andThen_eq_none_iff, crash_print_eq_none_iff]
  cases hlong : r.hasLongLine with
  | true =>
    refine iff_of_false (fun h => nomatch h.2) fun h => ?_
    rw [h.short] at hlong
    cases hlong
  | false =>
    rw [if_neg Bool.false_ne_true, crash_print_eq_none_iff]
    exact ⟨fun h => ⟨hlong, h.1, h.2⟩, fun h => ⟨h.heading, h.details⟩⟩

theorem mem_of_mem_render {e : ConsoleEntry} (h : e ∈ (render host r t).console) :
    e ∈ ConsoleEntry.heading r ++ ConsoleEntry.details r := by
  rw [List.mem_append]
  refine (mem_console_andThen h).imp mem_of_mem_print fun h => ?_
  split at h
  · cases h
  · exact mem_of_mem_print h

theorem keep_of_save {directory : Path} {root : Option Path} {p : Path} {t' : FileTree}
    (h : Report.save t directory stamp root r = .ok (p, t')) :
    keep host (some (directory, root)) stamp r t = print host t' [.saved p] := by
  rw [keep, h]

theorem present_cons_of_keep (clock : Nat → String) (k : Nat) (hshown : Shown host r)
    (hkeep : (keep host save (clock k) r t).crash = none) (rs : List Review) :
    (present host save clock k (r :: rs) t).tree =
        (present host save clock (k + 1) rs (keep host save (clock k) r t).tree).tree ∧
      (present host save clock k (r :: rs) t).crash =
        (present host save clock (k + 1) rs (keep host save (clock k) r t).tree).crash := by
  have hrender := (crash_render_eq_none_iff (t := t)).2 hshown
  have hboth : ((render host r t).andThen (keep host save (clock k) r)).crash = none := by
    rw [crash_andThen_eq_none_iff, tree_render]
    exact ⟨hrender, hkeep⟩
  rw [present, andThen_of_none hboth, tree_andThen_of_none hrender, tree_render]
  exact ⟨rfl, rfl⟩

theorem present_cons_of_crash (clock : Nat → String) (k : Nat) (hshown : Shown host r) {c : Crash}
    (hkeep : (keep host save (clock k) r t).crash = some c) (rs : List Review) :
    (present host save clock k (r :: rs) t).tree = (keep host save (clock k) r t).tree ∧
      (present host save clock k (r :: rs) t).crash = some c := by
  have hrender := (crash_render_eq_none_iff (t := t)).2 hshown
  have hboth : ((render host r t).andThen (keep host save (clock k) r)).crash = some c := by
    rw [andThen_of_none hrender, tree_render]
    exact hkeep
  rw [present, andThen_of_some hboth, tree_andThen_of_none hrender, tree_render]
  exact ⟨rfl, hboth⟩

theorem crash_present_cons_eq_none_iff :
    (present host save clock k (r :: rs) t).crash = none ↔
      Shown host r ∧ (keep host save (clock k) r t).crash = none ∧
        (present host save clock (k + 1) rs (keep host save (clock k) r t).tree).crash = none := by
  rw [present, crash_andThen_eq_none_iff, crash_andThen_eq_none_iff, crash_render_eq_none_iff,
    tree_render, and_assoc]
  refine and_congr_right fun hshown => and_congr_right fun _ => ?_
  rw [tree_andThen_of_none (crash_render_eq_none_iff.2 hshown), tree_render]

theorem tree_present_none (host : Host) (clock : Nat → String) (k : Nat) (rs : List Review)
    (t : FileTree) : (present host none clock k rs t).tree = t := by
  induction rs generalizing k with
  | nil => rfl
  | cons r rs ih => exact tree_andThen_eq (tree_andThen_eq (tree_render _ _ _) rfl) (ih _)

theorem crash_present_none (h : ∀ r ∈ rs, Shown host r) (clock : Nat → String) (k : Nat)
    (t : FileTree) : (present host none clock k rs t).crash = none := by
  induction rs generalizing k with
  | nil => rfl
  | cons r rs ih =>
    rw [List.forall_mem_cons] at h
    exact crash_present_cons_eq_none_iff.2 ⟨h.1, rfl, ih h.2 _⟩

/-- The path under which a report on a file may come to stand. -/
def reportPath (directory : Path) (root : Option Path) (stamp filename : String) (n : Nat) : Path :=
  directory.join [Report.fileName (Report.stem filename root) stamp n]

/-- Reviews that can be shown are saved in a usable directory one behind the other, up to the first
of which it cannot be told where. -/
theorem present_saved {directory : Path} (root : Option Path)
    (h : ∀ i, Report.Usable t directory (clock i)) (hshown : ∀ r ∈ rs, Shown host r) (k : Nat) :
    ∃ m, Report.Saves directory clock root k t (rs.take m)
        (present host (some (directory, root)) clock k rs t).tree ∧
      ((present host (some (directory, root)) clock k rs t).crash = none ∧ rs.length ≤ m ∨
        ∃ i r n, m = i + 1 ∧ rs[i]? = some r ∧
          host.prints (.saved (reportPath directory root (clock (k + i)) r.filename n)) = false ∧
          (present host (some (directory, root)) clock k rs t).crash =
            some (.unprinted (.saved (reportPath directory root (clock (k + i)) r.filename n)))) := by
  induction rs generalizing t k with
  | nil => exact ⟨0, .nil k t, .inl ⟨rfl, Nat.le_refl 0⟩⟩
  | cons r rs ih =>
    rw [List.forall_mem_cons] at hshown
    obtain ⟨n, at_, hn, hfree, hsave⟩ := Report.save_of_usable (h k) root hshown.1.short
    have hkeep : keep host (some (directory, root)) (clock k) r t =
        print host (t.put at_ (.file (Report.bytes r)))
          [.saved (reportPath directory root (clock k) r.filename n)] := keep_of_save hsave
    have htree : (keep host (some (directory, root)) (clock k) r t).tree =
        t.put at_ (.file (Report.bytes r)) := by
      rw [hkeep, tree_print]
    have husable : ∀ i, Report.Usable (t.put at_ (.file (Report.bytes r))) directory (clock i) :=
      fun i => (h i).put (FileTree.entry?_of_find_free hfree) _
    -- the report is saved either way; the run goes on only if its path is printed
    cases hprints : host.prints (.saved (reportPath directory root (clock k) r.filename n)) with
    | true =>
      have hkept : (keep host (some (directory, root)) (clock k) r t).crash = none := by
        rw [hkeep, print_of_prints (List.forall_mem_singleton.2 hprints)]
      obtain ⟨m, hsaves, hend⟩ := ih husable hshown.2 (k + 1)
      obtain ⟨hrest, hcrash⟩ := present_cons_of_keep clock k hshown.1 hkept rs
      rw [htree] at hrest hcrash
      rw [hrest, hcrash]
      refine ⟨m + 1, .cons hn hfree hsaves, ?_⟩
      rcases hend with ⟨hnone, hlen⟩ | ⟨i, r', n', rfl, hr', hno, hend⟩
      · exact .inl ⟨hnone, Nat.succ_le_succ hlen⟩
      · rw [show k + 1 + i = k + (i + 1) by omega] at hno hend
        exact .inr ⟨i + 1, r', n', rfl, hr', hno, hend⟩
    | false =>
      have hkept : (keep host (some (directory, root)) (clock k) r t).crash =
          some (.unprinted (.saved (reportPath directory root (clock k) r.filename n))) := by
        rw [hkeep, print, if_neg (by rw [hprints]; exact Bool.false_ne_true)]
      obtain ⟨hrest, hcrash⟩ := present_cons_of_crash clock k hshown.1 hkept rs
      rw [hrest, hcrash, htree]
      exact ⟨1, .cons hn hfree (.nil _ _), .inr ⟨0, r, n, rfl, rfl, hprints, rfl⟩⟩

theorem shown_of_crash_present (h : (present host save clock k rs t).crash = none) :
    ∀ r ∈ rs, Shown host r ∧ ∀ directory root, save = some (directory, root) →
      ∃ i n, host.prints (.saved (reportPath directory root (clock i) r.filename n)) = true := by
  induction rs generalizing t k with
  | nil => exact List.forall_mem_nil _
  | cons r rs ih =>
    obtain ⟨hshown, hkeep, hrest⟩ := crash_present_cons_eq_none_iff.1 h
    refine List.forall_mem_cons.2 ⟨⟨hshown, ?_⟩, ih hrest⟩
    rintro directory root rfl
    rw [keep] at hkeep
    cases hsave : Report.save t directory (clock k) root r with
    | error f =>
      rw [hsave] at hkeep
      cases hkeep
    | ok saved =>
      obtain ⟨p, t'⟩ := saved
      rw [hsave] at hkeep
      obtain ⟨n, -, hpath, -⟩ := Report.firstFree_spec t directory
        (Report.stem r.filename root) (clock k) (t.entries.length + 1) 1
      rw [Report.save_of_short hshown.short, hpath] at hsave
      split at hsave
      · cases hsave
      · obtain ⟨rfl, -⟩ := Prod.mk.inj (Except.ok.inj hsave)
        exact ⟨k, n, crash_print_eq_none_iff.1 hkeep _ (List.mem_singleton_self _)⟩

variable {a : Arguments}

def outTree (a : Arguments) (t : FileTree) : FileTree :=
  (t.ensureDirectory (Path.ofString a.out)).1

def outRoot (a : Arguments) (t : FileTree) : Option Path :=
  some (reportRoot (outTree a t) (Path.ofString a.target))

theorem makeOut_of_save (h : a.save = true) (t : FileTree) :
    makeOut a t =
      { tree := outTree a t, crash := (t.ensureDirectory (Path.ofString a.out)).2.map .path } := by
  rw [makeOut, if_pos h]
  rfl

theorem reports_of_save (h : a.save = true) (t : FileTree) :
    reports a (outTree a t) = some (Path.ofString a.out, outRoot a t) := by
  rw [reports, if_pos h]
  rfl

theorem crash_deliver_eq_none_iff :
    (deliver host a clock rs t).crash = none ↔ (makeOut a t).crash = none ∧
      (present host (reports a (makeOut a t).tree) clock 0 rs (makeOut a t).tree).crash = none ∧
      (1 < rs.length → host.prints (.summary rs) = true) := by
  rw [deliver, crash_andThen_eq_none_iff, crash_andThen_eq_none_iff, crash_print_eq_none_iff,
    and_assoc]
  refine and_congr_right fun _ => and_congr_right fun _ => ?_
  split
  · next h => simp [h]
  · next h => simp [h]

theorem crash_deliver_of_present {u : FileTree} {c : Crash} (hmade : makeOut a t = { tree := u })
    (h : (present host (reports a u) clock 0 rs u).crash = some c) :
    (deliver host a clock rs t).crash = some c := by
  have hpart : ((makeOut a t).andThen fun t => present host (reports a t) clock 0 rs t).crash =
      some c := by
    rw [hmade]
    exact crash_andThen_eq_some_of_next rfl h
  rw [deliver, andThen_of_some hpart, hpart]

theorem tree_deliver (hmade : (makeOut a t).crash = none) (host : Host) (clock : Nat → String)
    (rs : List Review) :
    (deliver host a clock rs t).tree =
      (present host (reports a (makeOut a t).tree) clock 0 rs (makeOut a t).tree).tree := by
  have htree : ∀ p : Progress, (p.andThen fun t =>
      print host t (if 1 < rs.length then [ConsoleEntry.summary rs] else [])).tree = p.tree :=
    fun p => tree_andThen_eq rfl (tree_print _ _ _)
  rw [deliver, htree, tree_andThen_of_none hmade]

theorem tree_deliver_unsaved (h : ¬a.save = true) (host : Host) (clock : Nat → String)
    (rs : List Review) (t : FileTree) : (deliver host a clock rs t).tree = t := by
  have hmade : makeOut a t = { tree := t } := by rw [makeOut, if_neg h]
  rw [tree_deliver (by rw [hmade]), hmade, reports, if_neg h, tree_present_none]

theorem crash_deliver_unsaved (h : ¬a.save = true) (hshown : ∀ r ∈ rs, Shown host r)
    (hsummary : 1 < rs.length → host.prints (.summary rs) = true) (clock : Nat → String)
    (t : FileTree) : (deliver host a clock rs t).crash = none := by
  have hmade : makeOut a t = { tree := t } := by rw [makeOut, if_neg h]
  rw [crash_deliver_eq_none_iff, hmade, reports, if_neg h]
  exact ⟨rfl, crash_present_none hshown clock 0 t, hsummary⟩

theorem deliver_saved (hsave : a.save = true)
    (hmade : (t.ensureDirectory (Path.ofString a.out)).2 = none)
    (husable : ∀ i, Report.Usable (outTree a t) (Path.ofString a.out) (clock i))
    (hshown : ∀ r ∈ rs, Shown host r) (hsummary : 1 < rs.length → host.prints (.summary rs) = true) :
    ∃ m, Report.Saves (Path.ofString a.out) clock (outRoot a t) 0 (outTree a t) (rs.take m)
        (deliver host a clock rs t).tree ∧
      ((deliver host a clock rs t).crash = none ∧ rs.length ≤ m ∨
        ∃ i r n, m = i + 1 ∧ rs[i]? = some r ∧
          host.prints (.saved
            (reportPath (Path.ofString a.out) (outRoot a t) (clock i) r.filename n)) = false ∧
          (deliver host a clock rs t).crash = some (.unprinted (.saved
            (reportPath (Path.ofString a.out) (outRoot a t) (clock i) r.filename n)))) := by
  have hout : makeOut a t = { tree := outTree a t } := by
    rw [makeOut_of_save hsave, hmade]
    rfl
  have htree := tree_deliver (congrArg Progress.crash hout) host clock rs
  obtain ⟨m, hsaves, hend⟩ := present_saved (outRoot a t) husable hshown 0
  rw [hout, reports_of_save hsave] at htree
  rw [htree]
  refine ⟨m, hsaves, ?_⟩
  rcases hend with ⟨hnone, hlen⟩ | ⟨i, r, n, hm, hr, hno, hcrash⟩
  · rw [crash_deliver_eq_none_iff, hout, reports_of_save hsave]
    exact .inl ⟨⟨rfl, hnone, hsummary⟩, hlen⟩
  · rw [Nat.zero_add] at hno hcrash
    rw [← reports_of_save hsave] at hcrash
    exact .inr ⟨i, r, n, hm, hr, hno, crash_deliver_of_present hout hcrash⟩

end CommandLine

end CodeReview
