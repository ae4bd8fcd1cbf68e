import CodeReview.Proofs.Console.Printed
import CodeReview.Proofs.Review.Made

/-!
What a console prints. It is told by the tags of an entry, and a console prints all entries whose tags
are the program's own and closed in order. So every review is shown; only a text that is not escaped
can keep an entry from being printed.
-/

namespace CodeReview

open Markup

theorem Analysis.ownMarkup_rule (content : String) :
    ∀ f ∈ (ofText content).issues ++ (ofText content).suggestions, OwnMarkup f.rule := by
  intro f hf
  obtain ⟨-, r, hr⟩ := mem_findings_ofText_iff.1 (List.mem_append.1 hf)
  obtain ⟨line, rfl⟩ := Rule.rule_of_find? hr
  exact .rule r

namespace Review

theorem worded_failure (filename : String) {language : String} (h : OwnMarkup language)
    (reason : String) : (failure filename language reason).Worded where
  language := h
  summary := .summary (.ofScore 0 true)
  rules := by
    have hrule : OwnMarkup "review-failed" := .word (by decide +kernel)
    exact List.forall_mem_singleton.2 hrule

theorem ownMarkup_rule_withRemarks (content remarks : String) :
    ∀ f ∈ (withRemarks (Analysis.ofText content) remarks).issues
      ++ (withRemarks (Analysis.ofText content) remarks).suggestions, OwnMarkup f.rule := by
  have hrules := Analysis.ownMarkup_rule content
  rw [withRemarks]
  split
  · exact hrules
  · have hrule : OwnMarkup "ai-review" := .word (by decide +kernel)
    rw [← List.append_assoc, List.forall_mem_append, List.forall_mem_singleton]
    exact ⟨hrules, hrule⟩

theorem Made.worded {p : Policy} {s : SourceFile} {r : Review} (h : Made p s r) : r.Worded := by
  have hlanguage := OwnMarkup.languageFor s.name
  cases h with
  | failed reason => exact worded_failure s.name hlanguage reason
  | @scored remarks r review =>
    obtain ⟨score, -, rfl⟩ := ofAnalysis_eq_ok.1 review
    -- the name stands for itself: looking into it means to search the table of languages
    generalize Language.nameFor s.name = language at hlanguage
    exact
      { language := hlanguage
        summary := .summary _
        rules := ownMarkup_rule_withRemarks s.content remarks }

end Review

theorem Slot.Makes.worded {p : Policy} {name : String} {bytes : List UInt8} {r : Review}
    (h : Makes p (ofBytes name bytes) r) : r.Worded := by
  rw [ofBytes] at h
  split at h
  · cases h with
    | source made => exact made.worded
  · cases h
    exact Review.worded_failure _ (.languageFor _) _

/-- What the program relies on of its console: it prints what has no tags but the program's own, each
closed in order, and what it prints of the rest is told by the tags alone. -/
structure Host.Lawful (host : Host) : Prop where
  own : ∀ e, (∀ m ∈ e.markups, Balanced (tags m)) → host.prints e = true
  tagged : ∀ e e', e.markups.map tags = e'.markups.map tags → host.prints e = host.prints e'

/-- The tags of the path of a report are those of its front part: the time and the number that are
put behind it hold none. -/
theorem tags_saved_fileName {stamp : String} (h : Report.IsStamp stamp) (directory : Path)
    (stem : String) (n : Nat) :
    (ConsoleEntry.saved (directory.join [Report.fileName stem stamp n])).markups.map tags =
      (ConsoleEntry.saved (directory.join [stem])).markups.map tags := by
  have hname : Report.fileName stem stamp n = stem ++ Report.fileName "" stamp n := by
    simp only [Report.fileName, String.empty_append, String.append_assoc]
  have hnot : ∀ {c : Char}, c.isDigit = false → c ≠ '_' → c ∉ ".json".toList →
      c ∉ (Report.fileName "" stamp n).toList := by
    intro c hdigit hscore hjson
    rw [Report.fileName_eq, String.toList_append, List.mem_append, not_or]
    exact ⟨Report.notMem_baseName List.not_mem_nil (h.notMem hdigit hscore) hdigit hscore n, hjson⟩
  have hslash := hnot (c := '\\') (by decide) (by decide) (by decide)
  have hopen := hnot (c := '[') (by decide) (by decide) (by decide)
  have hclose := hnot (c := ']') (by decide) (by decide) (by decide)
  have hplain : Plain (Report.fileName "" stamp n) := fun c hc =>
    ⟨fun heq => hslash (heq ▸ hc), fun heq => hopen (heq ▸ hc)⟩
  simp only [ConsoleEntry.saved, ConsoleEntry.markups, List.map_cons, List.map_nil, hname,
    Path.toString_join_append, ← String.append_assoc]
  rw [tags_append (apart_of_notMem hslash hopen hclose), hplain.tags_eq_nil, List.append_nil]

theorem Host.Lawful.prints_of_escaped {host : Host} (h : host.Lawful) {e : ConsoleEntry}
    (he : e.Escaped) : host.prints e = true :=
  h.own e fun m hm => (he m hm).balanced

namespace Markup

variable {s : String} {opened ts us : List String}

theorem tagName_of_mem_ownStyles : ∀ s ∈ ownStyles, tagName s.toList = s ∧ s ≠ "" := by
  decide +kernel

theorem closes_opening (h : s ∈ ownStyles) :
    closes opened (s :: ts) = closes (s :: opened) ts := by
  have hname := (tagName_of_mem_ownStyles s h).1
  have hslash : ∀ s ∈ ownStyles, s.toList.head? ≠ some '/' := by decide +kernel
  rw [closes]
  split
  · next heq => exact absurd (by rw [heq]; rfl) (hslash s h)
  · rw [hname]

theorem closes_closing (h : s ∈ ownStyles) :
    closes (s :: opened) (("/" ++ s) :: ts) = closes opened ts := by
  obtain ⟨hname, hne⟩ := tagName_of_mem_ownStyles s h
  have hchars : ("/" ++ s).toList = '/' :: s.toList := by
    rw [String.toList_append]
    rfl
  simp only [closes, hchars, hname, hne, if_false, List.contains_cons, beq_self_eq_true,
    Bool.true_or, Bool.true_and, List.erase_cons_head]

theorem closes_append (h : Balanced ts) (opened us : List String) :
    closes opened (ts ++ us) = closes opened us := by
  induction h generalizing opened us with
  | nil => rfl
  | styled own _ _ ih ih' =>
    rw [List.cons_append, List.append_assoc, List.cons_append, closes_opening own, ih,
      closes_closing own, ih']

end Markup

theorem Host.Lawful.prints_saved {host : Host} (h : host.Lawful) {stamp : String}
    (hstamp : Report.IsStamp stamp) (directory : Path) (stem : String) (n : Nat) :
    host.prints (.saved (directory.join [Report.fileName stem stamp n])) =
      host.prints (.saved (directory.join [stem])) :=
  h.tagged _ _ (tags_saved_fileName hstamp directory stem n)

theorem lawful_closingHost (describe : SettingsSources → List FieldError → String) :
    (closingHost describe).Lawful where
  own e h := by
    refine List.all_eq_true.2 fun m hm => ?_
    have hclosed := closes_append (h m hm) [] []
    rwa [List.append_nil] at hclosed
  tagged e e' h := by
    have hall : ∀ e : ConsoleEntry, e.closes = (e.markups.map tags).all (closes []) := by
      intro e
      rw [ConsoleEntry.closes, List.all_map]
      rfl
    change e.closes = e'.closes
    rw [hall, hall, h]

end CodeReview
