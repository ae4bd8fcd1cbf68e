import CodeReview.CommandLine
import CodeReview.Proofs.Review.Made
import CodeReview.Proofs.SourceFile

/-!
From the files of a run to its reviews. Every file that a scan finds can be read, so there is a slot
for each, and the reviews stand in the order of the files.
-/

namespace CodeReview

namespace FileTree

theorem isFile_of_mem_scan {t : FileTree} {target p : Path} {recursive : Bool}
    (h : p ∈ t.scan target recursive) : t.isFile p = true := by
  rw [scan] at h
  split at h
  · next hfile => rwa [List.mem_singleton.1 h]
  · split at h
    · simp only [List.mem_mergeSort, List.mem_filter, Bool.and_eq_true] at h
      exact h.2.1
    · cases h

theorem exists_read_of_isFile {t : FileTree} {p : Path} (h : t.isFile p = true) :
    ∃ bytes, t.read p = .ok bytes := by
  rw [isFile] at h
  split at h
  · next bytes hfind => exact ⟨bytes, by rw [read, hfind]⟩
  · cases h

theorem length_lt_of_read {t : FileTree} {p : Path} {bytes : List UInt8} {limit : Nat}
    (h : t.read p = .ok bytes) (hlength : bytes.length < limit) :
    ∀ others, t.read p = .ok others → others.length < limit := by
  intro others hothers
  rw [h] at hothers
  rwa [← Except.ok.inj hothers]

theorem name_of_load {t : FileTree} {p : Path} {s : SourceFile} (h : t.load p = .ok s) :
    s.name = p.toString := by
  rw [load] at h
  split at h
  · cases h
  · next bytes _ =>
    rw [SourceFile.ofBytes] at h
    cases hdecode : SourceFile.decode? bytes with
    | none =>
      rw [hdecode] at h
      cases h
    | some content =>
      rw [hdecode] at h
      cases h
      rfl

end FileTree

/-- A review is the review of a file: the failed one that says that the file is binary, if there is
a zero among its bytes, and else the review of its text. -/
inductive Review.OfFile {Q A : Type} (o : ReviewOptions Q A) (t : FileTree) (reply : Q → A)
    (p : Path) : Review → Prop
  | binary {bytes : List UInt8} (read : t.read p = .ok bytes) (zero : 0 ∈ bytes) :
      OfFile o t reply p (failure p.toString (Language.nameFor p.toString)
        (SourceFile.binaryMessage p.toString))
  | text {bytes : List UInt8} {s : SourceFile} {r : Review} (read : t.read p = .ok bytes)
      (nonzero : 0 ∉ bytes) (load : t.load p = .ok s) (review : outcome o s reply = .ok r) :
      OfFile o t reply p r

theorem Review.OfFile.filename {Q A : Type} {o : ReviewOptions Q A} {t : FileTree} {reply : Q → A}
    {p : Path} {r : Review} (h : OfFile o t reply p r) : r.filename = p.toString := by
  cases h with
  | binary read zero => rfl
  | @text bytes s r read nonzero load review =>
    rw [filename_of_outcome review]
    exact FileTree.name_of_load load

theorem Review.map_filename_of_ofFile {Q A : Type} {o : ReviewOptions Q A} {t : FileTree}
    {reply : Q → A} {files : List Path} {rs : List Review}
    (h : List.Forall₂ (OfFile o t reply) files rs) :
    rs.map (·.filename) = files.map Path.toString := by
  induction h with
  | nil => rfl
  | cons hr _ ih => rw [List.map_cons, List.map_cons, hr.filename, ih]

/-- The slot of a file. -/
def Slot.OfFile (t : FileTree) (p : Path) (slot : Slot) : Prop :=
  ∃ bytes, t.read p = .ok bytes ∧ slot = ofBytes p.toString bytes

namespace Slot

variable {Q A : Type} {o : ReviewOptions Q A} {reply : Q → A} {t : FileTree} {p : Path}

theorem OfFile.eq_source_iff {slot : Slot} (h : OfFile t p slot) {s : SourceFile} :
    slot = .source s ↔ t.load p = .ok s := by
  obtain ⟨bytes, hread, rfl⟩ := h
  simp only [ofBytes, FileTree.load, hread]
  cases SourceFile.ofBytes p.toString bytes <;> simp [Except.mapError]

theorem OfFile.review {slot : Slot} (h : OfFile t p slot) {r : Review}
    (hr : outcome o reply slot = .ok r) : Review.OfFile o t reply p r := by
  obtain ⟨bytes, hread, hslot⟩ := id h
  cases hdecode : SourceFile.decode? bytes with
  | none =>
    rw [hslot, ofBytes, SourceFile.ofBytes, hdecode, outcome] at hr
    obtain rfl := Except.ok.inj hr
    exact .binary hread (SourceFile.decode?_eq_none_iff.1 hdecode)
  | some content =>
    have hsource : slot = .source ⟨p.toString, content⟩ := by
      rw [hslot, ofBytes, SourceFile.ofBytes, hdecode]
    have hzero : 0 ∉ bytes := fun hmem => by
      rw [SourceFile.decode?_eq_none_iff.2 hmem] at hdecode
      cases hdecode
    rw [hsource, outcome] at hr
    exact .text hread hzero (h.eq_source_iff.1 hsource) hr

theorem reviews_ofFile {files : List Path} {ss : List Slot} {reviews : List Review}
    (hslots : List.Forall₂ (OfFile t) files ss)
    (hreviews : ss.map (outcome o reply) = reviews.map .ok) :
    List.Forall₂ (Review.OfFile o t reply) files reviews := by
  induction hslots generalizing reviews with
  | nil =>
    obtain rfl : reviews = [] := by simpa using hreviews
    exact .nil
  | cons hslot _ ih =>
    cases reviews with
    | nil => simp at hreviews
    | cons r rs =>
      rw [List.map_cons, List.map_cons, List.cons.injEq] at hreviews
      exact .cons (hslot.review hreviews.1) (ih hreviews.2)

theorem mem_sources_iff {files : List Path} {ss : List Slot}
    (hslots : List.Forall₂ (OfFile t) files ss) {s : SourceFile} :
    s ∈ sources ss ↔ ∃ p ∈ files, t.load p = .ok s := by
  induction hslots with
  | nil => simp [sources]
  | @cons p slot files ss hslot _ ih =>
    rw [List.exists_mem_cons_iff, ← hslot.eq_source_iff, ← ih]
    cases slot with
    | done r => simp [sources_done]
    | source s' => simp [sources_source, eq_comm]

theorem exists_makes_of_forall₂ {p : Policy} {files : List Path} {ss : List Slot} {rs : List Review}
    (hslots : List.Forall₂ (OfFile t) files ss) (hrs : List.Forall₂ (Makes p) ss rs) :
    ∀ r ∈ rs, ∃ path ∈ files, ∃ bytes, t.read path = .ok bytes ∧
      Makes p (ofBytes path.toString bytes) r := by
  induction hslots generalizing rs with
  | nil =>
    cases hrs
    exact List.forall_mem_nil _
  | cons hslot _ ih =>
    cases hrs with
    | cons hr hrest =>
      obtain ⟨bytes, hread, rfl⟩ := hslot
      refine List.forall_mem_cons.2 ⟨⟨_, List.mem_cons_self, bytes, hread, hr⟩, fun r hmem => ?_⟩
      obtain ⟨path, hpath, hmakes⟩ := ih hrest r hmem
      exact ⟨path, List.mem_cons_of_mem _ hpath, hmakes⟩

theorem makes_of_map_outcome {ss : List Slot} {reviews : List Review}
    (h : ss.map (outcome o reply) = reviews.map .ok) :
    List.Forall₂ (Makes o.policy) ss reviews := by
  induction ss generalizing reviews with
  | nil =>
    obtain rfl : reviews = [] := by simpa using h
    exact .nil
  | cons slot ss ih =>
    cases reviews with
    | nil => simp at h
    | cons r rs =>
      rw [List.map_cons, List.map_cons, List.cons.injEq] at h
      exact .cons (makes_of_outcome h.1) (ih h.2)

end Slot

/-- Whatever a text among the files comes to be scored for, the penalty is a finite number. -/
def FinitePenalties {Q A : Type} (o : ReviewOptions Q A) (t : FileTree) (reply : Q → A)
    (files : List Path) : Prop :=
  ∀ p ∈ files, ∀ s, t.load p = .ok s → ∀ a, Review.found o s reply = .ok a →
    (o.policy.penalty a).isFinite = true

theorem finitePenalties_of_bounded {Q A : Type} {o : ReviewOptions Q A} (hp : o.policy.Accepted)
    (hb : o.policy.Bounded) (t : FileTree) (reply : Q → A) (files : List Path) :
    FinitePenalties o t reply files := by
  intro p _ s _ a ha
  obtain ⟨remarks, rfl⟩ := Review.exists_remarks_of_found ha
  exact Policy.finiteOn_of_bounded hp hb s.content remarks

namespace CommandLine

theorem exists_slots {t : FileTree} {files : List Path}
    (h : ∀ p ∈ files, ∃ bytes, t.read p = .ok bytes) :
    ∃ ss, slots t files = .ok ss ∧ List.Forall₂ (Slot.OfFile t) files ss := by
  induction files with
  | nil => exact ⟨[], rfl, .nil⟩
  | cons p ps ih =>
    rw [List.forall_mem_cons] at h
    obtain ⟨bytes, hread⟩ := h.1
    obtain ⟨ss, hss, hall⟩ := ih h.2
    refine ⟨Slot.ofBytes p.toString bytes :: ss, ?_, .cons ⟨bytes, hread, rfl⟩ hall⟩
    simp only [slots, hread, hss, Except.map]

variable {Q A : Type} {o : ReviewOptions Q A} {t : FileTree} {files : List Path} {ss : List Slot}

/-- The batch of the files that are left to it has its reviews exactly where every penalty is a
finite number. -/
theorem exists_batch_iff (hp : o.policy.Accepted)
    (hslots : List.Forall₂ (Slot.OfFile t) files ss) (wanted : Int) (reply : Q → A) :
    (∃ batch, ((Batch.review o wanted (Slot.sources ss)).result reply).outcome = .ok batch) ↔
      FinitePenalties o t reply files := by
  simp only [Batch.exists_reviews_iff, Review.exists_review_iff hp, Slot.mem_sources_iff hslots]
  constructor
  · exact fun h p hmem s hload => h s ⟨p, hmem, hload⟩
  · exact fun h s ⟨p, hmem, hload⟩ => h p hmem s hload

theorem merged_of_batch {wanted : Int} {reply : Q → A} {batch : List Review}
    (h : ((Batch.review o wanted (Slot.sources ss)).result reply).outcome = .ok batch) :
    Slot.Merged ss batch (Slot.fill ss batch) := by
  have hlen := congrArg List.length (Batch.outcome_review_eq_ok_iff.1 h)
  rw [List.length_map, List.length_map] at hlen
  exact Slot.merged_fill hlen.symm

end CommandLine

end CodeReview
