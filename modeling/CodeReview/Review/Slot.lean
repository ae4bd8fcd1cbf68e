import CodeReview.Review.Batch

/-!
Slots: what there is of each file before a batch is reviewed. A file that holds no text has its
failed review at once, and the reviews of the others are put into their slots afterwards, so that
all stand in the order of the files.
-/

namespace CodeReview

inductive Slot where
  | source (s : SourceFile)
  | done (r : Review)
  deriving DecidableEq, Repr

namespace Slot

def ofBytes (name : String) (bytes : List UInt8) : Slot :=
  match SourceFile.ofBytes name bytes with
  | .ok s => .source s
  | .error message => .done (.failure name (Language.nameFor name) message)

def source? : Slot → Option SourceFile
  | .source s => some s
  | .done _ => none

def sources (slots : List Slot) : List SourceFile :=
  slots.filterMap source?

def fill : List Slot → List Review → List Review
  | [], _ => []
  | .done r :: ss, rs => r :: fill ss rs
  | .source _ :: ss, r :: rs => r :: fill ss rs
  | .source _ :: ss, [] => fill ss []

theorem length_fill (ss : List Slot) (rs : List Review) (h : rs.length = (sources ss).length) :
    (fill ss rs).length = ss.length := by
  induction ss generalizing rs with
  | nil => rfl
  | cons s ss ih =>
    cases s with
    | done r => simpa [fill] using ih rs (by simpa [sources, List.filterMap_cons, source?] using h)
    | source s =>
      cases rs with
      | nil => simp [sources, source?] at h
      | cons r rs => simpa [fill] using ih rs (by simpa [sources, List.filterMap_cons, source?] using h)

end Slot

end CodeReview
