import CodeReview.FileTree.Scan
import CodeReview.Language

/-!
Languages and files of code. The suffixes of the languages are just those that tell a file of code,
so a path has an unknown language exactly where it is not that of a file of code.
-/

namespace CodeReview.Language

theorem suffixes_perm_codeSuffixes : (all.flatMap suffixes).Perm codeSuffixes := by
  decide

theorem name_ne_unknown (l : Language) : l.name ≠ "unknown" := by
  cases l <;> decide

theorem isSome_ofSuffix?_iff {s : String} :
    (ofSuffix? s).isSome = true ↔ Text.toLower s ∈ codeSuffixes := by
  rw [ofSuffix?]
  generalize Text.toLower s = suffix
  rw [List.find?_isSome, ← suffixes_perm_codeSuffixes.mem_iff, List.mem_flatMap]
  simp only [List.contains_iff_mem]

theorem nameFor_ne_unknown_iff {path : String} :
    nameFor path ≠ "unknown" ↔ Text.toLower (Path.ofString path).suffix ∈ codeSuffixes := by
  rw [← isSome_ofSuffix?_iff]
  unfold nameFor
  cases ofSuffix? (Path.ofString path).suffix with
  | none => simp
  | some l => simpa using l.name_ne_unknown

end CodeReview.Language
