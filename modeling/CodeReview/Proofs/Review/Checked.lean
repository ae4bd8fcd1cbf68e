import CodeReview.Proofs.Json.RoundTrip
import CodeReview.Review

/-!
A review that is shown as a value passes the check of reviews, and is what comes out of it.
-/

namespace CodeReview

namespace Checked

variable {α β : Type}

@[simp] theorem map_valid (f : α → β) (a : α) : f <$> (valid a) = valid (f a) := rfl

@[simp] theorem seq_valid (f : α → β) (a : α) : valid f <*> valid a = valid (f a) := rfl

@[simp] theorem at_valid (name : String) (a : α) : at_ name (valid a) = valid a := rfl

theorem each_map {check : Json → Checked α} {toJson : α → Json}
    (h : ∀ a, check (toJson a) = valid a) (start : Nat) (as : List α) :
    each check start (as.map toJson) = valid as := by
  induction as generalizing start with
  | nil => rfl
  | cons a as ih => rw [List.map_cons, each, h, at_valid, map_valid, ih, seq_valid]

end Checked

theorem Check.list_map {α : Type} {check : Json → Checked α} {toJson : α → Json}
    (h : ∀ a, check (toJson a) = .valid a) (as : List α) :
    Check.list check (.arr (as.map toJson)) = .valid as :=
  Checked.each_map h 0 as

namespace Finding

theorem checkLine_int (n : LineNumber) : checkLine (.int n.val) = .valid n := by
  simp [checkLine, Check.integer, Checked.bind, n.property]

theorem check_toJson (f : Finding) : check f.toJson = .valid f := by
  obtain ⟨severity, message, line, rule⟩ := f
  cases line with
  | none =>
    simp [check, toJson, Check.required, Check.optional, Json.field?, Check.choice, Check.text,
      Check.orNull, Severity.ofName?_name]
  | some n =>
    simp [check, toJson, Check.required, Check.optional, Json.field?, Check.choice, Check.text,
      Check.orNull, Severity.ofName?_name, checkLine_int, Checked.map]

theorem plain_toJson (room : Nat) (f : Finding) : Json.Plain (room + 1) f.toJson := by
  refine .obj (by simp) fun field hfield => ?_
  simp only [List.mem_cons, List.not_mem_nil, or_false] at hfield
  obtain rfl | rfl | rfl | rfl := hfield
  · exact .str _
  · exact .str _
  · cases f.line
    · exact .null
    · exact .int _
  · exact .str _

theorem holdsLong_toJson_iff (f : Finding) : f.toJson.HoldsLong ↔ f.hasLongLine = true := by
  have hnull : ¬Json.HoldsLong .null := nofun
  have hstr : ∀ s, ¬Json.HoldsLong (.str s) := nofun
  rw [toJson, Json.holdsLong_obj_iff, hasLongLine]
  cases f.line with
  | none => simp [hnull, hstr]
  | some n => simp [hstr, Json.holdsLong_int_iff, Json.IsLong]

end Finding

namespace Review

theorem checkScore_int (s : Score) : checkScore (.int s.val) = .valid s := by
  have hneg : ¬(s.val : Int) < 0 := by omega
  simp [checkScore, Check.integer, Checked.bind, hneg]

theorem check_toJson (r : Review) : check r.toJson = .valid r := by
  obtain ⟨filename, language, score, issues, suggestions, summary, error⟩ := r
  cases error with
  | none =>
    simp [check, toJson, Check.required, Check.optional, Json.field?, Check.text, Check.orNull,
      Check.list_map Finding.check_toJson, checkScore_int]
  | some e =>
    simp [check, toJson, Check.required, Check.optional, Json.field?, Check.text, Check.orNull,
      Check.list_map Finding.check_toJson, checkScore_int, Checked.map]

theorem plain_toJson (room : Nat) (r : Review) : Json.Plain (room + 3) r.toJson := by
  have hlist : ∀ fs : List Finding, Json.Plain (room + 2) (.arr (fs.map Finding.toJson)) :=
    fun fs => .arr (List.forall_mem_map.2 fun f _ => f.plain_toJson room)
  refine .obj (by simp) fun field hfield => ?_
  simp only [List.mem_cons, List.not_mem_nil, or_false] at hfield
  obtain rfl | rfl | rfl | rfl | rfl | rfl | rfl := hfield
  · exact .str _
  · exact .str _
  · exact .int _
  · exact hlist _
  · exact hlist _
  · exact .str _
  · cases r.error
    · exact .null
    · exact .str _

theorem holdsLong_toJson_iff (r : Review) : r.toJson.HoldsLong ↔ r.hasLongLine = true := by
  have hnull : ¬Json.HoldsLong .null := nofun
  have hstr : ∀ s, ¬Json.HoldsLong (.str s) := nofun
  have hscore : ¬Json.HoldsLong (.int r.score.val) :=
    mt Json.holdsLong_int_iff.1 (Json.not_isLong_of_lt (by omega))
  have hlist : ∀ fs : List Finding, Json.HoldsLong (.arr (fs.map Finding.toJson)) ↔
      fs.any Finding.hasLongLine = true := by
    intro fs
    simp [Json.holdsLong_arr_iff, Finding.holdsLong_toJson_iff]
  rw [toJson, Json.holdsLong_obj_iff, hasLongLine, List.any_append, Bool.or_eq_true]
  cases r.error with
  | none => simp [hnull, hstr, hscore, hlist]
  | some e => simp [hstr, hscore, hlist]

end Review

end CodeReview
