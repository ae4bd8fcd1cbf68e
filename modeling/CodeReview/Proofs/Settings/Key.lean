import CodeReview.Assistant.Client
import CodeReview.Proofs.Score.Accepted
import CodeReview.Proofs.Text.Trim
import CodeReview.Settings

/-!
The key of the settings. There are two variables for it, in the environment and in the file, and the
first that is set counts, whatever it is set to. So a client can be had exactly where the first value
is not blank: one that is blank hides those behind it.
-/

namespace CodeReview

namespace SettingsSources

def keyValues (s : SettingsSources) : List String :=
  keyNames.filterMap s.environmentValue? ++ keyNames.filterMap s.fileValue?

theorem key?_of_not_given {s : SettingsSources} (h : s.given = .obj []) :
    s.key? = s.keyValues.head?.map .str := by
  have hnone : givenKeyNames.findSome? s.given.field? = none := by
    rw [h]
    rfl
  rw [key?, hnone, keyValues, List.head?_append, List.head?_filterMap, List.head?_filterMap]
  simp only [firstOf?]
  cases keyNames.findSome? s.environmentValue? <;> rfl

/-- A key is hidden: the first value is blank, and one behind it is not. -/
def HidesKey (s : SettingsSources) : Prop :=
  (∃ v, s.keyValues.head? = some v ∧ Text.isBlankText v = true) ∧
    ∃ v ∈ s.keyValues, Text.isBlankText v = false

end SettingsSources

namespace Settings

theorem checkKey_of_not_given {s : SettingsSources} (h : s.given = .obj []) :
    checkKey s = .valid s.keyValues.head? := by
  rw [checkKey, SettingsSources.key?_of_not_given h]
  cases s.keyValues.head? <;> rfl

theorem checkKey_of_load {s : SettingsSources} {settings : Settings}
    (h : load s = .valid settings) : checkKey s = .valid settings.apiKey := by
  simp only [load, Checked.seq_eq_valid, Checked.map_eq_valid] at h
  -- the key is checked first, and seventeen settings behind it
  iterate 17 obtain ⟨_, _, h, -, rfl⟩ := h
  obtain ⟨key, hkey, rfl⟩ := h
  exact hkey

theorem apiKey_of_load {s : SettingsSources} {settings : Settings} (hgiven : s.given = .obj [])
    (h : load s = .valid settings) : settings.apiKey = s.keyValues.head? := by
  have hkey := checkKey_of_load h
  rw [checkKey_of_not_given hgiven] at hkey
  exact (Checked.valid.inj hkey).symm

end Settings

namespace Client

theorem ofKey?_eq_some_iff {key : Option String} {o : ClientOptions} {c : Client} :
    ofKey? key o = some c ↔
      ∃ v, key = some v ∧ Text.isBlankText v = false ∧ c = ⟨Text.strip v, o⟩ := by
  cases key with
  | none => simp [ofKey?]
  | some v =>
    simp only [ofKey?, Option.some.injEq, exists_eq_left']
    cases Text.isBlankText v with
    | true => simp
    | false => simp only [Bool.false_eq_true, if_false, Option.some.injEq, true_and, eq_comm]

theorem exists_ofKey?_iff {key : Option String} {o : ClientOptions} :
    (∃ c, ofKey? key o = some c) ↔ ∃ v, key = some v ∧ Text.isBlankText v = false := by
  simp only [ofKey?_eq_some_iff]
  constructor
  · rintro ⟨c, v, hkey, hblank, -⟩
    exact ⟨v, hkey, hblank⟩
  · rintro ⟨v, hkey, hblank⟩
    exact ⟨_, v, hkey, hblank, rfl⟩

theorem isBlankText_strip (s : String) : Text.isBlankText (Text.strip s) = Text.isBlankText s := by
  rw [← Text.isEmpty_strip, Text.strip_strip, Text.isEmpty_strip]

/-- A client has a key exactly where the first value that is set for one is not blank. It has one of
these values, without the white space around it. So it is enough that one of them is not blank
exactly where none is hidden; without such a value there is never a client. -/
theorem client_of_first_key {s : SettingsSources} {settings : Settings}
    (hgiven : s.given = .obj []) (hload : Settings.load s = .valid settings) (o : ClientOptions) :
    ((∃ c, ofKey? settings.apiKey o = some c) ↔
      ∃ v, s.keyValues.head? = some v ∧ Text.isBlankText v = false) ∧
    (∀ c, ofKey? settings.apiKey o = some c →
      (∃ v ∈ s.keyValues, Text.isBlankText v = false ∧ c.key = Text.strip v) ∧
      Text.isBlankText c.key = false ∧ Text.strip c.key = c.key ∧ c.options = o) ∧
    (((∃ c, ofKey? settings.apiKey o = some c) ↔
      ∃ v ∈ s.keyValues, Text.isBlankText v = false) ↔ ¬s.HidesKey) ∧
    ((∀ v ∈ s.keyValues, Text.isBlankText v = true) → ofKey? settings.apiKey o = none) := by
  rw [exists_ofKey?_iff, Settings.apiKey_of_load hgiven hload]
  refine ⟨Iff.rfl, fun c hc => ?_, ?_, fun hblank => ?_⟩
  · obtain ⟨v, hv, hblank, rfl⟩ := ofKey?_eq_some_iff.1 hc
    exact ⟨⟨v, List.mem_of_head? hv, hblank, rfl⟩, (isBlankText_strip v).trans hblank,
      Text.strip_strip v, rfl⟩
  · rw [SettingsSources.HidesKey]
    cases s.keyValues with
    | nil => simp
    | cons v vs => cases hv : Text.isBlankText v <;> simp [hv]
  · rw [Option.eq_none_iff_forall_ne_some]
    intro c hc
    obtain ⟨v, hv, hfull, -⟩ := ofKey?_eq_some_iff.1 hc
    rw [hblank v (List.mem_of_head? hv)] at hfull
    cases hfull

def mixedKeys : SettingsSources where
  environment := [("OPENAI_API_KEY", " sk-one\n")]
  file := some "QCR_API_KEY=\n"

theorem client_of_mixed_keys :
    mixedKeys.given = .obj [] ∧
    Settings.load mixedKeys = .valid { apiKey := some " sk-one\n" } ∧
    mixedKeys.keyValues = [" sk-one\n", ""] ∧ ¬mixedKeys.HidesKey ∧
    ∃ c, ofKey? (some " sk-one\n") {} = some c ∧ c.key = "sk-one" := by
  have hload : Settings.load mixedKeys = .valid { apiKey := some " sk-one\n" } := by decide +kernel
  have hvalues : mixedKeys.keyValues = [" sk-one\n", ""] := by decide +kernel
  have hblank : Text.isBlankText " sk-one\n" = false := by decide +kernel
  obtain ⟨hclient, hkey, hhides, -⟩ := client_of_first_key rfl hload {}
  obtain ⟨c, hc⟩ := hclient.2 ⟨_, by rw [hvalues]; rfl, hblank⟩
  obtain ⟨⟨v, hv, hfull, hstrip⟩, -⟩ := hkey c hc
  have hshown : ¬mixedKeys.HidesKey := hhides.1
    ⟨fun _ => ⟨_, by rw [hvalues]; exact List.mem_cons_self, hblank⟩, fun _ => ⟨c, hc⟩⟩
  refine ⟨rfl, hload, hvalues, hshown, c, hc, ?_⟩
  rw [hvalues] at hv
  simp only [List.mem_cons, List.not_mem_nil, or_false] at hv
  rcases hv with rfl | rfl
  · rw [hstrip]
    decide +kernel
  · cases hfull

/-- The first variable is set to nothing, the second to a key: there is no client. -/
theorem no_client_behind_empty_key :
    ∃ (s : SettingsSources) (settings : Settings),
      s.environment = [("QCR_API_KEY", ""), ("OPENAI_API_KEY", "sk-two")] ∧
      Settings.load s = .valid settings ∧
      s.environmentValue? "openai_api_key" = some "sk-two" ∧ Text.isBlankText "sk-two" = false ∧
      ofKey? settings.apiKey settings.clientOptions = none :=
  ⟨{ environment := [("QCR_API_KEY", ""), ("OPENAI_API_KEY", "sk-two")] }, { apiKey := some "" },
    rfl, by decide +kernel, by decide +kernel, by decide +kernel, rfl⟩

end Client

end CodeReview
