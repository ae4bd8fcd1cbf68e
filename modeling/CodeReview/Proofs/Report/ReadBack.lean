import CodeReview.Page
import CodeReview.Proofs.Report.Append
import CodeReview.Proofs.Review.Checked
import CodeReview.Proofs.Text.Utf8

/-!
What is written of a review is all there is of it: the bytes of a report, and of the download on the
page, read back as the review.
-/

namespace CodeReview.Report

/-- The review that bytes hold, if they are the text of a value that passes the check of reviews. -/
def read? (bytes : List UInt8) : Option Review :=
  match Text.Utf8.decode? bytes with
  | none => none
  | some t =>
    match Json.read (String.ofList t) with
    | .error _ => none
    | .ok j =>
      match Review.check j with
      | .invalid _ => none
      | .valid r => some r

theorem read?_encode_text {r : Review} (h : r.hasLongLine = false) :
    read? (Text.Utf8.encode r.text.toList) = some r := by
  have hshort : ¬r.toJson.HoldsLong := by
    rw [Review.holdsLong_toJson_iff, h]
    exact Bool.false_ne_true
  obtain ⟨hread, -⟩ := Json.read_indented (r.plain_toJson _)
  rw [read?, Text.Utf8.decode?_encode, Review.text]
  simp only [String.ofList_toList, hread hshort, Review.check_toJson]

theorem short_of_save {t t' : FileTree} {directory p : Path} {stamp : String} {root : Option Path}
    {r : Review} (h : save t directory stamp root r = .ok (p, t')) : r.hasLongLine = false := by
  cases hlong : r.hasLongLine with
  | false => rfl
  | true =>
    rw [save_of_long hlong] at h
    cases h

theorem isDirectory_of_save {t t' : FileTree} {directory p : Path} {stamp : String}
    {root : Option Path} {r : Review} (h : save t directory stamp root r = .ok (p, t')) :
    t.isDirectory directory = true := by
  obtain ⟨n, -, hpath, -⟩ :=
    firstFree_spec t directory (stem r.filename root) stamp (t.entries.length + 1) 1
  rw [save_of_short (short_of_save h), hpath] at h
  have hplace : ∃ place, t.find (directory.join [fileName (stem r.filename root) stamp n]) =
      .ok place := by
    cases hfind : t.find (directory.join [fileName (stem r.filename root) stamp n]) with
    | ok place => exact ⟨place, rfl⟩
    | error f =>
      rw [FileTree.write, hfind] at h
      cases h
  obtain ⟨place, hplace⟩ := hplace
  obtain ⟨at_, hat⟩ := FileTree.find_eq_directory hplace
  simp only [FileTree.isDirectory, hat]

theorem read_of_save {t t' : FileTree} {directory p : Path} {stamp : String} {root : Option Path}
    {r : Review} (h : save t directory stamp root r = .ok (p, t')) :
    t'.read p = .ok (bytes r) := by
  obtain ⟨n, -, -, -, hsaved⟩ := save_spec (isDirectory_of_save h) stamp root r
  rw [h] at hsaved
  cases hsaved with
  | added _ hadded =>
    obtain ⟨at_, -, hfind⟩ := hadded.file
    simp only [FileTree.read, hfind]

theorem download_mem_showReview_iff {i : PageInput} {number : Nat} {r : Review}
    {label content file key : String} :
    .download label content file key ∈ Page.showReview i number r ↔
      r.hasLongLine = false ∧ label = "Download JSON report" ∧ content = r.text ∧
        file = (Path.ofString r.filename).stem ++ "_review.json" ∧
        key = "download-" ++ toString number := by
  have hfindings : .download label content file key ≠
      (if (Page.shownFindings i r).isEmpty then
        PageElement.text .success "No findings (after filters)."
      else PageElement.findings (Page.shownFindings i r)) := by
    split <;> nofun
  rw [Page.showReview]
  have hdownload : ∀ d : PageElement, d ∈ (if r.hasLongLine then [] else
      [PageElement.download "Download JSON report" r.text
        ((Path.ofString r.filename).stem ++ "_review.json") ("download-" ++ toString number)]) ↔
      r.hasLongLine = false ∧ d = .download "Download JSON report" r.text
        ((Path.ofString r.filename).stem ++ "_review.json") ("download-" ++ toString number) := by
    intro d
    cases r.hasLongLine <;> simp
  rw [List.mem_append, hdownload, PageElement.download.injEq]
  simp only [List.mem_append, List.mem_cons, List.not_mem_nil, reduceCtorEq, hfindings, or_false,
    false_or]
  -- what is left besides the download is the text of an error
  refine or_iff_right ?_
  cases r.error with
  | none => exact List.not_mem_nil
  | some e =>
    dsimp only
    split
    · exact List.not_mem_nil
    · simp

/-- A report that has been saved, and the download of a review, hold the review: read as UTF-8, as
JSON and as a review, their bytes are that review again. Neither is made for a review in which the
number of a line has more digits than are written of an integer. -/
theorem saved_report_reads_back (r : Review) :
    (∀ t directory stamp root p t', save t directory stamp root r = .ok (p, t') →
      ∃ content, t'.read p = .ok content ∧ read? content = some r) ∧
    (r.hasLongLine = false → ∀ t directory stamp root, Usable t directory stamp →
      ∃ p t', save t directory stamp root r = .ok (p, t')) ∧
    (r.hasLongLine = true → ∀ t directory stamp root,
      ∃ p, save t directory stamp root r = .error (.longLine p)) ∧
    (∀ i number label content file key,
      .download label content file key ∈ Page.showReview i number r →
        read? (Text.Utf8.encode content.toList) = some r) ∧
    ∀ i number, (∃ label content file key,
      .download label content file key ∈ Page.showReview i number r) ↔ r.hasLongLine = false := by
  refine ⟨fun t directory stamp root p t' h => ?_, fun hshort t directory stamp root husable => ?_,
    fun hlong t directory stamp root => ?_, fun i number label content file key h => ?_,
    fun i number => ⟨?_, fun hshort => ?_⟩⟩
  · exact ⟨bytes r, read_of_save h, read?_encode_text (short_of_save h)⟩
  · obtain ⟨n, at_, -, -, hsave⟩ := save_of_usable husable root hshort
    exact ⟨_, _, hsave⟩
  · exact ⟨_, save_of_long hlong t directory stamp root⟩
  · obtain ⟨hshort, -, rfl, -⟩ := download_mem_showReview_iff.1 h
    exact read?_encode_text hshort
  · rintro ⟨label, content, file, key, h⟩
    exact (download_mem_showReview_iff.1 h).1
  · exact ⟨_, _, _, _, download_mem_showReview_iff.2 ⟨hshort, rfl, rfl, rfl, rfl⟩⟩

def oddReview : Review :=
  { Review.failure "a\"b\\c.js" "javascript" "" with
    issues := [⟨.low, "tab\t, \x01, é and 😀", some ⟨3, Nat.succ_pos 2⟩, "rule"⟩]
    summary := "\n" }

theorem saved_report_reads_back_odd :
    oddReview.hasLongLine = false ∧
    Usable earlierTree (Path.ofString "out") "20240102_030405" ∧
    (∃ p t' content,
      save earlierTree (Path.ofString "out") "20240102_030405" none oddReview = .ok (p, t') ∧
      t'.read p = .ok content ∧ read? content = some oddReview) ∧
    ∃ label content file key, .download label content file key ∈ Page.showReview {} 0 oddReview ∧
      read? (Text.Utf8.encode content.toList) = some oddReview := by
  have hshort : oddReview.hasLongLine = false := by decide +kernel
  obtain ⟨hback, hsave, -, hdownload, hmade⟩ := saved_report_reads_back oddReview
  obtain ⟨p, t', hp⟩ := hsave hshort _ _ _ none usable_earlierTree
  obtain ⟨content, hread, hsame⟩ := hback _ _ _ _ _ _ hp
  obtain ⟨label, text, file, key, hmem⟩ := (hmade {} 0).2 hshort
  exact ⟨hshort, usable_earlierTree, ⟨p, t', content, hp, hread, hsame⟩, label, text, file, key, hmem,
    hdownload _ _ _ _ _ _ hmem⟩

/-- A review with the number of a line that has 4301 digits. -/
def farReview : Review :=
  { Review.failure "a.js" "javascript" "" with
    issues := [⟨.low, "m", some ⟨10 ^ 4300, Nat.pow_pos (by decide)⟩, "rule"⟩] }

/-- There is no report on it, and no download of it, even where reports can be saved; and no report on
any other review where a link that leads nowhere has its name. -/
theorem not_saved_with_long_line_or_at_link :
    (Usable earlierTree (Path.ofString "out") "20240102_030405" ∧
      (∀ p t', save earlierTree (Path.ofString "out") "20240102_030405" none farReview ≠
        .ok (p, t')) ∧
      ∀ label content file key,
        .download label content file key ∉ Page.showReview {} 0 farReview) ∧
    brokenLinkTree.isDirectory (Path.ofString "out") = true ∧
    ∀ p t', save brokenLinkTree (Path.ofString "out") "20240102_030405" none
      { filename := "a.js", score := 50, issues := [], suggestions := [], summary := "s" } ≠
        .ok (p, t') := by
  have hlong : farReview.hasLongLine = true := by decide +kernel
  refine ⟨⟨usable_earlierTree, fun p t' h => ?_, fun label content file key h => ?_⟩,
    isDirectory_brokenLinkTree, fun p t' h => ?_⟩
  · rw [save_of_long hlong] at h
    cases h
  · have hshort := (download_mem_showReview_iff.1 h).1
    rw [hlong] at hshort
    cases hshort
  · rw [save_brokenLinkTree rfl rfl] at h
    cases h

end CodeReview.Report
