import CodeReview.Assistant.Client
import CodeReview.Proofs.Assistant.Prompt
import CodeReview.Proofs.Text.Trim

/-!
The course of a client's work on a text, for any sequence of outcomes: one request for each chunk,
in order, until the first outcome that has no text.
-/

namespace CodeReview.Client

open Text

variable {c : Client} {answers : Nat → Delivery} {k : Nat} {p : String} {ps : List String}

theorem course_completeAll_cons_error {e : ClientError} (h : c.read (answers k) = .error e) :
    (c.completeAll (p :: ps)).course answers k = ([c.request Prompt.system p], .error e) := by
  simp only [completeAll, complete, Dialogue.bind, Dialogue.course, h]

theorem course_completeAll_cons_ok {t : String} {sent : List Request}
    {r : Except ClientError (List String)} (h : c.read (answers k) = .ok t)
    (hrest : (c.completeAll ps).course answers (k + 1) = (sent, r)) :
    (c.completeAll (p :: ps)).course answers k =
      (c.request Prompt.system p :: sent, r.map (strip t :: ·)) := by
  simp only [completeAll, complete, Dialogue.bind, Dialogue.course, h]
  rw [Dialogue.course_bind answers (k + 1) _ _ hrest]
  cases r with
  | error e => simp only [Dialogue.course, List.append_nil, Except.map]
  | ok ts => simp only [Dialogue.course, List.append_nil, Except.map]

theorem course_completeAll_ok {texts : Nat → String}
    (h : ∀ i < ps.length, c.read (answers (k + i)) = .ok (texts (k + i))) :
    (c.completeAll ps).course answers k =
      (ps.map (c.request Prompt.system),
        .ok ((List.range' k ps.length).map fun i => strip (texts i))) := by
  induction ps generalizing k with
  | nil => rfl
  | cons p ps ih =>
    have hfirst : c.read (answers k) = .ok (texts k) := h 0 (Nat.succ_pos ps.length)
    have hrest : ∀ i < ps.length,
        c.read (answers (k + 1 + i)) = .ok (texts (k + 1 + i)) := by
      intro i hi
      have hnext := h (i + 1) (Nat.succ_lt_succ hi)
      rwa [← Nat.add_assoc, Nat.add_right_comm] at hnext
    rw [course_completeAll_cons_ok hfirst (ih hrest), List.length_cons, List.range'_succ]
    rfl

theorem course_completeAll_error {j : Nat} {e : ClientError} (hj : j < ps.length)
    (hok : ∀ i < j, ∃ t, c.read (answers (k + i)) = .ok t)
    (he : c.read (answers (k + j)) = .error e) :
    (c.completeAll ps).course answers k =
      ((ps.take (j + 1)).map (c.request Prompt.system), .error e) := by
  induction ps generalizing k j with
  | nil => exact absurd hj (Nat.not_lt_zero j)
  | cons p ps ih =>
    cases j with
    | zero => exact course_completeAll_cons_error he
    | succ j =>
      obtain ⟨t, ht⟩ := hok 0 (Nat.succ_pos j)
      have hrest := ih (k := k + 1) (Nat.lt_of_succ_lt_succ hj)
        (fun i hi => by
          have hnext := hok (i + 1) (Nat.succ_lt_succ hi)
          rwa [← Nat.add_assoc, Nat.add_right_comm] at hnext)
        (by rwa [← Nat.add_assoc, Nat.add_right_comm] at he)
      exact course_completeAll_cons_ok ht hrest

theorem chunkPrompts_eq_mapIdx (language path : String) (total number : Nat)
    (chunks : List (List Char)) : chunkPrompts language path total number chunks =
      chunks.mapIdx fun i chunk =>
        Prompt.review language (Prompt.chunkPath path (number + i) total)
          (String.ofList chunk) := by
  induction chunks generalizing number with
  | nil => rfl
  | cons chunk chunks ih =>
    have hplace : ∀ i, number + 1 + i = number + (i + 1) := by omega
    rw [chunkPrompts, ih, List.mapIdx_cons]
    simp only [hplace, Nat.add_zero]

theorem chunkPath_eq {path : String} {number total : Nat} (h : 0 < total) :
    Prompt.chunkPath path number total =
      if 1 < total then path ++ " (chunk " ++ toString number ++ "/" ++ toString total ++ ")"
      else path := by
  rw [Prompt.chunkPath]
  by_cases h1 : total = 1
  · rw [if_pos h1, if_neg (by omega)]
  · rw [if_neg h1, if_pos (by omega)]

theorem map_request_chunkPrompts (c : Client) (language path : String)
    {chunks : List (List Char)} (h : 0 < chunks.length) :
    (chunkPrompts language path chunks.length 1 chunks).map (c.request Prompt.system) =
      chunks.mapIdx fun i chunk => c.request Prompt.system
        ("Review the following " ++ language ++ " code from "
          ++ (if 1 < chunks.length then
                path ++ " (chunk " ++ toString (i + 1) ++ "/" ++ toString chunks.length ++ ")"
              else path)
          ++ " and provide a detailed analysis:\n\nCODE:\n" ++ String.ofList chunk
          ++ Prompt.instructions) := by
  rw [chunkPrompts_eq_mapIdx, List.mapIdx_eq_zipIdx_map, List.mapIdx_eq_zipIdx_map, List.map_map]
  refine List.map_congr_left fun x _ => ?_
  simp only [Function.comp_apply, Prompt.review_eq, chunkPath_eq h, Nat.add_comm 1]

theorem joinReplies_map_strip (texts : List String) : joinReplies (texts.map strip) =
    String.intercalate "\n\n" ((texts.filter fun t => !isBlankText t).map strip) := by
  rw [joinReplies, List.filter_map]
  simp only [Function.comp_def, isEmpty_strip]

theorem course_reviewText {content : String} (h : isBlankText content = false)
    (language path : String) {sent : List Request} {r : Except ClientError (List String)}
    (hcourse : (c.completeAll (c.prompts content language path)).course answers 0 = (sent, r)) :
    (c.reviewText content language path).course answers 0 = (sent, r.map joinReplies) := by
  rw [reviewText, if_neg (Bool.eq_false_iff.1 h),
    Dialogue.course_bind answers 0 _ _ hcourse]
  simp only [Dialogue.course, List.append_nil]

/-- The course of the review of a text that is not blank, whatever the outcomes are: the requests
are those for the chunks, which make up the text, each with its language, path and chunk as they
stand. If each has a text, all are sent and the texts are joined; if one has none, it is the last
that is sent, and its error is all that comes of it. -/
theorem course_of_review (c : Client) {content : String} (hcontent : isBlankText content = false)
    (language path : String) (answers : Nat → Delivery) :
    ∃ (chunks : List (List Char)) (requests : List Request),
      chunks = Chunk.ofText c.options.chunkLimit content.toList ∧
      chunks.flatten = content.toList ∧
      requests = chunks.mapIdx (fun i chunk => c.request Prompt.system
        ("Review the following " ++ language ++ " code from "
          ++ (if 1 < chunks.length then
                path ++ " (chunk " ++ toString (i + 1) ++ "/" ++ toString chunks.length ++ ")"
              else path)
          ++ " and provide a detailed analysis:\n\nCODE:\n" ++ String.ofList chunk
          ++ Prompt.instructions)) ∧
      (∀ texts : Nat → String, (∀ i < chunks.length, c.read (answers i) = .ok (texts i)) →
        (c.reviewText content language path).course answers 0 =
          (requests, .ok (String.intercalate "\n\n"
            ((((List.range chunks.length).map texts).filter fun t => !isBlankText t).map
              strip)))) ∧
      (∀ j < chunks.length, ∀ e, (∀ i < j, ∃ t, c.read (answers i) = .ok t) →
        c.read (answers j) = .error e →
        (c.reviewText content language path).course answers 0 =
          (requests.take (j + 1), .error e)) := by
  have hne : content.toList ≠ [] := by
    intro hnil
    rw [isBlankText, hnil] at hcontent
    cases hcontent
  have hpos := List.length_pos_iff.2 (Chunk.ofText_ne_nil c.options.chunkLimit hne)
  have hrequests := map_request_chunkPrompts c language path hpos
  -- there is one prompt for each chunk, so that answers are counted by chunks
  have hlength : (c.prompts content language path).length =
      (Chunk.ofText c.options.chunkLimit content.toList).length := by
    have hmap := congrArg List.length hrequests
    rwa [List.length_map, List.length_mapIdx] at hmap
  refine ⟨_, _, rfl, Chunk.flatten_ofText _ _, rfl, ?_, ?_⟩
  · intro texts htexts
    have hall : ∀ i < (c.prompts content language path).length,
        c.read (answers (0 + i)) = .ok (texts (0 + i)) := by
      intro i hi
      rw [Nat.zero_add]
      exact htexts i (hlength ▸ hi)
    rw [course_reviewText hcontent language path (course_completeAll_ok hall), ← hrequests,
      hlength, ← List.range_eq_range']
    have hjoin := joinReplies_map_strip
      ((List.range (Chunk.ofText c.options.chunkLimit content.toList).length).map texts)
    rw [List.map_map] at hjoin
    rw [← hjoin]
    rfl
  · intro j hj e hok he
    have herror := course_completeAll_error (k := 0) (hlength ▸ hj)
      (fun i hi => by rw [Nat.zero_add]; exact hok i hi) (by rwa [Nat.zero_add])
    rw [course_reviewText hcontent language path herror, ← hrequests, List.map_take]
    rfl

def briefClient : Client := ⟨"sk", { chunkLimit := 2 }⟩

def fineBody : List UInt8 :=
  "\x7b\"choices\":[\x7b\"message\":\x7b\"content\":\" Fine.\"\x7d\x7d]\x7d".toUTF8.toList

theorem course_of_two_chunks :
    isBlankText "a\nb\n" = false ∧
    (∃ requests, (briefClient.reviewText "a\nb\n" "c" "{code}.c").course
        (fun _ => .answered 200 fineBody) 0 = (requests, .ok "Fine.\n\nFine.") ∧
      requests.length = 2) ∧
    (∃ requests, (briefClient.reviewText "a\nb\n" "c" "{code}.c").course
        (fun _ => .timedOut) 0 = (requests, .error (.service (.timedOut (.real 120)))) ∧
      requests.length = 1) := by
  have hcontent : isBlankText "a\nb\n" = false := by decide +kernel
  have hchunks : Chunk.ofText briefClient.options.chunkLimit "a\nb\n".toList =
      [['a', '\n'], ['b', '\n']] := by decide +kernel
  have hread : briefClient.read (.answered 200 fineBody) = .ok " Fine." := by decide +kernel
  refine ⟨hcontent, ?_, ?_⟩
  · obtain ⟨chunks, requests, rfl, -, rfl, hok, -⟩ := course_of_review briefClient hcontent "c"
      "{code}.c" (fun _ => .answered 200 fineBody)
    have hall := hok (fun _ => " Fine.") fun _ _ => hread
    rw [hchunks] at hall
    refine ⟨_, hall.trans (Prod.ext rfl ?_), rfl⟩
    decide +kernel
  · obtain ⟨chunks, requests, rfl, -, rfl, -, herror⟩ := course_of_review briefClient hcontent "c"
      "{code}.c" (fun _ => .timedOut)
    rw [hchunks] at herror
    exact ⟨_, herror 0 (by decide) _ (fun i hi => absurd hi (Nat.not_lt_zero i)) rfl, rfl⟩

end CodeReview.Client
