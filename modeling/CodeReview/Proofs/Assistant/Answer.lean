import CodeReview.Proofs.Assistant.Course
import CodeReview.Proofs.Json.Depth
import CodeReview.Proofs.Text.Utf8

/-!
What becomes of the outcomes of a request. An answer is a text, or the service has failed with the
status of the answer if that is one of an error; only a body that is nested too deep is neither.
-/

namespace CodeReview

namespace Json

variable {j v : Json}

theorem step_field_eq_ok_iff {name : String} :
    j.step (.field name) = .ok v ↔ j.field? name = some v := by
  cases j with
  | obj fields =>
    rw [step]
    cases (obj fields).field? name with
    | none => exact ⟨nofun, nofun⟩
    | some w =>
      exact ⟨fun h => congrArg some (Except.ok.inj h), fun h => congrArg _ (Option.some.inj h)⟩
  | _ => exact ⟨nofun, nofun⟩

theorem step_first_eq_ok_iff :
    j.step .first = .ok v ↔ (∃ vs, j = .arr (v :: vs)) ∨
      ∃ s c t, j = .str s ∧ s.toList = c :: t ∧ v = .str (String.singleton c) := by
  cases j with
  | arr items =>
    cases items with
    | nil => simp [step]
    | cons x xs => simp [step, eq_comm]
  | str s =>
    rw [step]
    cases hs : s.toList with
    | nil => simp [hs]
    | cons c t => simp [hs, eq_comm]
  | _ => simp [step]

end Json

theorem bind_eq_ok_iff {ε α β : Type} {x : Except ε α} {f : α → Except ε β} {b : β} :
    (x >>= f) = .ok b ↔ ∃ a, x = .ok a ∧ f a = .ok b := by
  cases x with
  | error e => exact ⟨nofun, fun ⟨_, h, _⟩ => nomatch h⟩
  | ok a => exact ⟨fun h => ⟨a, rfl, h⟩, fun ⟨_, ha, h⟩ => by cases ha; exact h⟩

namespace Reply

/-- A body holds a content at the place where one is looked for. -/
def Holds (body content : Json) : Prop :=
  ∃ choice others message,
    body.field? "choices" = some (.arr (choice :: others)) ∧
    choice.field? "message" = some message ∧
    message.field? "content" = some content

def Says (body t : String) : Prop :=
  ∃ j, Json.read body = .ok j ∧
    ∃ content, Holds j content ∧ (content = .str t ∨ content = .null ∧ t = "")

theorem foldlM_way_eq_ok_iff {body content : Json} :
    way.foldlM Json.step body = .ok content ↔ Holds body content := by
  simp only [way, List.foldlM_cons, List.foldlM_nil, bind_eq_ok_iff, Json.step_field_eq_ok_iff]
  constructor
  · intro ⟨choices, hchoices, choice, hchoice, message, hmessage, v, hv, hcontent⟩
    obtain rfl := Except.ok.inj hcontent
    obtain ⟨others, rfl⟩ | ⟨s, c, t, rfl, -, rfl⟩ := Json.step_first_eq_ok_iff.1 hchoice
    · exact ⟨choice, others, message, hchoices, hmessage, hv⟩
    · cases hmessage
  · intro ⟨choice, others, message, hchoices, hmessage, hcontent⟩
    exact ⟨_, hchoices, choice, rfl, message, hmessage, content, hcontent, rfl⟩

theorem text_eq_ok_iff {body t : String} : text body = .ok t ↔ Says body t := by
  rw [text, Says]
  cases Json.read body with
  | error e => exact ⟨nofun, nofun⟩
  | ok j =>
    simp only [Except.ok.injEq, exists_eq_left', ← foldlM_way_eq_ok_iff]
    cases way.foldlM Json.step j with
    | error f => exact ⟨nofun, nofun⟩
    | ok content =>
      simp only [Except.ok.injEq, exists_eq_left']
      cases content with
      | null => simp [eq_comm]
      | str s => simp
      | _ => simp

end Reply

/-- A body that is not read for want of room. -/
def Json.IsTooDeep (body : String) : Prop :=
  ∃ e nest, Json.read body = .error e ∧ e.fault = .tooDeep nest

theorem Json.IsTooDeep.maxDepth_lt {body : String} (h : Json.IsTooDeep body) :
    Json.maxDepth < Json.openings body.toList := by
  obtain ⟨e, nest, hread, hfault⟩ := h
  exact Json.maxDepth_lt_openings hread hfault

theorem Json.IsTooDeep.text_error {body : String} (h : Json.IsTooDeep body) :
    ∃ message, (Reply.text body).mapError ClientError.ofReply =
      .error (.unforeseen "RecursionError" message) := by
  obtain ⟨e, nest, hread, hfault⟩ := h
  refine ⟨e.message, ?_⟩
  rw [Reply.text, hread]
  simp only [Except.mapError, ClientError.ofReply, hfault]

namespace Client

/-- A request has failed by a fault of the service, with this status. -/
def FailsWith (outcome : Except ClientError String) (status : Option Int) : Prop :=
  ∃ fault : ServiceFault, outcome = .error (.service fault) ∧ fault.status? = status

theorem text_of_not_tooDeep {body : String} (h : ¬Json.IsTooDeep body) :
    (∃ t, Reply.text body = .ok t) ∨
      FailsWith ((Reply.text body).mapError ClientError.ofReply) none := by
  rw [Reply.text]
  cases hread : Json.read body with
  | error e =>
    refine .inr ⟨.malformed (.notJson e), ?_, rfl⟩
    simp only [Except.mapError, ClientError.ofReply]
    split
    · next nest hfault => exact absurd ⟨e, nest, hread, hfault⟩ h
    · rfl
  | ok j =>
    dsimp only
    cases Reply.way.foldlM Json.step j with
    | error f => exact .inr ⟨_, rfl, rfl⟩
    | ok content =>
      cases content with
      | null => exact .inl ⟨_, rfl⟩
      | str s => exact .inl ⟨s, rfl⟩
      | _ => exact .inr ⟨_, rfl, rfl⟩

def bodyText (bytes : List UInt8) : String :=
  String.ofList (Text.Utf8.decodeLossy bytes)

variable {c : Client} {status : Int}

theorem readAnswer_of_error_status (h : 400 ≤ status ∧ status < 600) (bytes : List UInt8) :
    FailsWith (c.readAnswer status bytes) (some status) := by
  unfold readAnswer
  dsimp only
  rw [if_pos h]
  split
  · exact ⟨_, rfl, rfl⟩
  · split
    · next h429 => exact ⟨_, rfl, congrArg some h429.symm⟩
    · exact ⟨_, rfl, rfl⟩

theorem readAnswer_of_other_status (h : ¬(400 ≤ status ∧ status < 600)) (bytes : List UInt8) :
    c.readAnswer status bytes = (Reply.text (bodyText bytes)).mapError .ofReply := by
  unfold readAnswer
  dsimp only
  rw [if_neg (by omega), if_neg (by omega), if_neg h, bodyText]

theorem mapError_eq_ok_iff {x : Except ReplyFault String} {t : String} :
    x.mapError ClientError.ofReply = .ok t ↔ x = .ok t := by
  cases x with
  | error f => exact ⟨nofun, nofun⟩
  | ok s => exact ⟨fun h => congrArg _ (Except.ok.inj h), fun h => congrArg _ (Except.ok.inj h)⟩

/-- How each outcome of the one request that a prompt takes is told. Without an answer, and with one
whose status is that of an error, the service has failed, with the status of the answer. With any
other answer there is a text exactly where the body says it; else the service has failed with no
status, except where the body is nested too deep: then the reader of the body breaks. -/
theorem outcome_of_request (c : Client) (system prompt : String) (d : Delivery) :
    ∃ outcome : Except ClientError String,
      (∀ reply, reply (c.request system prompt) = d →
        (c.complete system prompt).questions reply = [c.request system prompt] ∧
        (c.complete system prompt).result reply = outcome) ∧
      (d = .timedOut → FailsWith outcome none) ∧
      (∀ reason, d = .lost reason → FailsWith outcome none) ∧
      ∀ status bytes, d = .answered status bytes →
        (400 ≤ status ∧ status < 600 → FailsWith outcome (some status)) ∧
        (¬(400 ≤ status ∧ status < 600) →
          (∀ t, outcome = .ok t ↔ Reply.Says (bodyText bytes) t) ∧
          (¬Json.IsTooDeep (bodyText bytes) → (∃ t, outcome = .ok t) ∨ FailsWith outcome none) ∧
          (Json.IsTooDeep (bodyText bytes) →
            Json.maxDepth < Json.openings (bodyText bytes).toList ∧
            ∃ message, outcome = .error (.unforeseen "RecursionError" message))) := by
  refine ⟨c.read d, fun reply hreply => ⟨rfl, congrArg c.read hreply⟩, ?_, ?_, ?_⟩
  · intro hd
    rw [hd]
    exact ⟨_, rfl, rfl⟩
  · intro reason hd
    rw [hd]
    exact ⟨_, rfl, rfl⟩
  · intro status bytes hd
    rw [hd, read]
    refine ⟨fun herror => readAnswer_of_error_status herror bytes, fun hother => ?_⟩
    rw [readAnswer_of_other_status hother]
    refine ⟨fun t => mapError_eq_ok_iff.trans Reply.text_eq_ok_iff, fun hroom => ?_,
      fun hdeep => ⟨hdeep.maxDepth_lt, hdeep.text_error⟩⟩
    simp only [mapError_eq_ok_iff]
    exact text_of_not_tooDeep hroom

theorem outcome_of_fine_body :
    (briefClient.complete Prompt.system "x").result (fun _ => .answered 200 fineBody) =
        .ok " Fine." ∧
    FailsWith ((briefClient.complete Prompt.system "x").result fun _ => .answered 404 fineBody)
      (some 404) := by
  have hsays : Reply.Says (bodyText fineBody) " Fine." :=
    Reply.text_eq_ok_iff.1 (by decide +kernel)
  obtain ⟨fine, hfine, -, -, hread⟩ := outcome_of_request briefClient Prompt.system "x"
    (.answered 200 fineBody)
  obtain ⟨missing, hmissing, -, -, hfails⟩ := outcome_of_request briefClient Prompt.system "x"
    (.answered 404 fineBody)
  rw [(hfine _ rfl).2, (hmissing _ rfl).2]
  exact ⟨((hread 200 fineBody rfl).2 (by decide)).1 _ |>.2 hsays,
    (hfails 404 fineBody rfl).1 (by decide)⟩

def nestedBody : List UInt8 :=
  Text.Utf8.encode (List.replicate 20000 '[')

theorem isTooDeep_nestedBody : Json.IsTooDeep (bodyText nestedBody) := by
  have hsplit : List.replicate 20000 '[' =
      List.replicate (Json.maxDepth + 1) '[' ++ List.replicate (20000 - (Json.maxDepth + 1)) '[' := by
    rw [List.replicate_append_replicate]
    rfl
  obtain ⟨e, hread, hfault⟩ :=
    Json.read_of_openings (List.replicate (20000 - (Json.maxDepth + 1)) '[')
  rw [bodyText, nestedBody, Text.Utf8.decodeLossy_encode, hsplit]
  exact ⟨e, .list, hread, hfault⟩

theorem result_of_tooDeep (c : Client) (system prompt : String) {status : Int}
    (hother : ¬(400 ≤ status ∧ status < 600)) {bytes : List UInt8}
    (hdeep : Json.IsTooDeep (bodyText bytes)) :
    ∃ message, (c.complete system prompt).result (fun _ => .answered status bytes) =
      .error (.unforeseen "RecursionError" message) := by
  obtain ⟨message, hmessage⟩ := hdeep.text_error
  exact ⟨message, (readAnswer_of_other_status hother bytes).trans hmessage⟩

/-- What this body comes to is neither a text nor a failure of the service. -/
theorem breaks_on_nested_body :
    ∃ outcome, (briefClient.complete Prompt.system "x").result
        (fun _ => .answered 200 nestedBody) = outcome ∧
      (∃ message, outcome = .error (.unforeseen "RecursionError" message)) ∧
      (∀ t, outcome ≠ .ok t) ∧ ∀ status, ¬FailsWith outcome status := by
  have hother : ¬((400 : Int) ≤ 200 ∧ (200 : Int) < 600) := by decide
  obtain ⟨message, hmessage⟩ :=
    result_of_tooDeep briefClient Prompt.system "x" hother isTooDeep_nestedBody
  refine ⟨_, hmessage, ⟨message, rfl⟩, nofun, ?_⟩
  intro status hfails
  obtain ⟨fault, hfault, -⟩ := hfails
  cases hfault

end Client

end CodeReview
