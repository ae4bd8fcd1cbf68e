import CodeReview.Proofs.Assistant.Course
import CodeReview.Proofs.Review.Concurrent
import CodeReview.Proofs.Review.Relabel

/-!
The key of a client shows in the authorization of its requests and nowhere else. With another key the
reviews of one file and of many are the same, as are their records and, but for the authorization,
their requests, if whoever answers does not look at it.
-/

namespace CodeReview

open Text Dialogue

def Request.anonymous (r : Request) : Request :=
  { r with authorization := "" }

/-- An endpoint does not depend on the authorization of a request, nor on those of the requests
before. -/
def Blind (endpoint : List Request → Request → Delivery) : Prop :=
  ∀ asked asked' r r', asked.map Request.anonymous = asked'.map Request.anonymous →
    r.anonymous = r'.anonymous → endpoint asked r = endpoint asked' r'

theorem Blind.anonymous_eq {endpoint : List Request → Request → Delivery} (h : Blind endpoint) :
    (fun asked r => endpoint (asked.map Request.anonymous) r.anonymous) = endpoint := by
  funext asked r
  refine h _ _ _ _ ?_ rfl
  rw [List.map_map]
  rfl

namespace Client

variable (key key' : String) (options : ClientOptions)

theorem read_of_key (d : Delivery) : (mk key options).read d = (mk key' options).read d := by
  cases d <;> rfl

theorem relabel_completeAll (ps : List String) :
    ((mk key options).completeAll ps).relabel Request.anonymous =
      ((mk key' options).completeAll ps).relabel Request.anonymous := by
  induction ps with
  | nil => rfl
  | cons p ps ih =>
    simp only [completeAll, complete, Dialogue.bind, relabel]
    refine congrArg (ask _) (funext fun d => ?_)
    rw [read_of_key key key' options d]
    cases (mk key' options).read d with
    | error e => rfl
    | ok t => simp only [relabel_bind, ih]

theorem relabel_reviewText (content language path : String) :
    ((mk key options).reviewText content language path).relabel Request.anonymous =
      ((mk key' options).reviewText content language path).relabel Request.anonymous := by
  simp only [reviewText]
  split
  · rfl
  · rw [relabel_bind, relabel_bind]
    exact congrArg (Dialogue.bind · _) (relabel_completeAll key key' options _)

theorem relabel_assistant : (mk key options).assistant.relabel Request.anonymous =
    (mk key' options).assistant.relabel Request.anonymous := by
  have hask : ∀ content language path,
      ((mk key options).assistant.ask content language path).relabel Request.anonymous =
        ((mk key' options).assistant.ask content language path).relabel Request.anonymous := by
    intro content language path
    simp only [assistant, relabel_bind]
    exact congrArg (Dialogue.bind · _) (relabel_reviewText key key' options content language path)
  have hrecords : (mk key options).assistant.records = (mk key' options).assistant.records := rfl
  simp only [Assistant.relabel, hask, hrecords]

def reviewOptions (c : Client) (policy : Policy) (rejectEmpty : Bool) :
    ReviewOptions Request Delivery :=
  ⟨policy, rejectEmpty, some c.assistant⟩

theorem relabel_reviewOptions (policy : Policy) (rejectEmpty : Bool) :
    ((mk key options).reviewOptions policy rejectEmpty).relabel Request.anonymous =
      ((mk key' options).reviewOptions policy rejectEmpty).relabel Request.anonymous :=
  congrArg (fun a => ReviewOptions.mk policy rejectEmpty (some a))
    (relabel_assistant key key' options)

section

variable {endpoint : List Request → Request → Delivery} {R : Type}

theorem course_of_relabel_eq (h : Blind endpoint) {d d' : Dialogue Request Delivery R}
    (hd : d.relabel Request.anonymous = d'.relabel Request.anonymous) :
    ∃ r requests requests',
      (d.runM (remember endpoint)).run [] = (r, requests) ∧
      (d'.runM (remember endpoint)).run [] = (r, requests') ∧
      requests.map Request.anonymous = requests'.map Request.anonymous := by
  have hlabelled := fun d : Dialogue Request Delivery R =>
    runM_relabel Request.anonymous endpoint d []
  rw [h.anonymous_eq] at hlabelled
  obtain ⟨⟨r, requests⟩, hcourse⟩ : ∃ course, (d.runM (remember endpoint)).run [] = course :=
    ⟨_, rfl⟩
  obtain ⟨⟨r', requests'⟩, hcourse'⟩ : ∃ course, (d'.runM (remember endpoint)).run [] = course :=
    ⟨_, rfl⟩
  have hboth := hlabelled d
  rw [hd, hlabelled d', hcourse, hcourse'] at hboth
  obtain ⟨rfl, hrequests⟩ := Prod.mk.inj hboth
  exact ⟨r', requests, requests', hcourse, hcourse', hrequests.symm⟩

theorem served_of_relabel_eq (h : Blind endpoint) {workers : Nat} {p p' q : Pool Request Delivery R}
    (hp : p.relabel Request.anonymous = p'.relabel Request.anonymous)
    (served : Pool.Served endpoint workers p q) :
    ∃ q', Pool.Served endpoint workers p' q' ∧
      q'.relabel Request.anonymous = q.relabel Request.anonymous := by
  rw [← h.anonymous_eq] at served
  have hlabelled := Pool.served_relabel served
  rw [hp] at hlabelled
  obtain ⟨q', served', hq'⟩ := Pool.exists_served_of_relabel hlabelled
  rw [h.anonymous_eq] at served'
  exact ⟨q', served', hq'⟩

end

/-- Two clients that differ in their keys alone come to the same reviews, with the same records and
with requests that differ in their authorization alone. -/
theorem key_never_shows {key key' : String} (hkey : isBlankText key = false)
    (hkey' : isBlankText key' = false) {endpoint : List Request → Request → Delivery}
    (hblind : Blind endpoint) (options : ClientOptions) (policy : Policy) (rejectEmpty : Bool) :
    ∃ c c', ofKey? (some key) options = some c ∧ ofKey? (some key') options = some c' ∧
      (∀ source, ∃ run requests requests',
        ((Review.ofSource (c.reviewOptions policy rejectEmpty) source).runM
          (remember endpoint)).run [] = (run, requests) ∧
        ((Review.ofSource (c'.reviewOptions policy rejectEmpty) source).runM
          (remember endpoint)).run [] = (run, requests') ∧
        requests.map Request.anonymous = requests'.map Request.anonymous) ∧
      ∀ sources wanted p,
        Pool.Served endpoint (Batch.workers wanted sources.length)
          (Batch.pool (c.reviewOptions policy rejectEmpty) sources) p →
        ∃ p', Pool.Served endpoint (Batch.workers wanted sources.length)
            (Batch.pool (c'.reviewOptions policy rejectEmpty) sources) p' ∧
          p.taken = p'.taken ∧
          p.asked.map Request.anonymous = p'.asked.map Request.anonymous ∧
          Batch.ofPool? (Batch.workers wanted sources.length) p =
            Batch.ofPool? (Batch.workers wanted sources.length) p' := by
  -- without their authorization, the dialogues of the two clients are the same
  have hoptions := relabel_reviewOptions (strip key) (strip key') options policy rejectEmpty
  refine ⟨⟨strip key, options⟩, ⟨strip key', options⟩, if_neg (Bool.eq_false_iff.1 hkey),
    if_neg (Bool.eq_false_iff.1 hkey'), fun source => ?_, fun sources wanted p served => ?_⟩
  · refine course_of_relabel_eq hblind ?_
    rw [Review.relabel_ofSource, Review.relabel_ofSource, hoptions]
  · have hpools : (Batch.pool ((mk (strip key) options).reviewOptions policy rejectEmpty)
          sources).relabel Request.anonymous =
        (Batch.pool ((mk (strip key') options).reviewOptions policy rejectEmpty)
          sources).relabel Request.anonymous := by
      rw [Batch.relabel_pool, Batch.relabel_pool, hoptions]
    obtain ⟨p', served', hp'⟩ := served_of_relabel_eq hblind hpools served
    refine ⟨p', served', (congrArg Pool.taken hp').symm, (congrArg Pool.asked hp').symm, ?_⟩
    have hresults := congrArg Pool.results? hp'
    rw [Pool.results?_relabel, Pool.results?_relabel] at hresults
    rw [Batch.ofPool?, Batch.ofPool?, hresults]

def answersOnce (asked : List Request) (_ : Request) : Delivery :=
  if asked.isEmpty then .answered 200 fineBody else .lost "reset"

theorem blind_answersOnce : Blind answersOnce := by
  intro asked asked' r r' hasked _
  have hempty := congrArg List.isEmpty hasked
  rw [List.isEmpty_map, List.isEmpty_map] at hempty
  rw [answersOnce, answersOnce, hempty]

theorem key_never_shows_at_endpoint_that_answers_once :
    isBlankText " sk-one\n" = false ∧ isBlankText "sk-two" = false ∧ Blind answersOnce ∧
    ∃ run requests requests',
      ((Review.ofSource ((Client.mk "sk-one" {}).reviewOptions .default false)
        ⟨"a.py", "x = 1"⟩).runM (remember answersOnce)).run [] = (run, requests) ∧
      ((Review.ofSource ((Client.mk "sk-two" {}).reviewOptions .default false)
        ⟨"a.py", "x = 1"⟩).runM (remember answersOnce)).run [] = (run, requests') ∧
      requests.map Request.anonymous = requests'.map Request.anonymous ∧
      requests.map Request.authorization = ["Bearer sk-one"] ∧
      requests'.map Request.authorization = ["Bearer sk-two"] := by
  have hkey : isBlankText " sk-one\n" = false := by decide +kernel
  have hkey' : isBlankText "sk-two" = false := by decide +kernel
  obtain ⟨c, c', hc, hc', hreview, -⟩ :=
    key_never_shows hkey hkey' blind_answersOnce {} .default false
  have hclient : ofKey? (some " sk-one\n") {} = some ⟨"sk-one", {}⟩ := by decide +kernel
  have hclient' : ofKey? (some "sk-two") {} = some ⟨"sk-two", {}⟩ := by decide +kernel
  obtain rfl := Option.some.inj (hc.symm.trans hclient)
  obtain rfl := Option.some.inj (hc'.symm.trans hclient')
  obtain ⟨run, requests, requests', hrun, hrun', hrequests⟩ := hreview ⟨"a.py", "x = 1"⟩
  refine ⟨hkey, hkey', blind_answersOnce, run, requests, requests', hrun, hrun', hrequests, ?_, ?_⟩
  · have hsent : _ = requests := congrArg Prod.snd hrun
    rw [← hsent]
    decide +kernel
  · have hsent : _ = requests' := congrArg Prod.snd hrun'
    rw [← hsent]
    decide +kernel

end Client

end CodeReview
