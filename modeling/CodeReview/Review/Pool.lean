import CodeReview.Review.Batch

/-!
Pools: dialogues that a number of workers hold out side by side. A worker takes any dialogue that
waits, asks its questions one at a time, and is free again when it has come to its end; nothing is
said of the order in which the workers take their turns. No turn changes what comes of a dialogue
in the end (`results_of_turn`), nor, their order apart, the questions that are asked in all
(`questions_of_turn`).
-/

namespace CodeReview

namespace Pool

inductive Task (Q A R : Type) where
  | waiting (d : Dialogue Q A R)
  | working (d : Dialogue Q A R)
  | finished (r : R)

namespace Task

variable {Q A R : Type}

def isWorking : Task Q A R → Bool
  | .working _ => true
  | _ => false

def result? : Task Q A R → Option R
  | .finished r => some r
  | _ => none

def result (reply : Q → A) : Task Q A R → R
  | .waiting d => d.result reply
  | .working d => d.result reply
  | .finished r => r

def questions (reply : Q → A) : Task Q A R → List Q
  | .waiting d => d.questions reply
  | .working d => d.questions reply
  | .finished _ => []

end Task

end Pool

/-- A pool: its tasks, what they have asked so far, and which of them workers took, by their places,
each in the order in which it came to pass. -/
structure Pool (Q A R : Type) where
  tasks : List (Pool.Task Q A R)
  asked : List Q := []
  taken : List Nat := []

namespace Pool

variable {Q A R : Type}

def ofDialogues (ds : List (Dialogue Q A R)) : Pool Q A R where
  tasks := ds.map Task.waiting

def busy (p : Pool Q A R) : Nat :=
  p.tasks.countP Task.isWorking

/-- The results in the order of the tasks, once all have come to their end. -/
def results? (p : Pool Q A R) : Option (List R) :=
  p.tasks.mapM Task.result?

inductive Turn (reply : Q → A) (workers : Nat) : Pool Q A R → Pool Q A R → Prop
  | take (before after : List (Task Q A R)) (d : Dialogue Q A R) (asked : List Q)
      (taken : List Nat) (free : (before ++ .waiting d :: after).countP Task.isWorking < workers) :
      Turn reply workers ⟨before ++ .waiting d :: after, asked, taken⟩
        ⟨before ++ .working d :: after, asked, taken ++ [before.length]⟩
  | ask (before after : List (Task Q A R)) (q : Q) (next : A → Dialogue Q A R) (asked : List Q)
      (taken : List Nat) :
      Turn reply workers ⟨before ++ .working (.ask q next) :: after, asked, taken⟩
        ⟨before ++ .working (next (reply q)) :: after, asked ++ [q], taken⟩
  | finish (before after : List (Task Q A R)) (r : R) (asked : List Q) (taken : List Nat) :
      Turn reply workers ⟨before ++ .working (.done r) :: after, asked, taken⟩
        ⟨before ++ .finished r :: after, asked, taken⟩

inductive Turns (reply : Q → A) (workers : Nat) : Pool Q A R → Pool Q A R → Prop
  | refl (p : Pool Q A R) : Turns reply workers p p
  | step {p q r : Pool Q A R} (turns : Turns reply workers p q) (turn : Turn reply workers q r) :
      Turns reply workers p r

def results (reply : Q → A) (p : Pool Q A R) : List R :=
  p.tasks.map (Task.result reply)

def questions (reply : Q → A) (p : Pool Q A R) : List Q :=
  p.asked ++ p.tasks.flatMap (Task.questions reply)

theorem results_of_turn {reply : Q → A} {workers : Nat} {p q : Pool Q A R}
    (t : Turn reply workers p q) : q.results reply = p.results reply := by
  cases t <;> simp [results, Task.result, Dialogue.result]

theorem questions_of_turn {reply : Q → A} {workers : Nat} {p q : Pool Q A R}
    (t : Turn reply workers p q) : (q.questions reply).Perm (p.questions reply) := by
  cases t with
  | take before after d => simp [questions, Task.questions]
  | ask before after q next asked =>
    simp only [questions, List.flatMap_append, List.flatMap_cons, Task.questions,
      Dialogue.questions, List.append_assoc, List.cons_append, List.nil_append]
    exact (List.perm_middle.symm).append_left asked
  | finish before after r => simp [questions, Task.questions, Dialogue.questions]

end Pool

namespace Batch

def pool {Q A : Type} (o : ReviewOptions Q A) (sources : List SourceFile) :
    Pool Q A ReviewRun :=
  .ofDialogues (sources.map (Review.ofSource o))

/-- What a batch comes to when its pool has come to its end. -/
def ofPool? {Q A : Type} (workers : Nat) (p : Pool Q A ReviewRun) : Option BatchRun :=
  p.results?.map (gather workers)

end Batch

end CodeReview
