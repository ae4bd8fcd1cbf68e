/-!
Dialogues: computations that ask questions of the outside world, one after the other, and go on
with the answers. Who answers is left open, so that what is asked and what comes of it can be
told for every way in which the world may answer.
-/

namespace CodeReview

inductive Dialogue (Q A R : Type) where
  | done (result : R)
  | ask (question : Q) (next : A → Dialogue Q A R)

namespace Dialogue

variable {Q A R S : Type}

def bind : Dialogue Q A R → (R → Dialogue Q A S) → Dialogue Q A S
  | done r, f => f r
  | ask q next, f => ask q fun a => (next a).bind f

instance : Monad (Dialogue Q A) where
  pure := done
  bind := bind

def once (q : Q) : Dialogue Q A A :=
  ask q done

def runM {m : Type → Type} [Monad m] (reply : Q → m A) : Dialogue Q A R → m R
  | done r => pure r
  | ask q next => do (next (← reply q)).runM reply

/-- What comes of a dialogue if each answer depends on its question alone. -/
def result (reply : Q → A) : Dialogue Q A R → R
  | done r => r
  | ask q next => (next (reply q)).result reply

def questions (reply : Q → A) : Dialogue Q A R → List Q
  | done _ => []
  | ask q next => q :: (next (reply q)).questions reply

/-- The questions that are asked, and what comes of it, if the answers come in a fixed order whatever
is asked, the next one being `answers k`. -/
def course (answers : Nat → A) : (k : Nat) → Dialogue Q A R → List Q × R
  | _, done r => ([], r)
  | k, ask q next =>
    let rest := (next (answers k)).course answers (k + 1)
    (q :: rest.1, rest.2)

theorem result_bind (reply : Q → A) (d : Dialogue Q A R) (f : R → Dialogue Q A S) :
    (d.bind f).result reply = (f (d.result reply)).result reply := by
  induction d with
  | done r => rfl
  | ask q next ih => exact ih (reply q)

theorem questions_bind (reply : Q → A) (d : Dialogue Q A R) (f : R → Dialogue Q A S) :
    (d.bind f).questions reply = d.questions reply ++ (f (d.result reply)).questions reply := by
  induction d with
  | done r => rfl
  | ask q next ih => exact congrArg (q :: ·) (ih (reply q))

theorem course_bind (answers : Nat → A) (k : Nat) (d : Dialogue Q A R)
    (f : R → Dialogue Q A S) {qs : List Q} {r : R} (h : d.course answers k = (qs, r)) :
    (d.bind f).course answers k =
      (qs ++ ((f r).course answers (k + qs.length)).1,
        ((f r).course answers (k + qs.length)).2) := by
  induction d generalizing k qs with
  | done s =>
    cases h
    rfl
  | ask q next ih =>
    cases h
    have hplace : k + 1 + ((next (answers k)).course answers (k + 1)).1.length =
        k + (((next (answers k)).course answers (k + 1)).1.length + 1) := by omega
    simp only [bind, course, ih (answers k) (k + 1) rfl, hplace, List.length_cons,
      List.cons_append]

theorem course_bind_done (answers : Nat → A) (k : Nat) (d : Dialogue Q A R) (f : R → S) :
    (d.bind fun r => .done (f r)).course answers k =
      ((d.course answers k).1, f (d.course answers k).2) := by
  rw [d.course_bind answers k _ rfl, course, List.append_nil]

theorem runM_questions (reply : Q → A) (d : Dialogue Q A R) (asked : List Q) :
    (d.runM fun q => (modifyGet fun qs => (reply q, qs ++ [q]) : StateM (List Q) A)).run asked =
      (d.result reply, asked ++ d.questions reply) := by
  induction d generalizing asked with
  | done r =>
    rw [questions, List.append_nil]
    rfl
  | ask q next ih =>
    have hrest := ih (reply q) (asked ++ [q])
    rw [List.append_assoc] at hrest
    exact hrest

theorem runM_course (answers : Nat → A) (d : Dialogue Q A R) (k : Nat) (asked : List Q) :
    (d.runM fun q => (modifyGet fun s => (answers s.1, s.1 + 1, s.2 ++ [q]) :
        StateM (Nat × List Q) A)).run (k, asked) =
      ((d.course answers k).2, k + (d.course answers k).1.length,
        asked ++ (d.course answers k).1) := by
  induction d generalizing k asked with
  | done r =>
    rw [course, List.append_nil]
    rfl
  | ask q next ih =>
    have hrest := ih (answers k) (k + 1) (asked ++ [q])
    rw [List.append_assoc, Nat.add_right_comm] at hrest
    exact hrest

end Dialogue

end CodeReview
