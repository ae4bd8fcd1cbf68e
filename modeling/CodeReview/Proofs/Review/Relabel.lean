import CodeReview.Proofs.Review.Schedule

/-!
Relabelled questions. If whoever answers does not tell two questions apart that have one label, a
dialogue, a pool and a review can be followed by the labels alone: they take the same turns and come
to the same results.
-/

namespace CodeReview

open Text

variable {Q L A R S : Type}

namespace Dialogue

def relabel (f : Q → L) : Dialogue Q A R → Dialogue L A R
  | done r => done r
  | ask q next => ask (f q) fun a => (next a).relabel f

theorem relabel_bind (f : Q → L) (d : Dialogue Q A R) (k : R → Dialogue Q A S) :
    (d.bind k).relabel f = (d.relabel f).bind fun r => (k r).relabel f := by
  induction d with
  | done r => rfl
  | ask q next ih => exact congrArg (ask (f q)) (funext ih)

def remember (endpoint : List Q → Q → A) (q : Q) : StateM (List Q) A :=
  modifyGet fun asked => (endpoint asked q, asked ++ [q])

theorem runM_relabel (f : Q → L) (endpoint : List L → L → A) (d : Dialogue Q A R)
    (asked : List Q) :
    ((d.relabel f).runM (remember endpoint)).run (asked.map f) =
      let course := (d.runM (remember fun asked q => endpoint (asked.map f) (f q))).run asked
      (course.1, course.2.map f) := by
  induction d generalizing asked with
  | done r => rfl
  | ask q next ih =>
    have hrest := ih (endpoint (asked.map f) (f q)) (asked ++ [q])
    rw [List.map_append] at hrest
    exact hrest

end Dialogue

namespace Pool

def Task.relabel (f : Q → L) : Task Q A R → Task L A R
  | .waiting d => .waiting (d.relabel f)
  | .working d => .working (d.relabel f)
  | .finished r => .finished r

def relabel (f : Q → L) (p : Pool Q A R) : Pool L A R where
  tasks := p.tasks.map (Task.relabel f)
  asked := p.asked.map f
  taken := p.taken

inductive Served (endpoint : List Q → Q → A) (workers : Nat) : Pool Q A R → Pool Q A R → Prop
  | refl (p : Pool Q A R) : Served endpoint workers p p
  | step {p q r : Pool Q A R} (served : Served endpoint workers p q)
      (turn : Turn (endpoint q.asked) workers q r) : Served endpoint workers p r

section

variable {f : Q → L} {workers : Nat} {p q : Pool Q A R}

theorem result?_relabel (t : Task Q A R) : (t.relabel f).result? = t.result? := by
  cases t <;> rfl

theorem results?_relabel (p : Pool Q A R) : (p.relabel f).results? = p.results? := by
  rw [results?, results?, relabel]
  dsimp only
  rw [List.mapM_map]
  exact congrArg (fun g => p.tasks.mapM g) (funext result?_relabel)

theorem countP_relabel (ts : List (Task Q A R)) :
    (ts.map (Task.relabel f)).countP Task.isWorking = ts.countP Task.isWorking := by
  rw [List.countP_map]
  refine List.countP_congr fun t _ => ?_
  cases t <;> rfl

theorem relabel_append_cons (before after : List (Task Q A R)) (t : Task Q A R) (asked : List Q)
    (taken : List Nat) : relabel f ⟨before ++ t :: after, asked, taken⟩ =
      ⟨before.map (Task.relabel f) ++ t.relabel f :: after.map (Task.relabel f),
        asked.map f, taken⟩ := by
  rw [relabel, List.map_append, List.map_cons]

theorem turn_relabel {reply : L → A} (t : Turn (fun q => reply (f q)) workers p q) :
    Turn reply workers (p.relabel f) (q.relabel f) := by
  cases t with
  | take before after d asked taken free =>
    rw [← countP_relabel (f := f), List.map_append, List.map_cons] at free
    rw [relabel_append_cons, relabel_append_cons, ← List.length_map (Task.relabel f)]
    exact .take _ _ _ _ _ free
  | ask before after q next asked taken =>
    rw [relabel_append_cons, relabel_append_cons, List.map_append]
    exact .ask _ _ (f q) (fun a => (next a).relabel f) _ _
  | finish before after r asked taken =>
    rw [relabel_append_cons, relabel_append_cons]
    exact .finish _ _ _ _ _

theorem served_relabel {endpoint : List L → L → A}
    (s : Served (fun asked q => endpoint (asked.map f) (f q)) workers p q) :
    Served endpoint workers (p.relabel f) (q.relabel f) := by
  induction s with
  | refl => exact .refl _
  | step _ turn ih => exact .step ih (turn_relabel turn)

theorem exists_of_relabel_eq {before after : List (Task L A R)} {t : Task L A R} {asked : List L}
    {taken : List Nat} (h : p.relabel f = ⟨before ++ t :: after, asked, taken⟩) :
    ∃ before' t' after' asked', p = ⟨before' ++ t' :: after', asked', taken⟩ ∧
      before'.map (Task.relabel f) = before ∧ t'.relabel f = t ∧
      after'.map (Task.relabel f) = after ∧ asked'.map f = asked := by
  obtain ⟨tasks, asked', taken'⟩ := p
  simp only [relabel, Pool.mk.injEq] at h
  obtain ⟨htasks, hasked, rfl⟩ := h
  obtain ⟨before', rest, rfl, hbefore, hrest⟩ := List.map_eq_append_iff.1 htasks
  obtain ⟨t', after', rfl, ht, hafter⟩ := List.map_eq_cons_iff.1 hrest
  exact ⟨before', t', after', asked', rfl, hbefore, ht, hafter, hasked⟩

theorem exists_of_relabel_eq_working {t : Task Q A R} {d : Dialogue L A R}
    (h : t.relabel f = .working d) : ∃ d', t = .working d' ∧ d'.relabel f = d := by
  cases t with
  | waiting d' => cases h
  | working d' => exact ⟨d', rfl, Task.working.inj h⟩
  | finished r => cases h

theorem exists_turn_of_relabel {reply : L → A} {r : Pool L A R}
    (t : Turn reply workers (p.relabel f) r) :
    ∃ q, Turn (fun x => reply (f x)) workers p q ∧ q.relabel f = r := by
  generalize hp : p.relabel f = labelled at t
  -- a turn by the labels is one of the pool: its task is the label of a task at the same stage
  cases t with
  | take before after d asked taken free =>
    obtain ⟨before, t, after, asked, rfl, rfl, ht, rfl, rfl⟩ := exists_of_relabel_eq hp
    cases t with
    | waiting d' =>
      rw [← ht, ← List.map_cons, ← List.map_append, countP_relabel] at free
      refine ⟨_, .take before after d' asked taken free, ?_⟩
      rw [relabel_append_cons, List.length_map, ← Task.waiting.inj ht]
      rfl
    | working d' => cases ht
    | finished r' => cases ht
  | ask before after x next asked taken =>
    obtain ⟨before, t, after, asked, rfl, rfl, ht, rfl, rfl⟩ := exists_of_relabel_eq hp
    obtain ⟨d, rfl, hd⟩ := exists_of_relabel_eq_working ht
    cases d with
    | done r' => cases hd
    | ask x' next' =>
      obtain ⟨rfl, rfl⟩ := Dialogue.ask.inj hd
      refine ⟨_, .ask before after x' next' asked taken, ?_⟩
      rw [relabel_append_cons, List.map_append]
      rfl
  | finish before after r' asked taken =>
    obtain ⟨before, t, after, asked, rfl, rfl, ht, rfl, rfl⟩ := exists_of_relabel_eq hp
    obtain ⟨d, rfl, hd⟩ := exists_of_relabel_eq_working ht
    cases d with
    | done r'' =>
      obtain rfl := Dialogue.done.inj hd
      exact ⟨_, .finish before after r'' asked taken, relabel_append_cons _ _ _ _ _⟩
    | ask x next => cases hd

theorem exists_served_of_relabel {endpoint : List L → L → A} {r : Pool L A R}
    (s : Served endpoint workers (p.relabel f) r) :
    ∃ q, Served (fun asked q => endpoint (asked.map f) (f q)) workers p q ∧ q.relabel f = r := by
  generalize hp : p.relabel f = labelled at s
  induction s with
  | refl => exact ⟨p, .refl p, hp⟩
  | step _ turn ih =>
    obtain ⟨q, served, rfl⟩ := ih
    obtain ⟨q', turn', hq'⟩ := exists_turn_of_relabel turn
    exact ⟨q', .step served turn', hq'⟩

end

end Pool

def Assistant.relabel (f : Q → L) (a : Assistant Q A) : Assistant L A where
  ask content language path := (a.ask content language path).relabel f
  records := a.records

def ReviewOptions.relabel (f : Q → L) (o : ReviewOptions Q A) : ReviewOptions L A where
  policy := o.policy
  rejectEmpty := o.rejectEmpty
  assistant? := o.assistant?.map (Assistant.relabel f)

theorem Review.relabel_ofSource (f : Q → L) (o : ReviewOptions Q A) (s : SourceFile) :
    (ofSource o s).relabel f = ofSource (o.relabel f) s := by
  obtain ⟨policy, rejectEmpty, assistant?⟩ := o
  change (ofSource ⟨policy, rejectEmpty, assistant?⟩ s).relabel f =
    ofSource ⟨policy, rejectEmpty, assistant?.map (Assistant.relabel f)⟩ s
  unfold ofSource
  dsimp only
  by_cases hr : (rejectEmpty && isBlankText s.content) = true
  · rw [if_pos hr, if_pos hr, Dialogue.relabel]
  · rw [if_neg hr, if_neg hr]
    cases assistant? with
    | none => rfl
    | some a =>
      dsimp only [Option.map_some]
      by_cases hb : isBlankText s.content = true
      · rw [if_pos hb, if_pos hb, Dialogue.relabel]
      · rw [if_neg hb, if_neg hb, Dialogue.relabel_bind]
        rfl

theorem Batch.relabel_pool (f : Q → L) (o : ReviewOptions Q A) (sources : List SourceFile) :
    (pool o sources).relabel f = pool (o.relabel f) sources := by
  simp only [pool, Pool.ofDialogues, Pool.relabel, List.map_map, List.map_nil]
  refine congrArg (Pool.mk · [] []) (List.map_congr_left fun s _ => ?_)
  exact congrArg Pool.Task.waiting (Review.relabel_ofSource f o s)

end CodeReview
