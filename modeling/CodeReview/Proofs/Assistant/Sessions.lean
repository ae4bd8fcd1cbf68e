import CodeReview.Assistant.Sessions
import Mathlib.Data.List.Nodup

/-!
Who owns a session. The slots of the threads, the sessions that are to be closed and those that were
closed are changed in different places, and one invariant ties them together: each session that was
opened is either closed, once, or waits to be closed in the slot of the one thread that it was
handed to.
-/

namespace CodeReview

inductive SessionAction where
  | use (thread : Nat)
  | close
  deriving DecidableEq, Repr

def SessionAction.thread? : SessionAction → Option Nat
  | .use t => some t
  | .close => none

namespace Sessions

def run (s : Sessions) : List SessionAction → List (Nat × Session) × Sessions
  | [] => ([], s)
  | .use t :: as => ((t, (s.use t).1) :: ((s.use t).2.run as).1, ((s.use t).2.run as).2)
  | .close :: as => s.close.run as

theorem run_append (s : Sessions) (as bs : List SessionAction) :
    s.run (as ++ bs) = ((s.run as).1 ++ ((s.run as).2.run bs).1, ((s.run as).2.run bs).2) := by
  induction as generalizing s with
  | nil => rfl
  | cons a as ih =>
    cases a with
    | use t => simp only [List.cons_append, run, ih]
    | close => simp only [List.cons_append, run, ih]

theorem threads_run (s : Sessions) (as : List SessionAction) :
    (s.run as).1.map (·.1) = as.filterMap SessionAction.thread? := by
  induction as generalizing s with
  | nil => rfl
  | cons a as ih =>
    cases a with
    | use t => simp [run, SessionAction.thread?, ih]
    | close => exact ih s.close

theorem use_of_shared {s : Sessions} (h : s.hasShared = true) (t : Nat) :
    s.use t = (.shared, s) := if_pos h

theorem use_of_slot {s : Sessions} (h : s.hasShared = false) {t n : Nat}
    (hslot : s.slot? t = some n) : s.use t = (.own n, s) := by
  simp only [use, h, hslot, Bool.false_eq_true, if_false]

theorem use_of_no_slot {s : Sessions} (h : s.hasShared = false) {t : Nat}
    (hslot : s.slot? t = none) :
    s.use t = (.own s.opened, { s with
      opened := s.opened + 1
      slots := (t, s.opened) :: s.slots
      owned := s.owned ++ [s.opened] }) := by
  simp only [use, h, hslot, Bool.false_eq_true, if_false]

@[simp] theorem hasShared_use (s : Sessions) (t : Nat) :
    (s.use t).2.hasShared = s.hasShared := by
  rw [use]
  split
  · rfl
  · split <;> rfl

@[simp] theorem closings_use (s : Sessions) (t : Nat) : (s.use t).2.closings = s.closings := by
  rw [use]
  split
  · rfl
  · split <;> rfl

theorem mem_slots_of_slot {s : Sessions} {t n : Nat} (h : s.slot? t = some n) :
    (t, n) ∈ s.slots := by
  rw [slot?, Option.map_eq_some_iff] at h
  obtain ⟨⟨t', n'⟩, hfind, rfl⟩ := h
  obtain rfl : t' = t := by simpa using List.find?_some hfind
  exact List.mem_of_find?_eq_some hfind

theorem slot_use {s : Sessions} (h : s.hasShared = false) (t t' : Nat) :
    ∃ n, (s.use t).1 = .own n ∧
      (s.use t).2.slot? t' = if t' = t then some n else s.slot? t' := by
  cases hslot : s.slot? t with
  | some n =>
    refine ⟨n, by rw [use_of_slot h hslot], ?_⟩
    rw [use_of_slot h hslot]
    by_cases ht : t' = t
    · rw [if_pos ht, ht, hslot]
    · rw [if_neg ht]
  | none =>
    refine ⟨s.opened, by rw [use_of_no_slot h hslot], ?_⟩
    rw [use_of_no_slot h hslot]
    by_cases ht : t' = t
    · simp [slot?, ht]
    · simp [slot?, ht, Ne.symm ht]

theorem slot_run {s : Sessions} (h : s.hasShared = false) {as : List SessionAction}
    (hopen : .close ∉ as) (t : Nat) :
    (∀ n, s.slot? t = some n → (s.run as).2.slot? t = some n) ∧
    ∀ x, (t, x) ∈ (s.run as).1 → ∃ n, x = .own n ∧ (s.run as).2.slot? t = some n := by
  induction as generalizing s with
  | nil => exact ⟨fun _ hn => hn, fun _ hx => absurd hx List.not_mem_nil⟩
  | cons a as ih =>
    rw [List.mem_cons, not_or] at hopen
    cases a with
    | close => exact absurd rfl hopen.1
    | use u =>
      obtain ⟨n, hn, hslot⟩ := slot_use h u t
      obtain ⟨hkept, hhanded⟩ := ih (s := (s.use u).2) (by rw [hasShared_use, h]) hopen.2
      refine ⟨fun m hm => hkept m ?_, fun x hx => ?_⟩
      · by_cases hu : t = u
        · subst hu
          rw [use_of_slot h hm]
          exact hm
        · rw [hslot, if_neg hu, hm]
      · rcases List.mem_cons.1 hx with hfirst | hx
        · obtain ⟨rfl, rfl⟩ := Prod.mk.inj hfirst
          exact ⟨n, hn, hkept n (by rw [hslot, if_pos rfl])⟩
        · exact hhanded x hx

/-- What was handed out so far accounts for the sessions. -/
structure Accounts (handed : List (Nat × Session)) (s : Sessions) : Prop where
  noneShared : s.hasShared = false
  all : (s.closings ++ s.owned.map Session.own).Perm ((List.range s.opened).map Session.own)
  waiting : ∀ t n, (t, n) ∈ s.slots → n ∈ s.owned ∧ (t, .own n) ∈ handed
  opened : ∀ t x, (t, x) ∈ handed → ∃ n, n < s.opened ∧ x = .own n
  reached : ∀ n, n < s.opened → ∃ t, (t, .own n) ∈ handed
  apart : ∀ t t' x, (t, x) ∈ handed → (t', x) ∈ handed → t = t'

namespace Accounts

variable {handed : List (Nat × Session)} {s : Sessions}

theorem fresh : Accounts [] {} where
  noneShared := rfl
  all := .refl _
  waiting _ _ h := absurd h List.not_mem_nil
  opened _ _ h := absurd h List.not_mem_nil
  reached _ h := absurd h (Nat.not_lt_zero _)
  apart _ _ _ h := absurd h List.not_mem_nil

theorem nodup (h : Accounts handed s) : (s.closings ++ s.owned.map Session.own).Nodup := by
  rw [h.all.nodup_iff]
  exact List.Nodup.map (fun _ _ hn => Session.own.inj hn) List.nodup_range

theorem lt_of_mem_closings (h : Accounts handed s) {n : Nat} (hn : .own n ∈ s.closings) :
    n < s.opened := by
  have hmem := h.all.subset (List.mem_append_left _ hn)
  obtain ⟨m, hm, heq⟩ := List.mem_map.1 hmem
  rw [← Session.own.inj heq]
  exact List.mem_range.1 hm

theorem notMem_closings (h : Accounts handed s) (t : Nat) : (s.use t).1 ∉ s.closings := by
  cases hslot : s.slot? t with
  | some n =>
    rw [use_of_slot h.noneShared hslot]
    have howned := (h.waiting t n (mem_slots_of_slot hslot)).1
    exact fun hclosed => (List.nodup_append.1 h.nodup).2.2 _ hclosed _
      (List.mem_map_of_mem howned) rfl
  | none =>
    rw [use_of_no_slot h.noneShared hslot]
    exact fun hclosed => Nat.lt_irrefl _ (h.lt_of_mem_closings hclosed)

theorem use (h : Accounts handed s) (t : Nat) :
    Accounts (handed ++ [(t, (s.use t).1)]) (s.use t).2 := by
  cases hslot : s.slot? t with
  | some n =>
    -- the thread has been handed its session before
    have hbefore := (h.waiting t n (mem_slots_of_slot hslot)).2
    rw [use_of_slot h.noneShared hslot]
    have hmem : ∀ p, p ∈ handed ++ [(t, .own n)] ↔ p ∈ handed := by
      intro p
      rw [List.mem_append, List.mem_singleton, or_iff_left_iff_imp]
      rintro rfl
      exact hbefore
    exact
      { noneShared := h.noneShared
        all := h.all
        waiting := fun u m hm => ⟨(h.waiting u m hm).1, (hmem _).2 (h.waiting u m hm).2⟩
        opened := fun u x hx => h.opened u x ((hmem _).1 hx)
        reached := fun m hm => (h.reached m hm).imp fun u hu => (hmem _).2 hu
        apart := fun u v x hu hv => h.apart u v x ((hmem _).1 hu) ((hmem _).1 hv) }
  | none =>
    rw [use_of_no_slot h.noneShared hslot]
    -- the session that is opened has a number under which none was handed out
    have hnew : ∀ u, (u, .own s.opened) ∉ handed := by
      intro u hu
      obtain ⟨m, hm, heq⟩ := h.opened u _ hu
      rw [← Session.own.inj heq] at hm
      exact Nat.lt_irrefl _ hm
    refine
      { noneShared := h.noneShared
        all := ?all
        waiting := ?waiting
        opened := ?opened
        reached := ?reached
        apart := ?apart }
    case all =>
      rw [List.map_append, ← List.append_assoc, List.range_succ, List.map_append]
      exact h.all.append_right _
    case waiting =>
      intro u m hm
      rcases List.mem_cons.1 hm with hfirst | hm
      · obtain ⟨rfl, rfl⟩ := Prod.mk.inj hfirst
        exact ⟨by simp, by simp⟩
      · exact ⟨List.mem_append_left _ (h.waiting u m hm).1,
          List.mem_append_left _ (h.waiting u m hm).2⟩
    case opened =>
      intro u x hx
      rcases List.mem_append.1 hx with hx | hx
      · obtain ⟨m, hm, rfl⟩ := h.opened u x hx
        exact ⟨m, Nat.lt_succ_of_lt hm, rfl⟩
      · obtain ⟨rfl, rfl⟩ := Prod.mk.inj (List.mem_singleton.1 hx)
        exact ⟨s.opened, Nat.lt_succ_self _, rfl⟩
    case reached =>
      intro m hm
      rcases Nat.lt_succ_iff_lt_or_eq.1 hm with hm | rfl
      · exact (h.reached m hm).imp fun u hu => List.mem_append_left _ hu
      · exact ⟨t, by simp⟩
    case apart =>
      intro u v x hu hv
      rw [List.mem_append, List.mem_singleton] at hu hv
      rcases hu with hu | hu
      · rcases hv with hv | hv
        · exact h.apart u v x hu hv
        · obtain ⟨rfl, rfl⟩ := Prod.mk.inj hv
          exact absurd hu (hnew u)
      · obtain ⟨rfl, rfl⟩ := Prod.mk.inj hu
        rcases hv with hv | hv
        · exact absurd hv (hnew v)
        · exact (Prod.mk.inj hv).1.symm

theorem close (h : Accounts handed s) : Accounts handed s.close where
  noneShared := h.noneShared
  all := by
    simpa [Sessions.close, h.noneShared] using h.all
  waiting _ _ hm := absurd hm List.not_mem_nil
  opened := h.opened
  reached := h.reached
  apart := h.apart

theorem run (h : Accounts handed s) (as : List SessionAction) :
    Accounts (handed ++ (s.run as).1) (s.run as).2 := by
  induction as generalizing handed s with
  | nil => simpa [Sessions.run] using h
  | cons a as ih =>
    cases a with
    | use t => simpa [Sessions.run] using ih (h.use t)
    | close => exact ih h.close

theorem notMem_closings_run (h : Accounts handed s) (as : List SessionAction) :
    s.closings <+: (s.run as).2.closings ∧ ∀ p ∈ (s.run as).1, p.2 ∉ s.closings := by
  induction as generalizing handed s with
  | nil => exact ⟨List.prefix_refl _, fun _ hp => absurd hp List.not_mem_nil⟩
  | cons a as ih =>
    cases a with
    | use t =>
      obtain ⟨hgrows, hrest⟩ := ih (h.use t)
      rw [closings_use] at hgrows hrest
      refine ⟨hgrows, fun p hp => ?_⟩
      rcases List.mem_cons.1 hp with rfl | hp
      · exact h.notMem_closings t
      · exact hrest p hp
    | close =>
      obtain ⟨hgrows, hrest⟩ := ih h.close
      have hclose : s.closings <+: s.close.closings := by
        rw [Sessions.close, List.append_assoc]
        exact List.prefix_append _ _
      exact ⟨hclose.trans hgrows, fun p hp hmem => hrest p hp (hclose.subset hmem)⟩

end Accounts

theorem run_of_shared {s : Sessions} (h : s.hasShared = true) (howned : s.owned = [])
    (as : List SessionAction) :
    (∀ p ∈ (s.run as).1, p.2 = .shared) ∧ (s.run as).2.opened = s.opened ∧
      (s.run as).2.closings = s.closings ++ List.replicate (as.count .close) .shared := by
  induction as generalizing s with
  | nil => simp [run]
  | cons a as ih =>
    cases a with
    | use t =>
      obtain ⟨hhanded, hopened, hclosings⟩ := ih h howned
      simp only [run, use_of_shared h]
      refine ⟨List.forall_mem_cons.2 ⟨rfl, hhanded⟩, hopened, ?_⟩
      have hother : SessionAction.use t ≠ .close := fun ha => by cases ha
      rw [hclosings, List.count_cons_of_ne hother]
    | close =>
      obtain ⟨hhanded, hopened, hclosings⟩ := ih (s := s.close) h rfl
      refine ⟨hhanded, hopened, ?_⟩
      rw [run, hclosings, List.count_cons_self, List.replicate_succ]
      simp [close, h, howned]

/-- Each thread owns the session that it is handed in the course of some actions, where no session
was handed in: no session goes to two threads, a thread keeps its session as long as nothing is
closed, and what was closed is not handed out again. The sessions that are opened are those that are
handed out. None is closed twice, and a closing leaves all of them closed, once each. -/
structure Owned (actions : List SessionAction) : Prop where
  apart : ∀ t t' x, (t, x) ∈ (run {} actions).1 → (t', x) ∈ (run {} actions).1 → t = t'
  kept : ∀ before between after, actions = before ++ between ++ after → .close ∉ between →
    ∀ t x y, (t, x) ∈ ((run {} before).2.run between).1 →
      (t, y) ∈ ((run {} before).2.run between).1 → x = y
  open_ : ∀ before after, actions = before ++ after →
    ∀ t x, (t, x) ∈ ((run {} before).2.run after).1 → x ∉ (run {} before).2.closings
  opened : ∀ x, (∃ t, (t, x) ∈ (run {} actions).1) ↔
    ∃ n, n < (run {} actions).2.opened ∧ x = .own n
  once : (run {} actions).2.closings.Nodup
  closed : ∀ before, actions = before ++ [.close] →
    (run {} actions).2.closings.Perm ((List.range (run {} actions).2.opened).map Session.own)

theorem owned_run (actions : List SessionAction) : Owned actions := by
  have haccounts : ∀ as, Accounts (run {} as).1 (run {} as).2 := fun as => by
    simpa using Accounts.fresh.run as
  have h := haccounts actions
  refine
    { apart := h.apart
      kept := ?kept
      open_ := ?open_
      opened := fun x => ⟨fun ⟨t, ht⟩ => h.opened t x ht, ?opened⟩
      once := (List.nodup_append.1 h.nodup).1
      closed := ?closed }
  case kept =>
    intro before between _ _ hopen t x y hx hy
    have hslot := (slot_run (haccounts before).noneShared hopen t).2
    obtain ⟨n, rfl, hn⟩ := hslot x hx
    obtain ⟨m, rfl, hm⟩ := hslot y hy
    rw [hn] at hm
    rw [Option.some.inj hm]
  case open_ =>
    intro before after _ t x hx
    exact ((haccounts before).notMem_closings_run after).2 (t, x) hx
  case opened =>
    rintro ⟨n, hn, rfl⟩
    exact h.reached n hn
  case closed =>
    rintro before rfl
    have howned : (run {} (before ++ [.close])).2.owned = [] := by rw [run_append]; rfl
    have hall := h.all
    rwa [howned, List.map_nil, List.append_nil] at hall

/-- Whatever is done with the sessions of a client, and in whatever order, every use is handed one.
It is the thread's own where no session was handed in; a session that was handed in is the only one,
and is closed every time. -/
theorem sessions_of_threads (actions : List SessionAction) :
    (∀ s : Sessions, (s.run actions).1.map (·.1) = actions.filterMap SessionAction.thread?) ∧
    Owned actions ∧
    (∀ p ∈ (run { hasShared := true } actions).1, p.2 = .shared) ∧
    (run { hasShared := true } actions).2.opened = 0 ∧
    (run { hasShared := true } actions).2.closings =
      List.replicate (actions.count .close) .shared := by
  refine ⟨fun s => threads_run s actions, owned_run actions, ?_⟩
  simpa using run_of_shared (s := { hasShared := true }) rfl rfl actions

example : (run {} [.use 0, .use 1, .use 0, .close, .use 0]).1 =
    [(0, .own 0), (1, .own 1), (0, .own 0), (0, .own 2)] := by decide

end Sessions

end CodeReview
