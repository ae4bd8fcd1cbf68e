import CodeReview.Json.Reader

/-!
Texts that are nested too deep. The reader gives up for want of room only where more brackets open in
a text than it has room for, and it does give up where that many lists open at its start.
-/

namespace CodeReview.Json

def openings (t : List Char) : Nat :=
  t.countP fun c => c == '[' || c == '{'

theorem openings_le_of_suffix {r t : List Char} (h : r <:+ t) : openings r ≤ openings t :=
  h.sublist.countP_le

/-- How reading from the start of a text ends: some end of the text is left, or there is a flaw, and
then a want of room only where more brackets open in the text. -/
inductive Proceeds {α : Type} (t : List Char) (room : Nat) : Reading α → Prop
  | read (a : α) {r : List Char} (left : r <:+ t) : Proceeds t room (.ok (a, r))
  | refused {f : Flaw} (nested : ∀ n, f.fault = .tooDeep n → room < openings t) :
      Proceeds t room (.error f)

namespace Proceeds

variable {α β : Type} {t t' : List Char} {room : Nat} {x : Reading α}

theorem map (h : Proceeds t room x) (f : α → β) :
    Proceeds t room (x.map fun (a, r) => (f a, r)) := by
  cases h with
  | read a left => exact .read (f a) left
  | refused nested => exact .refused nested

theorem of_suffix (h : Proceeds t room x) (ht : t <:+ t') : Proceeds t' room x := by
  cases h with
  | read a left => exact .read a (left.trans ht)
  | refused nested =>
    exact .refused fun n hn => Nat.lt_of_lt_of_le (nested n hn) (openings_le_of_suffix ht)

theorem nest (h : Proceeds t room x) {c : Char} (hc : (c == '[' || c == '{') = true) :
    Proceeds (c :: t) (room + 1) x := by
  cases h with
  | read a left => exact .read a (left.trans (List.suffix_cons c t))
  | refused nested =>
    refine .refused fun n hn => ?_
    have hcount : openings (c :: t) = openings t + 1 :=
      List.countP_cons_of_pos (p := fun c => c == '[' || c == '{') hc
    rw [hcount]
    exact Nat.succ_lt_succ (nested n hn)

end Proceeds

/-- A mark in a text: what it leaves is an end of the text, and its flaw is no want of room. -/
inductive Mark.Within (t : List Char) : Mark → Prop
  | close {r : List Char} (left : r <:+ t) : Within t (.close r)
  | char (c : Char) {r : List Char} (left : r <:+ t) : Within t (.char c r)
  | flaw {f : Flaw} (other : ∀ n, f.fault ≠ .tooDeep n) : Within t (.flaw f)

theorem Mark.Within.of_suffix {t t' : List Char} {m : Mark} (h : m.Within t) (ht : t <:+ t') :
    m.Within t' := by
  cases h with
  | close left => exact .close (left.trans ht)
  | char c left => exact .char c (left.trans ht)
  | flaw other => exact .flaw other

theorem within_pairMark (n : Nat) (t : List Char) : (pairMark n t).Within t := by
  unfold pairMark
  split
  · next a b c d e r =>
    split
    · split
      · exact .flaw nofun
      · split
        · exact .char _ ⟨['\\', 'u', a, b, c, d], rfl⟩
        · exact .char _ List.suffix_rfl
    · exact .char _ List.suffix_rfl
  · exact .char _ List.suffix_rfl

theorem within_unicodeMark (t : List Char) : (unicodeMark t).Within t := by
  unfold unicodeMark
  split
  · next a b c d e r =>
    split
    · exact .flaw nofun
    · exact (within_pairMark _ _).of_suffix ⟨[a, b, c, d], rfl⟩
  · exact .flaw nofun

theorem within_mark (start t : List Char) : (mark start t).Within t := by
  unfold mark
  split
  · exact .flaw nofun
  · exact .close (List.suffix_cons _ _)
  · exact .flaw nofun
  · next r => exact (within_unicodeMark r).of_suffix ⟨['\\', 'u'], rfl⟩
  · next c r _ =>
    split
    · exact .char _ ⟨['\\', c], rfl⟩
    · exact .flaw nofun
  · split
    · exact .flaw nofun
    · exact .char _ (List.suffix_cons _ _)

theorem proceeds_stringBody (start t : List Char) (room : Nat) :
    Proceeds t room (stringBody start t) := by
  fun_induction stringBody start t with
  | case1 t r hmark =>
    have hwithin := within_mark start t
    rw [hmark] at hwithin
    obtain ⟨left⟩ := hwithin
    exact .read [] left
  | case2 t c r hmark ih =>
    have hwithin := within_mark start t
    rw [hmark] at hwithin
    cases hwithin with
    | char _ left => exact (ih.map (c :: ·)).of_suffix left
  | case3 t f hmark =>
    have hwithin := within_mark start t
    rw [hmark] at hwithin
    cases hwithin with
    | flaw other => exact .refused fun n hn => absurd hn (other n)

theorem proceeds_readString (t : List Char) (room : Nat) : Proceeds t room (readString t) :=
  (proceeds_stringBody _ t room).map String.ofList

theorem readWhole_suffix (t : List Char) : (readWhole t).2 <:+ t := by
  unfold readWhole
  split
  · exact List.suffix_cons _ _
  · exact List.dropWhile_suffix _

theorem readFraction_suffix (t : List Char) : (readFraction t).2 <:+ t := by
  unfold readFraction
  split
  · next r =>
    split
    · exact List.suffix_rfl
    · exact (List.dropWhile_suffix _).trans (List.suffix_cons _ _)
  · exact List.suffix_rfl

theorem sign_suffix (t : List Char) : (NumberNotation.sign t).2 <:+ t := by
  unfold NumberNotation.sign
  split
  · exact List.suffix_cons _ _
  · exact List.suffix_cons _ _
  · exact List.suffix_rfl

theorem readExponent_suffix (t : List Char) : (readExponent t).2 <:+ t := by
  cases t with
  | nil => exact List.suffix_rfl
  | cons c t =>
    rw [readExponent]
    split
    · dsimp only
      split
      · exact List.suffix_rfl
      · next ds r _ hdigits =>
        have hr : r <:+ (NumberNotation.sign t).2 := by
          have hrest := congrArg Prod.snd hdigits
          dsimp only at hrest
          rw [← hrest]
          exact List.dropWhile_suffix _
        exact (hr.trans (sign_suffix t)).trans (List.suffix_cons c t)
    · exact List.suffix_rfl

theorem proceeds_readNumber (negative : Bool) {start t : List Char} (ht : t <:+ start)
    (room : Nat) : Proceeds start room (readNumber negative start t) := by
  unfold readNumber
  split
  · exact .refused nofun
  · next whole r _ hwhole =>
    have hr : r <:+ start := by
      have hsuffix := (readWhole_suffix t).trans ht
      rwa [hwhole] at hsuffix
    dsimp only
    split
    · split
      · exact .refused nofun
      · exact .read _ (((readExponent_suffix _).trans (readFraction_suffix r)).trans hr)
    · exact .read _ (((readExponent_suffix _).trans (readFraction_suffix r)).trans hr)

theorem proceeds_word (w : List Char) (v : Json) {otherwise : Reading Json} {t : List Char}
    {room : Nat} (h : Proceeds t room otherwise) :
    Proceeds t room (match Text.after? w t with
      | some r => .ok (v, r)
      | none => otherwise) := by
  split
  · next r hr =>
    rw [Text.after?_eq_some_iff] at hr
    rw [hr]
    exact .read v (List.suffix_append w r)
  · exact h

theorem proceeds_readScalar (t : List Char) (room : Nat) : Proceeds t room (readScalar t) := by
  unfold readScalar
  dsimp only
  split
  · exact proceeds_word _ _ (.refused nofun)
  · exact proceeds_word _ _ (.refused nofun)
  · exact proceeds_word _ _ (.refused nofun)
  · exact proceeds_word _ _ (.refused nofun)
  · exact proceeds_word _ _ (.refused nofun)
  · exact proceeds_word _ _ (proceeds_readNumber true (List.suffix_cons _ _) room)
  · exact proceeds_readNumber false List.suffix_rfl room

theorem skipSpace_suffix (t : List Char) : skipSpace t <:+ t :=
  List.dropWhile_suffix _

theorem suffix_of_skipSpace {c : Char} {t r : List Char} (h : skipSpace t = c :: r) : r <:+ t :=
  (h ▸ List.suffix_cons c r : r <:+ skipSpace t).trans (skipSpace_suffix t)

theorem proceeds_read (fuel room : Nat) :
    (∀ t, Proceeds t room (readValue fuel room t)) ∧
    (∀ t, Proceeds t room (readItems fuel room t)) ∧
    ∀ read t, Proceeds t room (readFields fuel room read t) := by
  -- by the fuel, for values, items and fields together, which read each other
  induction fuel generalizing room with
  | zero =>
    exact ⟨fun t => .refused nofun, fun t => .refused nofun, fun read t => .refused nofun⟩
  | succ fuel ih =>
    refine ⟨fun t => ?_, fun t => ?_, fun read t => ?_⟩
    · unfold readValue
      split
      · next r => exact ((proceeds_readString r room).map Json.str).of_suffix (List.suffix_cons _ r)
      · next r =>
        cases room with
        | zero => exact .refused fun n _ => by simp [openings]
        | succ room =>
          dsimp only
          split
          · next r' hr => exact .read _ ((suffix_of_skipSpace hr).trans (List.suffix_cons _ r))
          · exact ((((ih room).2.1 _).map Json.arr).of_suffix (skipSpace_suffix r)).nest rfl
      · next r =>
        cases room with
        | zero => exact .refused fun n _ => by simp [openings]
        | succ room =>
          dsimp only
          split
          · next r' hr => exact .read _ ((suffix_of_skipSpace hr).trans (List.suffix_cons _ r))
          · exact ((((ih room).2.2 [] _).map Json.obj).of_suffix (skipSpace_suffix r)).nest rfl
      · exact proceeds_readScalar t room
    · have hvalue := (ih room).1 t
      rw [readItems]
      generalize readValue fuel room t = value at hvalue
      cases hvalue with
      | refused nested => exact .refused nested
      | @read x r left =>
        dsimp only
        split
        · next hr => exact .read _ ((suffix_of_skipSpace hr).trans left)
        · next r' hr =>
          have hitems := (((ih room).2.1 (skipSpace r')).map (x :: ·)).of_suffix (skipSpace_suffix r')
          exact hitems.of_suffix ((suffix_of_skipSpace hr).trans left)
        · exact .refused nofun
    · unfold readFields
      split
      · next t =>
        have hname := proceeds_readString t room
        generalize readString t = name at hname
        cases hname with
        | refused nested => exact (Proceeds.refused nested).of_suffix (List.suffix_cons _ t)
        | @read name r left =>
          have hleft := left.trans (List.suffix_cons '"' t)
          dsimp only
          split
          · next r' hr =>
            have hvalue := ((ih room).1 (skipSpace r')).of_suffix
              (((skipSpace_suffix r').trans (suffix_of_skipSpace hr)).trans hleft)
            generalize readValue fuel room (skipSpace r') = value at hvalue
            cases hvalue with
            | refused nested => exact .refused nested
            | @read v r left =>
              dsimp only
              split
              · next hr => exact .read _ ((suffix_of_skipSpace hr).trans left)
              · next r' hr =>
                exact ((ih room).2.2 _ _).of_suffix
                  (((skipSpace_suffix r').trans (suffix_of_skipSpace hr)).trans left)
              · exact .refused nofun
          · exact .refused nofun
      · exact .refused nofun

theorem maxDepth_lt_openings {s : String} {e : ReadError} {n : Nest} (h : read s = .error e)
    (he : e.fault = .tooDeep n) : maxDepth < openings s.toList := by
  have hvalue := (proceeds_read (2 * s.toList.length + 2) maxDepth).1 (skipSpace s.toList)
  rw [read] at h
  cases hflaw : readText s.toList with
  | ok v =>
    rw [hflaw] at h
    cases h
  | error f =>
    rw [hflaw] at h
    obtain rfl := Except.error.inj h
    have hf : f.fault = .tooDeep n := he
    unfold readText at hflaw
    split at hflaw
    · cases hflaw
      cases hf
    · generalize readValue (2 * s.toList.length + 2) maxDepth (skipSpace s.toList) = value
        at hvalue hflaw
      cases hvalue with
      | refused nested =>
        cases hflaw
        exact Nat.lt_of_lt_of_le (nested n hf) (openings_le_of_suffix (skipSpace_suffix _))
      | read v left =>
        dsimp only at hflaw
        split at hflaw
        · cases hflaw
        · cases hflaw
          cases hf

theorem readValue_of_openings (room : Nat) {fuel : Nat} (hfuel : 2 * room < fuel) (t : List Char) :
    ∃ rest, readValue fuel room (List.replicate (room + 1) '[' ++ t) =
      .error ⟨.tooDeep .list, rest⟩ := by
  induction room generalizing fuel with
  | zero =>
    obtain ⟨fuel, rfl⟩ := Nat.exists_eq_add_one_of_ne_zero (Nat.ne_of_gt hfuel)
    exact ⟨_, rfl⟩
  | succ room ih =>
    obtain ⟨fuel, rfl⟩ : ∃ k, fuel = k + 2 := ⟨fuel - 2, by omega⟩
    obtain ⟨rest, hrest⟩ := ih (by omega : 2 * room < fuel)
    have hitems : readItems (fuel + 1) room (List.replicate (room + 1) '[' ++ t) =
        .error ⟨.tooDeep .list, rest⟩ := by
      rw [readItems, hrest]
    refine ⟨rest, ?_⟩
    -- no space stands before the second bracket
    rw [List.replicate_succ, List.cons_append, readValue]
    exact congrArg (Except.map _) hitems

theorem read_of_openings (t : List Char) :
    ∃ e, read (String.ofList (List.replicate (maxDepth + 1) '[' ++ t)) = .error e ∧
      e.fault = .tooDeep .list := by
  have hfuel : 2 * maxDepth < 2 * (List.replicate (maxDepth + 1) '[' ++ t).length + 2 := by
    rw [List.length_append, List.length_replicate]
    omega
  obtain ⟨rest, hrest⟩ := readValue_of_openings maxDepth hfuel t
  refine ⟨Flaw.locate ⟨.tooDeep .list, rest⟩ (List.replicate (maxDepth + 1) '[' ++ t), ?_, rfl⟩
  have hskip : skipSpace (List.replicate (maxDepth + 1) '[' ++ t) =
      List.replicate (maxDepth + 1) '[' ++ t := rfl
  rw [read, String.toList_ofList, readText, hskip, hrest]
  · rfl
  · exact fun s hs => absurd (List.cons.inj hs).1 (by decide)

end CodeReview.Json
