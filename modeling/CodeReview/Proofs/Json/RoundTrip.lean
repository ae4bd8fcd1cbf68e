import CodeReview.Proofs.Json.Numbers
import CodeReview.Proofs.Json.Strings
import Mathlib.Data.List.Basic

/-!
A value that is written on several lines is read back. What is written is a value up to what stands
behind it, whatever that is, as long as no digit follows an integer. Of values that the reader has
room for, the one thing that can be written and not read is an integer with too many digits.
-/

namespace CodeReview.Json

/-- A value without numbers that have a point and without objects that name a field twice, which has
at most `room` levels of nesting. -/
inductive Plain : (room : Nat) → Json → Prop
  | null {room : Nat} : Plain room .null
  | bool {room : Nat} (b : Bool) : Plain room (.bool b)
  | int {room : Nat} (i : Int) : Plain room (.int i)
  | str {room : Nat} (s : String) : Plain room (.str s)
  | arr {room : Nat} {xs : List Json} (items : ∀ x ∈ xs, Plain room x) : Plain (room + 1) (.arr xs)
  | obj {room : Nat} {fs : List (String × Json)} (names : (fs.map (·.1)).Nodup)
      (fields : ∀ f ∈ fs, Plain room f.2) : Plain (room + 1) (.obj fs)

/-- A value with an integer in it that has too many digits to be read. -/
inductive HoldsLong : Json → Prop
  | int {i : Int} (long : IsLong i) : HoldsLong (.int i)
  | arr {xs : List Json} {x : Json} (item : x ∈ xs) (long : HoldsLong x) : HoldsLong (.arr xs)
  | obj {fs : List (String × Json)} {f : String × Json} (field : f ∈ fs) (long : HoldsLong f.2) :
      HoldsLong (.obj fs)

theorem holdsLong_int_iff {i : Int} : HoldsLong (.int i) ↔ IsLong i := by
  constructor
  · rintro ⟨long⟩
    exact long
  · exact .int

theorem holdsLong_arr_iff {xs : List Json} : HoldsLong (.arr xs) ↔ ∃ x ∈ xs, HoldsLong x := by
  constructor
  · rintro ⟨⟩
    exact ⟨_, ‹_›, ‹_›⟩
  · rintro ⟨x, hx, long⟩
    exact .arr hx long

theorem holdsLong_obj_iff {fs : List (String × Json)} :
    HoldsLong (.obj fs) ↔ ∃ f ∈ fs, HoldsLong f.2 := by
  constructor
  · rintro ⟨⟩
    exact ⟨_, ‹_›, ‹_›⟩
  · rintro ⟨f, hf, long⟩
    exact .obj hf long

/-- What comes of reading where `a` and then `tail` are written, by whether an integer in `a` is too
long. -/
inductive ReadsBack {α : Type} (p : Prop) (a : α) (tail : List Char) : Reading α → Prop
  | read (short : ¬p) : ReadsBack p a tail (.ok (a, tail))
  | refused (long : p) (f : Flaw) : ReadsBack p a tail (.error f)

namespace ReadsBack

theorem congr {α : Type} {p q : Prop} {a : α} {tail : List Char} {r : Reading α}
    (h : ReadsBack p a tail r) (hpq : p ↔ q) : ReadsBack q a tail r := by
  rwa [← propext hpq]

theorem map {α β : Type} {p : Prop} {a : α} {tail : List Char} {r : Reading α}
    (h : ReadsBack p a tail r) (f : α → β) :
    ReadsBack p (f a) tail (r.map fun (a, t) => (f a, t)) := by
  cases h with
  | read short => exact .read short
  | refused long f => exact .refused long f

end ReadsBack

theorem indentedAt_int (d : Nat) (i : Int) : (Json.int i).indentedAt d = writeInt i := rfl

theorem indentedAt_str (d : Nat) (s : String) : (Json.str s).indentedAt d = writeString s := rfl

theorem indentedAt_arr_cons (d : Nat) (x : Json) (xs : List Json) :
    (Json.arr (x :: xs)).indentedAt d =
      '[' :: (newLine (d + 1) ++ (indentedItems (d + 1) (x :: xs) ++ (newLine d ++ [']']))) := by
  simp [indentedAt]

theorem indentedAt_obj_cons (d : Nat) (f : String × Json) (fs : List (String × Json)) :
    (Json.obj (f :: fs)).indentedAt d =
      '{' :: (newLine (d + 1) ++ (indentedFields (d + 1) (f :: fs) ++ (newLine d ++ ['}']))) := by
  simp [indentedAt]

theorem indentedItems_cons_cons (d : Nat) (x y : Json) (ys : List Json) :
    indentedItems d (x :: y :: ys) =
      x.indentedAt d ++ ',' :: (newLine d ++ indentedItems d (y :: ys)) := by
  rw [indentedItems, List.append_assoc, List.cons_append]
  exact nofun

theorem indentedFields_cons_cons (d : Nat) (n : String) (v : Json) (g : String × Json)
    (fs : List (String × Json)) :
    indentedFields d ((n, v) :: g :: fs) =
      writeString n ++ ':' :: ' ' :: (v.indentedAt d ++
        ',' :: (newLine d ++ indentedFields d (g :: fs))) := by
  simp [indentedFields]

structure Leads (c : Char) : Prop where
  visible : 32 < c.toNat
  ascii : c.toNat < 127
  notClosing : c ≠ ']'

theorem Leads.isSpace_eq_false {c : Char} (h : Leads c) : isSpace c = false := by
  have hne : ∀ d : Char, d.toNat ≤ 32 → c ≠ d := by
    rintro d hd rfl
    have := h.visible
    omega
  simp [Json.isSpace, hne ' ' (by decide), hne '\t' (by decide), hne '\n' (by decide),
    hne '\r' (by decide)]

theorem leads_of_isDigit {c : Char} (h : c.isDigit = true) : Leads c := by
  simp only [Char.isDigit, Bool.and_eq_true, decide_eq_true_eq, UInt32.le_iff_toNat_le] at h
  have hlow : 48 ≤ c.toNat := h.1
  have hhigh : c.toNat ≤ 57 := h.2
  refine ⟨by omega, by omega, ?_⟩
  rintro rfl
  exact absurd hhigh (by decide)

def Opens (t : List Char) : Prop :=
  ∃ c cs, t = c :: cs ∧ Leads c

theorem opens_writeInt (i : Int) : Opens (writeInt i) := by
  obtain ⟨c, cs, hcs, rfl | hc⟩ := exists_head_writeInt i
  · exact ⟨_, cs, hcs, by decide, by decide, by decide⟩
  · exact ⟨c, cs, hcs, leads_of_isDigit hc⟩

theorem opens_indentedAt {room : Nat} {v : Json} (h : Plain room v) (d : Nat) :
    Opens (v.indentedAt d) := by
  cases h with
  | null => exact ⟨_, _, rfl, by decide, by decide, by decide⟩
  | bool b => cases b <;> exact ⟨_, _, rfl, by decide, by decide, by decide⟩
  | int i => exact opens_writeInt i
  | str s => exact ⟨_, _, rfl, by decide, by decide, by decide⟩
  | @arr _ xs _ => cases xs <;> exact ⟨_, _, rfl, by decide, by decide, by decide⟩
  | @obj _ fs _ _ => cases fs <;> exact ⟨_, _, rfl, by decide, by decide, by decide⟩

theorem opens_indentedItems {room : Nat} {xs : List Json} (hne : xs ≠ [])
    (h : ∀ x ∈ xs, Plain room x) (d : Nat) : Opens (indentedItems d xs) := by
  cases xs with
  | nil => exact absurd rfl hne
  | cons x xs =>
    obtain ⟨c, cs, hx, hc⟩ := opens_indentedAt (h x List.mem_cons_self) d
    cases xs with
    | nil => exact ⟨c, cs, hx, hc⟩
    | cons y ys => exact ⟨c, _, by rw [indentedItems_cons_cons, hx]; rfl, hc⟩

theorem skipSpace_cons {c : Char} (h : isSpace c = false) (t : List Char) :
    skipSpace (c :: t) = c :: t := by
  rw [skipSpace, List.dropWhile_cons_of_neg (by simp [h])]

theorem Opens.skipSpace_append {w : List Char} (h : Opens w) (t : List Char) :
    skipSpace (w ++ t) = w ++ t := by
  obtain ⟨c, cs, rfl, hc⟩ := h
  exact skipSpace_cons hc.isSpace_eq_false _

theorem skipSpace_newLine (d : Nat) (t : List Char) :
    skipSpace (newLine d ++ t) = skipSpace t := by
  refine List.dropWhile_append_of_pos fun c hc => ?_
  obtain rfl | hc := List.mem_cons.1 hc
  · rfl
  · rw [List.eq_of_mem_replicate hc]
    rfl

theorem endsNumber_newLine (d : Nat) (t : List Char) : EndsNumber (newLine d ++ t) := by
  rintro c hc
  cases hc
  decide

theorem endsNumber_comma (t : List Char) : EndsNumber (',' :: t) := by
  rintro c hc
  cases hc
  decide

/-- Wherever the value is written, it is read back with fuel for each of its characters. -/
def Returns (room : Nat) (v : Json) : Prop :=
  ∀ (d fuel : Nat) (tail : List Char), EndsNumber tail → (v.indentedAt d).length ≤ fuel →
    ReadsBack (HoldsLong v) v tail (readValue fuel room (v.indentedAt d ++ tail))

theorem readsBack_items {room : Nat} {xs : List Json} (hne : xs ≠ [])
    (hplain : ∀ x ∈ xs, Plain room x) (hreturns : ∀ x ∈ xs, Returns room x) (d e : Nat)
    (tail : List Char) (fuel : Nat) (hfuel : (indentedItems d xs).length < fuel) :
    ReadsBack (∃ x ∈ xs, HoldsLong x) xs tail
      (readItems fuel room (indentedItems d xs ++ (newLine e ++ ']' :: tail))) := by
  induction xs generalizing fuel with
  | nil => exact absurd rfl hne
  | cons x xs ih =>
    obtain ⟨fuel, rfl⟩ := Nat.exists_eq_add_one_of_ne_zero (Nat.ne_zero_of_lt hfuel)
    rw [List.forall_mem_cons] at hplain hreturns
    cases xs with
    | nil =>
      rw [indentedItems] at hfuel ⊢
      have hx := hreturns.1 d fuel (newLine e ++ ']' :: tail) (endsNumber_newLine _ _) (by omega)
      rw [readItems]
      generalize readValue fuel room (x.indentedAt d ++ (newLine e ++ ']' :: tail)) = reading at hx
      cases hx with
      | refused long f => exact .refused ⟨x, List.mem_cons_self, long⟩ f
      | read short =>
        simp only [skipSpace_newLine, skipSpace_cons (c := ']') rfl]
        exact .read (by simpa using short)
    | cons y ys =>
      have hopens := opens_indentedItems (List.cons_ne_nil y ys) hplain.2 d
      rw [indentedItems_cons_cons, List.length_append, List.length_cons, List.length_append] at hfuel
      rw [indentedItems_cons_cons, List.append_assoc, List.cons_append, List.append_assoc]
      have hrest := ih (List.cons_ne_nil y ys) hplain.2 hreturns.2 fuel (by omega)
      generalize hmore : indentedItems d (y :: ys) ++ (newLine e ++ ']' :: tail) = more at hrest
      have hx := hreturns.1 d fuel (',' :: (newLine d ++ more)) (endsNumber_comma _) (by omega)
      rw [readItems]
      generalize readValue fuel room (x.indentedAt d ++ ',' :: (newLine d ++ more)) = reading at hx
      cases hx with
      | refused long f => exact .refused ⟨x, List.mem_cons_self, long⟩ f
      | read short =>
        simp only [skipSpace_cons (c := ',') rfl, skipSpace_newLine]
        rw [← hmore, hopens.skipSpace_append, hmore]
        refine (hrest.map (x :: ·)).congr ?_
        rw [List.exists_mem_cons_iff (a := x), or_iff_right short]

theorem put_of_notMem {fs : List (String × Json)} {n : String} (h : n ∉ fs.map (·.1)) (v : Json) :
    put fs n v = fs ++ [(n, v)] := by
  induction fs with
  | nil => rfl
  | cons f fs ih =>
    rw [List.map_cons, List.mem_cons, not_or] at h
    rw [put, if_neg (by simpa using fun heq => h.1 heq.symm), ih h.2, List.cons_append]

theorem exists_quote_indentedFields {fs : List (String × Json)} (hne : fs ≠ []) (d : Nat) :
    ∃ cs, indentedFields d fs = '"' :: cs := by
  obtain ⟨⟨n, v⟩, fs, rfl⟩ := List.exists_cons_of_ne_nil hne
  cases fs with
  | nil => exact ⟨_, rfl⟩
  | cons g fs => exact ⟨_, by rw [indentedFields_cons_cons]; rfl⟩

theorem readFields_name (fuel room : Nat) (read : List (String × Json)) (n : String)
    {more : List Char} (hmore : skipSpace more = more) :
    (∀ f, readValue fuel room more = .error f →
      readFields (fuel + 1) room read (writeString n ++ ':' :: ' ' :: more) = .error f) ∧
    (∀ v rest rest', readValue fuel room more = .ok (v, rest) → skipSpace rest = '}' :: rest' →
      readFields (fuel + 1) room read (writeString n ++ ':' :: ' ' :: more) =
        .ok (put read n v, rest')) ∧
    ∀ v rest rest', readValue fuel room more = .ok (v, rest) → skipSpace rest = ',' :: rest' →
      readFields (fuel + 1) room read (writeString n ++ ':' :: ' ' :: more) =
        readFields fuel room (put read n v) (skipSpace rest') := by
  obtain ⟨t, hquote, hname⟩ := readString_writeString n (':' :: ' ' :: more)
  have hblank : skipSpace (' ' :: more) = more := hmore
  rw [hquote, readFields, hname]
  refine ⟨fun f hv => ?_, fun v rest rest' hv hrest => ?_, fun v rest rest' hv hrest => ?_⟩
  · simp only [skipSpace_cons (c := ':') rfl, hblank, hv]
  · simp only [skipSpace_cons (c := ':') rfl, hblank, hv, hrest]
  · simp only [skipSpace_cons (c := ':') rfl, hblank, hv, hrest]

theorem readsBack_fields {room : Nat} {fs : List (String × Json)} (hne : fs ≠ [])
    (hplain : ∀ f ∈ fs, Plain room f.2) (hreturns : ∀ f ∈ fs, Returns room f.2)
    (read : List (String × Json)) (hnames : ((read ++ fs).map (·.1)).Nodup) (d e : Nat)
    (tail : List Char) (fuel : Nat) (hfuel : (indentedFields d fs).length < fuel) :
    ReadsBack (∃ f ∈ fs, HoldsLong f.2) (read ++ fs) tail
      (readFields fuel room read (indentedFields d fs ++ (newLine e ++ '}' :: tail))) := by
  induction fs generalizing read fuel with
  | nil => exact absurd rfl hne
  | cons f fs ih =>
    obtain ⟨n, v⟩ := f
    obtain ⟨fuel, rfl⟩ := Nat.exists_eq_add_one_of_ne_zero (Nat.ne_zero_of_lt hfuel)
    rw [List.forall_mem_cons] at hplain hreturns
    have hv : Returns room v := hreturns.1
    have hopens := opens_indentedAt hplain.1 d
    have hput : put read n v = read ++ [(n, v)] := by
      rw [List.map_append, List.nodup_append] at hnames
      exact put_of_notMem (fun h => hnames.2.2 n h n (by simp) rfl) v
    -- the last field is followed by the brace, any other by a comma
    cases fs with
    | nil =>
      rw [indentedFields, List.length_append, List.length_cons, List.length_cons] at hfuel
      rw [indentedFields, List.append_assoc, List.cons_append, List.cons_append]
      obtain ⟨hrefused, hlast, -⟩ :=
        readFields_name fuel room read n (hopens.skipSpace_append (newLine e ++ '}' :: tail))
      have hread := hv d fuel (newLine e ++ '}' :: tail) (endsNumber_newLine _ _) (by omega)
      generalize hreading : readValue fuel room (v.indentedAt d ++ (newLine e ++ '}' :: tail)) =
        reading at hread
      cases hread with
      | refused long f =>
        rw [hrefused _ hreading]
        exact .refused ⟨_, List.mem_cons_self, long⟩ f
      | read short =>
        rw [hlast _ _ _ hreading ((skipSpace_newLine _ _).trans (skipSpace_cons rfl _)), hput]
        exact .read (by simpa using short)
    | cons g fs =>
      obtain ⟨cs, hcs⟩ := exists_quote_indentedFields (List.cons_ne_nil g fs) d
      rw [indentedFields_cons_cons, List.length_append, List.length_cons, List.length_cons,
        List.length_append, List.length_cons, List.length_append] at hfuel
      rw [indentedFields_cons_cons, List.append_assoc, List.cons_append, List.cons_append,
        List.append_assoc, List.cons_append, List.append_assoc]
      have hrest := ih (List.cons_ne_nil g fs) hplain.2 hreturns.2 (read ++ [(n, v)])
        (by simpa using hnames) fuel (by omega)
      rw [List.append_assoc, List.singleton_append] at hrest
      generalize hothers : indentedFields d (g :: fs) ++ (newLine e ++ '}' :: tail) = others
        at hrest
      have hskip : skipSpace others = others := by
        rw [← hothers, hcs, List.cons_append]
        rfl
      obtain ⟨hrefused, -, hcomma⟩ :=
        readFields_name fuel room read n (hopens.skipSpace_append (',' :: (newLine d ++ others)))
      have hread := hv d fuel (',' :: (newLine d ++ others)) (endsNumber_comma _) (by omega)
      generalize hreading : readValue fuel room (v.indentedAt d ++ ',' :: (newLine d ++ others)) =
        reading at hread
      cases hread with
      | refused long f =>
        rw [hrefused _ hreading]
        exact .refused ⟨_, List.mem_cons_self, long⟩ f
      | read short =>
        rw [hcomma _ _ _ hreading (skipSpace_cons rfl _), skipSpace_newLine, hskip, hput]
        refine hrest.congr ?_
        rw [List.exists_mem_cons_iff (a := (n, v)), or_iff_right short]

theorem returns_of_succ {room : Nat} {v : Json} (hplain : Plain room v)
    (h : ∀ (d fuel : Nat) (tail : List Char), EndsNumber tail →
      (v.indentedAt d).length ≤ fuel + 1 →
        ReadsBack (HoldsLong v) v tail (readValue (fuel + 1) room (v.indentedAt d ++ tail))) :
    Returns room v := by
  intro d fuel tail htail hfuel
  obtain ⟨c, cs, hopens, -⟩ := opens_indentedAt hplain d
  have hpos : fuel ≠ 0 := by
    rw [hopens, List.length_cons] at hfuel
    omega
  obtain ⟨fuel, rfl⟩ := Nat.exists_eq_add_one_of_ne_zero hpos
  exact h d fuel tail htail hfuel

theorem readValue_writeInt (fuel room : Nat) (i : Int) (t : List Char) :
    readValue (fuel + 1) room (writeInt i ++ t) = readScalar (writeInt i ++ t) := by
  obtain ⟨c, cs, hcs, hc⟩ := exists_head_writeInt i
  have hne : ∀ d : Char, d ≠ '-' → d.isDigit = false → c ≠ d := by
    rintro d hd hdigit rfl
    exact hc.elim hd fun h => absurd (h.symm.trans hdigit) (by decide)
  rw [hcs, List.cons_append, readValue]
  · exact fun r heq => hne '"' (by decide) (by decide) (List.cons.inj heq).1
  · exact fun r heq => hne '[' (by decide) (by decide) (List.cons.inj heq).1
  · exact fun r heq => hne '{' (by decide) (by decide) (List.cons.inj heq).1

theorem returns_int (room : Nat) (i : Int) : Returns room (.int i) := by
  refine returns_of_succ (.int i) fun d fuel tail htail _ => ?_
  rw [indentedAt_int, readValue_writeInt, readScalar_writeInt i htail]
  split
  · next long => exact .refused (.int long) _
  · next short => exact .read (mt holdsLong_int_iff.1 short)

theorem returns_str (room : Nat) (s : String) : Returns room (.str s) := by
  refine returns_of_succ (.str s) fun d fuel tail _ _ => ?_
  obtain ⟨t, hquote, hs⟩ := readString_writeString s tail
  rw [indentedAt_str, hquote, readValue, hs]
  exact .read nofun

theorem readValue_bracket (fuel room : Nat) {t r : List Char} (hskip : skipSpace t = r)
    (hr : ∀ s, r ≠ ']' :: s) : readValue (fuel + 1) (room + 1) ('[' :: t) =
      (readItems fuel room r).map fun (xs, r) => (.arr xs, r) := by
  rw [readValue, hskip]
  split
  · next s => exact absurd rfl (hr s)
  · rfl

theorem returns_arr {room : Nat} {xs : List Json} (hplain : ∀ x ∈ xs, Plain room x)
    (hreturns : ∀ x ∈ xs, Returns room x) : Returns (room + 1) (.arr xs) := by
  refine returns_of_succ (.arr hplain) fun d fuel tail _ hfuel => ?_
  cases xs with
  | nil => exact .read (by simp [holdsLong_arr_iff])
  | cons x xs =>
    have hopens := opens_indentedItems (List.cons_ne_nil x xs) hplain (d + 1)
    rw [indentedAt_arr_cons, List.length_cons, List.length_append, List.length_append,
      List.length_append, List.length_singleton] at hfuel
    have hitems := readsBack_items (List.cons_ne_nil x xs) hplain hreturns (d + 1) d tail fuel
      (by omega)
    rw [indentedAt_arr_cons, List.cons_append, List.append_assoc, List.append_assoc,
      List.append_assoc, List.singleton_append, readValue_bracket fuel room
        ((skipSpace_newLine _ _).trans (hopens.skipSpace_append _))]
    · exact (hitems.map Json.arr).congr holdsLong_arr_iff.symm
    · obtain ⟨c, cs, hcs, hc⟩ := hopens
      rw [hcs, List.cons_append]
      exact fun s heq => hc.notClosing (List.cons.inj heq).1

theorem readValue_brace (fuel room : Nat) {t r : List Char} (hskip : skipSpace t = r)
    (hr : ∀ s, r ≠ '}' :: s) : readValue (fuel + 1) (room + 1) ('{' :: t) =
      (readFields fuel room [] r).map fun (fs, r) => (.obj fs, r) := by
  rw [readValue, hskip]
  split
  · next s => exact absurd rfl (hr s)
  · rfl

theorem returns_obj {room : Nat} {fs : List (String × Json)} (hnames : (fs.map (·.1)).Nodup)
    (hplain : ∀ f ∈ fs, Plain room f.2) (hreturns : ∀ f ∈ fs, Returns room f.2) :
    Returns (room + 1) (.obj fs) := by
  refine returns_of_succ (.obj hnames hplain) fun d fuel tail _ hfuel => ?_
  cases fs with
  | nil => exact .read (by simp [holdsLong_obj_iff])
  | cons f fs =>
    obtain ⟨cs, hcs⟩ := exists_quote_indentedFields (List.cons_ne_nil f fs) (d + 1)
    rw [indentedAt_obj_cons, List.length_cons, List.length_append, List.length_append,
      List.length_append, List.length_singleton] at hfuel
    have hfields := readsBack_fields (List.cons_ne_nil f fs) hplain hreturns [] hnames (d + 1) d
      tail fuel (by omega)
    rw [indentedAt_obj_cons, List.cons_append, List.append_assoc, List.append_assoc,
      List.append_assoc, List.singleton_append]
    rw [hcs, List.cons_append] at hfields ⊢
    rw [readValue_brace fuel room ((skipSpace_newLine _ _).trans (skipSpace_cons rfl _))]
    · exact (hfields.map Json.obj).congr holdsLong_obj_iff.symm
    · exact fun s heq => absurd (List.cons.inj heq).1 (by decide)

theorem returns_of_plain {room : Nat} {v : Json} (h : Plain room v) : Returns room v := by
  -- by what makes the value a plain one; lists and objects have lemmas of their own
  induction h with
  | null => exact returns_of_succ .null fun d fuel tail _ _ => .read nofun
  | bool b =>
    refine returns_of_succ (.bool b) fun d fuel tail _ _ => ?_
    cases b
    · exact .read nofun
    · exact .read nofun
  | int i => exact returns_int _ i
  | str s => exact returns_str _ s
  | arr items ih => exact returns_arr items ih
  | obj names fields ih => exact returns_obj names fields ih

/-- The text of a plain value is read as that value, unless an integer in it is too long; then it is
not read at all. -/
theorem read_indented {v : Json} (h : Plain maxDepth v) :
    (¬HoldsLong v → read v.indented = .ok v) ∧ (HoldsLong v → ∃ e, read v.indented = .error e) := by
  obtain ⟨c, cs, hcs, hc⟩ := opens_indentedAt h 0
  have hmark : c ≠ '\uFEFF' := by
    rintro rfl
    exact absurd hc.ascii (by decide)
  have hskip : skipSpace (v.indentedAt 0) = v.indentedAt 0 := by
    rw [hcs, skipSpace_cons hc.isSpace_eq_false]
  have hreads := returns_of_plain h 0 (2 * (v.indentedAt 0).length + 2) [] nofun (by omega)
  rw [List.append_nil] at hreads
  generalize hreading :
      readValue (2 * (v.indentedAt 0).length + 2) maxDepth (v.indentedAt 0) = reading
    at hreads
  have hnoMark : ∀ t, v.indentedAt 0 ≠ '\uFEFF' :: t := fun t heq =>
    hmark (List.cons.inj (hcs.symm.trans heq)).1
  rw [read, indented, String.toList_ofList, readText, hskip, hreading]
  · cases hreads with
    | read short => exact ⟨fun _ => rfl, fun long => absurd long short⟩
    | refused long f => exact ⟨fun short => absurd long short, fun _ => ⟨_, rfl⟩⟩
  · exact hnoMark

end CodeReview.Json
