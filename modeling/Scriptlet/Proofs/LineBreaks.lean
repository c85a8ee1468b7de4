import Scriptlet.Text.Line

/-!
# Where the breaks of a text are

`Lined ls`: each line of `ls` but the last ends in one break and holds no other, and the last holds
none. So are the lines of `splitLines` (`lined_splitLines`). `Sits text l base` is what a search that
only sees the line `l` can rely on about the text around it: a line begins behind a break, its own
break is at its end, and only the end of the text needs none.

What is left of a text behind a place in its first line has the rest of that line as its own first line
(`splitLines_drop`), and what is left behind the line has the other lines (`splitLines_behind`).
-/

namespace Scriptlet.Text

/-- The character is a break or one half of it. -/
def isBreak (c : Char) : Bool := c == '\n' || c == '\r'

/-- A text without breaks. -/
def BreakFree (l : List Char) : Prop := ∀ c ∈ l, isBreak c = false

/-- The text ends in a break and holds no other. -/
def EndsInBreak (l : List Char) : Prop :=
  ∃ body brk, l = body ++ brk ∧ BreakFree body ∧ (brk = ['\n'] ∨ brk = ['\r'] ∨ brk = ['\r', '\n'])

/-- The last character is a break. -/
def LastIsBreak (l : List Char) : Prop := ∃ c, l.getLast? = some c ∧ isBreak c = true

/-- Every line but the last ends in its break, and the last has none. -/
def Lined : List (List Char) → Prop
  | [] => False
  | [l] => BreakFree l
  | l :: l' :: ls => EndsInBreak l ∧ Lined (l' :: ls)

theorem BreakFree.cons {c : Char} {l : List Char} (hc : isBreak c = false) (h : BreakFree l) :
    BreakFree (c :: l) := by
  intro d hd
  rcases List.mem_cons.1 hd with rfl | hd
  · exact hc
  · exact h d hd

theorem BreakFree.getElem? {l : List Char} (h : BreakFree l) {i : Nat} {c : Char} (hc : l[i]? = some c) :
    isBreak c = false :=
  h c (List.mem_of_getElem? hc)

namespace EndsInBreak
variable {l : List Char}

theorem cons {c : Char} (hc : isBreak c = false) (h : EndsInBreak l) : EndsInBreak (c :: l) := by
  obtain ⟨body, brk, rfl, hbody, hbrk⟩ := h
  exact ⟨c :: body, brk, rfl, hbody.cons hc, hbrk⟩

theorem lastIsBreak (h : EndsInBreak l) : LastIsBreak l := by
  obtain ⟨body, brk, rfl, -, rfl | rfl | rfl⟩ := h
  · exact ⟨'\n', by simp, rfl⟩
  · exact ⟨'\r', by simp, rfl⟩
  · exact ⟨'\n', by simp, rfl⟩

theorem ne_nil (h : EndsInBreak l) : l ≠ [] := by
  obtain ⟨c, hc, -⟩ := h.lastIsBreak
  rintro rfl
  cases hc

/-- Behind the first half of a break comes the other half, or the line is at its end. -/
theorem next (h : EndsInBreak l) {i : Nat} {c d : Char} (hc : l[i]? = some c) (hb : isBreak c = true)
    (hd : l[i + 1]? = some d) : d = '\n' := by
  obtain ⟨body, brk, rfl, hbody, hbrk⟩ := h
  rcases Nat.lt_or_ge i body.length with hi | hi
  · rw [List.getElem?_append_left hi] at hc
    rw [hbody.getElem? hc] at hb
    cases hb
  · rw [List.getElem?_append_right (by omega), show i + 1 - body.length = i - body.length + 1 by omega] at hd
    rcases hbrk with rfl | rfl | rfl
    · simp at hd
    · simp at hd
    · cases hk : i - body.length with
      | zero => rw [hk] at hd; cases hd; rfl
      | succ k => simp [hk] at hd

end EndsInBreak

theorem lined_consLine {c : Char} (hc : isBreak c = false) {ls : List (List Char)} (h : Lined ls) :
    Lined (consLine c ls) := by
  match ls, h with
  | [l], h => exact BreakFree.cons hc h
  | l :: l' :: ls, h => exact ⟨h.1.cons hc, h.2⟩

theorem Lined.endsInBreak_cons {l : List Char} (hl : EndsInBreak l) {ls : List (List Char)} (h : Lined ls) :
    Lined (l :: ls) := by
  match ls, h with
  | l' :: ls, h => exact ⟨hl, h⟩

theorem lined_splitLines (text : List Char) : Lined (splitLines text) := by
  fun_induction splitLines text with
  | case1 => exact fun c hc => by cases hc
  | case2 cs ih =>
    exact Lined.endsInBreak_cons ⟨[], ['\r', '\n'], rfl, by simp [BreakFree], by simp⟩ ih
  | case3 c cs _ hc ih =>
    refine Lined.endsInBreak_cons ⟨[], [c], rfl, by simp [BreakFree], ?_⟩ ih
    simp only [Bool.or_eq_true, beq_iff_eq] at hc
    rcases hc with rfl | rfl <;> simp
  | case4 c cs _ hc ih =>
    exact lined_consLine (Bool.eq_false_iff.2 hc) ih

theorem Lined.next {l : List Char} {ls : List (List Char)} (h : Lined (l :: ls)) {i : Nat} {c d : Char}
    (hc : l[i]? = some c) (hb : isBreak c = true) (hd : l[i + 1]? = some d) : d = '\n' := by
  cases ls with
  | nil => rw [BreakFree.getElem? h hc] at hb; cases hb
  | cons l' ls => exact h.1.next hc hb hd

/-- A line of a text, as it is seen from inside. -/
structure Sits (text l : List Char) (base : Nat) : Prop where
  /-- The line is there. -/
  chars : ∀ i, i < l.length → text[base + i]? = l[i]?
  /-- It begins with the text or behind a break. -/
  start : base = 0 ∨ ∃ c, text[base - 1]? = some c ∧ isBreak c = true
  /-- A break goes on with its other half, or not at all. -/
  inside : ∀ i c d, l[i]? = some c → isBreak c = true → l[i + 1]? = some d → d = '\n'
  /-- It ends with the text or with a break. -/
  stop : base + l.length = text.length ∨ base + l.length < text.length ∧ LastIsBreak l

/-- Each line of a text sits there, behind those before it. -/
theorem Lined.sits {before l : List Char} {ls : List (List Char)} (hbefore : before = [] ∨ LastIsBreak before)
    (h : Lined (l :: ls)) : Sits (before ++ (l :: ls).flatten) l before.length where
  chars i hi := by
    rw [List.getElem?_append_right (by omega), Nat.add_sub_cancel_left, List.flatten_cons,
      List.getElem?_append_left hi]
  start := by
    rcases hbefore with rfl | ⟨c, hc, hb⟩
    · exact .inl rfl
    · have hlt : before.length - 1 < before.length := by
        cases before with
        | nil => cases hc
        | cons _ _ => simp
      rw [List.getLast?_eq_getElem?] at hc
      exact .inr ⟨c, by rw [List.getElem?_append_left hlt, hc], hb⟩
  inside i c d := h.next
  stop := by
    cases ls with
    | nil => left; simp
    | cons l' ls =>
      by_cases hrest : (l' :: ls).flatten = []
      · left; simp [List.flatten_cons (L := l' :: ls), hrest]
      · right
        have := List.length_pos_iff.2 hrest
        refine ⟨?_, h.1.lastIsBreak⟩
        rw [List.flatten_cons, List.length_append, List.length_append]; omega

theorem LastIsBreak.append (before : List Char) {l : List Char} (h : LastIsBreak l) :
    LastIsBreak (before ++ l) := by
  obtain ⟨c, hc, hb⟩ := h
  exact ⟨c, by rw [List.getLast?_append, hc]; rfl, hb⟩

/-! ### Lines of the rest -/

theorem splitLines_ne_nil (text : List Char) : splitLines text ≠ [] := by
  intro h
  have hlined := lined_splitLines text
  rw [h] at hlined
  exact hlined

/-- The first character ends its line with a line feed behind it, or alone, or not at all. -/
theorem splitLines_cons (c : Char) (cs : List Char) :
    (∃ ds, cs = '\n' :: ds ∧ splitLines (c :: cs) = [c, '\n'] :: splitLines ds) ∨
      splitLines (c :: cs) = [c] :: splitLines cs ∨ splitLines (c :: cs) = consLine c (splitLines cs) := by
  rw [splitLines.eq_def]
  split
  · rename_i h; cases h
  · rename_i ds h; cases h; exact .inl ⟨ds, rfl, rfl⟩
  · rename_i d ds _ h
    cases h
    split
    · exact .inr (.inl rfl)
    · exact .inr (.inr rfl)

theorem splitLines_of_not_pair {c : Char} {cs : List Char} (h : ¬(c = '\r' ∧ cs.head? = some '\n')) :
    splitLines (c :: cs) = if isBreak c then [c] :: splitLines cs else consLine c (splitLines cs) := by
  rw [splitLines.eq_3 c cs]
  · rfl
  · rintro es rfl rfl
    exact h ⟨rfl, rfl⟩

theorem eq_nil_of_splitLines {text : List Char} {ls : List (List Char)} (h : splitLines text = [] :: ls) :
    text = [] ∧ ls = [] := by
  cases text with
  | nil => exact ⟨rfl, by simpa [splitLines] using h.symm⟩
  | cons c cs =>
    obtain ⟨l, ls', hrest⟩ := List.exists_cons_of_ne_nil (splitLines_ne_nil cs)
    rcases splitLines_cons c cs with ⟨ds, -, hsplit⟩ | hsplit | hsplit
    · rw [hsplit] at h; cases h
    · rw [hsplit] at h; cases h
    · rw [hsplit, hrest] at h; cases h

/-- The rest of the first line is the first line of the rest. -/
theorem splitLines_tail {c : Char} {cs l : List Char} {ls : List (List Char)}
    (h : splitLines (c :: cs) = (c :: l) :: ls) (hl : l ≠ []) : splitLines cs = l :: ls := by
  obtain ⟨l', ls', hrest⟩ := List.exists_cons_of_ne_nil (splitLines_ne_nil cs)
  rcases splitLines_cons c cs with ⟨ds, rfl, hsplit⟩ | hsplit | hsplit
  · rw [hsplit] at h
    cases h
    rfl
  · rw [hsplit] at h
    cases h
    exact absurd rfl hl
  · rw [hsplit, hrest] at h
    cases h
    exact hrest

theorem splitLines_drop {text l : List Char} {ls : List (List Char)} (h : splitLines text = l :: ls) {i : Nat}
    (hi : i < l.length) : splitLines (text.drop i) = l.drop i :: ls := by
  induction i generalizing text l with
  | zero => exact h
  | succ i ih =>
    match text, l, hi with
    | [], c :: l, _ => simp [splitLines] at h
    | c :: cs, d :: l, hi =>
      have hl : l ≠ [] := by
        rintro rfl
        simp at hi
      have hflat := flatten_splitLines (c :: cs)
      rw [h] at hflat
      cases (List.cons.inj hflat).1
      exact ih (splitLines_tail h hl) (Nat.lt_of_succ_lt_succ hi)

theorem splitLines_behind {text l : List Char} {ls : List (List Char)} (h : splitLines text = l :: ls)
    (hls : ls ≠ []) : splitLines (text.drop l.length) = ls := by
  have hpos : 0 < l.length := by
    refine List.length_pos_iff.2 fun hl => hls ?_
    subst hl
    exact (eq_nil_of_splitLines h).2
  -- only the last character of the line is left to be dropped
  have hlast := splitLines_drop h (i := l.length - 1) (by omega)
  have hflat := flatten_splitLines (text.drop (l.length - 1))
  obtain ⟨c, hc⟩ : ∃ c, l.drop (l.length - 1) = [c] :=
    List.length_eq_one_iff.1 (by rw [List.length_drop]; omega)
  rw [hc] at hlast
  rw [hlast, List.flatten_cons] at hflat
  obtain ⟨l', ls', hrest⟩ := List.exists_cons_of_ne_nil (splitLines_ne_nil ls.flatten)
  rw [← hflat] at hlast
  have hdrop : text.drop l.length = ls.flatten := by
    have := congrArg (List.drop 1) hflat
    rw [List.drop_drop, show l.length - 1 + 1 = l.length by omega] at this
    exact this.symm
  rw [hdrop]
  rcases splitLines_cons c ls.flatten with ⟨ds, -, hsplit⟩ | hsplit | hsplit
  · rw [List.singleton_append, hsplit] at hlast; cases hlast
  · rw [List.singleton_append, hsplit] at hlast; exact (List.cons.inj hlast).2
  · rw [List.singleton_append, hsplit, hrest] at hlast
    cases hlast
    obtain ⟨-, rfl⟩ := eq_nil_of_splitLines hrest
    exact absurd rfl hls

/-- What comes before the first break is in the first line. -/
theorem length_takeWhile_le {text l : List Char} {ls : List (List Char)} (h : splitLines text = l :: ls) :
    (text.takeWhile fun c => !isBreak c).length ≤ l.length := by
  have hflat := flatten_splitLines text
  have hlined := lined_splitLines text
  rw [h] at hflat hlined
  rw [List.flatten_cons] at hflat
  cases ls with
  | nil =>
    rw [List.flatten_nil, List.append_nil] at hflat
    rw [hflat]
    exact (List.takeWhile_sublist _).length_le
  | cons l' ls =>
    obtain ⟨c, hc, hbreak⟩ := hlined.1.lastIsBreak
    have hstop : ((l.takeWhile fun c => !isBreak c).length ≠ l.length) := by
      intro hall
      have hmem := List.mem_of_getLast? hc
      rw [← (List.takeWhile_prefix _).eq_of_length hall] at hmem
      have := List.all_eq_true.1 List.all_takeWhile c hmem
      simp [hbreak] at this
    rw [← hflat, List.takeWhile_append, if_neg hstop]
    exact (List.takeWhile_sublist _).length_le

end Scriptlet.Text
