import Scriptlet.Toml.Reader
import Scriptlet.Toml.Writer

/-!
# Strings are read back

Whatever form the writer chooses for a string, the reader gives the string back and stops behind its marks
(`readString_string`, `readSimpleKey_key`). `Gives` says what the machine makes of a piece of text, so a
string is read piece by piece. Between triple marks the machine remembers the marks just before, of which
there are two at most: the writer escapes a third one, or chooses the form only if there is none. The first
three of the marks at the end then close the string, up to two from the text being counted in.
-/

namespace Scriptlet.Toml

/-! ### The machine, piece by piece -/

namespace Quoting
variable {q : Quoting} {m m' m'' : Mode} {u v out out' rest cs : List Char} {c : Char} {n : Nat}

@[simp] theorem mark_escaping (multiline : Bool) : mark ⟨false, multiline⟩ = '"' := rfl

@[simp] theorem mark_literal (multiline : Bool) : mark ⟨true, multiline⟩ = '\'' := rfl

theorem mark_ne_lineFeed (q : Quoting) : '\n' ≠ q.mark := by
  unfold mark
  split <;> decide

/-- Reading the piece takes the machine from one mode to the other and gives `out`. -/
def Gives (q : Quoting) (m : Mode) (piece out : List Char) (next : Mode) : Prop :=
  ∀ rest, q.read m (piece ++ rest) = (q.read next rest).map fun r => (out ++ r.1, r.2)

theorem Gives.step (h : q.move m c = .go out m') : Gives q m [c] out m' := by
  intro rest
  rw [List.singleton_append, read, h]

theorem Gives.append (h : Gives q m u out m') (h' : Gives q m' v out' m'') :
    Gives q m (u ++ v) (out ++ out') m'' := by
  intro rest
  rw [List.append_assoc, h, h', Option.map_map]
  congr 1
  funext r
  simp only [Function.comp, List.append_assoc]

theorem Gives.read_eq {s : List Char} (h : Gives q m u out m') (hrest : q.read m' rest = some (s, v)) :
    q.read m (u ++ rest) = some (out ++ s, v) := by
  rw [h, hrest]
  rfl

/-- Where no marks have been read the machine is between characters. -/
theorem read_marks_zero (hq : q.multiline = true) (cs : List Char) : q.read (.marks 0) cs = q.read .text cs := by
  cases cs with
  | nil => rfl
  | cons c cs =>
    have hmove : q.move (.marks 0) c = q.move .text c := by
      by_cases hc : (c == q.mark) = true
      · simp [move, onMarks, onText, hc, hq]
      · simp only [move, onMarks, if_neg hc, Nat.zero_lt_succ, if_true, List.replicate_zero]
        cases q.onText c <;> rfl
    rw [read, read, hmove]

/-- Marks that do not end the string belong to it. -/
theorem Gives.marks (hc : c ≠ q.mark) (hn : n < 3) (h : Gives q .text (c :: u) out m) :
    Gives q (.marks n) (c :: u) (List.replicate n q.mark ++ out) m := by
  intro rest
  have hmarks : q.read (.marks n) (c :: (u ++ rest)) =
      (q.read .text (c :: (u ++ rest))).map fun r => (List.replicate n q.mark ++ r.1, r.2) := by
    rw [read, read]
    simp only [move, onMarks, beq_iff_eq, hc, hn, if_true, if_false]
    cases q.onText c with
    | fail => rfl
    | go out next =>
      simp only [Move.after, Option.map_map]
      congr 1
      funext r
      simp only [Function.comp, List.append_assoc]
    | stop out eaten => rfl
  have htext := h rest
  rw [List.cons_append] at htext ⊢
  rw [hmarks, htext, Option.map_map]
  congr 1
  funext r
  simp only [Function.comp, List.append_assoc]

theorem read_mark (hn : n < 4) (cs : List Char) : q.read (.marks n) (q.mark :: cs) = q.read (.marks (n + 1)) cs := by
  rw [read]
  simp [move, onMarks, hn]

/-- Three marks end the string; those before them belong to it. -/
theorem read_close (hn : n ≤ 2) (hrest : rest.head? ≠ some q.mark) :
    q.read (.marks n) (List.replicate 3 q.mark ++ rest) = some (List.replicate n q.mark, rest) := by
  have hend : ∀ k, q.read (.marks (k + 3)) rest = some (List.replicate k q.mark, rest) := by
    intro k
    cases rest with
    | nil => simp [read]
    | cons c cs =>
      have hc : c ≠ q.mark := by simpa using hrest
      rw [read]
      simp [move, onMarks, hc, show ¬k + 3 < 3 by omega]
  simp only [List.replicate_succ, List.replicate_zero, List.cons_append, List.nil_append]
  match n, hn with
  | 0, _ => rw [read_mark (by omega), read_mark (by omega), read_mark (by omega), hend 0]
  | 1, _ => rw [read_mark (by omega), read_mark (by omega), read_mark (by omega), hend 1]
  | 2, _ =>
    rw [read_mark (by omega), read_mark (by omega), read]
    simp [move, onMarks, List.replicate_succ]

end Quoting

open Quoting

/-! ### Escapes -/

section
variable {multiline : Bool} {c : Char}

theorem gives_digits {q : Quoting} {ds : List Char} {w x y z : Nat}
    (hds : ds.map hexValue? = [some w, some x, some y, some z])
    (hvalid : (16 * (16 * (16 * w + x) + y) + z).isValidChar) :
    Gives q (.digits 4 0) ds [Char.ofNat (16 * (16 * (16 * w + x) + y) + z)] .text := by
  obtain ⟨a, ds, rfl, ha, hds⟩ := List.map_eq_cons_iff.1 hds
  obtain ⟨b, ds, rfl, hb, hds⟩ := List.map_eq_cons_iff.1 hds
  obtain ⟨c, ds, rfl, hc, hds⟩ := List.map_eq_cons_iff.1 hds
  obtain ⟨d, ds, rfl, hd, hds⟩ := List.map_eq_cons_iff.1 hds
  obtain rfl := List.map_eq_nil_iff.1 hds
  have h₁ : Gives q (.digits 4 0) [a] [] (.digits 3 w) := .step (by simp [move, onDigit, ha])
  have h₂ : Gives q (.digits 3 w) [b] [] (.digits 2 (16 * w + x)) := .step (by simp [move, onDigit, hb])
  have h₃ : Gives q (.digits 2 (16 * w + x)) [c] [] (.digits 1 (16 * (16 * w + x) + y)) :=
      .step (by simp [move, onDigit, hc])
  have h₄ : Gives q (.digits 1 (16 * (16 * w + x) + y)) [d] [Char.ofNat (16 * (16 * (16 * w + x) + y) + z)] .text :=
      .step (by simp [move, onDigit, hd, hvalid])
  exact h₁.append (h₂.append (h₃.append h₄))

theorem hexValue?_fourDigits : ∀ n < 128,
    (Writer.fourDigits n).map hexValue? = [some 0, some 0, some (n / 16), some (n % 16)] := by
  decide

theorem gives_codePoint {q : Quoting} (hc : c.toNat < 128) :
    Gives q .escape (['u'] ++ Writer.fourDigits c.toNat) [c] .text := by
  have hu : Gives q .escape ['u'] [] (.digits 4 0) := .step (by rfl)
  have hvalue : 16 * (16 * (16 * 0 + 0) + c.toNat / 16) + c.toNat % 16 = c.toNat := by omega
  have hdigits := gives_digits (q := q) (hexValue?_fourDigits c.toNat hc) (by rw [hvalue]; exact c.valid)
  rw [hvalue, Char.ofNat_toNat] at hdigits
  exact hu.append hdigits

/-- A character that needs no escape stands for itself. -/
theorem gives_plain {q : Quoting} (hcontrol : Writer.isControl c = false) (hbreak : c ≠ '\n') (hmark : c ≠ q.mark)
    (hback : q.literal = true ∨ c ≠ '\\') : Gives q .text [c] [c] .text := by
  have hplain : q.plain c = true := by
    by_cases htab : c = '\t'
    · simp [plain, htab]
    · have hrange : 0x20 ≤ c.toNat ∧ c.toNat ≠ 0x7F := by
        simpa [Writer.isControl, htab, hbreak] using hcontrol
      simp [plain, hrange, hmark, hback]
  have hescape : ¬(c == '\\' && !q.literal) = true := by
    rcases hback with h | h <;> simp [h]
  refine .step ?_
  simp only [move, onText, beq_iff_eq, hmark, if_false, if_neg hescape, hplain, if_true]

theorem gives_lineFeed {q : Quoting} (hq : q.multiline = true) : Gives q .text ['\n'] ['\n'] .text := by
  refine .step ?_
  simp [move, onText, plain, mark_ne_lineFeed, hq]

theorem gives_backslash {x y : Char} (h : escapes.find? (fun e => e.1 == x) = some (x, y)) :
    Gives ⟨false, multiline⟩ .text ['\\', x] [y] .text := by
  have hback : Gives ⟨false, multiline⟩ .text ['\\'] [] .escape := .step rfl
  exact hback.append (.step (by simp [move, onEscape, h]))

/-- Between double quotes, what the writer puts for a character gives the character. -/
theorem gives_escape (hc : c ≠ '"') :
    Gives ⟨false, multiline⟩ .text ((Writer.escape? multiline c).getD [c]) [c] .text := by
  unfold Writer.escape?
  split
  · rename_i h
    obtain rfl : c = '\\' := by simpa using h
    exact gives_backslash rfl
  split
  · rename_i h
    obtain rfl : c = '\t' := by simpa using h
    exact gives_backslash rfl
  split
  · rename_i h
    obtain rfl : c = '\n' := by simpa using h
    cases multiline with
    | true => exact .step rfl
    | false => exact gives_backslash rfl
  split
  · rename_i h
    obtain rfl : c = '\r' := by simpa using h
    exact gives_backslash rfl
  split
  · rename_i h
    obtain rfl : c = Char.ofNat 0x08 := by rw [← c.ofNat_toNat, beq_iff_eq.1 h]
    exact gives_backslash rfl
  split
  · rename_i h
    obtain rfl : c = Char.ofNat 0x0C := by rw [← c.ofNat_toNat, beq_iff_eq.1 h]
    exact gives_backslash rfl
  split
  · rename_i h
    have hlt : c.toNat < 128 := by
      simp [Writer.isControl] at h
      omega
    have hback : Gives ⟨false, multiline⟩ .text ['\\'] [] .escape := .step rfl
    exact hback.append (gives_codePoint hlt)
  · rename_i hback _ _ _ _ _ hcontrol
    refine gives_plain (Bool.eq_false_iff.2 hcontrol) ?_ hc (.inr (by simpa using hback))
    rename_i hbreak _ _ _
    simpa using hbreak

end

/-! ### The five forms -/

section
variable {cs rest : List Char} {seen : Nat}

/-- On one line every double quote is escaped. -/
theorem read_escaped_line (cs rest : List Char) :
    Quoting.read ⟨false, false⟩ .text (Writer.escaped false 0 cs ++ '"' :: rest) = some (cs, rest) := by
  induction cs with
  | nil => rfl
  | cons c cs ih =>
    rw [Writer.escaped]
    split
    · rename_i hc
      obtain rfl : c = '"' := by simpa using hc
      have hquote : Gives ⟨false, false⟩ .text ['\\', '"'] ['"'] .text := gives_backslash rfl
      exact hquote.read_eq ih
    · rename_i hc
      rw [List.append_assoc]
      exact (gives_escape (by simpa using hc)).read_eq ih

/-- What the writer puts for a character begins with none that ends the string or breaks the line. -/
theorem head_escape {c : Char} (multiline : Bool) (hc : c ≠ '"') :
    ∃ x u, (Writer.escape? multiline c).getD [c] = x :: u ∧ x ≠ '"' ∧ x ≠ '\r' ∧ (x = '\n' → c = '\n') := by
  have hback : ∀ e, Writer.escape? multiline c = some e → ∃ u, e = '\\' :: u := by
    intro e he
    unfold Writer.escape? at he
    repeat' split at he
    all_goals first | cases he; exact ⟨_, rfl⟩ | cases he
  cases h : Writer.escape? multiline c with
  | none =>
    refine ⟨c, [], rfl, hc, ?_, id⟩
    rintro rfl
    cases h
  | some e =>
    obtain ⟨u, rfl⟩ := hback e h
    exact ⟨'\\', u, rfl, by decide, by decide, fun h => absurd h (by decide)⟩

/-- Over several lines two double quotes in a row are left as they are. -/
theorem read_escaped_lines (hrest : rest.head? ≠ some '"') (hseen : seen ≤ 2) (cs : List Char) :
    Quoting.read ⟨false, true⟩ (.marks seen) (Writer.escaped true seen cs ++ (List.replicate 3 '"' ++ rest)) =
      some (List.replicate seen '"' ++ cs, rest) := by
  induction cs generalizing seen with
  | nil =>
    rw [Writer.escaped, List.append_nil, List.nil_append]
    exact read_close hseen hrest
  | cons c cs ih =>
    have htext := ih (Nat.zero_le 2)
    rw [read_marks_zero rfl] at htext
    rw [Writer.escaped]
    split
    · rename_i hc
      obtain rfl : c = '"' := by simpa using hc
      split
      · rename_i hlt
        have hlt : seen < 2 := by simpa using hlt
        refine (read_mark (q := ⟨false, true⟩) (by omega) _).trans ((ih (by omega)).trans ?_)
        rw [List.replicate_succ', List.append_assoc]
        rfl
      · have hquote : Gives ⟨false, true⟩ .text ['\\', '"'] ['"'] .text := gives_backslash rfl
        refine ((hquote.marks (by decide) (by omega)).read_eq htext).trans ?_
        simp
    · rename_i hc
      have hc : c ≠ '"' := by simpa using hc
      obtain ⟨x, u, hpiece, hx, -⟩ := head_escape true hc
      have hescape : Gives ⟨false, true⟩ .text _ [c] .text := gives_escape hc
      rw [hpiece] at hescape ⊢
      rw [List.append_assoc]
      refine ((hescape.marks hx (by omega)).read_eq htext).trans ?_
      simp

/-- Between apostrophes nothing is escaped. -/
theorem read_literal_line (hcs : ∀ c ∈ cs, Writer.isControl c = false ∧ c ≠ '\n' ∧ c ≠ '\'') (rest : List Char) :
    Quoting.read ⟨true, false⟩ .text (cs ++ '\'' :: rest) = some (cs, rest) := by
  induction cs with
  | nil => rfl
  | cons c cs ih =>
    obtain ⟨hcontrol, hbreak, hmark⟩ := hcs c (List.mem_cons_self ..)
    have hplain : Gives ⟨true, false⟩ .text [c] [c] .text := gives_plain hcontrol hbreak hmark (.inl rfl)
    exact hplain.read_eq (ih fun d hd => hcs d (List.mem_cons_of_mem c hd))

theorem read_literal_lines (hrest : rest.head? ≠ some '\'') (hseen : seen ≤ 2)
    (hcs : ∀ c ∈ cs, Writer.isControl c = false) (htriple : Writer.hasTriple '\'' seen cs = false) :
    Quoting.read ⟨true, true⟩ (.marks seen) (cs ++ (List.replicate 3 '\'' ++ rest)) =
      some (List.replicate seen '\'' ++ cs, rest) := by
  induction cs generalizing seen with
  | nil =>
    rw [List.append_nil, List.nil_append]
    exact read_close hseen hrest
  | cons c cs ih =>
    have hcs' : ∀ d ∈ cs, Writer.isControl d = false := fun d hd => hcs d (List.mem_cons_of_mem c hd)
    rw [Writer.hasTriple] at htriple
    split at htriple
    · rename_i hc
      obtain rfl : c = '\'' := by simpa using hc
      simp only [Bool.or_eq_false_iff, decide_eq_false_iff_not] at htriple
      obtain ⟨hlt, htriple⟩ := htriple
      refine (read_mark (q := ⟨true, true⟩) (by omega) _).trans ((ih (by omega) hcs' htriple).trans ?_)
      rw [List.replicate_succ', List.append_assoc]
      rfl
    · rename_i hc
      have hc : c ≠ '\'' := by simpa using hc
      have htext := ih (Nat.zero_le 2) hcs' htriple
      rw [read_marks_zero rfl] at htext
      have hgives : Gives ⟨true, true⟩ .text [c] [c] .text := by
        by_cases hbreak : c = '\n'
        · rw [hbreak]
          exact gives_lineFeed rfl
        · exact gives_plain (hcs c (List.mem_cons_self ..)) hbreak hc (.inl rfl)
      refine ((hgives.marks hc (by omega)).read_eq htext).trans ?_
      simp

/-! ### Strings and keys -/

section
variable {literal : Bool} {u : List Char}

/-- What stands between the marks of a string. -/
def Writer.body (q : Quoting) (cs : List Char) : List Char :=
  if q.literal then cs else Writer.escaped q.multiline 0 cs

theorem readString_three (u : List Char) : readString (mark ⟨literal, true⟩ :: mark ⟨literal, true⟩ ::
    mark ⟨literal, true⟩ :: u) = Quoting.read ⟨literal, true⟩ .text (dropLineBreak u) := by
  cases literal <;> rfl

theorem readString_one (h : ∀ t, u ≠ mark ⟨literal, false⟩ :: mark ⟨literal, false⟩ :: t) :
    readString (mark ⟨literal, false⟩ :: u) = Quoting.read ⟨literal, false⟩ .text u := by
  cases literal with
  | false =>
    rw [mark_escaping] at h ⊢
    rw [readString.eq_def]
    split <;> simp_all
  | true =>
    rw [mark_literal] at h ⊢
    rw [readString.eq_def]
    split <;> simp_all

/-- The break behind three opening marks is the one that is dropped. -/
theorem dropLineBreak_lead (hhead : ∀ x, u.head? = some x → x ≠ '\r' ∧ (x = '\n' → '\n' ∈ cs)) :
    dropLineBreak ((if cs.contains '\n' then ['\n'] else []) ++ u) = u := by
  split
  · rfl
  · rename_i hbreak
    rw [List.nil_append]
    unfold dropLineBreak
    split
    · exact absurd ((hhead '\n' rfl).2 rfl) (by simpa using hbreak)
    · exact absurd rfl (hhead '\r' rfl).1
    · rfl

theorem readString_lines {cs : List Char}
    (hhead : ∀ x, (Writer.body ⟨literal, true⟩ cs).head? = some x → x ≠ '\r' ∧ (x = '\n' → '\n' ∈ cs))
    (hread : Quoting.read ⟨literal, true⟩ (.marks 0) (Writer.body ⟨literal, true⟩ cs ++
      (List.replicate 3 (mark ⟨literal, true⟩) ++ rest)) = some (cs, rest)) :
    readString (Writer.quote ⟨literal, true⟩ cs ++ rest) = some (cs, rest) := by
  have hquote : Writer.quote ⟨literal, true⟩ cs ++ rest = mark ⟨literal, true⟩ :: mark ⟨literal, true⟩ ::
      mark ⟨literal, true⟩ :: ((if cs.contains '\n' then ['\n'] else []) ++ (Writer.body ⟨literal, true⟩ cs ++
        (List.replicate 3 (mark ⟨literal, true⟩) ++ rest))) := by
    simp [Writer.quote, Writer.body, List.replicate_succ]
  rw [hquote, readString_three, dropLineBreak_lead, ← read_marks_zero rfl, hread]
  intro x hx
  cases hbody : Writer.body ⟨literal, true⟩ cs with
  | nil =>
    rw [hbody] at hx
    obtain rfl : mark ⟨literal, true⟩ = x := Option.some.inj hx
    cases literal <;> exact ⟨by decide, fun h => absurd h (by decide)⟩
  | cons y ys =>
    rw [hbody] at hx hhead
    exact hhead x hx

theorem readString_line {cs : List Char} (hrest : rest.head? ≠ some (mark ⟨literal, false⟩))
    (hhead : (Writer.body ⟨literal, false⟩ cs).head? ≠ some (mark ⟨literal, false⟩))
    (hread : Quoting.read ⟨literal, false⟩ .text (Writer.body ⟨literal, false⟩ cs ++ mark ⟨literal, false⟩ :: rest) =
      some (cs, rest)) :
    readString (Writer.quote ⟨literal, false⟩ cs ++ rest) = some (cs, rest) := by
  have hquote : Writer.quote ⟨literal, false⟩ cs ++ rest =
      mark ⟨literal, false⟩ :: (Writer.body ⟨literal, false⟩ cs ++ mark ⟨literal, false⟩ :: rest) := by
    simp [Writer.quote, Writer.body]
  rw [hquote, readString_one, hread]
  intro t ht
  cases hbody : Writer.body ⟨literal, false⟩ cs with
  | nil =>
    rw [hbody] at ht
    injection ht with _ ht
    exact hrest (by rw [ht]; rfl)
  | cons y ys =>
    rw [hbody] at ht hhead
    injection ht with hy _
    exact hhead (by rw [hy]; rfl)

end

theorem head_escaped (multiline : Bool) : ∀ (cs : List Char) (x : Char),
    (Writer.escaped multiline 0 cs).head? = some x →
      x ≠ '\r' ∧ (x = '\n' → '\n' ∈ cs) ∧ (multiline = false → x ≠ '"')
  | [], x, h => by cases h
  | c :: cs, x, h => by
    rw [Writer.escaped] at h
    split at h
    · split at h
      · rename_i hm
        obtain rfl := Option.some.inj h
        simp at hm
        simp [hm]
      · obtain rfl := Option.some.inj h
        simp
    · rename_i hc
      obtain ⟨y, u, hpiece, hquote, hreturn, hfeed⟩ := head_escape multiline (by simpa using hc)
      rw [hpiece] at h
      obtain rfl := Option.some.inj h
      exact ⟨hreturn, fun hx => hfeed hx ▸ List.mem_cons_self .., fun _ => hquote⟩

theorem readString_escaped (hrest : rest.head? ≠ some '"') (multiline : Bool) (cs : List Char) :
    readString (Writer.quote ⟨false, multiline⟩ cs ++ rest) = some (cs, rest) := by
  cases multiline with
  | false =>
    refine readString_line hrest (fun h => ?_) (read_escaped_line cs rest)
    exact (head_escaped false cs '"' h).2.2 rfl rfl
  | true =>
    refine readString_lines (fun x hx => ?_) (read_escaped_lines hrest (Nat.zero_le 2) cs)
    obtain ⟨hreturn, hfeed, -⟩ := head_escaped true cs x hx
    exact ⟨hreturn, hfeed⟩

theorem readString_literal_line (hrest : rest.head? ≠ some '\'')
    (hcs : ∀ c ∈ cs, Writer.isControl c = false ∧ c ≠ '\n' ∧ c ≠ '\'') :
    readString (Writer.quote ⟨true, false⟩ cs ++ rest) = some (cs, rest) := by
  refine readString_line hrest (fun h => ?_) (read_literal_line hcs rest)
  exact (hcs '\'' (List.mem_of_head? h)).2.2 rfl

theorem readString_literal_lines (hrest : rest.head? ≠ some '\'') (hcs : ∀ c ∈ cs, Writer.isControl c = false)
    (htriple : Writer.hasTriple '\'' 0 cs = false) :
    readString (Writer.quote ⟨true, true⟩ cs ++ rest) = some (cs, rest) := by
  refine readString_lines (fun x hx => ⟨?_, fun h => ?_⟩) (read_literal_lines hrest (Nat.zero_le 2) hcs htriple)
  · rintro rfl
    exact absurd (hcs '\r' (List.mem_of_head? hx)) (by decide)
  · exact h ▸ List.mem_of_head? hx

theorem shown_of_any (h : cs.any Writer.isControl = false) : ∀ c ∈ cs, Writer.isControl c = false := by
  intro c hc
  simpa using List.any_eq_false.1 h c hc

theorem ne_of_contains {x : Char} (h : cs.contains x = false) : ∀ c ∈ cs, c ≠ x := by
  rintro c hc rfl
  simp [hc] at h

/-- A string at the end of a line is read back, in whatever form it is written. -/
theorem readString_string (cs rest : List Char) :
    readString (Writer.string cs ++ '\n' :: rest) = some (cs, '\n' :: rest) := by
  have hquote : ('\n' :: rest).head? ≠ some '"' := by simp
  have hmark : ('\n' :: rest).head? ≠ some '\'' := by simp
  simp only [Writer.string, Writer.stringForm]
  split
  · exact readString_escaped hquote false cs
  split
  · rename_i h
    simp only [Bool.and_eq_true, Bool.not_eq_true'] at h
    obtain ⟨⟨hcontrol, hbreak⟩, happ⟩ := h
    exact readString_literal_line hmark fun c hc =>
      ⟨shown_of_any hcontrol c hc, ne_of_contains hbreak c hc, ne_of_contains happ c hc⟩
  split
  · exact readString_escaped hquote true cs
  split
  · rename_i h
    simp only [Bool.and_eq_true, Bool.not_eq_true'] at h
    exact readString_literal_lines hmark (shown_of_any h.1) h.2
  · exact readString_escaped hquote _ cs

/-- A string begins with a mark. -/
theorem head_string (cs : List Char) : ∃ u, Writer.string cs = '"' :: u ∨ Writer.string cs = '\'' :: u := by
  rw [Writer.string, Writer.quote]
  rcases Writer.stringForm cs with ⟨_ | _, _ | _⟩
  · exact ⟨_, .inl rfl⟩
  · exact ⟨_, .inl rfl⟩
  · exact ⟨_, .inr rfl⟩
  · exact ⟨_, .inr rfl⟩

/-! ### Keys -/

/-- A text that may stand as a key without quotes. -/
def Bare (cs : List Char) : Prop := cs ≠ [] ∧ cs.all isBareChar = true

theorem readSimpleKey_bare (h : Bare cs) (hrest : ∀ c, rest.head? = some c → isBareChar c = false) :
    readSimpleKey (cs ++ rest) = some (String.ofList cs, rest) := by
  obtain ⟨hne, hall⟩ := h
  obtain ⟨c, u, rfl⟩ := List.exists_cons_of_ne_nil hne
  have htake : (c :: u ++ rest).takeWhile isBareChar = c :: u := by
    rw [List.takeWhile_append_of_pos (List.all_eq_true.1 hall)]
    cases rest with
    | nil => simp
    | cons d ds => simp [hrest d rfl]
  have hdrop : (c :: u ++ rest).dropWhile isBareChar = rest := by
    rw [List.dropWhile_append_of_pos (List.all_eq_true.1 hall)]
    cases rest with
    | nil => rfl
    | cons d ds => simp [hrest d rfl]
  have hc : isBareChar c = true := List.all_eq_true.1 hall c (List.mem_cons_self ..)
  rw [readSimpleKey.eq_def]
  split
  · rename_i heq
    injection heq with heq _
    rw [heq] at hc
    cases hc
  · rename_i heq
    injection heq with heq _
    rw [heq] at hc
    cases hc
  · simp only [htake, hdrop]

theorem head_bare (h : Bare cs) : ∃ c u, cs = c :: u ∧ c ∉ [' ', '\t', '#', '\n', '\r', '['] := by
  obtain ⟨hne, hall⟩ := h
  obtain ⟨c, u, rfl⟩ := List.exists_cons_of_ne_nil hne
  refine ⟨c, u, rfl, fun hmem => ?_⟩
  have hbare := List.all_eq_true.1 hall c (List.mem_cons_self ..)
  simp only [List.mem_cons, List.not_mem_nil, or_false] at hmem
  rcases hmem with rfl | rfl | rfl | rfl | rfl | rfl <;> cases hbare

/-- A key is read back, in whatever form it is written. -/
theorem readSimpleKey_key (cs rest : List Char) :
    readSimpleKey (Writer.key cs ++ ' ' :: rest) = some (String.ofList cs, ' ' :: rest) := by
  have hescaped : readSimpleKey (Writer.quote ⟨false, false⟩ cs ++ ' ' :: rest) =
      some (String.ofList cs, ' ' :: rest) := by
    have hquote : Writer.quote ⟨false, false⟩ cs ++ ' ' :: rest =
        '"' :: (Writer.escaped false 0 cs ++ '"' :: ' ' :: rest) := by simp [Writer.quote]
    rw [hquote, readSimpleKey, read_escaped_line]
    rfl
  simp only [Writer.key]
  split
  · rename_i h
    simp only [Bool.and_eq_true, Bool.not_eq_true', List.isEmpty_eq_false_iff] at h
    refine readSimpleKey_bare h fun c hc => ?_
    obtain rfl := Option.some.inj hc
    rfl
  split
  · exact hescaped
  split
  · rename_i h
    simp only [Bool.and_eq_true, Bool.not_eq_true', Bool.or_eq_false_iff] at h
    obtain ⟨⟨hcontrol, hbreak⟩, happ⟩ := h
    have hquote : Writer.quote ⟨true, false⟩ cs ++ ' ' :: rest = '\'' :: (cs ++ '\'' :: ' ' :: rest) := by
      simp [Writer.quote]
    rw [hquote, readSimpleKey, read_literal_line fun c hc =>
      ⟨shown_of_any hcontrol c hc, ne_of_contains hbreak c hc, ne_of_contains happ c hc⟩]
    rfl
  · exact hescaped

/-- A key begins with no character that a line may begin with otherwise. -/
theorem head_key (cs : List Char) :
    ∃ c u, Writer.key cs = c :: u ∧ c ∉ [' ', '\t', '#', '\n', '\r', '['] := by
  simp only [Writer.key]
  split
  · rename_i h
    simp only [Bool.and_eq_true, Bool.not_eq_true', List.isEmpty_eq_false_iff] at h
    exact head_bare h
  split
  · exact ⟨_, _, rfl, by decide⟩
  split
  · exact ⟨_, _, rfl, by decide⟩
  · exact ⟨_, _, rfl, by decide⟩

end

end Scriptlet.Toml
