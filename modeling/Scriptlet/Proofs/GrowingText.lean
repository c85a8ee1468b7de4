import Scriptlet.Proofs.LineFreeScan
import Scriptlet.Proofs.Seams

/-!
# Texts that go on

Text added at the end takes nothing back: with the standard delimiters the regions and all decorations of a
text come first among those of any text that it begins (`rebuild_prefix`), wherever the seam is. A region is
closed by two characters that stand in the text, and up to there the scan sees only what was there before
(`LineFree.scanFrom_append`); what it shows is told by its fragment and by the lines that start in it. The
seam may lie inside a marker, behind an opener or between the two halves of a break, as only an opener
without its closer and the line behind the last break can change.
-/

namespace Scriptlet

/-! ### Pairs of characters -/

namespace Pair
variable {x y : Char} {text rest : List Char} {start i : Nat}

theorem isAt_append (h : i + 1 < text.length) : isAt x y (text ++ rest) i = isAt x y text i := by
  rw [isAt, isAt, List.getElem?_append_left (by omega), List.getElem?_append_left h]

theorem next_append (h : next x y text start = some i) : next x y (text ++ rest) start = some i := by
  obtain ⟨hat, hle, hleast⟩ := next_eq_some.1 h
  have hlt := lt_of_isAt hat
  refine next_eq_some.2 ⟨by rw [isAt_append hlt, hat], hle, fun k hk hki => ?_⟩
  rw [isAt_append (by omega)]
  exact hleast k hk hki

end Pair

/-! ### Scanning -/

namespace LineFree
variable {text rest : List Char} {i : Nat}

theorem bodyStart_append (h : i + 2 < text.length) : bodyStart (text ++ rest) i = bodyStart text i := by
  rw [bodyStart, bodyStart, List.getElem?_append_left h]

theorem kindAt_append (h : i < text.length) : kindAt (text ++ rest) i = kindAt text i := by
  rw [kindAt, kindAt, List.getElem?_append_left (by omega)]

/-- What has been closed stays as it is. -/
theorem scanFrom_append (text rest : List Char) (p : Nat) :
    (scanFrom text p).1 <+: (scanFrom (text ++ rest) p).1 := by
  fun_induction scanFrom text p with
  | case1 p hi => exact List.nil_prefix
  | case2 p i hi hj => exact List.nil_prefix
  | case3 p i hi j hj _ ih =>
    obtain ⟨hat, hle, -⟩ := Pair.next_eq_some.1 hj
    have hlt := Pair.lt_of_isAt hat
    have hbody := le_bodyStart text i
    have hall : (scanFrom (text ++ rest) p).1 = ⟨i, j + 2, kindAt text i⟩ :: (scanFrom (text ++ rest) (j + 2)).1 := by
      rw [scanFrom_eq, Pair.next_append hi]
      show (resume (text ++ rest) (bodyStart (text ++ rest) i) (some ⟨i, kindAt (text ++ rest) i⟩)).1 = _
      rw [bodyStart_append (by omega), kindAt_append (by omega), resume_some, Pair.next_append hj]
      rfl
    rw [hall]
    exact List.cons_prefix_cons.2 ⟨rfl, ih⟩

end LineFree

/-! ### Decorations -/

namespace View
variable {v : View}

/-- The regions and the decorations of a text are the first of those of any text that it begins. -/
theorem rebuild_prefix (hv : v.Reachable) (hd : v.delimiters = .standard) (before text : List Char) :
    (scan v.delimiters ⟨before⟩).regions <+: (scan v.delimiters ⟨before ++ text⟩).regions ∧
      (v.rebuild ⟨before⟩).1.decorations.lines <+: (v.rebuild ⟨before ++ text⟩).1.decorations.lines ∧
      (v.rebuild ⟨before⟩).1.decorations.marks <+: (v.rebuild ⟨before ++ text⟩).1.decorations.marks ∧
      (v.rebuild ⟨before⟩).1.decorations.unhighlighted <+:
        (v.rebuild ⟨before ++ text⟩).1.decorations.unhighlighted := by
  have hnever : v.delimiters.NeverEmpty := hd ▸ Delimiters.neverEmpty_standard
  have hin := (ordered_scan hnever ⟨before⟩).1.within
  have hle : ∀ r ∈ (scan v.delimiters ⟨before⟩).regions, r.start ≤ r.stop := fun r hr =>
    Nat.le_of_lt (hin r hr).2.1
  have hregions : (scan v.delimiters ⟨before⟩).regions <+: (scan v.delimiters ⟨before ++ text⟩).regions := by
    rw [hd, (scan_standard ⟨before⟩).1, (scan_standard ⟨before ++ text⟩).1]
    exact LineFree.scanFrom_append before text 0
  refine ⟨hregions, ?_⟩
  obtain ⟨more, hmore⟩ := hregions
  rw [lines_rebuild hnever, lines_rebuild hnever, marks_rebuild hv hnever, marks_rebuild hv hnever,
    unhighlighted_rebuild hv hnever, unhighlighted_rebuild hv hnever, ← hmore]
  refine ⟨?_, ?_, ?_⟩
  · rw [List.flatMap_append, List.flatMap_congr fun r hr => Region.lineMarks_front (hin r hr).2.2]
    exact List.prefix_append _ _
  · have hsame : ∀ r ∈ (scan v.delimiters ⟨before⟩).regions,
        r.inlineMarks v.settings ++ r.tokenMarks ⟨before ++ text⟩ v.answer =
          r.inlineMarks v.settings ++ r.tokenMarks ⟨before⟩ v.answer := by
      intro r hr
      rw [Region.tokenMarks_front (hle r hr) (hin r hr).2.2]
    rw [List.flatMap_append, List.flatMap_congr hsame]
    exact List.prefix_append _ _
  · have hsame : ∀ r ∈ (scan v.delimiters ⟨before⟩).regions,
        (r.failure? ⟨before ++ text⟩ v.answer).isSome = (r.failure? ⟨before⟩ v.answer).isSome := by
      intro r hr
      rw [Region.failure?_front (hle r hr) (hin r hr).2.2]
    rw [List.filter_append, List.filter_congr hsame]
    exact List.prefix_append _ _

/-- A block over two lines, a refused inline region, and half a break. -/
def halfBroken : List Char := "<%a\r\n%> <%b%>\r".toList

theorem rebuild_prefix_refusing : refusing.Reachable ∧ refusing.delimiters = .standard ∧
    (scan .standard ⟨halfBroken ++ "\n<%c%>".toList⟩).regions = [⟨0, 7, .block⟩, ⟨8, 13, .inline⟩, ⟨15, 20, .block⟩] ∧
    (refusing.rebuild ⟨halfBroken⟩).1.decorations.lines.map (·.lineStart) = [0, 5] ∧
    (scan refusing.delimiters ⟨halfBroken⟩).regions <+:
      (scan refusing.delimiters ⟨halfBroken ++ "\n<%c%>".toList⟩).regions ∧
    (refusing.rebuild ⟨halfBroken⟩).1.decorations.lines <+:
      (refusing.rebuild ⟨halfBroken ++ "\n<%c%>".toList⟩).1.decorations.lines ∧
    (refusing.rebuild ⟨halfBroken⟩).1.decorations.marks <+:
      (refusing.rebuild ⟨halfBroken ++ "\n<%c%>".toList⟩).1.decorations.marks ∧
    (refusing.rebuild ⟨halfBroken⟩).1.decorations.unhighlighted <+:
      (refusing.rebuild ⟨halfBroken ++ "\n<%c%>".toList⟩).1.decorations.unhighlighted := by
  have hset : refusing.Reachable := .setUp _ (.inl rfl)
  have hregions : (scan .standard ⟨halfBroken ++ "\n<%c%>".toList⟩).regions =
      [⟨0, 7, .block⟩, ⟨8, 13, .inline⟩, ⟨15, 20, .block⟩] := by cbv
  have hlines : (refusing.rebuild ⟨halfBroken⟩).1.decorations.lines.map (·.lineStart) = [0, 5] := by cbv
  exact ⟨hset, rfl, hregions, hlines, rebuild_prefix hset rfl halfBroken "\n<%c%>".toList⟩

end View

end Scriptlet
