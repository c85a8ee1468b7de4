import Scriptlet.Proofs.SegmentTiling

/-!
# The walk with an explicit stack

Segments can be found without recursion: a stack holds the tokens that are open, each with the index
of its next child and a cursor, and every turn either opens the next child of the token on top or
takes that token off. A turn has no result where an index is outside the array or the bounds of a clamp
are out of order. Whatever the array holds, no turn of a walk from the root is without a result, the
walk comes to an end, and it yields what the recursion over the tokens gives (`walkOf_ofTree`).

The induction is that of `tokensFrom`, which hops over the array as the frames do. It carries the frames
below along unchanged (`walk_frame`); the one invariant is that the cursor of a frame is not beyond
its end.
-/

namespace Scriptlet.Segment

/-- A token that is open. -/
structure Frame where
  node : Nat
  /-- The index of the next child. -/
  child : Nat
  /-- What lies before has been yielded. -/
  cursor : Nat
  stop : Nat
  cls : Option String
  deriving DecidableEq, Repr

/-- As `clamp`, without a result if the bounds are out of order. -/
def clamp? (lo hi n : Nat) : Option Nat :=
  if lo ≤ hi then some (clamp lo hi n) else none

theorem clamp?_of_le {lo hi : Nat} (h : lo ≤ hi) (n : Nat) : clamp? lo hi n = some (clamp lo hi n) := by
  simp [clamp?, h]

/-- One turn with the frame `f` on top of `fs`: what it yields, and the stack after it. -/
def turn? (styles : StyleTable) (nodes : Array TokenNode) (f : Frame) (fs : List Frame) :
    Option (List Segment × List Frame) := do
  let node ← nodes[f.node]?
  if f.child < min node.subtreeEnd nodes.size then
    let child ← nodes[f.child]?
    let start ← clamp? f.cursor f.stop child.start
    let stop ← clamp? start f.stop child.stop
    let opened : Frame := ⟨f.child, f.child + 1, start, stop, (styles.resolve child.tags).or f.cls⟩
    let left : Frame := { f with child := max child.subtreeEnd (f.child + 1), cursor := stop }
    some (between f.cursor start f.cls, opened :: left :: fs)
  else some (between f.cursor f.stop f.cls, fs)

/-- The walk from the stack comes to an end, no turn of it being without a result, and yields the
segments. -/
inductive Walk (styles : StyleTable) (nodes : Array TokenNode) : List Frame → List Segment → Prop
  | done : Walk styles nodes [] []
  | turn {f fs fs' out segments} (h : turn? styles nodes f fs = some (out, fs'))
      (rest : Walk styles nodes fs' segments) : Walk styles nodes (f :: fs) (out ++ segments)

/-- The stack before the first turn over a text of `length` bytes. -/
def rootFrames? (styles : StyleTable) (length : Nat) (t : TokenTree) : Option (List Frame) :=
  match t.root? with
  | none => some []
  | some root => do
    let start := min root.start length
    let stop ← clamp? start length root.stop
    some [⟨0, 1, start, stop, styles.resolve root.tags⟩]

/-- The walk over the whole tree comes to an end and yields the segments. -/
def WalkOf (styles : StyleTable) (length : Nat) (t : TokenTree) (segments : List Segment) : Prop :=
  ∃ fs, rootFrames? styles length t = some fs ∧ Walk styles t.nodes fs segments

section
variable {styles : StyleTable} {nodes : Array TokenNode}

/-- A walk yields one list of segments only. -/
theorem Walk.unique {fs : List Frame} {xs ys : List Segment} (hx : Walk styles nodes fs xs)
    (hy : Walk styles nodes fs ys) : xs = ys := by
  induction hx generalizing ys with
  | done => cases hy; rfl
  | turn h _ ih =>
    cases hy with
    | turn h' rest =>
      rw [h] at h'
      cases h'
      rw [ih rest]

theorem WalkOf.unique {length : Nat} {t : TokenTree} {xs ys : List Segment}
    (hx : WalkOf styles length t xs) (hy : WalkOf styles length t ys) : xs = ys := by
  obtain ⟨fs, hfs, hx⟩ := hx
  obtain ⟨fs', hfs', hy⟩ := hy
  rw [hfs] at hfs'
  cases hfs'
  exact hx.unique hy

/-! ### What a turn does -/

theorem turn?_open (styles : StyleTable) {f : Frame} (fs : List Frame) {node : TokenNode}
    (hnode : nodes[f.node]? = some node)
    (hchild : f.child < node.subtreeEnd) (hsize : f.child < nodes.size) (hle : f.cursor ≤ f.stop) :
    turn? styles nodes f fs =
      let child := nodes[f.child]
      let start := clamp f.cursor f.stop child.start
      let stop := clamp start f.stop child.stop
      some (between f.cursor start f.cls,
        ⟨f.child, f.child + 1, start, stop, (styles.resolve child.tags).or f.cls⟩ ::
          { f with child := max child.subtreeEnd (f.child + 1), cursor := stop } :: fs) := by
  have hlt : f.child < min node.subtreeEnd nodes.size := Nat.lt_min.2 ⟨hchild, hsize⟩
  rw [turn?, hnode]
  show (if f.child < min node.subtreeEnd nodes.size then _ else _) = _
  rw [if_pos hlt, Array.getElem?_eq_getElem hsize]
  simp only [Option.bind_eq_bind, Option.bind_some, clamp?_of_le hle, clamp?_of_le (clamp_le hle _)]

theorem turn?_close (styles : StyleTable) {f : Frame} (fs : List Frame) {node : TokenNode}
    (hnode : nodes[f.node]? = some node)
    (hchild : ¬(f.child < node.subtreeEnd ∧ f.child < nodes.size)) :
    turn? styles nodes f fs = some (between f.cursor f.stop f.cls, fs) := by
  have hlt : ¬ f.child < min node.subtreeEnd nodes.size := fun h => hchild (Nat.lt_min.1 h)
  rw [turn?, hnode]
  show (if f.child < min node.subtreeEnd nodes.size then _ else _) = _
  rw [if_neg hlt]

/-! ### The walk over one frame -/

/-- A frame yields what its remaining children and the gaps between them give, and what the frames below
yield follows. -/
theorem walk_frame (styles : StyleTable) (i subtreeEnd : Nat) {f : Frame} {fs : List Frame} {node : TokenNode}
    {segments : List Segment} (hnode : nodes[f.node]? = some node) (hi : f.child = i)
    (hend : node.subtreeEnd = subtreeEnd) (hle : f.cursor ≤ f.stop) (rest : Walk styles nodes fs segments) :
    Walk styles nodes (f :: fs)
      (ofChildren styles f.cursor f.stop f.cls (TokenTree.tokensFrom nodes i subtreeEnd) ++ segments) := by
  induction i, subtreeEnd using TokenTree.tokensFrom.induct nodes generalizing f fs node segments with
  | case1 i stop h n ihChild =>
    rename_i ihRest
    subst hi hend
    rw [TokenTree.tokensFrom, dif_pos h]
    simp only [ofChildren, ofToken, List.append_assoc]
    have hopen := turn?_open styles fs hnode h.1 h.2 hle
    have hs := clamp_le hle nodes[f.child].start
    refine .turn hopen ?_
    refine ihChild (f := ⟨f.child, f.child + 1, _, _, _⟩) (Array.getElem?_eq_getElem h.2) rfl rfl
      (le_clamp ..) ?_
    exact ihRest (f := { f with child := _, cursor := _ }) hnode rfl rfl (clamp_le hs _) rest
  | case2 i stop h =>
    subst hi hend
    rw [TokenTree.tokensFrom, dif_neg h]
    simp only [ofChildren]
    exact .turn (turn?_close styles fs hnode h) rest

/-- The walk over any array comes to an end and yields the segments of its tokens. -/
theorem walkOf_ofTree (styles : StyleTable) (length : Nat) (t : TokenTree) :
    WalkOf styles length t (ofTree styles length t) := by
  unfold WalkOf rootFrames? ofTree TokenTree.token?
  cases hroot : t.root? with
  | none => exact ⟨[], rfl, .done⟩
  | some root =>
    have hle : min root.start length ≤ length := Nat.min_le_right ..
    have hwalk := walk_frame styles 1 root.subtreeEnd
      (f := ⟨0, 1, min root.start length, clamp (min root.start length) length root.stop,
        styles.resolve root.tags⟩) hroot rfl rfl (le_clamp ..) .done
    rw [List.append_nil] at hwalk
    exact ⟨_, by simp [clamp?_of_le hle], hwalk⟩

end

end Scriptlet.Segment
