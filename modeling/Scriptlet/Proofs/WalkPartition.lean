import Scriptlet.Proofs.SegmentWalk

/-!
# The walk divides the range of the root

The frames on a stack abut: what the one on top has left ends where the one below goes on (`Stacked`). This is what
makes a turn find its indices in the array and the bounds of its clamps in order, whatever the array holds, and a
turn keeps it while it yields what lies between the cursors on top before and after (`Stacked.turn`). So at any
time what has been yielded goes without a gap from the start of the root to the cursor on top (`Stacked.turns`),
and at the end of the walk to the end of the root (`walk_partition`).
-/

namespace Scriptlet.Segment

/-- The frames are of tokens in the array, and what they have left lies between two offsets: for each what is from
its cursor to its end, and for the one below what comes behind. -/
def Stacked (nodes : Array TokenNode) (start stop : Nat) : List Frame → Prop
  | [] => start = stop
  | f :: fs => f.node < nodes.size ∧ f.cursor = start ∧ start ≤ f.stop ∧ Stacked nodes f.stop stop fs

/-- Some turns lead from one stack to another, and yield the segments on the way. -/
inductive Turns (styles : StyleTable) (nodes : Array TokenNode) :
    List Frame → List Segment → List Frame → Prop
  | done (fs) : Turns styles nodes fs [] fs
  | turn {f fs fs' fs'' out segments} (h : turn? styles nodes f fs = some (out, fs'))
      (rest : Turns styles nodes fs' segments fs'') : Turns styles nodes (f :: fs) (out ++ segments) fs''

section
variable {styles : StyleTable} {nodes : Array TokenNode} {f : Frame} {fs fs' : List Frame} {start stop : Nat}
  {segments : List Segment}

theorem Walk.turns (h : Walk styles nodes fs segments) : Turns styles nodes fs segments [] := by
  induction h with
  | done => exact .done []
  | turn h _ ih => exact .turn h ih

/-- A turn has a result, yields what lies between two cursors, and leaves frames that abut. -/
theorem Stacked.turn (styles : StyleTable) (h : Stacked nodes start stop (f :: fs)) :
    ∃ out fs' cursor, turn? styles nodes f fs = some (out, fs') ∧ Tiles start cursor out ∧
      Stacked nodes cursor stop fs' := by
  obtain ⟨hnode, rfl, hle, hrest⟩ := h
  have hget := Array.getElem?_eq_getElem hnode
  by_cases hchild : f.child < nodes[f.node].subtreeEnd ∧ f.child < nodes.size
  · obtain ⟨hend, hsize⟩ := hchild
    have hopen := turn?_open styles fs hget hend hsize hle
    have hstart := le_clamp f.cursor f.stop nodes[f.child].start
    have hstart' := clamp_le hle nodes[f.child].start
    -- the child goes on top, and its parent goes on where the child ends
    exact ⟨_, _, _, hopen, tiling_between hstart _, hsize, rfl, le_clamp .., hnode, rfl,
      clamp_le hstart' _, hrest⟩
  · exact ⟨_, _, _, turn?_close styles fs hget hchild, tiling_between hle _, hrest⟩

theorem Stacked.turns (h : Stacked nodes start stop fs) (run : Turns styles nodes fs segments fs') :
    ∃ cursor, Tiles start cursor segments ∧ Stacked nodes cursor stop fs' := by
  induction run generalizing start with
  | done fs => exact ⟨start, rfl, h⟩
  | turn hturn _ ih =>
    obtain ⟨out, fs', cursor, hturn', hout, hfs'⟩ := h.turn styles
    rw [hturn] at hturn'
    cases hturn'
    obtain ⟨last, hsegments, hlast⟩ := ih hfs'
    refine ⟨last, ?_, hlast⟩
    rw [Tiles, List.map_append]
    exact hout.append hsegments

theorem stacked_root (styles : StyleTable) (length : Nat) {t : TokenTree} {root : TokenNode}
    (h : t.root? = some root) : ∃ fs, rootFrames? styles length t = some fs ∧
      Stacked t.nodes (min root.start length) (max (min root.start length) (min root.stop length)) fs := by
  have hle : min root.start length ≤ length := Nat.min_le_right ..
  have hsize : 0 < t.nodes.size := (Array.getElem?_eq_some_iff.1 h).1
  refine ⟨[⟨0, 1, min root.start length, clamp (min root.start length) length root.stop, styles.resolve root.tags⟩],
    ?_, hsize, rfl, le_clamp .., rfl⟩
  rw [rootFrames?, h]
  simp [clamp?_of_le hle]

end

/-- Over any array and text the walk comes to an end, and on its way no index is outside the array and no clamp has
its bounds out of order. What it yields goes without a gap through the range of the root within the text. -/
theorem walk_partition (styles : StyleTable) (length : Nat) (t : TokenTree) :
    ∃ fs, rootFrames? styles length t = some fs ∧
      Walk styles t.nodes fs (ofTree styles length t) ∧
      (∀ out f fs', Turns styles t.nodes fs out (f :: fs') → ∃ next, turn? styles t.nodes f fs' = some next) ∧
      (t.nodes = #[] → ofTree styles length t = []) ∧
      ∀ root, t.nodes[0]? = some root →
        Tiles (min root.start length) (max (min root.start length) (min root.stop length))
          (ofTree styles length t) := by
  obtain ⟨fs, hfs, hwalk⟩ := walkOf_ofTree styles length t
  refine ⟨fs, hfs, hwalk, ?_, ?_, ?_⟩
  · intro out f fs' hrun
    cases hroot : t.root? with
    | none =>
      -- without a root there is no frame to start with
      rw [rootFrames?, hroot] at hfs
      cases hfs
      cases hrun
    | some root =>
      obtain ⟨_, hfs', hstacked⟩ := stacked_root styles length hroot
      cases hfs.symm.trans hfs'
      obtain ⟨cursor, -, hframes⟩ := hstacked.turns hrun
      obtain ⟨out', fs'', -, hturn, -⟩ := hframes.turn styles
      exact ⟨_, hturn⟩
  · intro hnone
    have hroot : t.root? = none := by simp [TokenTree.root?, hnone]
    rw [ofTree, TokenTree.token?, hroot]
    rfl
  · intro root hroot
    obtain ⟨_, hfs', hstacked⟩ := stacked_root styles length hroot
    cases hfs.symm.trans hfs'
    obtain ⟨cursor, htiles, hend⟩ := hstacked.turns hwalk.turns
    cases hend
    exact htiles

end Scriptlet.Segment
