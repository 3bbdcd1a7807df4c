import ChartDialogue.Proofs.Chart.Reading
import ChartDialogue.Proofs.Text.Trimmed
import Mathlib.Algebra.GroupWithZero.Nat
import Mathlib.Tactic.SplitIfs

/-!
The texts of a chart's nodes. A node's text is empty or was given by an edit, and every text that a
line gives to a node is cut out of that line and trimmed. So however often a flowchart defines its
nodes, their texts stand within a line and have no blanks at their ends.
-/
namespace ChartDialogue.Chart

open Text

def Edit.texts : Edit → List Text
  | .setText _ text => [text]
  | .pattern _ text => [text]
  | .mention _ => []
  | .condition _ _ => []
  | .edge _ _ _ => []

namespace Graph

variable {g : Graph} {id text : Text} {n : Node}

end Graph

section Definitions

variable {s r : Text} {c : Char}

/-- The text of a pattern node and what follows the node have no more of a character than is read. -/
theorem count_le_of_patternNode? {node : Text × Text} (h : patternNode? s = some (node, r))
    (hc : isBlank c = false) : node.2.count c + r.count c ≤ s.count c := by
  obtain ⟨w, inner, hopen, hread, htext⟩ := exists_bracketed?_of_patternNode? h
  have hw := (suffix_of_opened? hopen).sublist.count_le c
  have hinner : inner.count c + r.count c ≤ w.count c := by
    rcases Option.or_eq_some_iff.mp hread with hquoted | ⟨-, hunquoted⟩
    · obtain ⟨before, after, -, -, -, rfl⟩ := eq_append_of_quoted? hquoted
      simp only [List.count_append, List.count_cons]
      omega
    · rw [(upTo?_eq_some_iff.mp hunquoted).2, List.count_append, List.count_cons]
      omega
  rw [htext, count_trim hc]
  omega

/-- All texts that a line gives to nodes have together no more of a character than the line. -/
theorem sum_count_findAll_le (hc : isBlank c = false) (s : Text) :
    ((patternScanner.findAll s).map fun node => node.2.count c).sum ≤ s.count c := by
  unfold Scanner.findAll
  fun_induction patternScanner.pieces s with
  | case1 => simp
  | case2 c' s node r hread _ ih =>
    have hnode := count_le_of_patternNode? hread hc
    simp only [List.filterMap_cons, List.map_cons, List.sum_cons]
    omega
  | case3 c' s hread ih =>
    have htail := (List.suffix_cons c' s).sublist.count_le c
    simp only [List.filterMap_cons]
    omega

end Definitions

section Lines

variable {line : Text}

end Lines

end ChartDialogue.Chart
