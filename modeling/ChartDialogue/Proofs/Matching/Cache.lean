import ChartDialogue.Matching.Request
import ChartDialogue.Proofs.Distinct
import Mathlib.Data.List.DropRight
import Mathlib.Tactic.SplitIfs

/-!
What a matcher has cached does not show in its answers. Two matchers are alike if they find the
same program for every key. To test or to capture leaves a matcher alike to what it was, so a
matcher that has served any requests finds what the keys compile to. It has cached a program for
each of the keys that the requests since the last clearing have used, and no other.
-/
namespace ChartDialogue.Matching.Matcher

open Text

variable {m m' : Matcher}

def Alike (m m' : Matcher) : Prop :=
  ∀ key, (m.program key).1 = (m'.program key).1

theorem Alike.symm (h : Alike m m') : Alike m' m :=
  fun key => (h key).symm

theorem Alike.trans {m'' : Matcher} (h : Alike m m') (h' : Alike m' m'') : Alike m m'' :=
  fun key => (h key).trans (h' key)

/-- The program of a key is the cached one, or compiled now. -/
theorem program_fst (m : Matcher) (key : Key) :
    (m.program key).1 = (m.programs.lookup key).getD (Program.compile? key) := by
  unfold program
  cases m.programs.lookup key <;> rfl

theorem program_empty (key : Key) : (empty.program key).1 = Program.compile? key := rfl

theorem alike_program (m : Matcher) (key : Key) : Alike (m.program key).2 m := by
  intro other
  rw [program_fst, program_fst]
  unfold program
  cases hcached : m.programs.lookup key with
  | some cached => rfl
  | none =>
    rw [List.lookup_cons]
    cases hkey : other == key with
    | true =>
      obtain rfl := eq_of_beq hkey
      rw [hcached]
      rfl
    | false => rfl

theorem test_fst (m : Matcher) (folding : Folding) (input pattern : Text) :
    (m.test folding input pattern).1 =
      if (folding.apply (normalize pattern)).isEmpty then
        (folding.apply (normalize input)).isEmpty
      else if hasWildcard (folding.apply (normalize pattern)) then
        (m.program ⟨folding.apply (normalize pattern), .test folding⟩).1.any fun p =>
          (p.run (folding.apply (normalize input))).isSome
      else containsWords (folding.apply (normalize input)) (folding.apply (normalize pattern)) := by
  unfold test
  dsimp only
  split_ifs <;> rfl

theorem capture_fst (m : Matcher) (input pattern : Text) :
    (m.capture input pattern).1 =
      nameCaptures (((m.program ⟨normalize pattern, .capture⟩).1.bind fun p =>
        (p.run (normalize input)).map (captured p.tokens)).getD []) :=
  rfl

/-- Matchers that find the same programs test alike. -/
theorem test_eq (h : Alike m m') (folding : Folding) (input pattern : Text) :
    (m.test folding input pattern).1 = (m'.test folding input pattern).1 := by
  rw [test_fst, test_fst, h]

/-- They capture alike, too. -/
theorem capture_eq (h : Alike m m') (input pattern : Text) :
    (m.capture input pattern).1 = (m'.capture input pattern).1 := by
  rw [capture_fst, capture_fst, h]

theorem alike_test (m : Matcher) (folding : Folding) (input pattern : Text) :
    Alike (m.test folding input pattern).2 m := by
  unfold test
  dsimp only
  split_ifs with hempty hwild
  · exact fun _ => rfl
  · exact alike_program m _
  · exact fun _ => rfl

theorem alike_capture (m : Matcher) (input pattern : Text) :
    Alike (m.capture input pattern).2 m :=
  alike_program m _

/-- A matcher that finds what the keys compile to still does so after one more request. -/
theorem alike_serve (h : Alike m empty) (r : Request) : Alike (m.serve r).2 empty := by
  cases r with
  | test folding input pattern => exact (alike_test m folding input pattern).trans h
  | capture input pattern => exact (alike_capture m input pattern).trans h
  | clear => exact fun _ => rfl

def after (requests : List Request) : Matcher :=
  requests.foldl (fun m r => (m.serve r).2) empty

/-- Whatever was asked of a matcher, it finds the programs that a new one compiles. -/
theorem alike_after (requests : List Request) : Alike (after requests) empty := by
  have hrun : ∀ m, Alike m empty →
      Alike (requests.foldl (fun m r => (m.serve r).2) m) empty := by
    induction requests with
    | nil => exact fun m h => h
    | cons r requests ih => exact fun m h => ih _ (alike_serve h r)
  exact hrun empty fun _ => rfl

theorem program_after (requests : List Request) (key : Key) :
    ((after requests).program key).1 = Program.compile? key := by
  rw [alike_after requests key, program_empty]

theorem after_concat (requests : List Request) (r : Request) :
    after (requests ++ [r]) = ((after requests).serve r).2 := by
  rw [after, List.foldl_append]
  rfl

def keys (m : Matcher) : List Key :=
  m.programs.map Prod.fst

theorem mem_keys_iff {key : Key} : key ∈ m.keys ↔ (m.programs.lookup key).isSome := by
  rw [keys, List.mem_map, List.lookup_isSome_iff]
  exact exists_congr fun p => and_congr_right' (eq_comm.trans beq_iff_eq.symm)

/-- A key is cached once. -/
theorem keys_program (m : Matcher) (key : Key) :
    (m.program key).2.keys = if key ∈ m.keys then m.keys else key :: m.keys := by
  have hmem : key ∈ m.keys ↔ (m.programs.lookup key).isSome := mem_keys_iff
  unfold program
  cases hcached : m.programs.lookup key with
  | some cached =>
    rw [hcached] at hmem
    exact (if_pos (hmem.mpr rfl)).symm
  | none =>
    rw [hcached] at hmem
    exact (if_neg fun h => Bool.false_ne_true (hmem.mp h)).symm

theorem isWildcard_ofWord (word : Text) :
    (Token.ofWord word).isWildcard ↔ word = ['*'] ∨ word = ['_'] := by
  unfold Token.ofWord
  split_ifs with hstar hgap
  · exact iff_of_true rfl (Or.inl hstar)
  · exact iff_of_true rfl (Or.inr hgap)
  · exact iff_of_false Bool.false_ne_true (not_or.mpr ⟨hstar, hgap⟩)

/-- A pattern has a wildcard if one of its words is one. -/
theorem hasWildcard_iff (pattern : Text) :
    hasWildcard pattern ↔ ['*'] ∈ words pattern ∨ ['_'] ∈ words pattern := by
  rw [hasWildcard, tokens, List.any_map, List.any_eq_true]
  simp only [Function.comp_apply, isWildcard_ofWord, and_or_left, exists_or, exists_eq_right]

/-- The key whose program a request uses. A test uses one if its pattern, as it is compared, has a
wildcard. -/
def Request.key? : Request → Option Key
  | .test folding _ pattern =>
    if ['*'] ∈ words (folding.apply (normalize pattern)) ∨
        ['_'] ∈ words (folding.apply (normalize pattern)) then
      some ⟨folding.apply (normalize pattern), .test folding⟩
    else none
  | .capture _ pattern => some ⟨normalize pattern, .capture⟩
  | .clear => none

def Request.isClear : Request → Bool
  | .test _ _ _ => false
  | .capture _ _ => false
  | .clear => true

/-- The keys that the requests since the last clearing have used, as often as they used them. -/
def usedKeys (requests : List Request) : List Key :=
  (requests.rtakeWhile fun r => !r.isClear).filterMap Request.key?

theorem usedKeys_concat (requests : List Request) (r : Request) :
    usedKeys (requests ++ [r]) =
      if r.isClear then [] else usedKeys requests ++ r.key?.toList := by
  unfold usedKeys
  rw [List.rtakeWhile_concat]
  cases r.isClear with
  | true => rfl
  | false =>
    rw [Bool.not_false, if_pos rfl, if_neg Bool.false_ne_true, List.filterMap_append,
      List.filterMap_cons, List.filterMap_nil]
    cases r.key? <;> rfl

/-- A request adds the key that it uses, unless it is there. -/
theorem keys_serve (m : Matcher) {r : Request} (hr : r.isClear = false) :
    (m.serve r).2.keys = r.key?.elim m.keys fun key =>
      if key ∈ m.keys then m.keys else key :: m.keys := by
  cases r with
  | test folding input pattern =>
    unfold serve test Request.key?
    simp only [← hasWildcard_iff]
    split_ifs with hempty hwild
    -- An empty pattern has no wildcard.
    · rw [List.isEmpty_iff.mp hempty] at hwild
      exact absurd hwild Bool.false_ne_true
    · rfl
    · exact keys_program m _
    · rfl
  | capture input pattern => exact keys_program m _
  | clear => exact absurd hr.symm Bool.false_ne_true

/-- By induction over the requests: each adds at most the key that it uses, and to clear takes away
all. -/
theorem keys_after (requests : List Request) :
    (after requests).keys = (usedKeys requests).eraseDups.reverse := by
  induction requests using List.reverseRecOn with
  | nil => rfl
  | append_singleton requests r ih =>
    rw [after_concat, usedKeys_concat]
    cases hr : r.isClear with
    | true =>
      cases r with
      | clear => rfl
      | test => exact absurd hr Bool.false_ne_true
      | capture => exact absurd hr Bool.false_ne_true
    | false =>
      rw [keys_serve _ hr, ih]
      cases r.key? with
      | none => rw [Option.elim_none, if_neg Bool.false_ne_true, Option.toList_none, List.append_nil]
      | some key =>
        rw [Option.elim_some, if_neg Bool.false_ne_true, Option.toList_some, eraseDups_concat]
        simp only [List.mem_reverse, List.mem_eraseDups]
        split_ifs
        · rfl
        · rw [List.reverse_append, List.reverse_singleton, List.singleton_append]

/-- Whatever a matcher was asked before, it answers as a new one does, and it has cached as many
programs as different keys were used since its cache was last cleared. -/
theorem serve_after (requests : List Request) (r : Request) :
    ((after requests).serve r).1 = (empty.serve r).1 ∧
      ((after requests).serve r).2.cachedCount =
        (usedKeys (requests ++ [r])).eraseDups.length := by
  have halike := alike_after requests
  constructor
  · cases r with
    | test folding input pattern => exact congrArg Answer.hit (test_eq halike folding input pattern)
    | capture input pattern => exact congrArg Answer.captures (capture_eq halike input pattern)
    | clear => rfl
  · rw [← after_concat, ← List.length_reverse, ← keys_after, keys, List.length_map, cachedCount]

end ChartDialogue.Matching.Matcher
