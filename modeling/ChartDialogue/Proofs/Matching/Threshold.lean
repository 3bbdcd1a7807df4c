import ChartDialogue.Corpus.Category
import ChartDialogue.Proofs.Matching.Closest
import Mathlib.Data.List.Induction

/-!
The threshold of the most similar candidate. Which candidate is the closest one does not depend on the
threshold, which only decides whether it is taken. The search is a single pass that keeps the best
candidate so far, and an equal one that comes later does not take its place.
-/
namespace ChartDialogue.Matching

variable {l : List Nat} {i m : Nat}

/-- One step of the pass: the place and the score that are kept after another score, given with its
place. -/
def keepGreater (best : Option (Nat × Nat)) (entry : Nat × Nat) : Option (Nat × Nat) :=
  match best with
  | none => some (entry.2, entry.1)
  | some (i, top) => if top < entry.1 then some (entry.2, entry.1) else some (i, top)

/-- The first greatest number by its place. -/
theorem firstMax?_eq_some_iff :
    firstMax? l = some (i, m) ↔
      l[i]? = some m ∧ (∀ n ∈ l, n ≤ m) ∧ ∀ j n, j < i → l[j]? = some n → n < m := by
  constructor
  · intro h
    obtain ⟨before, after, rfl, rfl, hbefore, hafter⟩ := firstMax?_eq_some h
    have hgreatest : IsFirstGreatest id (before ++ m :: after) m := ⟨before, after, rfl, hbefore, hafter⟩
    refine ⟨by simp, fun n => hgreatest.le, fun j n hj hn => hbefore n ?_⟩
    rw [List.getElem?_append_left hj] at hn
    exact List.mem_of_getElem? hn
  · rintro ⟨hm, hgreatest, hfirst⟩
    obtain ⟨hi, rfl⟩ := List.getElem?_eq_some_iff.mp hm
    have hsplit : l.take i ++ l[i] :: l.drop (i + 1) = l := by
      rw [← List.drop_eq_getElem_cons hi, List.take_append_drop]
    have hlength : (l.take i).length = i := List.length_take_of_le (Nat.le_of_lt hi)
    have hbefore : ∀ n ∈ l.take i, n < l[i] := by
      intro n hn
      obtain ⟨j, hj, rfl⟩ := List.mem_take_iff_getElem.mp hn
      exact hfirst j _ (by omega) (List.getElem?_eq_getElem _)
    have hafter : ∀ n ∈ l.drop (i + 1), n ≤ l[i] := fun n hn => hgreatest n (List.mem_of_mem_drop hn)
    have hmax := firstMax?_append hbefore hafter
    rwa [hsplit, hlength] at hmax

theorem firstMax?_map_eq_some_iff {α : Type} {score : α → Nat} {items : List α} :
    firstMax? (items.map score) = some (i, m) ↔
      ∃ a, items[i]? = some a ∧ score a = m ∧ (∀ b ∈ items, score b ≤ m) ∧
        ∀ j b, j < i → items[j]? = some b → score b < m := by
  rw [firstMax?_eq_some_iff, List.forall_mem_map, List.getElem?_map, Option.map_eq_some_iff]
  constructor
  · rintro ⟨⟨a, ha, hm⟩, hgreatest, hfirst⟩
    refine ⟨a, ha, hm, hgreatest, fun j b hj hb => hfirst j (score b) hj ?_⟩
    rw [List.getElem?_map, hb, Option.map_some]
  · rintro ⟨a, ha, hm, hgreatest, hfirst⟩
    refine ⟨⟨a, ha, hm⟩, hgreatest, fun j n hj hn => ?_⟩
    rw [List.getElem?_map, Option.map_eq_some_iff] at hn
    obtain ⟨b, hb, rfl⟩ := hn
    exact hfirst j b hj hb

/-- What a step keeps is the first greatest score of what was seen. -/
theorem firstMax?_concat (l : List Nat) (n : Nat) :
    firstMax? (l ++ [n]) = keepGreater (firstMax? l) (n, l.length) := by
  cases hbest : firstMax? l with
  | none =>
    rw [firstMax?_eq_none hbest]
    rfl
  | some best =>
    obtain ⟨i, top⟩ := best
    obtain ⟨before, after, rfl, rfl, hbefore, hafter⟩ := firstMax?_eq_some hbest
    unfold keepGreater
    dsimp only
    split_ifs with htop
    · refine firstMax?_append (fun k hk => ?_) (by simp)
      have hfirst : IsFirstGreatest id (before ++ top :: after) top := ⟨before, after, rfl, hbefore, hafter⟩
      exact Nat.lt_of_le_of_lt (hfirst.le hk) htop
    · rw [List.append_assoc, List.cons_append]
      refine firstMax?_append hbefore fun k hk => ?_
      rcases List.mem_append.mp hk with hk | hk
      · exact hafter k hk
      · rw [List.mem_singleton.mp hk]
        exact Nat.not_lt.mp htop

/-- By induction from the end: so a whole pass keeps the first greatest score of all. -/
theorem foldl_keepGreater (l : List Nat) : l.zipIdx.foldl keepGreater none = firstMax? l := by
  induction l using List.reverseRecOn with
  | nil => rfl
  | append_singleton l n ih =>
    rw [List.zipIdx_append, List.foldl_append, ih, firstMax?_concat, Nat.zero_add]
    rfl

section Choice

variable {input : Text} {candidates : List Text} {threshold : Nat}

theorem closest?_eq_some_iff :
    closest? input candidates threshold = some i ↔
      ∃ m, firstMax? (candidates.map (similarity input)) = some (i, m) ∧ threshold ≤ m := by
  unfold closest?
  cases hbest : firstMax? (candidates.map (similarity input)) with
  | none => simp
  | some best =>
    obtain ⟨j, top⟩ := best
    dsimp only
    split_ifs with htop
    · simp [htop]
    · simp; omega

/-- Nothing is close enough if every candidate is below the threshold. -/
theorem closest?_eq_none_iff :
    closest? input candidates threshold = none ↔
      ∀ p ∈ candidates, similarity input p < threshold := by
  unfold closest?
  cases hbest : firstMax? (candidates.map (similarity input)) with
  | none =>
    have hnil := List.map_eq_nil_iff.mp (firstMax?_eq_none hbest)
    simp [hnil]
  | some best =>
    obtain ⟨j, top⟩ := best
    obtain ⟨htop, hgreatest, -⟩ := firstMax?_eq_some_iff.mp hbest
    dsimp only
    rw [List.forall_mem_map] at hgreatest
    obtain ⟨p, hp, rfl⟩ := List.mem_map.mp (List.mem_of_getElem? htop)
    split_ifs with hthreshold
    · simp only [false_iff, not_forall, Nat.not_lt]
      exact ⟨p, hp, hthreshold⟩
    · refine ⟨fun _ q hq => ?_, fun _ => rfl⟩
      exact Nat.lt_of_le_of_lt (hgreatest q hq) (Nat.not_le.mp hthreshold)

/-- A single pass that keeps the better of two finds the same candidate. -/
theorem closest?_eq_foldl :
    closest? input candidates threshold =
      (((candidates.map (similarity input)).zipIdx.foldl keepGreater none).filter
        (threshold ≤ ·.2)).map Prod.fst := by
  rw [foldl_keepGreater]
  unfold closest?
  cases firstMax? (candidates.map (similarity input)) with
  | none => rfl
  | some best =>
    by_cases htop : threshold ≤ best.2
    · simp [htop, Option.filter]
    · simp [htop, Option.filter]

end Choice

/-- No category is chosen if the scores of all are below the threshold, and otherwise the first one with
the greatest score. So what is chosen at a threshold is chosen at every lower one as well. The choice
is what a single pass over the scores keeps, if it reaches the threshold. -/
theorem closest?_ranked (input : Text) (categories : List Category) (threshold : Nat) :
    let score (c : Category) := similarity input c.pattern
    let chosen? (t : Nat) := closest? input (categories.map (·.pattern)) t
    (chosen? threshold = none ↔ ∀ c ∈ categories, score c < threshold) ∧
    (∀ i, chosen? threshold = some i ↔ ∃ c, categories[i]? = some c ∧ threshold ≤ score c ∧
      (∀ d ∈ categories, score d ≤ score c) ∧
      ∀ j d, j < i → categories[j]? = some d → score d < score c) ∧
    (∀ t ≤ threshold, ∀ i, chosen? threshold = some i → chosen? t = some i) ∧
    chosen? threshold =
      (((categories.map score).zipIdx.foldl keepGreater none).filter (threshold ≤ ·.2)).map Prod.fst := by
  intro score chosen?
  have hscores : (categories.map (·.pattern)).map (similarity input) = categories.map score :=
    List.map_map
  refine ⟨?_, fun i => ?_, fun t ht i h => ?_, ?_⟩
  · exact closest?_eq_none_iff.trans List.forall_mem_map
  · rw [closest?_eq_some_iff, hscores]
    constructor
    · rintro ⟨_, hbest, htop⟩
      obtain ⟨c, hc, rfl, hgreatest, hfirst⟩ := firstMax?_map_eq_some_iff.mp hbest
      exact ⟨c, hc, htop, hgreatest, hfirst⟩
    · rintro ⟨c, hc, htop, hgreatest, hfirst⟩
      exact ⟨score c, firstMax?_map_eq_some_iff.mpr ⟨c, hc, rfl, hgreatest, hfirst⟩, htop⟩
  · obtain ⟨top, hbest, htop⟩ := closest?_eq_some_iff.mp h
    exact closest?_eq_some_iff.mpr ⟨top, hbest, Nat.le_trans ht htop⟩
  · rw [← hscores]
    exact closest?_eq_foldl

/-- Two categories that hold the input, and one that has nothing of it. -/
def greetings : List Category :=
  [⟨"bye".toList, [], []⟩, ⟨"hello there".toList, [], []⟩, ⟨"hello world".toList, [], []⟩]

theorem closest?_ranked_greetings :
    70 ≤ 80 ∧ closest? "hello".toList (greetings.map (·.pattern)) 80 = some 1 ∧
    closest? "hello".toList (greetings.map (·.pattern)) 70 = some 1 ∧
    closest? "hello".toList (greetings.map (·.pattern)) 81 = none := by
  obtain ⟨-, hchosen, hlower, -⟩ := closest?_ranked "hello".toList greetings 80
  obtain ⟨hnone, -⟩ := closest?_ranked "hello".toList greetings 81
  have hfirst : ∀ j d, j < 1 → greetings[j]? = some d →
      similarity "hello".toList d.pattern < similarity "hello".toList "hello there".toList := by
    intro j d hj hd
    obtain rfl : j = 0 := by omega
    obtain rfl := Option.some.inj hd
    decide
  have hthere : closest? "hello".toList (greetings.map (·.pattern)) 80 = some 1 :=
    (hchosen 1).mpr ⟨⟨"hello there".toList, [], []⟩, rfl, by decide, by decide, hfirst⟩
  exact ⟨by decide, hthere, hlower 70 (by decide) 1 hthere, hnone.mpr (by decide)⟩

end ChartDialogue.Matching
