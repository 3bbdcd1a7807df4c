import ChartDialogue.Proofs.Distinct
import ChartDialogue.Proofs.Matching.Segmentation
import ChartDialogue.Proofs.Text.Trimmed
import ChartDialogue.Users.State

/-!
The variables of a user to whom only captures are written. They are `star`, `star1`, `star2`, … up to
some number, `star` is the same as `star1`, and every value is a tidy text. Captures of fewer stars
are written over a part of those of more stars, which keeps this.
-/
namespace ChartDialogue

namespace Dict

variable {κ ν : Type} [DecidableEq κ]

/-- Of several values that a list gives to a key the last one counts. -/
theorem get?_ofList (pairs : List (κ × ν)) (k : κ) :
    (ofList pairs).get? k = (pairs.reverse.find? (·.1 = k)).map Prod.snd := by
  induction pairs using List.reverseRecOn with
  | nil => rfl
  | append_singleton pairs p ih =>
    rw [ofList_concat, List.reverse_append, List.reverse_singleton, List.singleton_append,
      List.find?_cons]
    by_cases hk : p.1 = k
    · rw [← hk, get?_set_self, decide_eq_true rfl]
      rfl
    · rw [get?_set_of_ne _ _ (Ne.symm hk), decide_eq_false hk]
      exact ih

end Dict

namespace Matching

open Text

variable {tokens : List Token} {cut : Cut} {texts : List Text}

theorem ne_nil_of_mem_starSegments {R : Text → Text → Prop} {segment : List Text}
    (h : List.Forall₂ (Token.Takes R) tokens cut) (hsegment : segment ∈ starSegments tokens cut) :
    segment ≠ [] := by
  obtain ⟨⟨token, taken⟩, hmem, rfl⟩ := List.mem_map.mp hsegment
  obtain ⟨hzip, hstar⟩ := List.mem_filter.mp hmem
  obtain rfl : token = .star := of_decide_eq_true hstar
  exact List.forall₂_zip h hzip

theorem mem_of_mem_starSegments {segment : List Text} (h : segment ∈ starSegments tokens cut) :
    segment ∈ cut := by
  obtain ⟨⟨token, taken⟩, hmem, rfl⟩ := List.mem_map.mp h
  exact (List.of_mem_zip (List.mem_filter.mp hmem).1).2

/-- What stars stand for is made of words of the input with single spaces between them. -/
theorem tidy_of_mem_captured {R : Text → Text → Prop} {input t : Text}
    (h : IsCut R tokens (words input) cut) (ht : t ∈ captured tokens cut) : Tidy t := by
  rw [captured_eq_starSegments] at ht
  obtain ⟨segment, hsegment, rfl⟩ := List.mem_map.mp ht
  refine tidy_join (ne_nil_of_mem_starSegments h.takes hsegment) fun w hw => ?_
  have hword : w ∈ words input := by
    rw [← h.covers]
    exact List.mem_flatten_of_mem (mem_of_mem_starSegments hsegment) hw
  exact unbroken_of_mem_words hword

/-- A matcher that finds what the keys compile to captures tidy texts. -/
theorem Matcher.exists_tidy_capture {m : Matcher} (h : Alike m .empty) (input pattern : Text) :
    ∃ texts, (m.capture input pattern).1 = nameCaptures texts ∧ ∀ t ∈ texts, Tidy t := by
  rw [capture_eq h, capture_fst, program_empty]
  cases hprogram : Program.compile? ⟨normalize pattern, .capture⟩ with
  | none => exact ⟨[], rfl, fun t ht => absurd ht List.not_mem_nil⟩
  | some p =>
    refine ⟨_, rfl, fun t ht => ?_⟩
    rw [Option.bind_some] at ht
    cases hcut : p.run (normalize input) with
    | none =>
      rw [hcut] at ht
      exact absurd ht List.not_mem_nil
    | some cut =>
      rw [hcut, Option.map_some, Option.getD_some] at ht
      exact tidy_of_mem_captured (isCut_of_greedyCut? hcut) ht

end Matching

open Matching Text

/-- Variables that are `star` and `star1`, `star2`, … without a gap, with tidy values. -/
structure Numbered (d : Dict Text Text) : Prop where
  named : ∀ name value, d.get? name = some value → name = starKey ∨ ∃ n, name = starName (n + 1)
  first : d.get? starKey = d.get? (starName 1)
  gapless : ∀ n, d.contains (starName (n + 2)) = true → d.contains (starName (n + 1)) = true
  tidy : ∀ name value, d.get? name = some value → Tidy value

theorem numbered_empty : Numbered Dict.empty where
  named := fun _ _ h => absurd h.symm (Option.some_ne_none _)
  first := rfl
  gapless := fun _ h => h
  tidy := fun _ _ h => absurd h.symm (Option.some_ne_none _)

section Captures

variable {d : Dict Text Text} {texts : List Text} {name value : Text}

theorem starName_injective {m n : Nat} (h : starName m = starName n) : m = n :=
  append_toDigits_inj.mp h

/-- The first text stands under `star`, and every text under `star` with its number. -/
theorem mem_nameCaptures :
    (name, value) ∈ nameCaptures texts ↔
      (name = starKey ∧ texts.head? = some value) ∨
        ∃ i, name = starName (i + 1) ∧ texts[i]? = some value := by
  cases texts with
  | nil => simp [nameCaptures]
  | cons first rest =>
    rw [nameCaptures, List.mem_cons, Prod.mk.injEq, List.mem_mapIdx, List.head?_cons,
      Option.some.injEq, eq_comm (a := first)]
    refine or_congr_right ⟨?_, ?_⟩
    · rintro ⟨i, hi, heq⟩
      obtain ⟨rfl, rfl⟩ := Prod.mk.inj heq
      exact ⟨i, rfl, List.getElem?_eq_getElem hi⟩
    · rintro ⟨i, rfl, hvalue⟩
      obtain ⟨hi, rfl⟩ := List.getElem?_eq_some_iff.mp hvalue
      exact ⟨i, hi, rfl⟩

theorem get?_setAll_of_mem_nameCaptures (h : (name, value) ∈ nameCaptures texts) :
    (d.setAll (nameCaptures texts)).get? name = some value :=
  Dict.get?_setAll_of_mem d (nodup_nameCaptures texts) h

/-- A name that no capture has keeps its value. -/
theorem get?_setAll_of_no_capture (h : ∀ value, (name, value) ∉ nameCaptures texts) :
    (d.setAll (nameCaptures texts)).get? name = d.get? name := by
  refine Dict.get?_setAll_of_not_mem d fun hname => ?_
  obtain ⟨⟨found, value⟩, hmem, rfl⟩ := List.mem_map.mp hname
  exact h value hmem

theorem get?_setAll_starKey :
    (d.setAll (nameCaptures texts)).get? starKey = texts.head?.or (d.get? starKey) := by
  cases hfirst : texts.head? with
  | some first => exact get?_setAll_of_mem_nameCaptures (mem_nameCaptures.mpr (Or.inl ⟨rfl, hfirst⟩))
  | none =>
    refine get?_setAll_of_no_capture fun value hmem => ?_
    rcases mem_nameCaptures.mp hmem with ⟨-, hvalue⟩ | ⟨i, hi, -⟩
    · rw [hfirst] at hvalue
      exact absurd hvalue.symm (Option.some_ne_none _)
    · exact absurd hi.symm (starName_ne_starKey (i + 1))

/-- A star that is not captured keeps its old value. -/
theorem get?_setAll_starName (i : Nat) :
    (d.setAll (nameCaptures texts)).get? (starName (i + 1)) =
      texts[i]?.or (d.get? (starName (i + 1))) := by
  cases htext : texts[i]? with
  | some text =>
    exact get?_setAll_of_mem_nameCaptures (mem_nameCaptures.mpr (Or.inr ⟨i, rfl, htext⟩))
  | none =>
    refine get?_setAll_of_no_capture fun value hmem => ?_
    rcases mem_nameCaptures.mp hmem with ⟨hkey, -⟩ | ⟨j, hj, hvalue⟩
    · exact starName_ne_starKey (i + 1) hkey
    · obtain rfl : i = j := Nat.succ.inj (starName_injective hj)
      rw [htext] at hvalue
      exact absurd hvalue.symm (Option.some_ne_none _)

/-- A value after captures were written is one of the captured texts or was there before. -/
theorem mem_or_of_get?_setAll (h : (d.setAll (nameCaptures texts)).get? name = some value) :
    ((name = starKey ∨ ∃ n, name = starName (n + 1)) ∧ value ∈ texts) ∨ d.get? name = some value := by
  by_cases hkey : name = starKey
  · rw [hkey, get?_setAll_starKey] at h
    rw [hkey]
    rcases Option.or_eq_some_iff.mp h with h | ⟨-, h⟩
    · exact Or.inl ⟨Or.inl rfl, List.mem_of_mem_head? h⟩
    · exact Or.inr h
  · by_cases hname : ∃ n, name = starName (n + 1)
    · obtain ⟨n, rfl⟩ := hname
      rw [get?_setAll_starName] at h
      rcases Option.or_eq_some_iff.mp h with h | ⟨-, h⟩
      · exact Or.inl ⟨Or.inr ⟨n, rfl⟩, List.mem_of_getElem? h⟩
      · exact Or.inr h
    · rw [get?_setAll_of_no_capture] at h
      · exact Or.inr h
      · intro text hmem
        rcases mem_nameCaptures.mp hmem with ⟨hstar, -⟩ | ⟨i, hi, -⟩
        · exact hkey hstar
        · exact hname ⟨i, hi⟩

/-- The variables stay numbered when tidy captures are written over them: they are then numbered up
to the greater of the two numbers of stars. -/
theorem Numbered.setAll (h : Numbered d) (htidy : ∀ t ∈ texts, Tidy t) :
    Numbered (d.setAll (nameCaptures texts)) where
  named := by
    intro name value hget
    rcases mem_or_of_get?_setAll hget with ⟨hname, -⟩ | hold
    · exact hname
    · exact h.named name value hold
  first := by rw [get?_setAll_starKey, get?_setAll_starName 0, h.first, List.head?_eq_getElem?]
  gapless := by
    intro n hn
    rw [Dict.contains, get?_setAll_starName, Option.isSome_or, Bool.or_eq_true] at hn ⊢
    -- the star before a new one is new, and the star before an old one is old or replaced
    rcases hn with hnew | hold
    · have hlt : n + 1 < texts.length := by simpa using hnew
      exact Or.inl (by simpa using Nat.lt_of_succ_lt hlt)
    · exact Or.inr (h.gapless n hold)
  tidy := by
    intro name value hget
    rcases mem_or_of_get?_setAll hget with ⟨-, hmem⟩ | hold
    · exact htidy value hmem
    · exact h.tidy name value hold

end Captures
end ChartDialogue
