import ChartDialogue.Proofs.Corpus.Names
import Mathlib.Data.Finset.Card
import Mathlib.Order.Interval.Finset.Nat

/-!
The search for a free number. One candidate after another is tried until one is not used, and
nothing limits the search; as different numbers make different candidates, a search that ends looks
at no more than one candidate more than there are used names. Numbers without end always reach a
free one. Those of a machine reach it if they go on long enough, and then it is the same one.
-/
namespace ChartDialogue.Corpus

open Text

/-- Different candidates that are all in a set are no more than its names. -/
theorem le_add_card_of_taken (candidate : Nat → Text) {names : Finset Text} {first last : Nat}
    (hinj : ∀ i, i < last → ∀ j, j < last → candidate i = candidate j → i = j)
    (htaken : ∀ i, first ≤ i → i < last → candidate i ∈ names) : last ≤ first + names.card := by
  have hcard : (Finset.Ico first last).card ≤ names.card := by
    refine Finset.card_le_card_of_injOn candidate (fun i hi => ?_) fun i hi j hj => ?_
    · obtain ⟨hfirst, hlast⟩ := Finset.mem_Ico.mp hi
      exact htaken i hfirst hlast
    · exact hinj i (Finset.mem_Ico.mp hi).2 j (Finset.mem_Ico.mp hj).2
  rw [Nat.card_Ico] at hcard
  omega

theorem numbered_le_add_card (base : Text) {names : Finset Text} {first last : Nat}
    (htaken : ∀ i, first ≤ i → i < last → numbered base i ∈ names) : last ≤ first + names.card :=
  le_add_card_of_taken (numbered base) (fun i _ j _ => numbered_injective base i j) htaken

/-- A search from the number `start` on: `tries` candidates are looked at, and the last of them,
with the number `stop`, is the first that is not used. -/
inductive Search {σ : Type} (used : List Text) (candidate : σ → Text) (next? : σ → Option σ) :
    (start : σ) → (tries : Nat) → (stop : σ) → Prop
  | free {n : σ} (h : candidate n ∉ used) : Search used candidate next? n 1 n
  | taken {n m stop : σ} {tries : Nat} (h : candidate n ∈ used) (hnext : next? n = some m)
      (later : Search used candidate next? m tries stop) :
      Search used candidate next? n (tries + 1) stop

section Searches

variable {σ : Type} {used : List Text} {candidate : σ → Text} {next? : σ → Option σ}
  {start stop : σ} {tries : Nat}

namespace Search

theorem stop_not_mem (h : Search used candidate next? start tries stop) :
    candidate stop ∉ used := by
  induction h with
  | free hfree => exact hfree
  | taken _ _ _ ih => exact ih

/-- A search has one course only. -/
theorem unique {tries' : Nat} {stop' : σ} (h : Search used candidate next? start tries stop)
    (h' : Search used candidate next? start tries' stop') : tries = tries' ∧ stop = stop' := by
  induction h generalizing tries' with
  | free hfree =>
    cases h' with
    | free _ => exact ⟨rfl, rfl⟩
    | taken htaken _ _ => exact absurd htaken hfree
  | taken htaken hnext _ ih =>
    cases h' with
    | free hfree => exact absurd htaken hfree
    | taken _ hnext' later =>
      rw [hnext] at hnext'
      obtain rfl := Option.some.inj hnext'
      obtain ⟨htries, hstop⟩ := ih later
      exact ⟨congrArg (· + 1) htries, hstop⟩

/-- The numbers that a search passes over differ, since the search goes on differently from each. -/
theorem exists_passed (h : Search used candidate next? start tries stop) :
    ∃ passed : List σ, passed.length + 1 = tries ∧ passed.Nodup ∧
      ∀ n ∈ passed, candidate n ∈ used ∧
        ∃ left ≤ tries, Search used candidate next? n left stop := by
  induction h with
  | free _ => exact ⟨[], rfl, List.nodup_nil, fun n hn => absurd hn List.not_mem_nil⟩
  | @taken n m stop tries htaken hnext later ih =>
    obtain ⟨passed, hlength, hnodup, hpassed⟩ := ih
    -- from a number that is met again the search would be longer than it is
    have hnew : n ∉ passed := by
      intro hn
      obtain ⟨-, left, hleft, hsearch⟩ := hpassed n hn
      have hsame := (hsearch.unique (.taken htaken hnext later)).1
      omega
    refine ⟨n :: passed, congrArg (· + 1) hlength, List.nodup_cons.mpr ⟨hnew, hnodup⟩, ?_⟩
    refine List.forall_mem_cons.mpr ⟨⟨htaken, _, Nat.le_refl _, .taken htaken hnext later⟩, ?_⟩
    intro i hi
    obtain ⟨hused, left, hleft, hsearch⟩ := hpassed i hi
    exact ⟨hused, left, by omega, hsearch⟩

/-- However the numbers go on, a search that ends is short. -/
theorem tries_le (hinj : ∀ m n, candidate m = candidate n → m = n)
    (h : Search used candidate next? start tries stop) : tries ≤ used.toFinset.card + 1 := by
  obtain ⟨passed, hlength, hnodup, hpassed⟩ := h.exists_passed
  have hnames : (passed.map candidate).Nodup := hnodup.map fun m n => hinj m n
  have hsubset : (passed.map candidate).toFinset ⊆ used.toFinset := by
    intro id hid
    obtain ⟨n, hn, rfl⟩ := List.mem_map.mp (List.mem_toFinset.mp hid)
    exact List.mem_toFinset.mpr (hpassed n hn).1
  have hcard := Finset.card_le_card hsubset
  rw [List.toFinset_card_of_nodup hnames, List.length_map] at hcard
  omega

/-- The search ends at the first free number, if the numbers go on until there. -/
theorem exists_of_free (number : Nat → σ) {k : Nat} (hfree : candidate (number k) ∉ used)
    (hnext : ∀ i < k, next? (number i) = some (number (i + 1))) :
    ∃ i ≤ k, Search used candidate next? (number 0) (i + 1) (number i) := by
  induction k generalizing number with
  | zero => exact ⟨0, Nat.le_refl 0, .free hfree⟩
  | succ k ih =>
    by_cases htaken : candidate (number 0) ∈ used
    · obtain ⟨i, hi, hsearch⟩ :=
        ih (fun i => number (i + 1)) hfree fun i hi => hnext (i + 1) (by omega)
      exact ⟨i + 1, by omega, .taken htaken (hnext 0 (by omega)) hsearch⟩
    · exact ⟨0, Nat.zero_le _, .free htaken⟩

/-- There is no search if the numbers run out before a free one. -/
theorem false_of_taken (number : Nat → σ) {k : Nat} (hlast : next? (number k) = none)
    (hnext : ∀ i < k, next? (number i) = some (number (i + 1)))
    (htaken : ∀ i ≤ k, candidate (number i) ∈ used)
    (h : Search used candidate next? (number 0) tries stop) : False := by
  induction k generalizing number tries with
  | zero =>
    cases h with
    | free hfree => exact hfree (htaken 0 (Nat.le_refl 0))
    | taken _ hfirst _ =>
      rw [hlast] at hfirst
      exact Option.some_ne_none _ hfirst.symm
  | succ k ih =>
    cases h with
    | free hfree => exact hfree (htaken 0 (Nat.zero_le _))
    | taken _ hfirst later =>
      rw [hnext 0 (by omega)] at hfirst
      obtain rfl := Option.some.inj hfirst
      exact ih (fun i => number (i + 1)) hlast (fun i hi => hnext (i + 1) (by omega))
        (fun i hi => htaken (i + 1) (by omega)) later

/-- Of one more candidates than there are names that they can meet, one is free. -/
theorem exists_of_injOn (names : Finset Text) (number : Nat → σ)
    (hnext : ∀ i < names.card, next? (number i) = some (number (i + 1)))
    (hinj : ∀ i ≤ names.card, ∀ j ≤ names.card,
      candidate (number i) = candidate (number j) → i = j)
    (hnames : ∀ i ≤ names.card, candidate (number i) ∈ used → candidate (number i) ∈ names) :
    ∃ i ≤ names.card, Search used candidate next? (number 0) (i + 1) (number i) := by
  have hfree : ∃ k ≤ names.card, candidate (number k) ∉ used := by
    by_contra hnone
    push Not at hnone
    have hle : names.card + 1 ≤ 0 + names.card := by
      refine le_add_card_of_taken (fun i => candidate (number i)) (fun i hi j hj => ?_)
        fun i _ hi => ?_
      · exact hinj i (Nat.lt_succ_iff.mp hi) j (Nat.lt_succ_iff.mp hj)
      · exact hnames i (Nat.lt_succ_iff.mp hi) (hnone i (Nat.lt_succ_iff.mp hi))
    omega
  obtain ⟨k, hk, hfree⟩ := hfree
  obtain ⟨i, hi, hsearch⟩ := exists_of_free number hfree fun i hi => hnext i (by omega)
  exact ⟨i, by omega, hsearch⟩

end Search

theorem findFree?_eq_some_iff {budget : Nat} :
    findFree? used candidate next? budget start = some stop ↔
      ∃ tries ≤ budget, Search used candidate next? start tries stop := by
  induction budget generalizing start with
  | zero =>
    constructor
    · exact fun h => absurd h.symm (Option.some_ne_none _)
    · rintro ⟨tries, hle, hsearch⟩
      cases hsearch <;> omega
  | succ budget ih =>
    unfold findFree?
    split_ifs with hused
    · have htaken : candidate start ∈ used := List.contains_iff_mem.mp hused
      rw [Option.bind_eq_some_iff]
      constructor
      · rintro ⟨m, hnext, hlater⟩
        obtain ⟨tries, hle, hsearch⟩ := ih.mp hlater
        exact ⟨tries + 1, by omega, .taken htaken hnext hsearch⟩
      · rintro ⟨tries, hle, hsearch⟩
        cases hsearch with
        | free hfree => exact absurd htaken hfree
        | taken _ hnext later => exact ⟨_, hnext, ih.mpr ⟨_, by omega, later⟩⟩
    · have hfree : candidate start ∉ used := fun h => hused (List.contains_iff_mem.mpr h)
      constructor
      · rintro ⟨⟩
        exact ⟨1, by omega, .free hfree⟩
      · rintro ⟨tries, -, hsearch⟩
        cases hsearch with
        | free _ => rfl
        | taken htaken _ _ => exact absurd htaken hfree

/-- Looking at one candidate more than there are used names is as good as a search without limit. -/
theorem findFree?_eq_some_iff_search (hinj : ∀ m n, candidate m = candidate n → m = n) :
    findFree? used candidate next? (used.length + 1) start = some stop ↔
      ∃ tries, Search used candidate next? start tries stop := by
  rw [findFree?_eq_some_iff]
  constructor
  · rintro ⟨tries, -, hsearch⟩
    exact ⟨tries, hsearch⟩
  · rintro ⟨tries, hsearch⟩
    have hle := hsearch.tries_le hinj
    have hcard := used.toFinset_card_le
    exact ⟨tries, by omega, hsearch⟩

end Searches

section Unbounded

/-- Numbers without end. -/
def nextNat (n : Nat) : Option Nat :=
  some (n + 1)

variable {used : List Text} {candidate : Nat → Text} {start stop tries : Nat}

namespace Search

theorem start_le (h : Search used candidate nextNat start tries stop) : start ≤ stop := by
  induction h with
  | free _ => exact Nat.le_refl _
  | taken _ hnext _ ih =>
    obtain rfl := Option.some.inj hnext
    omega

/-- The search passes over used names only. -/
theorem taken_before (h : Search used candidate nextNat start tries stop) :
    ∀ n, start ≤ n → n < stop → candidate n ∈ used := by
  induction h with
  | free _ =>
    intro n hstart hstop
    omega
  | @taken first _ _ _ hfirst hnext _ ih =>
    obtain rfl := Option.some.inj hnext
    intro n hstart hstop
    by_cases hn : n = first
    · rw [hn]
      exact hfirst
    · exact ih n (by omega) hstop

/-- Numbers of another kind serve as well, as long as they go on and make the same candidates. -/
theorem lift {σ : Type} (number : Nat → σ) {candidate' : σ → Text} {next? : σ → Option σ}
    (hnext : ∀ n, start ≤ n → n < stop → next? (number n) = some (number (n + 1)))
    (hcandidate : ∀ n, start ≤ n → n ≤ stop → candidate' (number n) = candidate n)
    (h : Search used candidate nextNat start tries stop) :
    Search used candidate' next? (number start) tries (number stop) := by
  induction h with
  | @free n hfree => exact .free (by rwa [hcandidate n (Nat.le_refl _) (Nat.le_refl _)])
  | @taken n m stop tries htaken hsucc later ih =>
    obtain rfl := Option.some.inj hsucc
    have hle := later.start_le
    refine .taken ?_ (hnext n (Nat.le_refl _) (by omega)) (ih ?_ ?_)
    · rwa [hcandidate n (Nat.le_refl _) (by omega)]
    · exact fun i hi hstop => hnext i (by omega) hstop
    · exact fun i hi hstop => hcandidate i (by omega) hstop

end Search

/-- The bounded search for a free number is the search, if it ends at a free one. -/
theorem exists_search_firstFree {budget : Nat}
    (hfree : candidate (firstFree used candidate budget start) ∉ used) :
    ∃ tries, Search used candidate nextNat start tries (firstFree used candidate budget start) := by
  induction budget generalizing start with
  | zero => exact ⟨1, .free hfree⟩
  | succ budget ih =>
    unfold firstFree at hfree ⊢
    split_ifs at hfree ⊢ with hused
    · obtain ⟨tries, hsearch⟩ := ih hfree
      exact ⟨tries + 1, .taken (List.contains_iff_mem.mp hused) rfl hsearch⟩
    · exact ⟨1, .free hfree⟩

/-- The bounded search for a free number never runs out of candidates. -/
theorem exists_search_numbered (used : List Text) (base : Text) (start : Nat) :
    ∃ tries, Search used (numbered base) nextNat start tries
      (firstFree used (numbered base) used.length start) :=
  exists_search_firstFree (firstFree_not_mem (numbered_injective base) start)

end Unbounded

section Words

variable {base : Text} {n : Nat}

/-- Below the last word the next one has the next number, and unchecked it is the next one anyway.
-/
theorem nextWord?_ofNat {checked : Bool} (h : checked = true → n + 1 < 2 ^ 64) :
    nextWord? checked (UInt64.ofNat n) = some (UInt64.ofNat (n + 1)) := by
  have hlast : checked = true → UInt64.ofNat n ≠ 18446744073709551615 := by
    intro hchecked heq
    have hfits := h hchecked
    have hvalue := congrArg UInt64.toNat heq
    rw [UInt64.toNat_ofNat', Nat.mod_eq_of_lt (by omega)] at hvalue
    have hmax : (18446744073709551615 : UInt64).toNat = 18446744073709551615 := rfl
    omega
  rw [nextWord?, successor?, if_neg fun hstop => hlast hstop.1 hstop.2, UInt64.ofNat_add]
  rfl

theorem nextWord?_eq_some {checked : Bool} (m : UInt64)
    (h : checked = true → m.toNat + 1 < 2 ^ 64) :
    nextWord? checked m = some (UInt64.ofNat (m.toNat + 1)) := by
  have hnext := nextWord?_ofNat h
  rwa [UInt64.ofNat_toNat] at hnext

/-- A checked sum that there is did not run over. -/
theorem lt_of_nextWord? {m k : UInt64} (h : nextWord? true m = some k) :
    m.toNat + 1 < 2 ^ 64 ∧ k = UInt64.ofNat (m.toNat + 1) := by
  have hlast : m ≠ 18446744073709551615 := by
    rintro rfl
    exact Option.some_ne_none k h.symm
  have hvalue : m.toNat ≠ 18446744073709551615 :=
    fun heq => hlast (UInt64.toNat_inj.mp heq)
  have hbound := m.toNat_lt
  have hless : m.toNat + 1 < 2 ^ 64 := by omega
  rw [nextWord?_eq_some m fun _ => hless] at h
  exact ⟨hless, (Option.some.inj h).symm⟩

theorem nextSigned?_ofNat {checked : Bool} (h : checked = true → n + 1 < 2 ^ 31) :
    nextSigned? checked (Int32.ofNat n) = some (Int32.ofNat (n + 1)) := by
  have hlast : checked = true → Int32.ofNat n ≠ Int32.maxValue := by
    intro hchecked heq
    have hfits := h hchecked
    have hvalue := congrArg Int32.toInt heq
    rw [Int32.toInt_ofNat_of_lt (by omega), Int32.toInt_maxValue] at hvalue
    omega
  rw [nextSigned?, successor?, if_neg fun hstop => hlast hstop.1 hstop.2, Int32.ofNat_add]
  rfl

theorem countedName_ofNat (h : n < 2 ^ 64) : countedName (UInt64.ofNat n) = numbered ['N'] n := by
  rw [countedName, UInt64.toNat_ofNat', Nat.mod_eq_of_lt h]

theorem suffixedName_ofNat (base : Text) (h : n < 2 ^ 31) :
    suffixedName base (Int32.ofNat n) = numbered base n := by
  rw [suffixedName, Int32.toInt_ofNat_of_lt h]
  rfl

/-- Different words make different names. -/
theorem countedName_injective (m n : UInt64) (h : countedName m = countedName n) : m = n :=
  UInt64.toNat_inj.mp (numbered_injective ['N'] _ _ h)

/-- Letters with a number are not the letters. -/
theorem numbered_ne (base : Text) (n : Nat) : numbered base n ≠ base := by
  intro h
  have hdigits : Nat.toDigits 10 n = [] := List.append_right_eq_self.mp h
  exact absurd hdigits Nat.toDigits_ne_nil

theorem minus_not_mem_toDigits (n : Nat) : '-' ∉ Nat.toDigits 10 n := by
  intro h
  have hdigit := Nat.isDigit_of_mem_toDigits (by decide) (by decide) h
  exact absurd hdigit (by decide)

theorem toDigits_injective {m n : Nat} (h : Nat.toDigits 10 m = Nat.toDigits 10 n) : m = n :=
  numbered_injective [] m n h

theorem signed_injective {m n : Int} (h : signed m = signed n) : m = n := by
  cases m with
  | ofNat m =>
    cases n with
    | ofNat n => exact congrArg Int.ofNat (toDigits_injective h)
    | negSucc n =>
      have hminus : '-' ∈ signed (Int.negSucc n) := List.mem_cons_self
      rw [← h] at hminus
      exact absurd hminus (minus_not_mem_toDigits m)
  | negSucc m =>
    cases n with
    | ofNat n =>
      have hminus : '-' ∈ signed (Int.negSucc m) := List.mem_cons_self
      rw [h] at hminus
      exact absurd hminus (minus_not_mem_toDigits n)
    | negSucc n =>
      have hvalue := toDigits_injective (List.cons.inj h).2
      rw [Nat.succ.inj hvalue]

theorem suffixedName_injective (base : Text) (m n : Int32)
    (h : suffixedName base m = suffixedName base n) : m = n :=
  Int32.toInt_inj.mp (signed_injective (List.append_cancel_left h))

end Words

end ChartDialogue.Corpus
