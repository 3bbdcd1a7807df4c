import ChartDialogue.Proofs.Corpus.Exported
import ChartDialogue.Proofs.Corpus.FreeNumber

/-!
How the names of a written flowchart are found on a machine. The numbers behind letters and those of
the counter are words, which run over; they do not if there are few enough used names and the
counter is low enough. The three ways to make a name share one set of used names, so the names of
one flowchart differ. Their numbers do not exceed the number of nodes: the machine gives the same
names as numbers without end do, and these are the names that are written.
-/
namespace ChartDialogue.Corpus

open Text Chart

/-- How a name is found for a text, and what is used afterwards. A text without letters is named `N`
with a number that follows the last such; letters are a name of their own if they are free, and get
a number if not. -/
inductive Allocator.Finds (checked : Bool) (a : Allocator) (text : Text) :
    (tries : Nat) → Text × Allocator → Prop
  | counted {first n : UInt64} {tries : Nat} (hletters : initials text = [])
      (hfirst : nextWord? checked a.counter = some first)
      (search : Search a.used countedName (nextWord? checked) first tries n) :
      Finds checked a text tries (countedName n, ⟨countedName n :: a.used, n⟩)
  | plain (hletters : initials text ≠ []) (hfree : initials text ∉ a.used) :
      Finds checked a text 1 (initials text, ⟨initials text :: a.used, a.counter⟩)
  | suffixed {n : Int32} {tries : Nat} (hletters : initials text ≠ [])
      (hused : initials text ∈ a.used)
      (search : Search a.used (suffixedName (initials text)) (nextSigned? checked) 1 tries n) :
      Finds checked a text tries
        (suffixedName (initials text) n, ⟨suffixedName (initials text) n :: a.used, a.counter⟩)

section Finds

variable {checked : Bool} {a : Allocator} {text : Text} {tries : Nat} {found : Text × Allocator}

theorem fresh?_eq_some_iff :
    a.fresh? checked text = some found ↔ ∃ tries, a.Finds checked text tries found := by
  unfold Allocator.fresh?
  dsimp only
  split_ifs with hempty hfree
  · have hletters := List.isEmpty_iff.mp hempty
    simp only [Option.bind_eq_bind, Option.bind_eq_some_iff, Option.pure_def, Option.some.injEq,
      findFree?_eq_some_iff_search countedName_injective]
    constructor
    · rintro ⟨first, hfirst, n, ⟨tries, hsearch⟩, rfl⟩
      exact ⟨tries, .counted hletters hfirst hsearch⟩
    · rintro ⟨tries, hfinds⟩
      cases hfinds with
      | counted _ hfirst hsearch => exact ⟨_, hfirst, _, ⟨tries, hsearch⟩, rfl⟩
      | plain hsome _ => exact absurd hletters hsome
      | suffixed hsome _ _ => exact absurd hletters hsome
  · have hletters : initials text ≠ [] := fun h => hempty (List.isEmpty_iff.mpr h)
    have hnew : initials text ∉ a.used := by simpa using hfree
    rw [Option.some.injEq]
    constructor
    · rintro rfl
      exact ⟨1, .plain hletters hnew⟩
    · rintro ⟨tries, hfinds⟩
      cases hfinds with
      | counted hnone _ _ => exact absurd hnone hletters
      | plain _ _ => rfl
      | suffixed _ hused _ => exact absurd hused hnew
  · have hletters : initials text ≠ [] := fun h => hempty (List.isEmpty_iff.mpr h)
    have hused : initials text ∈ a.used := by simpa using hfree
    simp only [Option.bind_eq_bind, Option.bind_eq_some_iff, Option.pure_def, Option.some.injEq,
      findFree?_eq_some_iff_search (suffixedName_injective (initials text))]
    constructor
    · rintro ⟨n, ⟨tries, hsearch⟩, rfl⟩
      exact ⟨tries, .suffixed hletters hused hsearch⟩
    · rintro ⟨tries, hfinds⟩
      cases hfinds with
      | counted hnone _ _ => exact absurd hnone hletters
      | plain _ hnew => exact absurd hused hnew
      | suffixed _ _ hsearch => exact ⟨_, ⟨tries, hsearch⟩, rfl⟩

namespace Allocator.Finds

theorem tries_le (h : a.Finds checked text tries found) :
    tries ≤ a.used.toFinset.card + 1 := by
  cases h with
  | counted _ _ search => exact search.tries_le countedName_injective
  | plain _ _ => exact Nat.le_add_left 1 _
  | suffixed _ _ search => exact search.tries_le (suffixedName_injective (initials text))

theorem new (h : a.Finds checked text tries found) : found.1 ∉ a.used := by
  cases h with
  | counted _ _ search => exact search.stop_not_mem
  | plain _ hfree => exact hfree
  | suffixed _ _ search => exact search.stop_not_mem

/-- A name is found in one way. -/
theorem unique {tries' : Nat} {found' : Text × Allocator} (h : a.Finds checked text tries found)
    (h' : a.Finds checked text tries' found') : tries = tries' ∧ found = found' := by
  cases h with
  | counted hletters hfirst search =>
    cases h' with
    | counted _ hfirst' search' =>
      rw [hfirst] at hfirst'
      obtain rfl := Option.some.inj hfirst'
      obtain ⟨rfl, rfl⟩ := search.unique search'
      exact ⟨rfl, rfl⟩
    | plain hsome _ => exact absurd hletters hsome
    | suffixed hsome _ _ => exact absurd hletters hsome
  | plain hletters hfree =>
    cases h' with
    | counted hnone _ _ => exact absurd hnone hletters
    | plain _ _ => exact ⟨rfl, rfl⟩
    | suffixed _ hused _ => exact absurd hused hfree
  | suffixed hletters hused search =>
    cases h' with
    | counted hnone _ _ => exact absurd hnone hletters
    | plain _ hfree => exact absurd hused hfree
    | suffixed _ _ search' =>
      obtain ⟨rfl, rfl⟩ := search.unique search'
      exact ⟨rfl, rfl⟩

end Allocator.Finds

end Finds

/-- One to three capital letters and behind them, it may be, a number in decimal. -/
structure IsComposed (id letters : Text) (number : Option Nat) : Prop where
  eq : id = letters ++ (number.map (Nat.toDigits 10)).getD []
  ne_nil : letters ≠ []
  length_le : letters.length ≤ 3
  isUpper : ∀ c ∈ letters, c.isUpper = true

theorem IsComposed.isName {id letters : Text} {number : Option Nat}
    (h : IsComposed id letters number) : IsName id := by
  rw [h.eq]
  cases number with
  | none =>
    rw [Option.map_none, Option.getD_none, List.append_nil]
    exact isName_of_isUpper h.ne_nil h.isUpper
  | some n => exact isName_numbered h.ne_nil h.isUpper n

theorem isComposed_counted (n : Nat) : IsComposed (numbered ['N'] n) ['N'] (some n) where
  eq := rfl
  ne_nil := List.cons_ne_nil _ _
  length_le := Nat.le_add_left 1 2
  isUpper := List.forall_mem_singleton.mpr rfl

theorem isComposed_initials {text : Text} (h : initials text ≠ []) (number : Option Nat) :
    IsComposed (initials text ++ (number.map (Nat.toDigits 10)).getD []) (initials text)
      number where
  eq := rfl
  ne_nil := h
  length_le := by
    rw [initials, List.length_map]
    exact List.length_take_le 3 _
  isUpper := fun _ hc => isUpper_of_mem_initials hc

/-- A name is found if the numbers suffice for as many candidates as there are used names. -/
theorem Allocator.exists_finds (checked : Bool) (a : Allocator) (text : Text)
    (hcounted : initials text = [] → a.used.toFinset.card < 2 ^ 64 ∧
      (checked = true → a.counter.toNat + a.used.toFinset.card + 1 < 2 ^ 64))
    (hsuffixed : initials text ≠ [] → a.used.toFinset.card < 2 ^ 31) :
    ∃ tries found, a.Finds checked text tries found ∧
      ∃ letters number, IsComposed found.1 letters number := by
  by_cases hletters : initials text = []
  · obtain ⟨hcard, hlast⟩ := hcounted hletters
    have hfits : ∀ i ≤ a.used.toFinset.card, checked = true →
        a.counter.toNat + i + 1 < 2 ^ 64 := by
      intro i hi hchecked
      have hbound := hlast hchecked
      omega
    have hfirst := nextWord?_eq_some a.counter (hfits 0 (Nat.zero_le _))
    have hinj : ∀ i ≤ a.used.toFinset.card, ∀ j ≤ a.used.toFinset.card,
        countedName (UInt64.ofNat (a.counter.toNat + i + 1)) =
          countedName (UInt64.ofNat (a.counter.toNat + j + 1)) → i = j := by
      intro i hi j hj heq
      have hvalue := congrArg UInt64.toNat (countedName_injective _ _ heq)
      rw [UInt64.toNat_ofNat', UInt64.toNat_ofNat'] at hvalue
      omega
    obtain ⟨i, -, hsearch⟩ := Search.exists_of_injOn a.used.toFinset
      (fun i => UInt64.ofNat (a.counter.toNat + i + 1))
      (fun i hi => nextWord?_ofNat (hfits (i + 1) hi)) hinj fun i _ hi => List.mem_toFinset.mpr hi
    exact ⟨_, _, .counted hletters hfirst hsearch, _, _, isComposed_counted _⟩
  · by_cases hused : initials text ∈ a.used
    · have hfits := hsuffixed hletters
      -- the letters are used without a number, so one number less can be
      have hcard := Finset.card_erase_add_one (List.mem_toFinset.mpr hused)
      have hname : ∀ i ≤ (a.used.toFinset.erase (initials text)).card,
          suffixedName (initials text) (Int32.ofNat (i + 1)) = numbered (initials text) (i + 1) :=
        fun i hi => suffixedName_ofNat _ (by omega)
      have hinj : ∀ i ≤ (a.used.toFinset.erase (initials text)).card,
          ∀ j ≤ (a.used.toFinset.erase (initials text)).card,
          suffixedName (initials text) (Int32.ofNat (i + 1)) =
            suffixedName (initials text) (Int32.ofNat (j + 1)) → i = j := by
        intro i hi j hj heq
        rw [hname i hi, hname j hj] at heq
        exact Nat.succ.inj (numbered_injective _ _ _ heq)
      have hnames : ∀ i ≤ (a.used.toFinset.erase (initials text)).card,
          suffixedName (initials text) (Int32.ofNat (i + 1)) ∈ a.used →
            suffixedName (initials text) (Int32.ofNat (i + 1)) ∈
              a.used.toFinset.erase (initials text) := by
        intro i hi htaken
        rw [hname i hi] at htaken ⊢
        exact Finset.mem_erase.mpr ⟨numbered_ne _ _, List.mem_toFinset.mpr htaken⟩
      obtain ⟨i, hi, hsearch⟩ := Search.exists_of_injOn (a.used.toFinset.erase (initials text))
        (fun i => Int32.ofNat (i + 1)) (fun i hi => nextSigned?_ofNat fun _ => by omega) hinj hnames
      have hfinds := Allocator.Finds.suffixed hletters hused hsearch
      rw [hname i hi] at hfinds
      exact ⟨_, _, hfinds, _, _, isComposed_initials hletters (some (i + 1))⟩
    · refine ⟨_, _, .plain hletters hused, initials text, none, ?_⟩
      simpa using isComposed_initials hletters none

/-- All numbers up to the counter are used up. -/
def Names.CountsUsed (names : Names) : Prop :=
  ∀ n, 1 ≤ n → n ≤ names.counter → numbered ['N'] n ∈ names.used

/-- The same names, with the counter in a machine word. -/
def Allocator.ofNames (names : Names) : Allocator :=
  ⟨names.used, UInt64.ofNat names.counter⟩

namespace Names

variable {names : Names}

/-- What a fresh name can be. -/
theorem fresh_cases (names : Names) (text : Text) :
    (initials text = [] ∧ ∃ tries n,
      Search names.used (numbered ['N']) nextNat (names.counter + 1) tries n ∧
      names.fresh text = (numbered ['N'] n, ⟨numbered ['N'] n :: names.used, n⟩)) ∨
    (initials text ≠ [] ∧ initials text ∉ names.used ∧
      names.fresh text = (initials text, ⟨initials text :: names.used, names.counter⟩)) ∨
    (initials text ≠ [] ∧ initials text ∈ names.used ∧ ∃ tries n,
      Search names.used (numbered (initials text)) nextNat 1 tries n ∧
      names.fresh text = (numbered (initials text) n,
        ⟨numbered (initials text) n :: names.used, names.counter⟩)) := by
  unfold fresh
  dsimp only
  split_ifs with hempty hfree
  · obtain ⟨tries, hsearch⟩ := exists_search_numbered names.used ['N'] (names.counter + 1)
    exact Or.inl ⟨List.isEmpty_iff.mp hempty, tries, _, hsearch, rfl⟩
  · have hletters : initials text ≠ [] := fun h => hempty (List.isEmpty_iff.mpr h)
    exact Or.inr (Or.inl ⟨hletters, by simpa using hfree, rfl⟩)
  · have hletters : initials text ≠ [] := fun h => hempty (List.isEmpty_iff.mpr h)
    obtain ⟨tries, hsearch⟩ := exists_search_numbered names.used (initials text) 1
    exact Or.inr (Or.inr ⟨hletters, by simpa using hfree, tries, _, hsearch, rfl⟩)

theorem used_fresh (names : Names) (text : Text) :
    (names.fresh text).2.used = (names.fresh text).1 :: names.used := by
  rcases names.fresh_cases text with ⟨-, _, _, -, h⟩ | ⟨-, -, h⟩ | ⟨-, -, _, _, -, h⟩ <;> rw [h]

/-- Of a number behind letters, one less is used with the same letters, and so are the letters. -/
theorem suffix_le {base : Text} {tries n : Nat} (hbase : base ∈ names.used)
    (h : Search names.used (numbered base) nextNat 1 tries n) : n ≤ names.used.toFinset.card := by
  have htaken : ∀ i, 1 ≤ i → i < n → numbered base i ∈ names.used.toFinset.erase base := by
    intro i hi hn
    exact Finset.mem_erase.mpr ⟨numbered_ne base i, List.mem_toFinset.mpr (h.taken_before i hi hn)⟩
  have hmem : base ∈ names.used.toFinset := List.mem_toFinset.mpr hbase
  have hle := numbered_le_add_card base htaken
  have hpos := Finset.card_pos.mpr ⟨base, hmem⟩
  rw [Finset.card_erase_of_mem hmem] at hle
  omega

theorem counted_le {tries n : Nat}
    (h : Search names.used (numbered ['N']) nextNat (names.counter + 1) tries n) :
    n ≤ names.counter + 1 + names.used.toFinset.card :=
  numbered_le_add_card ['N'] fun i hi hn => List.mem_toFinset.mpr (h.taken_before i hi hn)

/-- The number in a name is at most one more than there are used names, if the counter has not left
any out. -/
theorem exists_isComposed (names : Names) (text : Text) :
    ∃ letters number, IsComposed (names.fresh text).1 letters number ∧
      (names.CountsUsed → ∀ n ∈ number, n ≤ names.used.toFinset.card + 1) := by
  rcases names.fresh_cases text with ⟨-, tries, stop, search, hfresh⟩ | ⟨hletters, -, hfresh⟩ |
    ⟨hletters, hused, tries, stop, search, hfresh⟩
  · rw [hfresh]
    refine ⟨['N'], some stop, isComposed_counted stop, ?_⟩
    rintro hcounter n ⟨⟩
    rw [Nat.add_comm]
    refine numbered_le_add_card ['N'] fun i hi hstop => ?_
    rw [List.mem_toFinset]
    -- up to the counter all numbers are used, and from there on those that the search passes over
    by_cases hle : i ≤ names.counter
    · exact hcounter i hi hle
    · exact search.taken_before i (by omega) hstop
  · rw [hfresh]
    refine ⟨initials text, none, by simpa using isComposed_initials hletters none, ?_⟩
    exact fun _ n hn => absurd hn (Option.not_mem_none n)
  · rw [hfresh]
    refine ⟨initials text, some stop, isComposed_initials hletters (some stop), ?_⟩
    rintro - n ⟨⟩
    have hle := suffix_le hused search
    omega

theorem CountsUsed.fresh (hcounter : names.CountsUsed) (text : Text) :
    (names.fresh text).2.CountsUsed := by
  intro i hi hle
  rw [used_fresh]
  rcases names.fresh_cases text with ⟨-, tries, stop, search, hfresh⟩ | ⟨-, -, hfresh⟩ |
    ⟨-, -, tries, stop, -, hfresh⟩
  · rw [hfresh] at hle ⊢
    by_cases hlast : i = stop
    · rw [hlast]
      exact List.mem_cons_self
    · refine List.mem_cons_of_mem _ ?_
      have hstop : i < stop := Nat.lt_of_le_of_ne hle hlast
      by_cases hold : i ≤ names.counter
      · exact hcounter i hi hold
      · exact search.taken_before i (by omega) hstop
  · rw [hfresh] at hle
    exact List.mem_cons_of_mem _ (hcounter i hi hle)
  · rw [hfresh] at hle
    exact List.mem_cons_of_mem _ (hcounter i hi hle)

theorem CountsUsed.counter_le (hcounter : names.CountsUsed) :
    names.counter ≤ names.used.toFinset.card := by
  have hle : names.counter + 1 ≤ 1 + names.used.toFinset.card :=
    numbered_le_add_card ['N'] fun i hi hn => List.mem_toFinset.mpr (hcounter i hi (by omega))
  omega

theorem card_fresh_le (names : Names) (text : Text) :
    (names.fresh text).2.used.toFinset.card ≤ names.used.toFinset.card + 1 := by
  rw [used_fresh, List.toFinset_cons]
  exact Finset.card_insert_le _ _

/-- Where the numbers of a machine suffice, it finds the same name. -/
theorem exists_finds (checked : Bool) (names : Names) (text : Text)
    (hcounted : initials text = [] → names.counter + names.used.toFinset.card + 1 < 2 ^ 64)
    (hsuffixed : initials text ≠ [] → names.used.toFinset.card < 2 ^ 31) :
    ∃ tries, (Allocator.ofNames names).Finds checked text tries
      ((names.fresh text).1, Allocator.ofNames (names.fresh text).2) := by
  rcases names.fresh_cases text with ⟨hletters, tries, n, search, hfresh⟩ |
    ⟨hletters, hnew, hfresh⟩ | ⟨hletters, hused, tries, n, search, hfresh⟩
  · have hn := counted_le search
    have hfits := hcounted hletters
    have hword : Search names.used countedName (nextWord? checked)
        (UInt64.ofNat (names.counter + 1)) tries (UInt64.ofNat n) :=
      search.lift UInt64.ofNat (fun i _ hi => nextWord?_ofNat fun _ => by omega)
        fun i _ hi => countedName_ofNat (by omega)
    have hfinds := Allocator.Finds.counted (a := Allocator.ofNames names) hletters
      (nextWord?_ofNat fun _ => by omega) hword
    rw [countedName_ofNat (by omega)] at hfinds
    rw [hfresh]
    exact ⟨tries, hfinds⟩
  · rw [hfresh]
    exact ⟨1, .plain hletters hnew⟩
  · have hn := suffix_le hused search
    have hfits := hsuffixed hletters
    have hword : Search names.used (suffixedName (initials text)) (nextSigned? checked)
        1 tries (Int32.ofNat n) :=
      search.lift Int32.ofNat (fun i _ hi => nextSigned?_ofNat fun _ => by omega)
        fun i _ hi => suffixedName_ofNat _ (by omega)
    have hfinds := Allocator.Finds.suffixed (a := Allocator.ofNames names) hletters hused hword
    rw [suffixedName_ofNat _ (by omega)] at hfinds
    rw [hfresh]
    exact ⟨tries, hfinds⟩

/-- Of the names of several texts none has a number beyond the number of names there are then. -/
theorem exists_isComposed_freshAll (hcounter : names.CountsUsed) (texts : List Text) :
    ∀ id ∈ (names.freshAll texts).1, ∃ letters number, IsComposed id letters number ∧
      ∀ n ∈ number, n ≤ names.used.toFinset.card + texts.length := by
  induction texts generalizing names with
  | nil => exact fun id hid => absurd hid List.not_mem_nil
  | cons text texts ih =>
    intro id hid
    rcases List.mem_cons.mp hid with rfl | hid
    · obtain ⟨letters, number, hcomposed, hle⟩ := names.exists_isComposed text
      refine ⟨letters, number, hcomposed, fun n hn => ?_⟩
      have hn := hle hcounter n hn
      rw [List.length_cons]
      omega
    · obtain ⟨letters, number, hcomposed, hle⟩ := ih (hcounter.fresh text) id hid
      refine ⟨letters, number, hcomposed, fun n hn => ?_⟩
      have hn := hle n hn
      have hcard := names.card_fresh_le text
      rw [List.length_cons]
      omega

theorem freshAll_cons (names : Names) (text : Text) (texts : List Text) :
    names.freshAll (text :: texts) =
      ((names.fresh text).1 :: ((names.fresh text).2.freshAll texts).1,
        ((names.fresh text).2.freshAll texts).2) := rfl

theorem freshAll_append (names : Names) (texts more : List Text) :
    names.freshAll (texts ++ more) =
      ((names.freshAll texts).1 ++ ((names.freshAll texts).2.freshAll more).1,
        ((names.freshAll texts).2.freshAll more).2) := by
  induction texts generalizing names with
  | nil => rfl
  | cons text texts ih =>
    rw [List.cons_append, freshAll_cons, freshAll_cons, ih]
    rfl

/-- As long as there are few enough names, a machine gives the same names to several texts. -/
theorem freshAll?_ofNames (checked : Bool) (hcounter : names.CountsUsed) (texts : List Text)
    (hfits : names.used.toFinset.card + texts.length ≤ 2 ^ 31) :
    (Allocator.ofNames names).freshAll? checked texts =
      some ((names.freshAll texts).1, Allocator.ofNames (names.freshAll texts).2) := by
  induction texts generalizing names with
  | nil => rfl
  | cons text texts ih =>
    rw [List.length_cons] at hfits
    have hcount := hcounter.counter_le
    have hcard := names.card_fresh_le text
    have hfresh := fresh?_eq_some_iff.mpr
      (names.exists_finds checked text (fun _ => by omega) fun _ => by omega)
    have hrest := ih (hcounter.fresh text) (by omega)
    rw [Allocator.freshAll?, hfresh, Option.bind_eq_bind, Option.bind_some]
    dsimp only
    rw [hrest]
    rfl

end Names

/-- A line that begins with a name is no comment and declares no flowchart. -/
theorem classify_of_isName {id : Text} (h : IsName id) (rest : Text) :
    classify (id ++ rest) ≠ .comment ∧ classify (id ++ rest) ≠ .declaration := by
  have hhead : ∀ a : Char, ¬(a.isUpper = true ∨ a.isDigit = true) →
      ∀ c ∈ (id ++ rest).head?, c ≠ a := by
    rintro a ha c hc rfl
    rw [List.head?_append_of_ne_nil _ h.1] at hc
    exact ha (h.2 c (List.mem_of_mem_head? hc))
  have hcomment : startsWith "%%".toList (id ++ rest) = false :=
    startsWith_eq_false (hhead '%' (by decide))
  have hflowchart : startsWith "flowchart".toList (id ++ rest) = false :=
    startsWith_eq_false (hhead 'f' (by decide))
  have hgraph : startsWith "graph".toList (id ++ rest) = false :=
    startsWith_eq_false (hhead 'g' (by decide))
  unfold classify
  rw [hcomment, hflowchart, hgraph]
  simp only [Bool.or_self, Bool.false_eq_true, if_false]
  split_ifs <;> decide

/-- The texts of categories, in the order in which their nodes are written. -/
def textsOf (categories : List Category) : List Text :=
  categories.flatMap fun c => c.pattern :: c.templates

/-- The nodes of a written flowchart are named one after another. -/
theorem allNodes_nameCategories (names : Names) (categories : List Category) :
    allNodes (nameCategories names categories) =
      (names.freshAll (textsOf categories)).1.zip (textsOf categories) := by
  induction categories generalizing names with
  | nil => rfl
  | cons c categories ih =>
    have hlength := (names.fresh c.pattern).2.length_freshAll c.templates
    have hrest := ih ((names.fresh c.pattern).2.freshAll c.templates).2
    unfold allNodes at hrest
    have htexts : textsOf (c :: categories) = c.pattern :: (c.templates ++ textsOf categories) :=
      rfl
    rw [allNodes, nameCategories, List.flatMap_cons, hrest, htexts, Names.freshAll_cons,
      Names.freshAll_append, List.zip_cons_cons, List.zip_append hlength]
    rfl

/-- A fresh name is found after at most one candidate more than there are used names. It is new, and
as letters with a number, if any, it begins no comment and no declaration. For this the numbers have
to suffice: those behind letters do for fewer than `2 ^ 31` used names, and those of the counter
unless a build that checks its sums is too near their end. The names of a flowchart of up to
`2 ^ 31` nodes therefore differ, and no number in them is beyond the number of nodes. -/
theorem fresh?_never_clashes (checked : Bool) :
    (∀ (a : Allocator) (text : Text),
      (initials text = [] → a.used.toFinset.card < 2 ^ 64 ∧
        (checked = true → a.counter.toNat + a.used.toFinset.card + 1 < 2 ^ 64)) →
      (initials text ≠ [] → a.used.toFinset.card < 2 ^ 31) →
      ∃ found, a.fresh? checked text = some found ∧
        (∃ tries ≤ a.used.toFinset.card + 1, ∀ n other,
          a.Finds checked text n other ↔ n = tries ∧ other = found) ∧
        found.1 ∉ a.used ∧
        (∃ letters number, IsComposed found.1 letters number) ∧
        IsIdentifier found.1 ∧
        ∀ rest, classify (found.1 ++ rest) ≠ .comment ∧ classify (found.1 ++ rest) ≠ .declaration) ∧
    ∀ categories : List Category, (textsOf categories).length ≤ 2 ^ 31 →
      ∃ (ids : List Text) (last : Allocator) (ends : List (Text × Text)),
        Allocator.freshAll? checked ⟨[], 0⟩ (textsOf categories) = some (ids, last) ∧
        write categories =
          (writtenLines (ids.zip (textsOf categories)) ends).flatMap (· ++ ['\n']) ∧
        ids.length = (textsOf categories).length ∧
        ids.Nodup ∧
        (∀ p ∈ ends, p.1 ∈ ids ∧ p.2 ∈ ids) ∧
        ∀ id ∈ ids, ∃ letters number, IsComposed id letters number ∧
          ∀ n ∈ number, n ≤ (textsOf categories).length := by
  refine ⟨fun a text hcounted hsuffixed => ?_, fun categories hfits => ?_⟩
  · obtain ⟨tries, found, hfinds, letters, number, hcomposed⟩ :=
      a.exists_finds checked text hcounted hsuffixed
    refine ⟨found, fresh?_eq_some_iff.mpr ⟨tries, hfinds⟩,
      ⟨tries, hfinds.tries_le, fun n other => ⟨fun h => h.unique hfinds, ?_⟩⟩, hfinds.new,
      ⟨letters, number, hcomposed⟩, (isNodeName_of_isName hcomposed.isName).isIdentifier,
      classify_of_isName hcomposed.isName⟩
    rintro ⟨rfl, rfl⟩
    exact hfinds
  · have hlength := Names.length_freshAll ⟨[], 0⟩ (textsOf categories)
    have hids : (allNodes (nameCategories ⟨[], 0⟩ categories)).map Prod.fst =
        (Names.freshAll ⟨[], 0⟩ (textsOf categories)).1 := by
      rw [allNodes_nameCategories, List.map_fst_zip (Nat.le_of_eq hlength)]
    have hcounter : Names.CountsUsed ⟨[], 0⟩ :=
      fun n hn hle => absurd (Nat.le_trans hn hle) (Nat.not_succ_le_zero 0)
    have hall := Names.freshAll?_ofNames checked hcounter (textsOf categories)
      (by simpa using hfits)
    refine ⟨_, _, allEnds (nameCategories ⟨[], 0⟩ categories), hall, ?_, hlength,
      (Names.gives_freshAll ⟨[], 0⟩ (textsOf categories)).nodup, ?_, ?_⟩
    · rw [write_eq, allNodes_nameCategories]
    · intro p hp
      rw [← hids]
      exact names_of_mem_allEnds hp
    · intro id hid
      obtain ⟨letters, number, hcomposed, hle⟩ :=
        Names.exists_isComposed_freshAll hcounter (textsOf categories) id hid
      refine ⟨letters, number, hcomposed, fun n hn => ?_⟩
      have hn := hle n hn
      rwa [List.toFinset_nil, Finset.card_empty, Nat.zero_add] at hn

/-- The names `N1` and `N2` are met on two ways: behind the letter `N`, and by the counter. -/
theorem fresh?_never_clashes_n :
    (∃ found, Allocator.fresh? true ⟨["AB".toList, "AB1".toList, "N1".toList], 0⟩ "a b!".toList =
        some found ∧ found.1 = "AB2".toList ∧
      ∃ tries ≤ 4, ∀ n other, Allocator.Finds true
        ⟨["AB".toList, "AB1".toList, "N1".toList], 0⟩ "a b!".toList n other ↔
          n = tries ∧ other = found) ∧
    ∃ ids last, Allocator.freshAll? true ⟨[], 0⟩
        (textsOf [⟨"n".toList, ["N!".toList, "1".toList], []⟩]) = some (ids, last) ∧
      ids = ["N".toList, "N1".toList, "N2".toList] ∧ ids.Nodup := by
  constructor
  · obtain ⟨found, hfresh, htries, -⟩ := (fresh?_never_clashes true).1
      ⟨["AB".toList, "AB1".toList, "N1".toList], 0⟩ "a b!".toList
      (fun h => absurd h (by decide)) (fun _ => by decide)
    have hid : (Allocator.fresh? true ⟨["AB".toList, "AB1".toList, "N1".toList], 0⟩
        "a b!".toList).map Prod.fst = some "AB2".toList := by decide
    rw [hfresh] at hid
    exact ⟨found, hfresh, Option.some.inj hid, htries⟩
  · obtain ⟨ids, last, _, hall, -, -, hnodup, -⟩ := (fresh?_never_clashes true).2
      [⟨"n".toList, ["N!".toList, "1".toList], []⟩] (by decide)
    have hids : (Allocator.freshAll? true ⟨[], 0⟩
        (textsOf [⟨"n".toList, ["N!".toList, "1".toList], []⟩])).map Prod.fst =
          some ["N".toList, "N1".toList, "N2".toList] := by decide
    rw [hall] at hids
    exact ⟨ids, last, hall, Option.some.inj hids, hnodup⟩

section Exhausted

variable {a : Allocator} {text base : Text} {used : List Text}

theorem exists_search_counted {n : Nat} (hn : a.counter.toNat < n) (hlast : n < 2 ^ 64)
    (hfree : numbered ['N'] n ∉ a.used) :
    ∃ first tries stop, nextWord? true a.counter = some first ∧
      Search a.used countedName (nextWord? true) first tries stop := by
  have hcandidate :
      countedName (UInt64.ofNat (a.counter.toNat + 1 + (n - a.counter.toNat - 1))) ∉ a.used := by
    rwa [show a.counter.toNat + 1 + (n - a.counter.toNat - 1) = n by omega,
      countedName_ofNat hlast]
  obtain ⟨i, -, hsearch⟩ := Search.exists_of_free
    (fun i => UInt64.ofNat (a.counter.toNat + 1 + i)) hcandidate
    fun i hi => nextWord?_ofNat fun _ => by omega
  exact ⟨_, _, _, nextWord?_eq_some a.counter fun _ => by omega, hsearch⟩

theorem not_search_counted {first stop : UInt64} {tries : Nat}
    (htaken : ∀ n, a.counter.toNat < n → n < 2 ^ 64 → numbered ['N'] n ∈ a.used)
    (hfirst : nextWord? true a.counter = some first) :
    ¬ Search a.used countedName (nextWord? true) first tries stop := by
  intro h
  obtain ⟨hless, rfl⟩ := lt_of_nextWord? hfirst
  have hlast : nextWord? true
      (UInt64.ofNat (a.counter.toNat + 1 + (2 ^ 64 - 2 - a.counter.toNat))) = none := by
    rw [show a.counter.toNat + 1 + (2 ^ 64 - 2 - a.counter.toNat) = 2 ^ 64 - 1 by omega]
    decide
  refine h.false_of_taken (fun i => UInt64.ofNat (a.counter.toNat + 1 + i)) hlast
    (fun i hi => nextWord?_ofNat fun _ => by omega) fun i hi => ?_
  rw [countedName_ofNat (by omega)]
  exact htaken _ (by omega) (by omega)

theorem exists_search_suffixed {n : Nat} (hn : 1 ≤ n) (hlast : n < 2 ^ 31)
    (hfree : numbered base n ∉ used) :
    ∃ tries stop, Search used (suffixedName base) (nextSigned? true) 1 tries stop := by
  have hcandidate : suffixedName base (Int32.ofNat (n - 1 + 1)) ∉ used := by
    rwa [Nat.sub_add_cancel hn, suffixedName_ofNat base hlast]
  obtain ⟨i, -, hsearch⟩ := Search.exists_of_free (fun i => Int32.ofNat (i + 1)) hcandidate
    fun i hi => nextSigned?_ofNat fun _ => by omega
  exact ⟨_, _, hsearch⟩

theorem not_search_suffixed {stop : Int32} {tries : Nat}
    (htaken : ∀ n, 1 ≤ n → n < 2 ^ 31 → numbered base n ∈ used) :
    ¬ Search used (suffixedName base) (nextSigned? true) 1 tries stop := by
  intro h
  have hlast : nextSigned? true (Int32.ofNat (2 ^ 31 - 2 + 1)) = none := by decide
  refine h.false_of_taken (fun i => Int32.ofNat (i + 1)) hlast
    (fun i hi => nextSigned?_ofNat fun _ => by omega) fun i hi => ?_
  rw [suffixedName_ofNat base (by omega)]
  exact htaken (i + 1) (by omega) (by omega)

/-- A build that checks its sums finds no name just if all numbers that are left are used up. -/
theorem fresh?_eq_none_iff :
    a.fresh? true text = none ↔
      (initials text = [] ∧
        ∀ n, a.counter.toNat < n → n < 2 ^ 64 → numbered ['N'] n ∈ a.used) ∨
      (initials text ≠ [] ∧ initials text ∈ a.used ∧
        ∀ n, 1 ≤ n → n < 2 ^ 31 → numbered (initials text) n ∈ a.used) := by
  have hnone : a.fresh? true text = none ↔ ∀ tries found, ¬ a.Finds true text tries found := by
    rw [Option.eq_none_iff_forall_ne_some]
    simp only [ne_eq, fresh?_eq_some_iff, not_exists]
    exact forall_comm
  rw [hnone]
  constructor
  · intro h
    by_cases hletters : initials text = []
    · refine Or.inl ⟨hletters, fun n hn hlast => ?_⟩
      by_contra hfree
      obtain ⟨_, _, _, hfirst, hsearch⟩ := exists_search_counted hn hlast hfree
      exact h _ _ (.counted hletters hfirst hsearch)
    · have hused : initials text ∈ a.used := by
        by_contra hnew
        exact h _ _ (.plain hletters hnew)
      refine Or.inr ⟨hletters, hused, fun n hn hlast => ?_⟩
      by_contra hfree
      obtain ⟨_, _, hsearch⟩ := exists_search_suffixed hn hlast hfree
      exact h _ _ (.suffixed hletters hused hsearch)
  · rintro (⟨hletters, htaken⟩ | ⟨hletters, hused, htaken⟩) tries found hfinds
    · cases hfinds with
      | counted _ hfirst search => exact not_search_counted htaken hfirst search
      | plain hsome _ => exact hsome hletters
      | suffixed hsome _ _ => exact hsome hletters
    · cases hfinds with
      | counted hnil _ _ => exact hletters hnil
      | plain _ hnew => exact hnew hused
      | suffixed _ _ search => exact not_search_suffixed htaken search

end Exhausted

/-- The name `A` is used, and so is `A` with every positive number of a signed word. -/
def exhausted : Allocator :=
  ⟨['A'] :: (List.range (2 ^ 31 - 1)).map fun n => numbered ['A'] (n + 1), 0⟩

theorem numbered_mem_exhausted (n : Nat) (hn : 1 ≤ n) (hlast : n < 2 ^ 31) :
    numbered ['A'] n ∈ exhausted.used := by
  refine List.mem_cons_of_mem _ (List.mem_map.mpr ⟨n - 1, List.mem_range.mpr (by omega), ?_⟩)
  rw [Nat.sub_add_cancel hn]

theorem minus_not_mem_exhausted {id : Text} (hid : id ∈ exhausted.used) : '-' ∉ id := by
  rcases List.mem_cons.mp hid with rfl | hid
  · decide
  · obtain ⟨n, -, rfl⟩ := List.mem_map.mp hid
    intro hmem
    rcases List.mem_append.mp hmem with hmem | hmem
    · exact absurd hmem (by decide)
    · exact minus_not_mem_toDigits (n + 1) hmem

/-- Then there is no further name for a text with this letter only: one build stops, and another one
writes a name with a minus sign. Nor is there a number after the last one of a word. -/
theorem fresh?_exhausted :
    exhausted.fresh? true ['a'] = none ∧
    (∃ last, exhausted.fresh? false ['a'] = some ("A-2147483648".toList, last)) ∧
    (¬ ∃ letters number, IsComposed "A-2147483648".toList letters number) ∧
    Allocator.fresh? true ⟨[], 18446744073709551615⟩ [] = none := by
  have hletters : initials ['a'] ≠ [] := by decide
  have hused : initials ['a'] ∈ exhausted.used := List.mem_cons_self
  refine ⟨?_, ?_, ?_, by decide⟩
  · exact fresh?_eq_none_iff.mpr (Or.inr ⟨hletters, hused, numbered_mem_exhausted⟩)
  · have hfree : suffixedName ['A'] (Int32.ofNat (2 ^ 31 - 1 + 1)) ∉ exhausted.used :=
      fun hmem => minus_not_mem_exhausted hmem (by decide)
    obtain ⟨i, hi, hsearch⟩ := Search.exists_of_free (fun i => Int32.ofNat (i + 1)) hfree
      fun i _ => nextSigned?_ofNat fun h => absurd h Bool.false_ne_true
    obtain rfl : i = 2 ^ 31 - 1 := by
      by_contra hne
      refine hsearch.stop_not_mem ?_
      rw [suffixedName_ofNat _ (by omega)]
      exact numbered_mem_exhausted (i + 1) (by omega) (by omega)
    exact ⟨_, fresh?_eq_some_iff.mpr ⟨_, .suffixed hletters hused hsearch⟩⟩
  · rintro ⟨letters, number, hcomposed⟩
    have hminus : '-' ∈ "A-2147483648".toList := by decide
    rw [hcomposed.eq] at hminus
    rcases List.mem_append.mp hminus with hmem | hmem
    · exact absurd (hcomposed.isUpper '-' hmem) (by decide)
    · cases number with
      | none => exact List.not_mem_nil hmem
      | some n => exact minus_not_mem_toDigits n hmem

end ChartDialogue.Corpus
