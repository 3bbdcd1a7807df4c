import ChartDialogue.Proofs.Text.Words
import ChartDialogue.Text.Scan

/-!
Reading a text from its beginning. Characters of a class are read up to where the class ends, what
begins with something else is not read at all, and a search finds nothing where its reader fails
everywhere.
-/
namespace ChartDialogue.Text

variable {rest : Text}

theorem takeWhile_append_stop {p : Char → Bool} {s : Text} (hs : ∀ c ∈ s, p c = true)
    (hrest : ∀ c ∈ rest.head?, p c = false) : (s ++ rest).takeWhile p = s := by
  rw [List.takeWhile_append_of_pos hs]
  cases rest with
  | nil => rw [List.takeWhile_nil, List.append_nil]
  | cons c rest =>
    have hc : p c = false := hrest c rfl
    rw [List.takeWhile_cons, hc, if_neg Bool.false_ne_true, List.append_nil]

theorem dropWhile_append_stop {p : Char → Bool} {s : Text} (hs : ∀ c ∈ s, p c = true)
    (hrest : ∀ c ∈ rest.head?, p c = false) : (s ++ rest).dropWhile p = rest := by
  rw [List.dropWhile_append_of_pos hs]
  cases rest with
  | nil => rfl
  | cons c rest =>
    have hc : p c = false := hrest c rfl
    rw [List.dropWhile_cons, hc, if_neg Bool.false_ne_true]

theorem dropWhile_append_cons {p : Char → Bool} {d : Char} (hd : p d = false) (s rest : Text) :
    (s ++ d :: rest).dropWhile p = s.dropWhile p ++ d :: rest := by
  rw [List.dropWhile_append]
  cases s.dropWhile p with
  | nil => simp [hd]
  | cons c kept => rfl

theorem dropBlanks_of_head {s : Text} (hs : ∀ c ∈ s.head?, isBlank c = false) :
    dropBlanks s = s :=
  dropWhile_append_stop (s := []) (by simp) hs

/-- Blanks before a text go, and nothing else if the text has none at its ends. -/
theorem trim_append {blanks s : Text} (hblanks : ∀ c ∈ blanks, isBlank c = true)
    (hhead : ∀ c ∈ s.head?, isBlank c = false) (hlast : ∀ c ∈ s.getLast?, isBlank c = false) :
    trim (blanks ++ s) = s := by
  have hfront : dropBlanks (blanks ++ s) = s := dropWhile_append_stop hblanks hhead
  have hback : dropBlanks s.reverse = s.reverse :=
    dropBlanks_of_head (by rwa [List.head?_reverse])
  unfold trim
  rw [hfront, hback, List.reverse_reverse]

/-- Nothing is read that needs another character next. -/
theorem expect?_eq_none {a : Char} {lead s : Text} (h : ∀ c ∈ s.head?, c ≠ a) :
    expect? (a :: lead) s = none := by
  cases s with
  | nil => rfl
  | cons c s =>
    have hc : c ≠ a := h c rfl
    rw [expect?, if_neg hc.symm]

/-- The search looks at every place. -/
theorem occursIn_iff_infix {α : Type} [BEq α] [LawfulBEq α] {part s : List α} :
    occursIn part s = true ↔ part <:+: s := by
  induction s with
  | nil => rw [occursIn, List.isEmpty_iff, List.infix_nil]
  | cons c s ih =>
    rw [occursIn, Bool.or_eq_true, ih, List.isPrefixOf_iff_prefix, List.infix_cons_iff]

theorem occursIn_append {part s t : Text} : occursIn part (s ++ (part ++ t)) = true :=
  occursIn_iff_infix.mpr ⟨s, t, List.append_assoc s part t⟩

theorem append_eq_append_cons {lead w s r : Text} {d : Char} (hd : d ∉ lead)
    (h : lead ++ w = s ++ d :: r) :
    ∃ w', s = lead ++ w' ∧ w = w' ++ d :: r := by
  rcases List.append_eq_append_iff.mp h with ⟨w', hs, hw⟩ | ⟨kept, hlead, hr⟩
  · exact ⟨w', hs, hw⟩
  · cases kept with
    | nil =>
      rw [List.append_nil] at hlead
      exact ⟨[], by rw [hlead, List.append_nil], hr.symm⟩
    | cons e kept =>
      rw [hlead, (List.cons.inj hr).1] at hd
      exact absurd (List.mem_append_right s List.mem_cons_self) hd

/-- What is read at an end of a text is read on one side of a character that is not in it. -/
theorem suffix_append_cons {lead w s r : Text} {d : Char} (hne : lead ≠ []) (hd : d ∉ lead)
    (h : lead ++ w <:+ s ++ d :: r) :
    (∃ w', lead ++ w' <:+ s ∧ w = w' ++ d :: r) ∨ lead ++ w <:+ r := by
  obtain ⟨front, hfront⟩ := h
  rcases List.append_eq_append_iff.mp hfront with ⟨back, hs, hback⟩ | ⟨kept, -, hr⟩
  · obtain ⟨w', rfl, hw⟩ := append_eq_append_cons hd hback
    exact Or.inl ⟨w', ⟨front, hs.symm⟩, hw⟩
  · cases kept with
    | nil =>
      obtain ⟨e, lead, rfl⟩ := List.exists_cons_of_ne_nil hne
      rw [(List.cons.inj hr).1] at hd
      exact absurd List.mem_cons_self hd
    | cons e kept => exact Or.inr ⟨kept, (List.cons.inj hr).2.symm⟩

/-- The decimal digits of a number tell it. -/
theorem append_toDigits_inj {base : Text} {m n : Nat} :
    base ++ Nat.toDigits 10 m = base ++ Nat.toDigits 10 n ↔ m = n := by
  constructor
  · intro h
    have hdigits := List.append_cancel_left h
    have hvalue := congrArg (Nat.ofDigitChars 10 · 0) hdigits
    simpa only [Nat.ofDigitChars_ten_toDigits] using hvalue
  · rintro rfl
    rfl

/-- A scanner goes on behind the item that it has read. -/
theorem pieces_of_read {α : Type} (p : Scanner α) {s r : Text} {a : α} (hs : s ≠ [])
    (h : p.read s = some (a, r)) : p.pieces s = .inr a :: p.pieces r := by
  obtain ⟨c, s, rfl⟩ := List.exists_cons_of_ne_nil hs
  rw [Scanner.pieces]
  split
  · rename_i b t heq
    rw [h] at heq
    obtain ⟨rfl, rfl⟩ := Prod.mk.inj (Option.some.inj heq)
    rfl
  · rename_i heq
    rw [h] at heq
    exact absurd heq (Option.some_ne_none _)

theorem pieces_nil {α : Type} (p : Scanner α) : p.pieces [] = [] := by
  rw [Scanner.pieces]

/-- An item that fills the text is the only one. -/
theorem pieces_of_read_all {α : Type} (p : Scanner α) {s : Text} {a : α} (h : p.read s = some (a, [])) :
    p.pieces s = [.inr a] := by
  have hne : s ≠ [] := List.ne_nil_of_length_pos (p.shorter h)
  rw [pieces_of_read p hne h, pieces_nil]

theorem replaceAll_nil {α : Type} (p : Scanner α) (f : α → Text) : p.replaceAll f [] = [] := by
  rw [Scanner.replaceAll, pieces_nil, List.flatMap_nil]

/-- A character is passed over where a scanner fails. -/
theorem pieces_cons_of_none {α : Type} (p : Scanner α) {c : Char} {s : Text}
    (h : p.read (c :: s) = none) : p.pieces (c :: s) = .inl c :: p.pieces s := by
  rw [Scanner.pieces]
  split
  · rename_i heq
    rw [h] at heq
    exact absurd heq.symm (Option.some_ne_none _)
  · rfl

theorem findAll_cons_of_none {α : Type} (p : Scanner α) {c : Char} {s : Text}
    (h : p.read (c :: s) = none) : p.findAll (c :: s) = p.findAll s := by
  unfold Scanner.findAll
  rw [pieces_cons_of_none p h, List.filterMap_cons]

/-- Scanners that read the same ends find the same items, up to what is made of them. -/
theorem findAll_eq_map {α β : Type} (p : Scanner β) (q : Scanner α) (f : α → β)
    (h : ∀ s, p.read s = (q.read s).map fun w => (f w.1, w.2)) (s : Text) :
    p.findAll s = (q.findAll s).map f := by
  unfold Scanner.findAll
  fun_induction q.pieces s with
  | case1 => rw [pieces_nil]; rfl
  | case2 c s b r hread _ ih =>
    have hfirst : p.read (c :: s) = some (f b, r) := by rw [h, hread]; rfl
    rw [pieces_of_read p (List.cons_ne_nil c s) hfirst, List.filterMap_cons, ih]
    rfl
  | case3 c s hread ih =>
    have hnone : p.read (c :: s) = none := by rw [h, hread]; rfl
    rw [pieces_cons_of_none p hnone, List.filterMap_cons, ih]
    rfl

/-- A scanner that fails at every end of a text finds nothing in it. -/
theorem findAll_eq_nil {α : Type} (p : Scanner α) {s : Text}
    (h : ∀ t, t <:+ s → p.read t = none) : p.findAll s = [] := by
  induction s with
  | nil =>
    unfold Scanner.findAll
    rw [pieces_nil, List.filterMap_nil]
  | cons c s ih =>
    rw [findAll_cons_of_none p (h (c :: s) (List.suffix_refl _))]
    exact ih fun t ht => h t (ht.trans (List.suffix_cons c s))

/-- A gap in which a scanner fails everywhere is passed over. -/
theorem findAll_gap {α : Type} (p : Scanner α) {gap s : Text} {d : Char}
    (h : ∀ t, t <:+ gap → p.read (t ++ d :: s) = none) :
    p.findAll (gap ++ d :: s) = p.findAll s := by
  induction gap with
  | nil => exact findAll_cons_of_none p (h [] (List.suffix_refl _))
  | cons c gap ih =>
    have hread : p.read (c :: (gap ++ d :: s)) = none := h (c :: gap) (List.suffix_refl _)
    rw [List.cons_append, findAll_cons_of_none p hread]
    exact ih fun t ht => h t (ht.trans (List.suffix_cons c gap))

theorem exists_read_of_firstMatch? {β : Type} {read : Text → Option β} {s : Text} {b : β}
    (h : firstMatch? read s = some b) : ∃ t, t <:+ s ∧ read t = some b := by
  induction s with
  | nil => exact ⟨[], List.suffix_refl _, h⟩
  | cons c s ih =>
    unfold firstMatch? at h
    split at h
    · rename_i hread
      exact ⟨c :: s, List.suffix_refl _, hread.trans h⟩
    · obtain ⟨t, ht, hread⟩ := ih h
      exact ⟨t, ht.trans (List.suffix_cons c s), hread⟩

/-- A reader that succeeds at once is not tried further on. -/
theorem firstMatch?_of_read {β : Type} {read : Text → Option β} {s : Text} {b : β}
    (h : read s = some b) : firstMatch? read s = some b := by
  cases s with
  | nil => exact h
  | cons c s => rw [firstMatch?, h]

end ChartDialogue.Text
