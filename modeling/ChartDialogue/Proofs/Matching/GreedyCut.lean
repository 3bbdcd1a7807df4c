import ChartDialogue.Matching.Pattern
import Mathlib.Data.List.Forall2

/-!
Cuts of the words of an input by the tokens of a pattern, and what the table of cuts finds. A cut
is said without the table: its segments cover the words in order, and each token can take its
segment. The table finds a cut exactly when there is one, and of all cuts it finds the one whose
wildcards are, from left to right, as long as possible.
-/
namespace ChartDialogue.Matching

/-- What a token can take: a literal one word that is the same, a wildcard one word or more. -/
def Token.Takes (same : Text → Text → Prop) : Token → List Text → Prop
  | .literal l, segment => ∃ word, segment = [word] ∧ same l word
  | .star, segment => segment ≠ []
  | .gap, segment => segment ≠ []

/-- Consecutive segments that cover the words, one for each token. -/
structure IsCut (same : Text → Text → Prop) (tokens : List Token) (words : List Text)
    (cut : Cut) : Prop where
  covers : cut.flatten = words
  takes : List.Forall₂ (Token.Takes same) tokens cut

/-- The numbers of words that the wildcards take, from left to right. -/
def wildLengths : List Token → Cut → List Nat
  | token :: tokens, segment :: cut =>
    if token.isWildcard then segment.length :: wildLengths tokens cut else wildLengths tokens cut
  | _, _ => []

/-- The cut whose wildcard lengths come last in lexicographic order. -/
structure IsGreatestCut (same : Text → Text → Prop) (tokens : List Token) (words : List Text)
    (cut : Cut) : Prop where
  isCut : IsCut same tokens words cut
  greatest : ∀ other, IsCut same tokens words other → other ≠ cut →
    List.Lex (· < ·) (wildLengths tokens other) (wildLengths tokens cut)

variable {same : Text → Text → Bool} {token : Token} {tokens : List Token} {word : Text}
  {words : List Text}

/-- The table for the words after the first one stands at the end of the table for all words. -/
theorem table_tail (same : Text → Text → Bool) (tokens : List Token) (word : Text)
    (words : List Text) :
    (tokens.foldr (fun token later => cutsFrom same token (word :: words) later)
        (cutsByNone (word :: words))).tail =
      tokens.foldr (fun token later => cutsFrom same token words later) (cutsByNone words) := by
  induction tokens with
  | nil => rfl
  | cons token tokens ih =>
    simp only [List.foldr_cons]
    rw [cutsFrom, List.tail_cons, ih]

theorem greedyCut?_nil_nil : greedyCut? same [] [] = some [] := rfl

theorem greedyCut?_nil_cons : greedyCut? same [] (word :: words) = none := rfl

theorem greedyCut?_cons_nil : greedyCut? same (token :: tokens) [] = none := rfl

/-- A cut is found from the cuts of the words after the first, by the later tokens and by all. -/
theorem greedyCut?_cons_cons :
    greedyCut? same (token :: tokens) (word :: words) =
      cutHere same token word (greedyCut? same tokens words)
        (greedyCut? same (token :: tokens) words) := by
  have htail := table_tail same tokens word words
  simp only [greedyCut?, List.foldr_cons] at htail ⊢
  rw [cutsFrom, List.headD_cons, htail]

section Takes

variable {R : Text → Text → Prop} {segment : List Text} {rest cut : Cut}

theorem Token.takes_wildcard (hw : token.isWildcard = true) :
    token.Takes R segment ↔ segment ≠ [] := by
  cases token with
  | literal l => simp [Token.isWildcard] at hw
  | star => exact Iff.rfl
  | gap => exact Iff.rfl

theorem isCut_nil_iff : IsCut R [] words cut ↔ words = [] ∧ cut = [] := by
  constructor
  · rintro ⟨hcovers, htakes⟩
    obtain rfl := List.forall₂_nil_left_iff.mp htakes
    exact ⟨hcovers.symm, rfl⟩
  · rintro ⟨rfl, rfl⟩
    exact ⟨rfl, List.Forall₂.nil⟩

/-- The first token takes the first segment, and the others cut what is left. -/
theorem isCut_cons_iff :
    IsCut R (token :: tokens) words cut ↔
      ∃ segment rest later, cut = segment :: rest ∧ words = segment ++ later ∧
        token.Takes R segment ∧ IsCut R tokens later rest := by
  constructor
  · rintro ⟨rfl, htakes⟩
    obtain ⟨segment, rest, htoken, hrest, rfl⟩ := List.forall₂_cons_left_iff.mp htakes
    exact ⟨segment, rest, rest.flatten, rfl, rfl, htoken, rfl, hrest⟩
  · rintro ⟨segment, rest, later, rfl, rfl, htoken, hcovers, htakes⟩
    refine ⟨?_, List.Forall₂.cons htoken htakes⟩
    rw [List.flatten_cons, hcovers]

/-- A wildcard that takes more than one word takes the words after the first as well. -/
theorem isCut_cons_longer (hw : token.isWildcard = true) (hne : segment ≠ []) :
    IsCut R (token :: tokens) (word :: words) ((word :: segment) :: rest) ↔
      IsCut R (token :: tokens) words (segment :: rest) := by
  simp only [isCut_cons_iff, List.cons.injEq]
  constructor
  · rintro ⟨seg, rest', later, ⟨rfl, rfl⟩, hwords, -, hrest⟩
    simp only [List.cons_append, List.cons.injEq, true_and] at hwords
    exact ⟨segment, rest, later, ⟨rfl, rfl⟩, hwords, (Token.takes_wildcard hw).mpr hne, hrest⟩
  · rintro ⟨seg, rest', later, ⟨rfl, rfl⟩, rfl, -, hrest⟩
    exact ⟨word :: segment, rest, later, ⟨rfl, rfl⟩, rfl,
      (Token.takes_wildcard hw).mpr (List.cons_ne_nil _ _), hrest⟩

/-- A token that takes one word leaves the words after it to the later tokens. -/
theorem isCut_cons_single :
    IsCut R (token :: tokens) (word :: words) ([word] :: rest) ↔
      token.Takes R [word] ∧ IsCut R tokens words rest := by
  simp only [isCut_cons_iff, List.cons.injEq]
  constructor
  · rintro ⟨seg, rest', later, ⟨rfl, rfl⟩, hwords, htoken, hrest⟩
    simp only [List.singleton_append, List.cons.injEq, true_and] at hwords
    subst hwords
    exact ⟨htoken, hrest⟩
  · rintro ⟨htoken, hrest⟩
    exact ⟨[word], rest, words, ⟨rfl, rfl⟩, rfl, htoken, hrest⟩

end Takes

theorem cutHere_literal {l : Text} {beyond longer : Option Cut} :
    cutHere same (.literal l) word beyond longer =
      if same l word then beyond.map ([word] :: ·) else none := rfl

theorem cutHere_wildcard_longer (hw : token.isWildcard = true) {segment : List Text} {rest : Cut}
    {beyond : Option Cut} :
    cutHere same token word beyond (some (segment :: rest)) = some ((word :: segment) :: rest) := by
  cases token with
  | literal l => simp [Token.isWildcard] at hw
  | star => rfl
  | gap => rfl

theorem cutHere_wildcard_none (hw : token.isWildcard = true) {beyond : Option Cut} :
    cutHere same token word beyond none = beyond.map ([word] :: ·) := by
  cases token with
  | literal l => simp [Token.isWildcard] at hw
  | star => rfl
  | gap => rfl

theorem isCut_of_cutHere_literal {l : Text} {longer : Option Cut} {cut : Cut}
    (hbeyond : ∀ rest, greedyCut? same tokens words = some rest →
      IsCut (fun a b => same a b = true) tokens words rest)
    (h : cutHere same (.literal l) word (greedyCut? same tokens words) longer = some cut) :
    IsCut (fun a b => same a b = true) (.literal l :: tokens) (word :: words) cut := by
  rw [cutHere_literal] at h
  split at h
  · rename_i hsame
    obtain ⟨rest, hrest, rfl⟩ := Option.map_eq_some_iff.mp h
    exact isCut_cons_single.mpr ⟨⟨word, rfl, hsame⟩, hbeyond rest hrest⟩
  · exact absurd h.symm (Option.some_ne_none _)

theorem isCut_of_cutHere_wildcard (hw : token.isWildcard = true) {cut : Cut}
    (hbeyond : ∀ rest, greedyCut? same tokens words = some rest →
      IsCut (fun a b => same a b = true) tokens words rest)
    (hlonger : ∀ longer, greedyCut? same (token :: tokens) words = some longer →
      IsCut (fun a b => same a b = true) (token :: tokens) words longer)
    (h : cutHere same token word (greedyCut? same tokens words)
      (greedyCut? same (token :: tokens) words) = some cut) :
    IsCut (fun a b => same a b = true) (token :: tokens) (word :: words) cut := by
  cases hfound : greedyCut? same (token :: tokens) words with
  | none =>
    rw [hfound, cutHere_wildcard_none hw] at h
    obtain ⟨rest, hrest, rfl⟩ := Option.map_eq_some_iff.mp h
    exact isCut_cons_single.mpr
      ⟨(Token.takes_wildcard hw).mpr (List.cons_ne_nil _ _), hbeyond rest hrest⟩
  | some longer =>
    have hcut := hlonger longer hfound
    obtain ⟨segment, rest, later, rfl, -, htoken, -⟩ := isCut_cons_iff.mp hcut
    rw [hfound, cutHere_wildcard_longer hw] at h
    obtain rfl := Option.some.inj h
    exact (isCut_cons_longer hw ((Token.takes_wildcard hw).mp htoken)).mpr hcut

/-- What the table finds is a cut. -/
theorem isCut_of_greedyCut? {cut : Cut} (h : greedyCut? same tokens words = some cut) :
    IsCut (fun a b => same a b = true) tokens words cut := by
  induction words generalizing tokens cut with
  | nil =>
    cases tokens with
    | nil =>
      rw [greedyCut?_nil_nil] at h
      exact isCut_nil_iff.mpr ⟨rfl, (Option.some.inj h).symm⟩
    | cons token tokens =>
      rw [greedyCut?_cons_nil] at h
      exact absurd h.symm (Option.some_ne_none _)
  | cons word words ih =>
    cases tokens with
    | nil =>
      rw [greedyCut?_nil_cons] at h
      exact absurd h.symm (Option.some_ne_none _)
    | cons token tokens =>
      rw [greedyCut?_cons_cons] at h
      cases token with
      | literal l => exact isCut_of_cutHere_literal (fun _ h => ih h) h
      | star => exact isCut_of_cutHere_wildcard rfl (fun _ h => ih h) (fun _ h => ih h) h
      | gap => exact isCut_of_cutHere_wildcard rfl (fun _ h => ih h) (fun _ h => ih h) h

theorem wildLengths_wildcard (hw : token.isWildcard = true) (segment : List Text) (rest : Cut) :
    wildLengths (token :: tokens) (segment :: rest) =
      segment.length :: wildLengths tokens rest := by
  simp only [wildLengths, hw, if_true]

/-- Making the first wildcard of two cuts one word longer does not change their order. -/
theorem lex_wildLengths_longer (hw : token.isWildcard = true) {first second : List Text}
    {rest rest' : Cut}
    (h : List.Lex (· < ·) (wildLengths (token :: tokens) (first :: rest))
      (wildLengths (token :: tokens) (second :: rest'))) :
    List.Lex (· < ·) (wildLengths (token :: tokens) ((word :: first) :: rest))
      (wildLengths (token :: tokens) ((word :: second) :: rest')) := by
  simp only [wildLengths_wildcard hw, List.length_cons] at h ⊢
  generalize first.length = m at h
  generalize second.length = n at h
  cases h with
  | rel hlt => exact List.Lex.rel (Nat.succ_lt_succ hlt)
  | cons hrest => exact List.Lex.cons hrest

/-- Putting one more word as a segment before two cuts does not change their order. -/
theorem lex_wildLengths_single {rest rest' : Cut}
    (h : List.Lex (· < ·) (wildLengths tokens rest) (wildLengths tokens rest')) :
    List.Lex (· < ·) (wildLengths (token :: tokens) ([word] :: rest))
      (wildLengths (token :: tokens) ([word] :: rest')) := by
  unfold wildLengths
  split
  · exact List.Lex.cons h
  · exact h

theorem lex_wildLengths_one (hw : token.isWildcard = true) {more : List Text} (hmore : more ≠ [])
    (rest rest' : Cut) :
    List.Lex (· < ·) (wildLengths (token :: tokens) ([word] :: rest))
      (wildLengths (token :: tokens) ((word :: more) :: rest')) := by
  have hpos := List.length_pos_iff.mpr hmore
  rw [wildLengths_wildcard hw, wildLengths_wildcard hw]
  apply List.Lex.rel
  simp only [List.length_cons, List.length_nil]
  omega

/-- The table finds a cut that is the given one or a greater one. -/
def FindsFrom (same : Text → Text → Bool) (tokens : List Token) (words : List Text)
    (other : Cut) : Prop :=
  ∃ cut, greedyCut? same tokens words = some cut ∧
    (other = cut ∨ List.Lex (· < ·) (wildLengths tokens other) (wildLengths tokens cut))

theorem findsFrom_literal {l : Text} {rest : Cut} (hsame : same l word = true)
    (h : FindsFrom same tokens words rest) :
    FindsFrom same (.literal l :: tokens) (word :: words) ([word] :: rest) := by
  obtain ⟨cut, hfound, horder⟩ := h
  refine ⟨[word] :: cut, ?_, ?_⟩
  · rw [greedyCut?_cons_cons, cutHere_literal, if_pos hsame, hfound, Option.map_some]
  · rcases horder with rfl | hlex
    · exact Or.inl rfl
    · exact Or.inr (lex_wildLengths_single hlex)

/-- A wildcard that takes one word takes more in the cut that the table finds, if it can. -/
theorem findsFrom_single {rest : Cut} (hw : token.isWildcard = true)
    (h : FindsFrom same tokens words rest) :
    FindsFrom same (token :: tokens) (word :: words) ([word] :: rest) := by
  unfold FindsFrom
  rw [greedyCut?_cons_cons]
  cases hlonger : greedyCut? same (token :: tokens) words with
  | none =>
    obtain ⟨cut, hfound, horder⟩ := h
    rw [hfound, cutHere_wildcard_none hw]
    refine ⟨[word] :: cut, rfl, ?_⟩
    rcases horder with rfl | hlex
    · exact Or.inl rfl
    · exact Or.inr (lex_wildLengths_single hlex)
  | some found =>
    obtain ⟨longest, last, -, rfl, -, htoken, -⟩ := isCut_cons_iff.mp (isCut_of_greedyCut? hlonger)
    exact ⟨(word :: longest) :: last, cutHere_wildcard_longer hw,
      Or.inr (lex_wildLengths_one hw ((Token.takes_wildcard hw).mp htoken) rest last)⟩

theorem findsFrom_longer {segment : List Text} {rest : Cut} (hw : token.isWildcard = true)
    (h : FindsFrom same (token :: tokens) words (segment :: rest)) :
    FindsFrom same (token :: tokens) (word :: words) ((word :: segment) :: rest) := by
  obtain ⟨cut, hfound, horder⟩ := h
  obtain ⟨longest, last, -, rfl, -, -, -⟩ := isCut_cons_iff.mp (isCut_of_greedyCut? hfound)
  refine ⟨(word :: longest) :: last, ?_, ?_⟩
  · rw [greedyCut?_cons_cons, hfound, cutHere_wildcard_longer hw]
  · rcases horder with heq | hlex
    · obtain ⟨rfl, rfl⟩ := List.cons.inj heq
      exact Or.inl rfl
    · exact Or.inr (lex_wildLengths_longer hw hlex)

/-- A wildcard takes one word more if it can; this is greater than whatever the later tokens do. -/
theorem findsFrom_wildcard {other : Cut} (hw : token.isWildcard = true)
    (hbeyond : ∀ rest, IsCut (fun a b => same a b = true) tokens words rest →
      FindsFrom same tokens words rest)
    (hlonger : ∀ longer, IsCut (fun a b => same a b = true) (token :: tokens) words longer →
      FindsFrom same (token :: tokens) words longer)
    (h : IsCut (fun a b => same a b = true) (token :: tokens) (word :: words) other) :
    FindsFrom same (token :: tokens) (word :: words) other := by
  obtain ⟨segment, rest, later, rfl, hwords, htoken, -⟩ := isCut_cons_iff.mp h
  obtain ⟨first, more, rfl⟩ := List.exists_cons_of_ne_nil ((Token.takes_wildcard hw).mp htoken)
  rw [List.cons_append, List.cons.injEq] at hwords
  obtain ⟨rfl, rfl⟩ := hwords
  cases more with
  | nil => exact findsFrom_single hw (hbeyond rest (isCut_cons_single.mp h).2)
  | cons second more =>
    have hrest := (isCut_cons_longer hw (List.cons_ne_nil second more)).mp h
    exact findsFrom_longer hw (hlonger _ hrest)

/-- Where there is a cut the table finds one, which is that cut or a greater one. -/
theorem findsFrom_of_isCut {other : Cut}
    (h : IsCut (fun a b => same a b = true) tokens words other) :
    FindsFrom same tokens words other := by
  -- along the words, for all tokens: a wildcard that takes one more word stays the first of them
  induction words generalizing tokens other with
  | nil =>
    cases tokens with
    | nil =>
      obtain ⟨-, rfl⟩ := isCut_nil_iff.mp h
      exact ⟨[], greedyCut?_nil_nil, Or.inl rfl⟩
    | cons token tokens =>
      obtain ⟨segment, rest, later, -, hwords, htoken, -⟩ := isCut_cons_iff.mp h
      obtain ⟨rfl, -⟩ := List.append_eq_nil_iff.mp hwords.symm
      cases token with
      | literal l => simp [Token.Takes] at htoken
      | star => exact absurd rfl htoken
      | gap => exact absurd rfl htoken
  | cons word words ih =>
    cases tokens with
    | nil => exact absurd (isCut_nil_iff.mp h).1 (List.cons_ne_nil word words)
    | cons token tokens =>
      cases token with
      | literal l =>
        obtain ⟨segment, rest, later, rfl, hwords, ⟨only, rfl, hsame⟩, -⟩ := isCut_cons_iff.mp h
        rw [List.singleton_append, List.cons.injEq] at hwords
        obtain ⟨rfl, rfl⟩ := hwords
        exact findsFrom_literal hsame (ih (isCut_cons_single.mp h).2)
      | star => exact findsFrom_wildcard rfl (fun _ h => ih h) (fun _ h => ih h) h
      | gap => exact findsFrom_wildcard rfl (fun _ h => ih h) (fun _ h => ih h) h

/-- A cut is found if there is any. -/
theorem isSome_greedyCut?_iff :
    (greedyCut? same tokens words).isSome = true ↔
      ∃ cut, IsCut (fun a b => same a b = true) tokens words cut := by
  constructor
  · intro h
    obtain ⟨cut, hcut⟩ := Option.isSome_iff_exists.mp h
    exact ⟨cut, isCut_of_greedyCut? hcut⟩
  · rintro ⟨other, hother⟩
    obtain ⟨cut, hcut, -⟩ := findsFrom_of_isCut hother
    rw [hcut, Option.isSome_some]

/-- The table finds the greatest cut. -/
theorem isGreatestCut_of_greedyCut? {cut : Cut} (h : greedyCut? same tokens words = some cut) :
    IsGreatestCut (fun a b => same a b = true) tokens words cut := by
  refine ⟨isCut_of_greedyCut? h, ?_⟩
  intro other hother hne
  obtain ⟨found, hfound, horder⟩ := findsFrom_of_isCut hother
  obtain rfl := Option.some.inj (h.symm.trans hfound)
  exact horder.resolve_left hne

end ChartDialogue.Matching
