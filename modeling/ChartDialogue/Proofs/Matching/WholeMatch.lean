import ChartDialogue.Proofs.Matching.GreedyCut
import ChartDialogue.Proofs.Matching.Search

/-!
The first whole match of a pattern's expression is the greedy cut. By induction over the tokens,
what the search does with the rest of a text is what the table of cuts holds for the rest of the
words, so every choice between two ways is the choice between two cuts.
-/
namespace ChartDialogue.Matching

open Text

namespace Use

/-- What a token adds to the groups of the later tokens when it has taken a text. -/
def keep : Use → Token → Text → List Text → List Text
  | capture, .star, taken, groups => taken :: groups
  | _, _, _, groups => groups

/-- The texts of the groups in a cut; only a search for captures has groups. -/
def groups : Use → List Token → Cut → List Text
  | test _, _, _ => []
  | capture, tokens, cut => captured tokens cut

theorem groups_nil (use : Use) : use.groups [] [] = [] := by
  cases use <;> rfl

theorem groups_cons (use : Use) (token : Token) (tokens : List Token) (segment : List Text)
    (rest : Cut) :
    use.groups (token :: tokens) (segment :: rest) =
      use.keep token (join [' '] segment) (use.groups tokens rest) := by
  cases use <;> cases token <;> rfl

end Use

namespace Expr

theorem groups_of_mem_ways_one {p : Char → Bool} {s : Text} {w : Way} (hw : w ∈ (one p).ways s) :
    w.groups = [] := by
  cases s with
  | nil => exact absurd hw List.not_mem_nil
  | cons c s =>
    unfold ways at hw
    split at hw
    · rw [List.mem_singleton.mp hw]
    · exact absurd hw List.not_mem_nil

theorem groups_of_mem_manyWays {f : Text → List Way} (hf : ∀ s, ∀ w ∈ f s, w.groups = [])
    {budget : Nat} {s : Text} {w : Way} (hw : w ∈ manyWays f budget s) : w.groups = [] := by
  induction budget generalizing s w with
  | zero => rw [List.mem_singleton.mp hw]
  | succ budget ih =>
    rcases List.mem_append.mp hw with hw | hw
    · obtain ⟨u, hu, hw⟩ := List.mem_flatMap.mp hw
      obtain ⟨v, hv, rfl⟩ := List.mem_map.mp hw
      have hfirst := hf s u (List.mem_of_mem_filter hu)
      have hlater := ih hv
      simp only [hfirst, hlater, List.append_nil]
    · rw [List.mem_singleton.mp hw]

/-- Repeating a class keeps nothing. -/
theorem groups_of_mem_ways_line {s : Text} {w : Way} (hw : w ∈ line.ways s) : w.groups = [] := by
  unfold line plus ways at hw
  obtain ⟨u, hu, hw⟩ := List.mem_flatMap.mp hw
  obtain ⟨v, hv, rfl⟩ := List.mem_map.mp hw
  have hfirst := groups_of_mem_ways_one hu
  have hlater := groups_of_mem_manyWays (fun _ _ hw => groups_of_mem_ways_one hw) hv
  simp only [hfirst, hlater, List.append_nil]

/-- A group records the text that its part has taken. -/
theorem run_group_line {next : Text → Option (List Text)} (s : Text) :
    (group line).run next s =
      line.run (fun rest => (next rest).map (s.take (s.length - rest.length) :: ·)) s := by
  unfold run
  rw [ways, List.findSome?_map, ← List.head?_filterMap, ← List.head?_filterMap]
  congr 1
  refine List.filterMap_congr fun w hw => ?_
  have hgroups := groups_of_mem_ways_line hw
  simp only [Function.comp_apply, hgroups, List.nil_append, Option.map_map]
  rfl

end Expr

variable {same : Text → Text → Bool} {use : Use} {token : Token} {tokens : List Token}

/-- What a search does with the rest of a text after some words is what the table of cuts holds
for the words that are left. -/
def FollowsCuts (use : Use) (tokens : List Token) (next : Text → Option (List Text)) : Prop :=
  ∀ ws, (∀ w ∈ ws, Unbroken w) →
    next (spaced ws) = (greedyCut? use.folding.same tokens ws).map (use.groups tokens)

/-- The first word of a found cut is the first word of all. -/
theorem exists_of_greedyCut?_wildcard (hw : token.isWildcard = true) {w : Text} {ws : List Text}
    {cut : Cut} (h : greedyCut? same (token :: tokens) (w :: ws) = some cut) :
    ∃ more rest, cut = (w :: more) :: rest := by
  obtain ⟨segment, rest, later, rfl, hwords, htoken, -⟩ := isCut_cons_iff.mp (isCut_of_greedyCut? h)
  obtain ⟨first, more, rfl⟩ := List.exists_cons_of_ne_nil ((Token.takes_wildcard hw).mp htoken)
  rw [List.cons_append, List.cons.injEq] at hwords
  obtain ⟨rfl, -⟩ := hwords
  exact ⟨more, rest, rfl⟩

/-- The furthest words after which the rest can be cut are those of the greedy cut. The text up to
them is `taken`, which ends with the word `w`. -/
theorem furthest_eq_greedyCut? (hw : token.isWildcard = true) {next : Text → Option (List Text)}
    (hnext : FollowsCuts use tokens next) {s taken w : Text} {ws : List Text}
    (hs : s = taken ++ spaced ws) (hws : ∀ v ∈ ws, Unbroken v) :
    Expr.furthest (fun rest => (next rest).map (use.keep token (s.take (s.length - rest.length))))
        ws =
      (greedyCut? use.folding.same (token :: tokens) (w :: ws)).map fun cut =>
        use.keep token (taken ++ spaced (cut.headD []).tail) (use.groups tokens cut.tail) := by
  induction ws generalizing taken w with
  | nil =>
    have htaken : s.take (s.length - 0) = taken := by simp [hs, spaced]
    have hnil : next [] = _ := hnext [] hws
    rw [Expr.furthest, List.length_nil, htaken, hnil, greedyCut?_cons_cons, greedyCut?_cons_nil,
      cutHere_wildcard_none hw, Option.map_map, Option.map_map]
    cases greedyCut? use.folding.same tokens [] <;> simp [spaced]
  | cons v ws ih =>
    have hrest : ∀ u ∈ ws, Unbroken u := fun u hu => hws u (List.mem_cons_of_mem v hu)
    have hstep : s = (taken ++ ' ' :: v) ++ spaced ws := by
      rw [hs, spaced_cons, List.append_assoc, List.cons_append]
    have htaken : s.take (s.length - (spaced (v :: ws)).length) = taken := by
      rw [hs, List.length_append, Nat.add_sub_cancel, List.take_left']
      rfl
    have hcut : greedyCut? use.folding.same (token :: tokens) (w :: v :: ws) = _ :=
      greedyCut?_cons_cons
    rw [Expr.furthest, ih hstep hrest (w := v), htaken, hnext _ hws, hcut]
    cases hlonger : greedyCut? use.folding.same (token :: tokens) (v :: ws) with
    | none =>
      rw [cutHere_wildcard_none hw, Option.map_none, Option.none_or, Option.map_map, Option.map_map]
      cases greedyCut? use.folding.same tokens (v :: ws) <;> simp [spaced]
    | some cut =>
      obtain ⟨more, rest, rfl⟩ := exists_of_greedyCut?_wildcard hw hlonger
      rw [cutHere_wildcard_longer hw]
      simp [spaced_cons]

/-- The search gives back words one by one until the table has a cut for the rest. -/
theorem furthest_eq_groups (hw : token.isWildcard = true) {next : Text → Option (List Text)}
    (hnext : FollowsCuts use tokens next) {w : Text} {ws : List Text}
    (hws : ∀ v ∈ ws, Unbroken v) :
    Expr.furthest (fun rest => (next rest).map
        (use.keep token ((w ++ spaced ws).take ((w ++ spaced ws).length - rest.length)))) ws =
      (greedyCut? use.folding.same (token :: tokens) (w :: ws)).map
        (use.groups (token :: tokens)) := by
  rw [furthest_eq_greedyCut? hw hnext rfl hws (w := w)]
  cases hcut : greedyCut? use.folding.same (token :: tokens) (w :: ws) with
  | none => rfl
  | some cut =>
    obtain ⟨more, rest, rfl⟩ := exists_of_greedyCut?_wildcard hw hcut
    rw [Option.map_some, Option.map_some, use.groups_cons, join_cons]
    rfl

/-- Where a wildcard keeps nothing, only what comes after it counts. -/
theorem furthest_eq_groups_of_keep (hw : token.isWildcard = true)
    (hkeep : ∀ taken groups, use.keep token taken groups = groups)
    {next : Text → Option (List Text)} (hnext : FollowsCuts use tokens next) {w : Text}
    {ws : List Text} (hws : ∀ v ∈ ws, Unbroken v) :
    Expr.furthest next ws =
      (greedyCut? use.folding.same (token :: tokens) (w :: ws)).map
        (use.groups (token :: tokens)) := by
  rw [← furthest_eq_groups hw hnext hws]
  congr 1
  funext rest
  have hid : use.keep token ((w ++ spaced ws).take ((w ++ spaced ws).length - rest.length)) = id :=
    funext fun groups => hkeep _ groups
  rw [hid, Option.map_id]
  rfl

/-- A token takes from the first word on what the table says. -/
theorem run_ofToken {next : Text → Option (List Text)} (hstop : StopsInWords next)
    (hnext : FollowsCuts use tokens next)
    (hliteral : ∀ l, token = .literal l → Unbroken l) {w : Text} {ws : List Text}
    (hw : Unbroken w) (hws : ∀ v ∈ ws, Unbroken v) :
    (Expr.ofToken use token).run next (w ++ spaced ws) =
      (greedyCut? use.folding.same (token :: tokens) (w :: ws)).map
        (use.groups (token :: tokens)) := by
  cases token with
  | literal l =>
    have hexpr : Expr.ofToken use (.literal l) = Expr.word use.folding l := by cases use <;> rfl
    have hkeep : ∀ cut, use.groups (.literal l :: tokens) ([w] :: cut) = use.groups tokens cut := by
      intro cut
      cases use <;> rfl
    rw [hexpr, Expr.run_word hstop (hliteral l rfl).2 hw.2, greedyCut?_cons_cons, cutHere_literal,
      hnext ws hws]
    split
    · rw [Option.map_map]
      congr 1
      funext cut
      exact (hkeep cut).symm
    · rfl
  | star =>
    cases use with
    | test folding =>
      exact (Expr.run_words hstop hw hws).trans
        (furthest_eq_groups_of_keep rfl (fun _ _ => rfl) hnext hws)
    | capture =>
      -- a group adds its text to what is found later and lets nothing succeed that did not
      have hstop' : ∀ s : Text → Text, StopsInWords fun rest => (next rest).map (s rest :: ·) := by
        intro s c r hc
        simp only [hstop c r hc, Option.map_none]
      rw [Expr.ofToken, Expr.run_group_line, Expr.run_line (hstop' _) hw hws]
      exact furthest_eq_groups (show Token.star.isWildcard = true from rfl) hnext hws
  | gap =>
    cases use with
    | test folding =>
      exact (Expr.run_words hstop hw hws).trans
        (furthest_eq_groups_of_keep rfl (fun _ _ => rfl) hnext hws)
    | capture =>
      exact (Expr.run_line hstop hw hws).trans
        (furthest_eq_groups_of_keep rfl (fun _ _ => rfl) hnext hws)

/-- No token takes nothing. -/
theorem run_ofToken_nil {next : Text → Option (List Text)}
    (hliteral : ∀ l, token = .literal l → Unbroken l) :
    (Expr.ofToken use token).run next [] = none := by
  cases token with
  | literal l =>
    obtain ⟨c, l, rfl⟩ := List.exists_cons_of_ne_nil (hliteral _ rfl).1
    have hexpr : Expr.ofToken use (.literal (c :: l)) = Expr.word use.folding (c :: l) := by
      cases use <;> rfl
    rw [hexpr, Expr.word, Expr.run_seq, Expr.run_one_nil]
  | star => cases use <;> rfl
  | gap => cases use <;> rfl

namespace Expr

/-- What a search has to do after a token: the later tokens, with blanks before them. -/
def after (use : Use) : List Token → Text → Option (List Text)
  | [], s => atEnd s
  | token :: tokens, s => blanks.run ((ofTokens use (token :: tokens)).run atEnd) s

theorem run_ofTokens_cons (use : Use) (token : Token) (tokens : List Token) (s : Text) :
    (ofTokens use (token :: tokens)).run atEnd s = (ofToken use token).run (after use tokens) s := by
  cases tokens with
  | nil => rfl
  | cons next rest =>
    rw [ofTokens, run_seq]
    congr 1
    funext r
    rw [run_seq, after]

theorem stopsInWords_after (use : Use) (tokens : List Token) : StopsInWords (after use tokens) := by
  intro c s hc
  cases tokens with
  | nil => rfl
  | cons token tokens =>
    refine run_blanks_none fun d hd => ?_
    obtain rfl := Option.some.inj hd
    exact hc

/-- By induction over the tokens: a search with them does what the table says. -/
theorem followsCuts_after (use : Use) {tokens : List Token}
    (hliteral : ∀ l, Token.literal l ∈ tokens → Unbroken l) :
    FollowsCuts use tokens (after use tokens) := by
  induction tokens with
  | nil =>
    intro ws _
    cases ws with
    | nil => rw [greedyCut?_nil_nil, Option.map_some, use.groups_nil]; rfl
    | cons w ws => rfl
  | cons token tokens ih =>
    intro ws hws
    have hlater := ih fun l hl => hliteral l (List.mem_cons_of_mem token hl)
    cases ws with
    | nil => rw [greedyCut?_cons_nil]; rfl
    | cons w ws =>
      have hw := hws w List.mem_cons_self
      rw [after, spaced_cons, run_blanks hw, run_ofTokens_cons]
      exact run_ofToken (stopsInWords_after use tokens) hlater
        (fun l hl => hliteral l (hl ▸ List.mem_cons_self)) hw
        fun v hv => hws v (List.mem_cons_of_mem w hv)

/-- The first whole match of the expression of some tokens is the greedy cut of the words. -/
theorem wholeMatch?_ofTokens (use : Use) {tokens : List Token} {ws : List Text}
    (hliteral : ∀ l, Token.literal l ∈ tokens → Unbroken l)
    (hws : ∀ w ∈ ws, Unbroken w) :
    (ofTokens use tokens).wholeMatch? (join [' '] ws) =
      (greedyCut? use.folding.same tokens ws).map (use.groups tokens) := by
  rw [wholeMatch?_eq_run]
  cases tokens with
  | nil =>
    have hfollows := followsCuts_after use hliteral
    rw [ofTokens, run_empty]
    cases ws with
    | nil => exact hfollows [] hws
    | cons w ws =>
      obtain ⟨c, w', rfl⟩ := List.exists_cons_of_ne_nil (hws w List.mem_cons_self).1
      rw [join_cons]
      rfl
  | cons token tokens =>
    cases ws with
    | nil =>
      rw [greedyCut?_cons_nil, run_ofTokens_cons]
      exact run_ofToken_nil fun l hl => hliteral l (hl ▸ List.mem_cons_self)
    | cons w ws =>
      rw [join_cons, run_ofTokens_cons]
      exact run_ofToken (stopsInWords_after use tokens)
        (followsCuts_after use fun l hl => hliteral l (List.mem_cons_of_mem token hl))
        (fun l hl => hliteral l (hl ▸ List.mem_cons_self)) (hws w List.mem_cons_self)
        fun v hv => hws v (List.mem_cons_of_mem w hv)

end Expr
end ChartDialogue.Matching
