import ChartDialogue.Proofs.Text.Replacing
import ChartDialogue.Users.Template

/-!
Rendering a template. Once the get tags are replaced the text is cut at its star tags, and what the
star captured is put between the parts as it is. So the captured text is never read as markup: which
predicates a response shows is decided by the template and by the predicates that it names.
-/
namespace ChartDialogue.Template

open Text

/-- The names in the get tags of a template. -/
def namesIn (template : Text) : List Text :=
  getScanner.findAll template

/-- A template with its get tags replaced. The star tags of the result are the ones that count. -/
def withPredicates (predicates : Dict Text Text) (template : Text) : Text :=
  getScanner.replaceAll (fun name => (predicates.get? name).getD []) template

/-- What is put in the place of a star tag for a user. -/
def starText (state : UserState) : Text :=
  (state.bindings.get? Matching.starKey).getD []

/-- The parts of a response around what the star captured. -/
def fragments (predicates : Dict Text Text) (template : Text) : List Text :=
  runs (starScanner.pieces (withPredicates predicates template))

variable {template : Text}

/-- Only the predicates that a template names count. -/
theorem withPredicates_congr {d d' : Dict Text Text}
    (h : ∀ name ∈ namesIn template, d.get? name = d'.get? name) :
    withPredicates d template = withPredicates d' template :=
  getScanner.replaceAll_congr fun name hname => congrArg (Option.getD · []) (h name hname)

/-- What the star captured stands between parts that do not depend on it. -/
theorem render_eq_join (template : Text) (state : UserState) :
    render template state = join (starText state) (fragments state.predicates template) :=
  starScanner.replaceAll_const (starText state) (withPredicates state.predicates template)

theorem length_fragments (predicates : Dict Text Text) (template : Text) :
    (fragments predicates template).length =
      (starScanner.findAll (withPredicates predicates template)).length + 1 := by
  rw [fragments, length_runs, Scanner.findAll_eq_items]

/-- A template and the predicates that it names determine the parts of the response, one more than there
are star tags. For every user with these predicates, whatever else is known about the user, the response
is these parts with what the star captured between any two of them. So two users for whom the star
captured the same get the same response if they have the same values for the names in the template. -/
theorem render_verbatim (template : Text) :
    (∀ predicates : Dict Text Text, ∃ parts : List Text,
      parts.length = (starScanner.findAll (withPredicates predicates template)).length + 1 ∧
      ∀ state : UserState,
        (∀ name ∈ namesIn template, state.predicates.get? name = predicates.get? name) →
        render template state = join (starText state) parts) ∧
    ∀ state other : UserState, starText state = starText other →
      (∀ name ∈ namesIn template, state.predicates.get? name = other.predicates.get? name) →
      render template state = render template other := by
  constructor
  · intro predicates
    refine ⟨fragments predicates template, length_fragments predicates template, ?_⟩
    intro state hknown
    rw [render_eq_join, fragments, withPredicates_congr hknown, fragments]
  · intro state other hstar hknown
    rw [render_eq_join, render_eq_join, hstar, fragments, withPredicates_congr hknown, fragments]

/-- A user with a secret who has typed a get tag. -/
def snooper : UserState where
  predicates := ⟨[("echo".toList, "<star/>".toList), ("pin".toList, "1234".toList)]⟩
  bindings := ⟨[("star".toList, "<get name=\"pin\"/> <star/> $1".toList)]⟩
  context := Dict.empty

theorem render_verbatim_snooper :
    namesIn "<get name = \"echo\"/> <star />".toList = ["echo".toList] ∧
    ∃ parts : List Text, parts.length = 3 ∧
      render "<get name = \"echo\"/> <star />".toList snooper =
        join "<get name=\"pin\"/> <star/> $1".toList parts := by
  obtain ⟨parts, hlength, hrender⟩ :=
    (render_verbatim "<get name = \"echo\"/> <star />".toList).1 snooper.predicates
  refine ⟨by decide +kernel, parts, hlength.trans (by decide +kernel), ?_⟩
  exact hrender snooper fun _ _ => rfl

end ChartDialogue.Template
