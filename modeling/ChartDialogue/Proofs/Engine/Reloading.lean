import ChartDialogue.Proofs.Distinct
import ChartDialogue.Proofs.Engine.FreshStars

/-!
Reading the corpus folder again. A reload does all of its work or none: what comes after it is as if
it had never been asked for, when the folder cannot be read, and as it would be on a new engine over
what the folder holds and with the same users, when it can. Nothing can be noticed of the edits and the
cached programs of the time before, for engines that agree for every user answer everything alike.
-/
namespace ChartDialogue

namespace Users

variable {users : Users}

theorem distinct_update (h : users.Distinct) (user : Text) (f : UserState → UserState) :
    (users.update user f).Distinct :=
  h.set user _

theorem distinct_setVariables (h : users.Distinct) (user : Text) (values : List (Text × Text)) :
    (users.setVariables user values).Distinct := by
  unfold setVariables
  split_ifs
  · exact h
  · exact distinct_update h user _

theorem distinct_serve (h : users.Distinct) (user : Text) (r : Request) :
    (users.serve user r).2.Distinct := by
  cases r with
  | remove => exact h.erase user
  | setVariables values => exact distinct_setVariables h user values
  | state | predicateOf | variableOf | setPredicate | setVariable | setContext | clearVariables =>
    exact distinct_update h user _

end Users

namespace Engine

variable {e e' : Engine}

section Users

theorem keptBySteps_distinct (user input : Text) :
    KeptBySteps user input (·.users.Distinct) where
  test _ _ h := h
  keepCaptures _ _ h := Users.distinct_setVariables h user _
  render _ _ h := Users.distinct_update h user id

theorem distinct_serve (h : e.users.Distinct) (r : Request) : (e.serve r).2.users.Distinct := by
  cases r with
  | say user input draw => exact (keptBySteps_distinct user input).reply draw h
  | resolve user c => exact (keptBySteps_distinct user []).resolve c h
  | users user request => exact Users.distinct_serve h user request
  | corpus request => exact h
  | reload disk =>
    rw [serve_reload]
    cases Corpus.loadFolder disk e.config.corpusPath <;> exact h
  | clearCache => exact h

/-- No user is ever kept twice. -/
theorem distinct_after (config : Config) (corpus : Corpus) (requests : List Request) :
    (after config corpus requests).users.Distinct := by
  have hnew : (new config corpus).users.Distinct := List.nodup_nil
  exact run_keeps (I := (·.users.Distinct)) (fun _ r h => distinct_serve h r) hnew requests

end Users

section Config

/-- No request changes the configuration. -/
theorem config_serve (e : Engine) (r : Request) : (e.serve r).2.config = e.config := by
  cases r with
  | say user input draw => exact (agree_reply (List.cons_ne_self ' ' user) e input draw).config
  | resolve user c => rfl
  | users user request => rfl
  | corpus request => rfl
  | reload disk =>
    rw [serve_reload]
    cases Corpus.loadFolder disk e.config.corpusPath <;> rfl
  | clearCache => rfl

theorem config_after (config : Config) (corpus : Corpus) (requests : List Request) :
    (after config corpus requests).config = config :=
  run_keeps (I := (·.config = config)) (fun e r h => (config_serve e r).trans h) rfl requests

end Config

/-- Engines that differ at most in the order of their users and in what their matchers cached. -/
structure Interchangeable (e e' : Engine) : Prop where
  agree : ∀ u, Agree u e e'
  distinct : e.users.Distinct
  distinct' : e'.users.Distinct

/-- Every request concerns somebody. -/
theorem exists_concerns (r : Request) : ∃ u, concerns u r = true := by
  cases r with
  | say v | resolve v | users v => exact ⟨v, decide_eq_true rfl⟩
  | corpus | reload | clearCache => exact ⟨[], rfl⟩

namespace Interchangeable

/-- Whom a request concerns is answered alike and left alike, and nobody else notices it. -/
theorem serve (h : Interchangeable e e') (r : Request) :
    (e.serve r).1 = (e'.serve r).1 ∧ Interchangeable (e.serve r).2 (e'.serve r).2 := by
  obtain ⟨v, hv⟩ := exists_concerns r
  refine ⟨((h.agree v).serve hv).1, fun u => ?_, distinct_serve h.distinct r,
    distinct_serve h.distinct' r⟩
  cases hu : concerns u r with
  | true => exact ((h.agree u).serve hu).2
  | false => exact ((agree_serve hu e).trans (h.agree u)).trans (agree_serve hu e').symm

/-- A run of requests tells such engines apart as little as a single one. -/
theorem run (h : Interchangeable e e') (requests : List Request) :
    (e.run requests).1 = (e'.run requests).1 ∧
      Interchangeable (e.run requests).2 (e'.run requests).2 := by
  induction requests generalizing e e' with
  | nil => exact ⟨rfl, h⟩
  | cons r requests ih =>
    obtain ⟨hanswer, hstep⟩ := h.serve r
    obtain ⟨hanswers, hlast⟩ := ih hstep
    rw [run_cons, run_cons]
    refine ⟨?_, hlast⟩
    dsimp only
    rw [hanswer, hanswers]

end Interchangeable

/-- Engines that nobody can tell apart: whatever they are asked, they give the same answers and have the
same configuration and as many users in the end. -/
def Indistinguishable (e e' : Engine) : Prop :=
  ∀ requests, (e.run requests).1 = (e'.run requests).1 ∧
    (e.run requests).2.config = (e'.run requests).2.config ∧
    (e.run requests).2.users.size = (e'.run requests).2.users.size

theorem Interchangeable.indistinguishable (h : Interchangeable e e') : Indistinguishable e e' := by
  intro requests
  obtain ⟨hanswers, hlast⟩ := h.run requests
  refine ⟨hanswers, (hlast.agree []).config, ?_⟩
  exact Dict.size_eq hlast.distinct hlast.distinct' fun u => (hlast.agree u).users

/-- A reload that fails cannot be noticed afterwards. One that succeeds leaves an engine that cannot be
told from a new one over the corpus of the folder to which the same users are known. -/
theorem reload_all_or_nothing (config : Config) (corpus : Corpus) (requests : List Request)
    (disk : Files.Disk) :
    (∀ cause, Corpus.loadFolder disk config.corpusPath = .error cause →
      ((after config corpus requests).serve (.reload disk)).1 = .failed cause ∧
      Indistinguishable ((after config corpus requests).serve (.reload disk)).2
        (after config corpus requests)) ∧
    ∀ fresh, Corpus.loadFolder disk config.corpusPath = .ok fresh →
      ((after config corpus requests).serve (.reload disk)).1 = .done ∧
      ∀ users : Users, users.entries.Perm (after config corpus requests).users.entries →
        Indistinguishable ((after config corpus requests).serve (.reload disk)).2
          { new config fresh with users := users } := by
  have hconfig : (after config corpus requests).config = config := config_after _ _ requests
  have hdistinct : (after config corpus requests).users.Distinct := distinct_after _ _ requests
  constructor
  · intro cause hload
    rw [serve_reload, hconfig, hload]
    exact ⟨rfl, Interchangeable.indistinguishable ⟨fun u => .refl u _, hdistinct, hdistinct⟩⟩
  · intro fresh hload
    rw [serve_reload, hconfig, hload]
    refine ⟨rfl, fun users husers => Interchangeable.indistinguishable ⟨fun u => ?_, hdistinct, ?_⟩⟩
    · exact ⟨rfl, rfl, fun _ => rfl, (Dict.get?_of_perm hdistinct husers u).symm⟩
    · exact (husers.map Prod.fst).nodup_iff.mpr hdistinct

/-- A disk with a flowchart in the corpus folder. -/
def restocked : Files.Disk :=
  { root := .folder [("corpus".toList,
      .folder [("a.mmd".toList, .file "flowchart TD\nA[bye] --> B[see you]".toUTF8)])] }

/-- The corpus of that flowchart. -/
def farewell : Corpus := ⟨[⟨"bye".toList, ["see you".toList], "a.mmd".toList⟩], []⟩

/-- A greeting is taught and used. -/
def lesson : List Request :=
  [.corpus (.add ⟨"hi *".toList, ["hello".toList], []⟩), .say "u".toList "hi Ann".toList 0]

theorem reload_all_or_nothing_lesson :
    (Corpus.loadFolder .empty Config.default.corpusPath = .error (.noFolder "./corpus".toList) ∧
      Indistinguishable ((after .default .empty lesson).serve (.reload .empty)).2
        (after .default .empty lesson)) ∧
    Corpus.loadFolder restocked Config.default.corpusPath = .ok farewell ∧
    Indistinguishable ((after .default .empty lesson).serve (.reload restocked)).2
      { new .default farewell with users := (after .default .empty lesson).users } := by
  have hfailed : Corpus.loadFolder .empty Config.default.corpusPath =
      .error (.noFolder "./corpus".toList) := rfl
  have hloaded : Corpus.loadFolder restocked Config.default.corpusPath = .ok farewell := by
    decide +kernel
  have hnothing := (reload_all_or_nothing .default .empty lesson .empty).1 _ hfailed
  have hall := (reload_all_or_nothing .default .empty lesson restocked).2 _ hloaded
  exact ⟨⟨hfailed, hnothing.2⟩, hloaded, hall.2 _ (List.Perm.refl _)⟩

/-- What was taught is still known after a reload that failed, and forgotten after one that did not;
then the answers are those of the flowchart. -/
example :
    ((after .default .empty lesson).run [.reload .empty, .say "u".toList "Hi Bob".toList 0]).1 =
      [.failed (.noFolder "./corpus".toList), .reply "hello".toList] ∧
    ((after .default .empty lesson).run [.reload restocked, .say "u".toList "Hi Bob".toList 0,
        .say "u".toList "bye".toList 0]).1 =
      [.done, .reply Config.default.defaultResponse, .reply "see you".toList] := by
  decide +kernel

end Engine
end ChartDialogue
