import ChartDialogue.Proofs.Engine.FreshStars
import ChartDialogue.Proofs.Engine.PlainStages
import ChartDialogue.Proofs.Users.Stars
import Mathlib.Data.List.DropRight

/-!
What an engine remembers about its users over a whole run. An input writes to the variables of its
user only, and only what stars captured; so what captures keep of a user's state is kept by every
reply. The other two records of a state hold what requests about the user have set there since the
user was last removed.
-/
namespace ChartDialogue.Engine

open Matching Text

variable {e e' : Engine} {u input : Text} {I : UserState → Prop}

/-- A property of a user's state that stays when the captures of an input are written. -/
def KeptByCaptures (e : Engine) (input : Text) (I : UserState → Prop) : Prop :=
  ∀ s pattern, I s → I (s.setVariables (e.captures input pattern))

/-- An engine that went on for a user and left the user in a state with a property. -/
def LeavesIn (e : Engine) (u : Text) (I : UserState → Prop) (e' : Engine) : Prop :=
  ∃ s, Continues e u s e' ∧ I s

namespace LeavesIn

/-- Every step of a reply keeps what the captures keep. -/
theorem keptBySteps (hkept : KeptByCaptures e input I) : KeptBySteps u input (LeavesIn e u I) where
  test := by
    rintro e' pattern ⟨s, hafter, hs⟩
    exact ⟨s, hafter.test input pattern, hs⟩
  keepCaptures := by
    rintro e' pattern ⟨s, hafter, hs⟩
    exact ⟨_, hafter.keepCaptures input pattern, hkept s pattern hs⟩
  render := by
    rintro e' response ⟨s, hafter, hs⟩
    exact ⟨s, hafter.render response, hs⟩

/-- A property that captures keep holds after a reply, whichever stage has answered. -/
theorem reply (hkept : KeptByCaptures e input I) (hs : I (e.users.state u)) (draw : Nat) :
    LeavesIn e u I (e.reply u input draw).2 :=
  (keptBySteps hkept).reply draw ⟨_, Continues.refl e u, hs⟩

end LeavesIn

/-- The records of a user's state that no input writes to. -/
inductive Record where
  | predicates
  | context

namespace Record

def ofState : Record → UserState → Dict Text Text
  | predicates, s => s.predicates
  | context, s => s.context

/-- The name and the value that a request about a user sets in a record. -/
def entry? : Record → Users.Request → Option (Text × Text)
  | predicates, .setPredicate name value => some (name, value)
  | context, .setContext name value => some (name, value)
  | _, _ => none

end Record

def isRemoval : Users.Request → Bool
  | .remove => true
  | _ => false

/-- Whether a request about a user sets variables itself. -/
def setsVariables : Users.Request → Bool
  | .setVariable _ _ => true
  | .setVariables _ => true
  | _ => false

/-- Whether a request sets variables of a user itself. -/
def writesVariables : Request → Bool
  | .users _ request => setsVariables request
  | _ => false

/-- What requests about a user have set in a record since the last one that removed the user. -/
def Record.entries (record : Record) (log : List Users.Request) : List (Text × Text) :=
  (log.rtakeWhile (!isRemoval ·)).filterMap record.entry?

/-- What a request asks about a user, if it is about that user. -/
def about? (u : Text) : Request → Option Users.Request
  | .users v request => if v = u then some request else none
  | _ => none

section Records

variable (record : Record) (log : List Users.Request) {request : Users.Request} {users : Users}

theorem entries_of_isRemoval (hr : isRemoval request = true) :
    record.entries (log ++ [request]) = [] := by
  have hstop : ¬(!isRemoval request) = true := by simp [hr]
  rw [Record.entries, List.rtakeWhile_concat_neg (!isRemoval ·) log request hstop]
  rfl

/-- A request adds to a record what it sets there. -/
theorem entries_append (hr : isRemoval request = false) :
    record.entries (log ++ [request]) = record.entries log ++ (record.entry? request).toList := by
  have hgo : (!isRemoval request) = true := by simp [hr]
  rw [Record.entries, List.rtakeWhile_concat_pos (!isRemoval ·) log request hgo,
    List.filterMap_append]
  rfl

/-- A request about a user that does not remove the user sets its entry in each record. -/
theorem ofState_serve (hr : isRemoval request = false) :
    record.ofState ((users.serve u request).2.state u) =
      (record.ofState (users.state u)).setAll (record.entry? request).toList := by
  cases request with
  | remove => exact absurd hr.symm Bool.false_ne_true
  | setVariables values =>
    have hstate : (users.serve u (.setVariables values)).2.state u =
        (users.state u).setVariables values := Users.state_setVariables values
    rw [hstate]
    cases record <;> rfl
  | setPredicate name value =>
    have hstate : (users.serve u (.setPredicate name value)).2.state u =
        (users.state u).setPredicate name value := Users.state_update _
    rw [hstate]
    cases record <;> rfl
  | setContext name value =>
    have hstate : (users.serve u (.setContext name value)).2.state u =
        (users.state u).setContext name value := Users.state_update _
    rw [hstate]
    cases record <;> rfl
  | setVariable name value =>
    have hstate : (users.serve u (.setVariable name value)).2.state u =
        (users.state u).setVariable name value := Users.state_update _
    rw [hstate]
    cases record <;> rfl
  | clearVariables =>
    have hstate : (users.serve u .clearVariables).2.state u = (users.state u).clearVariables :=
      Users.state_update _
    rw [hstate]
    cases record <;> rfl
  | state | predicateOf | variableOf =>
    have htouch : (users.touch u).state u = users.state u := Users.state_update id
    rw [Users.serve, htouch]
    cases record <;> rfl

theorem state_serve_remove : (users.serve u .remove).2.state u = .empty := by
  rw [Users.serve, Users.state, Dict.get?_erase_self]
  rfl

/-- A request about a user that does not set variables leaves them or takes them all away. -/
theorem numbered_serve (hr : setsVariables request = false)
    (h : Numbered (users.state u).bindings) :
    Numbered ((users.serve u request).2.state u).bindings := by
  have hupdate : ∀ f : UserState → UserState, Numbered (f (users.state u)).bindings →
      Numbered ((users.update u f).state u).bindings := by
    intro f hf
    rw [Users.state_update]
    exact hf
  cases request with
  | remove =>
    rw [state_serve_remove]
    exact numbered_empty
  | clearVariables => exact hupdate _ numbered_empty
  | setVariable name value => exact absurd hr.symm Bool.false_ne_true
  | setVariables values => exact absurd hr.symm Bool.false_ne_true
  | setPredicate name value => exact hupdate _ h
  | setContext name value => exact hupdate _ h
  | state | predicateOf | variableOf => exact hupdate id h

end Records

/-- What holds for a user of an engine that was new, after some requests about that user. -/
structure Remembers (u : Text) (log : List Users.Request) (e : Engine) : Prop where
  matcher : Matcher.Alike e.matcher .empty
  numbered : Numbered (e.users.state u).bindings
  records : ∀ record : Record, record.ofState (e.users.state u) = Dict.ofList (record.entries log)

variable {log : List Users.Request} {r : Request}

/-- A new engine remembers nothing of anyone. -/
theorem remembers_new (config : Config) (corpus : Corpus) (u : Text) :
    Remembers u [] (new config corpus) where
  matcher := fun _ => rfl
  numbered := numbered_empty
  records := fun record => by cases record <;> rfl

/-- Nothing changes for a user whose state stays. -/
theorem Remembers.of_state (h : Remembers u log e) (hmatcher : Matcher.Alike e'.matcher .empty)
    (hstate : e'.users.state u = e.users.state u) : Remembers u log e' where
  matcher := hmatcher
  numbered := by rw [hstate]; exact h.numbered
  records := fun record => by rw [hstate]; exact h.records record

/-- What stars capture keeps the variables numbered and the records as they are. -/
theorem Remembers.say (h : Remembers u log e) (input : Text) (draw : Nat) :
    Remembers u log (e.reply u input draw).2 := by
  have hkept : KeptByCaptures e input fun s =>
      Numbered s.bindings ∧ ∀ record : Record, record.ofState s = Dict.ofList (record.entries log) := by
    rintro s pattern ⟨hnumbered, hrecords⟩
    obtain ⟨texts, htexts, htidy⟩ := Matcher.exists_tidy_capture h.matcher input pattern
    rw [captures, htexts]
    refine ⟨hnumbered.setAll htidy, fun record => ?_⟩
    cases record with
    | predicates => exact hrecords .predicates
    | context => exact hrecords .context
  obtain ⟨s, hafter, hnumbered, hrecords⟩ :=
    LeavesIn.reply (u := u) hkept ⟨h.numbered, h.records⟩ draw
  refine ⟨hafter.matcher.trans h.matcher, ?_, ?_⟩
  · rw [hafter.state]
    exact hnumbered
  · rw [hafter.state]
    exact hrecords

/-- A request about the user is remembered. -/
theorem Remembers.ask (h : Remembers u log e) {request : Users.Request}
    (hr : setsVariables request = false) :
    Remembers u (log ++ [request]) (e.serve (.users u request)).2 where
  matcher := h.matcher
  numbered := numbered_serve hr h.numbered
  records := by
    intro record
    cases hremoval : isRemoval request with
    | false =>
      have hserve : record.ofState ((e.users.serve u request).2.state u) = _ :=
        ofState_serve record hremoval
      rw [entries_append record log hremoval, Dict.ofList, Dict.setAll, List.foldl_append]
      rw [h.records record] at hserve
      exact hserve
    | true =>
      cases request with
      | remove =>
        have hstate : (e.serve (.users u .remove)).2.users.state u = .empty := state_serve_remove
        rw [entries_of_isRemoval record log hremoval, hstate]
        cases record <;> rfl
      | _ => exact absurd hremoval Bool.false_ne_true

/-- A request that is not about the user leaves the records of the user, and the user's variables
numbered. -/
theorem Remembers.serve_other (h : Remembers u log e) (hr : about? u r = none) :
    Remembers u log (e.serve r).2 := by
  have hmatcher := alike_serve h.matcher r
  cases r with
  | say v input draw =>
    by_cases hv : v = u
    · rw [← hv] at h ⊢
      exact h.say input draw
    · have hagree := agree_reply (Ne.symm hv) e input draw
      exact h.of_state hmatcher (Users.state_congr hagree.users)
  | resolve v c =>
    by_cases hv : v = u
    · rw [← hv] at h ⊢
      exact h.of_state hmatcher ((Continues.refl e v).resolve c).state
    · have hagree := agree_resolve (Ne.symm hv) e c
      exact h.of_state hmatcher (Users.state_congr hagree.users)
  | users v request =>
    have hne : u ≠ v := by
      rintro rfl
      rw [about?, if_pos rfl] at hr
      exact Option.some_ne_none _ hr
    exact h.of_state hmatcher (Users.state_congr (Users.get?_serve_of_ne hne request))
  | corpus request => exact h.of_state hmatcher rfl
  | reload disk =>
    refine h.of_state hmatcher ?_
    rw [serve_reload]
    cases Corpus.loadFolder disk e.config.corpusPath <;> rfl
  | clearCache => exact h.of_state hmatcher rfl

theorem eq_users_of_about? {request : Users.Request} (h : about? u r = some request) :
    r = .users u request := by
  cases r with
  | users v asked =>
    by_cases hv : v = u
    · rw [about?, if_pos hv] at h
      rw [hv, Option.some.inj h]
    · rw [about?, if_neg hv] at h
      exact absurd h.symm (Option.some_ne_none _)
  | say | resolve | corpus | reload | clearCache => exact absurd h.symm (Option.some_ne_none _)

/-- One step of a run: a request about the user goes to the log. -/
theorem Remembers.serve (h : Remembers u log e) (hr : writesVariables r = false) :
    Remembers u (log ++ (about? u r).toList) (e.serve r).2 := by
  cases habout : about? u r with
  | none =>
    rw [Option.toList_none, List.append_nil]
    exact h.serve_other habout
  | some request =>
    rw [eq_users_of_about? habout] at hr ⊢
    exact h.ask hr

/-- By induction over the requests. -/
theorem Remembers.run (h : Remembers u log e) {requests : List Request}
    (hr : ∀ r ∈ requests, writesVariables r = false) :
    Remembers u (log ++ requests.filterMap (about? u)) (e.run requests).2 := by
  induction requests generalizing e log with
  | nil =>
    rw [List.filterMap_nil, List.append_nil]
    exact h
  | cons r requests ih =>
    have hstep := h.serve (hr r List.mem_cons_self)
    have hrest := ih hstep fun d hd => hr d (List.mem_cons_of_mem r hd)
    rw [List.append_assoc] at hrest
    have hlog : (about? u r).toList ++ requests.filterMap (about? u) =
        (r :: requests).filterMap (about? u) := by
      rw [List.filterMap_cons]
      cases about? u r <;> rfl
    rw [← hlog]
    exact hrest

/-- In every state that an engine over a corpus reaches, whatever it was asked except to set variables:
the variables of every user are numbered, and the predicates and the context of a user have the values
that the requests about this user set last, since the user was last removed. -/
theorem state_after (config : Config) (corpus : Corpus) (requests : List Request)
    (hrequests : ∀ r ∈ requests, writesVariables r = false) (user : Text) :
    Numbered ((after config corpus requests).users.state user).bindings ∧
    (∀ name, ((after config corpus requests).users.state user).predicates.get? name =
      ((Record.predicates.entries (requests.filterMap (about? user))).reverse.find?
        (·.1 = name)).map Prod.snd) ∧
    ∀ name, ((after config corpus requests).users.state user).context.get? name =
      ((Record.context.entries (requests.filterMap (about? user))).reverse.find?
        (·.1 = name)).map Prod.snd := by
  have hremembers := (remembers_new config corpus user).run hrequests
  refine ⟨hremembers.numbered, fun name => ?_, fun name => ?_⟩
  · rw [← Dict.get?_ofList]
    exact congrArg (Dict.get? · name) (hremembers.records .predicates)
  · rw [← Dict.get?_ofList]
    exact congrArg (Dict.get? · name) (hremembers.records .context)

/-- Two users talk, one of them after being removed. -/
def chat : List Request :=
  [.users "u".toList (.setPredicate "mood".toList "bad".toList), .users "u".toList .remove,
    .say "u".toList "hi Ann and Bob".toList 0, .users "v".toList (.setContext "a".toList "b".toList),
    .users "u".toList (.setPredicate "mood".toList "good".toList), .say "u".toList "bye  Ann".toList 0]

/-- A corpus with a pattern of two stars and one of a single star. -/
def greetings : Corpus :=
  ⟨[⟨"hi * and *".toList, ["hello <star/>".toList], []⟩,
    ⟨"bye *".toList, ["see you".toList], []⟩], []⟩

theorem state_after_chat :
    (∀ r ∈ chat, writesVariables r = false) ∧
    Numbered ((after .default greetings chat).users.state "u".toList).bindings ∧
    ((after .default greetings chat).users.state "u".toList).predicates.get? "mood".toList =
      some "good".toList ∧
    ((after .default greetings chat).users.state "u".toList).context.get? "a".toList = none := by
  have hrequests : ∀ r ∈ chat, writesVariables r = false := by decide
  obtain ⟨hnumbered, hpredicates, hcontext⟩ :=
    state_after .default greetings chat hrequests "u".toList
  exact ⟨hrequests, hnumbered, (hpredicates _).trans (by decide), (hcontext _).trans (by decide)⟩

/-- The captures of the last input stand before what is left of those of an earlier one. -/
example : ((after .default greetings chat).users.state "u".toList).bindings.entries =
    [("star".toList, "Ann".toList), ("star1".toList, "Ann".toList),
      ("star2".toList, "Bob".toList)] := by decide +kernel

end ChartDialogue.Engine
