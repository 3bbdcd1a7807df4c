import ChartDialogue.Corpus.Load
import Mathlib.Tactic.SplitIfs

/-!
Corpora that come out of compiling. Whatever the flowcharts say, every plain category of such a
corpus has a template, so a category that matches an input can always answer it.
-/
namespace ChartDialogue.Corpus

open Chart

/-- Corpora that are made of compiled flowcharts: of a text, of a file, of a folder, or of several of
these in a row. -/
inductive Compiled : Corpus → Prop
  | empty : Compiled empty
  | ofText (text sourceFile : Text) : Compiled (ofText text sourceFile)
  | ofFile {disk : Files.Disk} {path : Text} {c : Corpus} (h : loadFile disk path = .ok c) : Compiled c
  | ofFolder {disk : Files.Disk} {path : Text} {c : Corpus} (h : loadFolder disk path = .ok c) :
    Compiled c
  | append {c d : Corpus} (hc : Compiled c) (hd : Compiled d) : Compiled (c.append d)

/-- Every plain category has a template. -/
def Answers (c : Corpus) : Prop :=
  ∀ category ∈ c.categories, category.templates ≠ []

theorem answers_empty : Answers empty :=
  fun _ h => absurd h List.not_mem_nil

theorem category?_eq_some {g : Graph} {sourceFile : Text} {n : Node} {category : Category}
    (h : category? g sourceFile n = some category) :
    n.text ≠ [] ∧ category = ⟨n.text, templates g n.id, sourceFile⟩ := by
  unfold category? at h
  split_ifs at h with hnone
  refine ⟨fun hnil => hnone ?_, (Option.some.inj h).symm⟩
  rw [hnil]
  exact Bool.true_or _

theorem templates_of_category? {g : Graph} {sourceFile : Text} {n : Node} {category : Category}
    (h : category? g sourceFile n = some category) : category.templates ≠ [] := by
  unfold category? at h
  split_ifs at h with hnone
  obtain rfl := Option.some.inj h
  intro hnil
  dsimp only at hnil
  rw [hnil] at hnone
  exact hnone (Bool.or_true _)

/-- A start node without an answer makes no category. -/
theorem answers_compile (g : Graph) (sourceFile : Text) : Answers (compile g sourceFile) := by
  intro category hcategory
  obtain ⟨n, -, hn⟩ := List.mem_filterMap.mp hcategory
  exact templates_of_category? hn

/-- What holds of every category of two corpora holds of both in a row. -/
theorem Answers.append {c d : Corpus} (hc : Answers c) (hd : Answers d) : Answers (c.append d) := by
  intro category hcategory
  rcases List.mem_append.mp hcategory with h | h
  · exact hc category h
  · exact hd category h

theorem append_assoc (c d e : Corpus) : (c.append d).append e = c.append (d.append e) := by
  simp only [append, List.append_assoc]

theorem append_empty (c : Corpus) : c.append empty = c := by
  simp only [append, empty, List.append_nil]

theorem concat_cons (c : Corpus) (corpora : List Corpus) :
    concat (c :: corpora) = c.append (concat corpora) := by
  have hfold : ∀ start, corpora.foldl append start = start.append (concat corpora) := by
    unfold concat
    induction corpora with
    | nil => exact fun start => (append_empty start).symm
    | cons d corpora ih =>
      intro start
      rw [List.foldl_cons, List.foldl_cons, ih, ih (empty.append d), append_assoc]
      rfl
  exact hfold c

theorem answers_concat {corpora : List Corpus} (h : ∀ c ∈ corpora, Answers c) :
    Answers (concat corpora) := by
  induction corpora with
  | nil => exact answers_empty
  | cons c corpora ih =>
    rw [concat_cons]
    exact (h c List.mem_cons_self).append (ih fun d hd => h d (List.mem_cons_of_mem c hd))

theorem answers_ofSource {source text : Text} {c : Corpus} (h : ofSource source text = .ok c) :
    Answers c := by
  unfold ofSource chartOf at h
  split_ifs at h
  · exact absurd h (by simp [Except.map])
  · obtain rfl := Except.ok.inj h
    exact answers_compile _ source

theorem answers_ofEntry (name : Text) (entry : Files.Entry) : Answers (ofEntry name entry) := by
  unfold ofEntry
  split
  · exact answers_empty
  · split
    · exact answers_empty
    · rename_i h
      exact answers_ofSource h

/-- The categories of a folder come from its files, and so have answers. -/
theorem answers_ofEntries (entries : List (Text × Files.Entry)) : Answers (ofEntries entries) := by
  refine answers_concat fun c hc => ?_
  obtain ⟨e, -, rfl⟩ := List.mem_map.mp hc
  exact answers_ofEntry e.1 e.2

/-- A corpus that was compiled has a template for every plain category. -/
theorem Compiled.answers {c : Corpus} (h : Compiled c) : Answers c := by
  induction h with
  | empty => exact answers_empty
  | ofText text sourceFile => exact answers_compile _ sourceFile
  | @ofFile disk path c h =>
    unfold loadFile at h
    split at h
    · exact absurd h.symm (by simp)
    · exact answers_ofSource h
  | @ofFolder disk path c h =>
    unfold loadFolder at h
    split at h
    · exact absurd h.symm (by simp)
    · obtain rfl := Except.ok.inj h
      exact answers_ofEntries _
  | append _ _ hc hd => exact hc.append hd

end ChartDialogue.Corpus
