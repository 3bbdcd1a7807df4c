import ChartDialogue.Proofs.Chart.Texts
import ChartDialogue.Proofs.Corpus.Compiled
import ChartDialogue.Proofs.Corpus.RoundTrip

/-!
Writing a corpus that was read. The texts of compiled categories stand within a line, so all of them
are written and come back; only their double quotes have become apostrophes, which changes neither
the names of the nodes nor how the texts are written the next time.
-/
namespace ChartDialogue.Corpus

open Text Chart

section Unquote

theorem isBlank_unquoted (c : Char) : isBlank (if c = '"' then '\x27' else c) = isBlank c := by
  split_ifs with hquote
  · rw [hquote]
    decide
  · rfl

theorem dropBlanks_unquote (text : Text) : dropBlanks (unquote text) = unquote (dropBlanks text) := by
  have hsame : (isBlank ∘ fun c => if c = '"' then '\x27' else c) = isBlank :=
    funext isBlank_unquoted
  rw [dropBlanks, unquote, List.dropWhile_map, hsame]
  rfl

theorem clean_eq_unquote_trim (text : Text) : clean text = unquote (trim text) := by
  have hreverse : ∀ t : Text, (unquote t).reverse = unquote t.reverse := fun t => List.map_reverse.symm
  rw [clean, trim, dropBlanks_unquote, hreverse, dropBlanks_unquote, hreverse]
  rfl

theorem unquote_eq_nil_iff {text : Text} : unquote text = [] ↔ text = [] :=
  List.map_eq_nil_iff

end Unquote

section Naming

end Naming

/-- A category that has an answer and no text that is blank or broken into several lines. -/
structure Writable (c : Category) : Prop where
  pattern : trim c.pattern ≠ []
  answered : c.templates ≠ []
  templates : ∀ t ∈ c.templates, trim t ≠ []
  patternLine : '\n' ∉ c.pattern
  templateLines : ∀ t ∈ c.templates, '\n' ∉ t

section Kept

variable {categories : List Category} {named : List NamedCategory} {c : Category}

theorem names_of_mem_allEnds {p : Text × Text} (hp : p ∈ allEnds named) :
    p.1 ∈ (allNodes named).map Prod.fst ∧ p.2 ∈ (allNodes named).map Prod.fst := by
  obtain ⟨c, hc, t, ht, rfl⟩ := mem_allEnds.mp hp
  exact ⟨name_mem_allNodes hc (pattern_mem_names c), name_mem_allNodes hc (template_mem_names ht)⟩

/-- The text of a named node is the pattern or a template of a category. -/
theorem text_of_mem_allNodes
    (htexts : named.map NamedCategory.texts = categories.map fun c => (c.pattern, c.templates))
    {node : Text × Text} (hnode : node ∈ allNodes named) :
    ∃ c ∈ categories, node.2 = c.pattern ∨ node.2 ∈ c.templates := by
  obtain ⟨d, hd, hnode⟩ := List.mem_flatMap.mp hnode
  have hmem : d.texts ∈ named.map NamedCategory.texts := List.mem_map_of_mem hd
  rw [htexts] at hmem
  obtain ⟨c, hc, hsame⟩ := List.mem_map.mp hmem
  obtain ⟨hpattern, htemplates⟩ := Prod.mk.inj hsame
  refine ⟨c, hc, ?_⟩
  rcases List.mem_cons.mp hnode with rfl | hnode
  · exact Or.inl hpattern.symm
  · rw [htemplates]
    exact Or.inr (List.mem_map_of_mem hnode)

theorem Writable.cleaned? (h : Writable c) (sourceFile : Text) :
    cleaned? sourceFile c.pattern c.templates =
      some ⟨clean c.pattern, c.templates.map clean, sourceFile⟩ := by
  have hclean : ∀ t, trim t ≠ [] → clean t ≠ [] := by
    intro t ht
    rw [clean_eq_unquote_trim, ne_eq, unquote_eq_nil_iff]
    exact ht
  have hkept : (c.templates.map clean).filter (!·.isEmpty) = c.templates.map clean := by
    refine List.filter_eq_self.mpr fun t ht => ?_
    obtain ⟨template, htemplate, rfl⟩ := List.mem_map.mp ht
    simpa using hclean template (h.templates template htemplate)
  have hne : c.templates.map clean ≠ [] := fun hnil => h.answered (List.map_eq_nil_iff.mp hnil)
  unfold Corpus.cleaned?
  dsimp only
  rw [hkept, if_neg]
  simpa using ⟨hclean c.pattern h.pattern, h.answered⟩

/-- Categories that can be written come back one for one. -/
theorem ofText_write_of_writable (h : ∀ c ∈ categories, Writable c) (sourceFile : Text) :
    ofText (write categories) sourceFile =
      ⟨categories.map fun c => ⟨clean c.pattern, c.templates.map clean, sourceFile⟩, []⟩ := by
  obtain ⟨names, hgives⟩ := exists_gives_nameCategories ⟨[], 0⟩ categories
  have htexts := texts_nameCategories ⟨[], 0⟩ categories
  have hnodes : ∀ node ∈ allNodes (nameCategories ⟨[], 0⟩ categories),
      IsName node.1 ∧ '\n' ∉ node.2 := by
    intro node hnode
    refine ⟨hgives.isName node.1 (List.mem_map_of_mem hnode), ?_⟩
    obtain ⟨c, hc, hpattern | htemplate⟩ := text_of_mem_allNodes htexts hnode
    · exact hpattern ▸ (h c hc).patternLine
    · exact (h c hc).templateLines node.2 htemplate
  have hdistinct : Distinct (nameCategories ⟨[], 0⟩ categories) := hgives.nodup
  have hchart := ofText_writtenLines hnodes hdistinct hdistinct.nodup_allEnds
    fun p hp => names_of_mem_allEnds hp
  rw [← write_eq] at hchart
  have hcompile := compile_chart hdistinct sourceFile
  rw [htexts, List.filterMap_map] at hcompile
  rw [ofText, hchart]
  refine hcompile.trans (congrArg (Corpus.mk · []) ?_)
  rw [← List.filterMap_eq_map]
  exact List.filterMap_congr fun c hc => (h c hc).cleaned? sourceFile

end Kept

section Compiled

variable {g : Graph} {sourceFile text : Text} {n : Node} {c : Category}

end Compiled

/-- Categories with an answer and without blank texts come back in the same number, each with as many
templates as it had, and no conditional category appears, whatever their texts contain, unless a text
is broken into several lines. -/
theorem ofText_write_sizes (categories : List Category) (sourceFile : Text)
    (hpattern : ∀ c ∈ categories, trim c.pattern ≠ [])
    (htemplates : ∀ c ∈ categories, c.templates ≠ [] ∧ ∀ t ∈ c.templates, trim t ≠ [])
    (hlines : ∀ c ∈ categories, '\n' ∉ c.pattern ∧ ∀ t ∈ c.templates, '\n' ∉ t) :
    (ofText (write categories) sourceFile).categories.map (·.templates.length) =
        categories.map (·.templates.length) ∧
      (ofText (write categories) sourceFile).conditionals = [] := by
  have hwritable : ∀ c ∈ categories, Writable c := fun c hc =>
    ⟨hpattern c hc, (htemplates c hc).1, (htemplates c hc).2, (hlines c hc).1, (hlines c hc).2⟩
  rw [ofText_write_of_writable hwritable]
  refine ⟨?_, rfl⟩
  dsimp only
  rw [List.map_map]
  exact List.map_congr_left fun c _ => List.length_map clean

/-- Categories whose texts look like the parts of a flowchart. -/
def disguised : List Category :=
  [⟨"a --> b".toList, ["\"]\r X[\"y\"] ".toList, "%% \x7bCondition: star x\x7d".toList], []⟩,
    ⟨"flowchart".toList, ["-->|*| X[y]".toList], []⟩]

theorem ofText_write_sizes_disguised :
    (∀ c ∈ disguised, trim c.pattern ≠ []) ∧
    (∀ c ∈ disguised, c.templates ≠ [] ∧ ∀ t ∈ c.templates, trim t ≠ []) ∧
    (∀ c ∈ disguised, '\n' ∉ c.pattern ∧ ∀ t ∈ c.templates, '\n' ∉ t) ∧
    (ofText (write disguised) []).categories.map (·.templates.length) = [2, 1] ∧
    (ofText (write disguised) []).conditionals = [] := by
  have hpattern : ∀ c ∈ disguised, trim c.pattern ≠ [] := by decide
  have htemplates : ∀ c ∈ disguised, c.templates ≠ [] ∧ ∀ t ∈ c.templates, trim t ≠ [] := by decide
  have hlines : ∀ c ∈ disguised, '\n' ∉ c.pattern ∧ ∀ t ∈ c.templates, '\n' ∉ t := by decide
  exact ⟨hpattern, htemplates, hlines, ofText_write_sizes disguised [] hpattern htemplates hlines⟩

/-- A line feed breaks the definition of a node: the first category is lost, and the text of the
second one adds a conditional category. -/
theorem ofText_write_broken :
    (trim "a\nb".toList ≠ [] ∧ trim "c".toList ≠ [] ∧
      (ofText (write [⟨"a\nb".toList, ["c".toList], []⟩]) []).categories = []) ∧
    (ofText (write [⟨"a".toList,
        ["b\nX[x] --> Y\x7bCondition: star k\x7d\nY -->|*| Z[z]\n".toList], []⟩]) []).conditionals =
      [⟨"x".toList, [⟨.default .predicateSet "k".toList, "z".toList⟩]⟩] := by
  decide +kernel

end ChartDialogue.Corpus
