import ChartDialogue.Proofs.Corpus.Compiled
import ChartDialogue.Proofs.Files.Paths
import Mathlib.Data.List.Nodup

/-!
The corpus of a folder. It consists of the corpora of its flowchart files in the order of their
names, each as it would be without the others. So neither the order in which the folder lists its
entries nor an entry that no corpus can be loaded from makes a difference to it.
-/
namespace ChartDialogue.Corpus

open Files Chart

variable {disk : Disk} {path name : Text} {entries : List (Text × Entry)} {entry : Entry}
  {bytes : ByteArray}

/-- Names in the order of their bytes, and none of them twice. -/
def Ascending (names : List Text) : Prop :=
  names.Pairwise fun a b => Text.utf8 a < Text.utf8 b

section Order

theorem nameLe_trans (a b c : Text) (hab : nameLe a b = true) (hbc : nameLe b c = true) :
    nameLe a c = true :=
  decide_eq_true (List.le_trans (of_decide_eq_true hab) (of_decide_eq_true hbc))

theorem nameLe_total (a b : Text) : (nameLe a b || nameLe b a) = true := by
  rw [Bool.or_eq_true]
  exact (List.le_total (Text.utf8 a) (Text.utf8 b)).imp decide_eq_true decide_eq_true

theorem lt_of_nameLe {a b : Text} (hle : nameLe a b = true) (hne : a ≠ b) :
    Text.utf8 a < Text.utf8 b :=
  Std.lt_of_le_of_ne (of_decide_eq_true hle) (mt Text.utf8_inj.mp hne)

/-- Names that differ are sorted strictly. -/
theorem ascending_mergeSort {α : Type} {pairs : List (Text × α)}
    (hnodup : (pairs.map Prod.fst).Nodup) :
    Ascending ((pairs.mergeSort fun a b => nameLe a.1 b.1).map Prod.fst) := by
  have hle : (pairs.mergeSort fun a b => nameLe a.1 b.1).Pairwise fun a b => nameLe a.1 b.1 :=
    List.pairwise_mergeSort (fun a b c => nameLe_trans a.1 b.1 c.1)
      (fun a b => nameLe_total a.1 b.1) pairs
  have hperm := (List.mergeSort_perm pairs fun a b => nameLe a.1 b.1).map Prod.fst
  have hne := hperm.nodup_iff.mpr hnodup
  exact ((List.pairwise_map.mpr hle).and hne).imp fun h => lt_of_nameLe h.1 h.2

variable {corpora corpora' : List (Text × Corpus)}

/-- Pairs in the order of their names are determined by which ones they are. -/
theorem eq_of_ascending (h : Ascending (corpora.map Prod.fst)) (h' : Ascending (corpora'.map Prod.fst))
    (hmem : ∀ p, p ∈ corpora ↔ p ∈ corpora') : corpora = corpora' := by
  have hsorted := List.pairwise_map.mp h
  have hsorted' := List.pairwise_map.mp h'
  have hirrefl : ∀ {p q : Text × Corpus}, Text.utf8 p.1 < Text.utf8 q.1 → p ≠ q := by
    rintro p q hlt rfl
    exact List.lt_irrefl _ hlt
  refine List.Perm.eq_of_pairwise (fun p q _ _ hlt hgt => ?_) hsorted hsorted' ?_
  · exact absurd (List.lt_trans hlt hgt) (List.lt_irrefl _)
  · exact (List.perm_ext_iff_of_nodup (hsorted.imp hirrefl) (hsorted'.imp hirrefl)).mpr hmem

theorem concat_filter (corpora : List Corpus) :
    concat (corpora.filter (· ≠ empty)) = concat corpora := by
  induction corpora with
  | nil => rfl
  | cons c corpora ih =>
    rw [List.filter_cons, concat_cons]
    split_ifs with hc
    · rw [concat_cons, ih]
    · obtain rfl : c = empty := by simpa using hc
      exact ih

/-- An empty corpus in the row does not count. -/
theorem concat_eq_of_ascending (h : Ascending (corpora.map Prod.fst))
    (h' : Ascending (corpora'.map Prod.fst))
    (hmem : ∀ name corpus, corpus ≠ empty → ((name, corpus) ∈ corpora ↔ (name, corpus) ∈ corpora')) :
    concat (corpora.map Prod.snd) = concat (corpora'.map Prod.snd) := by
  have hfilter : corpora.filter (·.2 ≠ empty) = corpora'.filter (·.2 ≠ empty) := by
    refine eq_of_ascending (h.sublist (List.filter_sublist.map _))
      (h'.sublist (List.filter_sublist.map _)) fun p => ?_
    rw [List.mem_filter, List.mem_filter, decide_eq_true_eq]
    exact and_congr_left fun hp => hmem p.1 p.2 hp
  rw [← concat_filter, ← concat_filter (corpora'.map _), List.filter_map, List.filter_map]
  exact congrArg (fun kept : List (Text × Corpus) => concat (kept.map Prod.snd)) hfilter

end Order

/-- What is read from a file says so. -/
theorem sourceFile_of_mem_ofEntry {c : Category} (hc : c ∈ (ofEntry name entry).categories) :
    c.sourceFile = name := by
  unfold ofEntry ofSource chartOf at hc
  split at hc
  · exact absurd hc List.not_mem_nil
  · split_ifs at hc
    · exact absurd hc List.not_mem_nil
    · obtain ⟨n, -, hn⟩ := List.mem_filterMap.mp hc
      exact congrArg Category.sourceFile (category?_eq_some hn).2

/-- What a file adds to the corpus of its folder: the corpus that is loaded from it, or nothing. -/
def contribution (disk : Disk) (path : Text) : Corpus :=
  match loadFile disk path with
  | .ok corpus => corpus
  | .error _ => empty

theorem exists_loadFile_of_ne_empty (h : contribution disk path ≠ empty) :
    ∃ corpus, loadFile disk path = .ok corpus := by
  unfold contribution at h
  cases hload : loadFile disk path with
  | error cause =>
    rw [hload] at h
    exact absurd rfl h
  | ok corpus => exact ⟨corpus, rfl⟩

/-- A flowchart file of a folder. -/
def IsChart (entries : List (Text × Entry)) (name : Text) (bytes : ByteArray) : Prop :=
  isChartName name = true ∧ (name, Entry.file bytes) ∈ entries

/-- A flowchart file of a folder that a corpus can be loaded from. -/
def Loads (disk : Disk) (path : Text) (entries : List (Text × Entry)) (name : Text)
    (bytes : ByteArray) : Prop :=
  IsChart entries name bytes ∧ ∃ corpus, loadFile disk (Disk.entryPath path name) = .ok corpus

/-- Whether an entry of a folder is a flowchart file. -/
def isChart (e : Text × Entry) : Bool :=
  match e.2 with
  | .file _ => isChartName e.1
  | .folder _ => false

theorem isChart_iff {e : Text × Entry} (he : e ∈ entries) :
    isChart e = true ↔ ∃ bytes, e.2 = .file bytes ∧ IsChart entries e.1 bytes := by
  obtain ⟨name, entry⟩ := e
  cases entry with
  | folder inner => simp [isChart]
  | file bytes => simp [isChart, IsChart, he]

/-- The names of the flowchart files of a folder, in order. -/
def chartNames (entries : List (Text × Entry)) : List Text :=
  ((entries.filter isChart).mergeSort fun a b => nameLe a.1 b.1).map Prod.fst

theorem ascending_chartNames (hentries : Directory entries) : Ascending (chartNames entries) :=
  ascending_mergeSort (hentries.nodup.sublist (List.filter_sublist.map _))

theorem mem_chartNames_iff : name ∈ chartNames entries ↔ ∃ bytes, IsChart entries name bytes := by
  unfold chartNames
  constructor
  · intro h
    obtain ⟨e, he, rfl⟩ := List.mem_map.mp h
    obtain ⟨hmem, hchart⟩ := List.mem_filter.mp (List.mem_mergeSort.mp he)
    obtain ⟨bytes, -, his⟩ := (isChart_iff hmem).mp hchart
    exact ⟨bytes, his⟩
  · rintro ⟨bytes, his⟩
    refine List.mem_map.mpr ⟨(name, .file bytes), List.mem_mergeSort.mpr ?_, rfl⟩
    exact List.mem_filter.mpr ⟨his.2, (isChart_iff his.2).mpr ⟨bytes, rfl, his⟩⟩

/-- The flowchart files of a folder in order, with what they add to its corpus. -/
def contributions (disk : Disk) (path : Text) (entries : List (Text × Entry)) :
    List (Text × Corpus) :=
  (chartNames entries).map fun name => (name, contribution disk (Disk.entryPath path name))

theorem ofEntries_eq (entries : List (Text × Entry)) :
    ofEntries entries =
      concat ((((entries.filter fun e => isChartName e.1).mergeSort fun a b =>
        nameLe a.1 b.1).map fun e => (e.1, ofEntry e.1 e.2)).map Prod.snd) := by
  rw [List.map_map]
  rfl

theorem ascending_contributions (hentries : Directory entries) :
    Ascending ((contributions disk path entries).map Prod.fst) := by
  unfold contributions
  rw [List.map_map]
  exact (List.map_id _).symm ▸ ascending_chartNames hentries

section Entries

variable (hfind : disk.find path = .ok (.folder entries)) (hentries : Directory entries)
include hfind hentries

/-- To load an entry by its path is to load its text under its name, if the path is not too long. -/
theorem loadFile_entryPath (hmem : (name, entry) ∈ entries) :
    loadFile disk (Disk.entryPath path name) =
      if disk.isTooLong (Disk.entryPath path name) then
        .error (.unreadable (Disk.entryPath path name) .nameTooLong)
      else match entry.text with
        | .error cause => .error (.unreadable (Disk.entryPath path name) cause)
        | .ok text => ofSource name text := by
  have hplain := hentries.plain name (List.mem_map_of_mem (f := Prod.fst) hmem)
  unfold loadFile Disk.readText
  rw [fileName_entryPath path hplain]
  split_ifs with hlong
  · rw [Disk.find_entryPath_of_tooLong hfind hplain hlong]
    rfl
  · rw [Bool.not_eq_true] at hlong
    rw [Disk.find_entryPath hfind hentries hmem hlong]
    rfl

/-- What an entry adds is known from its text, unless its path is too long. -/
theorem contribution_of_mem (hmem : (name, entry) ∈ entries) :
    contribution disk (Disk.entryPath path name) =
      if disk.isTooLong (Disk.entryPath path name) then empty else ofEntry name entry := by
  unfold contribution ofEntry
  rw [loadFile_entryPath hfind hentries hmem]
  split_ifs
  · rfl
  · cases entry.text with
    | error cause => rfl
    | ok text =>
      dsimp only
      cases ofSource name text with
      | error cause => rfl
      | ok corpus => rfl

/-- A file cannot be loaded if its path is too long, its bytes are no text or the text has no node. -/
theorem loads_iff :
    Loads disk path entries name bytes ↔
      IsChart entries name bytes ∧ disk.isTooLong (Disk.entryPath path name) = false ∧
        ∃ text corpus, (Entry.file bytes).text = .ok text ∧ ofSource name text = .ok corpus := by
  refine and_congr_right fun hchart => ?_
  rw [loadFile_entryPath hfind hentries hchart.2]
  cases hlong : disk.isTooLong (Disk.entryPath path name) with
  | true => simp
  | false =>
    cases (Entry.file bytes).text with
    | error cause => simp
    | ok text => simp

theorem short_of_loads (h : Loads disk path entries name bytes) :
    disk.isTooLong (Disk.entryPath path name) = false :=
  ((loads_iff hfind hentries).mp h).2.1

theorem contribution_of_loads (h : Loads disk path entries name bytes) :
    contribution disk (Disk.entryPath path name) = ofEntry name (.file bytes) := by
  rw [contribution_of_mem hfind hentries h.1.2, short_of_loads hfind hentries h,
    if_neg Bool.false_ne_true]

/-- What a file adds depends on its name and its bytes alone. -/
theorem mem_contributions_iff {corpus : Corpus} (hne : corpus ≠ empty) :
    (name, corpus) ∈ contributions disk path entries ↔
      ∃ bytes, Loads disk path entries name bytes ∧ ofEntry name (.file bytes) = corpus := by
  unfold contributions
  constructor
  · intro h
    obtain ⟨name, hname, hpair⟩ := List.mem_map.mp h
    obtain ⟨rfl, rfl⟩ := Prod.mk.inj hpair
    obtain ⟨bytes, hchart⟩ := mem_chartNames_iff.mp hname
    have hloads : Loads disk path entries name bytes := ⟨hchart, exists_loadFile_of_ne_empty hne⟩
    exact ⟨bytes, hloads, (contribution_of_loads hfind hentries hloads).symm⟩
  · rintro ⟨bytes, hloads, rfl⟩
    refine List.mem_map.mpr ⟨name, mem_chartNames_iff.mpr ⟨bytes, hloads.1⟩, ?_⟩
    rw [contribution_of_loads hfind hentries hloads]

/-- An entry of which something is read is a file that a corpus can be loaded from. -/
theorem loads_of_ofEntry_ne_empty (hmem : (name, entry) ∈ entries) (hname : isChartName name = true)
    (hshort : disk.isTooLong (Disk.entryPath path name) = false) (hne : ofEntry name entry ≠ empty) :
    ∃ bytes, Loads disk path entries name bytes ∧ entry = .file bytes := by
  cases entry with
  | folder inner => exact absurd rfl hne
  | file bytes =>
    refine ⟨bytes, ⟨⟨hname, hmem⟩, exists_loadFile_of_ne_empty ?_⟩, rfl⟩
    rwa [contribution_of_mem hfind hentries hmem, hshort, if_neg Bool.false_ne_true]

/-- A folder is loaded file by file. -/
theorem loadFolder_eq :
    loadFolder disk path = .ok (concat ((contributions disk path entries).map Prod.snd)) := by
  have hlisted : ((entries.filter fun e => !disk.isTooLong (Disk.entryPath path e.1)).filter
      fun e => isChartName e.1).Sublist entries := List.filter_sublist.trans List.filter_sublist
  unfold loadFolder Disk.listFolder?
  rw [hfind]
  refine congrArg Except.ok ?_
  rw [ofEntries_eq]
  refine concat_eq_of_ascending ?_ ?_ fun name corpus hne => ?_
  · rw [List.map_map]
    exact ascending_mergeSort (hentries.nodup.sublist (hlisted.map _))
  · exact ascending_contributions hentries
  · rw [mem_contributions_iff hfind hentries hne]
    constructor
    · intro h
      obtain ⟨⟨name, entry⟩, he, hpair⟩ := List.mem_map.mp h
      obtain ⟨rfl, rfl⟩ := Prod.mk.inj hpair
      obtain ⟨hkept, hname⟩ := List.mem_filter.mp (List.mem_mergeSort.mp he)
      obtain ⟨hmem, hshort⟩ := List.mem_filter.mp hkept
      obtain ⟨bytes, hloads, rfl⟩ := loads_of_ofEntry_ne_empty hfind hentries hmem hname
        (Bool.not_eq_true' _ ▸ hshort) hne
      exact ⟨bytes, hloads, rfl⟩
    · rintro ⟨bytes, hloads, rfl⟩
      refine List.mem_map.mpr ⟨(name, .file bytes), List.mem_mergeSort.mpr ?_, rfl⟩
      refine List.mem_filter.mpr ⟨List.mem_filter.mpr ⟨hloads.1.2, ?_⟩, hloads.1.1⟩
      exact congrArg not (short_of_loads hfind hentries hloads)

/-- Two folders with the same files that a corpus can be loaded from have the same corpus. -/
theorem loadFolder_congr {disk' : Disk} {path' : Text} {entries' : List (Text × Entry)}
    (hfind' : disk'.find path' = .ok (.folder entries')) (hentries' : Directory entries')
    (hloads : ∀ name bytes,
      Loads disk path entries name bytes ↔ Loads disk' path' entries' name bytes) :
    loadFolder disk' path' = loadFolder disk path := by
  rw [loadFolder_eq hfind' hentries', loadFolder_eq hfind hentries]
  refine congrArg Except.ok (concat_eq_of_ascending ?_ ?_ fun name corpus hne => ?_)
  · exact ascending_contributions hentries'
  · exact ascending_contributions hentries
  · rw [mem_contributions_iff hfind' hentries' hne, mem_contributions_iff hfind hentries hne]
    exact exists_congr fun bytes => and_congr_left' (hloads name bytes).symm

/-- The same entries in another order have the same corpus. -/
theorem loadFolder_of_perm {disk' : Disk} {entries' : List (Text × Entry)}
    (hlimit : disk'.pathLimit = disk.pathLimit) (hfind' : disk'.find path = .ok (.folder entries'))
    (hperm : entries'.Perm entries) : loadFolder disk' path = loadFolder disk path := by
  have hentries' := hentries.of_perm hperm
  refine loadFolder_congr hfind hentries hfind' hentries' fun name bytes => ?_
  rw [loads_iff hfind hentries, loads_iff hfind' hentries', IsChart, IsChart, hperm.mem_iff,
    Disk.isTooLong, Disk.isTooLong, hlimit]

/-- What a file adds to the corpus of a folder is the corpus of a folder with this file alone. -/
theorem loadFolder_singleton (hloads : Loads disk path entries name bytes) {disk' : Disk}
    {path' : Text} (hfind' : disk'.find path' = .ok (.folder [(name, .file bytes)]))
    (hshort : disk'.isTooLong (Disk.entryPath path' name) = false) :
    loadFolder disk' path' = loadFile disk (Disk.entryPath path name) := by
  have hcontribution := contribution_of_loads hfind hentries hloads
  obtain ⟨hchart, corpus, hload⟩ := hloads
  unfold contribution at hcontribution
  rw [hload] at hcontribution
  unfold loadFolder Disk.listFolder?
  rw [hfind', hload]
  dsimp only
  rw [ofEntries, List.filter_cons, hshort, Bool.not_false, if_pos rfl, List.filter_nil,
    List.filter_cons, hchart.1, if_pos rfl, List.filter_nil, List.mergeSort_singleton,
    List.map_singleton, concat_cons, ← hcontribution]
  exact congrArg Except.ok (append_empty corpus)

end Entries

/-- What the entries of a folder make of its corpus. -/
structure Gathers (disk : Disk) (path : Text) (entries : List (Text × Entry)) : Prop where
  /-- The corpora of the flowchart files stand in the order of the names. -/
  inOrder : ∃ names, Ascending names ∧
    (∀ name, name ∈ names ↔ ∃ bytes, IsChart entries name bytes) ∧
    loadFolder disk path =
      .ok (concat (names.map fun name => contribution disk (Disk.entryPath path name)))
  /-- A plain category has the name of the file that it comes from. -/
  sourceFile : ∀ name bytes, IsChart entries name bytes →
    ∀ c ∈ (contribution disk (Disk.entryPath path name)).categories, c.sourceFile = name
  /-- The order in which the folder lists its entries makes no difference. -/
  anyOrder : ∀ (disk' : Disk) (entries' : List (Text × Entry)),
    disk'.pathLimit = disk.pathLimit → disk'.find path = .ok (.folder entries') →
    entries'.Perm entries → loadFolder disk' path = loadFolder disk path
  /-- A file adds to the corpus what the corpus would be without the other entries. -/
  alone : ∀ name bytes, Loads disk path entries name bytes → ∀ (disk' : Disk) (path' : Text),
    disk'.find path' = .ok (.folder [(name, .file bytes)]) →
    disk'.isTooLong (Disk.entryPath path' name) = false →
    loadFolder disk' path' = loadFile disk (Disk.entryPath path name)
  /-- An entry that no corpus can be loaded from makes no difference, be it there or not. -/
  onlyLoaded : ∀ (disk' : Disk) (path' : Text) (entries' : List (Text × Entry)),
    disk'.find path' = .ok (.folder entries') → Directory entries' →
    (∀ name bytes, Loads disk path entries name bytes ↔ Loads disk' path' entries' name bytes) →
    loadFolder disk' path' = loadFolder disk path

/-- Whatever a folder holds, and in whatever order it is listed, its corpus can be had and is
gathered from its flowchart files. -/
theorem gathers_of_find (hfind : disk.find path = .ok (.folder entries))
    (hentries : Directory entries) : Gathers disk path entries where
  inOrder := by
    refine ⟨chartNames entries, ascending_chartNames hentries, fun _ => mem_chartNames_iff, ?_⟩
    rw [loadFolder_eq hfind hentries, contributions, List.map_map]
    rfl
  sourceFile name bytes hchart c hc := by
    rw [contribution_of_mem hfind hentries hchart.2] at hc
    split_ifs at hc
    · exact absurd hc List.not_mem_nil
    · exact sourceFile_of_mem_ofEntry hc
  anyOrder disk' entries' hlimit hfind' := loadFolder_of_perm hfind hentries hlimit hfind'
  alone name bytes hloads disk' path' := loadFolder_singleton hfind hentries hloads
  onlyLoaded disk' path' entries' hfind' hentries' :=
    loadFolder_congr hfind hentries hfind' hentries'

/-- Two flowcharts that name their nodes alike, and entries that are none. -/
def shelf : List (Text × Entry) :=
  [("b.mmd".toList, .file "flowchart TD\nA[bye] --> B[see you]".toUTF8),
    ("broken.mmd".toList, .file ⟨#[255]⟩),
    ("drawer.mmd".toList, .folder []),
    ("a.MMD".toList, .file "flowchart TD\nA[hello] --> B[hi]".toUTF8),
    ("notes.txt".toList, .file "flowchart TD\nA[ignored] --> B[ignored]".toUTF8)]

theorem gathers_shelf :
    ({ root := .folder [("shelf".toList, .folder shelf)] } : Disk).find "/shelf".toList =
      .ok (.folder shelf) ∧ Directory shelf ∧
    Gathers { root := .folder [("shelf".toList, .folder shelf)] } "/shelf".toList shelf := by
  have hentries : Directory shelf := ⟨by decide, by decide⟩
  exact ⟨rfl, hentries, gathers_of_find rfl hentries⟩

end ChartDialogue.Corpus
