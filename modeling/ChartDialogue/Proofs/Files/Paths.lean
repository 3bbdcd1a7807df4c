import ChartDialogue.Files.Disk
import ChartDialogue.Proofs.Distinct
import ChartDialogue.Proofs.Text.Words
import Mathlib.Tactic.SplitIfs

/-!
Paths of the entries of a folder. Where a path leads to a folder, that path and the name of an entry
lead to the entry, and the name is the last one on the way.
-/
namespace ChartDialogue.Files

/-- A name that an entry of a folder can have. -/
structure IsPlain (name : Text) : Prop where
  leads : stays name = false
  ne_upward : name ≠ upward
  no_slash : '/' ∉ name
  no_nul : '\x00' ∉ name
  short : Text.utf8Length name ≤ nameLimit

instance (name : Text) : Decidable (IsPlain name) :=
  decidable_of_iff
    (stays name = false ∧ name ≠ upward ∧ '/' ∉ name ∧ '\x00' ∉ name ∧
      Text.utf8Length name ≤ nameLimit)
    ⟨fun ⟨leads, ne_upward, no_slash, no_nul, short⟩ => ⟨leads, ne_upward, no_slash, no_nul, short⟩,
      fun h => ⟨h.leads, h.ne_upward, h.no_slash, h.no_nul, h.short⟩⟩

/-- A folder holds at most one entry of a name, and each of its names can be written in a path. -/
structure Directory (entries : List (Text × Entry)) : Prop where
  nodup : (entries.map Prod.fst).Nodup
  plain : ∀ name ∈ entries.map Prod.fst, IsPlain name

variable {disk : Disk} {path name : Text} {place : Place} {entries : List (Text × Entry)}
  {entry : Entry}

/-- How a folder is listed does not count. -/
theorem Directory.of_perm {entries' : List (Text × Entry)} (h : Directory entries)
    (hperm : entries'.Perm entries) : Directory entries' where
  nodup := (hperm.map Prod.fst).nodup_iff.mpr h.nodup
  plain name hname := h.plain name ((hperm.map Prod.fst).mem_iff.mp hname)

theorem Entry.at?_append (here : Entry) (p q : Place) :
    here.at? (p ++ q) = (here.at? p).bind (·.at? q) := by
  induction p generalizing here with
  | nil => rfl
  | cons name p ih =>
    cases here with
    | file bytes => rfl
    | folder entries =>
      rw [List.cons_append, at?, at?]
      cases entries.lookup name with
      | none => rfl
      | some entry => exact ih entry

section Follow

variable {root : Entry}

/-- A name that stays leads on only from a folder, and nowhere else. -/
theorem Entry.follow_of_stays {next : Place} (hstays : stays name = true)
    (h : root.follow place name = .ok next) : next = place := by
  unfold follow at h
  split at h
  · exact absurd h (by simp)
  · exact absurd h (by simp)
  · rw [if_pos hstays] at h
    exact (Except.ok.inj h).symm

theorem Entry.follow_of_mem (hroot : root.at? place = some (folder entries))
    (hentries : Directory entries) (hmem : (name, entry) ∈ entries) :
    root.follow place name = .ok (place ++ [name]) := by
  have hplain := hentries.plain name (List.mem_map_of_mem (f := Prod.fst) hmem)
  unfold follow
  rw [hroot]
  dsimp only
  rw [hplain.leads, if_neg Bool.false_ne_true, if_neg hplain.ne_upward,
    if_neg (Nat.not_lt.mpr hplain.short), lookup_of_mem hentries.nodup hmem, Option.isSome_some,
    if_pos rfl]

theorem names_append_slash (path : Text) (h : '/' ∉ name) :
    names (path ++ '/' :: name) = names path ++ [name] := by
  have hclear : ∀ c ∈ name, (c == '/') = false := by
    intro c hc
    exact beq_false_of_ne fun heq => h (heq ▸ hc)
  unfold names
  rw [Text.split_append_sep (by decide), Text.split_of_clear hclear]

/-- Either the path ends with a slash, and the name comes in place of the empty last name, or it
comes after all names. -/
theorem names_entryPath (path : Text) (h : '/' ∉ name) :
    (∃ before, names path = before ++ [[]] ∧ names (Disk.entryPath path name) = before ++ [name]) ∨
      names (Disk.entryPath path name) = names path ++ [name] := by
  unfold Disk.entryPath
  split_ifs with hlast
  · obtain ⟨front, rfl⟩ := List.getLast?_eq_some_iff.mp hlast
    refine Or.inl ⟨names front, names_append_slash front List.not_mem_nil, ?_⟩
    rw [List.append_assoc]
    exact names_append_slash front h
  · exact Or.inr (names_append_slash path h)

/-- The last name of an entry's path is the name of the entry. -/
theorem fileName_entryPath (path : Text) (h : IsPlain name) :
    fileName (Disk.entryPath path name) = name := by
  obtain ⟨before, hnames⟩ : ∃ before, names (Disk.entryPath path name) = before ++ [name] := by
    rcases names_entryPath path h.no_slash with ⟨before, -, hnames⟩ | hnames
    · exact ⟨before, hnames⟩
    · exact ⟨names path, hnames⟩
  have hkept : [name].filter (!stays ·) = [name] :=
    List.filter_eq_self.mpr fun n hn => by rw [List.mem_singleton.mp hn, h.leads]; rfl
  unfold fileName
  rw [hnames, List.filter_append, hkept, List.getLast?_concat, Option.getD_some]

theorem foldlM_concat (before : List Text) :
    (before ++ [name]).foldlM root.follow [] =
      (before.foldlM root.follow []).bind fun there => root.follow there name := by
  rw [List.foldlM_append]
  refine congrArg (Except.bind _) (funext fun there => ?_)
  rw [List.foldlM_cons]
  exact bind_pure _

theorem foldlM_entryPath (hplace : (names path).foldlM root.follow [] = .ok place)
    (h : '/' ∉ name) :
    (names (Disk.entryPath path name)).foldlM root.follow [] = root.follow place name := by
  rcases names_entryPath path h with ⟨before, hpath, hnames⟩ | hnames
  · rw [hpath, foldlM_concat] at hplace
    rw [hnames, foldlM_concat]
    cases hbefore : before.foldlM root.follow [] with
    | error cause =>
      rw [hbefore] at hplace
      exact absurd hplace (by simp [Except.bind])
    | ok there =>
      rw [hbefore] at hplace
      obtain rfl : place = there := Entry.follow_of_stays rfl hplace
      rfl
  · rw [hnames, foldlM_concat, hplace]
    rfl

end Follow

namespace Disk

/-- A path that can be followed name by name leads to what stands at its place. -/
theorem find_eq_ok_iff :
    disk.find path = .ok entry ↔
      path ≠ [] ∧ '\x00' ∉ path ∧ disk.isTooLong path = false ∧
        ∃ place, (names path).foldlM disk.root.follow [] = .ok place ∧
          disk.root.at? place = some entry := by
  unfold find Disk.place
  simp only [List.isEmpty_iff, List.contains_iff_mem]
  split_ifs with hempty hnul hlong
  · simp [hempty]
  · simp [hnul, Except.bind]
  · simp [hlong, Except.bind]
  · rw [Bool.not_eq_true] at hlong
    cases hplace : (names path).foldlM disk.root.follow [] with
    | error cause => simp [Except.bind]
    | ok place =>
      cases hentry : disk.root.at? place with
      | none => simp [Except.bind, hentry]
      | some there => simp [Except.bind, hentry, hempty, hnul, hlong]

theorem not_nul_mem_entryPath (hpath : '\x00' ∉ path) (hname : '\x00' ∉ name) :
    '\x00' ∉ entryPath path name := by
  unfold entryPath
  split_ifs
  · exact fun h => (List.mem_append.mp h).elim hpath hname
  · intro h
    rcases List.mem_append.mp h with h | h
    · exact hpath h
    · exact hname (List.mem_of_ne_of_mem (by decide) h)

theorem entryPath_ne_nil (hpath : path ≠ []) (name : Text) : entryPath path name ≠ [] := by
  unfold entryPath
  split_ifs
  · exact List.append_ne_nil_of_left_ne_nil hpath name
  · exact List.append_ne_nil_of_left_ne_nil hpath _

/-- The path of an entry of a folder leads to it. -/
theorem find_entryPath (hfind : disk.find path = .ok (.folder entries))
    (hentries : Directory entries) (hmem : (name, entry) ∈ entries)
    (hshort : disk.isTooLong (entryPath path name) = false) :
    disk.find (entryPath path name) = .ok entry := by
  have hplain := hentries.plain name (List.mem_map_of_mem (f := Prod.fst) hmem)
  obtain ⟨hpath, hnul, -, place, hplace, hat⟩ := find_eq_ok_iff.mp hfind
  refine find_eq_ok_iff.mpr ⟨entryPath_ne_nil hpath name,
    not_nul_mem_entryPath hnul hplain.no_nul, hshort, place ++ [name], ?_, ?_⟩
  · rw [foldlM_entryPath hplace hplain.no_slash]
    exact Entry.follow_of_mem hat hentries hmem
  · rw [Entry.at?_append, hat, Option.bind_some, Entry.at?, lookup_of_mem hentries.nodup hmem]
    rfl

theorem find_entryPath_of_tooLong (hfind : disk.find path = .ok entry) (hname : IsPlain name)
    (hlong : disk.isTooLong (entryPath path name) = true) :
    disk.find (entryPath path name) = .error .nameTooLong := by
  obtain ⟨hpath, hnul, -⟩ := find_eq_ok_iff.mp hfind
  unfold find Disk.place
  simp only [List.isEmpty_iff, List.contains_iff_mem]
  rw [if_neg (entryPath_ne_nil hpath name), if_neg (not_nul_mem_entryPath hnul hname.no_nul),
    if_pos hlong]
  rfl

end Disk
end ChartDialogue.Files
