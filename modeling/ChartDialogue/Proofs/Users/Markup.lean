import ChartDialogue.Proofs.Users.Rendering

/-!
Templates put together from plain texts, get tags and star tags. Each tag is read as the tag that was
written, whatever its name holds, and a text without an opening angle is no part of a tag. So if no
predicate that the template names has such an angle, every part is rendered on its own.
-/
namespace ChartDialogue.Template

open Text

/-- A text of blanks, or an empty one. -/
structure Gap where
  text : Text
  blank : ∀ c ∈ text, isBlank c = true

/-- A get tag with its name and the gaps in it. -/
structure GetTag where
  name : Text
  afterGet : Gap
  beforeSign : Gap
  afterSign : Gap
  beforeSlash : Gap
  afterGet_ne_nil : afterGet.text ≠ []
  quote_not_mem : '"' ∉ name

/-- A part of a well formed template. A star tag has a gap before its slash. -/
inductive Part where
  | plain (text : Text) (angle_not_mem : '<' ∉ text)
  | get (tag : GetTag)
  | star (gap : Gap)

/-- What follows `<get` in a get tag: the first gap, the name in its quotes, and what closes the tag. -/
def GetTag.body (tag : GetTag) : Text :=
  tag.afterGet.text ++ ("name".toList ++ (tag.beforeSign.text ++ '=' :: (tag.afterSign.text ++
    '"' :: (tag.name ++ '"' :: (tag.beforeSlash.text ++ "/>".toList)))))

/-- How a part is written in a template. -/
def Part.written : Part → Text
  | plain text _ => text
  | get tag => "<get".toList ++ tag.body
  | star gap => "<star".toList ++ (gap.text ++ "/>".toList)

/-- What a user is shown for a part. -/
def Part.shown (state : UserState) : Part → Text
  | plain text _ => text
  | get tag => (state.predicates.get? tag.name).getD []
  | star _ => starText state

/-- A part once the get tags are replaced. -/
def Part.filled (predicates : Dict Text Text) : Part → Text
  | get tag => (predicates.get? tag.name).getD []
  | part => part.written

section Tags

variable {c : Char}

theorem Gap.dropBlanks_append (gap : Gap) (hc : isBlank c = false) (rest : Text) :
    dropBlanks (gap.text ++ c :: rest) = c :: rest :=
  dropWhile_append_stop gap.blank fun d hd => by rwa [← Option.some.inj hd]

theorem Gap.skipBlanks?_append (gap : Gap) (hne : gap.text ≠ []) (hc : isBlank c = false)
    (rest : Text) : skipBlanks? (gap.text ++ c :: rest) = some (c :: rest) := by
  obtain ⟨d, s, hs⟩ := List.exists_cons_of_ne_nil hne
  have hgap : ∀ e ∈ d :: s, isBlank e = true := hs ▸ gap.blank
  obtain ⟨hd, htail⟩ := List.forall_mem_cons.mp hgap
  rw [hs, List.cons_append, skipBlanks?, if_pos hd]
  exact congrArg some (Gap.dropBlanks_append ⟨s, htail⟩ hc rest)

/-- A tag that is written is read: the name ends at the quote that closes it, and the tag at its slash. -/
theorem getTag?_written (tag : GetTag) (rest : Text) :
    getTag? ("<get".toList ++ tag.body ++ rest) = some (tag.name, rest) := by
  have hname (s : Text) := tag.afterGet.skipBlanks?_append (c := 'n') tag.afterGet_ne_nil (by decide)
    ("ame".toList ++ s)
  have hsign := tag.beforeSign.dropBlanks_append (c := '=') (by decide)
  have hquote := tag.afterSign.dropBlanks_append (c := '"') (by decide)
  have hslash (s : Text) := tag.beforeSlash.dropBlanks_append (c := '/') (by decide) ('>' :: s)
  have hlead (c : Char) (s : Text) : expect? [c] (c :: s) = some s := expect?_append [c] s
  have hword (s : Text) : 'n' :: ("ame".toList ++ s) = "name".toList ++ s := rfl
  have hclose (s : Text) : '/' :: '>' :: s = "/>".toList ++ s := rfl
  simp only [hword, hclose] at hname hslash
  simp only [getTag?, GetTag.body, List.append_assoc, List.cons_append, Option.bind_eq_bind,
    expect?_append, hname, hsign, hlead, hquote, upTo?_append tag.quote_not_mem, hslash,
    Option.bind_some, Option.pure_def]

/-- A written star tag is read, whatever its gap. -/
theorem starTag?_written (gap : Gap) (rest : Text) :
    starTag? ("<star".toList ++ (gap.text ++ "/>".toList) ++ rest) = some ((), rest) := by
  have hslash := gap.dropBlanks_append (c := '/') (by decide) ('>' :: rest)
  have hclose : '/' :: '>' :: rest = "/>".toList ++ rest := rfl
  rw [hclose] at hslash
  simp only [starTag?, List.append_assoc, Option.bind_eq_bind, expect?_append, hslash,
    Option.bind_some, Option.pure_def]

/-- Without an opening angle no tag begins. -/
theorem getTag?_cons_of_ne (hc : c ≠ '<') (s : Text) : getTag? (c :: s) = none := by
  have hlead : expect? "<get".toList (c :: s) = none :=
    expect?_eq_none fun d hd => by rwa [← Option.some.inj hd]
  rw [getTag?, hlead]
  rfl

theorem starTag?_cons_of_ne (hc : c ≠ '<') (s : Text) : starTag? (c :: s) = none := by
  have hlead : expect? "<star".toList (c :: s) = none :=
    expect?_eq_none fun d hd => by rwa [← Option.some.inj hd]
  rw [starTag?, hlead]
  rfl

end Tags

section Passes

variable {state : UserState} {parts : List Part}

theorem angle_not_mem_gap (gap : Gap) : '<' ∉ gap.text :=
  fun hmem => absurd (gap.blank '<' hmem) (by decide)

/-- A text without an opening angle goes through both passes as it is. -/
theorem replaceGets_plain (value : Text → Text) {text : Text} (htext : '<' ∉ text) (rest : Text) :
    getScanner.replaceAll value (text ++ rest) = text ++ getScanner.replaceAll value rest :=
  getScanner.replaceAll_append_of_none value rest fun _ hc s =>
    getTag?_cons_of_ne (fun h => htext (h ▸ hc)) s

theorem replaceStars_plain (value : Unit → Text) {text : Text} (htext : '<' ∉ text) (rest : Text) :
    starScanner.replaceAll value (text ++ rest) = text ++ starScanner.replaceAll value rest :=
  starScanner.replaceAll_append_of_none value rest fun _ hc s =>
    starTag?_cons_of_ne (fun h => htext (h ▸ hc)) s

/-- The first pass at one part. A star tag has a single opening angle, at which no get tag begins. -/
theorem replaceGets_written (predicates : Dict Text Text) (part : Part) (rest : Text) :
    withPredicates predicates (part.written ++ rest) =
      part.filled predicates ++ withPredicates predicates rest := by
  unfold withPredicates
  cases part with
  | plain text htext => exact replaceGets_plain _ htext rest
  | get tag => exact getScanner.replaceAll_of_read _ (List.cons_ne_nil _ _) (getTag?_written tag rest)
  | star gap =>
    have hinside : '<' ∉ "star".toList ++ (gap.text ++ "/>".toList) := by
      simp [angle_not_mem_gap gap]
    have hangle : getScanner.read ('<' :: ("star".toList ++ (gap.text ++ "/>".toList) ++ rest)) =
        none := rfl
    exact (getScanner.replaceAll_cons_of_none _ hangle).trans
      (congrArg ('<' :: ·) (replaceGets_plain _ hinside rest))

/-- The first pass replaces the get tags and leaves the rest as it is written. -/
theorem withPredicates_written (predicates : Dict Text Text) (parts : List Part) :
    withPredicates predicates (parts.flatMap Part.written) = parts.flatMap (Part.filled predicates) := by
  induction parts with
  | nil => exact replaceAll_nil getScanner _
  | cons part parts ih => rw [List.flatMap_cons, replaceGets_written, ih, List.flatMap_cons]

/-- The second pass at one part: only a star tag is left to be read. -/
theorem replaceStars_filled {part : Part} (rest : Text)
    (hvalue : ∀ tag, part = .get tag →
      ∀ value, state.predicates.get? tag.name = some value → '<' ∉ value) :
    starScanner.replaceAll (fun _ => starText state) (part.filled state.predicates ++ rest) =
      part.shown state ++ starScanner.replaceAll (fun _ => starText state) rest := by
  cases part with
  | plain text htext => exact replaceStars_plain _ htext rest
  | get tag =>
    have hfilled : '<' ∉ (state.predicates.get? tag.name).getD [] := by
      cases hset : state.predicates.get? tag.name with
      | none => exact List.not_mem_nil
      | some value => exact hvalue tag rfl value hset
    exact replaceStars_plain _ hfilled rest
  | star gap =>
    exact starScanner.replaceAll_of_read _ (List.cons_ne_nil _ _) (starTag?_written gap rest)

/-- The second pass finds no star tag but the written ones, since no value holds the beginning of
one. -/
theorem replaceStars_flatMap_filled
    (hvalues : ∀ tag, Part.get tag ∈ parts →
      ∀ value, state.predicates.get? tag.name = some value → '<' ∉ value) :
    starScanner.replaceAll (fun _ => starText state) (parts.flatMap (Part.filled state.predicates)) =
      parts.flatMap (Part.shown state) := by
  induction parts with
  | nil => exact replaceAll_nil starScanner _
  | cons part parts ih =>
    have hhead : ∀ tag, part = .get tag →
        ∀ value, state.predicates.get? tag.name = some value → '<' ∉ value :=
      fun tag htag => hvalues tag (htag ▸ List.mem_cons_self)
    have hrest := ih fun tag htag => hvalues tag (List.mem_cons_of_mem part htag)
    rw [List.flatMap_cons, replaceStars_filled _ hhead, hrest, List.flatMap_cons]

end Passes

/-- A well formed template is rendered part by part: plain text stays, a get tag gives the value of the
predicate that it names and a star tag what the star captured, each of them empty if it is not set. What
the star captured may be any text, and a name may hold whole tags. -/
theorem render_written (parts : List Part) (state : UserState)
    (hvalues : ∀ tag, Part.get tag ∈ parts →
      ∀ value, state.predicates.get? tag.name = some value → '<' ∉ value) :
    render (parts.flatMap Part.written) state = parts.flatMap (Part.shown state) := by
  have hrender : render (parts.flatMap Part.written) state =
      starScanner.replaceAll (fun _ => starText state)
        (withPredicates state.predicates (parts.flatMap Part.written)) := rfl
  rw [hrender, withPredicates_written, replaceStars_flatMap_filled hvalues]

def Gap.none : Gap :=
  ⟨[], fun _ hc => absurd hc List.not_mem_nil⟩

def Gap.space : Gap :=
  ⟨[' '], fun c hc => by rw [List.mem_singleton.mp hc]; decide⟩

/-- A template with a get tag, with one that has a star tag for its name, and with a star tag. -/
def pinParts : List Part :=
  [.plain "pin: ".toList (by decide),
    .get ⟨"pin".toList, .space, .space, .none, .space, by decide, by decide⟩,
    .get ⟨"<star/>".toList, .space, .none, .none, .none, by decide, by decide⟩,
    .plain " ".toList (by decide),
    .star .space]

theorem render_written_pin :
    pinParts.flatMap Part.written =
      "pin: <get name =\"pin\" /><get name=\"<star/>\"/> <star />".toList ∧
    (∀ tag, Part.get tag ∈ pinParts →
      ∀ value, snooper.predicates.get? tag.name = some value → '<' ∉ value) ∧
    render (pinParts.flatMap Part.written) snooper =
      "pin: 1234 <get name=\"pin\"/> <star/> $1".toList := by
  have hvalues : ∀ tag, Part.get tag ∈ pinParts →
      ∀ value, snooper.predicates.get? tag.name = some value → '<' ∉ value := by
    intro tag htag value hset
    simp only [pinParts, List.mem_cons, List.not_mem_nil, Part.get.injEq, reduceCtorEq, false_or,
      or_false] at htag
    rcases htag with rfl | rfl
    · rw [← Option.some.inj hset]
      decide
    · exact absurd hset.symm (Option.some_ne_none value)
  exact ⟨rfl, hvalues, (render_written pinParts snooper hvalues).trans rfl⟩

end ChartDialogue.Template
