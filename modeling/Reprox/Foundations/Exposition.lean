import Reprox.Foundations.Runs
import Reprox.Foundations.Text

/-!
# The text exposition of metrics

A page of metrics is a list of families: a name, what it is for, what kind of
metric it is, and samples told apart by their labels. A writer prints one line
after the other without escaping anything. A reader takes the lines one by one,
undoes the escapes, and refuses a page that opens a family twice, samples a
family that is not open, or repeats a set of labels. What a writer prints is
read back as it was as long as no name, help text or label needs an escape.
-/

namespace Reprox.Foundations.Exposition

variable {α β : Type*}

structure Sample (α : Type*) where
  labels : List (Text × Text)
  value : α
  deriving DecidableEq, Repr

structure Family (α : Type*) where
  name : Text
  kind : Text
  help : Text
  samples : List (Sample α)
  deriving DecidableEq, Repr

def Sample.map (f : α → β) (s : Sample α) : Sample β := ⟨s.labels, f s.value⟩

def Family.map (f : α → β) (family : Family α) : Family β :=
  ⟨family.name, family.kind, family.help, family.samples.map (Sample.map f)⟩

/-! ## Writing -/

def labelText (label : Text × Text) : Text := label.1 ++ '=' :: '"' :: label.2 ++ ['"']

def labelsText : List (Text × Text) → Text
  | [] => []
  | [label] => labelText label
  | label :: labels => labelText label ++ ',' :: labelsText labels

theorem labelsText_cons (label : Text × Text) (labels : List (Text × Text)) :
    labelsText (label :: labels) = labelText label ++ labels.flatMap fun l => ',' :: labelText l := by
  induction labels generalizing label with
  | nil => simp [labelsText]
  | cons next labels ih =>
    rw [labelsText, ih, List.flatMap_cons, List.cons_append]
    exact List.cons_ne_nil _ _

variable (print : α → Text)

def sampleLine (name : Text) (s : Sample α) : Text :=
  if s.labels = [] then name ++ ' ' :: print s.value
  else name ++ '{' :: labelsText s.labels ++ '}' :: ' ' :: print s.value

def helpKeyword : Text := "# HELP ".toList

def kindKeyword : Text := "# TYPE ".toList

def helpLine (name help : Text) : Text := helpKeyword ++ (name ++ ' ' :: help)

def kindLine (name kind : Text) : Text := kindKeyword ++ (name ++ ' ' :: kind)

/-- The lines of one family, the empty line after it included. -/
def Family.lines (family : Family α) : List Text :=
  helpLine family.name family.help :: kindLine family.name family.kind ::
    (family.samples.map (sampleLine print family.name) ++ [[]])

def unlines (lines : List Text) : Text := lines.flatMap (· ++ ['\n'])

def render (families : List (Family α)) : Text := unlines (families.flatMap (Family.lines print))

/-! ## Reading -/

def isLabelChar (c : Char) : Bool := Text.isAsciiAlphanumeric c || c == '_'

def isNameChar (c : Char) : Bool := isLabelChar c || c == ':'

def isWord (p : Char → Bool) : Text → Bool
  | [] => false
  | c :: s => !c.isDigit && (c :: s).all p

/-- The longest word at the front, and what follows it. -/
def readWord (p : Char → Bool) (s : Text) : Option (Text × Text) :=
  if isWord p (s.takeWhile p) then some (s.takeWhile p, s.dropWhile p) else none

def readQuoted : Text → Option (Text × Text)
  | [] => none
  | '"' :: s => some ([], s)
  | '\\' :: '\\' :: s => (readQuoted s).map fun more => ('\\' :: more.1, more.2)
  | '\\' :: '"' :: s => (readQuoted s).map fun more => ('"' :: more.1, more.2)
  | '\\' :: 'n' :: s => (readQuoted s).map fun more => ('\n' :: more.1, more.2)
  | '\\' :: _ => none
  | c :: s => (readQuoted s).map fun more => (c :: more.1, more.2)

/-- At most `fuel` labels up to the closing brace, and what follows it. -/
def readLabels : ℕ → Text → Option (List (Text × Text) × Text)
  | 0, _ => none
  | fuel + 1, s =>
    match readWord isLabelChar s with
    | some (name, '=' :: '"' :: quoted) =>
      match readQuoted quoted with
      | some (value, '}' :: rest) => some ([(name, value)], rest)
      | some (value, ',' :: rest) =>
        (readLabels fuel rest).map fun more => ((name, value) :: more.1, more.2)
      | _ => none
    | _ => none

def unescape : Text → Option Text
  | [] => some []
  | '\\' :: '\\' :: s => (unescape s).map ('\\' :: ·)
  | '\\' :: 'n' :: s => (unescape s).map ('\n' :: ·)
  | '\\' :: _ => none
  | c :: s => (unescape s).map (c :: ·)

inductive Line (β : Type*) where
  | comment
  | help (name help : Text)
  | kind (name kind : Text)
  | sample (name : Text) (sample : Sample β)
  deriving DecidableEq, Repr

def dropKeyword (keyword s : Text) : Option Text :=
  if keyword.isPrefixOf s then some (s.drop keyword.length) else none

def readHelp (s : Text) : Option (Line β) :=
  match readWord isNameChar s with
  | some (name, ' ' :: help) => (unescape help).map (.help name)
  | _ => none

def kinds : List Text :=
  ["counter".toList, "gauge".toList, "histogram".toList, "summary".toList, "untyped".toList]

def readKind (s : Text) : Option (Line β) :=
  match readWord isNameChar s with
  | some (name, ' ' :: kind) => if kinds.contains kind then some (.kind name kind) else none
  | _ => none

variable (number : Text → Option β)

def readSample (s : Text) : Option (Line β) :=
  match readWord isNameChar s with
  | some (name, ' ' :: value) => (number value).map fun v => .sample name ⟨[], v⟩
  | some (name, '{' :: rest) =>
    match readLabels rest.length rest with
    | some (labels, ' ' :: value) => (number value).map fun v => .sample name ⟨labels, v⟩
    | _ => none
  | _ => none

def readLine (s : Text) : Option (Line β) :=
  if s = [] then some .comment
  else
    match dropKeyword helpKeyword s with
    | some rest => readHelp rest
    | none =>
      match dropKeyword kindKeyword s with
      | some rest => readKind rest
      | none => if s.head? = some '#' then some .comment else readSample number s

/-- One line, with the families read so far; the open one comes first. -/
def takeLine (families : List (Family β)) : Line β → Option (List (Family β))
  | .comment => some families
  | .help name help =>
    if (families.map Family.name).contains name then none
    else some (⟨name, "untyped".toList, help, []⟩ :: families)
  | .kind name kind =>
    match families with
    | family :: closed =>
      if family.name = name ∧ family.samples.isEmpty then some ({ family with kind } :: closed)
      else none
    | [] => none
  | .sample name s =>
    match families with
    | family :: closed =>
      if family.name = name ∧ s.labels ∉ family.samples.map Sample.labels then
        some ({ family with samples := family.samples ++ [s] } :: closed)
      else none
    | [] => none

def parse (page : Text) : Option (List (Family β)) :=
  ((page.splitOn '\n').mapM (readLine number)).bind fun lines =>
    (exec takeLine [] lines).map List.reverse

/-! ## What needs no escape -/

def Plain (s : Text) : Prop := '\\' ∉ s ∧ '"' ∉ s ∧ '\n' ∉ s

instance (s : Text) : Decidable (Plain s) := inferInstanceAs (Decidable (_ ∧ _ ∧ _))

/-- A reader of the format can take the family as it is printed. -/
structure Family.WellFormed (family : Family α) : Prop where
  name : isWord isNameChar family.name = true
  kind : family.kind ∈ kinds
  help : '\\' ∉ family.help ∧ '\n' ∉ family.help
  labels : ∀ s ∈ family.samples, ∀ label ∈ s.labels,
    isWord isLabelChar label.1 = true ∧ Plain label.2
  distinct : (family.samples.map Sample.labels).Nodup

structure WellFormed (families : List (Family α)) : Prop where
  readable : ∀ family ∈ families, family.WellFormed
  distinct : (families.map Family.name).Nodup

theorem Family.wellFormed_map (f : α → β) {family : Family α} :
    (family.map f).WellFormed ↔ family.WellFormed := by
  have hlabels : (family.map f).samples.map Sample.labels = family.samples.map Sample.labels := by
    rw [Family.map, List.map_map]
    rfl
  constructor
  · intro h
    refine ⟨h.name, h.kind, h.help, fun s hs => ?_, hlabels ▸ h.distinct⟩
    exact h.labels (s.map f) (List.mem_map_of_mem hs)
  · intro h
    refine ⟨h.name, h.kind, h.help, fun s hs => ?_, hlabels.symm ▸ h.distinct⟩
    obtain ⟨printed, hprinted, rfl⟩ := List.mem_map.mp hs
    exact h.labels printed hprinted

theorem wellFormed_map (f : α → β) {families : List (Family α)} :
    WellFormed (families.map (Family.map f)) ↔ WellFormed families := by
  have hnames : (families.map (Family.map f)).map Family.name = families.map Family.name := by
    rw [List.map_map]
    rfl
  constructor
  · intro h
    refine ⟨fun family hfamily => ?_, hnames ▸ h.distinct⟩
    exact (Family.wellFormed_map f).mp (h.readable _ (List.mem_map_of_mem hfamily))
  · intro h
    refine ⟨fun family hfamily => ?_, hnames.symm ▸ h.distinct⟩
    obtain ⟨printed, hprinted, rfl⟩ := List.mem_map.mp hfamily
    exact (Family.wellFormed_map f).mpr (h.readable printed hprinted)

instance (family : Family α) : Decidable family.WellFormed :=
  decidable_of_iff (isWord isNameChar family.name = true ∧ kinds.contains family.kind = true ∧
      ('\\' ∉ family.help ∧ '\n' ∉ family.help) ∧
      (∀ s ∈ family.samples, ∀ label ∈ s.labels,
        isWord isLabelChar label.1 = true ∧ Plain label.2) ∧
      (family.samples.map Sample.labels).Nodup)
    ⟨fun h => ⟨h.1, List.contains_iff_mem.mp h.2.1, h.2.2.1, h.2.2.2.1, h.2.2.2.2⟩,
      fun h => ⟨h.name, List.contains_iff_mem.mpr h.kind, h.help, h.labels, h.distinct⟩⟩

instance (families : List (Family α)) : Decidable (WellFormed families) :=
  decidable_of_iff ((∀ family ∈ families, family.WellFormed) ∧ (families.map Family.name).Nodup)
    ⟨fun h => ⟨h.1, h.2⟩, fun h => ⟨h.readable, h.distinct⟩⟩

/-! ## Lines -/

theorem splitOn_unlines {lines : List Text} (h : ∀ line ∈ lines, '\n' ∉ line) :
    (unlines lines).splitOn '\n' = lines ++ [[]] := by
  induction lines with
  | nil => rfl
  | cons line lines ih =>
    obtain ⟨hline, hlines⟩ := List.forall_mem_cons.mp h
    have hcons : unlines (line :: lines) = line ++ '\n' :: unlines lines := by
      simp [unlines]
    rw [hcons, List.splitOn_append_cons_self_of_not_mem hline, ih hlines, List.cons_append]

theorem all_of_isWord {p : Char → Bool} {s : Text} (h : isWord p s = true) :
    ∀ c ∈ s, p c = true := by
  cases s with
  | nil => cases h
  | cons c s =>
    rw [isWord, Bool.and_eq_true, List.all_eq_true] at h
    exact h.2

theorem not_mem_of_isWord {p : Char → Bool} {s : Text} {c : Char} (h : isWord p s = true)
    (hc : p c = false) : c ∉ s := by
  intro hmem
  rw [all_of_isWord h c hmem] at hc
  cases hc

theorem head_of_isWord {s : Text} (h : isWord isNameChar s = true) (rest : Text) :
    ∃ c more, s ++ rest = c :: more ∧ c ≠ '#' := by
  cases s with
  | nil => cases h
  | cons c s =>
    refine ⟨c, s ++ rest, rfl, ?_⟩
    rintro rfl
    exact not_mem_of_isWord h (by decide) List.mem_cons_self

theorem readWord_append {p : Char → Bool} {word : Text} {c : Char} (h : isWord p word = true)
    (hc : p c = false) (rest : Text) : readWord p (word ++ c :: rest) = some (word, c :: rest) := by
  have hall := all_of_isWord h
  have htake : (word ++ c :: rest).takeWhile p = word := by
    rw [List.takeWhile_append_of_pos hall, List.takeWhile_cons_of_neg (by simp [hc]),
      List.append_nil]
  have hdrop : (word ++ c :: rest).dropWhile p = c :: rest := by
    rw [List.dropWhile_append_of_pos hall, List.dropWhile_cons_of_neg (by simp [hc])]
  rw [readWord, htake, hdrop, if_pos h]

theorem readQuoted_append {s : Text} (h : Plain s) (rest : Text) :
    readQuoted (s ++ '"' :: rest) = some (s, rest) := by
  induction s with
  | nil => rfl
  | cons c s ih =>
    obtain ⟨hslash, hquote, hline⟩ := h
    rw [List.mem_cons, not_or] at hslash hquote hline
    have hmore := ih ⟨hslash.2, hquote.2, hline.2⟩
    rw [List.cons_append, readQuoted, hmore, Option.map_some]
    · exact Ne.symm hquote.1
    · exact fun _ hc _ => hslash.1 hc.symm
    · exact fun _ hc _ => hslash.1 hc.symm
    · exact fun _ hc _ => hslash.1 hc.symm
    · exact fun hc => hslash.1 hc.symm

theorem unescape_of_plain {s : Text} (h : '\\' ∉ s) : unescape s = some s := by
  induction s with
  | nil => rfl
  | cons c s ih =>
    rw [List.mem_cons, not_or] at h
    rw [unescape, ih h.2, Option.map_some]
    · exact fun _ hc _ => h.1 hc.symm
    · exact fun _ hc _ => h.1 hc.symm
    · exact fun hc => h.1 hc.symm

theorem labelText_append (label : Text × Text) (rest : Text) :
    labelText label ++ rest = label.1 ++ '=' :: '"' :: (label.2 ++ '"' :: rest) := by
  simp [labelText]

theorem length_le_labelsText (labels : List (Text × Text)) :
    labels.length ≤ (labelsText labels).length := by
  induction labels with
  | nil => simp
  | cons label labels ih =>
    cases labels with
    | nil =>
      simp only [labelsText, labelText, List.length_append, List.length_cons, List.length_nil]
      omega
    | cons next labels =>
      simp only [labelsText, List.length_append, List.length_cons] at ih ⊢
      omega

theorem readLabels_labelsText {labels : List (Text × Text)}
    (h : ∀ label ∈ labels, isWord isLabelChar label.1 = true ∧ Plain label.2) (hne : labels ≠ [])
    {fuel : ℕ} (hfuel : labels.length ≤ fuel) (rest : Text) :
    readLabels fuel (labelsText labels ++ '}' :: rest) = some (labels, rest) := by
  induction labels generalizing fuel with
  | nil => exact absurd rfl hne
  | cons label labels ih =>
    obtain ⟨⟨hname, hvalue⟩, hmore⟩ := List.forall_mem_cons.mp h
    cases fuel with
    | zero => cases hfuel
    | succ fuel =>
      cases labels with
      | nil =>
        rw [labelsText, labelText_append, readLabels, readWord_append hname (by decide)]
        simp only [readQuoted_append hvalue]
      | cons next labels =>
        have hrest := ih hmore (List.cons_ne_nil _ _) (Nat.le_of_succ_le_succ hfuel)
        rw [labelsText, List.append_assoc, List.cons_append, labelText_append, readLabels,
          readWord_append hname (by decide)]
        · simp only [readQuoted_append hvalue, hrest, Option.map_some]
        · exact List.cons_ne_nil _ _

theorem dropKeyword_append (keyword s : Text) : dropKeyword keyword (keyword ++ s) = some s := by
  rw [dropKeyword, if_pos (List.isPrefixOf_iff_prefix.mpr (List.prefix_append _ _)),
    List.drop_left]

theorem dropKeyword_cons_of_ne {c d : Char} (h : c ≠ d) (keyword s : Text) :
    dropKeyword (d :: keyword) (c :: s) = none := by
  rw [dropKeyword, List.isPrefixOf_cons_cons, beq_eq_false_iff_ne.mpr (Ne.symm h), Bool.false_and,
    if_neg Bool.false_ne_true]

/-- The two keywords tell their lines apart. -/
theorem dropKeyword_helpKeyword (s : Text) : dropKeyword helpKeyword (kindKeyword ++ s) = none := by
  rw [dropKeyword, if_neg]
  intro h
  have htaken := List.prefix_iff_eq_take.mp (List.isPrefixOf_iff_prefix.mp h)
  rw [List.take_append_of_le_length (by decide)] at htaken
  exact absurd htaken (by decide)

theorem dropKeyword_of_head_ne {c : Char} (h : c ≠ '#') (s : Text) :
    dropKeyword helpKeyword (c :: s) = none ∧ dropKeyword kindKeyword (c :: s) = none :=
  ⟨dropKeyword_cons_of_ne h _ s, dropKeyword_cons_of_ne h _ s⟩

section ReadLine

variable {print : α → Text} {number : Text → Option β} {f : α → β}

theorem readLine_helpLine {name help : Text} (hname : isWord isNameChar name = true)
    (hhelp : '\\' ∉ help) : readLine number (helpLine name help) = some (.help name help) := by
  have hne : helpLine name help ≠ [] := List.append_ne_nil_of_left_ne_nil (by decide) _
  have hspace : isNameChar ' ' = false := by decide
  rw [readLine, if_neg hne, helpLine, dropKeyword_append]
  simp only [readHelp, readWord_append hname hspace, unescape_of_plain hhelp, Option.map_some]

theorem readLine_kindLine {name kind : Text} (hname : isWord isNameChar name = true)
    (hkind : kind ∈ kinds) : readLine number (kindLine name kind) = some (.kind name kind) := by
  have hne : kindLine name kind ≠ [] := List.append_ne_nil_of_left_ne_nil (by decide) _
  have hspace : isNameChar ' ' = false := by decide
  rw [readLine, if_neg hne, kindLine, dropKeyword_helpKeyword, dropKeyword_append]
  simp only [readKind, readWord_append hname hspace, if_pos (List.contains_iff_mem.mpr hkind)]

theorem readSample_sampleLine {name : Text} {s : Sample α} (hname : isWord isNameChar name = true)
    (hlabels : ∀ label ∈ s.labels, isWord isLabelChar label.1 = true ∧ Plain label.2)
    (hnumber : number (print s.value) = some (f s.value)) :
    readSample number (sampleLine print name s) = some (.sample name (s.map f)) := by
  rw [readSample, sampleLine]
  split_ifs with hempty
  · simp only [readWord_append hname (show isNameChar ' ' = false by decide), hnumber,
      Option.map_some, Sample.map, hempty]
  · have hfuel := length_le_labelsText s.labels
    rw [List.append_assoc, List.cons_append, readWord_append hname (by decide)]
    simp only [readLabels_labelsText hlabels hempty
      (show _ ≤ (labelsText s.labels ++ '}' :: ' ' :: print s.value).length by
        rw [List.length_append]; omega), hnumber, Option.map_some, Sample.map]

theorem readLine_sampleLine {name : Text} {s : Sample α} (hname : isWord isNameChar name = true)
    (hlabels : ∀ label ∈ s.labels, isWord isLabelChar label.1 = true ∧ Plain label.2)
    (hnumber : number (print s.value) = some (f s.value)) :
    readLine number (sampleLine print name s) = some (.sample name (s.map f)) := by
  have hread := readSample_sampleLine hname hlabels hnumber
  obtain ⟨c, more, hcons, hc⟩ : ∃ c more, sampleLine print name s = c :: more ∧ c ≠ '#' := by
    unfold sampleLine
    split_ifs
    · exact head_of_isWord hname _
    · rw [List.append_assoc]
      exact head_of_isWord hname _
  rw [hcons] at hread ⊢
  obtain ⟨hhelp, hkind⟩ := dropKeyword_of_head_ne hc more
  rw [readLine, if_neg (List.cons_ne_nil _ _), hhelp]
  simp only [hkind, List.head?_cons, Option.some.injEq, if_neg hc, hread]

end ReadLine

/-! ## Pages -/

section Pages

variable {print : α → Text} {number : Text → Option β} {f : α → β}

/-- What a family says, line by line. -/
def Family.readings (family : Family β) : List (Line β) :=
  .help family.name family.help :: .kind family.name family.kind ::
    (family.samples.map (.sample family.name) ++ [.comment])

theorem exec_samples {family : Family β} {closed : List (Family β)} {samples : List (Sample β)}
    (h : ((family.samples ++ samples).map Sample.labels).Nodup) :
    exec takeLine (family :: closed) (samples.map (.sample family.name)) =
      some ({ family with samples := family.samples ++ samples } :: closed) := by
  induction samples generalizing family with
  | nil => simp
  | cons s samples ih =>
    have hnew : s.labels ∉ family.samples.map Sample.labels := by
      rw [List.map_append, List.map_cons] at h
      intro hmem
      exact (List.nodup_append.mp h).2.2 _ hmem _ List.mem_cons_self rfl
    have hmore := @ih { family with samples := family.samples ++ [s] } (by simpa using h)
    rw [List.map_cons, exec_cons, takeLine, if_pos ⟨rfl, hnew⟩, Option.bind_some, hmore]
    simp

theorem exec_readings {family : Family β} {closed : List (Family β)}
    (hname : family.name ∉ closed.map Family.name)
    (hlabels : (family.samples.map Sample.labels).Nodup) :
    exec takeLine closed family.readings = some (family :: closed) := by
  have hsamples := @exec_samples _ ⟨family.name, family.kind, family.help, []⟩ closed
    family.samples (by simpa using hlabels)
  rw [Family.readings, exec_cons, takeLine, if_neg (hname ∘ List.contains_iff_mem.mp),
    Option.bind_some, exec_cons, takeLine,
    if_pos ⟨rfl, rfl⟩, Option.bind_some, exec_append, hsamples, Option.bind_some]
  simp [exec_cons, takeLine]

theorem exec_families {families closed : List (Family β)}
    (hnames : (closed.map Family.name ++ families.map Family.name).Nodup)
    (hlabels : ∀ family ∈ families, (family.samples.map Sample.labels).Nodup) :
    exec takeLine closed.reverse (families.flatMap Family.readings) =
      some (closed ++ families).reverse := by
  induction families generalizing closed with
  | nil => simp
  | cons family families ih =>
    obtain ⟨hfamily, hmore⟩ := List.forall_mem_cons.mp hlabels
    have hnew : family.name ∉ closed.reverse.map Family.name := by
      rw [List.map_reverse, List.mem_reverse]
      intro hmem
      exact (List.nodup_append.mp hnames).2.2 _ hmem _ List.mem_cons_self rfl
    have hrest := @ih (closed ++ [family]) (by simpa using hnames) hmore
    rw [List.flatMap_cons, exec_append, exec_readings hnew hfamily, Option.bind_some]
    simpa using hrest

theorem newline_not_mem_sampleLine {family : Family α} (h : family.WellFormed) {s : Sample α}
    (hs : s ∈ family.samples) (hprint : '\n' ∉ print s.value) :
    '\n' ∉ sampleLine print family.name s := by
  have hname : '\n' ∉ family.name := not_mem_of_isWord h.name (by decide)
  have hlabels : '\n' ∉ labelsText s.labels := by
    have hall := h.labels s hs
    generalize s.labels = labels at hall
    induction labels with
    | nil => exact List.not_mem_nil
    | cons label labels ih =>
      obtain ⟨⟨hlabel, hvalue⟩, hmore⟩ := List.forall_mem_cons.mp hall
      have hfirst : '\n' ∉ labelText label := by
        simp [labelText, not_mem_of_isWord hlabel (show isLabelChar '\n' = false by decide),
          hvalue.2.2]
      cases labels with
      | nil => exact hfirst
      | cons next labels =>
        rw [labelsText, List.mem_append, List.mem_cons]
        · rintro (hin | hcomma | hin)
          · exact hfirst hin
          · cases hcomma
          · exact ih hmore hin
        · exact List.cons_ne_nil _ _
  unfold sampleLine
  split_ifs <;> simp [hname, hlabels, hprint]

theorem newline_not_mem_lines {family : Family α} (h : family.WellFormed)
    (hprint : ∀ a, '\n' ∉ print a) : ∀ line ∈ family.lines print, '\n' ∉ line := by
  have hname : '\n' ∉ family.name := not_mem_of_isWord h.name (by decide)
  have hkind : '\n' ∉ family.kind := by
    have hall : ∀ kind ∈ kinds, '\n' ∉ kind := by decide
    exact hall _ h.kind
  have hhelpKeyword : '\n' ∉ helpKeyword := by decide
  have hkindKeyword : '\n' ∉ kindKeyword := by decide
  intro line hline
  rw [Family.lines, List.mem_cons, List.mem_cons, List.mem_append, List.mem_map,
    List.mem_singleton] at hline
  rcases hline with rfl | rfl | ⟨s, hs, rfl⟩ | rfl
  · simp [helpLine, hhelpKeyword, hname, h.help.2]
  · simp [kindLine, hkindKeyword, hname, hkind]
  · exact newline_not_mem_sampleLine h hs (hprint _)
  · exact List.not_mem_nil

theorem mapM_readLine_lines {family : Family α} (h : family.WellFormed)
    (hnumber : ∀ a, number (print a) = some (f a)) :
    (family.lines print).mapM (readLine number) = some (family.map f).readings := by
  have hsamples (samples : List (Sample α)) (hin : ∀ s ∈ samples, s ∈ family.samples) :
      (samples.map (sampleLine print family.name) ++ [[]]).mapM (readLine number) =
        some ((samples.map (Sample.map f)).map (.sample family.name) ++ [.comment]) := by
    induction samples with
    | nil => rfl
    | cons s samples ih =>
      obtain ⟨hs, hmore⟩ := List.forall_mem_cons.mp hin
      rw [List.map_cons, List.cons_append, List.mapM_cons,
        readLine_sampleLine h.name (h.labels s hs) (hnumber _), ih hmore]
      rfl
  rw [Family.lines, List.mapM_cons, readLine_helpLine h.name h.help.1, List.mapM_cons,
    readLine_kindLine h.name h.kind, hsamples _ fun _ hs => hs]
  rfl

theorem mapM_readLine_families {families : List (Family α)}
    (h : ∀ family ∈ families, family.WellFormed) (hnumber : ∀ a, number (print a) = some (f a)) :
    (families.flatMap (Family.lines print) ++ [[]]).mapM (readLine number) =
      some ((families.map (Family.map f)).flatMap Family.readings ++ [.comment]) := by
  induction families with
  | nil => rfl
  | cons family families ih =>
    obtain ⟨hfamily, hmore⟩ := List.forall_mem_cons.mp h
    rw [List.flatMap_cons, List.append_assoc, List.mapM_append, mapM_readLine_lines hfamily hnumber,
      ih hmore]
    simp

/-- A reader finds on a printed page the families that were printed, each value
as the number its text denotes. -/
theorem parse_render {families : List (Family α)} (h : WellFormed families)
    (hprint : ∀ a, '\n' ∉ print a) (hnumber : ∀ a, number (print a) = some (f a)) :
    parse number (render print families) = some (families.map (Family.map f)) := by
  have hlines : ∀ line ∈ families.flatMap (Family.lines print), '\n' ∉ line := by
    intro line hline
    obtain ⟨family, hfamily, hin⟩ := List.mem_flatMap.mp hline
    exact newline_not_mem_lines (h.readable family hfamily) hprint line hin
  have hnames : ((families.map (Family.map f)).map Family.name).Nodup := by
    rw [List.map_map]
    exact h.distinct
  have hlabels : ∀ family ∈ families.map (Family.map f),
      (family.samples.map Sample.labels).Nodup := by
    intro family hfamily
    obtain ⟨printed, hprinted, rfl⟩ := List.mem_map.mp hfamily
    have hsame : (printed.map f).samples.map Sample.labels = printed.samples.map Sample.labels := by
      rw [Family.map, List.map_map]
      rfl
    rw [hsame]
    exact (h.readable printed hprinted).distinct
  have hexec := @exec_families _ _ [] (by simpa using hnames) hlabels
  rw [parse, render, splitOn_unlines hlines, mapM_readLine_families h.readable hnumber,
    Option.bind_some, exec_append]
  rw [List.reverse_nil, List.nil_append] at hexec
  rw [hexec]
  simp [exec_cons, takeLine]

end Pages

/-! ## Looking a value up -/

def value? (families : List (Family β)) (name : Text) (labels : List (Text × Text)) : Option β :=
  (families.find? fun family => family.name = name).bind fun family =>
    (family.samples.find? fun s => s.labels = labels).map Sample.value

theorem find?_of_nodup {γ κ : Type*} [DecidableEq κ] {key : γ → κ} {xs : List γ}
    (h : (xs.map key).Nodup) {x : γ} (hx : x ∈ xs) :
    xs.find? (fun y => key y = key x) = some x := by
  induction xs with
  | nil => cases hx
  | cons y xs ih =>
    rw [List.map_cons, List.nodup_cons] at h
    rcases List.mem_cons.mp hx with rfl | hmem
    · simp
    · have hne : key y ≠ key x := by
        intro heq
        exact h.1 (heq ▸ List.mem_map_of_mem hmem)
      rw [List.find?_cons_of_neg (by simpa using hne), ih h.2 hmem]

theorem value?_of_mem {families : List (Family β)} (h : WellFormed families) {family : Family β}
    (hfamily : family ∈ families) {s : Sample β} (hs : s ∈ family.samples) :
    value? families family.name s.labels = some s.value := by
  rw [value?, find?_of_nodup h.distinct hfamily, Option.bind_some,
    find?_of_nodup (h.readable family hfamily).distinct hs, Option.map_some]

end Reprox.Foundations.Exposition
