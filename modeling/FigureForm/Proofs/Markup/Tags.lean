/-
# Reading tags

The reader takes one character after another.  `Leads` composes such steps, and with it each piece of
a rendered document is read by itself: a name, an attribute with its references, a start tag, an end
tag.  Every statement leaves open which events came before, so that the pieces fit together in any
order.
-/

import FigureForm.Proofs.Markup.Reader

namespace FigureForm.Markup

/-! ## References -/

theorem decodeFrom_escapeCharacter (c : Char) (rest : List Char) :
    decodeFrom none (escapeCharacter c ++ rest) = (decodeFrom none rest).map (c :: ·) := by
  unfold escapeCharacter
  split
  case h_6 ordinary _ _ ampersand _ _ =>
    rw [List.singleton_append, decodeFrom, if_neg ampersand]
  all_goals rfl

/-- Writing a text with references and replacing them again gives the text. -/
theorem decode?_escape (text : String) : decode? (escape text) = some text := by
  have characters (written : List Char) :
      decodeFrom none (written.flatMap escapeCharacter) = some written := by
    induction written with
    | nil => rfl
    | cons c rest inductive_hypothesis =>
      rw [List.flatMap_cons, decodeFrom_escapeCharacter, inductive_hypothesis, Option.map_some]
  rw [decode?, escape, characters, Option.map_some, String.ofList_toList]

theorem escape_injective {first second : String} (same : escape first = escape second) :
    first = second := by
  have decoded := decode?_escape first
  rw [same, decode?_escape] at decoded
  exact (Option.some.inj decoded).symm

theorem all_plain_escapeCharacter (source : Char) :
    (escapeCharacter source).all (fun c => c != '<' && c != '"') = true := by
  unfold escapeCharacter
  split
  case h_6 less _ _ _ quote =>
    have plain : source ≠ '<' ∧ source ≠ '"' := ⟨less, quote⟩
    simpa using plain
  all_goals rfl

/-- No sign that ends a text or a value is left in a written text. -/
theorem plain_of_mem_escape {text : String} {c : Char} (member : c ∈ escape text) :
    c ≠ '<' ∧ c ≠ '"' := by
  obtain ⟨source, -, written⟩ := List.mem_flatMap.1 member
  have plain := List.all_eq_true.1 (all_plain_escapeCharacter source) c written
  rwa [Bool.and_eq_true, bne_iff_ne, bne_iff_ne] at plain

/-! ## Reading along -/

/-- Taking the inputs in turn leads from one state to the other. -/
def Leads {State Input : Type} (step : State → Input → Option State) (origin : State)
    (inputs : List Input) (target : State) : Prop :=
  inputs.foldlM step origin = some target

namespace Leads

variable {State Input : Type} {step : State → Input → Option State}
  {origin between target : State} {first second : List Input}

theorem nil (state : State) : Leads step state [] state :=
  rfl

theorem cons {input : Input} (here : step origin input = some between)
    (later : Leads step between second target) : Leads step origin (input :: second) target := by
  rw [Leads, List.foldlM_cons, here]
  exact later

theorem append (before : Leads step origin first between)
    (later : Leads step between second target) : Leads step origin (first ++ second) target := by
  rw [Leads] at before
  rw [Leads, List.foldlM_append, before]
  exact later

theorem single {input : Input} (here : step origin input = some target) :
    Leads step origin [input] target :=
  cons here (nil target)

end Leads

/-- The reader gets from one state to the other with the characters. -/
abbrev Reads : List Event × Mode → List Char → List Event × Mode → Prop :=
  Leads step

namespace Reads

variable {events : List Event} {written : List Char}

/-- Characters that a place collects are collected one after another. -/
theorem collected (mode : List Char → Mode) (accepted : Char → Prop)
    (collects : ∀ before c, accepted c →
      step (events, mode before) c = some (events, mode (before ++ [c])))
    (before : List Char) (all : ∀ c ∈ written, accepted c) :
    Reads (events, mode before) written (events, mode (before ++ written)) := by
  induction written generalizing before with
  | nil =>
    rw [List.append_nil]
    exact Leads.nil _
  | cons c rest inductive_hypothesis =>
    have later := inductive_hypothesis (before ++ [c])
      fun other member => all other (List.mem_cons_of_mem c member)
    rw [List.append_assoc, List.singleton_append] at later
    exact Leads.cons (collects before c (all c List.mem_cons_self)) later

end Reads

/-! ## Tags -/

/-- Whether a text can be the name of an element or an attribute. -/
def IsName (name : String) : Prop :=
  name.toList ≠ [] ∧ name.toList.all isNameCharacter = true

instance (name : String) : Decidable (IsName name) :=
  inferInstanceAs (Decidable (_ ∧ _))

/-- Where the reader stands behind the name of a start tag and the attributes so far. -/
def behind (name : String) : List (String × String) → Mode
  | [] => .startName name.toList
  | first :: rest => .afterValue name (first :: rest)

theorem step_behind {events : List Event} {name : String} {attributes : List (String × String)}
    {c : Char} (other : isNameCharacter c = false) :
    step (events, behind name attributes) c = stepBehind events name attributes c := by
  cases attributes with
  | nil =>
    have stays : ¬ isNameCharacter c = true := by simp [other]
    rw [behind, step, if_neg stays, String.ofList_toList]
  | cons => rfl

theorem ne_of_isNameCharacter {c other : Char} (named : isNameCharacter c = true)
    (unnamed : isNameCharacter other = false) : c ≠ other := by
  intro same
  rw [same, unnamed] at named
  contradiction

namespace Reads

variable {events : List Event} {name key value : String} {attributes : List (String × String)}

/-- A name is read wherever its first character and its further characters are. -/
theorem name_of_collects {here : Mode} (mode : List Char → Mode)
    (begins : ∀ c, isNameCharacter c = true → step (events, here) c = some (events, mode [c]))
    (collects : ∀ before c, isNameCharacter c = true →
      step (events, mode before) c = some (events, mode (before ++ [c])))
    (named : IsName name) : Reads (events, here) name.toList (events, mode name.toList) := by
  obtain ⟨someCharacters, all⟩ := named
  obtain ⟨first, rest, characters⟩ := List.exists_cons_of_ne_nil someCharacters
  rw [characters, List.all_cons, Bool.and_eq_true, List.all_eq_true] at all
  rw [characters]
  have later := collected mode (fun c => isNameCharacter c = true) collects [first] all.2
  exact Leads.cons (begins first all.1) later

theorem attribute_value (written : List Char) :
    Reads (events, .value name attributes key written) (escape value)
      (events, .value name attributes key (written ++ escape value)) := by
  apply collected (fun before => .value name attributes key before) (fun c => c ≠ '<' ∧ c ≠ '"')
  · intro before c plain
    rw [step, if_neg plain.2, if_neg plain.1]
  · intro c member
    exact plain_of_mem_escape member

theorem one_attribute (named : IsName key) :
    Reads (events, behind name attributes) (renderAttribute (key, value))
      (events, behind name (attributes ++ [(key, value)])) := by
  have blank : step (events, behind name attributes) ' ' = some (events, .gap name attributes) :=
    step_behind (by decide)
  have keyRead : Reads (events, .gap name attributes) key.toList
      (events, .attributeName name attributes key.toList) := by
    apply name_of_collects (fun before => .attributeName name attributes before) _ _ named
    · intro c nameCharacter
      rw [step, if_pos nameCharacter]
    · intro before c nameCharacter
      rw [step, if_pos nameCharacter]
  have sign : step (events, .attributeName name attributes key.toList) '=' =
      some (events, .equals name attributes key) := by
    rw [step, if_neg (by decide), if_pos rfl, String.ofList_toList]
  have quote : step (events, .equals name attributes key) '"' =
      some (events, .value name attributes key []) := rfl
  have unquote : step (events, .value name attributes key (escape value)) '"' =
      some (events, behind name (attributes ++ [(key, value)])) := by
    rw [step, if_pos rfl, decode?_escape, Option.map_some]
    cases attributes <;> rfl
  exact Leads.cons blank
    ((keyRead.append (Leads.cons sign (Leads.cons quote (attribute_value [])))).append
      (Leads.single unquote))

theorem attributes_behind (before added : List (String × String))
    (named : ∀ one ∈ added, IsName one.1) :
    Reads (events, behind name before) (added.flatMap renderAttribute)
      (events, behind name (before ++ added)) := by
  induction added generalizing before with
  | nil =>
    rw [List.append_nil]
    exact Leads.nil _
  | cons one rest inductive_hypothesis =>
    have later := inductive_hypothesis (before ++ [one])
      fun other member => named other (List.mem_cons_of_mem one member)
    rw [List.append_assoc, List.singleton_append] at later
    exact (one_attribute (named one List.mem_cons_self)).append later

variable (events) {written : List Char} {texts : List Event}

theorem content (written more : List Char) (all : ∀ c ∈ more, c ≠ '<') :
    Reads (events, .content written) more (events, .content (written ++ more)) := by
  apply collected .content (fun c => c ≠ '<') _ written all
  intro before c notSign
  rw [step, if_neg notSign]

/-- A start tag up to its end, with the text in front of it. -/
theorem opening (collected : texts? written = some texts) (named : IsName name)
    (keysNamed : ∀ one ∈ attributes, IsName one.1) :
    Reads (events, .content written) (openTag name attributes)
      (events ++ texts, behind name attributes) := by
  have sign : step (events, .content written) '<' = some (events ++ texts, .tag) := by
    rw [step, if_pos rfl, collected, Option.map_some]
  have nameRead : Reads (events ++ texts, .tag) name.toList (events ++ texts, behind name []) := by
    apply name_of_collects .startName _ _ named
    · intro c nameCharacter
      rw [step, if_neg (ne_of_isNameCharacter nameCharacter (by decide)), if_pos nameCharacter]
    · intro before c nameCharacter
      rw [step, if_pos nameCharacter]
  exact Leads.cons sign (nameRead.append (attributes_behind [] attributes keysNamed))

theorem startTag (collected : texts? written = some texts) (named : IsName name)
    (keysNamed : ∀ one ∈ attributes, IsName one.1) :
    Reads (events, .content written) (openTag name attributes ++ ['>'])
      (events ++ texts ++ [.start name attributes], .content []) :=
  (opening events collected named keysNamed).append (Leads.single (step_behind (by decide)))

theorem emptyTag (collected : texts? written = some texts) (named : IsName name)
    (keysNamed : ∀ one ∈ attributes, IsName one.1) :
    Reads (events, .content written) (openTag name attributes ++ ['/', '>'])
      (events ++ texts ++ [.empty name attributes], .content []) :=
  (opening events collected named keysNamed).append
    (Leads.cons (step_behind (by decide)) (Leads.single rfl))

theorem stopTag (collected : texts? written = some texts) (named : IsName name) :
    Reads (events, .content written) (closeTag name)
      (events ++ texts ++ [.stop name], .content []) := by
  have sign : step (events, .content written) '<' = some (events ++ texts, .tag) := by
    rw [step, if_pos rfl, collected, Option.map_some]
  have nameRead : Reads (events ++ texts, .stopName []) name.toList
      (events ++ texts, .stopName name.toList) := by
    apply name_of_collects .stopName _ _ named
    · intro c nameCharacter
      rw [step, if_pos nameCharacter, List.nil_append]
    · intro before c nameCharacter
      rw [step, if_pos nameCharacter]
  have close : step (events ++ texts, .stopName name.toList) '>' =
      some (events ++ texts ++ [.stop name], .content []) := by
    rw [step, if_neg (by decide), if_pos rfl, String.ofList_toList]
  exact Leads.cons sign (Leads.cons rfl (nameRead.append (Leads.single close)))

end Reads

end FigureForm.Markup
