/-
# Rendered markup reads back

A reader that starts between two tags, in front of a rendered element, ends behind it with the
element's own events.  `Reads.rendered` says so for every level of indentation and for whatever was
read before; the indentation itself appears as texts between the elements.  `build` then drops these
texts and keeps all others, because `WellFormed` elements hold a text only where blanks count.
-/

import FigureForm.Proofs.Markup.Tags

namespace FigureForm.Markup

/-! ## Elements -/

/-- The text between two tags as an event. -/
def textEvents (content : String) : List Event :=
  if content.isEmpty then [] else [.text content]

theorem texts?_escape (content : String) : texts? (escape content) = some (textEvents content) := by
  by_cases empty : content = ""
  · subst empty
    rfl
  · have written : ¬ (escape content).isEmpty = true := by
      intro nothing
      exact empty (escape_injective ((List.isEmpty_iff.1 nothing).trans rfl))
    have characters : ¬ content.isEmpty = true := fun nothing =>
      empty (String.isEmpty_iff.1 nothing)
    rw [texts?, textEvents, decode?_escape, if_neg written, if_neg characters, Option.map_some]

/-- The text in front of an element on a line of its own. -/
def indentation (level : Nat) : String :=
  String.ofList (lineBreak level)

theorem isBlank_of_mem_lineBreak {level : Nat} {c : Char} (member : c ∈ lineBreak level) :
    isBlank c = true := by
  rcases List.mem_cons.1 member with rfl | repeated
  · rfl
  · rw [List.eq_of_mem_replicate repeated]
    rfl

theorem escape_indentation (level : Nat) : escape (indentation level) = lineBreak level := by
  have blanks (count : Nat) :
      (List.replicate count ' ').flatMap escapeCharacter = List.replicate count ' ' := by
    induction count with
    | zero => rfl
    | succ count inductive_hypothesis =>
      rw [List.replicate_succ, List.flatMap_cons, inductive_hypothesis]
      rfl
  rw [escape, indentation, String.toList_ofList, lineBreak, List.flatMap_cons, blanks]
  rfl

mutual

/-- The events of an element at a level, with the texts that lay out the elements inside it. -/
def eventsAt (level : Nat) : Markup → List Event
  | empty name attributes => [.empty name attributes]
  | text name attributes content =>
    .start name attributes :: textEvents content ++ [.stop name]
  | nested name attributes elements =>
    .start name attributes :: eventsAllAt (level + 1) elements ++
      textEvents (indentation level) ++ [.stop name]

/-- The events of elements at a level, each behind its line break. -/
def eventsAllAt (level : Nat) : List Markup → List Event
  | [] => []
  | element :: rest =>
    textEvents (indentation level) ++ eventsAt level element ++ eventsAllAt level rest

end

mutual

/-- The tree that an element stands for. -/
def tree : Markup → Tree
  | empty name attributes => .element name attributes []
  | text name attributes content =>
    .element name attributes (if content.isEmpty then [] else [.text content])
  | nested name attributes elements => .element name attributes (trees elements)

/-- The trees of elements in order. -/
def trees : List Markup → List Tree
  | [] => []
  | element :: rest => tree element :: trees rest

end

/-- Whether the elements with a name hold a text in which blanks count. -/
def HoldsText (name : String) : Prop :=
  IsName name ∧ separatesWithBlanks name = false

instance (name : String) : Decidable (HoldsText name) :=
  inferInstanceAs (Decidable (_ ∧ _))

/-- Whether the elements with a name hold elements, which blanks separate. -/
def HoldsElements (name : String) : Prop :=
  IsName name ∧ separatesWithBlanks name = true

instance (name : String) : Decidable (HoldsElements name) :=
  inferInstanceAs (Decidable (_ ∧ _))

mutual

/-- Names are names, and blanks separate elements exactly where elements stand. -/
@[simp] def WellFormed : Markup → Prop
  | empty name attributes => IsName name ∧ ∀ one ∈ attributes, IsName one.1
  | text name attributes _ => HoldsText name ∧ ∀ one ∈ attributes, IsName one.1
  | nested name attributes elements =>
    HoldsElements name ∧ (∀ one ∈ attributes, IsName one.1) ∧ AllWellFormed elements

/-- Every element is well-formed. -/
@[simp] def AllWellFormed : List Markup → Prop
  | [] => True
  | element :: rest => WellFormed element ∧ AllWellFormed rest

end

theorem allWellFormed_iff {elements : List Markup} :
    AllWellFormed elements ↔ ∀ element ∈ elements, element.WellFormed := by
  induction elements with
  | nil => simp
  | cons element rest inductive_hypothesis => simp [inductive_hypothesis]

@[simp] theorem allWellFormed_append {first second : List Markup} :
    AllWellFormed (first ++ second) ↔ AllWellFormed first ∧ AllWellFormed second := by
  simp only [allWellFormed_iff, List.mem_append, or_imp, forall_and]

namespace Reads

theorem break_line (events : List Event) (level : Nat) :
    Reads (events, .content []) (lineBreak level)
      (events, .content (escape (indentation level))) := by
  rw [escape_indentation]
  apply content events []
  intro c member less
  have blank := isBlank_of_mem_lineBreak member
  rw [less] at blank
  contradiction

mutual

/-- From between two tags the reader gets behind a rendered element, with its events. -/
theorem rendered (element : Markup) (formed : element.WellFormed) (level : Nat)
    (events : List Event) {written : List Char} {texts : List Event}
    (collected : texts? written = some texts) :
    Reads (events, .content written) (element.renderAt level)
      (events ++ texts ++ element.eventsAt level, .content []) := by
  cases element with
  | empty name attributes =>
    obtain ⟨named, keysNamed⟩ := formed
    exact emptyTag events collected named keysNamed
  | text name attributes characters =>
    obtain ⟨⟨named, -⟩, keysNamed⟩ := formed
    have start := startTag events collected named keysNamed
    have inside := content (events ++ texts ++ [.start name attributes]) [] (escape characters)
      fun c member => (plain_of_mem_escape member).1
    have stop := stopTag (events ++ texts ++ [.start name attributes])
      (texts?_escape characters) named
    simpa [renderAt, eventsAt] using (start.append inside).append stop
  | nested name attributes elements =>
    obtain ⟨⟨named, -⟩, keysNamed, allFormed⟩ := formed
    have start := startTag events collected named keysNamed
    have inside := renderedAll elements allFormed (level + 1)
      (events ++ texts ++ [.start name attributes])
    have lastLine := break_line
      (events ++ texts ++ [.start name attributes] ++ eventsAllAt (level + 1) elements) level
    have stop := stopTag
      (events ++ texts ++ [.start name attributes] ++ eventsAllAt (level + 1) elements)
      (texts?_escape (indentation level)) named
    simpa [renderAt, eventsAt] using ((start.append inside).append lastLine).append stop

theorem renderedAll (elements : List Markup) (formed : AllWellFormed elements) (level : Nat)
    (events : List Event) :
    Reads (events, .content []) (renderAllAt level elements)
      (events ++ eventsAllAt level elements, .content []) := by
  cases elements with
  | nil => simpa [renderAllAt, eventsAllAt] using Leads.nil _
  | cons element rest =>
    obtain ⟨elementFormed, restFormed⟩ := formed
    have line := break_line events level
    have first := rendered element elementFormed level events (texts?_escape (indentation level))
    have others := renderedAll rest restFormed level
      (events ++ textEvents (indentation level) ++ eventsAt level element)
    simpa [renderAllAt, eventsAllAt] using (line.append first).append others

end

end Reads

/-- The tags and texts of an element that was rendered at a level. -/
theorem events?_renderAt {element : Markup} (formed : element.WellFormed) (level : Nat) :
    events? (element.renderAt level) = some (element.eventsAt level) := by
  have nothing : texts? [] = some [] := rfl
  have reached := Reads.rendered element formed level [] nothing
  rw [List.append_nil, List.nil_append, Reads, Leads] at reached
  rw [events?, reached]
  simp only [nothing, Option.map_some, List.append_nil]

/-- The tags and texts of a rendered element. -/
theorem events?_render {element : Markup} (formed : element.WellFormed) :
    events? element.render.toList = some (element.eventsAt 0) := by
  rw [render, String.toList_ofList, events?_renderAt formed]

/-! ## Trees -/

/-- Events build up the innermost open element from one stack to the other. -/
abbrev Builds : Stack → List Event → Stack → Prop :=
  Leads build

namespace Builds

theorem kept_text (innermost : Opened) (outer : List Opened) (inside : List Tree) (content : String)
    (counts : separatesWithBlanks innermost.name = false) :
    Builds (inside, innermost :: outer) (textEvents content)
      (inside ++ if content.isEmpty then [] else [.text content], innermost :: outer) := by
  rw [textEvents]
  split
  · rw [List.append_nil]
    exact Leads.nil _
  · apply Leads.single
    simp [build, counts]

theorem dropped_indentation (innermost : Opened) (outer : List Opened) (inside : List Tree)
    (level : Nat) (separates : separatesWithBlanks innermost.name = true) :
    Builds (inside, innermost :: outer) (textEvents (indentation level))
      (inside, innermost :: outer) := by
  have blanks : (indentation level).toList.all isBlank = true := by
    rw [indentation, String.toList_ofList, List.all_eq_true]
    exact fun c member => isBlank_of_mem_lineBreak member
  rw [textEvents]
  split
  · exact Leads.nil _
  · apply Leads.single
    simp [build, separates, blanks]

theorem stopped (innermost : Opened) (outer : List Opened) (inside : List Tree) :
    build (inside, innermost :: outer) (.stop innermost.name) =
      some (innermost.before ++ [.element innermost.name innermost.attributes inside], outer) := by
  rw [build, if_pos rfl]

mutual

/-- The events of an element add its tree to what the innermost open element holds. -/
theorem rendered (element : Markup) (formed : element.WellFormed) (level : Nat)
    (inside : List Tree) (opened : List Opened) :
    Builds (inside, opened) (element.eventsAt level) (inside ++ [element.tree], opened) := by
  cases element with
  | empty name attributes => exact Leads.single rfl
  | text name attributes content =>
    obtain ⟨⟨-, counts⟩, -⟩ := formed
    have text := kept_text ⟨name, attributes, inside⟩ opened [] content counts
    have stop := stopped ⟨name, attributes, inside⟩ opened
      (if content.isEmpty then [] else [.text content])
    exact Leads.cons rfl (text.append (Leads.single stop))
  | nested name attributes elements =>
    obtain ⟨⟨-, separates⟩, -, allFormed⟩ := formed
    have all := renderedAll elements allFormed (level + 1) [] ⟨name, attributes, inside⟩ opened
      separates
    have lastLine := dropped_indentation ⟨name, attributes, inside⟩ opened (trees elements) level
      separates
    have stop := stopped ⟨name, attributes, inside⟩ opened (trees elements)
    exact Leads.cons rfl ((all.append lastLine).append (Leads.single stop))

theorem renderedAll (elements : List Markup) (formed : AllWellFormed elements) (level : Nat)
    (inside : List Tree) (innermost : Opened) (outer : List Opened)
    (separates : separatesWithBlanks innermost.name = true) :
    Builds (inside, innermost :: outer) (eventsAllAt level elements)
      (inside ++ trees elements, innermost :: outer) := by
  cases elements with
  | nil =>
    rw [eventsAllAt, trees, List.append_nil]
    exact Leads.nil _
  | cons element rest =>
    obtain ⟨elementFormed, restFormed⟩ := formed
    have line := dropped_indentation innermost outer inside level separates
    have first := rendered element elementFormed level inside (innermost :: outer)
    have others := renderedAll rest restFormed level (inside ++ [element.tree]) innermost outer
      separates
    rw [List.append_assoc, List.singleton_append] at others
    exact (line.append first).append others

end

end Builds

theorem assemble?_eventsAt {element : Markup} (formed : element.WellFormed) (level : Nat) :
    assemble? (element.eventsAt level) = some element.tree := by
  have built := Builds.rendered element formed level [] []
  rw [Builds, Leads] at built
  rw [assemble?, built]
  rfl

/-- An element reads back as its tree, at whatever level it was rendered. -/
theorem read?_renderAt {element : Markup} (formed : element.WellFormed) (level : Nat) :
    read? (String.ofList (element.renderAt level)) = some element.tree := by
  rw [read?, String.toList_ofList, events?_renderAt formed, Option.bind_some,
    assemble?_eventsAt formed]

/-- A rendered element reads back as its tree. -/
theorem read?_render {element : Markup} (formed : element.WellFormed) :
    read? element.render = some element.tree :=
  read?_renderAt formed 0

/-! ## Nesting -/

namespace WellNested

variable {rest : List Event}

theorem textEvents (content : String) (later : WellNested rest) :
    WellNested (Markup.textEvents content ++ rest) := by
  rw [Markup.textEvents]
  split
  · exact later
  · exact text content later

mutual

/-- The tags of an element are closed in front of whatever follows it. -/
theorem rendered (markup : Markup) (level : Nat) {rest : List Event} (later : WellNested rest) :
    WellNested (markup.eventsAt level ++ rest) := by
  cases markup with
  | empty name attributes => exact empty name attributes later
  | text name attributes content =>
    have inner := textEvents content nil
    have whole := element name attributes inner later
    simpa [eventsAt] using whole
  | nested name attributes elements =>
    have inner := renderedAll elements (level + 1) (textEvents (indentation level) nil)
    have whole := element name attributes inner later
    simpa [eventsAt] using whole

theorem renderedAll (elements : List Markup) (level : Nat) {rest : List Event}
    (later : WellNested rest) : WellNested (eventsAllAt level elements ++ rest) := by
  cases elements with
  | nil => exact later
  | cons markup others =>
    have behind := renderedAll others level later
    have here := textEvents (indentation level) (rendered markup level behind)
    simpa [eventsAllAt] using here

end

end WellNested

/-- An element is one pair of tags around tags that are all closed. -/
theorem eventsAt_nested (name : String) (attributes : List (String × String))
    (elements : List Markup) (level : Nat) :
    ∃ inner, (nested name attributes elements).eventsAt level =
      .start name attributes :: inner ++ [.stop name] ∧ WellNested inner := by
  refine ⟨eventsAllAt (level + 1) elements ++ textEvents (indentation level), ?_, ?_⟩
  · rw [eventsAt, List.cons_append]
  · have lastLine := WellNested.textEvents (indentation level) .nil
    rw [List.append_nil] at lastLine
    exact WellNested.renderedAll elements (level + 1) lastLine

end FigureForm.Markup
