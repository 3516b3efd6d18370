/-
# Measuring fonts for several callers

Callers may share a measurer, with one list of faces and one memory for all of them.  A call takes
several steps: measuring a font looks it up, measures it and then remembers the measures, and loading
a file adds its faces and then forgets.  No call keeps others out from one of its steps to the next.

What is remembered was measured with the faces of some moment, whatever the order of the steps.  It
is up to date between calls unless a load forgets while another call still holds measures that the
faces no longer give: the call remembers them afterwards, and then they stay.
-/

import FigureForm.Bytes.BigEndian
import FigureForm.Font.Database
import FigureForm.Proofs.Outcome
import Mathlib.Logic.Function.Basic
import Mathlib.Logic.Relation

namespace FigureForm

/-! ## The memory of a measurer -/

namespace FontMeasurer

theorem remembered?_remember (measurer : FontMeasurer) (font other : FontSpec)
    (metrics : FontMetrics) :
    (measurer.remember font metrics).remembered? other =
      if font = other then some metrics else measurer.remembered? other := by
  by_cases same : font = other
  · simp [remembered?, remember, same]
  · simp [remembered?, remember, same]

theorem addFaces_eq_ok {measurer extended : FontMeasurer} {content : ByteArray}
    (added : measurer.addFaces content = .ok extended) :
    ∃ faces, FontDatabase.facesOf content = .ok faces ∧
      extended = { measurer with faces := measurer.faces ++ faces } := by
  rw [addFaces] at added
  cases read : FontDatabase.facesOf content with
  | error _ =>
    rw [read] at added
    cases added
  | ok faces =>
    rw [read] at added
    cases added
    exact ⟨faces, rfl, rfl⟩

theorem load_eq_ok {measurer : FontMeasurer} {content : ByteArray} {faces : FontDatabase}
    (read : FontDatabase.facesOf content = .ok faces) :
    measurer.load content = .ok ⟨measurer.faces ++ faces, []⟩ := by
  rw [load, addFaces, read]
  rfl

theorem metrics_of_remembered {measurer : FontMeasurer} {font : FontSpec} {metrics : FontMetrics}
    (found : measurer.remembered? font = some metrics) :
    measurer.metrics font = (measurer, .ok metrics) := by
  rw [FontMeasurer.metrics, found]

theorem metrics_of_measured {measurer : FontMeasurer} {font : FontSpec} {metrics : FontMetrics}
    (absent : measurer.remembered? font = none)
    (taken : measurer.faces.measure font = .ok metrics) :
    measurer.metrics font = (measurer.remember font metrics, .ok metrics) := by
  rw [FontMeasurer.metrics, absent]
  dsimp only
  rw [taken]

theorem remembered?_remember_self (measurer : FontMeasurer) (font : FontSpec)
    (metrics : FontMetrics) :
    (measurer.remember font metrics).remembered? font = some metrics := by
  rw [remembered?_remember, if_pos rfl]

/-- Whether all that is remembered is what measuring gives now. -/
def IsFresh (measurer : FontMeasurer) : Prop :=
  ∀ font metrics, measurer.remembered? font = some metrics →
    measurer.faces.measure font = .ok metrics

/-- A fresh measurer answers as if it remembered nothing. -/
theorem IsFresh.metrics_eq_measure {measurer : FontMeasurer} (fresh : measurer.IsFresh)
    (font : FontSpec) : (measurer.metrics font).2 = measurer.faces.measure font := by
  rw [metrics]
  cases found : measurer.remembered? font with
  | some metrics => exact (fresh font metrics found).symm
  | none =>
    dsimp only
    cases measurer.faces.measure font <;> rfl

end FontMeasurer

/-! ## Calls and their steps -/

/-- What a call on a shared measurer does next. -/
inductive FontCall
  | lookUp (font : FontSpec)
  | measure (font : FontSpec)
  | remember (font : FontSpec) (metrics : FontMetrics)
  | addFaces (content : ByteArray)
  | forget

/-- Whether a call begins like this. -/
def FontCall.IsOpening : FontCall → Prop
  | lookUp _ | addFaces _ => True
  | measure _ | remember _ _ | forget => False

/-- A caller, which is in the middle of a call or has got the answer to its last one. -/
inductive FontCaller
  | idle
  | answered (answer : Except FontFault FontMetrics)
  | calling (call : FontCall)

/-- Whether a caller is in the middle of a call. -/
def FontCaller.IsCalling : FontCaller → Prop
  | calling _ => True
  | idle | answered _ => False

/-- One step of a call, with the measurer after it and what becomes of the caller.  No step adds a
file at which counting overflows.  Such a load would end its own caller only and leave the lock on the
faces unusable: what is remembered would still be answered, but any other font would be refused with
`font database lock poisoned`, and files would be loaded without effect.  None of this is modelled. -/
inductive FontCall.Advances (measurer : FontMeasurer) :
    FontCall → FontMeasurer → FontCaller → Prop
  | recalled {font metrics} (found : measurer.remembered? font = some metrics) :
      Advances measurer (lookUp font) measurer (.answered (.ok metrics))
  | missed {font} (absent : measurer.remembered? font = none) :
      Advances measurer (lookUp font) measurer (.calling (measure font))
  | measured {font metrics} (taken : measurer.faces.measure font = .ok metrics) :
      Advances measurer (measure font) measurer (.calling (remember font metrics))
  | failed {font fault} (failed : measurer.faces.measure font = .error fault) :
      Advances measurer (measure font) measurer (.answered (.error fault))
  | remembered {font metrics} :
      Advances measurer (remember font metrics) (measurer.remember font metrics)
        (.answered (.ok metrics))
  | added {content extended} (added : measurer.addFaces content = .ok extended) :
      Advances measurer (addFaces content) extended (.calling forget)
  | forgot :
      Advances measurer forget measurer.forget .idle

namespace FontCall.Advances

variable {measurer after : FontMeasurer} {call : FontCall} {state : FontCaller}

/-- Only a call that remembers measures adds to what is remembered. -/
theorem remembered?_eq_some (advances : call.Advances measurer after state) {font : FontSpec}
    {metrics : FontMetrics} (found : after.remembered? font = some metrics) :
    call = .remember font metrics ∨ measurer.remembered? font = some metrics := by
  cases advances with
  | recalled | missed | measured | failed => exact .inr found
  | @remembered other taken =>
    rw [FontMeasurer.remembered?_remember] at found
    split at found
    next same =>
      cases found
      rw [same]
      exact .inl rfl
    next => exact .inr found
  | added added =>
    obtain ⟨faces, -, rfl⟩ := FontMeasurer.addFaces_eq_ok added
    exact .inr found
  | forgot => cases found

/-- Faces are added behind the others. -/
theorem faces_prefix (advances : call.Advances measurer after state) :
    measurer.faces <+: after.faces := by
  cases advances with
  | added added =>
    obtain ⟨faces, -, rfl⟩ := FontMeasurer.addFaces_eq_ok added
    exact List.prefix_append _ faces
  | _ => exact List.prefix_refl _

/-- Only a call that has then to forget adds faces. -/
theorem faces_eq (advances : call.Advances measurer after state) (done : state ≠ .calling .forget) :
    after.faces = measurer.faces := by
  cases advances with
  | added => exact absurd rfl done
  | _ => rfl

end FontCall.Advances

/-- A measurer and the callers that share it. -/
structure SharedMeasurer (ι : Type) where
  measurer : FontMeasurer
  callers : ι → FontCaller

namespace SharedMeasurer

variable {ι : Type}

/-- Callers that have not called yet, with faces that were not measured yet. -/
def start (faces : FontDatabase) : SharedMeasurer ι :=
  ⟨⟨faces, []⟩, fun _ => .idle⟩

/-- Whether no call is in progress. -/
def IsQuiet (shared : SharedMeasurer ι) : Prop :=
  ∀ caller, ¬ (shared.callers caller).IsCalling

/-- Whether no load is between its two steps. -/
def IsSettled (shared : SharedMeasurer ι) : Prop :=
  ∀ caller, shared.callers caller ≠ .calling .forget

theorem IsQuiet.isSettled {shared : SharedMeasurer ι} (quiet : shared.IsQuiet) :
    shared.IsSettled := by
  intro caller forgets
  have calling := quiet caller
  rw [forgets] at calling
  exact calling trivial

/-- Whether a caller holds measures, to remember them in its next step. -/
def Holds (shared : SharedMeasurer ι) (caller : ι) (font : FontSpec) (metrics : FontMetrics) : Prop :=
  shared.callers caller = .calling (.remember font metrics)

/-- Whether all measures that callers hold are what measuring gives now. -/
def NoneOvertaken (shared : SharedMeasurer ι) : Prop :=
  ∀ caller font metrics, shared.Holds caller font metrics →
    shared.measurer.faces.measure font = .ok metrics

/-- A load that forgets while no other call is in progress overtakes none. -/
theorem noneOvertaken_of_alone {shared : SharedMeasurer ι} {caller : ι}
    (forgets : shared.callers caller = .calling .forget)
    (alone : ∀ other, (shared.callers other).IsCalling → other = caller) :
    shared.NoneOvertaken := by
  intro other font metrics holds
  rw [Holds] at holds
  obtain rfl := alone other (by rw [holds]; trivial)
  rw [forgets] at holds
  cases holds

/-- Whether all measures that are remembered or held satisfy a condition. -/
structure Covers (condition : FontSpec → FontMetrics → Prop) (shared : SharedMeasurer ι) : Prop where
  remembered : ∀ font metrics, shared.measurer.remembered? font = some metrics →
    condition font metrics
  held : ∀ caller font metrics, shared.Holds caller font metrics → condition font metrics

theorem Covers.mono {weak strong : FontSpec → FontMetrics → Prop}
    (implies : ∀ font metrics, strong font metrics → weak font metrics) {shared : SharedMeasurer ι}
    (covers : shared.Covers strong) : shared.Covers weak where
  remembered font metrics found := implies font metrics (covers.remembered font metrics found)
  held caller font metrics holds := implies font metrics (covers.held caller font metrics holds)

theorem covers_start {condition : FontSpec → FontMetrics → Prop} (faces : FontDatabase) :
    (start faces : SharedMeasurer ι).Covers condition :=
  ⟨nofun, nofun⟩

variable [DecidableEq ι]

/-- The same callers but for one, with a measurer. -/
def become (shared : SharedMeasurer ι) (caller : ι) (measurer : FontMeasurer)
    (state : FontCaller) : SharedMeasurer ι :=
  ⟨measurer, Function.update shared.callers caller state⟩

/-- The call of a caller takes one step. -/
inductive Advance (mayForget : SharedMeasurer ι → Prop) (caller : ι) (shared : SharedMeasurer ι) :
    SharedMeasurer ι → Prop
  | intro {call measurer state} (calls : shared.callers caller = .calling call)
      (advances : call.Advances shared.measurer measurer state)
      (allowed : call = .forget → mayForget shared) :
      Advance mayForget caller shared (shared.become caller measurer state)

/-- A caller begins a call, or a call takes one step.  A call forgets only in states where it may. -/
inductive Step (mayForget : SharedMeasurer ι → Prop) (shared : SharedMeasurer ι) :
    SharedMeasurer ι → Prop
  | begin {call} (caller : ι) (free : ¬ (shared.callers caller).IsCalling)
      (opening : call.IsOpening) :
      Step mayForget shared (shared.become caller shared.measurer (.calling call))
  | advance {after} (caller : ι) (advances : Advance mayForget caller shared after) :
      Step mayForget shared after

/-- Steps stay steps when calls may forget in more states. -/
theorem Step.mono {strong weak : SharedMeasurer ι → Prop}
    (implies : ∀ shared, strong shared → weak shared) {before after : SharedMeasurer ι}
    (step : Step strong before after) : Step weak before after := by
  cases step with
  | begin caller free opening => exact .begin caller free opening
  | advance caller advances =>
    obtain ⟨calls, advances, allowed⟩ := advances
    exact .advance caller (.intro calls advances fun forgets => implies _ (allowed forgets))

/-- Steps one after the other. -/
abbrev Run (mayForget : SharedMeasurer ι → Prop) : SharedMeasurer ι → SharedMeasurer ι → Prop :=
  Relation.ReflTransGen (Step mayForget)

@[simp]
theorem become_measurer (shared : SharedMeasurer ι) (caller : ι) (measurer : FontMeasurer)
    (state : FontCaller) : (shared.become caller measurer state).measurer = measurer :=
  rfl

@[simp]
theorem callers_become_self (shared : SharedMeasurer ι) (caller : ι) (measurer : FontMeasurer)
    (state : FontCaller) : (shared.become caller measurer state).callers caller = state :=
  Function.update_self ..

theorem callers_become_of_ne (shared : SharedMeasurer ι) {caller other : ι} (differs : other ≠ caller)
    (measurer : FontMeasurer) (state : FontCaller) :
    (shared.become caller measurer state).callers other = shared.callers other :=
  Function.update_of_ne differs ..

@[simp]
theorem become_become (shared : SharedMeasurer ι) (caller : ι) (first second : FontMeasurer)
    (between state : FontCaller) :
    (shared.become caller first between).become caller second state =
      shared.become caller second state := by
  rw [become, become, become, Function.update_idem]

theorem holds_become {shared : SharedMeasurer ι} {caller other : ι} {measurer : FontMeasurer}
    {state : FontCaller} {font : FontSpec} {metrics : FontMetrics}
    (holds : (shared.become caller measurer state).Holds other font metrics) :
    state = .calling (.remember font metrics) ∨ shared.Holds other font metrics := by
  rw [Holds] at holds ⊢
  by_cases same : other = caller
  · subst same
    rw [callers_become_self] at holds
    exact .inl holds
  · rw [callers_become_of_ne shared same] at holds
    exact .inr holds

/-! ## A call without others in between -/

section

variable {mayForget : SharedMeasurer ι → Prop} (shared : SharedMeasurer ι) (caller : ι)

theorem advance_become {call : FontCall} {first next : FontMeasurer} {state : FontCaller}
    (advances : call.Advances first next state)
    (allowed : call = .forget → mayForget (shared.become caller first (.calling call))) :
    Advance mayForget caller (shared.become caller first (.calling call))
      (shared.become caller next state) := by
  have step := Advance.intro (shared.callers_become_self caller first _) advances allowed
  rwa [become_become] at step

/-- A call for the measures of a font, taken for itself, does what the measurer does. -/
theorem advance_metrics (font : FontSpec) :
    Relation.ReflTransGen (Advance mayForget caller)
      (shared.become caller shared.measurer (.calling (.lookUp font)))
      (shared.become caller (shared.measurer.metrics font).1
        (.answered (shared.measurer.metrics font).2)) := by
  rw [FontMeasurer.metrics]
  cases found : shared.measurer.remembered? font with
  | some metrics => exact .single (shared.advance_become caller (.recalled found) nofun)
  | none =>
    refine .head (shared.advance_become caller (.missed found) nofun) ?_
    dsimp only
    cases taken : shared.measurer.faces.measure font with
    | error fault => exact .single (shared.advance_become caller (.failed taken) nofun)
    | ok metrics =>
      refine .head (shared.advance_become caller (.measured taken) nofun) ?_
      exact .single (shared.advance_become caller .remembered nofun)

/-- A call that loads a file, taken for itself, does what the measurer does. -/
theorem advance_load {content : ByteArray} {loaded : FontMeasurer}
    (loads : shared.measurer.load content = .ok loaded)
    (allowed : ∀ extended, shared.measurer.addFaces content = .ok extended →
      mayForget (shared.become caller extended (.calling .forget))) :
    Relation.ReflTransGen (Advance mayForget caller)
      (shared.become caller shared.measurer (.calling (.addFaces content)))
      (shared.become caller loaded .idle) := by
  rw [FontMeasurer.load] at loads
  cases added : shared.measurer.addFaces content with
  | error _ =>
    rw [added] at loads
    cases loads
  | ok extended =>
    rw [added] at loads
    cases loads
    refine .head (shared.advance_become caller (.added added) nofun) ?_
    exact .single (shared.advance_become caller .forgot fun _ => allowed extended added)

theorem run_metrics (free : ¬ (shared.callers caller).IsCalling) (font : FontSpec) :
    Run mayForget shared (shared.become caller (shared.measurer.metrics font).1
      (.answered (shared.measurer.metrics font).2)) :=
  .head (.begin caller free (show FontCall.IsOpening (.lookUp font) from trivial))
    (Relation.ReflTransGen.mono (fun _ _ => .advance caller) _ _
      (shared.advance_metrics caller font))

theorem run_load (free : ¬ (shared.callers caller).IsCalling) {content : ByteArray}
    {loaded : FontMeasurer} (loads : shared.measurer.load content = .ok loaded)
    (allowed : ∀ extended, shared.measurer.addFaces content = .ok extended →
      mayForget (shared.become caller extended (.calling .forget))) :
    Run mayForget shared (shared.become caller loaded .idle) :=
  .head (.begin caller free (show FontCall.IsOpening (.addFaces content) from trivial))
    (Relation.ReflTransGen.mono (fun _ _ => .advance caller) _ _
      (shared.advance_load caller loads allowed))

end

/-! ## What is covered by a condition -/

/-- Measures come from the faces only: what covers them, and all that measuring gives, covers them
after any step. -/
theorem Covers.step {condition : FontSpec → FontMetrics → Prop}
    {mayForget : SharedMeasurer ι → Prop} {before after : SharedMeasurer ι}
    (covers : before.Covers condition) (step : Step mayForget before after)
    (taken : ∀ font metrics, before.measurer.faces.measure font = .ok metrics →
      condition font metrics) : after.Covers condition := by
  cases step with
  | begin caller free opening =>
    refine ⟨covers.remembered, fun other font metrics holds => ?_⟩
    obtain own | earlier := holds_become holds
    · cases own
      exact opening.elim
    · exact covers.held other font metrics earlier
  | advance caller advances =>
    obtain ⟨calls, advances, -⟩ := advances
    constructor
    · intro font metrics found
      obtain rfl | earlier := advances.remembered?_eq_some found
      · exact covers.held caller font metrics calls
      · exact covers.remembered font metrics earlier
    · intro other font metrics holds
      obtain own | earlier := holds_become holds
      · cases own
        cases advances with
        | measured now => exact taken font metrics now
      · exact covers.held other font metrics earlier

/-! ## What is remembered was measured -/

/-- Whether the measures of a font were taken with the faces of some moment between two. -/
def MeasuredBetween (first last : FontDatabase) (font : FontSpec) (metrics : FontMetrics) : Prop :=
  ∃ faces, first <+: faces ∧ faces <+: last ∧ FontDatabase.measure faces font = .ok metrics

theorem Step.faces_prefix {mayForget : SharedMeasurer ι → Prop} {before after : SharedMeasurer ι}
    (step : Step mayForget before after) : before.measurer.faces <+: after.measurer.faces := by
  cases step with
  | begin => exact List.prefix_refl _
  | advance caller advances =>
    obtain ⟨-, advances, -⟩ := advances
    exact advances.faces_prefix

/-- The induction is on the steps, each of which may add faces and so widen the time in which the
measures were taken. -/
theorem covers_measuredBetween {mayForget : SharedMeasurer ι → Prop} {first : FontDatabase}
    {shared : SharedMeasurer ι} (run : Run mayForget (start first) shared) :
    first <+: shared.measurer.faces ∧
      shared.Covers (MeasuredBetween first shared.measurer.faces) := by
  induction run with
  | refl => exact ⟨List.prefix_refl _, covers_start first⟩
  | @tail before after _ step ih =>
    obtain ⟨earlier, covers⟩ := ih
    have later := step.faces_prefix
    have widened : before.Covers (MeasuredBetween first after.measurer.faces) :=
      covers.mono fun font metrics ⟨faces, front, back, taken⟩ =>
        ⟨faces, front, back.trans later, taken⟩
    exact ⟨earlier.trans later, widened.step step fun font metrics taken =>
      ⟨before.measurer.faces, earlier, later, taken⟩⟩

/-! ## What is remembered is up to date -/

/-- Whether all measures that are remembered or held are what measuring gives now. -/
def IsCurrent (shared : SharedMeasurer ι) : Prop :=
  shared.Covers fun font metrics => shared.measurer.faces.measure font = .ok metrics

theorem isSettled_of_become {shared : SharedMeasurer ι} {caller : ι} {measurer : FontMeasurer}
    {state : FontCaller} (settled : (shared.become caller measurer state).IsSettled)
    (own : shared.callers caller ≠ .calling .forget) : shared.IsSettled := by
  intro other
  by_cases same : other = caller
  · rwa [same]
  · have stays := settled other
    rwa [callers_become_of_ne shared same] at stays

/-- Between an addition of faces and the clearing that follows it nothing has to be up to date, so
that the two steps of a load are what matters: with the first the state is no longer settled, and with
the second only what others hold is left. -/
theorem Step.isCurrent {before after : SharedMeasurer ι} (step : Step NoneOvertaken before after)
    (current : before.IsSettled → before.IsCurrent) (settled : after.IsSettled) :
    after.IsCurrent := by
  have whole := step
  cases step with
  | begin caller free opening =>
    have same := isSettled_of_become settled fun forgets => free (by rw [forgets]; trivial)
    exact (current same).step whole fun _ _ taken => taken
  | advance caller advances =>
    obtain @⟨call, measurer, state, calls, advances, allowed⟩ := advances
    by_cases forgets : call = .forget
    · subst forgets
      cases advances
      refine ⟨nofun, fun other font metrics holds => ?_⟩
      obtain own | held := holds_become holds
      · cases own
      · exact allowed rfl other font metrics held
    · have same := isSettled_of_become settled fun own =>
        forgets (FontCaller.calling.inj (calls.symm.trans own))
      have done := settled caller
      rw [callers_become_self] at done
      rw [IsCurrent, become_measurer, advances.faces_eq done]
      exact (current same).step whole fun _ _ taken => taken

theorem isCurrent_of_run {first : FontDatabase} {shared : SharedMeasurer ι}
    (run : Run NoneOvertaken (start first) shared) (settled : shared.IsSettled) :
    shared.IsCurrent := by
  induction run with
  | refl => exact covers_start first
  | tail _ step ih => exact step.isCurrent ih settled

/-- What callers find in the memory of a shared measurer.  In all orders of their steps it was
measured with the faces of some moment since the start.  If no load forgets while a call holds
measures that the faces no longer give, then whenever no call is in progress it is what measuring
gives now, and the next call for the measures of a font, taken for itself, answers as if nothing was
remembered, also where there are none. -/
theorem remembered_of_run (first : FontDatabase) (shared : SharedMeasurer ι) :
    (Run (fun _ => True) (start first) shared → ∀ font metrics,
      shared.measurer.remembered? font = some metrics →
        MeasuredBetween first shared.measurer.faces font metrics) ∧
    (Run NoneOvertaken (start first) shared → shared.IsQuiet →
      shared.measurer.IsFresh ∧
        ∀ caller font, Relation.ReflTransGen (Advance NoneOvertaken caller)
          (shared.become caller shared.measurer (.calling (.lookUp font)))
          (shared.become caller (shared.measurer.metrics font).1
            (.answered (shared.measurer.faces.measure font)))) := by
  refine ⟨fun run => (covers_measuredBetween run).2.remembered, fun run quiet => ?_⟩
  have fresh : shared.measurer.IsFresh := (isCurrent_of_run run quiet.isSettled).remembered
  refine ⟨fresh, fun caller font => ?_⟩
  rw [← fresh.metrics_eq_measure font]
  exact shared.advance_metrics caller font

end SharedMeasurer

/-! ## A call that is overtaken -/

/-- The bytes of two-byte numbers. -/
def wordBytes (values : List Nat) : List UInt8 :=
  values.flatMap (BigEndian.encode 2)

/-- The directory entries of tables of two-byte numbers that follow each other from a place on. -/
def tableEntries : (place : Nat) → List (Nat × List Nat) → List Nat
  | _, [] => []
  | place, (tag, content) :: rest =>
    [tag / 0x10000, tag % 0x10000, 0, 0, 0, place, 0, 2 * content.length] ++
      tableEntries (place + 2 * content.length) rest

/-- A font file of tables of two-byte numbers. -/
def tableFile (tables : List (Nat × List Nat)) : ByteArray :=
  ⟨(wordBytes ([1, 0, tables.length, 0, 0, 0] ++ tableEntries (12 + 16 * tables.length) tables ++
    tables.flatMap Prod.snd)).toArray⟩

/-- A font file with one face of a family, which has a glyph for `x` and letters of 1000 units with
a gap between lines. -/
def plainFont (family : String) (lineGap : Nat) : ByteArray :=
  let letters := family.toList.map Char.toNat
  let name := fun kind => [3, 1, 0x0409, kind, 2 * letters.length, 0]
  tableFile [
    (0x636D6170, [0, 1, 0, 3, 0, 12, 6, 12, 0, 0x78, 1, 1]),
    (0x68656164, List.replicate 9 0 ++ [1000] ++ List.replicate 17 0),
    (0x68686561, [1, 0, 1000, 0, lineGap] ++ List.replicate 13 0),
    (0x6D617870, [0, 0x5000, 2]),
    (0x6E616D65, [0, 2, 30] ++ name 1 ++ name 6 ++ letters)]

/-- A font of a family that is measured with another face until it is loaded. -/
def lateFont : FontSpec :=
  ⟨"Late", 9⟩

theorem exists_faces_of_plainFont :
    ∃ fallback own old new, FontDatabase.facesOf (plainFont "Arial" 0) = .ok fallback ∧
      FontDatabase.facesOf (plainFont "Late" 500) = .ok own ∧
      FontDatabase.measure fallback lateFont = .ok old ∧
      FontDatabase.measure (fallback ++ own) lateFont = .ok new ∧ old ≠ new := by
  have spacings : ((FontDatabase.facesOf (plainFont "Arial" 0)).toOption.bind fun fallback =>
      (FontDatabase.facesOf (plainFont "Late" 500)).toOption.bind fun own =>
        (FontDatabase.measure fallback lateFont).toOption.bind fun old =>
          (FontDatabase.measure (fallback ++ own) lateFont).toOption.map fun new =>
            (old.lineSpacing.toBits, new.lineSpacing.toBits)) =
      some (Float.toBits 12, Float.toBits 18) := by
    decide +kernel
  obtain ⟨fallback, front, spacings⟩ := Option.bind_eq_some_iff.mp spacings
  obtain ⟨own, back, spacings⟩ := Option.bind_eq_some_iff.mp spacings
  obtain ⟨old, before, spacings⟩ := Option.bind_eq_some_iff.mp spacings
  obtain ⟨new, after, spacings⟩ := Option.map_eq_some_iff.mp spacings
  refine ⟨fallback, own, old, new, eq_ok_of_toOption front, eq_ok_of_toOption back,
    eq_ok_of_toOption before, eq_ok_of_toOption after, ?_⟩
  rintro rfl
  obtain ⟨twelve, eighteen⟩ := Prod.mk.inj spacings
  exact absurd (twelve.symm.trans eighteen) (by decide)

namespace SharedMeasurer

/-- One caller loads a file, and after that another one measures the font. -/
theorem remembered_of_run_loaded :
    ∃ (shared : SharedMeasurer Bool) (metrics : FontMetrics),
      Run NoneOvertaken (start []) shared ∧ shared.IsQuiet ∧
        shared.measurer.remembered? lateFont = some metrics ∧
        MeasuredBetween [] shared.measurer.faces lateFont metrics ∧ shared.measurer.IsFresh := by
  obtain ⟨fallback, -, old, -, front, -, taken, -, -⟩ := exists_faces_of_plainFont
  let loaded : SharedMeasurer Bool := (start []).become false ⟨fallback, []⟩ .idle
  have run_loaded : Run NoneOvertaken (start []) loaded := by
    refine run_load (start []) false id (FontMeasurer.load_eq_ok front) ?_
    refine fun extended _ => noneOvertaken_of_alone (callers_become_self ..) fun other busy => ?_
    cases other with
    | false => rfl
    | true => exact busy.elim
  have run := run_loaded.trans (run_metrics loaded true id lateFont)
  rw [FontMeasurer.metrics_of_measured rfl taken] at run
  have quiet : (loaded.become true (loaded.measurer.remember lateFont old)
      (.answered (.ok old))).IsQuiet := by
    intro caller
    cases caller <;> exact id
  have found := loaded.measurer.remembered?_remember_self lateFont old
  obtain ⟨measured, fresh⟩ := remembered_of_run [] (loaded.become true
    (loaded.measurer.remember lateFont old) (.answered (.ok old)))
  have orders := Relation.ReflTransGen.mono (fun _ _ => Step.mono fun _ _ => trivial) _ _ run
  exact ⟨_, old, run, quiet, found, measured orders lateFont old found, (fresh run quiet).1⟩

/-- Between the measuring of a font and the remembering of its measures another caller loads the
family of the font.  After both calls the old measures are remembered, and they are the answer to the
next call, although measuring gives others. -/
theorem remembered_stale_of_overtaken :
    ∃ (shared : SharedMeasurer Bool) (old new : FontMetrics),
      Run (fun _ => True) (start []) shared ∧ shared.IsQuiet ∧
        shared.measurer.remembered? lateFont = some old ∧
        shared.measurer.faces.measure lateFont = .ok new ∧ old ≠ new ∧
        (shared.measurer.metrics lateFont).2 = .ok old := by
  obtain ⟨fallback, own, old, new, front, back, before, after, differ⟩ := exists_faces_of_plainFont
  let loaded : SharedMeasurer Bool := (start []).become false ⟨fallback, []⟩ .idle
  let holding := loaded.become true ⟨fallback, []⟩ (.calling (.remember lateFont old))
  let overtaken := holding.become false ⟨fallback ++ own, []⟩ .idle
  let final := overtaken.become true (FontMeasurer.remember ⟨fallback ++ own, []⟩ lateFont old)
    (.answered (.ok old))
  have toLoaded : Run (fun _ => True) (start []) loaded :=
    run_load (start []) false id (FontMeasurer.load_eq_ok front) fun _ _ => trivial
  have toHolding : Run (fun _ => True) loaded holding := by
    refine .head (.begin true id (show FontCall.IsOpening (.lookUp lateFont) from trivial)) ?_
    refine .head (.advance true (loaded.advance_become true (.missed rfl) nofun)) ?_
    exact .single (.advance true (loaded.advance_become true (.measured before) nofun))
  have toOvertaken : Run (fun _ => True) holding overtaken :=
    run_load holding false id (FontMeasurer.load_eq_ok back) fun _ _ => trivial
  have run : Run (fun _ => True) (start []) final :=
    ((toLoaded.trans toHolding).trans toOvertaken).tail
      (.advance true (.intro rfl .remembered nofun))
  have found : final.measurer.remembered? lateFont = some old :=
    FontMeasurer.remembered?_remember_self ..
  refine ⟨final, old, new, run, ?_, found, after, differ, ?_⟩
  · intro caller
    cases caller <;> exact id
  · rw [FontMeasurer.metrics_of_remembered found]

end SharedMeasurer

end FigureForm
