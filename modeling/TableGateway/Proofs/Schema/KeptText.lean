import Mathlib.Data.List.Induction
import TableGateway.Proofs.Schema.Operations

/-!
# Text that is kept

The text that a compiler keeps was rendered at one moment of its history: at the
latest refresh, or at the first rendering if there was no refresh
(`CompilerCall.IsKeptFrom`). One call carries this over to the next moment
(`CompilerCall.Keeps.step`). The main statement is
`Compiler.serveAll_keepsText`: what every rendering answers in a run of a fresh
compiler, whatever else is asked of it, and that a rendering which keeps nothing
leaves no trace.
-/

namespace TableGateway

/-! ## Calls on a compiler -/

/-- What is asked of a compiler: an operation, with what the driver has to say at
the time, or the text of the model as it is now, which is not kept. -/
inductive CompilerCall where
  | request (request : CompilerRequest)
  | renderFresh

namespace CompilerCall

/-- What a call answers, and the compiler that it leaves. -/
def step (call : CompilerCall) (compiler : Compiler) :
    Except DriverError (Option String) × Compiler :=
  match call with
  | request asked => asked.operation.step asked.catalog compiler
  | renderFresh => (.ok (some compiler.renderFresh), compiler)

/-- A call for the text that is kept. -/
def IsRender (call : CompilerCall) : Prop :=
  ∃ catalog, call = request ⟨catalog, .render⟩

/-- A call for new text that is kept from now on. -/
def IsRefresh (call : CompilerCall) : Prop :=
  ∃ catalog, call = request ⟨catalog, .refresh⟩

def isFresh : CompilerCall → Bool
  | request _ => false
  | renderFresh => true

end CompilerCall

namespace Compiler

/-- The compiler that calls leave. A call that fails does not keep the others
from being made. -/
def serveAll (calls : List CompilerCall) (compiler : Compiler) : Compiler :=
  calls.foldl (fun current call => (call.step current).2) compiler

/-- What calls answer, in order. -/
def answers : List CompilerCall → Compiler →
    List (Except DriverError (Option String))
  | [], _ => []
  | call :: others, compiler =>
      (call.step compiler).1 :: answers others (call.step compiler).2

/-- What all calls answer but those for text that is not kept. -/
def lastingAnswers (calls : List CompilerCall) (compiler : Compiler) :
    List (Except DriverError (Option String)) :=
  ((calls.zip (compiler.answers calls)).filter (!·.1.isFresh)).map Prod.snd

variable {compiler : Compiler}

theorem serveAll_append (before after : List CompilerCall)
    (compiler : Compiler) :
    compiler.serveAll (before ++ after) =
      (compiler.serveAll before).serveAll after :=
  List.foldl_append

theorem answers_append (before after : List CompilerCall)
    (compiler : Compiler) :
    compiler.answers (before ++ after) =
      compiler.answers before ++ (compiler.serveAll before).answers after := by
  induction before generalizing compiler with
  | nil => rfl
  | cons call others inductionHypothesis =>
      exact congrArg _ (inductionHypothesis _)

theorem length_answers (calls : List CompilerCall) (compiler : Compiler) :
    (compiler.answers calls).length = calls.length := by
  induction calls generalizing compiler with
  | nil => rfl
  | cons call others inductionHypothesis =>
      exact congrArg (· + 1) (inductionHypothesis _)

/-- A call in a run answers what it answers after the calls before it. -/
theorem getElem?_answers (before after : List CompilerCall)
    (call : CompilerCall) (compiler : Compiler) :
    (compiler.answers (before ++ call :: after))[before.length]? =
      some (call.step (compiler.serveAll before)).1 := by
  rw [answers_append, ← length_answers before compiler, answers,
    List.getElem?_append_right (Nat.le_refl _), Nat.sub_self,
    List.getElem?_cons_zero]

/-- The calls for text that is not kept do not show in the other answers. -/
theorem lastingAnswers_eq (calls : List CompilerCall)
    (compiler : Compiler) :
    compiler.lastingAnswers calls =
      compiler.answers (calls.filter (!·.isFresh)) := by
  induction calls generalizing compiler with
  | nil => rfl
  | cons call others inductionHypothesis =>
      cases call with
      | request asked => exact congrArg _ (inductionHypothesis _)
      | renderFresh => exact inductionHypothesis _

end Compiler

/-! ## The moment that kept text comes from -/

namespace CompilerCall

/-- The text that is kept after calls was rendered after some first ones of them:
those before the latest refresh, or, if there was no refresh, those before the
first rendering. -/
inductive IsKeptFrom : List CompilerCall → List CompilerCall → Prop
  | refresh {earlier later : List CompilerCall} {call : CompilerCall}
      (refreshes : call.IsRefresh) (latest : ∀ other ∈ later, ¬other.IsRefresh) :
      IsKeptFrom (earlier ++ call :: later) earlier
  | render {earlier later : List CompilerCall} {call : CompilerCall}
      (renders : call.IsRender) (first : ∀ other ∈ earlier, ¬other.IsRender)
      (never : ∀ other ∈ earlier ++ call :: later, ¬other.IsRefresh) :
      IsKeptFrom (earlier ++ call :: later) earlier

/-- Text that is kept is still kept after a call that is no refresh. -/
theorem IsKeptFrom.concat {calls earlier : List CompilerCall}
    (kept : IsKeptFrom calls earlier) {call : CompilerCall}
    (lasts : ¬call.IsRefresh) : IsKeptFrom (calls ++ [call]) earlier := by
  cases kept with
  | refresh refreshes latest =>
      rw [List.append_assoc, List.cons_append]
      refine .refresh refreshes (List.forall_mem_append.mpr ⟨latest, ?_⟩)
      exact List.forall_mem_singleton.mpr lasts
  | render renders first never =>
      have neverYet := List.forall_mem_append.mpr
        ⟨never, List.forall_mem_singleton.mpr lasts⟩
      rw [List.append_assoc, List.cons_append] at neverYet ⊢
      exact .render renders first neverYet

/-- A compiler with a certain text has been asked certain calls: without a text
none was for one that is kept, and a text is that of the model at the moment that
it is kept from. -/
structure Keeps (calls : List CompilerCall) (rendered : Option String) :
    Prop where
  without : rendered = none → ∀ call ∈ calls, ¬call.IsRender ∧ ¬call.IsRefresh
  kept : ∀ text, rendered = some text → ∃ earlier, IsKeptFrom calls earlier ∧
    text = (Compiler.fresh.serveAll earlier).model.sdl

theorem keeps_nil : Keeps [] none where
  without _ _ member := absurd member List.not_mem_nil
  kept _ isText := nomatch isText

/-! ### One call -/

theorem step_render (catalog : Catalog) (compiler : Compiler) :
    (request ⟨catalog, .render⟩).step compiler =
      (.ok (some (compiler.rendered.getD compiler.model.sdl)),
        { compiler with
          rendered := some (compiler.rendered.getD compiler.model.sdl) }) := by
  obtain ⟨model, skipped, rendered⟩ := compiler
  cases rendered with
  | none => rfl
  | some text => rfl

theorem step_refresh (catalog : Catalog) (compiler : Compiler) :
    (request ⟨catalog, .refresh⟩).step compiler =
      (.ok (some compiler.model.sdl),
        { compiler with rendered := some compiler.model.sdl }) := rfl

/-- No other call touches the text that is kept. -/
theorem rendered_step {call : CompilerCall} (noRender : ¬call.IsRender)
    (noRefresh : ¬call.IsRefresh) (compiler : Compiler) :
    (call.step compiler).2.rendered = compiler.rendered := by
  cases call with
  | renderFresh => rfl
  | request asked =>
      obtain ⟨catalog, operation⟩ := asked
      cases operation with
      | build =>
          rw [step, CompilerOperation.step_build, Compiler.build_eq_map]
          cases catalog.allMetadata with
          | error fault => rfl
          | ok tables => rfl
      | buildTable table =>
          rw [step, CompilerOperation.step_buildTable,
            Compiler.buildTable_eq_map]
          cases catalog.tableMetadata table with
          | error fault => rfl
          | ok metadata => rfl
      | mapType metadata =>
          exact Compiler.rendered_mapType catalog metadata compiler
      | mapInput metadata =>
          exact Compiler.rendered_mapInput catalog metadata compiler
      | render => exact absurd ⟨catalog, rfl⟩ noRender
      | refresh => exact absurd ⟨catalog, rfl⟩ noRefresh
      | _ => rfl

/-- The text of a compiler is still accounted for after one more call. -/
theorem Keeps.step {calls : List CompilerCall} {compiler : Compiler}
    (keeps : Keeps calls compiler.rendered)
    (reached : Compiler.fresh.serveAll calls = compiler)
    (call : CompilerCall) :
    Keeps (calls ++ [call]) (call.step compiler).2.rendered := by
  by_cases refreshes : call.IsRefresh
  · -- The text is that of the model as the call has found it.
    have source : IsKeptFrom (calls ++ [call]) calls :=
      .refresh refreshes fun other member =>
        absurd member List.not_mem_nil
    obtain ⟨catalog, rfl⟩ := refreshes
    rw [step_refresh]
    refine ⟨nofun, fun text isText => ⟨calls, source, ?_⟩⟩
    rw [reached]
    exact (Option.some.inj isText).symm
  by_cases renders : call.IsRender
  · obtain ⟨catalog, rfl⟩ := renders
    rw [step_render]
    refine ⟨nofun, fun text isText => ?_⟩
    rw [← Option.some.inj isText]
    cases rendered : compiler.rendered with
    | some before =>
        obtain ⟨earlier, source, textEq⟩ := keeps.kept before rendered
        exact ⟨earlier, source.concat refreshes, textEq⟩
    | none =>
        -- Nothing has been rendered yet, so that this is the first rendering.
        have neither := keeps.without rendered
        refine ⟨calls, .render ⟨catalog, rfl⟩
          (fun other member => (neither other member).1) ?_, ?_⟩
        · exact List.forall_mem_append.mpr
            ⟨fun other member => (neither other member).2,
              List.forall_mem_singleton.mpr refreshes⟩
        · rw [reached]
          rfl
  · rw [rendered_step renders refreshes]
    refine ⟨fun noText => ?_, fun text isText => ?_⟩
    · exact List.forall_mem_append.mpr ⟨keeps.without noText,
        List.forall_mem_singleton.mpr ⟨renders, refreshes⟩⟩
    · obtain ⟨earlier, source, textEq⟩ := keeps.kept text isText
      exact ⟨earlier, source.concat refreshes, textEq⟩

/-! ### All calls -/

theorem keeps_serveAll (calls : List CompilerCall) :
    Keeps calls (Compiler.fresh.serveAll calls).rendered := by
  induction calls using List.reverseRecOn with
  | nil => exact keeps_nil
  | append_singleton calls call inductionHypothesis =>
      rw [Compiler.serveAll_append]
      exact inductionHypothesis.step rfl call

/-- What the renderings in a run of a fresh compiler answer. One that is kept is
that of the model at the latest refresh, or else at the first rendering; a refresh
and a rendering that is not kept are those of the model as it is; and where a
rendering that is not kept is put in or left out, all other answers stay, and so
does the compiler. -/
structure KeepsText (calls : List CompilerCall) : Prop where
  render : ∀ before call after, calls = before ++ call :: after →
    call.IsRender →
    ∃ earlier, IsKeptFrom (before ++ [call]) earlier ∧
      (Compiler.fresh.answers calls)[before.length]? =
        some (.ok (some (Compiler.fresh.serveAll earlier).model.sdl))
  refresh : ∀ before call after, calls = before ++ call :: after →
    call.IsRefresh →
    (Compiler.fresh.answers calls)[before.length]? =
      some (.ok (some (Compiler.fresh.serveAll before).model.sdl))
  renderFresh : ∀ before after, calls = before ++ .renderFresh :: after →
    (Compiler.fresh.answers calls)[before.length]? =
      some (.ok (some (Compiler.fresh.serveAll before).model.sdl))
  unnoticed : ∀ before after, calls = before ++ .renderFresh :: after →
    Compiler.fresh.answers (before ++ after) =
      (Compiler.fresh.answers calls).eraseIdx before.length ∧
    Compiler.fresh.serveAll (before ++ after) = Compiler.fresh.serveAll calls
  lasting : ∀ others,
    others.filter (!·.isFresh) = calls.filter (!·.isFresh) →
    Compiler.fresh.lastingAnswers others =
      Compiler.fresh.lastingAnswers calls

end CompilerCall

open CompilerCall in
/-- Whatever is asked of a fresh compiler, and whatever the driver says each time,
text is kept from one refresh to the next. -/
theorem Compiler.serveAll_keepsText (calls : List CompilerCall) :
    KeepsText calls where
  render := by
    intro before call after callsEq renders
    obtain ⟨catalog, rfl⟩ := renders
    have keeps := keeps_serveAll (before ++ [request ⟨catalog, .render⟩])
    have rendered : (fresh.serveAll
        (before ++ [request ⟨catalog, .render⟩])).rendered =
          some ((fresh.serveAll before).rendered.getD
            (fresh.serveAll before).model.sdl) := by
      rw [serveAll_append]
      exact congrArg (·.2.rendered) (step_render catalog _)
    obtain ⟨earlier, source, textEq⟩ := keeps.kept _ rendered
    refine ⟨earlier, source, ?_⟩
    rw [callsEq, getElem?_answers, step_render, textEq]
  refresh := by
    intro before call after callsEq refreshes
    obtain ⟨catalog, rfl⟩ := refreshes
    rw [callsEq, getElem?_answers, step_refresh]
  renderFresh := by
    intro before after callsEq
    rw [callsEq, getElem?_answers]
    rfl
  unnoticed := by
    intro before after callsEq
    constructor
    · rw [callsEq, answers_append, answers_append,
        ← length_answers before fresh,
        List.eraseIdx_append_of_length_le (Nat.le_refl _), Nat.sub_self]
      rfl
    · rw [callsEq, serveAll_append, serveAll_append]
      rfl
  lasting := by
    intro others same
    rw [lastingAnswers_eq, lastingAnswers_eq, same]

/-- A field that is added shows at once in text that is not kept, and not in the
text that is. -/
example (catalog : Catalog) (field : FieldDefinition) :
    let render : CompilerCall := .request ⟨catalog, .render⟩
    Compiler.fresh.answers
        [render, .request ⟨catalog, .addField "Query" field⟩, render,
          .renderFresh] =
      [.ok (some Compiler.fresh.model.sdl), .ok none,
        .ok (some Compiler.fresh.model.sdl),
        .ok (some (Compiler.fresh.model.setField "Query" field).sdl)] := rfl

end TableGateway
