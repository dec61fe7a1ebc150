import Mathlib.Data.List.InsertIdx
import QueryRegistry.Proofs.Registration.Locality
import QueryRegistry.Session

/-! When the documents of a session are normalized makes no difference to what is asked about names,
spreads and queries. Two sessions that hold the same but for the type names that are asked for stay so
through every step, and give the same answers; a step that normalizes leads from a session to one that
is so related to it. -/

namespace QueryRegistry

open FragmentIndex

namespace Step

def isNormalize : Step → Bool
  | normalize => true
  | _ => false

/-- Whether the answer to the step is the same for documents that ask for type names. -/
def isSteady : Step → Bool
  | normalize => false
  | canonical _ => false
  | _ => true

/-- The steps without those that normalize and stand at a place that is chosen. -/
def spare (chosen : Nat → Bool) (steps : List Step) : List Step :=
  (steps.zipIdx.filter fun step => !(step.1.isNormalize && chosen step.2)).map Prod.fst

end Step

namespace Session

/-- The sessions become the same when all that is in them is asked for its type names. -/
structure Alike (s t : Session) : Prop where
  documents : s.documents.map Document.normalized = t.documents.map Document.normalized
  index : ∀ name, (s.index.find? name).map (fun f => f.withTypename.value) =
    (t.index.find? name).map fun f => f.withTypename.value

/-- The steps whose answers are steady, each with its answer. -/
def told (session : Session) (steps : List Step) : List (Step × Except StepFailure Answer) :=
  (steps.zip (session.run steps).value).filter fun step => step.1.isSteady

/-- What two steps come to when their answers are the same and the sessions behind them alike. -/
inductive Match : Except StepFailure (Answer × Session) → Except StepFailure (Answer × Session) → Prop
  | ok (answer : Answer) {next next' : Session} (alike : Alike next next') :
      Match (.ok (answer, next)) (.ok (answer, next'))
  | error (failure : StepFailure) : Match (.error failure) (.error failure)

variable {s t : Session}

section Performing

theorem Match.bind {α : Type} {run run' : Run StepFailure α}
    {f f' : α → Run StepFailure (Answer × Session)} (hr : run.result = run'.result)
    (hf : ∀ a, Match (f a).result (f' a).result) : Match (run >>= f).result (run' >>= f').result := by
  rw [Run.result_bind, Run.result_bind, hr]
  cases run'.result with
  | error failure => exact .error failure
  | ok a => exact hf a

theorem match_add (h : Alike s t) (source : DocumentSource) :
    Match (s.perform (.add source)).result (t.perform (.add source)).result := by
  refine .bind rfl fun document => ?_
  have hd : (s.documents ++ [document]).map Document.normalized =
      (t.documents ++ [document]).map Document.normalized := by
    rw [List.map_append, h.documents, List.map_append]
  have hl : (s.documents ++ [document]).length = (t.documents ++ [document]).length := by
    simpa using congrArg List.length hd
  change Match (.ok (.count (s.documents ++ [document]).length, _)) _
  rw [hl]
  exact .ok _ ⟨hd, h.index⟩

theorem match_remove (h : Alike s t) (position : Nat) :
    Match (s.perform (.remove position)).result (t.perform (.remove position)).result := by
  have hd : (s.documents.eraseIdx position).map Document.normalized =
      (t.documents.eraseIdx position).map Document.normalized := by
    rw [← List.eraseIdx_map, h.documents, List.eraseIdx_map]
  have hl : (s.documents.eraseIdx position).length = (t.documents.eraseIdx position).length := by
    simpa using congrArg List.length hd
  change Match (.ok (.count (s.documents.eraseIdx position).length, _)) _
  rw [hl]
  exact .ok _ ⟨hd, h.index⟩

theorem match_index (h : Alike s t) : Match (s.perform .index).result (t.perform .index).result := by
  have hk : (ofDocuments s.documents).value.keys = (ofDocuments t.documents).value.keys := by
    rw [← keys_ofDocuments_normalized, h.documents, keys_ofDocuments_normalized]
  change Match (.ok (.names (ofDocuments s.documents).value.keys, _)) _
  rw [hk]
  refine .ok _ ⟨h.documents, fun name => ?_⟩
  rw [find?_ofDocuments, find?_ofDocuments, ← lastFragment?_normalized, h.documents,
    lastFragment?_normalized]

theorem Alike.find? (h : Alike s t) (target : Target) :
    (target.find? s.documents s.index).map (fun d => d.withTypename.value) =
      (target.find? t.documents t.index).map fun d => d.withTypename.value := by
  cases target with
  | operation position =>
    have hops : (s.documents.flatMap Document.operations).map (fun op => op.withTypename.value) =
        (t.documents.flatMap Document.operations).map fun op => op.withTypename.value := by
      rw [← operations_normalized_all, h.documents, operations_normalized_all]
    have hposition := congrArg (·[position]?.map Executable.operation) hops
    simpa [Target.find?, Function.comp_def, Executable.withTypename_operation] using hposition
  | fragment name =>
    have hname := congrArg (·.map Executable.fragment) (h.index name)
    simpa [Target.find?, Function.comp_def, Executable.withTypename_fragment] using hname

theorem Alike.spreads (h : Alike s t) (name : String) :
    (s.index.find? name).map Fragment.spreads = (t.index.find? name).map Fragment.spreads := by
  have hname := congrArg (·.map Fragment.spreads) (h.index name)
  simpa [Function.comp_def, Fragment.spreads_withTypename] using hname

theorem Alike.used (h : Alike s t) {definition definition' : Executable}
    (hd : definition.withTypename.value = definition'.withTypename.value) :
    (s.index.used definition).map Table.keys = (t.index.used definition').map Table.keys := by
  have hspreads : definition.spreads = definition'.spreads := by
    rw [← definition.spreads_withTypename, hd, definition'.spreads_withTypename]
  have hpath : definition.startPath = definition'.startPath := by
    rw [Executable.startPath, ← definition.fragmentName?_withTypename, hd,
      definition'.fragmentName?_withTypename, Executable.startPath]
  rcases used_of_agree hpath hspreads (fun name _ => h.spreads name) with
    ⟨error, hs, ht⟩ | ⟨used, used', hs, ht, hk⟩
  · simp [hs, ht, Except.map]
  · simp [hs, ht, hk, Except.map]

theorem match_resolve (h : Alike s t) (target : Target) :
    Match (s.perform (.resolve target)).result (t.perform (.resolve target)).result := by
  refine .bind ?_ fun answer => .ok answer h
  have hfind := h.find? target
  rw [about, about]
  cases hs : target.find? s.documents s.index with
  | none =>
    rw [hs, Option.map_none] at hfind
    rw [Option.map_eq_none_iff.mp hfind.symm]
  | some definition =>
    rw [hs, Option.map_some] at hfind
    obtain ⟨definition', ht, hd⟩ := Option.map_eq_some_iff.mp hfind.symm
    have hnames : ∀ outcome : Except SpreadError FragmentTable,
        outcome.map (fun used => Answer.names used.keys) = (outcome.map Table.keys).map .names := by
      rintro (error | used) <;> rfl
    rw [ht]
    dsimp only
    rw [hnames, hnames, h.used hd.symm]

theorem match_generate (h : Alike s t) (choice : ModeChoice) :
    Match (s.perform (.generate choice)).result (t.perform (.generate choice)).result := by
  refine .bind ?_ fun listed => .ok _ h
  rw [queryIds_congr choice h.documents]

theorem match_list (h : Alike s t) (choice : ModeChoice) :
    Match (s.perform (.list choice)).result (t.perform (.list choice)).result := by
  refine .bind ?_ fun text => .ok _ h
  rw [queryList, queryList, queryIds_congr choice h.documents]

end Performing

theorem value_step (session : Session) (step : Step) :
    (session.step step).value =
      match (session.perform step).result with
      | .ok (answer, next) => (.ok answer, next)
      | .error failure => (.error failure, session) := by
  rw [Session.step, Logged.value_bind, Run.result]
  cases (ExceptT.run (session.perform step)).value <;> rfl

theorem match_of_isSteady (h : Alike s t) {step : Step} (hs : step.isSteady = true) :
    Match (s.perform step).result (t.perform step).result := by
  cases step with
  | add source => exact match_add h source
  | remove position => exact match_remove h position
  | normalize => simp [Step.isSteady] at hs
  | index => exact match_index h
  | resolve target => exact match_resolve h target
  | canonical target => simp [Step.isSteady] at hs
  | generate choice => exact match_generate h choice
  | list choice => exact match_list h choice

theorem answer_of_isSteady (h : Alike s t) {step : Step} (hs : step.isSteady = true) :
    (s.step step).value.1 = (t.step step).value.1 ∧
      Alike (s.step step).value.2 (t.step step).value.2 := by
  have hm := match_of_isSteady h hs
  rw [value_step, value_step]
  generalize (s.perform step).result = result at hm
  generalize (t.perform step).result = result' at hm
  cases hm with
  | ok answer alike => exact ⟨rfl, alike⟩
  | error failure => exact ⟨rfl, h⟩

theorem session_canonical (session : Session) (target : Target) :
    (session.step (.canonical target)).value.2 = session := by
  rw [value_step, perform, Run.result_bind]
  cases (session.about target fun d => (session.index.canonicalText d).map .text).result <;> rfl

theorem alike_normalize (h : Alike s t) : Alike (s.step .normalize).value.2 t := by
  refine ⟨?_, h.index⟩
  rw [← h.documents]
  change ((s.documents.map Document.withTypename).map Revised.value).map Document.normalized = _
  rw [List.map_map, List.map_map]
  exact List.map_congr_left fun document _ => document.normalized_idem

theorem alike_step (h : Alike s t) {step : Step} (hs : step.isNormalize = false) :
    Alike (s.step step).value.2 (t.step step).value.2 := by
  cases hsteady : step.isSteady with
  | true => exact (answer_of_isSteady h hsteady).2
  | false =>
    cases step with
    | canonical target => rw [session_canonical, session_canonical]; exact h
    | normalize => simp [Step.isNormalize] at hs
    | _ => simp [Step.isSteady] at hsteady

section Running

theorem value_run_cons (session : Session) (step : Step) (rest : List Step) :
    (session.run (step :: rest)).value =
      (session.step step).value.1 :: ((session.step step).value.2.run rest).value := rfl

theorem length_run (session : Session) (steps : List Step) :
    (session.run steps).value.length = steps.length := by
  induction steps generalizing session with
  | nil => rfl
  | cons step rest ih => rw [value_run_cons, List.length_cons, ih, List.length_cons]

theorem map_fst_told (session : Session) (steps : List Step) :
    (session.told steps).map Prod.fst = steps.filter Step.isSteady := by
  have hlength : steps.length ≤ (session.run steps).value.length :=
    Nat.le_of_eq (length_run session steps).symm
  have hsteps := List.map_fst_zip hlength
  conv_rhs => rw [← hsteps, List.filter_map]
  rfl

theorem told_cons_of_isSteady (session : Session) {step : Step} (hs : step.isSteady = true)
    (rest : List Step) : session.told (step :: rest) =
      (step, (session.step step).value.1) :: (session.step step).value.2.told rest := by
  rw [told, value_run_cons, List.zip_cons_cons, List.filter_cons_of_pos (by exact hs)]
  rfl

theorem told_cons_of_not_isSteady (session : Session) {step : Step} (hs : step.isSteady = false)
    (rest : List Step) :
    session.told (step :: rest) = (session.step step).value.2.told rest := by
  rw [told, value_run_cons, List.zip_cons_cons, List.filter_cons_of_neg (by simp [hs])]
  rfl

/-- Sessions that are alike tell the same, though in one of them nothing is normalized. -/
theorem told_filter (h : Alike s t) (steps : List Step) :
    s.told steps = t.told (steps.filter fun step => !step.isNormalize) := by
  -- Normalizing moves the one session alone, any other step moves both.
  induction steps generalizing s t with
  | nil => rfl
  | cons step rest ih =>
    cases hn : step.isNormalize with
    | true =>
      obtain rfl : step = .normalize := by cases step <;> simp_all [Step.isNormalize]
      rw [List.filter_cons_of_neg (by simp [hn]), told_cons_of_not_isSteady s rfl]
      exact ih (alike_normalize h)
    | false =>
      rw [List.filter_cons_of_pos (by simp [hn])]
      cases hs : step.isSteady with
      | true =>
        have hstep := answer_of_isSteady h hs
        rw [told_cons_of_isSteady s hs, told_cons_of_isSteady t hs, hstep.1, ih hstep.2]
      | false =>
        rw [told_cons_of_not_isSteady s hs, told_cons_of_not_isSteady t hs]
        exact ih (alike_step h hn)

theorem alike_refl (session : Session) : Alike session session := ⟨rfl, fun _ => rfl⟩

theorem filter_spare (chosen : Nat → Bool) (steps : List Step) :
    ((Step.spare chosen steps).filter fun step => !step.isNormalize) =
      steps.filter fun step => !step.isNormalize := by
  have hsteps : steps = steps.zipIdx.map Prod.fst := (List.zipIdx_map_fst 0 steps).symm
  conv_rhs => rw [hsteps]
  rw [Step.spare, List.filter_map, List.filter_map, List.filter_filter]
  refine congrArg _ (List.filter_congr fun step _ => ?_)
  cases hn : step.1.isNormalize <;> simp [hn]

/-- Each step is answered. Whichever of the steps that normalize are left out of a session, all answers
but those to the other such steps and to questions for texts are the same, failures included. -/
theorem told_spare (session : Session) (chosen : Nat → Bool) (steps : List Step) :
    (∀ given : List Step, (session.run given).value.length = given.length) ∧
    (session.told steps).map Prod.fst = steps.filter Step.isSteady ∧
    session.told (Step.spare chosen steps) = session.told steps := by
  refine ⟨length_run session, map_fst_told session steps, ?_⟩
  rw [told_filter (alike_refl session), filter_spare, ← told_filter (alike_refl session)]

end Running

end Session

end QueryRegistry
