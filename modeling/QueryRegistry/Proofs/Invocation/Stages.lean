import Mathlib.Data.List.Forall2
import QueryRegistry.Invocation.Listing
import QueryRegistry.Proofs.Invocation.Configuration
import QueryRegistry.Proofs.Registration.ReadBack

/-! The stages of a run up to the text it has to deliver. The mode is settled first, then the files are
read in the order in which they are named, each to its document, and then the queries are listed.
What is reported is the fault of the first stage that has one. -/

namespace QueryRegistry

/-- The file at the path can be read, decoded and parsed, and the document is what it holds. -/
def Holds (reading : Reading) (path : Path) (document : Document) : Prop :=
  ∃ bytes chars, reading path = .ok bytes ∧ Utf8.decode bytes = .ok chars ∧
    Document.parse (String.ofList (unifyLineEnds chars)) = .ok document

/-- Why the file at the path holds no document. -/
inductive Spoilt (reading : Reading) (path : Path) : RunFault → Prop
  | unreadable {fault : FileFault} (read : reading path = .error fault) :
      Spoilt reading path (.file fault)
  | undecodable {bytes : List UInt8} {fault : Utf8.Fault} (read : reading path = .ok bytes)
      (decoded : Utf8.decode bytes = .error fault) : Spoilt reading path (.undecodable fault)
  | malformed {bytes : List UInt8} {chars : List Char} {error : SyntaxError}
      (read : reading path = .ok bytes) (decoded : Utf8.decode bytes = .ok chars)
      (parsed : Document.parse (String.ofList (unifyLineEnds chars)) = .error error) :
      Spoilt reading path (.malformed (String.ofList (unifyLineEnds chars)) error)

namespace Invocation

/-- What is given as the mode: by the option, else by the file that is named for it, else nothing. -/
inductive Chosen (invocation : Invocation) (reading : Reading) : ModeChoice → Prop
  | option {name : String} (named : invocation.mode = some name) :
      Chosen invocation reading (.setting (.text name))
  | configuration {path : Path} {bytes : List UInt8} {setting : Setting}
      (unnamed : invocation.mode = none) (configured : invocation.configuration = some path)
      (read : reading path = .ok bytes) (content : Configures bytes setting) :
      Chosen invocation reading (.setting setting)
  | absent (unnamed : invocation.mode = none) (unconfigured : invocation.configuration = none) :
      Chosen invocation reading (.setting .null)

/-- The mode is valid and the files hold documents. -/
structure Prepared (invocation : Invocation) (reading : Reading) (mode : Mode)
    (documents : List Document) : Prop where
  settled : ∃ choice, invocation.Chosen reading choice ∧ choice.resolve = .ok mode
  read : List.Forall₂ (Holds reading) invocation.files documents

/-- The fault of the first stage that has one: of the configuration, if the mode is left to it, of the
mode, of a file behind others that hold documents, or of the documents. -/
inductive Hindered (invocation : Invocation) (reading : Reading) : RunFault → Prop
  | configurationFile {path : Path} {fault : FileFault} (unnamed : invocation.mode = none)
      (configured : invocation.configuration = some path) (read : reading path = .error fault) :
      Hindered invocation reading (.file fault)
  | configuration {path : Path} {bytes : List UInt8} {error : ConfigurationError}
      (unnamed : invocation.mode = none) (configured : invocation.configuration = some path)
      (read : reading path = .ok bytes) (content : Unconfigured bytes error) :
      Hindered invocation reading (.configuration path error)
  | mode {choice : ModeChoice} {given : Setting} (chosen : invocation.Chosen reading choice)
      (invalid : choice.resolve = .error given) :
      Hindered invocation reading (.failed (.invalidMode given))
  | input {choice : ModeChoice} {mode : Mode} {before behind : List Path} {path : Path}
      {fault : RunFault} (chosen : invocation.Chosen reading choice)
      (valid : choice.resolve = .ok mode) (files : invocation.files = before ++ path :: behind)
      (earlier : ∀ p ∈ before, ∃ document, Holds reading p document)
      (spoilt : Spoilt reading path fault) : Hindered invocation reading fault
  | queries {mode : Mode} {documents : List Document} {failure : Failure}
      (prepared : invocation.Prepared reading mode documents)
      (failed : (queryIds (.ready mode) documents).result = .error failure) :
      Hindered invocation reading (.failed failure)

end Invocation

section Files

variable {reading : Reading} {path : Path}

theorem readDocument_eq_ok_iff {document : Document} :
    readDocument reading path = .ok document ↔ Holds reading path document := by
  unfold readDocument Holds
  cases reading path with
  | error fault => simp [bind, Except.bind, Except.mapError]
  | ok bytes =>
    cases hd : Utf8.decode bytes with
    | error fault => simp [hd, bind, Except.bind, Except.mapError]
    | ok chars =>
      cases hp : Document.parse (String.ofList (unifyLineEnds chars)) <;>
        simp [hd, hp, bind, Except.bind, Except.mapError]

theorem Spoilt.readDocument_eq {fault : RunFault} (h : Spoilt reading path fault) :
    readDocument reading path = .error fault := by
  unfold readDocument
  cases h with
  | unreadable read => rw [read]; rfl
  | undecodable read decoded =>
    rw [read]
    simp [decoded, bind, Except.bind, Except.mapError]
  | malformed read decoded parsed =>
    rw [read]
    simp [decoded, parsed, bind, Except.bind, Except.mapError]

theorem holds_or_spoilt (reading : Reading) (path : Path) :
    (∃ document, Holds reading path document) ∨ ∃ fault, Spoilt reading path fault := by
  cases hr : reading path with
  | error fault => exact .inr ⟨_, .unreadable hr⟩
  | ok bytes =>
    cases hd : Utf8.decode bytes with
    | error fault => exact .inr ⟨_, .undecodable hr hd⟩
    | ok chars =>
      cases hp : Document.parse (String.ofList (unifyLineEnds chars)) with
      | error error => exact .inr ⟨_, .malformed hr hd hp⟩
      | ok document => exact .inl ⟨document, bytes, chars, hr, hd, hp⟩

theorem readDocument_eq_error_iff {fault : RunFault} :
    readDocument reading path = .error fault ↔ Spoilt reading path fault := by
  refine ⟨fun h => ?_, Spoilt.readDocument_eq⟩
  rcases holds_or_spoilt reading path with ⟨document, hd⟩ | ⟨other, ho⟩
  · rw [readDocument_eq_ok_iff.mpr hd] at h
    simp at h
  · rw [ho.readDocument_eq, Except.error.injEq] at h
    exact h ▸ ho

theorem mapM_readDocument_eq_ok_iff {paths : List Path} {documents : List Document} :
    paths.mapM (readDocument reading) = .ok documents ↔
      List.Forall₂ (Holds reading) paths documents := by
  rw [mapM_eq_ok_iff, ← List.forall₂_eq_eq_eq, List.forall₂_map_left_iff,
    List.forall₂_map_right_iff]
  simp only [readDocument_eq_ok_iff]

theorem mapM_readDocument_eq_error_iff {paths : List Path} {fault : RunFault} :
    paths.mapM (readDocument reading) = .error fault ↔ ∃ before path behind,
      paths = before ++ path :: behind ∧ (∀ p ∈ before, ∃ document, Holds reading p document) ∧
      Spoilt reading path fault := by
  rw [mapM_eq_error_iff]
  simp only [readDocument_eq_ok_iff, readDocument_eq_error_iff]

end Files

theorem Run.result_adapt {ε ε' α : Type} (f : ε → ε') (run : Run ε α) :
    Run.result (ExceptT.adapt f run) = run.result.mapError f := by
  obtain ⟨notes, outcome⟩ := run
  cases outcome <;> rfl

namespace Invocation

variable {invocation : Invocation} {reading : Reading}

theorem Chosen.choice_eq {choice : ModeChoice} (h : invocation.Chosen reading choice) :
    invocation.choice reading = .ok choice := by
  unfold Invocation.choice
  cases h with
  | option named => rw [named]
  | configuration unnamed configured read content =>
    rw [unnamed, configured]
    simp [read, content.readConfiguration_eq, bind, Except.bind, Except.mapError]
  | absent unnamed unconfigured => rw [unnamed, unconfigured]

theorem result_listing_of_chosen {choice : ModeChoice} (h : invocation.Chosen reading choice) :
    (invocation.listing reading).result =
      (choice.resolve.mapError (RunFault.failed ∘ .invalidMode)).bind fun mode =>
        (invocation.files.mapM (readDocument reading)).bind fun documents =>
          ((queryList (.ready mode) documents).result.mapError .failed).map (· ++ "\n") := by
  rw [listing, Run.result_bind, Run.result_ofExcept, h.choice_eq]
  change Run.result (_ >>= _) = _
  rw [Run.result_bind, Run.result_adapt, ModeChoice.resolveRun, Run.result_ofExcept]
  cases choice.resolve with
  | error given => rfl
  | ok mode =>
    change Run.result (_ >>= _) = _
    rw [Run.result_bind, Run.result_ofExcept]
    cases invocation.files.mapM (readDocument reading) with
    | error fault => rfl
    | ok documents =>
      change Run.result (_ >>= _) = _
      rw [Run.result_bind, Run.result_adapt]
      change _ = ((queryList (.ready mode) documents).result.mapError RunFault.failed).map (· ++ "\n")
      cases (queryList (.ready mode) documents).result <;> rfl

theorem Prepared.result_listing {mode : Mode} {documents : List Document}
    (h : invocation.Prepared reading mode documents) :
    (invocation.listing reading).result =
      ((queryList (.ready mode) documents).result.mapError .failed).map (· ++ "\n") := by
  obtain ⟨choice, hchosen, hmode⟩ := h.settled
  rw [result_listing_of_chosen hchosen, hmode, mapM_readDocument_eq_ok_iff.mpr h.read]
  rfl

theorem Hindered.result_listing {fault : RunFault} (h : invocation.Hindered reading fault) :
    (invocation.listing reading).result = .error fault := by
  cases h with
  | configurationFile unnamed configured read =>
    rw [listing, Run.result_bind, Run.result_ofExcept, choice, unnamed, configured]
    simp [read, bind, Except.bind, Except.mapError]
  | configuration unnamed configured read content =>
    rw [listing, Run.result_bind, Run.result_ofExcept, choice, unnamed, configured]
    simp [read, content.readConfiguration_eq, bind, Except.bind, Except.mapError]
  | mode chosen invalid =>
    rw [result_listing_of_chosen chosen, invalid]
    rfl
  | input chosen valid files earlier spoilt =>
    have hfault := mapM_readDocument_eq_error_iff.mpr ⟨_, _, _, files, earlier, spoilt⟩
    rw [result_listing_of_chosen chosen, valid, hfault]
    rfl
  | queries prepared failed =>
    rw [prepared.result_listing, result_queryList, failed]
    rfl

end Invocation

end QueryRegistry
