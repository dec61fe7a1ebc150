import QueryRegistry.Proofs.Registration.Entries

/-! When no list can be made, and what is reported then. The operations are completed as they are sent,
but whether that can be done, and what goes wrong first, is told by the documents as they were given. -/

namespace QueryRegistry

open FragmentIndex

/-- A mode, or a setting that is the name of one. -/
def ModeChoice.Valid : ModeChoice → Prop
  | ready _ => True
  | setting given => given = .text "client" ∨ given = .text "server"

/-- An operation without a name, or one that the last definitions of the fragments lead to a name that
has none or that leads back to itself. -/
def Broken (documents : List Document) (operation : Operation) : Prop :=
  operation.name = none ∨ ∃ name, Reaches (lastFragment? documents) (.operation operation) name ∧
    (lastFragment? documents name = none ∨
      Relation.TransGen (Leads (lastFragment? documents)) name name)

theorem ModeChoice.resolve_of_valid {choice : ModeChoice} (h : choice.Valid) :
    ∃ mode, choice.resolve = .ok mode := by
  cases choice with
  | ready mode => exact ⟨mode, rfl⟩
  | setting given =>
    rcases h with rfl | rfl
    · exact ⟨.client, rfl⟩
    · exact ⟨.server, rfl⟩

theorem ModeChoice.resolve_of_not_valid {choice : ModeChoice} (h : ¬ choice.Valid) :
    ∃ given, choice = .setting given ∧ choice.resolve = .error given := by
  cases choice with
  | ready mode => exact absurd trivial h
  | setting given =>
    obtain ⟨hclient, hserver⟩ := not_or.mp h
    refine ⟨given, rfl, ?_⟩
    cases given with
    | text name =>
      have hc : name ≠ "client" := fun e => hclient (congrArg Setting.text e)
      have hs : name ≠ "server" := fun e => hserver (congrArg Setting.text e)
      simp [resolve, hc, hs]
    | _ => rfl

section Operations

variable {documents : List Document} {operation : Operation}

/-- What goes wrong with an operation that is sent goes wrong with it as it is. -/
theorem sentText_eq_error_iff {error : SpreadError} : sentText documents operation = .error error ↔
    (ofDocuments documents).value.used (.operation operation) = .error error := by
  have hsent : sentText documents operation = .error error ↔
      (sentIndex documents).used (.operation operation.withTypename.value) = .error error := by
    rw [sentText, canonicalText, canonicalDefinitions]
    cases (sentIndex documents).used (.operation operation.withTypename.value) <;>
      simp [Except.map]
  have hpath : (Executable.operation operation).startPath =
      (Executable.operation operation.withTypename.value).startPath := rfl
  rw [hsent]
  rcases used_of_agree hpath (Executable.operation operation).spreads_withTypename.symm
    (agree_sentIndex documents _) with ⟨error', hu, hs⟩ | ⟨used, used', hu, hs, _⟩
  · rw [hu, hs]
  · simp [hu, hs]

/-- Nothing stands in the way of an operation with a name unless it is broken. -/
theorem sound_iff_not_broken {name : String} (hname : operation.name = some name) :
    Sound (ofDocuments documents).value (.operation operation) ↔ ¬ Broken documents operation := by
  constructor
  · intro hs hb
    have hindexed := hs.indexed
    have hacyclic := hs.acyclic
    rw [find?_ofDocuments_eq] at hindexed hacyclic
    rcases hb with hnone | ⟨other, hr, habsent | hcycle⟩
    · simp [hname] at hnone
    · obtain ⟨fragment, hf⟩ := hindexed other hr
      simp [hf] at habsent
    · exact hacyclic other hr hcycle
  · intro hb
    constructor
    · rw [find?_ofDocuments_eq]
      exact fun other hr => Option.ne_none_iff_exists'.mp fun habsent =>
        hb (.inr ⟨other, hr, .inl habsent⟩)
    · rw [find?_ofDocuments_eq]
      exact fun other hr hcycle => hb (.inr ⟨other, hr, .inr hcycle⟩)
    · intro other hn
      simp [Executable.fragmentName?] at hn

theorem broken_iff {name : String} (hname : operation.name = some name) :
    Broken documents operation ↔
      ∃ error, (ofDocuments documents).value.used (.operation operation) = .error error := by
  rw [← not_iff_not, ← sound_iff_not_broken hname]
  constructor
  · rintro hs ⟨error, he⟩
    obtain ⟨used, hu⟩ := hs.exists_used
    simp [hu] at he
  · intro hnone
    cases hu : (ofDocuments documents).value.used (.operation operation) with
    | error error => exact absurd ⟨error, hu⟩ hnone
    | ok used => exact sound_of_used hu

theorem identify_of_unnamed (hname : operation.name = none) :
    identify documents operation = .error .missingName := by
  rw [identify, hname]

theorem identify_eq_error_of_used {name : String} {error : SpreadError}
    (hname : operation.name = some name)
    (hu : (ofDocuments documents).value.used (.operation operation) = .error error) :
    identify documents operation = .error (.spread error) := by
  rw [identify, hname, sentText_eq_error_iff.mpr hu]
  rfl

theorem exists_identify_iff : (∃ sent, identify documents operation = .ok sent) ↔
    ¬ Broken documents operation := by
  cases hname : operation.name with
  | none =>
    have hb : Broken documents operation := .inl hname
    simp [identify_of_unnamed hname, hb]
  | some name =>
    rw [broken_iff hname]
    cases hu : (ofDocuments documents).value.used (.operation operation) with
    | error error => simp [identify_eq_error_of_used hname hu]
    | ok used =>
      cases ht : sentText documents operation with
      | error error => simp [sentText_eq_error_iff.mp ht] at hu
      | ok text => simp [identify_eq_ok_iff.mpr ⟨hname, ht⟩]

end Operations

theorem identifyAll_eq_error_iff {documents : List Document} {failure : Failure} :
    identifyAll documents = .error failure ↔ ∃ before operation behind,
      documents.flatMap Document.operations = before ++ operation :: behind ∧
      (∀ op ∈ before, ¬ Broken documents op) ∧
      identify documents operation = .error failure := by
  rw [identifyAll, mapM_eq_error_iff]
  simp only [exists_identify_iff]

section ValidMode

variable {choice : ModeChoice} {documents : List Document}

theorem result_queryIds_of_valid (documents : List Document) (hv : choice.Valid) :
    ∃ mode : Mode, (queryIds choice documents).result = (identifyAll documents).map mode.list := by
  obtain ⟨mode, hmode⟩ := ModeChoice.resolve_of_valid hv
  refine ⟨mode, ?_⟩
  rw [result_queryIds_eq, hmode]
  rfl

theorem queryIds_eq_error_iff_of_valid (hv : choice.Valid) {failure : Failure} :
    (queryIds choice documents).result = .error failure ↔
      identifyAll documents = .error failure := by
  obtain ⟨mode, hresult⟩ := result_queryIds_of_valid documents hv
  rw [hresult]
  cases identifyAll documents <;> simp [Except.map]

theorem exists_failure_iff (hv : choice.Valid) :
    (∃ failure, (queryIds choice documents).result = .error failure) ↔
      ∃ op ∈ documents.flatMap Document.operations, Broken documents op := by
  simp only [queryIds_eq_error_iff_of_valid hv]
  constructor
  · rintro ⟨failure, hf⟩
    obtain ⟨before, op, behind, hops, -, hop⟩ := identifyAll_eq_error_iff.mp hf
    refine ⟨op, by simp [hops], Classical.byContradiction fun hb => ?_⟩
    obtain ⟨sent, hs⟩ := exists_identify_iff.mpr hb
    simp [hs] at hop
  · rintro ⟨op, hop, hb⟩
    cases hall : identifyAll documents with
    | error failure => exact ⟨failure, rfl⟩
    | ok sent =>
      obtain ⟨name, text, -, hname, htext⟩ := exists_identified hall hop
      exact absurd hb (exists_identify_iff.mp ⟨_, identify_eq_ok_iff.mpr ⟨hname, htext⟩⟩)

end ValidMode

/-- With a mode that is none nothing is listed, whatever the documents are. Otherwise it is the broken
operations that keep the list from being made, and of these the first is reported: that it has no
name, or else what is wrong with the fragments that it uses in the documents as they were given. -/
theorem queryIds_failures (choice : ModeChoice) (documents : List Document) :
    (¬ choice.Valid → ∃ given, choice = .setting given ∧
      (queryIds choice documents).result = .error (.invalidMode given)) ∧
    (choice.Valid →
      ((∃ failure, (queryIds choice documents).result = .error failure) ↔
        ∃ op ∈ documents.flatMap Document.operations, Broken documents op) ∧
      ∀ before op behind, documents.flatMap Document.operations = before ++ op :: behind →
        (∀ earlier ∈ before, ¬ Broken documents earlier) → Broken documents op →
        (op.name = none → (queryIds choice documents).result = .error .missingName) ∧
        (op.name ≠ none → ∃ error,
          (ofDocuments documents).value.used (.operation op) = .error error ∧
          (queryIds choice documents).result = .error (.spread error))) := by
  refine ⟨fun hv => ?_, fun hv => ⟨exists_failure_iff hv, ?_⟩⟩
  · obtain ⟨given, hchoice, hresolve⟩ := ModeChoice.resolve_of_not_valid hv
    refine ⟨given, hchoice, ?_⟩
    rw [result_queryIds_eq, hresolve]
    rfl
  · intro before op behind hops hbefore hop
    have hfirst : ∀ failure, identify documents op = .error failure →
        (queryIds choice documents).result = .error failure := fun failure hf =>
      (queryIds_eq_error_iff_of_valid hv).mpr
        (identifyAll_eq_error_iff.mpr ⟨before, op, behind, hops, hbefore, hf⟩)
    refine ⟨fun hname => hfirst _ (identify_of_unnamed hname), fun hname => ?_⟩
    obtain ⟨name, hname⟩ := Option.ne_none_iff_exists'.mp hname
    obtain ⟨error, he⟩ := (broken_iff hname).mp hop
    exact ⟨error, he, hfirst _ (identify_eq_error_of_used hname he)⟩

section FirstFault

/-- The first definition of `Sound` and the fragment `Stray` are as bad as any, but are not reached. The
second operation is the first to be broken. The third has no name and is broken for that. -/
def faulty : List Document :=
  [⟨[.fragment (spreadingFragment "Sound" ["Nowhere"]), .operation (spreadingQuery (some "Good") ["Sound"]),
      .operation (spreadingQuery (some "Bad") ["Sound", "A", "Nowhere"])]⟩,
    ⟨[.operation (spreadingQuery none ["Nowhere"]), .fragment (spreadingFragment "Stray" ["Stray"])]⟩,
    ⟨[.fragment (spreadingFragment "Sound" []), .fragment (spreadingFragment "A" ["B"]),
      .fragment (spreadingFragment "B" ["A"])]⟩]

theorem queryIds_faulty :
    ¬ (ModeChoice.setting (.text "both")).Valid ∧
    (queryIds (.setting (.text "both")) faulty).result = .error (.invalidMode (.text "both")) ∧
    (ModeChoice.setting (.text "server")).Valid ∧
    (queryIds (.setting (.text "server")) faulty).result =
      .error (.spread (.cycle ["A", "B", "A"])) := by
  have hboth : ¬ (ModeChoice.setting (.text "both")).Valid := by
    rintro (h | h) <;> simp at h
  have hserver : (ModeChoice.setting (.text "server")).Valid := .inr rfl
  obtain ⟨given, hgiven, hinvalid⟩ := (queryIds_failures (.setting (.text "both")) faulty).1 hboth
  obtain rfl := ModeChoice.setting.inj hgiven
  refine ⟨hboth, hinvalid, hserver, ?_⟩
  have hgood : ¬ Broken faulty (spreadingQuery (some "Good") ["Sound"]) := by
    rw [broken_iff rfl]
    rintro ⟨error, he⟩
    obtain ⟨used, hu⟩ : ∃ used, (ofDocuments faulty).value.used
        (.operation (spreadingQuery (some "Good") ["Sound"])) = .ok used := ⟨_, rfl⟩
    simp [hu] at he
  have hbad : (ofDocuments faulty).value.used
      (.operation (spreadingQuery (some "Bad") ["Sound", "A", "Nowhere"])) =
        .error (.cycle ["A", "B", "A"]) := rfl
  obtain ⟨error, he, hresult⟩ := (((queryIds_failures (.setting (.text "server")) faulty).2 hserver).2
    [spreadingQuery (some "Good") ["Sound"]] (spreadingQuery (some "Bad") ["Sound", "A", "Nowhere"])
    [spreadingQuery none ["Nowhere"]] rfl (by simpa using hgood)
    ((broken_iff rfl).mpr ⟨_, hbad⟩)).2 (by simp [spreadingQuery])
  rw [hresult, ← Except.error.inj (hbad.symm.trans he)]

end FirstFault

end QueryRegistry
