import QueryRegistry.Proofs.Fragment.Extension
import QueryRegistry.Proofs.Registration.Entries

/-! What new fragments can change. Documents of fragments that have names of their own may be put among
others, at any places: the list stays as it was, and so does a failure, unless it was for want of
one of the fragments that are new. -/

namespace QueryRegistry

open FragmentIndex

/-- The second list is the first with documents of a kind put in somewhere. -/
inductive Inserted (kind : Document → Prop) : List Document → List Document → Prop
  | nil : Inserted kind [] []
  | keep {document : Document} {documents longer : List Document}
      (rest : Inserted kind documents longer) :
      Inserted kind (document :: documents) (document :: longer)
  | insert {document : Document} {documents longer : List Document} (new : kind document)
      (rest : Inserted kind documents longer) : Inserted kind documents (document :: longer)

def fragmentNames (documents : List Document) : List String :=
  (documents.flatMap Document.fragments).map Fragment.name

/-- The document holds nothing but fragments, whose names are not defined in the documents. -/
def NewTo (documents : List Document) (document : Document) : Prop :=
  ∀ definition ∈ document.definitions,
    ∃ fragment, definition = .fragment fragment ∧ fragment.name ∉ fragmentNames documents

theorem lastFragment?_cons (document : Document) (documents : List Document) (name : String) :
    lastFragment? (document :: documents) name =
      (lastFragment? documents name).or (document.fragments.reverse.find? (·.name == name)) := by
  rw [lastFragment?, List.flatMap_cons, List.reverse_append, List.find?_append]
  rfl

theorem lastFragment?_eq_none_iff {documents : List Document} {name : String} :
    lastFragment? documents name = none ↔ name ∉ fragmentNames documents := by
  simp [lastFragment?, fragmentNames]

section Insertion

variable {kind : Document → Prop} {documents longer : List Document}

theorem Inserted.lastFragment?_eq (h : Inserted kind documents longer) {name : String}
    (hname : ∀ document, kind document → name ∉ fragmentNames [document]) :
    lastFragment? longer name = lastFragment? documents name := by
  induction h with
  | nil => rfl
  | keep _ ih => rw [lastFragment?_cons, lastFragment?_cons, ih]
  | @insert document documents longer new _ ih =>
    have hnone := lastFragment?_eq_none_iff.mpr (hname document new)
    rw [lastFragment?_cons] at hnone
    rw [lastFragment?_cons, ih, (Option.or_eq_none_iff.mp hnone).2, Option.or_none]

theorem Inserted.operations_eq (h : Inserted kind documents longer)
    (hkind : ∀ document, kind document → document.operations = []) :
    longer.flatMap Document.operations = documents.flatMap Document.operations := by
  induction h with
  | nil => rfl
  | keep _ ih => rw [List.flatMap_cons, List.flatMap_cons, ih]
  | insert new _ ih => rw [List.flatMap_cons, hkind _ new, ih, List.nil_append]

theorem NewTo.operations_eq_nil {document : Document} (h : NewTo documents document) :
    document.operations = [] := by
  refine List.filterMap_eq_nil_iff.mpr fun definition hd => ?_
  obtain ⟨fragment, rfl, -⟩ := h definition hd
  rfl

theorem NewTo.not_mem {document : Document} (h : NewTo documents document) {name : String}
    (hname : name ∈ fragmentNames documents) : name ∉ fragmentNames [document] := by
  intro hm
  obtain ⟨fragment, hf, rfl⟩ := List.mem_map.mp hm
  rw [List.flatMap_singleton, Document.fragments] at hf
  obtain ⟨definition, hd, hfragment⟩ := List.mem_filterMap.mp hf
  obtain ⟨other, rfl, hnew⟩ := h definition hd
  obtain rfl : other = fragment := Option.some.inj hfragment
  exact hnew hname

theorem Inserted.within_sentIndex (h : Inserted (NewTo documents) documents longer) :
    (sentIndex documents).Within (sentIndex longer) := by
  intro name fragment hf
  rw [find?_sentIndex] at hf ⊢
  have hname : name ∈ fragmentNames documents := by
    refine Classical.byContradiction fun hn => ?_
    rw [lastFragment?_eq_none_iff.mpr hn] at hf
    simp at hf
  rw [h.lastFragment?_eq fun document hnew => hnew.not_mem hname, hf]

theorem Inserted.identify_eq_or (h : Inserted (NewTo documents) documents longer)
    (operation : Operation) :
    identify longer operation = identify documents operation ∨
    ∃ name, identify documents operation = .error (.spread (.unknown name)) ∧
      name ∉ fragmentNames documents ∧ name ∈ fragmentNames longer := by
  rw [identify, identify, sentText, sentText]
  cases operation.name with
  | none => exact .inl rfl
  | some name =>
    dsimp only
    rcases canonicalText_within h.within_sentIndex (.operation operation.withTypename.value) with
      heq | ⟨missing, herror, habsent, fragment, hnew⟩
    · rw [heq]
      exact .inl rfl
    · rw [herror]
      rw [find?_sentIndex, Option.map_eq_none_iff] at habsent
      refine .inr ⟨missing, rfl, lastFragment?_eq_none_iff.mp habsent, ?_⟩
      refine Classical.byContradiction fun hn => ?_
      rw [find?_sentIndex, lastFragment?_eq_none_iff.mpr hn] at hnew
      simp at hnew

end Insertion

/-- Documents that hold only fragments with new names, put anywhere among others, leave the list of
queries or the failure to make it as it was, unless that was for want of one of the new names. -/
theorem queryIds_inserted (choice : ModeChoice) {documents longer : List Document}
    (h : Inserted (NewTo documents) documents longer) :
    (queryIds choice longer).result = (queryIds choice documents).result ∨
    ∃ name, (queryIds choice documents).result = .error (.spread (.unknown name)) ∧
      name ∉ fragmentNames documents ∧ name ∈ fragmentNames longer := by
  rw [result_queryIds_eq, result_queryIds_eq]
  cases choice.resolve with
  | error given => exact .inl rfl
  | ok mode =>
    have hone : ∀ op ∈ documents.flatMap Document.operations,
        identify longer op = identify documents op ∨
        ∃ failure, identify documents op = .error failure ∧ ∃ name,
          failure = .spread (.unknown name) ∧ name ∉ fragmentNames documents ∧
            name ∈ fragmentNames longer := by
      intro op _
      rcases h.identify_eq_or op with heq | ⟨name, herror, hold, hnew⟩
      · exact .inl heq
      · exact .inr ⟨_, herror, name, rfl, hold, hnew⟩
    rw [identifyAll, identifyAll, h.operations_eq fun _ hnew => hnew.operations_eq_nil]
    rcases mapM_eq_or hone with heq | ⟨failure, herror, name, rfl, hold, hnew⟩
    · rw [heq]
      exact .inl rfl
    · rw [herror]
      exact .inr ⟨name, rfl, hold, hnew⟩

section Addition

/-- A fragment that is new, and that spreads one that is not. -/
def leadingDocument : Document :=
  ⟨[.fragment (spreadingFragment "Leading" ["Inner", "Outer"])]⟩

/-- The same name once more, and a fragment that spreads itself. -/
def trailingDocument : Document :=
  ⟨[.fragment { innerFragment with name := "Leading" },
    .fragment (spreadingFragment "Looping" ["Looping"])]⟩

theorem queryIds_inserted_gathered :
    Inserted (NewTo gathered) gathered (leadingDocument :: gathered ++ [trailingDocument]) ∧
    ∃ listed, (queryIds (.ready .client) gathered).result = .ok listed ∧
      (queryIds (.ready .client) (leadingDocument :: gathered ++ [trailingDocument])).result =
        .ok listed := by
  have hnames : fragmentNames gathered = ["Outer", "Inner"] := rfl
  have hleading : NewTo gathered leadingDocument := by
    intro definition hd
    obtain rfl := List.mem_singleton.mp hd
    exact ⟨_, rfl, by simp [hnames, spreadingFragment]⟩
  have htrailing : NewTo gathered trailingDocument := by
    intro definition hd
    rcases List.mem_pair.mp hd with rfl | rfl
    · exact ⟨_, rfl, by simp [hnames]⟩
    · exact ⟨_, rfl, by simp [hnames, spreadingFragment]⟩
  have hinserted : Inserted (NewTo gathered) gathered
      (leadingDocument :: gathered ++ [trailingDocument]) :=
    .insert hleading (.keep (.insert htrailing .nil))
  obtain ⟨listed, hlisted⟩ : ∃ listed, (queryIds (.ready .client) gathered).result = .ok listed :=
    ⟨_, queryIds_eq_ok_iff.mpr ⟨_, _, rfl, rfl, rfl⟩⟩
  refine ⟨hinserted, listed, hlisted, ?_⟩
  rcases queryIds_inserted (.ready .client) hinserted with heq | ⟨name, herror, -, -⟩
  · rw [heq, hlisted]
  · simp [hlisted] at herror

end Addition

end QueryRegistry
