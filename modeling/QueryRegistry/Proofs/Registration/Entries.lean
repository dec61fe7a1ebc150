import QueryRegistry.Proofs.Registration.Locality

/-! The list of queries as the table of its entries. Each operation is identified by its name and by
the text that is sent for it, or cannot be; the mode comes in only when the entries are made from
that. -/

namespace QueryRegistry

def sentIndex (documents : List Document) : FragmentIndex :=
  (FragmentIndex.ofDocuments (documents.map Document.normalized)).value

theorem find?_sentIndex (documents : List Document) (name : String) :
    (sentIndex documents).find? name =
      (lastFragment? documents name).map fun f => f.withTypename.value := by
  rw [sentIndex, FragmentIndex.find?_ofDocuments, lastFragment?_normalized]

/-- The documents as they are and as they are sent lead from name to name in the same way. -/
theorem agree_sentIndex (documents : List Document) (names : List String) :
    (FragmentIndex.ofDocuments documents).value.Agree (sentIndex documents) names := by
  intro name _
  rw [find?_sentIndex, FragmentIndex.find?_ofDocuments, Option.map_map]
  exact congrArg (Option.map · _) (funext fun f => f.spreads_withTypename.symm)

/-- The text that is sent for an operation of the documents. -/
def sentText (documents : List Document) (operation : Operation) : Except SpreadError String :=
  (sentIndex documents).canonicalText (.operation operation.withTypename.value)

def identify (documents : List Document) (operation : Operation) :
    Except Failure (String × String) :=
  match operation.name with
  | none => .error .missingName
  | some name => ((sentText documents operation).mapError .spread).map fun text => (name, text)

def identifyAll (documents : List Document) : Except Failure (List (String × String)) :=
  (documents.flatMap Document.operations).mapM (identify documents)

/-- The list of the entries that a mode makes of names and texts. -/
def Mode.list (mode : Mode) (sent : List (String × String)) : Table String String :=
  Table.ofList (sent.map fun s => mode.entry s.1 s.2)

theorem Mode.list_eq_foldl (mode : Mode) (sent : List (String × String)) :
    mode.list sent = sent.foldl
      (fun table s => table.insert (mode.entry s.1 s.2).1 (mode.entry s.1 s.2).2) Table.empty :=
  List.foldl_map

theorem identify_eq_ok_iff {documents : List Document} {operation : Operation} {name text : String} :
    identify documents operation = .ok (name, text) ↔
      operation.name = some name ∧ sentText documents operation = .ok text := by
  rw [identify]
  cases operation.name <;> cases sentText documents operation <;>
    simp [Except.mapError, Except.map]

section Collecting

variable {ε α β : Type} {f : α → Except ε β} {xs : List α} {ys : List β}

theorem mapM_eq_ok_iff : xs.mapM f = .ok ys ↔ xs.map f = ys.map .ok := by
  induction xs generalizing ys with
  | nil => cases ys <;> simp [pure, Except.pure]
  | cons x xs ih =>
    rw [List.mapM_cons, List.map_cons]
    cases hx : f x with
    | error e => cases ys <;> simp [bind, Except.bind]
    | ok y =>
      cases ys with
      | nil => cases xs.mapM f <;> simp [bind, Except.bind, pure, Except.pure]
      | cons z zs =>
        rw [List.map_cons, List.cons.injEq, ← ih]
        cases xs.mapM f <;> simp [bind, Except.bind, pure, Except.pure]

theorem mapM_eq_error_iff {e : ε} :
    xs.mapM f = .error e ↔ ∃ before x behind, xs = before ++ x :: behind ∧
      (∀ y ∈ before, ∃ z, f y = .ok z) ∧ f x = .error e := by
  constructor
  · intro h
    induction xs with
    | nil => simp [pure, Except.pure] at h
    | cons x xs ih =>
      rw [List.mapM_cons] at h
      cases hx : f x with
      | error e' =>
        obtain rfl : e' = e := by simpa [hx, bind, Except.bind] using h
        exact ⟨[], x, xs, rfl, by simp, hx⟩
      | ok y =>
        have hrest : xs.mapM f = .error e := by
          cases hxs : xs.mapM f <;> simp_all [bind, Except.bind, pure, Except.pure]
        obtain ⟨before, x', behind, rfl, hbefore, hx'⟩ := ih hrest
        refine ⟨x :: before, x', behind, rfl, fun z hz => ?_, hx'⟩
        rcases List.mem_cons.mp hz with rfl | hz
        · exact ⟨y, hx⟩
        · exact hbefore z hz
  · rintro ⟨before, x, behind, rfl, hbefore, hx⟩
    induction before with
    | nil => simp [hx, bind, Except.bind]
    | cons y before ih =>
      obtain ⟨z, hz⟩ := hbefore y List.mem_cons_self
      have hrest := ih fun w hw => hbefore w (List.mem_cons_of_mem _ hw)
      rw [List.cons_append, List.mapM_cons, hz]
      simp [hrest, bind, Except.bind]

/-- Two ways through a list that agree, up to where the first fails in a certain way, end alike unless
the first fails in that way. -/
theorem mapM_eq_or {g : α → Except ε β} {certain : ε → Prop}
    (h : ∀ x ∈ xs, g x = f x ∨ ∃ e, f x = .error e ∧ certain e) :
    xs.mapM g = xs.mapM f ∨ ∃ e, xs.mapM f = .error e ∧ certain e := by
  induction xs with
  | nil => exact .inl rfl
  | cons x xs ih =>
    simp only [List.mapM_cons]
    rcases h x List.mem_cons_self with hx | ⟨e, hx, he⟩
    · rw [hx]
      cases f x with
      | error e => exact .inl rfl
      | ok y =>
        rcases ih fun z hz => h z (List.mem_cons_of_mem _ hz) with hrest | ⟨e, hrest, he⟩
        · rw [hrest]
          exact .inl rfl
        · rw [hrest]
          exact .inr ⟨e, rfl, he⟩
    · rw [hx]
      exact .inr ⟨e, rfl, he⟩

end Collecting

theorem result_register (mode : Mode) (documents : List Document) (listed : Table String String)
    (operation : Operation) :
    (register mode (sentIndex documents) listed operation.withTypename.value).result =
      (identify documents operation).map fun sent =>
        listed.insert (mode.entry sent.1 sent.2).1 (mode.entry sent.1 sent.2).2 := by
  rw [register, identify, operation.name_withTypename]
  cases operation.name with
  | none => rfl
  | some name =>
    dsimp only
    rw [Run.result_bind, Run.result_ofExcept, sentText]
    cases (sentIndex documents).canonicalText (.operation operation.withTypename.value) with
    | error e => rfl
    | ok text =>
      by_cases hk : listed.contains (mode.entry name text).1 = true
      · simp only [Except.mapError, bind, Except.bind, hk]
        rfl
      · simp only [Except.mapError, bind, Except.bind, hk]
        rfl

theorem result_foldlM_register (mode : Mode) (documents : List Document) (operations : List Operation)
    (listed : Table String String) :
    ((operations.map fun op => op.withTypename.value).foldlM
        (register mode (sentIndex documents)) listed).result =
      (operations.mapM (identify documents)).map fun sent =>
        sent.foldl (fun table s => table.insert (mode.entry s.1 s.2).1 (mode.entry s.1 s.2).2)
          listed := by
  induction operations generalizing listed with
  | nil => rfl
  | cons op rest ih =>
    rw [List.map_cons, List.foldlM_cons, Run.result_bind, result_register, List.mapM_cons]
    cases identify documents op with
    | error failure => rfl
    | ok sent =>
      refine (ih _).trans ?_
      cases rest.mapM (identify documents) <;> rfl

/-- Once the mode is chosen, the queries are listed just if each operation can be identified; and the
list is the table of the entries, one after the other. -/
theorem result_queryIds_eq (choice : ModeChoice) (documents : List Document) :
    (queryIds choice documents).result =
      (choice.resolve.mapError .invalidMode).bind fun mode =>
        (identifyAll documents).map mode.list := by
  rw [result_queryIds, operations_normalized_all]
  refine congrArg _ (funext fun mode => ?_)
  rw [funext mode.list_eq_foldl]
  exact result_foldlM_register mode documents _ Table.empty

theorem queryIds_eq_ok_iff {choice : ModeChoice} {documents : List Document}
    {listed : Table String String} : (queryIds choice documents).result = .ok listed ↔
      ∃ mode sent, choice.resolve = .ok mode ∧ identifyAll documents = .ok sent ∧
        mode.list sent = listed := by
  rw [result_queryIds_eq]
  cases choice.resolve <;> cases identifyAll documents <;>
    simp [Except.mapError, Except.map, Except.bind]

section Identified

variable {documents : List Document} {sent : List (String × String)}

theorem exists_identified (h : identifyAll documents = .ok sent) {op : Operation}
    (hop : op ∈ documents.flatMap Document.operations) :
    ∃ name text, (name, text) ∈ sent ∧ op.name = some name ∧ sentText documents op = .ok text := by
  have hm := List.mem_map_of_mem (f := identify documents) hop
  rw [mapM_eq_ok_iff.mp h] at hm
  obtain ⟨⟨name, text⟩, hs, ho⟩ := List.mem_map.mp hm
  exact ⟨name, text, hs, identify_eq_ok_iff.mp ho.symm⟩

theorem exists_operation (h : identifyAll documents = .ok sent) {name text : String}
    (hs : (name, text) ∈ sent) : ∃ op ∈ documents.flatMap Document.operations,
      op.name = some name ∧ sentText documents op = .ok text := by
  have hm : (.ok (name, text) : Except Failure (String × String)) ∈ sent.map .ok :=
    List.mem_map_of_mem hs
  rw [← mapM_eq_ok_iff.mp h] at hm
  obtain ⟨op, hop, ho⟩ := List.mem_map.mp hm
  exact ⟨op, hop, identify_eq_ok_iff.mp ho⟩

theorem Mode.mem_keys_list (mode : Mode) {name text : String} (h : (name, text) ∈ sent) :
    (mode.entry name text).1 ∈ (mode.list sent).keys :=
  Table.mem_keys_ofList.mpr ⟨_, List.mem_map.mpr ⟨_, h, rfl⟩⟩

end Identified

end QueryRegistry
