import Mathlib.Data.List.Forall2
import QueryRegistry.Proofs.Registration.Modes
import QueryRegistry.Proofs.Table.Repetition

/-! The order of the list of queries, and what is noted while it is made. A key stands where it came
first and with what came last under it, and each time that it comes again a note is made of that. -/

namespace QueryRegistry

def Event.isReplaced : Event → Bool
  | replaced _ => true
  | _ => false

/-- What is noted of operations with these names and texts: the digest of each, and right behind it
whether one before it had the same key. -/
def notesOf (key : String × String → String) (sent : List (String × String)) : List Event :=
  (markRepeats key sent).flatMap fun marked =>
    .identified marked.1.1 (digestText marked.1.2) ::
      if marked.2 then [.replaced (key marked.1)] else []

/-- How a list and its notes come from the names and texts of operations that are listed in turn, each
with a value under a key. -/
structure ListedBy (key value : String × String → String) (sent : List (String × String))
    (listed : Table String String) (notes : List Event) : Prop where
  collects : listed.Collects key value sent
  noted : notes = notesOf key sent
  /-- As many notes tell of a replacement as operations have no entry of their own. -/
  replaced : notes.countP Event.isReplaced + listed.size = sent.length

theorem notesOf_concat (key : String × String → String) (sent : List (String × String))
    (s : String × String) : notesOf key (sent ++ [s]) = notesOf key sent ++
      .identified s.1 (digestText s.2) ::
        if key s ∈ sent.map key then [.replaced (key s)] else [] := by
  rw [notesOf, markRepeats_concat, List.flatMap_append, ← notesOf]
  by_cases hs : key s ∈ sent.map key <;> simp [hs]

theorem countP_notesOf (key : String × String → String) (sent : List (String × String)) :
    (notesOf key sent).countP Event.isReplaced = (markRepeats key sent).countP Prod.snd := by
  rw [notesOf]
  induction markRepeats key sent with
  | nil => rfl
  | cons marked rest ih =>
    obtain ⟨s, again⟩ := marked
    rw [List.flatMap_cons, List.countP_append, ih, List.countP_cons]
    cases again <;> simp [Event.isReplaced, Nat.add_comm]

/-- The key under which a mode lists an operation with this name and text. -/
abbrev Mode.key (mode : Mode) (s : String × String) : String := (mode.entry s.1 s.2).1

abbrev Mode.value (mode : Mode) (s : String × String) : String := (mode.entry s.1 s.2).2

theorem Mode.collects_list (mode : Mode) (sent : List (String × String)) :
    (mode.list sent).Collects mode.key mode.value sent :=
  Table.collects_ofList mode.key mode.value sent

theorem Mode.listedBy_list (mode : Mode) (sent : List (String × String)) :
    ListedBy mode.key mode.value sent (mode.list sent) (notesOf mode.key sent) where
  collects := mode.collects_list sent
  noted := rfl
  replaced := by
    rw [countP_notesOf, (mode.collects_list sent).size_eq, countP_markRepeats]

section Noting

variable {mode : Mode} {documents : List Document}

theorem log_register {operation : Operation} {s : String × String}
    (h : identify documents operation = .ok s) (listed : Table String String) :
    (register mode (sentIndex documents) listed operation.withTypename.value).log =
      .identified s.1 (digestText s.2) ::
        if listed.contains (mode.key s) then [.replaced (mode.key s)] else [] := by
  obtain ⟨hname, htext⟩ := identify_eq_ok_iff.mp h
  rw [sentText] at htext
  rw [register, operation.name_withTypename, hname]
  dsimp only
  rw [htext, Run.log_bind_of_ok (a := s.2) rfl]
  by_cases hk : listed.contains (mode.key s) = true
  · simp only [hk, if_true]
    rfl
  · simp only [hk, Bool.false_eq_true, if_false]
    rfl

theorem log_foldlM_register {operations : List Operation} {sent : List (String × String)}
    (h : operations.map (identify documents) = sent.map .ok) :
    ((operations.map fun op => op.withTypename.value).foldlM
      (register mode (sentIndex documents)) Table.empty).log = notesOf mode.key sent := by
  induction sent using List.reverseRecOn generalizing operations with
  | nil =>
    obtain rfl : operations = [] := by simpa using h
    rfl
  | append_singleton sent s ih =>
    rw [List.map_append, List.map_singleton] at h
    obtain ⟨before, last, rfl, hbefore, hlast⟩ := List.map_eq_append_iff.mp h
    obtain ⟨op, rfl, hop⟩ := List.map_eq_singleton_iff.mp hlast
    have hresult : ((before.map fun op => op.withTypename.value).foldlM
        (register mode (sentIndex documents)) Table.empty).result = .ok (mode.list sent) := by
      rw [result_foldlM_register, mapM_eq_ok_iff.mpr hbefore, mode.list_eq_foldl]
      rfl
    have hkey : (mode.list sent).contains (mode.key s) = true ↔
        mode.key s ∈ sent.map mode.key := by
      rw [Table.contains_iff, (mode.collects_list sent).order, List.mem_eraseDups]
    rw [List.map_append, List.foldlM_append, Run.log_bind_of_ok hresult, ih hbefore,
      List.map_singleton, List.foldlM_cons, notesOf_concat]
    congr 1
    have hnext : (register mode (sentIndex documents) (mode.list sent) op.withTypename.value).result =
        .ok ((mode.list sent).insert (mode.key s) (mode.value s)) := by
      rw [result_register, hop]
      rfl
    rw [Run.log_bind_of_ok hnext, log_register hop]
    simp only [hkey]
    exact List.append_nil _

theorem log_queryIds {choice : ModeChoice} (h : choice.resolve = .ok mode) :
    (queryIds choice documents).log =
      (FragmentIndex.ofDocuments (documents.map Document.normalized)).log ++
        (((documents.map Document.normalized).flatMap Document.operations).foldlM
          (register mode (sentIndex documents)) Table.empty).log := by
  have hmode : choice.resolveRun.result = .ok mode := by
    rw [ModeChoice.resolveRun, Run.result_ofExcept, h]
    rfl
  rw [queryIds, Run.log_bind_of_ok hmode, ModeChoice.resolveRun, Run.log_ofExcept, List.nil_append]
  dsimp only
  rw [Run.log_bind_of_ok (Run.result_lift _), Run.log_lift]
  rfl

end Noting

/-- If the queries can be listed, each operation has a name and a text. The client's list has the names
in the order in which they came first, each with the digest of the text that came last for it; the
server's has the digests in the order in which they came first, each with the text that came last. What
is noted behind the index is the name and the digest of each operation in turn, and right behind these
that an entry is replaced, just if an earlier operation had the key. -/
theorem queryIds_listedBy {choice : ModeChoice} {documents : List Document}
    {listed : Table String String} (h : (queryIds choice documents).result = .ok listed) :
    ∃ sent notes,
      List.Forall₂ (fun op s => op.name = some s.1 ∧ sentText documents op = .ok s.2)
        (documents.flatMap Document.operations) sent ∧
      (queryIds choice documents).log =
        (FragmentIndex.ofDocuments (documents.map Document.normalized)).log ++ notes ∧
      ((choice.resolve = .ok .client ∧
          ListedBy Prod.fst (fun s => digestText s.2) sent listed notes) ∨
        (choice.resolve = .ok .server ∧
          ListedBy (fun s => digestText s.2) Prod.snd sent listed notes)) := by
  obtain ⟨mode, sent, hmode, hsent, rfl⟩ := queryIds_eq_ok_iff.mp h
  have hmap := mapM_eq_ok_iff.mp hsent
  refine ⟨sent, notesOf mode.key sent, ?_, ?_, ?_⟩
  · have hall : List.Forall₂ Eq ((documents.flatMap Document.operations).map (identify documents))
        (sent.map .ok) := by
      rw [List.forall₂_eq_eq_eq, hmap]
    exact (List.forall₂_map_right_iff.mp (List.forall₂_map_left_iff.mp hall)).imp
      fun op s hop => identify_eq_ok_iff.mp hop
  · rw [log_queryIds hmode, operations_normalized_all, log_foldlM_register hmap]
  · cases mode with
    | client => exact .inl ⟨hmode, Mode.client.listedBy_list sent⟩
    | server => exact .inr ⟨hmode, Mode.server.listedBy_list sent⟩

section Revision

def shortQuery (name field : String) : Operation :=
  { name := some name, selections := some [.field none field [] [] none] }

/-- The first query comes again behind the second, with another field. -/
def revised : List Document :=
  [⟨[.operation (shortQuery "P" "a"), .operation (shortQuery "Q" "a")]⟩,
    ⟨[.operation (shortQuery "P" "b")]⟩]

theorem sentText_revised :
    sentText revised (shortQuery "P" "a") = .ok "query P \x7b\n  a\n\x7d" ∧
    sentText revised (shortQuery "Q" "a") = .ok "query Q \x7b\n  a\n\x7d" ∧
    sentText revised (shortQuery "P" "b") = .ok "query P \x7b\n  b\n\x7d" := ⟨rfl, rfl, rfl⟩

theorem eq_of_sent {op : Operation} {name text : String} {s : String × String}
    (hname : op.name = some name) (htext : sentText revised op = .ok text)
    (hs : op.name = some s.1 ∧ sentText revised op = .ok s.2) : s = (name, text) := by
  have hfirst : s.1 = name := Option.some.inj (hs.1.symm.trans hname)
  have hsecond : s.2 = text := Except.ok.inj (hs.2.symm.trans htext)
  exact Prod.ext hfirst hsecond

theorem queryIds_listedBy_revised :
    ∃ listed, (queryIds (.ready .client) revised).result = .ok listed ∧
      listed.keys = ["P", "Q"] ∧
      listed.find? "P" = some (digestText "query P \x7b\n  b\n\x7d") ∧
      (queryIds (.ready .client) revised).log =
        [.indexed 0, .identified "P" (digestText "query P \x7b\n  a\n\x7d"),
          .identified "Q" (digestText "query Q \x7b\n  a\n\x7d"),
          .identified "P" (digestText "query P \x7b\n  b\n\x7d"), .replaced "P"] := by
  obtain ⟨listed, hl⟩ : ∃ listed, (queryIds (.ready .client) revised).result = .ok listed :=
    ⟨_, rfl⟩
  obtain ⟨sent, notes, hall, hlog, h⟩ := queryIds_listedBy hl
  have hsent : sent = [("P", "query P \x7b\n  a\n\x7d"), ("Q", "query Q \x7b\n  a\n\x7d"),
      ("P", "query P \x7b\n  b\n\x7d")] := by
    have hops : revised.flatMap Document.operations =
        [shortQuery "P" "a", shortQuery "Q" "a", shortQuery "P" "b"] := rfl
    rw [hops] at hall
    cases hall with
    | cons hfirst hall =>
      cases hall with
      | cons hsecond hall =>
        cases hall with
        | cons hthird hall =>
          cases hall
          rw [eq_of_sent rfl sentText_revised.1 hfirst,
            eq_of_sent rfl sentText_revised.2.1 hsecond,
            eq_of_sent rfl sentText_revised.2.2 hthird]
  subst hsent
  rcases h with ⟨-, h⟩ | ⟨hserver, -⟩
  · refine ⟨listed, hl, ?_, ?_, ?_⟩
    · rw [h.collects.order]
      rfl
    · exact h.collects.last [_, _] _ [] rfl (by simp)
    · rw [hlog, h.noted]
      rfl
  · simp [ModeChoice.resolve] at hserver

end Revision

end QueryRegistry
