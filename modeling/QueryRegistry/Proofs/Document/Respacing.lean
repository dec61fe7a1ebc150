import QueryRegistry.Proofs.Document.RoundTrip
import QueryRegistry.Proofs.Document.TokenEnd

/-! What stands between the tokens of a text does not matter. Blanks, line ends and comments may be put
on either side of any token, and where some of them stand between two tokens, others may stand there
instead. The text has the same tokens then, and so it is the same document. -/

namespace QueryRegistry

/-- Ignored characters, and comments that are closed by the end of their line. -/
inductive Spacing : List Char → Prop where
  | nil : Spacing []
  | ignored {c : Char} {rest : List Char} (hc : isIgnored c = true) (h : Spacing rest) :
    Spacing (c :: rest)
  | comment {words rest : List Char} {e : Char} (hw : ∀ c ∈ words, isLineEnd c = false)
    (he : isLineEnd e = true) (h : Spacing rest) : Spacing ('#' :: (words ++ e :: rest))

/-- From the text that the two make up, the word is read as a token and the rest is left. -/
def TakenAsToken (word rest : List Char) : Prop :=
  ∃ c tail token, word = c :: tail ∧ Begins c ∧ readToken c (tail ++ rest) = .ok (token, rest)

/-- What is done to the spacing in front of a token: more is put at its ends, or it is another one, if
there was any and still is. -/
inductive Respacing : List Char → List Char → Prop where
  | around {before behind : List Char} (hb : Spacing before) (gap : List Char)
    (hb' : Spacing behind) : Respacing gap (before ++ gap ++ behind)
  | instead {gap other : List Char} (hg : gap ≠ []) (ho : Spacing other) (hne : other ≠ []) :
    Respacing gap other

/-- The second text is the first one with other spacing in front of any number of its tokens, and with
more of it right behind the last one of these. -/
inductive Respaced : List Char → List Char → Prop where
  | rest {more : List Char} (hm : Spacing more) (text : List Char) : Respaced text (more ++ text)
  | token {gap gap' word text text' : List Char} (hg : Spacing gap) (hr : Respacing gap gap')
    (hw : TakenAsToken word text) (h : Respaced text text') :
    Respaced (gap ++ (word ++ text)) (gap' ++ (word ++ text'))

/-! ### Spacing -/

theorem dropIgnored_comment {words : List Char} {e : Char} (hw : ∀ c ∈ words, isLineEnd c = false)
    (he : isLineEnd e = true) (rest : List Char) :
    dropIgnored true (words ++ e :: rest) = dropIgnored false rest := by
  induction words with
  | nil => simp [dropIgnored, he]
  | cons c words ih =>
    have hc := hw c List.mem_cons_self
    simp [dropIgnored, hc, ih fun d hd => hw d (List.mem_cons_of_mem _ hd)]

namespace Spacing

variable {gap other : List Char}

theorem append (h : Spacing gap) (ho : Spacing other) : Spacing (gap ++ other) := by
  induction h with
  | nil => exact ho
  | ignored hc _ ih => exact .ignored hc ih
  | comment hw he _ ih =>
    rw [List.cons_append, List.append_assoc, List.cons_append]
    exact .comment hw he ih

theorem comment_cons {c : Char} (h : Spacing ('#' :: gap)) (hc : isLineEnd c = false) :
    Spacing ('#' :: c :: gap) := by
  generalize hcomment : '#' :: gap = text at h
  cases h with
  | nil => simp at hcomment
  | ignored hd =>
    obtain ⟨rfl, -⟩ := List.cons.inj hcomment
    exact absurd hd (by decide)
  | comment hw he h =>
    obtain ⟨-, rfl⟩ := List.cons.inj hcomment
    exact .comment (List.forall_mem_cons.mpr ⟨hc, hw⟩) he h

theorem breaks (h : Spacing gap) (hne : gap ≠ []) (text : List Char) : Breaks (gap ++ text) := by
  cases h with
  | nil => exact absurd rfl hne
  | ignored hc => exact breaks_of_isIgnored hc _
  | comment => exact breaks_cons (by decide) (by decide) _

theorem dropIgnored_append (h : Spacing gap) (text : List Char) :
    dropIgnored false (gap ++ text) = dropIgnored false text := by
  induction h with
  | nil => rfl
  | ignored hc _ ih => rw [List.cons_append, dropIgnored_gap hc, ih]
  | comment hw he _ ih =>
    rw [List.cons_append, List.append_assoc, List.cons_append]
    exact (dropIgnored_comment hw he _).trans ih

theorem lexemes_append (h : Spacing gap) (text : List Char) : lexemes (gap ++ text) = lexemes text :=
  lexemes_congr (h.dropIgnored_append text)

end Spacing

/-- What is skipped in front of a token is spacing; within a comment, it is the rest of the comment and
what follows. -/
theorem exists_spacing_of_dropIgnored {comment : Bool} {text rest : List Char} {c : Char}
    (h : dropIgnored comment text = c :: rest) :
    Begins c ∧ ∃ skipped, text = skipped ++ c :: rest ∧
      Spacing (if comment then '#' :: skipped else skipped) := by
  induction text generalizing comment with
  | nil => simp [dropIgnored] at h
  | cons d text ih =>
    rw [dropIgnored] at h
    split at h
    next hl =>
      obtain ⟨hc, skipped, rfl, hs⟩ := ih h
      refine ⟨hc, d :: skipped, rfl, ?_⟩
      cases comment with
      | false => exact .ignored (by simp [isIgnored, hl]) hs
      | true => exact @Spacing.comment [] skipped d (by simp) hl hs
    next hl =>
      split at h
      next hcomment =>
        subst hcomment
        obtain ⟨hc, skipped, rfl, hs⟩ := ih h
        exact ⟨hc, d :: skipped, rfl, hs.comment_cons (Bool.eq_false_iff.mpr hl)⟩
      next hcomment =>
        obtain rfl := Bool.eq_false_iff.mpr hcomment
        split at h
        next hi =>
          obtain ⟨hc, skipped, rfl, hs⟩ := ih h
          exact ⟨hc, d :: skipped, rfl, .ignored hi hs⟩
        next hi =>
          split at h
          next hd =>
            obtain rfl := beq_iff_eq.mp hd
            obtain ⟨hc, skipped, rfl, hs⟩ := ih h
            exact ⟨hc, '#' :: skipped, rfl, hs⟩
          next hd =>
            obtain ⟨rfl, rfl⟩ := List.cons.inj h
            exact ⟨⟨Bool.eq_false_iff.mpr hi, Bool.eq_false_iff.mpr hd⟩, [], rfl, .nil⟩

namespace Respacing

variable {gap gap' : List Char}

theorem same (gap : List Char) : Respacing gap gap := by
  have h := Respacing.around .nil gap .nil
  rwa [List.nil_append, List.append_nil] at h

theorem spacing (h : Respacing gap gap') (hg : Spacing gap) : Spacing gap' := by
  cases h with
  | around hb _ hb' => exact (hb.append hg).append hb'
  | instead _ ho _ => exact ho

theorem eq_nil (h : Respacing gap gap') (he : gap' = []) : gap = [] := by
  cases h with
  | around hb _ hb' =>
    rw [List.append_assoc, List.append_eq_nil_iff, List.append_eq_nil_iff] at he
    exact he.2.1
  | instead _ _ hne => exact absurd he hne

end Respacing

/-! ### Tokens -/

theorem Respaced.goesOnAlike {text text' : List Char} (h : Respaced text text') :
    GoesOnAlike text text' := by
  cases h with
  | @rest more hm =>
    by_cases hne : more = []
    · subst hne
      exact .inl rfl
    · exact .inr (hm.breaks hne _)
  | @token gap gap' word text text' hg hr hw h =>
    by_cases hne : gap' = []
    · obtain rfl := hr.eq_nil hne
      obtain ⟨c, tail, -, rfl, -⟩ := hw
      subst hne
      exact .inl rfl
    · exact .inr ((hr.spacing hg).breaks hne _)

theorem Respaced.tokens_eq {text text' : List Char} (h : Respaced text text') :
    (lexemes text').map Lexeme.token = (lexemes text).map Lexeme.token := by
  induction h with
  | rest hm text => rw [hm.lexemes_append]
  | @token gap gap' word text text' hg hr hw h ih =>
    obtain ⟨c, tail, token, rfl, hc, hread⟩ := hw
    obtain ⟨tail', htail, halike⟩ := readToken_alike hread
    obtain rfl := List.append_cancel_right htail
    have hread' := halike text' h.goesOnAlike
    rw [hg.lexemes_append, (hr.spacing hg).lexemes_append, List.cons_append, List.cons_append,
      lexemes_token hc hread, lexemes_token hc hread', List.map_cons, List.map_cons, ih]

theorem Respaced.parse_eq {text text' : String} {document : Document}
    (h : Respaced text.toList text'.toList) (hparse : Document.parse text = .ok document) :
    Document.parse text' = .ok document := by
  rw [Document.parse_eq_ok_iff] at hparse ⊢
  rw [h.tokens_eq, hparse]

/-- Spacing may be put on either side of each token that is read from a text. -/
theorem exists_respaced_of_mem_lexemes {text : List Char} {lexeme : Lexeme}
    (hl : lexeme ∈ lexemes text) (hread : ∀ fault, lexeme.token ≠ .unreadable fault) :
    ∃ front word rest, text = front ++ (word ++ rest) ∧ lexeme.text = word ++ rest ∧
      TakenAsToken word rest ∧ ∀ before behind, Spacing before → Spacing behind →
        Respaced text (front ++ (before ++ (word ++ (behind ++ rest)))) := by
  fun_induction lexemes text with
  | case1 => simp at hl
  | case2 text c rest hi token rest' ht ih =>
    obtain ⟨hc, gap, rfl, hgap⟩ := exists_spacing_of_dropIgnored hi
    obtain ⟨tail, rfl, -⟩ := readToken_alike ht
    have htaken : TakenAsToken (c :: tail) rest' := ⟨c, tail, token, rfl, hc, ht⟩
    rcases List.mem_cons.mp hl with rfl | hl
    · refine ⟨gap, c :: tail, rest', rfl, rfl, htaken, fun before behind hb hb' => ?_⟩
      have hr : Respacing gap (gap ++ before) := .around .nil gap hb
      rw [← List.append_assoc]
      exact .token hgap hr htaken (.rest hb' rest')
    · obtain ⟨front, word, later, rfl, hlexeme, hword, hmore⟩ := ih hl
      refine ⟨gap ++ (c :: tail ++ front), word, later, by simp, hlexeme, hword,
        fun before behind hb hb' => ?_⟩
      have h := Respaced.token hgap (.same gap) htaken (hmore before behind hb hb')
      simpa using h
  | case3 text c rest hi stuck ht =>
    obtain rfl := List.mem_singleton.mp hl
    exact absurd rfl (hread _)

/-- A text that is read as a document is still read as one when it is spaced otherwise. With this one
among any other documents, the list of queries has the same entries in the same order, or there is none
for the same reason. -/
theorem queryIds_eq_of_respaced {text text' : String} {document : Document}
    (hparse : Document.parse text = .ok document) (hr : Respaced text.toList text'.toList) :
    ∃ again, Document.parse text' = .ok again ∧
      ∀ (choice : ModeChoice) (before behind : List Document),
        queryIds choice (before ++ again :: behind) =
          queryIds choice (before ++ document :: behind) :=
  ⟨document, hr.parse_eq hparse, fun _ _ _ => rfl⟩

section Loosened

def tightText : List Char :=
  ['q', 'u', 'e', 'r', 'y', ' ', 'Q', '\x7b', 'a', '(', 'x', ':', '-', '1', ' ', 'y', ':', '2', ')',
    '\x7d']

/-- The same with a tab for the first blank, a comment in front of the selections and a comma. -/
def looseText : List Char :=
  ['q', 'u', 'e', 'r', 'y', '\t', 'Q', '#', 'n', '\r', '\n', '\x7b', 'a', '(', 'x', ':', '-', '1', ',',
    'y', ':', '2', ')', '\x7d']

def tightQuery : Operation :=
  { name := some "Q",
    selections := some [.field none "a" [("x", .int "-1"), ("y", .int "2")] [] none] }

theorem lexemes_tightText : (lexemes tightText).map Lexeme.token = tightQuery.tokens := by
  decide +kernel

theorem readable_tightQuery : tightQuery.Readable := by
  have hint : ∀ digits, .int digits ∈ tightQuery.tokens → (Token.int digits).Sound := by
    intro digits hm
    rw [← lexemes_tightText] at hm
    obtain ⟨lexeme, hl, he⟩ := List.mem_map.mp hm
    exact he ▸ sound_of_mem_lexemes _ lexeme hl
  refine ⟨nofun, ?_, nofun, nofun, _, rfl, List.cons_ne_nil _ _, _, rfl, ?_⟩
  · rintro name ⟨⟩
    decide
  · refine List.forall_mem_singleton.mpr (.leaf nofun (by decide) (List.forall_mem_cons.mpr ⟨?_, ?_⟩)
      nofun)
    · exact ⟨by decide, .int (hint _ (by decide))⟩
    · exact List.forall_mem_singleton.mpr ⟨by decide, .int (hint _ (by decide))⟩

theorem parse_tightText :
    Document.parse (.ofList tightText) = .ok ⟨[.operation tightQuery]⟩ := by
  have hreadable : ∀ e ∈ [Executable.operation tightQuery], e.Readable :=
    List.forall_mem_singleton.mpr readable_tightQuery
  refine parse_of_readable hreadable (List.cons_ne_nil _ _) ?_
  rw [String.toList_ofList, lexemes_tightText]
  exact (List.flatMap_singleton _ _).symm

theorem respaced_looseText : Respaced tightText looseText := by
  have hplain : ∀ (word : List Char) {text text' : List Char}, TakenAsToken word text →
      Respaced text text' → Respaced (word ++ text) (word ++ text') :=
    fun _ _ _ hw h => .token .nil (.same []) hw h
  have hblank : Spacing [' '] := .ignored (by decide) .nil
  have htab : Spacing ['\t'] := .ignored (by decide) .nil
  have hcomma : Spacing [','] := .ignored (by decide) .nil
  have hcomment : Spacing ['#', 'n', '\r', '\n'] :=
    @Spacing.comment ['n'] _ '\r' (List.forall_mem_singleton.mpr rfl) rfl (.ignored (by decide) .nil)
  have htaken : ∀ {c : Char} {tail rest : List Char} {token : Token}, Begins c →
      readToken c (tail ++ rest) = .ok (token, rest) → TakenAsToken (c :: tail) rest :=
    fun hc h => ⟨_, _, _, rfl, hc, h⟩
  refine hplain ['q', 'u', 'e', 'r', 'y'] (htaken ⟨by decide, by decide⟩ rfl) ?_
  refine @Respaced.token [' '] ['\t'] ['Q'] _ _ hblank (.instead (by decide) htab (by decide))
    (htaken ⟨by decide, by decide⟩ rfl) ?_
  refine @Respaced.token [] _ ['\x7b'] _ _ .nil (.around hcomment [] .nil)
    (htaken ⟨by decide, by decide⟩ rfl) ?_
  refine hplain ['a'] (htaken ⟨by decide, by decide⟩ rfl) ?_
  refine hplain ['('] (htaken ⟨by decide, by decide⟩ rfl) ?_
  refine hplain ['x'] (htaken ⟨by decide, by decide⟩ rfl) ?_
  refine hplain [':'] (htaken ⟨by decide, by decide⟩ rfl) ?_
  refine hplain ['-', '1'] (htaken ⟨by decide, by decide⟩ rfl) ?_
  refine @Respaced.token [' '] [','] ['y'] _ _ hblank (.instead (by decide) hcomma (by decide))
    (htaken ⟨by decide, by decide⟩ rfl) ?_
  exact .rest .nil _

theorem queryIds_looseText :
    Document.parse (.ofList tightText) = .ok ⟨[.operation tightQuery]⟩ ∧
    Respaced (String.ofList tightText).toList (String.ofList looseText).toList ∧
    ∃ again, Document.parse (.ofList looseText) = .ok again ∧
      queryIds (.ready .server) [again] = queryIds (.ready .server) [⟨[.operation tightQuery]⟩] := by
  have hrespaced : Respaced (String.ofList tightText).toList (String.ofList looseText).toList := by
    rw [String.toList_ofList, String.toList_ofList]
    exact respaced_looseText
  obtain ⟨again, hparse, hsame⟩ := queryIds_eq_of_respaced parse_tightText hrespaced
  exact ⟨parse_tightText, hrespaced, again, hparse, hsame _ [] []⟩

end Loosened

end QueryRegistry
