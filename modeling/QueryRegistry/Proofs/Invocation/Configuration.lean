import QueryRegistry.Configuration
import QueryRegistry.Proofs.Text.Stream

/-! What a configuration file says. Its bytes are a text in UTF-8, with line ends of any kind; the text
holds a value, and if that is a mapping with the key `output`, the file names the setting under that
key. Whatever keeps a file from this is told by an error of its own kind. -/

namespace QueryRegistry

namespace Yaml

/-- What a text holds under the key for the mode: the setting of the first such member if it holds a
mapping that has one, and else nothing. -/
inductive Loaded.Output (loaded : Loaded) : Setting → Prop
  | named {id : NodeId} {before behind : HeldPairs} {own : Option NodeId} {value : Held}
      (collection : loaded.value = .collection id)
      (mapping : loaded.filled.lookup id =
        some (.mapping (before ++ (.single (.text "output") own, value) :: behind)))
      (first : ∀ member ∈ before, ∀ own, member.1 ≠ .single (.text "output") own) :
      Output loaded (loaded.setting value)
  | missing (none : ∀ id members, loaded.value = .collection id →
        loaded.filled.lookup id = some (.mapping members) →
        ∀ member ∈ members, ∀ own, member.1 ≠ .single (.text "output") own) :
      Output loaded .null

theorem same_text_iff {held : Held} {text : String} :
    held.same (.single (.text text) none) = true ↔ ∃ own, held = .single (.text text) own := by
  cases held with
  | collection id => simp [Held.same]
  | single setting own =>
    cases setting <;> simp [Held.same, Setting.sameKey, Setting.int?]

section Members

variable {members : HeldPairs} {key : String}

theorem find?_same_text_eq_some_iff {member : Held × Held} :
    members.find? (fun m => m.1.same (.single (.text key) none)) = some member ↔
      (∃ own, member.1 = .single (.text key) own) ∧ ∃ before behind,
        members = before ++ member :: behind ∧ ∀ m ∈ before, ∀ own, m.1 ≠ .single (.text key) own := by
  simp only [List.find?_eq_some_iff_append, same_text_iff, Bool.not_eq_true', ← Bool.not_eq_true,
    not_exists]

theorem find?_same_text_eq_none_iff :
    members.find? (fun m => m.1.same (.single (.text key) none)) = none ↔
      ∀ m ∈ members, ∀ own, m.1 ≠ .single (.text key) own := by
  simp only [List.find?_eq_none, same_text_iff, not_exists]

end Members

theorem Loaded.Output.eq {loaded : Loaded} {setting : Setting} (h : loaded.Output setting) :
    setting = (loaded.member? "output").getD .null := by
  unfold Loaded.member?
  cases h with
  | @named id before behind own value collection mapping first =>
    have hfind : (before ++ (Held.single (.text "output") own, value) :: behind).find?
        (fun m => m.1.same (.single (.text "output") none)) =
          some (.single (.text "output") own, value) :=
      find?_same_text_eq_some_iff.mpr ⟨⟨own, rfl⟩, before, behind, rfl, first⟩
    simp only [collection, mapping, hfind]
    rfl
  | missing none =>
    split
    · rfl
    next id collection =>
      split
      next members mapping =>
        rw [find?_same_text_eq_none_iff.mpr (none id members collection mapping)]
        rfl
      · rfl

theorem Loaded.output (loaded : Loaded) : loaded.Output ((loaded.member? "output").getD .null) := by
  unfold Loaded.member?
  split
  next setting own single => exact .missing fun id members collection => by simp [single] at collection
  next id collection =>
    split
    next members mapping =>
      cases hfind : members.find? fun m => m.1.same (.single (.text "output") none) with
      | none =>
        refine .missing fun id' members' collection' mapping' => ?_
        obtain rfl : id = id' := Held.collection.inj (collection.symm.trans collection')
        obtain rfl : members = members' :=
          Collection.mapping.inj (Option.some.inj (mapping.symm.trans mapping'))
        exact find?_same_text_eq_none_iff.mp hfind
      | some member =>
        obtain ⟨⟨own, hkey⟩, before, behind, rfl, first⟩ := find?_same_text_eq_some_iff.mp hfind
        obtain ⟨key, value⟩ := member
        obtain rfl : key = .single (.text "output") own := hkey
        exact .named collection mapping first
    next other =>
      refine .missing fun id' members collection' mapping => absurd mapping ?_
      obtain rfl : id = id' := Held.collection.inj (collection.symm.trans collection')
      exact other members

end Yaml

def Overlong (setting : Setting) : Prop := ∃ n ∈ setting.ints, tenTo mostDigits ≤ n.natAbs

/-- The file with the given bytes names the setting. -/
def Configures (bytes : List UInt8) (setting : Setting) : Prop :=
  ∃ chars loaded, Utf8.decode bytes = .ok chars ∧ Yaml.load (unifyLineEnds chars) = .ok loaded ∧
    loaded.Output setting ∧ ¬ Overlong setting

/-- A fault is reported, and a breakdown stays what it is. -/
inductive Tells : Yaml.Stop → ConfigurationError → Prop
  | fault (fault : Yaml.Fault) : Tells (.fault fault) (.malformed fault)
  | breakdown (breakdown : Yaml.Breakdown) : Tells (.breakdown breakdown) (.breakdown breakdown)

/-- Why the file with the given bytes names no setting. If they cannot be decoded, what had been handed on
of the text may be refused before the fault is come to. -/
inductive Unconfigured (bytes : List UInt8) : ConfigurationError → Prop
  | undecodable {fault : Utf8.Fault} {stop : StreamFault} (decoded : Utf8.decode bytes = .error fault)
      (read : Stream.read bytes = .error stop)
      (pending : stop.before.length < Stream.firstParts ∨ ∀ other,
        Yaml.compose (Yaml.tokens stop.before false) = .error other → other = .fault .cutOff) :
      Unconfigured bytes (.undecodable stop.fault)
  | refused {fault : Utf8.Fault} {stop : StreamFault} {other : Yaml.Stop} {error : ConfigurationError}
      (decoded : Utf8.decode bytes = .error fault) (read : Stream.read bytes = .error stop)
      (long : Stream.firstParts ≤ stop.before.length)
      (composed : Yaml.compose (Yaml.tokens stop.before false) = .error other)
      (known : other ≠ .fault .cutOff) (told : Tells other error) : Unconfigured bytes error
  | malformed {chars : List Char} {stop : Yaml.Stop} {error : ConfigurationError}
      (decoded : Utf8.decode bytes = .ok chars)
      (loaded : Yaml.load (unifyLineEnds chars) = .error stop) (told : Tells stop error) :
      Unconfigured bytes error
  | overlong {chars : List Char} {loaded : Yaml.Loaded} {setting : Setting}
      (decoded : Utf8.decode bytes = .ok chars)
      (holds : Yaml.load (unifyLineEnds chars) = .ok loaded) (output : loaded.Output setting)
      (long : Overlong setting) : Unconfigured bytes (.breakdown .longSetting)

theorem overlong_iff {setting : Setting} : Overlong setting ↔ setting.canBeShown = false := by
  simp only [Setting.canBeShown, List.all_eq_false, decide_eq_true_eq, Nat.not_lt, Overlong]

theorem tells_iff {stop : Yaml.Stop} {error : ConfigurationError} :
    Tells stop error ↔ error = .ofStop stop := by
  constructor
  · rintro (fault | breakdown) <;> rfl
  · rintro rfl
    cases stop with
    | fault fault => exact .fault fault
    | breakdown breakdown => exact .breakdown breakdown

section Reading

variable {bytes : List UInt8}

theorem readConfiguration_of_decode {chars : List Char} (h : Utf8.decode bytes = .ok chars) :
    readConfiguration bytes =
      ((Yaml.load (unifyLineEnds chars)).mapError .ofStop).bind fun loaded =>
        if ((loaded.member? "output").getD .null).canBeShown then
          .ok (.setting ((loaded.member? "output").getD .null))
        else .error (.breakdown .longSetting) := by
  have hread : Stream.read bytes = .ok (unifyLineEnds chars) :=
    Stream.read_eq_ok_iff.mpr ⟨chars, h, rfl⟩
  rw [readConfiguration, hread]
  cases hload : Yaml.load (unifyLineEnds chars) with
  | error stop => simp only [hload, Except.mapError, bind, Except.bind]
  | ok loaded =>
    simp only [hload, Except.mapError, bind, Except.bind]
    cases ((loaded.member? "output").getD .null).canBeShown <;> rfl

theorem readConfiguration_of_read_error {stop : StreamFault} (h : Stream.read bytes = .error stop) :
    readConfiguration bytes = .error (.ofStream stop) := by
  rw [readConfiguration, h]
  rfl

theorem Configures.readConfiguration_eq {setting : Setting} (h : Configures bytes setting) :
    readConfiguration bytes = .ok (.setting setting) := by
  obtain ⟨chars, loaded, hdecode, hload, houtput, hshown⟩ := h
  rw [overlong_iff, Bool.not_eq_false, houtput.eq] at hshown
  rw [readConfiguration_of_decode hdecode, hload, houtput.eq]
  exact if_pos hshown

theorem Unconfigured.readConfiguration_eq {error : ConfigurationError} (h : Unconfigured bytes error) :
    readConfiguration bytes = .error error := by
  cases h with
  | undecodable decoded read pending =>
    rw [readConfiguration_of_read_error read, ConfigurationError.ofStream]
    split
    · rfl
    next long =>
      have hpending := pending.resolve_left long
      split
      · rfl
      next other hknown hcompose => exact absurd (hpending _ hcompose) hknown
      · rfl
  | refused decoded read long composed known told =>
    rw [readConfiguration_of_read_error read, ConfigurationError.ofStream, if_neg (Nat.not_lt.mpr long),
      composed, tells_iff.mp told]
    split
    next he => exact absurd (Except.error.inj he) known
    next he => rw [Except.error.inj he]
    next he => simp at he
  | malformed decoded loaded told =>
    rw [readConfiguration_of_decode decoded, loaded, tells_iff.mp told]
    rfl
  | overlong decoded holds output long =>
    rw [overlong_iff, output.eq] at long
    rw [readConfiguration_of_decode decoded, holds]
    exact if_neg (by simp [long])

end Reading

end QueryRegistry
